/-!
# Integers in decimal notation

The reading of integers that are written with an optional sign and decimal digits, and nothing
else.
-/

namespace AgvDispatch.Text

/-- The value of a decimal digit. -/
def digitValue? (c : Char) : Option Nat :=
  if c.isDigit then some (c.toNat - '0'.toNat) else none

/-- The value of a list of decimal digits that continues a number. -/
def readDigits : Nat → List Char → Option Nat
  | value, [] => some value
  | value, c :: cs =>
    match digitValue? c with
    | none => none
    | some d => readDigits (10 * value + d) cs

/-- The value of a text that consists of one or more decimal digits. -/
def readNat? : List Char → Option Nat
  | [] => none
  | cs => readDigits 0 cs

/-- The value of a text that consists of an optional sign and one or more decimal digits. -/
def readInt? : List Char → Option Int
  | '-' :: cs => (readNat? cs).map fun n => -(n : Int)
  | '+' :: cs => (readNat? cs).map Int.ofNat
  | cs => (readNat? cs).map Int.ofNat

/-- The value of an integer within bounds. -/
def readIntWithin? (low high : Int) (cs : List Char) : Option Int :=
  (readInt? cs).filter fun n => decide (low ≤ n) && decide (n ≤ high)

/-- The value of a signed integer of 64 bits. -/
def readInt64? (cs : List Char) : Option Int :=
  readIntWithin? (-9223372036854775808) 9223372036854775807 cs

/-- The value of an unsigned integer of 64 bits, which has no minus sign. -/
def readNat64? : List Char → Option Nat
  | '-' :: _ => none
  | cs => (readIntWithin? 0 18446744073709551615 cs).map Int.toNat

/-- The value of a signed integer of 32 bits. -/
def readInt32? (cs : List Char) : Option Int :=
  readIntWithin? (-2147483648) 2147483647 cs

end AgvDispatch.Text
