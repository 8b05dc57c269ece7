import AgvDispatch.Decimal.Reading
import AgvDispatch.Text.Digit
import AgvDispatch.Toml.Basic
/-!
# Numbers in TOML

Integers are decimal, hexadecimal, octal or binary and fit into 64 bits. A number with a point or an
exponent is real; it has digits on both sides of its point. Single low lines may stand between
digits, and a decimal has no needless zero in front.
-/

namespace AgvDispatch.Toml

open Text (digitIn? ofDigits)

/-- The digits of a number, of which every low line stands between two. -/
def digits? (base : Nat) : List Char → Option (List Nat)
  | [] => none
  | [c] => (digitIn? base c).map fun value => [value]
  | c :: '_' :: rest => do return (← digitIn? base c) :: (← digits? base rest)
  | c :: rest => do return (← digitIn? base c) :: (← digits? base rest)

/-- Whether decimal digits have a needless zero in front. -/
def hasNeedlessZero : List Nat → Bool
  | 0 :: _ :: _ => true
  | _ => false

/-- An integer, provided that it fits into 64 bits. -/
def integer? (n : Int) : Option Toml :=
  if -9223372036854775808 ≤ n ∧ n ≤ 9223372036854775807 then some (integer n) else none

/-- The value of an exponent, after the letter that introduces it. -/
def exponent? : List Char → Option Int
  | '-' :: cs => (digits? 10 cs).map fun digits => -(ofDigits 10 digits : Int)
  | '+' :: cs => (digits? 10 cs).map fun digits => ofDigits 10 digits
  | cs => (digits? 10 cs).map fun digits => ofDigits 10 digits

/-- A real number with a sign, unless it is too large. -/
def real? (negative : Bool) (whole fraction : List Nat) (exponent : Int) : Option Toml :=
  let size := Decimal.toDouble (ofDigits 10 (whole ++ fraction)) (exponent - fraction.length)
  let x := Decimal.signed negative size
  if x == 1.0 / 0.0 then none else some (real x)

/-- Whether a character may occur in a run of decimal digits. -/
def isDecimal (c : Char) : Bool := c.isDigit || c == '_'

/-- Whether a character introduces an exponent. -/
def isExponentMark (c : Char) : Bool := c == 'e' || c == 'E'

/-- The decimal number that a text consists of, after its sign. -/
def decimal? (negative : Bool) (cs : List Char) : Option Toml := do
  let whole ← digits? 10 (cs.takeWhile isDecimal)
  if hasNeedlessZero whole then none
  else
    match cs.dropWhile isDecimal with
    | [] =>
      let n : Int := ofDigits 10 whole
      integer? (if negative then -n else n)
    | '.' :: rest =>
      let fraction ← digits? 10 (rest.takeWhile isDecimal)
      match rest.dropWhile isDecimal with
      | [] => real? negative whole fraction 0
      | c :: rest =>
        if isExponentMark c then real? negative whole fraction (← exponent? rest) else none
    | c :: rest => if isExponentMark c then real? negative whole [] (← exponent? rest) else none

/-- The number of the given sign, or one of the two names. -/
def signed? (negative : Bool) (cs : List Char) : Option Toml :=
  match cs with
  | ['i', 'n', 'f'] => some (real (Decimal.signed negative (1.0 / 0.0)))
  | ['n', 'a', 'n'] => some (real (Decimal.signed negative (0.0 / 0.0)))
  | _ => decimal? negative cs

/-- The number that a text consists of. -/
def number? : List Char → Option Toml
  | '0' :: 'x' :: cs => (digits? 16 cs).bind fun digits => integer? (ofDigits 16 digits)
  | '0' :: 'o' :: cs => (digits? 8 cs).bind fun digits => integer? (ofDigits 8 digits)
  | '0' :: 'b' :: cs => (digits? 2 cs).bind fun digits => integer? (ofDigits 2 digits)
  | '-' :: cs => signed? true cs
  | '+' :: cs => signed? false cs
  | cs => signed? false cs

end AgvDispatch.Toml
