import AgvDispatch.Decimal.Reading
import AgvDispatch.Settings.Tree
import AgvDispatch.Text.Digit
/-!
# Numbers in JSON5

A number may begin with a plus sign, and begin or end with its point. Without a point and an
exponent it is an integer of 64 bits. A hexadecimal number has no sign and fits into 32 bits. Two
more numbers have names, before which there may be a minus sign.
-/

namespace AgvDispatch.Json5

open Setting (integer real)

/-- The number of characters that a text begins with and that are digits. -/
def digitCount (cs : List Char) : Nat := (cs.takeWhile Char.isDigit).length

/-- The length of the exponent that a text begins with, which is zero if there is none. -/
def exponentLength (cs : List Char) : Nat :=
  match cs with
  | c :: rest =>
    let sign := match rest with
      | '+' :: _ | '-' :: _ => 1
      | _ => 0
    let digits := digitCount (rest.drop sign)
    if (c == 'e' || c == 'E') && digits != 0 then 1 + sign + digits else 0
  | [] => 0

/-- The length of the decimal that a text begins with. Its whole part has no needless zero. -/
def decimalLength? (cs : List Char) : Option Nat :=
  let whole := match cs with
    | '0' :: _ => 1
    | _ => digitCount cs
  let fraction := match cs.drop whole with
    | '.' :: rest => 1 + digitCount rest
    | _ => 0
  if whole = 0 && fraction ≤ 1 then none
  else
    let size := whole + fraction
    some (size + exponentLength (cs.drop size))

/-- The number that a decimal with its sign stands for. -/
def ofDecimal? (cs : List Char) : Option Setting :=
  if cs.any fun c => c == '.' || c == 'e' || c == 'E' then
    ((Decimal.readReal? cs).filter Float.isFinite).map real
  else (Text.readInt64? cs).map integer

/-- The hexadecimal number at the beginning of a text, after its mark. -/
def hexadecimal? (cs : List Char) : Option (Setting × List Char) := do
  let digits := cs.takeWhile fun c => (Text.digitIn? 16 c).isSome
  let n := Text.ofDigits 16 (← digits.mapM (Text.digitIn? 16))
  if digits.isEmpty ∨ 4294967296 ≤ n then none else some (integer n, cs.drop digits.length)

/-- The rest of a text that begins with a word. -/
def afterWord? (word : String) (cs : List Char) : Option (List Char) :=
  if word.toList.isPrefixOf cs then some (cs.drop word.length) else none

/-- The number without a name at the beginning of a text, after a sign or without one. -/
def unnamed? (sign cs : List Char) : Option (Setting × List Char) :=
  match sign, cs with
  | [], '0' :: 'x' :: rest | [], '0' :: 'X' :: rest => hexadecimal? rest
  | _, _ => do
    let size ← decimalLength? cs
    return (← ofDecimal? (sign ++ cs.take size), cs.drop size)

/-- The number at the beginning of a text. -/
def number? (cs : List Char) : Option (Setting × List Char) :=
  match cs with
  | '+' :: rest => unnamed? ['+'] rest
  | _ =>
    let (sign, rest) := match cs with
      | '-' :: rest => (['-'], rest)
      | _ => ([], cs)
    let named? (word : String) (x : Float) := (afterWord? word rest).map fun after =>
      (real (Decimal.signed (!sign.isEmpty) x), after)
    ((named? "Infinity" (1.0 / 0.0)).or (named? "NaN" (0.0 / 0.0))).or (unnamed? sign rest)

end AgvDispatch.Json5
