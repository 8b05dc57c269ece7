import AgvDispatch.Decimal.Reading
import AgvDispatch.Settings.Tree
import AgvDispatch.Text.Digit
/-!
# Words and numbers in RON

An integer may be written in one of four bases, and low lines may stand behind its first digit. What
looks like an integer and is none, or is too large for 64 bits, is read again as a number with a
point or an exponent, which has no low lines.
-/

namespace AgvDispatch.Ron

open Setting (integer real)

/-! ### Words -/

/-- Whether a character may occur in a name. -/
def isNamePart (c : Char) : Bool := c.isAlphanum || c == '_'

/-- The rest of a text that begins with a word, which must end there. -/
def afterWord? (word : String) (cs : List Char) : Option (List Char) :=
  let rest := cs.drop word.length
  if word.toList.isPrefixOf cs && !rest.head?.any isNamePart then some rest else none

/-! ### Numbers -/

/-- Whether a character may occur in a number with a point or an exponent. -/
def isRealPart (c : Char) : Bool :=
  c.isDigit || c == 'e' || c == 'E' || c == '.' || c == '+' || c == '-' || c == '_'

/-- Whether a character may occur in an integer behind the mark of its base. -/
def isIntegerPart (c : Char) : Bool := (Text.digitIn? 16 c).isSome || c == '_'

/-- A text without the sign at its beginning. -/
def afterSign : List Char → List Char
  | '+' :: cs | '-' :: cs => cs
  | cs => cs

/-- The base of an integer, and what follows its mark. -/
def base : List Char → Nat × List Char
  | '0' :: 'x' :: cs => (16, cs)
  | '0' :: 'b' :: cs => (2, cs)
  | '0' :: 'o' :: cs => (8, cs)
  | cs => (10, cs)

/-- Whether an integer fits into 64 bits, of which the sign takes one if it is written. -/
def fits (signed : Bool) (n : Int) : Bool :=
  if signed then decide (-9223372036854775808 ≤ n) && decide (n ≤ 9223372036854775807)
  else decide (n ≤ 18446744073709551615)

/-- The integer at the beginning of a text, and what follows it. -/
def integer? (cs : List Char) : Option (Int × List Char) := do
  let unsigned := afterSign cs
  let (base, rest) := base unsigned
  let written := rest.takeWhile isIntegerPart
  let digits ← (written.filter (· != '_')).mapM (Text.digitIn? base)
  let n : Int := Text.ofDigits base digits
  let n := if cs.head? == some '-' then -n else n
  let isFit := fits (unsigned.length != cs.length) n
  if written.isEmpty || written.head? == some '_' || !isFit then none
  else some (n, rest.drop written.length)

/-- The names of numbers. -/
def realNames : List String := ["inf", "+inf", "-inf", "NaN", "+NaN", "-NaN"]

/-- The number with a point, an exponent or a name at the beginning of a text, and what follows
it. -/
def real? (cs : List Char) : Option (Float × List Char) :=
  let named? := realNames.findSome? fun name => (afterWord? name cs).map fun rest => (name, rest)
  match named? with
  | some (name, rest) => (Decimal.readReal? name.toList).map fun x => (x, rest)
  | none =>
    let written := cs.takeWhile isRealPart
    if written.contains '_' then none
    else (Decimal.readReal? written).map fun x => (x, cs.drop written.length)

/-- Whether the number at the beginning of a text has a point or an exponent. -/
def looksReal (cs : List Char) : Bool :=
  let cs := afterSign cs
  decide ((cs.takeWhile isIntegerPart).length < (cs.takeWhile isRealPart).length)

/-- The number at the beginning of a text, and what follows it. An integer that needs more than 64
bits with its sign is a real number. -/
def number? (cs : List Char) : Option (Setting × List Char) :=
  match (integer? cs).filter fun _ => !looksReal cs with
  | some (n, rest) =>
    some (if n ≤ 9223372036854775807 then integer n else real (Float.ofInt n), rest)
  | none => (real? cs).map fun (x, rest) => (real x, rest)

end AgvDispatch.Ron
