import AgvDispatch.Text.Integer
/-!
# Reading decimals

The closest double precision number to a decimal, and the reading of decimals from text: with an
optional sign, digits on at least one side of the point, and an optional exponent, or one of the
names of infinity and of the number that is none.
-/

namespace AgvDispatch.Decimal

/-- The closest number to `mantissa * 10 ^ exponent`. Decimals far outside the range of double
precision are decided by their magnitude alone. -/
def toDouble (mantissa : Nat) (exponent : Int) : Float :=
  let magnitude := exponent + (Nat.toDigits 10 mantissa).length
  if mantissa = 0 || decide (magnitude < -400) then 0.0
  else if 400 < magnitude then 1.0 / 0.0
  else Float.ofScientific mantissa (decide (exponent < 0)) exponent.natAbs

/-- A number with the sign changed if asked for. -/
def signed (negative : Bool) (x : Float) : Float :=
  if negative then -x else x

/-- The digits at the beginning of a text, and the rest. -/
def takeDigits (cs : List Char) : List Char × List Char :=
  (cs.takeWhile Char.isDigit, cs.dropWhile Char.isDigit)

/-- The exponent that a text consists of, after the letter that introduces it. -/
def readExponent? (cs : List Char) : Option Int :=
  Text.readInt? cs

/-- The number whose digits before and behind the point are given. -/
def ofParts (whole fraction : List Char) (exponent : Int) : Float :=
  let mantissa := (Text.readDigits 0 (whole ++ fraction)).getD 0
  toDouble mantissa (exponent - fraction.length)

/-- The value of an unsigned decimal. -/
def readUnsigned? (cs : List Char) : Option Float :=
  let (whole, rest) := takeDigits cs
  let (fraction, rest) := match rest with
    | '.' :: rest => takeDigits rest
    | _ => ([], rest)
  if whole.isEmpty && fraction.isEmpty then none
  else
    match rest with
    | [] => some (ofParts whole fraction 0)
    | c :: rest =>
      if c = 'e' ∨ c = 'E' then (readExponent? rest).map (ofParts whole fraction)
      else none

/-- The value of a name, in any case: of infinity, or of the number that is none. -/
def readName? (cs : List Char) : Option Float :=
  match String.ofList (cs.map Char.toLower) with
  | "inf" | "infinity" => some (1.0 / 0.0)
  | "nan" => some (0.0 / 0.0)
  | _ => none

/-- The value of a decimal or a name with an optional sign. -/
def readReal? (cs : List Char) : Option Float :=
  let (negative, cs) := match cs with
    | '-' :: cs => (true, cs)
    | '+' :: cs => (false, cs)
    | _ => (false, cs)
  ((readName? cs).or (readUnsigned? cs)).map (signed negative)

end AgvDispatch.Decimal
