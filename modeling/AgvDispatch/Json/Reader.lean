import AgvDispatch.Decimal.Reading
import AgvDispatch.Json.Basic
import AgvDispatch.Text.Surrogate
/-!
# Reading JSON

The reader of JSON text. An integer that does not fit into 64 bits is read as a real number. A
number too large for double precision, a lone half of a surrogate pair and an unescaped control
character are refused.
-/

namespace AgvDispatch.Json

/-- A text without the blanks at its beginning. -/
def skipBlanks (cs : List Char) : List Char :=
  cs.dropWhile fun c => c == ' ' || c == '\t' || c == '\n' || c == '\r'

/-- The rest of a text that begins with a word. -/
def skipWord? (word : String) (cs : List Char) : Option (List Char) :=
  if word.toList.isPrefixOf cs then some (cs.drop word.length) else none

/-! ### Numbers -/

/-- Whether a character may occur in a number. -/
def isNumeric (c : Char) : Bool :=
  c.isDigit || c == '-' || c == '+' || c == '.' || c == 'e' || c == 'E'

/-- Whether digits may be the whole part of a number: there is one, and no needless zero. -/
def isWholePart (digits : List Char) : Bool :=
  match digits with
  | [] => false
  | '0' :: rest => rest.isEmpty
  | _ => true

/-- A real number, unless it is infinite. -/
def finite? (x : Float) : Option Json := if x.isFinite then some (real x) else none

/-- The integer with the given sign and digits. What does not fit into 64 bits, and the negative
zero, is a real number. -/
def ofWholePart? (negative : Bool) (digits : List Char) : Option Json :=
  let n := (Text.readDigits 0 digits).getD 0
  if negative then
    if n = 0 || Nat.pow 2 63 < n then finite? (-(Decimal.toDouble n 0))
    else some (integer (-(n : Int)))
  else if Nat.pow 2 64 ≤ n then finite? (Decimal.toDouble n 0)
  else some (integer n)

/-- The number that a text consists of. -/
def readNumber? (cs : List Char) : Option Json :=
  let (negative, cs) := match cs with
    | '-' :: cs => (true, cs)
    | _ => (false, cs)
  let (whole, rest) := Decimal.takeDigits cs
  if !isWholePart whole then none
  else
    match rest with
    | [] => ofWholePart? negative whole
    | '.' :: rest =>
      let (fraction, _) := Decimal.takeDigits rest
      if fraction.isEmpty then none else real? negative cs
    | _ => real? negative cs
where
  /-- The real number that a text consists of. -/
  real? (negative : Bool) (cs : List Char) : Option Json :=
    (Decimal.readUnsigned? cs).bind fun x => finite? (Decimal.signed negative x)

/-! ### Texts -/

/-- The character that a letter after a backslash stands for. -/
def escaped? : Char → Option Char
  | '"' => some '"'
  | '\\' => some '\\'
  | '/' => some '/'
  | 'b' => some '\x08'
  | 'f' => some '\x0c'
  | 'n' => some '\n'
  | 'r' => some '\r'
  | 't' => some '\t'
  | _ => none

/-- Reads a text after its opening quote. The characters so far are in reverse order. -/
def readText? : List Char → List Char → Option (String × List Char)
  | sofar, '\\' :: 'u' :: a :: b :: c :: d :: '\\' :: 'u' :: a' :: b' :: c' :: d' :: rest =>
    match Text.hexValue4? a b c d, Text.hexValue4? a' b' c' d' with
    | some high, some low =>
      if Text.isHighHalf high then
        if Text.isLowHalf low then readText? (Text.ofHalves high low :: sofar) rest else none
      else if Text.isLowHalf high then none
      else readText? (Char.ofNat high :: sofar) ('\\' :: 'u' :: a' :: b' :: c' :: d' :: rest)
    | _, _ => none
  | sofar, '\\' :: 'u' :: a :: b :: c :: d :: rest =>
    match Text.hexValue4? a b c d with
    | some code =>
      if Text.isHighHalf code || Text.isLowHalf code then none
      else readText? (Char.ofNat code :: sofar) rest
    | none => none
  | sofar, '\\' :: c :: rest =>
    match escaped? c with
    | some c => readText? (c :: sofar) rest
    | none => none
  | sofar, '"' :: rest => some (String.ofList sofar.reverse, rest)
  | sofar, c :: rest => if c.toNat < 0x20 then none else readText? (c :: sofar) rest
  | _, [] => none

/-! ### Values -/

/-- How deep lists and records are nested at most. -/
def greatestDepth : Nat := 127

mutual

/-- Reads a value at the beginning of a text, which has lists and records at most `depth` deep.
`fuel` bounds the number of calls on the way to any part of it. -/
def readValue? : Nat → Nat → List Char → Option (Json × List Char)
  | 0, _, _ => none
  | fuel + 1, depth, cs =>
    match skipBlanks cs, depth with
    | [], _ | '[' :: _, 0 | '\x7b' :: _, 0 => none
    | '"' :: rest, _ => (readText? [] rest).map fun (s, rest) => (text s, rest)
    | '[' :: rest, depth + 1 =>
      match skipBlanks rest with
      | ']' :: rest => some (list [], rest)
      | rest => (readItems? fuel depth rest).map fun (items, rest) => (list items, rest)
    | '\x7b' :: rest, depth + 1 =>
      match skipBlanks rest with
      | '\x7d' :: rest => some (record [], rest)
      | rest => (readFields? fuel depth rest).map fun (fields, rest) => (record fields, rest)
    | 'n' :: rest, _ => (skipWord? "ull" rest).map fun rest => (null, rest)
    | 't' :: rest, _ => (skipWord? "rue" rest).map fun rest => (bool true, rest)
    | 'f' :: rest, _ => (skipWord? "alse" rest).map fun rest => (bool false, rest)
    | rest, _ => (readNumber? (rest.takeWhile isNumeric)).map fun n => (n, rest.dropWhile isNumeric)

/-- Reads the items of a list up to its closing bracket. -/
def readItems? : Nat → Nat → List Char → Option (List Json × List Char)
  | 0, _, _ => none
  | fuel + 1, depth, cs =>
    match readValue? fuel depth cs with
    | none => none
    | some (item, rest) =>
      match skipBlanks rest with
      | ']' :: rest => some ([item], rest)
      | ',' :: rest => (readItems? fuel depth rest).map fun (items, rest) => (item :: items, rest)
      | _ => none

/-- Reads the fields of a record up to its closing brace. -/
def readFields? : Nat → Nat → List Char → Option (List (String × Json) × List Char)
  | 0, _, _ => none
  | fuel + 1, depth, cs =>
    match skipBlanks cs with
    | '"' :: rest =>
      match readText? [] rest with
      | none => none
      | some (name, rest) =>
        match skipBlanks rest with
        | ':' :: rest =>
          match readValue? fuel depth rest with
          | none => none
          | some (value, rest) =>
            match skipBlanks rest with
            | '\x7d' :: rest => some ([(name, value)], rest)
            | ',' :: rest => do
              let (fields, rest) ← readFields? fuel depth rest
              some ((name, value) :: fields, rest)
            | _ => none
        | _ => none
    | _ => none

end

/-- The value that a text consists of. -/
def parse? (s : String) : Option Json :=
  let cs := s.toList
  match readValue? (cs.length + 1) greatestDepth cs with
  | some (value, rest) => if (skipBlanks rest).isEmpty then some value else none
  | none => none

end AgvDispatch.Json
