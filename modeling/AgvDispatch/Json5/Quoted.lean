import AgvDispatch.Text.Letter
import AgvDispatch.Text.NameMark
import AgvDispatch.Text.Surrogate
/-!
# Texts and names in JSON5

A text stands in single or double quotes. A name of a field may do without: it then begins with a
letter of any script, a dollar sign or a low line. In both, a backslash may name a character by its
number, in two halves if need be.
-/

namespace AgvDispatch.Json5

/-! ### Characters by number -/

/-- The characters so far, in reverse order, and the first half of a pair whose second half must
come next. -/
structure Spelling where
  /-- The characters. -/
  sofar : List Char
  /-- The half, if there is one. -/
  high : Option Nat

/-- The character of two halves. Its number has the bits of both side by side, and above them the
bit that takes it out of the basic plane. -/
def joined (high low : Nat) : Char :=
  Char.ofNat ((0x400 * (high - 0xD800) + (low - 0xDC00)) ||| 0x10000)

/-- A spelling after a character that is named by its number. -/
def Spelling.add? (s : Spelling) (code : Nat) : Option Spelling :=
  match s.high with
  | some high =>
    if Text.isLowHalf code then some ⟨joined high code :: s.sofar, none⟩ else none
  | none =>
    if Text.isHighHalf code then some { s with high := some code }
    else if Text.isLowHalf code then none
    else some ⟨Char.ofNat code :: s.sofar, none⟩

/-- A spelling after a character. -/
def Spelling.push? (s : Spelling) (c : Char) : Option Spelling :=
  match s.high with
  | some _ => none
  | none => some ⟨c :: s.sofar, none⟩

/-- The text that has been spelled. -/
def Spelling.text? (s : Spelling) : Option String :=
  match s.high with
  | some _ => none
  | none => some (String.ofList s.sofar.reverse)

/-! ### Texts -/

/-- Whether a character ends a line. -/
def isLineEnd (c : Char) : Bool := c == '\n' || c == '\r' || c == '\u2028' || c == '\u2029'

/-- The character that a letter after a backslash stands for. Most stand for themselves. -/
def escaped : Char → Char
  | 'b' => '\x08'
  | 'f' => '\x0c'
  | 'n' => '\n'
  | 'r' => '\r'
  | 't' => '\t'
  | 'v' => '\x0b'
  | '0' => '\x00'
  | c => c

/-- A text up to its closing quote, and what follows it. A backslash before the end of a line hides
both. -/
def text? (quote : Char) : Spelling → List Char → Option (String × List Char)
  | _, [] => none
  | s, '\\' :: 'u' :: a :: b :: c :: d :: rest => do
    text? quote (← s.add? (← Text.hexValue4? a b c d)) rest
  | s, '\\' :: 'x' :: a :: b :: rest => do
    text? quote (← s.push? (← Text.codedChar? [a, b])) rest
  | s, '\\' :: '\r' :: '\n' :: rest => text? quote s rest
  | s, '\\' :: c :: rest =>
    if isLineEnd c then text? quote s rest
    else if c == 'x' || c == 'u' || (c.isDigit && c != '0') then none
    else do text? quote (← s.push? (escaped c)) rest
  | s, c :: rest =>
    if c == quote then s.text?.map fun text => (text, rest)
    else if isLineEnd c then none
    else do text? quote (← s.push? c) rest

/-- The text in quotes at the beginning of a document. -/
def quoted? : List Char → Option (String × List Char)
  | '"' :: rest => text? '"' ⟨[], none⟩ rest
  | '\x27' :: rest => text? '\x27' ⟨[], none⟩ rest
  | _ => none

/-! ### Names -/

/-- Whether a character may begin a name. -/
def isNameStart (c : Char) : Bool := Text.isLetter c || c == '$' || c == '_'

/-- Whether a character may occur in a name. -/
def isNamePart (c : Char) : Bool :=
  isNameStart c || Text.isNameMark c || c == '\u200c' || c == '\u200d'

/-- The rest of a name, and what follows it. -/
def nameFrom? : Spelling → List Char → Option (String × List Char)
  | s, '\\' :: 'u' :: a :: b :: c :: d :: rest => do
    nameFrom? (← s.add? (← Text.hexValue4? a b c d)) rest
  | s, c :: rest =>
    if isNamePart c then do nameFrom? (← s.push? c) rest
    else s.text?.map fun text => (text, c :: rest)
  | s, [] => s.text?.map fun text => (text, [])

/-- The name of a field at the beginning of a document, with or without quotes. -/
def name? (cs : List Char) : Option (String × List Char) :=
  (quoted? cs).or <|
    match cs with
    | '\\' :: 'u' :: _ => nameFrom? ⟨[], none⟩ cs
    | c :: _ => if isNameStart c then nameFrom? ⟨[], none⟩ cs else none
    | [] => none

end AgvDispatch.Json5
