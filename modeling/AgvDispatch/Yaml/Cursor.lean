/-!
# Places in a document

Reading YAML depends on the place that has been reached: how far to the right it is, and whether the
line has begun with blanks only. A **cursor** is such a place together with the rest of the
document, whose lines end with line feeds.

* `Cursor.advance` and `Cursor.take` move on within a line, `Cursor.nextLine` to the next one.
* `Cursor.skipToLineEnd?` skips blanks and a comment.
-/

namespace AgvDispatch.Yaml

/-! ### Characters -/

/-- Whether a character is a blank within a line. -/
def isBlank (c : Char) : Bool := c == ' ' || c == '\t'

/-- Whether a character is a blank or ends a line. -/
def isGap (c : Char) : Bool := isBlank c || c == '\n'

/-- Whether a character holds lists and tables in brackets and braces together. -/
def isFlowMark (c : Char) : Bool :=
  c == ',' || c == '[' || c == ']' || c == '\x7b' || c == '\x7d'

/-- Whether a character may occur in a word. -/
def isWordPart (c : Char) : Bool := c.isAlphanum || c == '_' || c == '-'

/-- Whether what comes before a text stands apart from it. -/
def standsApart : List Char → Bool
  | [] => true
  | c :: _ => isGap c

/-! ### Cursors -/

/-- A place in a document. -/
structure Cursor where
  /-- What follows. -/
  rest : List Char
  /-- How many characters come before. -/
  index : Nat
  /-- How many lines come before. -/
  line : Nat
  /-- How many characters of the line come before. -/
  column : Nat
  /-- Whether all of these are blanks. -/
  atLineStart : Bool
  deriving Repr

namespace Cursor

/-- The beginning of a document. -/
def ofText (cs : List Char) : Cursor := ⟨cs, 0, 0, 0, true⟩

/-- The place after so many blanks. -/
def advance (n : Nat) (c : Cursor) : Cursor :=
  { c with rest := c.rest.drop n, index := c.index + n, column := c.column + n }

/-- The place after so many characters of a line, which are not all blanks. -/
def take (n : Nat) (c : Cursor) : Cursor :=
  { c.advance n with atLineStart := false }

/-- The beginning of the next line, from the end of a line. -/
def nextLine (c : Cursor) : Cursor := ⟨c.rest.drop 1, c.index + 1, c.line + 1, 0, true⟩

/-- Whether the line ends here. -/
def endsLine (c : Cursor) : Bool :=
  match c.rest with
  | [] => true
  | ch :: _ => ch == '\n'

/-- Whether a line begins here with a mark that stands apart from what follows. -/
def isAtMark (mark : String) (c : Cursor) : Bool :=
  c.column == 0 && mark.toList.isPrefixOf c.rest && standsApart (c.rest.drop mark.length)

/-- Whether a document begins or ends here. -/
def isAtDocumentMark (c : Cursor) : Bool := c.isAtMark "---" || c.isAtMark "..."

/-- The place at the end of the line. -/
def lineEnd (c : Cursor) : Cursor := c.take (c.rest.takeWhile (· != '\n')).length

/-- The blanks that follow. -/
def blanks (c : Cursor) : List Char := c.rest.takeWhile isBlank

/-- The place after the blanks and the comment that follow. A comment stands apart from what comes
before it. -/
def skipToLineEnd? (c : Cursor) : Option Cursor :=
  let after := c.advance c.blanks.length
  match after.rest with
  | '#' :: _ => if c.blanks.isEmpty then none else some after.lineEnd
  | _ => some after

end Cursor

/-! ### Line ends -/

/-- What so many line ends in a row stand for: a space, or all but the first of them. -/
def foldedBreaks : Nat → List Char
  | 1 => [' ']
  | n => List.replicate (n - 1) '\n'

/-- A text in which every line ends with a line feed, up to the first character zero. -/
def unified : List Char → List Char
  | '\r' :: '\n' :: cs => '\n' :: unified cs
  | '\r' :: cs => '\n' :: unified cs
  | '\x00' :: _ => []
  | c :: cs => c :: unified cs
  | [] => []

end AgvDispatch.Yaml
