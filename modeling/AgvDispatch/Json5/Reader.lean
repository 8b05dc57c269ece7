import AgvDispatch.Json5.Number
import AgvDispatch.Json5.Quoted
import AgvDispatch.Text.Blank
import AgvDispatch.Text.Gap
/-!
# Reading JSON5

JSON5 is JSON with more freedom: comments, a comma after the last item, names without quotes, single
quotes, and more ways to write a number.
-/

namespace AgvDispatch.Json5

open Setting (nothing boolean text list table)

/-- Whether a character is blank: it is a space of any width, ends a line, or is the mark of the
byte order. -/
def isBlank (c : Char) : Bool := (Text.isBlank c && c != '\u0085') || c == '\uFEFF'

/-- A text without the blanks and comments at its beginning. -/
def skipBlanks? (cs : List Char) : Option (List Char) :=
  Text.skipGap? ⟨isBlank, isLineEnd, false⟩ cs

/-- The word at the beginning of a text, and what follows it. -/
def word? (cs : List Char) : Option (Setting × List Char) :=
  let read? (word : String) (value : Setting) := (afterWord? word cs).map fun rest => (value, rest)
  ((read? "null" nothing).or (read? "true" (boolean true))).or (read? "false" (boolean false))

mutual

/-- The value at the beginning of a text. `fuel` bounds the number of calls on the way to any part
of it. -/
def value? : Nat → List Char → Option (Setting × List Char)
  | 0, _ => none
  | fuel + 1, cs =>
    match cs with
    | '"' :: _ | '\x27' :: _ => (quoted? cs).map fun (s, rest) => (text s, rest)
    | '[' :: rest => (items? fuel rest).map fun (items, rest) => (list items, rest)
    | '\x7b' :: rest =>
      (fields? fuel rest).map fun (fields, rest) => (table (Setting.ofEntries fields), rest)
    | cs => (word? cs).or (number? cs)

/-- The items of a list up to its closing bracket. -/
def items? : Nat → List Char → Option (List Setting × List Char)
  | 0, _ => none
  | fuel + 1, cs => do
    match ← skipBlanks? cs with
    | ']' :: rest => some ([], rest)
    | cs =>
      let (item, rest) ← value? fuel cs
      match ← skipBlanks? rest with
      | ',' :: rest =>
        let (items, rest) ← items? fuel rest
        some (item :: items, rest)
      | ']' :: rest => some ([item], rest)
      | _ => none

/-- The fields of a record up to its closing brace. -/
def fields? : Nat → List Char → Option (Setting.Fields × List Char)
  | 0, _ => none
  | fuel + 1, cs => do
    match ← skipBlanks? cs with
    | '\x7d' :: rest => some ([], rest)
    | cs =>
      let (name, rest) ← name? cs
      match ← skipBlanks? rest with
      | ':' :: rest =>
        let (value, rest) ← value? fuel (← skipBlanks? rest)
        match ← skipBlanks? rest with
        | ',' :: rest =>
          let (fields, rest) ← fields? fuel rest
          some ((name, value) :: fields, rest)
        | '\x7d' :: rest => some ([(name, value)], rest)
        | _ => none
      | _ => none

end

/-- The value that a document consists of. -/
def parse? (document : String) : Option Setting := do
  let cs ← skipBlanks? document.toList
  let (value, rest) ← value? (cs.length + 1) cs
  match ← skipBlanks? rest with
  | [] => some value
  | _ => none

end AgvDispatch.Json5
