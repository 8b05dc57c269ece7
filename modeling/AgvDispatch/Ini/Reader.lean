import AgvDispatch.Settings.Tree
import AgvDispatch.Text.Blank
import AgvDispatch.Text.Digit
/-!
# Reading INI

A document consists of sections, each with a header in brackets, and of entries: a key, an equals
sign or a colon, and the rest of the line, which is always text. Entries before the first header
belong to no section. A comment has a line of its own that begins with a semicolon or a hash. A
section that comes again replaces the earlier one.
-/

namespace AgvDispatch.Ini

/-! ### Texts -/

/-- The character that a letter after a backslash stands for. Most stand for themselves. -/
def escaped : Char → Char
  | '0' => '\x00'
  | 'a' => '\x07'
  | 'b' => '\x08'
  | 't' => '\t'
  | 'r' => '\r'
  | 'n' => '\n'
  | c => c

/-- The character with the number that four hexadecimal digits give. A plus sign may take the place
of the first one. -/
def coded? (digits : List Char) : Option Char :=
  match digits with
  | '+' :: digits => Text.codedChar? digits
  | digits => Text.codedChar? digits

/-- The text up to the first character that passes a test, and what follows the text, which is
nothing if there is no such character. The characters so far are in reverse order. A backslash
before the end of a line hides both. -/
def upTo? (isEnd : Char → Bool) : List Char → List Char → Option (List Char × List Char)
  | sofar, [] => some (sofar.reverse, [])
  | _, ['\\'] => none
  | sofar, '\\' :: 'x' :: a :: b :: c :: d :: rest => do
    upTo? isEnd ((← coded? [a, b, c, d]) :: sofar) rest
  | sofar, '\\' :: c :: rest =>
    if c == 'x' then none
    else if c == '\n' then upTo? isEnd sofar rest
    else upTo? isEnd (escaped c :: sofar) rest
  | sofar, c :: rest =>
    if isEnd c then some (sofar.reverse, c :: rest) else upTo? isEnd (c :: sofar) rest

/-- The text up to a character that must come, and what follows that character. -/
def closed? (close : Char) (cs : List Char) : Option (List Char × List Char) :=
  match upTo? (· == close) [] cs with
  | some (text, _ :: rest) => some (text, rest)
  | _ => none

/-- The text up to the end of a line. -/
def line? (cs : List Char) : Option (List Char × List Char) :=
  upTo? (fun c => c == '\n' || c == '\r') [] cs

/-- A text without the blanks at its two ends. -/
def trimmed (cs : List Char) : String := String.ofList (Text.trim cs)

/-- The value of an entry, after its equals sign. Its beginning may stand in quotes, which may go
over several lines. -/
def value? (cs : List Char) : Option (String × List Char) :=
  let cs := cs.dropWhile fun c => Text.isBlank c && c != '\n' && c != '\r'
  let quoted? (quote : Char) (rest : List Char) := do
    let (inner, rest) ← closed? quote rest
    let (outer, rest) ← line? rest
    some (trimmed (inner ++ outer), rest)
  match cs with
  | '"' :: rest => quoted? '"' rest
  | '\x27' :: rest => quoted? '\x27' rest
  | cs => (line? cs).map fun (text, rest) => (trimmed text, rest)

/-! ### Documents -/

/-- What a document has said so far. -/
structure Document where
  /-- The fields outside all sections, and the sections. -/
  fields : Setting.Fields
  /-- The section that is open, if there is one. -/
  current : Option String
  /-- The key of the next entry, or nothing. -/
  key : String

/-- A document after the header of a section. -/
def Document.openSection (d : Document) (name : String) : Document :=
  { d with fields := Setting.put name (.table []) d.fields, current := some name }

/-- A document after the value of an entry. -/
def Document.addValue (d : Document) (value : String) : Document :=
  let fields := match d.current with
    | none => Setting.put d.key (.text value) d.fields
    | some name =>
      let inner := ((d.fields.lookup name).map Setting.fields).getD []
      Setting.put name (.table (Setting.put d.key (.text value) inner)) d.fields
  { d with fields, key := "" }

/-- A document without the blanks at its beginning, and whether it is at the beginning of a line. -/
def skipBlanks (lineStart : Bool) : List Char → Bool × List Char
  | [] => (lineStart, [])
  | c :: cs => if Text.isBlank c then skipBlanks (c == '\n') cs else (lineStart, c :: cs)

/-- The fields of a document, given what it has said so far and the rest of it. `fuel` bounds the
number of its comments, headers, keys and values. -/
def readFrom? : Nat → Document → Bool → List Char → Option Setting.Fields
  | 0, _, _, _ => none
  | fuel + 1, d, lineStart, cs =>
    match skipBlanks lineStart cs with
    | (_, []) => some d.fields
    | (lineStart, c :: rest) =>
      if c == ';' || c == '#' then
        if lineStart then readFrom? fuel d true ((rest.dropWhile (· != '\n')).drop 1) else none
      else if c == '[' then do
        let (name, rest) ← closed? ']' rest
        readFrom? fuel (d.openSection (trimmed name)) false rest
      else if c == '=' || c == ':' then
        if d.key.isEmpty then none
        else do
          let (value, rest) ← value? rest
          readFrom? fuel (d.addValue value) false rest
      else
        match upTo? (fun c => c == '=' || c == ':') [] (c :: rest) with
        | some (key, mark :: rest) =>
          readFrom? fuel { d with key := trimmed key } false (mark :: rest)
        | _ => none

/-- The fields of a document. -/
def parse? (document : String) : Option Setting.Fields :=
  let cs := document.toList
  readFrom? (cs.length + 1) ⟨[], none, ""⟩ true cs

end AgvDispatch.Ini
