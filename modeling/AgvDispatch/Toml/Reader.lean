import AgvDispatch.Toml.Number
import AgvDispatch.Toml.Quoted
/-!
# Reading TOML

A document is a list of lines: headers that open a table, and entries. The lines are read first and
then put together, one after the other. Dotted keys and nested values have a greatest depth.
-/

namespace AgvDispatch.Toml

/-- How many parts a dotted key has at most, and how deep lists and tables in braces are nested at
most. -/
def greatestDepth : Nat := 79

/-! ### Keys -/

/-- A text without the blanks at its beginning. -/
def skipSpaces (cs : List Char) : List Char := cs.dropWhile isSpace

/-- Whether a character may occur in a key without quotes. -/
def isBare (c : Char) : Bool := c.isAlphanum || c == '_' || c == '-'

/-- The key at the beginning of a document. -/
def key? : List Char → Option (String × List Char)
  | '"' :: rest => basic? [] rest
  | '\x27' :: rest => literal? [] rest
  | cs =>
    let bare := cs.takeWhile isBare
    if bare.isEmpty then none else some (String.ofList bare, cs.dropWhile isBare)

/-- The dotted key at the beginning of a document, with at most so many parts, and what follows the
blanks behind it. -/
def pathWithin? : Nat → List Char → Option (List String × List Char)
  | 0, _ => none
  | parts + 1, cs => do
    let (key, rest) ← key? (skipSpaces cs)
    match skipSpaces rest with
    | '.' :: rest =>
      let (path, rest) ← pathWithin? parts rest
      some (key :: path, rest)
    | rest => some ([key], rest)

/-- The dotted key at the beginning of a document, and what follows the blanks behind it. -/
def path? (cs : List Char) : Option (List String × List Char) := pathWithin? greatestDepth cs

/-! ### Values -/

/-- A document after the blanks, line ends and comments at its beginning. `comment` says that a
comment is going on. -/
def skipLines? (comment : Bool) : List Char → Option (List Char)
  | [] => some []
  | '\n' :: rest => skipLines? false rest
  | c :: rest =>
    if comment then if isPrintable c then skipLines? true rest else none
    else if c == '#' then skipLines? true rest
    else if isSpace c then skipLines? false rest
    else some (c :: rest)

/-- Whether a character may occur in a value without quotes or brackets. -/
def isPlain (c : Char) : Bool :=
  !(isSpace c || c == '\n' || c == '#' || c == ',' || c == ']' || c == '\x7d')

/-- The value that a text without quotes or brackets consists of. -/
def word? (cs : List Char) : Option Toml :=
  match String.ofList cs with
  | "true" => some (boolean true)
  | "false" => some (boolean false)
  | _ => number? cs

/-- The value without quotes or brackets at the beginning of a document. A point in time goes before
a number, and may have a space within. -/
def plain? (cs : List Char) : Option (Toml × List Char) :=
  match moment? cs with
  | some (m, rest) => some (moment m, rest)
  | none => (word? (cs.takeWhile isPlain)).map fun value => (value, cs.dropWhile isPlain)

mutual

/-- The value at the beginning of a document, which has lists and tables in braces at most `depth`
deep. `fuel` bounds the number of calls on the way to any part of it. -/
def value? : Nat → Nat → List Char → Option (Toml × List Char)
  | 0, _, _ => none
  | fuel + 1, depth, cs =>
    match cs, depth with
    | '"' :: _, _ | '\x27' :: _, _ => (quoted? cs).map fun (s, rest) => (text s, rest)
    | '[' :: _, 0 | '\x7b' :: _, 0 => none
    | '[' :: rest, depth + 1 =>
      (items? fuel depth rest).map fun (items, rest) => (list items, rest)
    | '\x7b' :: rest, depth + 1 =>
      match skipSpaces rest with
      | '\x7d' :: rest => some (table .braces [], rest)
      | rest =>
        (entries? fuel depth [] rest).map fun (fields, rest) => (table .braces fields, rest)
    | _, _ => plain? cs

/-- The items of a list up to its closing bracket. -/
def items? : Nat → Nat → List Char → Option (List Toml × List Char)
  | 0, _, _ => none
  | fuel + 1, depth, cs => do
    match ← skipLines? false cs with
    | ']' :: rest => some ([], rest)
    | cs =>
      let (item, rest) ← value? fuel depth cs
      match ← skipLines? false rest with
      | ',' :: rest =>
        let (items, rest) ← items? fuel depth rest
        some (item :: items, rest)
      | ']' :: rest => some ([item], rest)
      | _ => none

/-- The entries of a table in braces up to its closing brace, after those read so far. -/
def entries? : Nat → Nat → Fields → List Char → Option (Fields × List Char)
  | 0, _, _, _ => none
  | fuel + 1, depth, sofar, cs => do
    match ← path? cs with
    | (path, '=' :: rest) =>
      let (value, rest) ← value? fuel depth (skipSpaces rest)
      let fields ← insertAt? value path sofar
      match skipSpaces rest with
      | ',' :: rest => entries? fuel depth fields rest
      | '\x7d' :: rest => some (fields, rest)
      | _ => none
    | _ => none

end

/-! ### Lines -/

/-- A line of a document. -/
inductive Line where
  /-- The header of a table. -/
  | header (path : List String)
  /-- The header of a further table of a list. -/
  | element (path : List String)
  /-- An entry of the table that is open. -/
  | entry (path : List String) (value : Toml)
  deriving Repr

/-- What follows a line, of which nothing but blanks and a comment may be left. -/
def endLine? (cs : List Char) : Option (List Char) :=
  match skipSpaces cs with
  | [] => some []
  | '\n' :: rest => some rest
  | '#' :: rest =>
    match rest.dropWhile isPrintable with
    | [] => some []
    | '\n' :: rest => some rest
    | _ => none
  | _ => none

/-- The line at the beginning of a document. -/
def line? (cs : List Char) : Option (Line × List Char) :=
  match cs with
  | '[' :: '[' :: rest => do
    match ← path? rest with
    | (path, ']' :: ']' :: rest) => some (.element path, rest)
    | _ => none
  | '[' :: rest => do
    match ← path? rest with
    | (path, ']' :: rest) => some (.header path, rest)
    | _ => none
  | _ => do
    match ← path? cs with
    | (path, '=' :: rest) =>
      let (value, rest) ← value? rest.length greatestDepth (skipSpaces rest)
      some (.entry path value, rest)
    | _ => none

/-- The lines of a document, of which there are at most `fuel`. -/
def lines? : Nat → List Char → Option (List Line)
  | 0, _ => none
  | fuel + 1, cs => do
    match ← skipLines? false cs with
    | [] => some []
    | cs =>
      let (line, rest) ← line? cs
      let lines ← lines? fuel (← endLine? rest)
      some (line :: lines)

/-! ### Documents -/

/-- The tables so far and the path of the one that is open, after a further line. -/
def addLine? (document : Fields × List String) (line : Line) : Option (Fields × List String) :=
  let (fields, current) := document
  match line with
  | .header path => do
    let key ← path.getLast?
    return (← enter? (openTable? key) path.dropLast fields, path)
  | .element path => do
    let key ← path.getLast?
    return (← enter? (openElement? key) path.dropLast fields, path)
  | .entry path value => do return (← enter? (insertAt? value path) current fields, current)

/-- A document with plain line feeds and without a mark of its encoding. -/
def normalise : List Char → List Char
  | '\uFEFF' :: cs => unify cs
  | cs => unify cs
where
  /-- A document with plain line feeds. -/
  unify : List Char → List Char
    | '\r' :: '\n' :: cs => '\n' :: unify cs
    | c :: cs => c :: unify cs
    | [] => []

/-- The tables of a document. -/
def parse? (document : String) : Option Fields := do
  let cs := normalise document.toList
  let lines ← lines? (cs.length + 1) cs
  let (fields, _) ← lines.foldlM addLine? ([], [])
  return fields

end AgvDispatch.Toml
