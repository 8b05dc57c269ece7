import AgvDispatch.Ron.Number
import AgvDispatch.Ron.Quoted
import AgvDispatch.Text.Gap
/-!
# Reading RON

A record stands in parentheses, with names without quotes, and may follow a name of its own. Without
names of fields it is a list. A table stands in braces, and its keys are texts. An optional value is
either `None` or `Some` with the value in parentheses. Attributes in front of the value may say that
the parentheses are not needed.

* `Ron.value?` reads a value, whose parts are nested up to a limit.
* `Ron.parse?` reads a document.
-/

namespace AgvDispatch.Ron

open Setting (nothing boolean real text list table)

/-- A text without the blanks and comments at its beginning. -/
def skipBlanks? (cs : List Char) : Option (List Char) :=
  Text.skipGap? ⟨fun c => c == ' ' || c == '\t' || c == '\n' || c == '\r', (· == '\n'), true⟩ cs

/-! ### Names -/

/-- Whether a character may occur in a name that has a mark in front. -/
def isMarkedPart (c : Char) : Bool := isNamePart c || c == '.' || c == '+' || c == '-'

/-- The name at the beginning of a document, and what follows it. A name that is marked by `r#` may
have further characters, and a name without the mark is not followed by them. -/
def name? (cs : List Char) : Option (String × List Char) :=
  let take (isPart : Char → Bool) (cs : List Char) :=
    (String.ofList (cs.takeWhile isPart), cs.dropWhile isPart)
  match cs with
  | 'r' :: '"' :: _ => none
  | 'r' :: '#' :: rest =>
    if rest.head?.any isMarkedPart then some (take isMarkedPart rest) else none
  | c :: _ =>
    if isNamePart c && !c.isDigit && !(cs.dropWhile isNamePart).head?.any isMarkedPart then
      some (take isNamePart cs)
    else none
  | [] => none

/-- Whether a document begins with the name of a field and its colon, which the end of the document
does not follow. -/
def beginsField? (cs : List Char) : Option Bool :=
  match name? cs with
  | none => some false
  | some (_, rest) => do return (← (← skipBlanks? rest).head?) == ':'

/-! ### Values -/

/-- The value at the beginning of a document that has a fixed spelling. -/
def constant? (cs : List Char) : Option (Setting × List Char) :=
  let read? (word : String) (value : Setting) := (afterWord? word cs).map fun rest => (value, rest)
  match cs with
  | '(' :: ')' :: rest => some (nothing, rest)
  | _ =>
    ((((read? "true" (boolean true)).or (read? "false" (boolean false))).or
      (read? "None" nothing)).or (read? "inf" (real (1.0 / 0.0)))).or
      (read? "NaN" (real (0.0 / 0.0)))

/-- The number, the text or the character at the beginning of a document. -/
def plain? (cs : List Char) : Option (Setting × List Char) :=
  match cs with
  | '\x27' :: rest => (character? rest).map fun (c, rest) => (text (String.singleton c), rest)
  | '.' :: _ => (real? cs).map fun (x, rest) => (real x, rest)
  | c :: _ =>
    if c.isDigit || c == '+' || c == '-' then number? cs
    else (quoted? cs).map fun (s, rest) => (text s, rest)
  | [] => none

/-- The key of an entry of a table, and whether it is a single character. -/
def key? (cs : List Char) : Option ((Bool × String) × List Char) :=
  match cs with
  | '\x27' :: rest => (character? rest).map fun (c, rest) => ((true, String.singleton c), rest)
  | _ => (quoted? cs).map fun (s, rest) => ((false, s), rest)

/-- The table of entries. Of a text and a character that are equal the text counts. -/
def ofEntries (entries : List ((Bool × String) × Setting)) : Setting :=
  let (characters, texts) := entries.partition fun entry => entry.1.1
  table (Setting.ofEntries ((characters ++ texts).map fun ((_, key), value) => (key, value)))

/-- Whether the parentheses of `Some` may be missing. -/
abbrev Lenient := Bool

mutual

/-- The value at the beginning of a document. Everything that encloses a part of it, and the part
itself, takes one from the limit. `fuel` bounds the number of calls on the way to any part of it. -/
def value? (lenient : Lenient) : Nat → Nat → List Char → Option (Setting × List Char)
  | 0, _, _ => none
  | fuel + 1, limit, cs =>
    match constant? cs, afterWord? "Some" cs with
    | some found, _ => some found
    | none, some rest =>
      match limit with
      | 0 => none
      | limit + 1 => do
        match ← skipBlanks? rest with
        | '(' :: rest =>
          let (value, rest) ← value? lenient fuel limit (← skipBlanks? rest)
          let rest ← skipBlanks? rest
          let rest ← match rest with
            | ',' :: rest => skipBlanks? rest
            | rest => some rest
          match rest with
          | ')' :: rest => some (value, rest)
          | _ => none
        | rest => if lenient then value? lenient fuel limit rest else none
    | none, none =>
      match name? cs with
      | some (_, rest) => do
        match ← skipBlanks? rest with
        | '(' :: rest => body? lenient fuel limit rest
        | rest => some (nothing, rest)
      | none =>
        match cs, limit with
        | '(' :: rest, limit => body? lenient fuel limit rest
        | '[' :: rest, limit + 1 =>
          (items? lenient fuel limit ']' rest).map fun (items, rest) => (list items, rest)
        | '\x7b' :: rest, limit + 1 =>
          (entries? lenient fuel limit rest).map fun (entries, rest) => (ofEntries entries, rest)
        | cs, _ => plain? cs

/-- What parentheses contain up to the closing one: a record, or a list. -/
def body? (lenient : Lenient) : Nat → Nat → List Char → Option (Setting × List Char)
  | 0, _, _ | _, 0, _ => none
  | fuel + 1, limit + 1, cs => do
    let cs ← skipBlanks? cs
    if ← beginsField? cs then
      let (fields, rest) ← fields? lenient fuel limit cs
      return (table (Setting.ofEntries fields), rest)
    else
      let (items, rest) ← items? lenient fuel limit ')' cs
      return (list items, rest)

/-- The items of a list up to the character that closes it. -/
def items? (lenient : Lenient) :
    Nat → Nat → Char → List Char → Option (List Setting × List Char)
  | 0, _, _, _ => none
  | fuel + 1, limit, close, cs => do
    match ← skipBlanks? cs, limit with
    | [], _ => none
    | c :: rest, limit =>
      if c == close then some ([], rest)
      else
        let (item, rest) ← item? lenient fuel limit (c :: rest)
        match ← skipBlanks? rest with
        | ',' :: rest =>
          let (items, rest) ← items? lenient fuel limit close rest
          some (item :: items, rest)
        | c :: rest => if c == close then some ([item], rest) else none
        | [] => none

/-- A value that is a part of another one. -/
def item? (lenient : Lenient) : Nat → Nat → List Char → Option (Setting × List Char)
  | 0, _, _ | _, 0, _ => none
  | fuel + 1, limit + 1, cs => value? lenient fuel limit cs

/-- The fields of a record up to its closing parenthesis. -/
def fields? (lenient : Lenient) : Nat → Nat → List Char → Option (Setting.Fields × List Char)
  | 0, _, _ => none
  | fuel + 1, limit, cs => do
    match ← skipBlanks? cs with
    | ')' :: rest => some ([], rest)
    | cs =>
      let (name, rest) ← name? cs
      match ← skipBlanks? rest with
      | ':' :: rest =>
        let (value, rest) ← item? lenient fuel limit (← skipBlanks? rest)
        match ← skipBlanks? rest with
        | ',' :: rest =>
          let (fields, rest) ← fields? lenient fuel limit rest
          some ((name, value) :: fields, rest)
        | ')' :: rest => some ([(name, value)], rest)
        | _ => none
      | _ => none

/-- The entries of a table up to its closing brace. -/
def entries? (lenient : Lenient) :
    Nat → Nat → List Char → Option (List ((Bool × String) × Setting) × List Char)
  | 0, _, _ => none
  | fuel + 1, limit, cs => do
    match ← skipBlanks? cs with
    | '\x7d' :: rest => some ([], rest)
    | cs =>
      let (key, rest) ← key? cs
      match ← skipBlanks? rest with
      | ':' :: rest =>
        let (value, rest) ← item? lenient fuel limit (← skipBlanks? rest)
        match ← skipBlanks? rest with
        | ',' :: rest =>
          let (entries, rest) ← entries? lenient fuel limit rest
          some ((key, value) :: entries, rest)
        | '\x7d' :: rest => some ([(key, value)], rest)
        | _ => none
      | _ => none

end

/-! ### Documents -/

/-- The names that attributes may list. -/
def attributeNames : List String := ["unwrap_newtypes", "implicit_some", "unwrap_variant_newtypes"]

/-- The name of the attribute that makes the parentheses of `Some` needless. -/
def lenientName : String := "implicit_some"

/-- The rest of a document that begins with words, which may stand apart. -/
def afterWords? : List String → List Char → Option (List Char)
  | [], cs => some cs
  | word :: words, cs =>
    if word.toList.isPrefixOf cs then
      (skipBlanks? (cs.drop word.length)).bind (afterWords? words)
    else none

/-- The names in the parentheses of an attribute, of which there is at least one. -/
def attributeList? : Nat → List Char → Option (List String × List Char)
  | 0, _ => none
  | fuel + 1, cs => do
    let (name, rest) ← name? cs
    if name ∉ attributeNames then none
    else
      match ← skipBlanks? rest with
      | ',' :: rest =>
        let rest ← skipBlanks? rest
        if rest.head?.any isNamePart then
          let (names, rest) ← attributeList? fuel rest
          some (name :: names, rest)
        else some ([name], rest)
      | rest => some ([name], rest)

/-- The names that the attributes in front of a document list, and the rest of the document. -/
def attributes? : Nat → List Char → Option (List String × List Char)
  | 0, _ => none
  | fuel + 1, cs =>
    match cs with
    | '#' :: _ => do
      let rest ← afterWords? ["#", "!", "[", "enable", "("] cs
      let (names, rest) ← attributeList? rest.length rest
      let (more, rest) ← attributes? fuel (← afterWords? [")", "]"] rest)
      some (names ++ more, rest)
    | _ => some ([], cs)

/-- How much the parts of a document may take. -/
def greatestLimit : Nat := 128

/-- The value that a document consists of. -/
def parse? (document : String) : Option Setting := do
  let cs ← skipBlanks? document.toList
  let (names, cs) ← attributes? (cs.length + 1) cs
  let (value, rest) ← value? (names.contains lenientName) (4 * cs.length + 1) greatestLimit cs
  match ← skipBlanks? rest with
  | [] => some value
  | _ => none

end AgvDispatch.Ron
