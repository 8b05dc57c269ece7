import AgvDispatch.Yaml.BlockText
import AgvDispatch.Yaml.Plain
import AgvDispatch.Yaml.Property
import AgvDispatch.Yaml.Quoted
/-!
# The layout of a YAML document

The tokens of a document follow from its characters and from its layout: which lists and tables are
open by indentation, which brackets and braces are open, and where the key may have begun to which
the next colon belongs. A token for a key is put in later, when its colon is met.

* `Layout` is what has been found so far.
* `Layout.tokens?` finds the tokens of a document.
-/

namespace AgvDispatch.Yaml

/-! ### What is open -/

/-- An indentation that has begun. -/
structure Indent where
  /-- The indentation around it. -/
  outer : Int
  /-- Whether it holds a list or a table. If not, it only says how far to the right a value is. -/
  isBlock : Bool
  deriving Repr

/-- A place at which a key may have begun. -/
structure KeyPlace where
  /-- Whether there may be a key. -/
  isPossible : Bool
  /-- Whether there must be one, since nothing else may stand there. -/
  isRequired : Bool
  /-- The number of tokens before it. -/
  number : Nat
  /-- Where it is. -/
  cursor : Cursor
  deriving Repr

/-- No place for a key. -/
def KeyPlace.none : KeyPlace := ⟨false, false, 0, .ofText []⟩

/-- What has been found so far. -/
structure Layout where
  /-- The place that has been reached. -/
  cursor : Cursor
  /-- The tokens before it. -/
  tokens : Array Token
  /-- How far the innermost list or table by indentation is indented. -/
  indent : Int
  /-- The indentations that are open, the innermost one first. -/
  indents : List Indent
  /-- Whether a key may begin here. -/
  allowsKey : Bool
  /-- Where the last key may have begun. -/
  key : KeyPlace
  /-- The same for what is around each of the open brackets and braces, the innermost first. -/
  outerKeys : List KeyPlace
  /-- For each open bracket, whether a table without braces is open in it, the innermost first. -/
  pairs : List Bool
  /-- Whether a table in brackets would need no beginning of its own. -/
  isBraced : Bool
  /-- The place at which a colon need not stand apart. -/
  adjacentAt : Nat

namespace Layout

/-- The layout at the beginning of a document. -/
def ofText (cs : List Char) : Layout :=
  { cursor := .ofText cs, tokens := #[], indent := -1, indents := [], allowsKey := true,
    key := .none, outerKeys := [], pairs := [], isBraced := false, adjacentAt := 0 }

/-- Whether brackets or braces are open. -/
def inFlow (l : Layout) : Bool := !l.outerKeys.isEmpty

/-- How many brackets and braces may be open. -/
def greatestFlowDepth : Nat := 255

/-- A layout with a further token. -/
def push (token : Token) (l : Layout) : Layout := { l with tokens := l.tokens.push token }

/-- A layout with a further token after so many others. -/
def insert (number : Nat) (token : Token) (l : Layout) : Layout :=
  { l with tokens := l.tokens.insertIdxIfInBounds number token }

/-! ### Indentation -/

/-- A layout without those of its innermost indentations that are further to the right. -/
def closeWithin (column : Int) : List Indent → Layout → Layout
  | [], l => l
  | i :: indents, l =>
    if column < l.indent then
      let l := if i.isBlock then l.push .blockEnd else l
      closeWithin column indents { l with indent := i.outer, indents }
    else l

/-- A layout without the indentations that are further to the right than a column. -/
def closeTo (column : Int) (l : Layout) : Layout :=
  if l.inFlow then l else closeWithin column l.indents l

/-- A layout without its innermost indentations up to one that holds a list or a table. -/
def closeValuesWithin : List Indent → Layout → Layout
  | [], l => l
  | i :: indents, l =>
    if i.isBlock then l else closeValuesWithin indents { l with indent := i.outer, indents }

/-- A layout without the indentations that only say how far to the right a value is. -/
def closeValues (l : Layout) : Layout := closeValuesWithin l.indents l

/-- A layout in which a list or a table is open at a column. Its beginning is put after so many
tokens. -/
def openAt (column : Nat) (number : Nat) (token : Token) (l : Layout) : Layout :=
  if l.inFlow then l
  else
    let l := match l.indents with
      | i :: indents =>
        if l.indent ≤ column ∧ !i.isBlock then { l with indent := i.outer, indents } else l
      | [] => l
    if l.indent < (column : Int) then
      { l with indent := column, indents := ⟨l.indent, true⟩ :: l.indents }.insert number token
    else l

/-- A layout in which a value is further to the right than the list or the table it belongs to. -/
def openValue (l : Layout) : Layout :=
  match l.indents with
  | ⟨_, true⟩ :: _ =>
    if l.inFlow then l
    else { l with indent := l.indent + 1, indents := ⟨l.indent, false⟩ :: l.indents }
  | _ => l

/-! ### Keys -/

/-- A layout in which a key may begin here, if one is allowed. -/
def saveKey (l : Layout) : Layout :=
  if l.allowsKey then
    let isRequired :=
      !l.inFlow && decide (l.indent = l.cursor.column) && l.indents.head?.any Indent.isBlock
    { l with key := ⟨true, isRequired, l.tokens.size, l.cursor⟩ }
  else l

/-- A layout in which the last key cannot be one, unless it must be. -/
def dropKey? (l : Layout) : Option Layout :=
  if l.key.isPossible && l.key.isRequired then none
  else some { l with key := { l.key with isPossible := false } }

/-- How many characters a key and the blanks after it have at most. -/
def greatestKeySize : Nat := 1024

/-- A layout in which the last key is none if it began on another line or too far away. -/
def dropStaleKey? (l : Layout) : Option Layout :=
  let start := l.key.cursor
  let isStale := decide (start.line < l.cursor.line)
    || decide (start.index + greatestKeySize < l.cursor.index)
  if l.key.isPossible && !l.inFlow && isStale then l.dropKey? else some l

/-! ### Between tokens -/

/-- A layout after the blanks, line ends and comments that follow. A line within a list or a table
is not indented by tabs. -/
def skipGaps? : Nat → Layout → Option Layout
  | 0, _ => none
  | fuel + 1, l =>
    let c := l.cursor
    match c.rest with
    | '\n' :: _ =>
      skipGaps? fuel { l with cursor := c.nextLine, allowsKey := l.allowsKey || !l.inFlow }
    | '#' :: _ => skipGaps? fuel { l with cursor := c.lineEnd }
    | ch :: _ =>
      if !isBlank ch then some l
      else if ch == '\t' && !l.indents.isEmpty && c.atLineStart
          && decide ((c.column : Int) < l.indent) then do
        let c ← c.skipToLineEnd?
        if c.endsLine then skipGaps? fuel { l with cursor := c } else none
      else skipGaps? fuel { l with cursor := c.advance 1 }
    | [] => some l

/-- A layout after the blanks, line ends and comments that follow. -/
def skipToToken? (l : Layout) : Option Layout := skipGaps? (l.cursor.rest.length + 1) l

/-! ### Brackets, braces and commas -/

/-- A layout after an opening bracket or brace. -/
def openFlow? (token : Token) (l : Layout) : Option Layout := do
  let l := l.saveKey.openValue
  let cursor ← (l.cursor.take 1).skipToLineEnd?
  if greatestFlowDepth ≤ l.outerKeys.length then none
  else
    let isList := token == .flowListStart
    let l :=
      { l with
        cursor, allowsKey := true, key := .none, outerKeys := l.key :: l.outerKeys
        pairs := if isList then false :: l.pairs else l.pairs
        isBraced := l.isBraced || !isList }
    some (l.push token)

/-- A layout after the end of the table without braces, if one is open. -/
def closePair (l : Layout) : Layout :=
  match l.pairs with
  | true :: pairs => { l with pairs := false :: pairs, isBraced := false }.push .flowTableEnd
  | _ => l

/-- A layout after a closing bracket or brace. -/
def closeFlow? (token : Token) (l : Layout) : Option Layout := do
  let l ← l.dropKey?
  let l := { l with
    allowsKey := false, key := l.outerKeys.headD l.key, outerKeys := l.outerKeys.tail }
  let l := if token == .flowListEnd then
      let l := l.closePair
      { l with pairs := l.pairs.tail }
    else l
  let cursor ← (l.cursor.take 1).skipToLineEnd?
  let adjacentAt := if l.inFlow then cursor.index else l.adjacentAt
  some ({ l with cursor, adjacentAt }.push token)

/-- A layout after a comma. -/
def addComma? (l : Layout) : Option Layout := do
  let l ← l.dropKey?
  let l := { l with allowsKey := true }.closePair
  let cursor ← (l.cursor.take 1).skipToLineEnd?
  some ({ l with cursor }.push .comma)

/-! ### Items, keys and values -/

/-- A layout after the dash before an item. -/
def addItem? (l : Layout) : Option Layout := do
  if l.inFlow || !l.allowsKey then none
  else
    let dash := l.cursor.take 1
    let cursor ← dash.skipToLineEnd?
    let l := { l.openAt l.cursor.column l.tokens.size .blockListStart with cursor }
    let isNested := cursor.rest.head? == some '-' && standsApart (cursor.rest.drop 1)
    if isNested && dash.blanks.contains '\t' then none
    else
      let isFar := cursor.rest.head?.any fun ch => ch == '\n' || isFlowMark ch
      let l ← (if isFar then l.openValue else l).dropKey?
      some ({ l with allowsKey := true }.push .item)

/-- The place after spaces, line ends and comments. -/
def afterSpaces : Nat → Cursor → Cursor
  | 0, c => c
  | fuel + 1, c =>
    match c.rest with
    | ' ' :: _ => afterSpaces fuel (c.advance 1)
    | '\n' :: _ => afterSpaces fuel c.nextLine
    | '#' :: _ => afterSpaces fuel c.lineEnd
    | _ => c

/-- A layout after the question mark before a key. -/
def addKey? (l : Layout) : Option Layout := do
  if !l.inFlow && !l.allowsKey then none
  else
    let l ← (l.openAt l.cursor.column l.tokens.size .blockTableStart).dropKey?
    let mark := l.cursor.take 1
    let cursor := afterSpaces (mark.rest.length + 1) mark
    let isApart := mark.rest.head? == some ' ' || mark.rest.head? == some '\n'
    if !isApart || cursor.rest.head? == some '\t' then none
    else
      let l := { l with cursor, allowsKey := !l.inFlow, isBraced := l.isBraced || l.inFlow }
      some (l.push .key)

/-- The place after the colon before a value. Tabs alone do not set a word apart from it. -/
def afterColon? (c : Cursor) : Option Cursor :=
  if c.rest.head? == some '\t' then do
    let after ← c.skipToLineEnd?
    if !c.blanks.contains ' ' && after.rest.head?.any isWordPart then none else some after
  else some c

/-- A layout after the colon before a value. If a key has begun before it, the token of the key is
put where it began. -/
def addValue? (l : Layout) : Option Layout := do
  let isPair := !l.pairs.isEmpty && !l.isBraced
  let column := l.cursor.column
  let line := l.cursor.line
  let cursor ← afterColon? (l.cursor.take 1)
  let l := { l with cursor, pairs := if isPair then true :: l.pairs.tail else l.pairs }
  let key := l.key
  if key.isPossible then
    if isPair && decide (key.cursor.line < line) then none
    else
      let l := l.insert key.number .key
      let l := if isPair then l.insert key.number .flowTableStart else l
      let l := (l.openAt key.cursor.column key.number .blockTableStart).openValue
      some ({ l with key := { key with isPossible := false }, allowsKey := false }.push .value)
  else if !l.inFlow && !l.allowsKey then none
  else
    let l := if isPair then l.push .flowTableStart else l
    let l := (l.openAt column l.tokens.size .blockTableStart).openValue
    some ({ l with allowsKey := !l.inFlow }.push .value)

/-! ### Scalars, names and tags -/

/-- A layout after a scalar without quotes. -/
def addPlain? (l : Layout) : Option Layout := do
  let l := l.saveKey.closeValues
  let (text, cursor) ← plain? l.inFlow l.indent l.cursor
  some ({ l with cursor, allowsKey := cursor.atLineStart }.push (.scalar true text))

/-- A layout after a scalar in quotes. -/
def addQuoted? (l : Layout) : Option Layout := do
  let l := l.saveKey
  let (text, cursor) ← quoted? l.inFlow l.indent l.cursor
  let l ← { l with cursor, allowsKey := false }.skipToToken?
  some ({ l with adjacentAt := l.cursor.index }.push (.scalar false text))

/-- A layout after a scalar that is given by lines of its own. -/
def addBlockText? (joins : Bool) (l : Layout) : Option Layout := do
  let l := l.saveKey.closeValues
  let (text, cursor) ← blockText? joins l.indent l.cursor
  some ({ l with cursor, allowsKey := true }.push (.scalar false text))

/-- A layout after the name of a value. -/
def addAnchor? (token : String → Token) (l : Layout) : Option Layout := do
  let l := l.saveKey
  let (name, cursor) ← anchor? l.cursor
  some ({ l with cursor, allowsKey := false }.push (token name))

/-- A layout after a tag. -/
def addTag? (l : Layout) : Option Layout := do
  let l := l.saveKey
  let (token, cursor) ← tag? l.inFlow l.cursor
  some ({ l with cursor, allowsKey := false }.push token)

/-! ### Documents -/

/-- A layout in which everything is closed that indentation holds together. -/
def closeAll? (l : Layout) : Option Layout := do
  let l ← (l.closeTo (-1)).dropKey?
  some { l with allowsKey := false }

/-- A layout after a directive. -/
def addDirective? (l : Layout) : Option Layout := do
  let l ← l.closeAll?
  let (token, cursor) ← directive? l.cursor
  some ({ l with cursor }.push token)

/-- A layout after the mark before a document. -/
def addDocumentStart? (l : Layout) : Option Layout := do
  let l ← l.closeAll?
  some ({ l with cursor := l.cursor.take 3 }.push .documentStart)

/-- A layout after the mark after a document, behind which the line is empty. -/
def addDocumentEnd? (l : Layout) : Option Layout := do
  let l ← l.closeAll?
  let cursor ← (l.cursor.take 3).skipToLineEnd?
  if cursor.endsLine then some ({ l with cursor }.push .documentEnd) else none

/-- A layout after the token that begins here, given the characters from here on. -/
def addToken? (ch : Char) (rest : List Char) (l : Layout) : Option Layout :=
  let isApart := standsApart rest
  let isValue := isApart || (l.inFlow
    && (rest.head?.any isFlowMark || l.cursor.index == l.adjacentAt))
  if l.cursor.column = 0 ∧ ch = '%' then l.addDirective?
  else if l.cursor.isAtMark "---" then l.addDocumentStart?
  else if l.cursor.isAtMark "..." then l.addDocumentEnd?
  else if (l.cursor.column : Int) < l.indent then none
  else
    match ch with
    | '[' => l.openFlow? .flowListStart
    | '\x7b' => l.openFlow? .flowTableStart
    | ']' => l.closeFlow? .flowListEnd
    | '\x7d' => l.closeFlow? .flowTableEnd
    | ',' => l.addComma?
    | '-' => if isApart then l.addItem? else l.addPlain?
    | '?' => if isApart then l.addKey? else l.addPlain?
    | ':' => if isValue then l.addValue? else l.addPlain?
    | '*' => l.addAnchor? .mention
    | '&' => l.addAnchor? .anchor
    | '!' => l.addTag?
    | '|' => if l.inFlow then l.addPlain? else l.addBlockText? false
    | '>' => if l.inFlow then l.addPlain? else l.addBlockText? true
    | '\x27' | '"' => l.addQuoted?
    | '%' | '@' | '\x60' => none
    | _ => l.addPlain?

/-- A layout at the end of a document. -/
def finish? (l : Layout) : Option Layout :=
  if (l.key :: l.outerKeys).any fun key => key.isPossible && key.isRequired then none
  else some (l.closeTo (-1))

/-- The layout of the whole document. `fuel` bounds the number of tokens that are still to come. -/
def complete? : Nat → Layout → Option Layout
  | 0, _ => none
  | fuel + 1, l => do
    let l ← (← l.skipToToken?).dropStaleKey?
    let l := l.closeTo l.cursor.column
    match l.cursor.rest with
    | [] => l.finish?
    | ch :: rest => complete? fuel (← l.addToken? ch rest)

/-- The tokens of a document. -/
def tokens? (cs : List Char) : Option (List Token) :=
  (complete? (cs.length + 1) (ofText cs)).map fun l => l.tokens.toList

end Layout

end AgvDispatch.Yaml
