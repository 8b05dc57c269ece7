import AgvDispatch.Yaml.Basic
import AgvDispatch.Yaml.Token
/-!
# YAML values from tokens

The tokens of a document give its values. A value that has a name may be mentioned later; a name may
be given again, and then means the later value. The keys and values of a table are read in turn,
and what is left out is nothing.

* `Node.value?` reads a value.
* `Node.document?` reads a document.
-/

namespace AgvDispatch.Yaml.Node

/-! ### Names and tags -/

/-- What the rest of a document depends on. -/
structure Context where
  /-- The tokens that follow. -/
  tokens : List Token
  /-- The names so far, the last one first, each with its value once that is complete. -/
  anchors : List (String × Option Yaml)
  /-- The handle that the last directive is about, and what it stands for. -/
  handle : Option (String × String)

/-- A reader of values, which may fail. -/
abbrev Reader (α : Type) := StateT Context Option α

/-- The next token, if there is one. -/
def peek : Reader (Option Token) := do return (← get).tokens.head?

/-- Goes on to the token after the next one. -/
def skip : Reader Unit := modify fun c => { c with tokens := c.tokens.tail }

/-- Goes on behind a token if it comes next, and says whether it does. -/
def skipIf (token : Token) : Reader Bool := do
  if (← peek) == some token then
    skip
    return true
  else return false

/-- What a handle stands for at the beginning of the standard tags. -/
def standardMeaning : String := "tag:yaml.org,2002:"

/-- The meaning of the handle of a tag. A handle that is not known must not be a word. -/
def meaning? (known : Option (String × String)) (handle : String) : Option String :=
  match known with
  | some (name, meaning) => if name = handle then some meaning else unknown? handle
  | none => unknown? handle
where
  /-- The meaning of a handle that no directive is about. -/
  unknown? (handle : String) : Option String :=
    if handle = "!!" then some standardMeaning
    else if handle = "" ∨ handle = "!" then some handle
    else none

/-- What comes before a value. -/
structure Properties where
  /-- How many names there have been when its own one came. -/
  anchor : Option Nat
  /-- The meaning of the handle of its tag, and the name of its tag. -/
  tag : Option (String × String)

/-- Reads the name of the value that follows, if it has one. -/
def anchor : Reader (Option Nat) := do
  match ← peek with
  | some (.anchor name) =>
    skip
    let number := (← get).anchors.length
    modify fun c => { c with anchors := (name, none) :: c.anchors }
    return some number
  | _ => return none

/-- Reads the tag of the value that follows, if it has one. -/
def tag : Reader (Option (String × String)) := do
  match ← peek with
  | some (.tag handle name) =>
    skip
    let meaning ← meaning? (← get).handle handle
    return some (meaning, name)
  | _ => return none

/-- Reads what comes before a value: a name and a tag in either order. -/
def properties : Reader Properties := do
  match ← anchor with
  | some number => return ⟨some number, ← tag⟩
  | none =>
    match ← tag with
    | some found => return ⟨← anchor, some found⟩
    | none => return ⟨none, none⟩

/-- Keeps a value under its name, if it has one. -/
def keep (p : Properties) (value : Yaml) : Reader Yaml := do
  match p.anchor with
  | some number =>
    modify fun c =>
      let place := c.anchors.length - 1 - number
      { c with anchors := c.anchors.modify place fun (name, _) => (name, some value) }
  | none => pure ()
  return value

/-- The value of a name. A value that is not complete is unfit. -/
def mention? (name : String) : Reader Yaml := do
  let value ← (← get).anchors.lookup name
  return value.getD (leaf .unfit)

/-- What a scalar stands for. -/
def ofScalar (p : Properties) (isPlain : Bool) (s : String) : Yaml :=
  leaf <|
    if !isPlain then .text s
    else
      match p.tag with
      | none => .ofPlain s
      | some (meaning, name) => if meaning = standardMeaning then .ofTagged name s else .text s

/-! ### Values -/

/-- Where a value stands. -/
inductive Position where
  /-- At the root, or as an item of a list by indentation. -/
  | block
  /-- As the key or the value of an entry of a table by indentation, where the dashes of a list may
  be as far to the right as the keys. -/
  | entry
  /-- Within brackets or braces. -/
  | flow
  deriving DecidableEq, Repr

/-- Whether one of some tokens comes next. -/
def isNext (tokens : List Token) : Reader Bool := do
  return (← peek).any tokens.contains

/-- The absence of a value. -/
def absent : Yaml := leaf .nothing

mutual

/-- Reads the value that stands at a position. `fuel` bounds the number of calls on the way to any
part of it. -/
def value? (position : Position) : Nat → Reader Yaml
  | 0 => failure
  | fuel + 1 => do
    match ← peek with
    | some (.mention name) =>
      skip
      mention? name
    | _ =>
      let p ← properties
      match ← peek, position with
      | some .item, .entry => keep p (list (← looseItems? fuel))
      | some (.scalar isPlain s), _ =>
        skip
        keep p (ofScalar p isPlain s)
      | some .flowListStart, _ =>
        skip
        keep p (list (← flowItems? fuel))
      | some .flowTableStart, _ =>
        skip
        keep p (← ofNodes? (← flowNodes? true fuel))
      | some .blockListStart, .block | some .blockListStart, .entry =>
        skip
        keep p (list (← blockItems? fuel))
      | some .blockTableStart, .block | some .blockTableStart, .entry =>
        skip
        keep p (← ofNodes? (← blockNodes? fuel))
      | _, _ =>
        if p.anchor.isSome || p.tag.isSome then keep p (ofScalar p true "") else failure

/-- Reads the value that stands at a position, or nothing if one of some tokens comes next. -/
def valueUnless? (tokens : List Token) (position : Position) : Nat → Reader Yaml
  | 0 => failure
  | fuel + 1 => do if ← isNext tokens then return absent else value? position fuel

/-- Reads the items of a list whose dashes are as far to the right as the keys around it. -/
def looseItems? : Nat → Reader (List Yaml)
  | 0 => failure
  | fuel + 1 => do
    if ← skipIf .item then
      let item ← valueUnless? [.item, .key, .value, .blockEnd] .block fuel
      return item :: (← looseItems? fuel)
    else return []

/-- Reads the items of a list by indentation up to its end. -/
def blockItems? : Nat → Reader (List Yaml)
  | 0 => failure
  | fuel + 1 => do
    if ← skipIf .blockEnd then return []
    else if ← skipIf .item then
      let item ← valueUnless? [.item, .blockEnd] .block fuel
      return item :: (← blockItems? fuel)
    else failure

/-- Reads the keys and values of a table by indentation up to its end, in turn. -/
def blockNodes? : Nat → Reader (List Yaml)
  | 0 => failure
  | fuel + 1 => do
    if ← skipIf .blockEnd then return []
    else
      let ends : List Token := [.key, .value, .blockEnd]
      let key ←
        if ← skipIf .key then valueUnless? ends .entry fuel
        else if ← isNext [.value] then pure absent
        else failure
      let value ← if ← skipIf .value then valueUnless? ends .entry fuel else pure absent
      return key :: value :: (← blockNodes? fuel)

/-- Reads the items of a list in brackets up to the closing one. A table with one entry needs no
braces there. -/
def flowItems? : Nat → Reader (List Yaml)
  | 0 => failure
  | fuel + 1 => do
    if ← skipIf .flowListEnd then return []
    else
      let item ←
        if ← skipIf .key then ofNodes? (← pairNodes? fuel) else value? .flow fuel
      if ← skipIf .flowListEnd then return [item]
      else if ← skipIf .comma then return item :: (← flowItems? fuel)
      else failure

/-- Reads the key and the value of a table without braces. -/
def pairNodes? : Nat → Reader (List Yaml)
  | 0 => failure
  | fuel + 1 => do
    let key ← valueUnless? [.value, .comma, .flowListEnd] .flow fuel
    let value ←
      if ← skipIf .value then valueUnless? [.comma, .flowListEnd] .flow fuel else pure absent
    return [key, value]

/-- Reads the keys and values of a table in braces up to the closing one, in turn. A key without a
mark in front has no value. -/
def flowNodes? (isFirst : Bool) : Nat → Reader (List Yaml)
  | 0 => failure
  | fuel + 1 => do
    if ← skipIf .flowTableEnd then return []
    else if !isFirst && !(← skipIf .comma) then failure
    else if ← skipIf .flowTableEnd then return []
    else
      let ends : List Token := [.comma, .flowTableEnd]
      let hasKey ← skipIf .key
      let (key, value) ←
        if hasKey || (← isNext [.value]) then
          let key ← valueUnless? (.value :: ends) .flow fuel
          let value ← if ← skipIf .value then valueUnless? ends .flow fuel else pure absent
          pure (key, value)
        else pure (← value? .flow fuel, absent)
      return key :: value :: (← flowNodes? false fuel)

end

/-! ### Documents -/

/-- Reads the directives in front of a document, of which one at most is about the version. Of the
meanings of handles the last directive counts. -/
def directives? (hasVersion : Bool) : Nat → Reader Unit
  | 0 => failure
  | fuel + 1 => do
    match ← peek with
    | some .version =>
      if hasVersion then failure
      else
        skip
        modify fun c => { c with handle := none }
        directives? true fuel
    | some (.tagHandle handle meaning) =>
      skip
      modify fun c => { c with handle := some (handle, meaning) }
      directives? hasVersion fuel
    | _ => return

/-- Goes on behind marks after documents. -/
def skipEnds : Reader Unit :=
  modify fun c => { c with tokens := c.tokens.dropWhile (· == .documentEnd) }

/-- Whether a directive comes next. -/
def isDirectiveNext : Reader Bool := do
  match ← peek with
  | some .version | some (.tagHandle ..) => return true
  | _ => return false

/-- Reads the root of the document that follows. -/
def root? (fuel : Nat) : Reader Yaml := do
  let isExplicit ← isDirectiveNext
  directives? false fuel
  if ← skipIf .documentStart then
    let isEmpty := (← peek).isNone || (← isDirectiveNext)
      || (← isNext [.documentStart, .documentEnd])
    if isEmpty then return absent else value? .block fuel
  else if isExplicit then failure
  else value? .block fuel

/-- Reads the value of a document that is the only one: a table without entries if there is none. -/
def document? (fuel : Nat) : Reader Yaml := do
  skipEnds
  if (← peek).isNone then return table []
  else
    let value ← root? fuel
    skipEnds
    if (← peek).isNone then return value else failure

end Node

/-- The value that a text consists of. -/
def ofTokens? (tokens : List Token) : Option Yaml :=
  ((Node.document? (4 * tokens.length + 4)).run' ⟨tokens, [], none⟩)

end AgvDispatch.Yaml
