import AgvDispatch.Decimal.Reading
import AgvDispatch.Settings.Tree
import AgvDispatch.Text.Integer
import AgvDispatch.Text.Lower
/-!
# Layers of settings

Settings come in layers, each of which overrides the ones below it. A layer is a list of named
trees, whose names may be paths. Laying a tree over another one merges their tables and replaces
everything else. Names are not sensitive to case: they are kept in lower case.

* `Setting.assign` lays a value of a name over a table.
* `Setting.assignAt` does so further inside, at a path.
* `Setting.overlay` lays a whole layer over a tree.
-/

namespace AgvDispatch

namespace Setting

mutual

/-- A tree with a value laid over the field of a name. What is no table is dropped. -/
def assign (name : String) (value : Setting) (tree : Setting) : Setting :=
  let name := Text.lower name
  match value with
  | table entries =>
    table (put name (assignAll entries ((tree.fields.lookup name).getD (table []))) tree.fields)
  | value => table (put name value tree.fields)

/-- A tree with values laid over its fields, one after the other. -/
def assignAll : Fields → Setting → Setting
  | [], tree => tree
  | (name, value) :: entries, tree => assignAll entries (assign name value tree)

end

/-! ### Paths -/

/-- A step into a tree. -/
inductive Step where
  /-- To the field of a name. -/
  | field (name : String)
  /-- To the item at an index, which counts from the end if it is negative. -/
  | item (index : Int)
  deriving DecidableEq, Repr

/-- The place in a list that an index means. -/
def place (index : Int) (size : Nat) : Nat :=
  (if index < 0 then size + index else index).toNat

/-- A tree with a value laid over what is at a path. On the way, what has no fields or no items gets
them. An item is replaced and not merged. -/
def assignAt (value : Setting) : List Step → Setting → Setting
  | [], tree => tree
  | [.field name], tree => assign name value tree
  | [.item index], tree => list (putItem (place index tree.items.length) value tree.items)
  | .field name :: path, tree =>
    let name := Text.lower name
    let inner := (tree.fields.lookup name).getD nothing
    table (put name (assignAt value path inner) tree.fields)
  | .item index :: path, tree =>
    let index := place index tree.items.length
    let inner := (tree.items[index]?).getD nothing
    list (putItem index (assignAt value path inner) tree.items)

/-! ### Written paths -/

/-- Whether a character may occur in a name within a path. -/
def isNamePart (c : Char) : Bool := c.isAlphanum || c == ' ' || c == '_' || c == '-'

/-- The name at the beginning of a path, and what follows it. -/
def name? (cs : List Char) : Option (Step × List Char) :=
  let name := cs.takeWhile isNamePart
  if name.isEmpty then none else some (.field (String.ofList name), cs.dropWhile isNamePart)

/-- The index that a text consists of, apart from the blanks around it. -/
def index? (cs : List Char) : Option Int :=
  let isGap (c : Char) : Bool := c == ' ' || c == '\t'
  match ((cs.dropWhile isGap).reverse.dropWhile isGap).reverse with
  | '+' :: _ => none
  | cs => Text.readInt64? cs

/-- The step at the beginning of what follows the first name of a path, and what follows it. A name
comes after a point and an index stands in brackets. -/
def step? : List Char → Option (Step × List Char)
  | '.' :: cs => name? cs
  | '[' :: cs =>
    match cs.dropWhile (· != ']') with
    | _ :: rest => (index? (cs.takeWhile (· != ']'))).map fun index => (.item index, rest)
    | [] => none
  | _ => none

/-- The steps that follow the first name of a path, of which there are at most `fuel`. -/
def steps? : Nat → List Char → Option (List Step)
  | _, [] => some []
  | 0, _ :: _ => none
  | fuel + 1, cs => do
    let (step, rest) ← step? cs
    return step :: (← steps? fuel rest)

/-- The path that a text consists of. -/
def path? (cs : List Char) : Option (List Step) := do
  let (first, rest) ← name? cs
  return first :: (← steps? rest.length rest)

/-- The path that the name of an entry of a layer stands for. A name that is no well-formed path
stands for itself. -/
def pathOf (name : String) : List Step := (path? name.toList).getD [.field name]

/-- A tree with the entries of a layer laid over it. -/
def overlay (tree : Setting) (layer : Fields) : Setting :=
  layer.foldl (fun tree (name, value) => assignAt value (pathOf name) tree) tree

/-! ### The environment -/

/-- What the name of a variable begins with if it is about settings. -/
def variableMark : String := "fleet__"

/-- The name of the setting that a variable is about: what follows the mark, with a point in place
of every two low lines. -/
def variableName? (name : String) : Option String :=
  let name := Text.lower name
  if name.startsWith variableMark then
    some (".".intercalate ((name.drop variableMark.length).toString.splitOn "__"))
  else none

/-- The value of a variable: a truth value, else an integer of 64 bits, else a number, else text. -/
def ofVariable (value : String) : Setting :=
  match Text.lower value with
  | "true" => boolean true
  | "false" => boolean false
  | _ =>
    let cs := value.toList
    match Text.readInt64? cs, Decimal.readReal? cs with
    | some n, _ => integer n
    | none, some x => real x
    | none, none => text value

/-- The layer that variables make up. -/
def ofEnvironment (environment : List (String × String)) : Fields :=
  environment.filterMap fun (name, value) =>
    (variableName? name).map fun name => (name, ofVariable value)

end Setting

end AgvDispatch
