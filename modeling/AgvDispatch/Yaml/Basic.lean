import AgvDispatch.Decimal.Reading
import AgvDispatch.Settings.Tree
import AgvDispatch.Text.Digit
/-!
# YAML values

A document is a tree of lists and tables, whose leaves are scalars. The form of a scalar without
quotes decides what it stands for, unless it has a tag.

* `Yaml.Leaf.ofPlain` says what a scalar without quotes stands for.
* `Yaml.ofNodes?` puts a table together.
* `Yaml.toSetting?` yields the setting that a value stands for.
-/

namespace AgvDispatch

/-- What a scalar stands for. -/
inductive Yaml.Leaf where
  /-- The absence of a value. -/
  | nothing
  /-- A truth value. -/
  | boolean (b : Bool)
  /-- An integer of 64 bits. -/
  | integer (n : Int)
  /-- A number with a point, an exponent or a name, as it is written. -/
  | real (written : String)
  /-- A text. -/
  | text (s : String)
  /-- A scalar that does not fit its tag, or a value that is not complete where it is mentioned. -/
  | unfit
  deriving DecidableEq, Inhabited, Repr

/-- A value of a document. -/
inductive Yaml where
  /-- A scalar. -/
  | leaf (value : Yaml.Leaf)
  /-- A list of values. -/
  | list (items : List Yaml)
  /-- Values by scalars. -/
  | table (entries : List (Yaml.Leaf × Yaml))
  deriving Inhabited, Repr

namespace Yaml

/-! ### Scalars -/

namespace Leaf

/-- The integer of digits in a base after a sign or without one, which fits into 64 bits. -/
def based? (base : Nat) (cs : List Char) : Option Int :=
  let (negative, digits) := match cs with
    | '-' :: cs => (true, cs)
    | '+' :: cs => (false, cs)
    | cs => (false, cs)
  if digits.isEmpty then none
  else do
    let n : Int := Text.ofDigits base (← digits.mapM (Text.digitIn? base))
    let n := if negative then -n else n
    if -9223372036854775808 ≤ n ∧ n ≤ 9223372036854775807 then some n else none

/-- The integer that a text consists of. -/
def integer? : List Char → Option Int
  | '0' :: 'x' :: cs => based? 16 cs
  | '0' :: 'o' :: cs => based? 8 cs
  | '+' :: cs => Text.readInt64? cs
  | cs => Text.readInt64? cs

/-- The names of numbers that begin with a point or have one after their sign. -/
def pointedNames : List String :=
  [".inf", ".Inf", ".INF", "+.inf", "+.Inf", "+.INF", "-.inf", "-.Inf", "-.INF", ".nan", ".NAN"]

/-- Whether a text is a number with a point, an exponent or a name. -/
def isReal (s : String) : Bool :=
  pointedNames.contains s || (Decimal.readReal? s.toList).isSome

/-- What a scalar without quotes and without a tag stands for. -/
def ofPlain (s : String) : Leaf :=
  match integer? s.toList with
  | some n => integer n
  | none =>
    if s = "~" ∨ s = "null" then nothing
    else if s = "true" then boolean true
    else if s = "false" then boolean false
    else if isReal s then real s
    else text s

/-- What a scalar without quotes stands for if its tag is one of the standard tags. -/
def ofTagged (tag s : String) : Leaf :=
  match tag with
  | "bool" => if s = "true" then boolean true else if s = "false" then boolean false else unfit
  | "int" => ((Text.readInt64? s.toList).map integer).getD unfit
  | "float" => if isReal s then real s else unfit
  | "null" => if s = "~" ∨ s = "null" then nothing else unfit
  | _ => text s

/-- The name of a field that a scalar stands for. -/
def name? : Leaf → Option String
  | boolean b => some (if b then "true" else "false")
  | integer n => some (toString n)
  | real s | text s => some s
  | nothing | unfit => none

/-- The setting that a scalar stands for. Names that begin with a point are understood but not
supported. -/
def toSetting? : Leaf → Option Setting
  | nothing | unfit => some .nothing
  | boolean b => some (.boolean b)
  | integer n => some (.integer n)
  | real s => (Decimal.readReal? s.toList).map .real
  | text s => some (.text s)

end Leaf

/-! ### Tables -/

/-- The entries of a table after further nodes, of which every second one is a key. An unfit scalar
is no key, so that the next node takes its place. No key comes twice, and all keys are scalars. -/
def addNodes? : Option Yaml → List (Leaf × Yaml) → List Yaml → Option (List (Leaf × Yaml))
  | _, entries, [] => some entries
  | none, entries, leaf .unfit :: nodes => addNodes? none entries nodes
  | none, entries, key :: nodes => addNodes? (some key) entries nodes
  | some (leaf key), entries, value :: nodes =>
    if (entries.lookup key).isSome then none else addNodes? none (entries ++ [(key, value)]) nodes
  | some _, _, _ :: _ => none

/-- The table that consists of keys and values in turn. -/
def ofNodes? (nodes : List Yaml) : Option Yaml := (addNodes? none [] nodes).map table

/-! ### Settings -/

mutual

/-- The setting that a value stands for. -/
def toSetting? : Yaml → Option Setting
  | leaf value => value.toSetting?
  | list items => (itemsToSettings? items).map .list
  | table entries => (entriesToFields? entries).map fun fields => .table (Setting.ofEntries fields)

/-- The settings that the items of a list stand for. -/
def itemsToSettings? : List Yaml → Option (List Setting)
  | [] => some []
  | item :: items => do return (← toSetting? item) :: (← itemsToSettings? items)

/-- The fields that the entries of a table stand for. -/
def entriesToFields? : List (Leaf × Yaml) → Option Setting.Fields
  | [] => some []
  | (key, value) :: entries => do
    return (← key.name?, ← toSetting? value) :: (← entriesToFields? entries)

end

end Yaml

end AgvDispatch
