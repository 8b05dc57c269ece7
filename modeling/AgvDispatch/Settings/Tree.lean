/-!
# Trees of settings

Whatever settings are written in, they are first a tree of values, whose tables hold further values
by name.

* `Setting.put` gives a table a field.
* `Setting.putItem` gives a list an item.
-/

namespace AgvDispatch

/-- A value in a tree of settings. -/
inductive Setting where
  /-- The absence of a value where one is expected. -/
  | nothing
  /-- A truth value. -/
  | boolean (b : Bool)
  /-- An integer. -/
  | integer (n : Int)
  /-- A number with a point or an exponent. -/
  | real (x : Float)
  /-- A text. -/
  | text (s : String)
  /-- A list of values. -/
  | list (items : List Setting)
  /-- Values by name. -/
  | table (fields : List (String × Setting))
  deriving Inhabited, Repr

namespace Setting

/-- The fields of a table. -/
abbrev Fields := List (String × Setting)

/-- The fields of a table. Everything else has none. -/
def fields : Setting → Fields
  | table fields => fields
  | _ => []

/-- The items of a list. Everything else has none. -/
def items : Setting → List Setting
  | list items => items
  | _ => []

/-- The fields after one was added or replaced. -/
def put (name : String) (value : Setting) (fields : Fields) : Fields :=
  if (fields.lookup name).isSome then
    fields.map fun field => if field.1 == name then (name, value) else field
  else fields ++ [(name, value)]

/-- The fields that a list of named values gives. Of several values with one name the last one
counts. -/
def ofEntries (entries : Fields) : Fields :=
  entries.foldl (fun fields (name, value) => put name value fields) []

/-- The items after one was replaced. Items that are missing before it are added. -/
def putItem (index : Nat) (value : Setting) (items : List Setting) : List Setting :=
  (items ++ List.replicate (index + 1 - items.length) nothing).set index value

end Setting

end AgvDispatch
