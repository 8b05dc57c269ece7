import AgvDispatch.Toml.Moment
/-!
# TOML values

The values of a TOML document, and the ways in which its tables grow. A table may be written in
several places, but no place may touch what another one has settled. So every table remembers how it
came to be.

* `Toml.insertAt?` adds an entry with a dotted key.
* `Toml.openTable?` and `Toml.openElement?` begin the table of a header.
-/

namespace AgvDispatch

/-- How a table came to be. -/
inductive Toml.Origin where
  /-- It was written in braces and is complete. -/
  | braces
  /-- It was named on the way to another table, and its own header may follow. -/
  | implied
  /-- It was opened by a header of its own. -/
  | header
  /-- It was made by a dotted key, and further dotted keys may add to it. -/
  | dotted
  deriving DecidableEq, Repr

/-- A TOML value. -/
inductive Toml where
  /-- A truth value. -/
  | boolean (b : Bool)
  /-- An integer. -/
  | integer (n : Int)
  /-- A number with a point or an exponent. -/
  | real (x : Float)
  /-- A text. -/
  | text (s : String)
  /-- A point in time. -/
  | moment (m : Toml.Moment)
  /-- A list written in brackets. -/
  | list (items : List Toml)
  /-- A list of tables that further headers may add to. -/
  | elements (tables : List (List (String × Toml)))
  /-- A table. -/
  | table (origin : Toml.Origin) (fields : List (String × Toml))
  deriving Inhabited, Repr

namespace Toml

/-- The fields of a table. -/
abbrev Fields := List (String × Toml)

/-- The fields with one of them replaced. -/
def replace (key : String) (value : Toml) (fields : Fields) : Fields :=
  fields.map fun field => if field.1 == key then (key, value) else field

/-- The fields after an entry with a dotted key, unless something else is in its way. The table that
receives the entry must be made by dotted keys. One that is only passed through may also be implied,
or the last of a list of tables. -/
def insertAt? (value : Toml) : List String → Fields → Option Fields
  | [], _ => none
  | [key], fields =>
    match fields.lookup key with
    | none => some (fields ++ [(key, value)])
    | some _ => none
  | key :: next :: path, fields =>
    match fields.lookup key with
    | none =>
      (insertAt? value (next :: path) []).map fun inner => fields ++ [(key, table .dotted inner)]
    | some (table .dotted inner) =>
      (insertAt? value (next :: path) inner).map fun inner =>
        replace key (table .dotted inner) fields
    | some (table .implied inner) =>
      if path.isEmpty then none
      else
        (insertAt? value (next :: path) inner).map fun inner =>
          replace key (table .implied inner) fields
    | some (elements tables) =>
      match path, tables.getLast? with
      | _ :: _, some inner =>
        (insertAt? value (next :: path) inner).map fun inner =>
          replace key (elements (tables.dropLast ++ [inner])) fields
      | _, _ => none
    | some _ => none

/-- The fields after a change to the table at a path. Tables that are missing on the way are
implied, and of a list of tables the last one is meant. -/
def enter? (change : Fields → Option Fields) : List String → Fields → Option Fields
  | [], fields => change fields
  | key :: path, fields =>
    match fields.lookup key with
    | none => (enter? change path []).map fun inner => fields ++ [(key, table .implied inner)]
    | some (table .braces _) => none
    | some (table origin inner) =>
      (enter? change path inner).map fun inner => replace key (table origin inner) fields
    | some (elements tables) =>
      match tables.getLast? with
      | none => none
      | some inner =>
        (enter? change path inner).map fun inner =>
          replace key (elements (tables.dropLast ++ [inner])) fields
    | some _ => none

/-- The fields after the header of a table. -/
def openTable? (key : String) (fields : Fields) : Option Fields :=
  match fields.lookup key with
  | none => some (fields ++ [(key, table .header [])])
  | some (table .implied inner) => some (replace key (table .header inner) fields)
  | some _ => none

/-- The fields after the header of a further table of a list. -/
def openElement? (key : String) (fields : Fields) : Option Fields :=
  match fields.lookup key with
  | none => some (fields ++ [(key, elements [[]])])
  | some (elements tables) => some (replace key (elements (tables ++ [[]])) fields)
  | some _ => none

end Toml

end AgvDispatch
