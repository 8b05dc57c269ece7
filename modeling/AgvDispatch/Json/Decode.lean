import AgvDispatch.Json.Basic
/-!
# Decoding records

A record is written with named fields or as the list of its fields in order. A **decoder** takes the
fields one after the other, in the order of the record. Named fields that it does not ask for are
ignored; a list must be used up.

* `Decoder.required` takes a field that must be there.
* `Decoder.optional` takes one that may be absent or `null`.
* `Decoder.defaulted` takes one that may be absent but not `null`.
-/

namespace AgvDispatch.Json

/-! ### Single values -/

/-- An integer within bounds. -/
def toIntWithin? (low high : Int) : Json → Option Int
  | integer n => if low ≤ n ∧ n ≤ high then some n else none
  | _ => none

/-- A signed integer of 32 bits. -/
def toInt32? : Json → Option Int := toIntWithin? (-2147483648) 2147483647

/-- An unsigned integer of the given number of bits. -/
def toNat? (bits : Nat) (j : Json) : Option Nat :=
  (toIntWithin? 0 (Nat.pow 2 bits - 1 : Nat) j).map Int.toNat

/-- A number of any form. -/
def toFloat? : Json → Option Float
  | integer n => some (Float.ofInt n)
  | real x => some x
  | _ => none

/-- A truth value. -/
def toBool? : Json → Option Bool
  | bool b => some b
  | _ => none

/-- A text. -/
def toText? : Json → Option String
  | text s => some s
  | _ => none

/-- A value that may be `null`. -/
def toNullable? {β : Type} (decode : Json → Option β) : Json → Option (Option β)
  | null => some none
  | j => (decode j).map some

/-- A list of values that can all be decoded. -/
def toList? {β : Type} (decode : Json → Option β) : Json → Option (List β)
  | list items => items.mapM decode
  | _ => none

/-- A choice by name: the name itself, or a record of one field of that name that is `null`. -/
def toChoice? {β : Type} (name : β → String) (all : List β) : Json → Option β
  | text s => all.find? fun b => name b == s
  | record [(s, null)] => all.find? fun b => name b == s
  | _ => none

/-- Values that have a record form, in which they can be written and read. -/
class JsonForm (β : Type) where
  /-- A value as a record. -/
  toJson : β → Json
  /-- A value from a record. -/
  ofJson? : Json → Option β

/-- The record form of a choice is its name. -/
@[reducible]
def choiceForm {β : Type} (name : β → String) (all : List β) : JsonForm β where
  toJson b := text (name b)
  ofJson? := toChoice? name all

/-! ### Records -/

/-- The fields of a record that have not been taken. -/
inductive FieldSource where
  /-- Fields by name. -/
  | named (fields : Json)
  /-- Fields in order. -/
  | ordered (items : List Json)

/-- Something that takes fields and yields a value. -/
abbrev Decoder (β : Type) := StateT FieldSource Option β

namespace Decoder

/-- Takes a field, if it is there. -/
def take (name : String) : Decoder (Option Json) := do
  match ← get with
  | .named fields => return fields.field? name
  | .ordered [] => return none
  | .ordered (item :: items) =>
    set (FieldSource.ordered items)
    return some item

/-- Takes a field that must be there. -/
def required {β : Type} (name : String) (decode : Json → Option β) : Decoder β := do
  match ← take name with
  | none => failure
  | some j => decode j

/-- Takes a field that may be `null` and, if it goes by its name, absent. -/
def optional {β : Type} (name : String) (decode : Json → Option β) : Decoder (Option β) := do
  match ← take name, ← get with
  | none, .named _ => return none
  | none, .ordered _ => failure
  | some null, _ => return none
  | some j, _ => return some (← decode j)

/-- Takes a field that may be absent. -/
def defaulted {β : Type} (name : String) (default : β) (decode : Json → Option β) :
    Decoder β := do
  match ← take name with
  | none => return default
  | some j => decode j

/-- Decodes a record. -/
def run? {β : Type} (decoder : Decoder β) : Json → Option β
  | record fields => (StateT.run decoder (.named (record fields))).map (·.1)
  | list items =>
    match StateT.run decoder (.ordered items) with
    | some (b, .ordered []) => some b
    | _ => none
  | _ => none

end Decoder

end AgvDispatch.Json
