/-!
# JSON values

The form in which records are exchanged. Numbers are told apart by how they are written: an integer
has neither a point nor an exponent.
-/

namespace AgvDispatch

/-- A JSON value. -/
inductive Json where
  /-- The value that stands for nothing. -/
  | null
  /-- A truth value. -/
  | bool (b : Bool)
  /-- A number written as an integer. -/
  | integer (n : Int)
  /-- Any other number. -/
  | real (x : Float)
  /-- A text. -/
  | text (s : String)
  /-- A list of values. -/
  | list (items : List Json)
  /-- Values by name. -/
  | record (fields : List (String × Json))
  deriving Inhabited, Repr

namespace Json

/-- A number that may be missing from the range of finite numbers, in which case it is `null`. -/
def ofFloat (x : Float) : Json :=
  if x.isFinite then real x else null

/-- A natural number. -/
def ofNat (n : Nat) : Json := integer n

/-- A value, or `null` in its absence. -/
def ofOption {β : Type} (encode : β → Json) : Option β → Json
  | none => null
  | some b => encode b

/-- A list of values. -/
def ofList {β : Type} (encode : β → Json) (bs : List β) : Json :=
  list (bs.map encode)

/-- The value of a field of a record. Of several fields with one name the last one counts. -/
def field? (name : String) : Json → Option Json
  | record fields => (fields.reverse.find? (·.1 == name)).map (·.2)
  | _ => none

end Json

end AgvDispatch
