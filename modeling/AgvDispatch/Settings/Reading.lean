import AgvDispatch.Decimal.Shortest
import AgvDispatch.Scalar.Double
import AgvDispatch.Settings.Basic
import AgvDispatch.Settings.Layer
/-!
# Reading settings

A tree of named values becomes settings. Values are converted where that makes sense: numbers, truth
values and text stand for each other. What is absent takes its standard value, and names without a
meaning are ignored. A section may also be the list of its values in order.
-/

namespace AgvDispatch

namespace Setting

/-! ### Conversions -/

/-- The truth value that a word stands for, in any case. -/
def ofWord? (word : String) : Option Bool :=
  match Text.lower word with
  | "true" | "on" | "yes" => some true
  | "false" | "off" | "no" => some false
  | _ => none

/-- A number. -/
def toFloat? : Setting → Option Float
  | real x => some x
  | integer n => some (Float.ofInt n)
  | boolean b => some (if b then 1.0 else 0.0)
  | text s =>
    match ofWord? s with
    | some b => some (if b then 1.0 else 0.0)
    | none => Decimal.readReal? s.toList
  | nothing | list _ | table _ => none

/-- A natural number of 64 bits, before its range is checked. Other numbers are rounded. -/
def toCount? : Setting → Option Nat
  | integer n => if 0 ≤ n then some n.toNat else none
  | real x => some x.round.toUInt64.toNat
  | boolean b => some b.toNat
  | text s =>
    match ofWord? s with
    | some b => some b.toNat
    | none => Text.readNat64? s.toList
  | nothing | list _ | table _ => none

/-- A natural number of the given number of bits. -/
def toNat? (bits : Nat) (value : Setting) : Option Nat :=
  value.toCount?.filter fun n => decide (n < Nat.pow 2 bits)

/-- A truth value. -/
def toBool? : Setting → Option Bool
  | boolean b => some b
  | integer n => some (n != 0)
  | real x => some (x != 0)
  | text "1" => some true
  | text "0" => some false
  | text s => ofWord? s
  | nothing | list _ | table _ => none

/-- A text. -/
def toText? : Setting → Option String
  | text s => some s
  | boolean b => some (if b then "true" else "false")
  | integer n => some (toString n)
  | real x => some (Decimal.plain x)
  | nothing | list _ | table _ => none

/-- The mode of a name, in any case. -/
def modeOfName? (name : String) : Option AllocationMode :=
  AllocationMode.all.find? fun mode => Text.lower mode.text == Text.lower name

/-- A mode by name: the name itself, or a table whose only field has it. -/
def toMode? : Setting → Option AllocationMode
  | text name => modeOfName? name
  | table [(name, _)] => modeOfName? name
  | _ => none

/-! ### Sections -/

/-- The values of a section by name, given the names in order. -/
def parts? (names : List String) : Setting → Option (List (String × Setting))
  | table fields => some fields
  | list items => some (names.zip items)
  | _ => none

/-- The value of a name, or the standard value if it is absent. -/
def read? {β : Type} (parts : List (String × Setting)) (name : String) (standard : β)
    (convert : Setting → Option β) : Option β :=
  match parts.lookup name with
  | none => some standard
  | some value => convert value

end Setting

open Setting (read?)

/-- The floor from a section. -/
def FloorSettings.ofSetting? (s : Setting) : Option (FloorSettings Float) := do
  let parts ← s.parts? ["min_x", "min_y", "width", "height", "grid_size"]
  let standard : FloorSettings Float := .standard
  let minX ← read? parts "min_x" standard.minX Setting.toFloat?
  let minY ← read? parts "min_y" standard.minY Setting.toFloat?
  let width ← read? parts "width" standard.width Setting.toFloat?
  let height ← read? parts "height" standard.height Setting.toFloat?
  let gridSize ← read? parts "grid_size" standard.gridSize (Setting.toNat? 64)
  return { minX, minY, width, height, gridSize }

/-- The clearances from a section. -/
def TrafficSettings.ofSetting? (s : Setting) : Option (TrafficSettings Float) := do
  let parts ← s.parts? ["buffer_radius", "safety_buffer"]
  let standard : TrafficSettings Float := .standard
  let bufferRadius ← read? parts "buffer_radius" standard.bufferRadius Setting.toFloat?
  let safetyBuffer ← read? parts "safety_buffer" standard.safetyBuffer Setting.toFloat?
  return { bufferRadius, safetyBuffer }

/-- The listings of vehicles by origin key. -/
def AllocationSettings.originsOfSetting? : Setting → Option (Std.TreeMap String String)
  | .table fields =>
    fields.foldlM (fun origins (key, value) => do return origins.insert key (← value.toText?)) {}
  | _ => none

/-- The allocation from a section. -/
def AllocationSettings.ofSetting? (s : Setting) : Option AllocationSettings := do
  let parts ←
    s.parts? ["mode", "lowest_work_battery", "origin_specify", "revalidate_progress"]
  let standard : AllocationSettings := .standard
  let mode ← read? parts "mode" standard.mode Setting.toMode?
  let lowestBattery ←
    read? parts "lowest_work_battery" standard.lowestBattery (Setting.toNat? 8)
  let originVehicles ← read? parts "origin_specify" standard.originVehicles originsOfSetting?
  let revalidate ← read? parts "revalidate_progress" standard.revalidate Setting.toBool?
  return { mode, lowestBattery, originVehicles, revalidate }

/-- The log from a section. -/
def LogSettings.ofSetting? (s : Setting) : Option LogSettings := do
  let parts ← s.parts? ["level", "json"]
  let standard : LogSettings := .standard
  let level ← read? parts "level" standard.level Setting.toText?
  let json ← read? parts "json" standard.json Setting.toBool?
  return { level, json }

/-- Settings from the tree of all sections. -/
def Settings.ofSetting? (tree : Setting) : Option (Settings Float) := do
  let parts := tree.fields
  let standard : Settings Float := .standard
  let floor ← read? parts "spatial" standard.floor FloorSettings.ofSetting?
  let traffic ← read? parts "traffic" standard.traffic TrafficSettings.ofSetting?
  let allocation ← read? parts "distribution" standard.allocation AllocationSettings.ofSetting?
  let log ← read? parts "logging" standard.log LogSettings.ofSetting?
  return { floor, traffic, allocation, log }

end AgvDispatch
