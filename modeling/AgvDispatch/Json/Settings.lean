import AgvDispatch.Json.Shape
import AgvDispatch.Settings.Basic
/-!
# Records of settings

The record form of settings. Sections and fields may be absent, in which case the standard settings
hold.
-/

namespace AgvDispatch

open Json (Decoder JsonForm choiceForm)

instance : JsonForm AllocationMode := choiceForm AllocationMode.text AllocationMode.all

/-- The floor as a record. -/
def FloorSettings.toJson (f : FloorSettings Float) : Json :=
  .record [("min_x", .ofFloat f.minX), ("min_y", .ofFloat f.minY), ("width", .ofFloat f.width),
    ("height", .ofFloat f.height), ("grid_size", .ofNat f.gridSize)]

/-- The floor from a record. -/
def FloorSettings.ofJson? : Json → Option (FloorSettings Float) := Decoder.run? do
  let default : FloorSettings Float := .standard
  let minX ← Decoder.defaulted "min_x" default.minX Json.toFloat?
  let minY ← Decoder.defaulted "min_y" default.minY Json.toFloat?
  let width ← Decoder.defaulted "width" default.width Json.toFloat?
  let height ← Decoder.defaulted "height" default.height Json.toFloat?
  let gridSize ← Decoder.defaulted "grid_size" default.gridSize (Json.toNat? 64)
  return { minX, minY, width, height, gridSize }

instance : JsonForm (FloorSettings Float) := ⟨FloorSettings.toJson, FloorSettings.ofJson?⟩

/-- The clearances as a record. -/
def TrafficSettings.toJson (t : TrafficSettings Float) : Json :=
  .record [("buffer_radius", .ofFloat t.bufferRadius), ("safety_buffer", .ofFloat t.safetyBuffer)]

/-- The clearances from a record. -/
def TrafficSettings.ofJson? : Json → Option (TrafficSettings Float) := Decoder.run? do
  let default : TrafficSettings Float := .standard
  let bufferRadius ← Decoder.defaulted "buffer_radius" default.bufferRadius Json.toFloat?
  let safetyBuffer ← Decoder.defaulted "safety_buffer" default.safetyBuffer Json.toFloat?
  return { bufferRadius, safetyBuffer }

instance : JsonForm (TrafficSettings Float) := ⟨TrafficSettings.toJson, TrafficSettings.ofJson?⟩

/-- The listings of vehicles by origin key, from a record. -/
def AllocationSettings.originsOfJson? : Json → Option (Std.TreeMap String String)
  | .record fields =>
    fields.foldlM (fun table (key, value) => do return table.insert key (← value.toText?)) {}
  | _ => none

/-- The allocation as a record. -/
def AllocationSettings.toJson (a : AllocationSettings) : Json :=
  .record [("mode", .text a.mode.text), ("lowest_work_battery", .ofNat a.lowestBattery),
    ("origin_specify", .record (a.originVehicles.toList.map fun (key, ids) => (key, .text ids))),
    ("revalidate_progress", .bool a.revalidate)]

/-- The allocation from a record. -/
def AllocationSettings.ofJson? : Json → Option AllocationSettings := Decoder.run? do
  let default : AllocationSettings := .standard
  let mode ← Decoder.defaulted "mode" default.mode JsonForm.ofJson?
  let lowestBattery ←
    Decoder.defaulted "lowest_work_battery" default.lowestBattery (Json.toNat? 8)
  let originVehicles ← Decoder.defaulted "origin_specify" default.originVehicles originsOfJson?
  let revalidate ← Decoder.defaulted "revalidate_progress" default.revalidate Json.toBool?
  return { mode, lowestBattery, originVehicles, revalidate }

instance : JsonForm AllocationSettings := ⟨AllocationSettings.toJson, AllocationSettings.ofJson?⟩

/-- The log as a record. -/
def LogSettings.toJson (l : LogSettings) : Json :=
  .record [("level", .text l.level), ("json", .bool l.json)]

/-- The log from a record. -/
def LogSettings.ofJson? : Json → Option LogSettings := Decoder.run? do
  let default : LogSettings := .standard
  let level ← Decoder.defaulted "level" default.level Json.toText?
  let json ← Decoder.defaulted "json" default.json Json.toBool?
  return { level, json }

instance : JsonForm LogSettings := ⟨LogSettings.toJson, LogSettings.ofJson?⟩

/-- Settings as a record. -/
def Settings.toJson (s : Settings Float) : Json :=
  .record [("spatial", s.floor.toJson), ("traffic", s.traffic.toJson),
    ("distribution", s.allocation.toJson), ("logging", s.log.toJson)]

/-- Settings from a record. -/
def Settings.ofJson? : Json → Option (Settings Float) := Decoder.run? do
  let default : Settings Float := .standard
  let floor ← Decoder.defaulted "spatial" default.floor FloorSettings.ofJson?
  let traffic ← Decoder.defaulted "traffic" default.traffic TrafficSettings.ofJson?
  let allocation ← Decoder.defaulted "distribution" default.allocation AllocationSettings.ofJson?
  let log ← Decoder.defaulted "logging" default.log LogSettings.ofJson?
  return { floor, traffic, allocation, log }

instance : JsonForm (Settings Float) := ⟨Settings.toJson, Settings.ofJson?⟩

end AgvDispatch
