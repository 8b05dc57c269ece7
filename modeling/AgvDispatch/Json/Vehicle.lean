import AgvDispatch.Fleet.Report
import AgvDispatch.Json.Shape
import AgvDispatch.Vehicle.Basic
/-!
# Records of vehicles

The record forms of vehicles and of their reports.
-/

namespace AgvDispatch

open Json (Decoder JsonForm choiceForm)

instance : JsonForm VehicleState := choiceForm VehicleState.text VehicleState.all

instance : JsonForm ControlMode := choiceForm ControlMode.name [.dispatcher, .manual]

instance : JsonForm DriveMode := choiceForm DriveMode.name [.auto, .manual]

instance : JsonForm Progress :=
  choiceForm Progress.name [.none, .underway, .finished, .cancelled]

instance : JsonForm Load := choiceForm Load.name [.none, .loaded]

/-- A vehicle as a record. -/
def Vehicle.toJson (v : Vehicle Float) : Json :=
  .record [("id", .text v.id), ("vehicle_type", .integer v.kind), ("labels", .text v.labels),
    ("map_id", .integer v.mapId), ("position", v.position.toJson),
    ("current_point", .ofOption .integer v.currentPoint), ("radius", .ofFloat v.radius),
    ("battery", .ofNat v.battery), ("state", .text v.state.text),
    ("control_mode", .text v.control.name), ("drive_mode", .text v.drive.name),
    ("estop", .bool v.emergencyStop), ("isolated", .bool v.isolated),
    ("map_checked", .bool v.mapChecked), ("task_id", .ofOption .text v.taskId),
    ("task_state", .text v.progress.name), ("goods", .text v.load.name)]

/-- A vehicle from a record. -/
def Vehicle.ofJson? : Json → Option (Vehicle Float) := Decoder.run? do
  let id ← Decoder.required "id" Json.toText?
  let kind ← Decoder.required "vehicle_type" Json.toInt32?
  let labels ← Decoder.required "labels" Json.toText?
  let mapId ← Decoder.required "map_id" Json.toInt32?
  let position ← Decoder.required "position" Point.ofJson?
  let currentPoint ← Decoder.optional "current_point" Json.toInt32?
  let radius ← Decoder.required "radius" Json.toFloat?
  let battery ← Decoder.required "battery" (Json.toNat? 8)
  let state ← Decoder.required "state" JsonForm.ofJson?
  let control ← Decoder.required "control_mode" JsonForm.ofJson?
  let drive ← Decoder.required "drive_mode" JsonForm.ofJson?
  let emergencyStop ← Decoder.required "estop" Json.toBool?
  let isolated ← Decoder.required "isolated" Json.toBool?
  let mapChecked ← Decoder.required "map_checked" Json.toBool?
  let taskId ← Decoder.optional "task_id" Json.toText?
  let progress ← Decoder.required "task_state" JsonForm.ofJson?
  let load ← Decoder.required "goods" JsonForm.ofJson?
  return { id, kind, labels, mapId, position, currentPoint, radius, battery, state, control, drive,
           emergencyStop, isolated, mapChecked, taskId, progress, load }

instance : JsonForm (Vehicle Float) := ⟨Vehicle.toJson, Vehicle.ofJson?⟩

/-- A report as a record. -/
def VehicleReport.toJson (r : VehicleReport Float) : Json :=
  .record [("vehicle_id", .text r.vehicleId), ("map_id", .integer r.mapId),
    ("position", r.position.toJson), ("current_point", .ofOption .integer r.currentPoint),
    ("remaining_route", Route.toJson r.remaining), ("battery", .ofOption .ofNat r.battery),
    ("state", .ofOption (.text ·.text) r.state), ("task_id", .ofOption .text r.taskId),
    ("task_state", .ofOption (.text ·.name) r.progress)]

/-- A report from a record. -/
def VehicleReport.ofJson? : Json → Option (VehicleReport Float) := Decoder.run? do
  let vehicleId ← Decoder.required "vehicle_id" Json.toText?
  let mapId ← Decoder.required "map_id" Json.toInt32?
  let position ← Decoder.required "position" Point.ofJson?
  let currentPoint ← Decoder.defaulted "current_point" none (Json.toNullable? Json.toInt32?)
  let remaining ← Decoder.defaulted "remaining_route" [] Route.ofJson?
  let battery ← Decoder.defaulted "battery" none (Json.toNullable? (Json.toNat? 8))
  let state ← Decoder.defaulted "state" none (Json.toNullable? JsonForm.ofJson?)
  let taskId ← Decoder.defaulted "task_id" none (Json.toNullable? Json.toText?)
  let progress ← Decoder.defaulted "task_state" none (Json.toNullable? JsonForm.ofJson?)
  return { vehicleId, mapId, position, currentPoint, remaining, battery, state, taskId, progress }

instance : JsonForm (VehicleReport Float) := ⟨VehicleReport.toJson, VehicleReport.ofJson?⟩

end AgvDispatch
