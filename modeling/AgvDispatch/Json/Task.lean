import AgvDispatch.Json.Shape
import AgvDispatch.Json.Timestamp
import AgvDispatch.Task.SubTask
/-!
# Records of tasks

The record forms of transport orders and of sub-tasks. The record of a sub-task also carries the two
points in time at which it was made and last changed. They must be well formed, but they are not
kept, and they are not written.
-/

namespace AgvDispatch

open Json (Decoder JsonForm choiceForm)

instance : JsonForm Stage := choiceForm Stage.text Stage.all

instance : JsonForm PlanMark := choiceForm PlanMark.name PlanMark.all

instance : JsonForm SubTaskKind :=
  choiceForm SubTaskKind.name [.move, .load, .unload, .charge, .park]

instance : JsonForm CancelReason :=
  choiceForm CancelReason.name [.operator, .vehicleOffline, .client]

/-- A transport order as a record. -/
def TransportOrder.toJson (o : TransportOrder) : Json :=
  .record [("code", .text o.code), ("group", .ofOption .text o.group), ("map_id", .integer o.mapId),
    ("origin", o.origin.toJson), ("destination", o.destination.toJson),
    ("equipment_code", .ofOption .text o.vehicleId), ("equipment_type", .integer o.vehicleKind),
    ("labels", .text o.labels), ("action_code", .integer o.actionCode),
    ("action_parameter", .ofOption .text o.actionParameter), ("state", .text o.stage.text)]

/-- A transport order from a record. -/
def TransportOrder.ofJson? : Json → Option TransportOrder := Decoder.run? do
  let code ← Decoder.required "code" Json.toText?
  let group ← Decoder.optional "group" Json.toText?
  let mapId ← Decoder.required "map_id" Json.toInt32?
  let origin ← Decoder.required "origin" Waypoint.ofJson?
  let destination ← Decoder.required "destination" Waypoint.ofJson?
  let vehicleId ← Decoder.optional "equipment_code" Json.toText?
  let vehicleKind ← Decoder.required "equipment_type" Json.toInt32?
  let labels ← Decoder.required "labels" Json.toText?
  let actionCode ← Decoder.required "action_code" Json.toInt32?
  let actionParameter ← Decoder.optional "action_parameter" Json.toText?
  let stage ← Decoder.required "state" JsonForm.ofJson?
  return { code, group, mapId, origin, destination, vehicleId, vehicleKind, labels, actionCode,
           actionParameter, stage }

instance : JsonForm TransportOrder := ⟨TransportOrder.toJson, TransportOrder.ofJson?⟩

/-- A sub-task as a record. -/
def SubTask.toJson (t : SubTask Float) : Json :=
  .record [("vehicle_id", .text t.vehicleId), ("task_id", .text t.id),
    ("task_code", .text t.orderCode), ("task_group", .ofOption .text t.group),
    ("sub_task_type", .text t.kind.name), ("sub_task_no", .ofNat t.number),
    ("is_final", .bool t.isFinal), ("map_id", .integer t.mapId), ("origin", t.origin.toJson),
    ("destination", t.destination.toJson), ("action_code", .integer t.actionCode),
    ("action_start", .bool t.actionStarted), ("action_no", .ofNat t.actionNumber),
    ("action_parameter", .ofOption .text t.actionParameter),
    ("expect_routes", Route.toJson t.expected), ("running_routes", Route.toJson t.running),
    ("new_plan_routes", Route.toJson t.candidate), ("traveled_routes", Route.toJson t.traveled),
    ("state", .text t.stage.text), ("before_state", .ofOption (.text ·.text) t.previousStage),
    ("current_plan", .text t.mark.name), ("plan_origin", .ofOption Waypoint.toJson t.planOrigin),
    ("plan_destination", .ofOption Waypoint.toJson t.planDestination),
    ("path_code", .ofOption .text t.pathCode), ("last_path_code", .ofOption .text t.lastPathCode),
    ("cancel_type", .ofOption (.text ·.name) t.cancelReason),
    ("expected_cost", .ofFloat t.expectedCost), ("realized_cost", .ofFloat t.realizedCost),
    ("expected_next_point", .ofOption Waypoint.toJson t.expectedNext),
    ("traffic_blocked", .bool t.blocked)]

/-- Accepts a well-formed point in time. -/
def Timestamp.ofJson? (j : Json) : Option Unit := do
  let s ← j.toText?
  guard (isValid s)

/-- A sub-task from a record. -/
def SubTask.ofJson? : Json → Option (SubTask Float) := Decoder.run? do
  let vehicleId ← Decoder.required "vehicle_id" Json.toText?
  let id ← Decoder.required "task_id" Json.toText?
  let orderCode ← Decoder.required "task_code" Json.toText?
  let group ← Decoder.optional "task_group" Json.toText?
  let kind ← Decoder.required "sub_task_type" JsonForm.ofJson?
  let number ← Decoder.required "sub_task_no" (Json.toNat? 32)
  let isFinal ← Decoder.required "is_final" Json.toBool?
  let mapId ← Decoder.required "map_id" Json.toInt32?
  let origin ← Decoder.required "origin" Waypoint.ofJson?
  let destination ← Decoder.required "destination" Waypoint.ofJson?
  let actionCode ← Decoder.required "action_code" Json.toInt32?
  let actionStarted ← Decoder.required "action_start" Json.toBool?
  let actionNumber ← Decoder.required "action_no" (Json.toNat? 32)
  let actionParameter ← Decoder.optional "action_parameter" Json.toText?
  let expected ← Decoder.required "expect_routes" Route.ofJson?
  let running ← Decoder.required "running_routes" Route.ofJson?
  let candidate ← Decoder.required "new_plan_routes" Route.ofJson?
  let traveled ← Decoder.required "traveled_routes" Route.ofJson?
  let stage ← Decoder.required "state" JsonForm.ofJson?
  let previousStage ← Decoder.optional "before_state" JsonForm.ofJson?
  let mark ← Decoder.required "current_plan" JsonForm.ofJson?
  let planOrigin ← Decoder.optional "plan_origin" Waypoint.ofJson?
  let planDestination ← Decoder.optional "plan_destination" Waypoint.ofJson?
  let pathCode ← Decoder.optional "path_code" Json.toText?
  let lastPathCode ← Decoder.optional "last_path_code" Json.toText?
  let cancelReason ← Decoder.optional "cancel_type" JsonForm.ofJson?
  let expectedCost ← Decoder.required "expected_cost" Json.toFloat?
  let realizedCost ← Decoder.required "realized_cost" Json.toFloat?
  let expectedNext ← Decoder.optional "expected_next_point" Waypoint.ofJson?
  let blocked ← Decoder.required "traffic_blocked" Json.toBool?
  let _ ← Decoder.required "created_at" Timestamp.ofJson?
  let _ ← Decoder.required "updated_at" Timestamp.ofJson?
  return {
    vehicleId, id, orderCode, group, kind, number, isFinal, mapId, origin, destination,
    actionCode, actionStarted, actionNumber, actionParameter, expected, running, candidate,
    traveled, stage, previousStage, mark, planOrigin, planDestination, pathCode, lastPathCode,
    cancelReason, expectedCost, realizedCost, expectedNext, blocked }

instance : JsonForm (SubTask Float) := ⟨SubTask.toJson, SubTask.ofJson?⟩

end AgvDispatch
