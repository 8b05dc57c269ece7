import AgvDispatch.Fleet.Snapshot
import AgvDispatch.Json.Shape
import AgvDispatch.Simulation.Summary
/-!
# Records of the fleet

The record forms of commands, snapshots and summaries of simulations. The record of a command says
of which kind it is in the field `type`, or in its first item if it is written as a list.
-/

namespace AgvDispatch

open Json (Decoder JsonForm)

/-- A command as a record. -/
def VehicleCommand.toJson (c : VehicleCommand) : Json :=
  let common := [("type", Json.text c.kind), ("task_id", Json.text c.taskId)]
  match c with
  | move _ route => .record (common ++ [("route", Route.toJson route)])
  | _ => .record common

/-- A command from a record. -/
def VehicleCommand.ofJson? : Json → Option VehicleCommand := Decoder.run? do
  let kind ← Decoder.required "type" Json.toText?
  let taskId ← Decoder.required "task_id" Json.toText?
  match kind with
  | "move" => return move taskId (← Decoder.required "route" Route.ofJson?)
  | "pause" => return pause taskId
  | "resume" => return resume taskId
  | "cancel" => return cancel taskId
  | _ => failure

instance : JsonForm VehicleCommand := ⟨VehicleCommand.toJson, VehicleCommand.ofJson?⟩

/-- The line of a vehicle as a record. -/
def VehicleLine.toJson (line : VehicleLine Float) : Json :=
  .record [("vehicle_id", .text line.vehicleId), ("state", .text line.state.text),
    ("position", line.position.toJson), ("live_tasks", .ofNat line.liveTasks),
    ("reserved_waypoints", .ofNat line.reservedWaypoints)]

/-- The numbers of a traffic state as a record. -/
def TrafficNumbers.toJson (n : TrafficNumbers) : Json :=
  .record [("reservations", .ofNat n.reservations), ("footprints", .ofNat n.footprints),
    ("revision", .ofNat n.revision)]

/-- A snapshot as a record. The time at which it was taken follows where it is known. -/
def FleetSnapshot.toJson (s : FleetSnapshot Float) (time : Option String) : Json :=
  .record ([("vehicles", Json.ofList VehicleLine.toJson s.vehicles),
      ("live_tasks", .ofNat s.liveTasks), ("traffic", s.traffic.toJson),
      ("dispatched", .ofNat s.dispatched), ("failed_commands", .ofNat s.failedCommands)]
    ++ (time.map fun t => ("taken_at", Json.text t)).toList)

/-- A summary as a record, after the name of the run and with the time at which it ended, where they
are known. -/
def SimulationSummary.toJson (s : SimulationSummary Float) (run time : Option String) : Json :=
  .record ((run.map fun r => ("run_id", Json.text r)).toList
    ++ [("seed", .ofNat s.seed), ("vehicles", .ofNat s.vehicles), ("ticks", .ofNat s.ticks),
      ("grid_side", .ofNat s.gridSide), ("tasks_created", .ofNat s.created),
      ("tasks_assigned", .ofNat s.assigned), ("tasks_unassigned", .ofNat s.unassigned),
      ("tasks_finished", .ofNat s.finished), ("plans_committed", .ofNat s.committed),
      ("plans_deferred", .ofNat s.deferred), ("commands_sent", .ofNat s.sent),
      ("commands_flushed", .bool s.flushed), ("fleet", s.fleet.toJson time)])

end AgvDispatch
