import AgvDispatch.Dispatch.Lane
import AgvDispatch.Fault
import AgvDispatch.Fleet.Command
import Std.Data.TreeMap
/-!
# The sink of commands

Commands leave the fleet through a **sink**. It keeps what it has delivered, in order. What it does
with the next commands to a vehicle can be laid down beforehand; otherwise it delivers.
-/

namespace AgvDispatch

open Std (TreeMap)

/-- What a sink does with a command. -/
inductive SinkAnswer where
  /-- It delivers the command. -/
  | accept
  /-- It refuses the command with a fault. -/
  | refuse (fault : Fault)
  /-- It breaks down. -/
  | breakDown
  deriving DecidableEq, Repr

/-- How the delivery of a command ends as a job. -/
def SinkAnswer.outcome : SinkAnswer → JobOutcome
  | accept => .done
  | refuse _ => .failed
  | breakDown => .panicked

/-- Whether the vehicle turned out to be out of reach. -/
def SinkAnswer.isUnreachable : SinkAnswer → Bool
  | refuse fault => fault.isDeliveryFailure
  | _ => false

/-- What commands are delivered to. -/
structure Sink where
  /-- What happens to the next commands to each vehicle. -/
  plan : TreeMap String (List SinkAnswer) := {}
  /-- What has been delivered, the latest first. -/
  delivered : List (String × VehicleCommand) := []
  deriving Inhabited

namespace Sink

/-- What happens to the next command to a vehicle. -/
def answer (sink : Sink) (vehicleId : String) : SinkAnswer :=
  match sink.plan.get? vehicleId with
  | some (answer :: _) => answer
  | _ => .accept

/-- Hands a command over. -/
def send (sink : Sink) (vehicleId : String) (command : VehicleCommand) : Sink :=
  let plan := match sink.plan.get? vehicleId with
    | some (_ :: later) => sink.plan.insert vehicleId later
    | _ => sink.plan
  match sink.answer vehicleId with
  | .accept => { plan, delivered := (vehicleId, command) :: sink.delivered }
  | _ => { sink with plan }

/-- How many commands have been delivered. -/
def count (sink : Sink) : Nat :=
  sink.delivered.length

/-- The commands delivered to a vehicle, in order. -/
def deliveredTo (sink : Sink) (vehicleId : String) : List VehicleCommand :=
  sink.delivered.reverse.filterMap fun (id, command) =>
    if id == vehicleId then some command else none

end Sink

end AgvDispatch
