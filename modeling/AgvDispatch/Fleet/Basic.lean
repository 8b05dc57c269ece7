import AgvDispatch.Allocation.Distributor
import AgvDispatch.Dispatch.Dispatcher
import AgvDispatch.Fleet.Report
import AgvDispatch.Fleet.Sink
import AgvDispatch.Traffic.Safety
/-!
# The fleet

The state in which everything comes together: the registry, the network, the traffic, the backlog,
and the dispatcher through whose lanes commands reach the vehicles, one lane for each vehicle.

* `Fleet.assign` gives an order to a vehicle as a new sub-task.
* `Fleet.report` takes in what a vehicle tells about itself.
* `Fleet.pause`, `Fleet.resume`, `Fleet.cancel` and `Fleet.finish` change the stage of the sub-task
  that a vehicle executes, and `Fleet.takeOffline` drops what is held for a vehicle.
* `Fleet.deliver` is one step of the worker of a vehicle, and `Fleet.settle` takes all such steps.

Planning has a module of its own. An operation that fails returns the fleet as it was.
-/

namespace AgvDispatch

/-- The state of a fleet. -/
structure Fleet (α : Type) [Scalar α] where
  /-- The settings. -/
  settings : Settings α
  /-- The known vehicles. -/
  registry : Registry α
  /-- The road network. -/
  network : Network α
  /-- Reservations and footprints. -/
  traffic : Traffic α
  /-- The sub-tasks of the vehicles. -/
  backlog : Backlog α
  /-- What finds vehicles for orders. -/
  distributor : Distributor α
  /-- The commands on their way, by vehicle. -/
  dispatcher : Dispatcher VehicleCommand
  /-- What commands are delivered to. -/
  sink : Sink

/-- The index over a configured floor, without entries. -/
def FloorSettings.index {α ι : Type} [Scalar α] (floor : FloorSettings α) : BoxIndex α ι :=
  BoxIndex.empty ⟨floor.minX, floor.minY⟩ floor.width floor.height floor.gridSize

namespace Fleet

variable {α : Type} [Scalar α]

/-- A fleet that has done nothing yet. -/
def start (settings : Settings α) (registry : Registry α) (network : Network α)
    (hook : Option (AllocationHook α)) (sink : Sink) : Fleet α where
  settings
  registry
  network
  sink
  traffic := Traffic.ofIndex settings.floor.index
  backlog := {}
  distributor := Distributor.ofSettings settings.allocation hook
  dispatcher := {}

/-! ### Commands -/

/-- Puts a command to a vehicle in line behind the earlier ones. -/
def emit (f : Fleet α) (vehicleId : String) (command : VehicleCommand) : Fleet α :=
  { f with dispatcher := f.dispatcher.submit vehicleId command }

/-- Hands a command over to the sink on behalf of a worker. A vehicle that turns out to be out of
reach is marked as offline. -/
def handOver (f : Fleet α) (vehicleId : String) (i : Nat) (command : VehicleCommand) : Fleet α :=
  let answer := f.sink.answer vehicleId
  { f with
    sink := f.sink.send vehicleId command
    registry := if answer.isUnreachable then f.registry.markOffline vehicleId else f.registry
    dispatcher := f.dispatcher.finish vehicleId i answer.outcome }

/-- One step of a worker of a vehicle. -/
def deliver (f : Fleet α) (vehicleId : String) (i : Nat) : Fleet α :=
  match (f.dispatcher.lane vehicleId).running? i with
  | some command => f.handOver vehicleId i command
  | none => { f with dispatcher := f.dispatcher.wake vehicleId i }

/-- Takes steps of the worker of a vehicle until it has ended, at most the given number of them. -/
def drainLane : Nat → Fleet α → String → Fleet α
  | 0, f, _ => f
  | fuel + 1, f, vehicleId =>
    if (f.dispatcher.lane vehicleId).workers.isEmpty then f
    else drainLane fuel (f.deliver vehicleId 0) vehicleId

/-- Lets every command reach the sink. Each command takes two steps of its worker, and a few more
end the worker. -/
def settle (f : Fleet α) : Fleet α :=
  f.dispatcher.keys.foldl (fun f vehicleId =>
    drainLane (2 * (f.dispatcher.lane vehicleId).signals + 8) f vehicleId) f

/-! ### Orders and reports -/

/-- The vehicle that is to execute an order, if there is one. A new order becomes a sub-task at the
end of the queue of its vehicle, which is then busy; an order past its first stage changes
nothing. -/
def assign (f : Fleet α) (order : TransportOrder) : Option String × Fleet α :=
  let (chosen, distributor) := f.distributor.distribute f.registry f.network f.backlog order
  let f := { f with distributor }
  match chosen with
  | none => (none, f)
  | some v =>
    if order.stage = .new then
      let task : SubTask α := .ofOrder v.id order ((f.backlog.queue v.id).length + 1)
      (some v.id, { f with
        backlog := f.backlog.push task
        registry := f.registry.modify v.id fun v =>
          { v with state := .busy, taskId := some task.id, progress := .underway } })
    else (some v.id, f)

/-- Takes in the report of a vehicle: its record and its footprint are brought up to date, what it
has passed is noted in its sub-task, and its remaining route is reserved. A vehicle that is not
registered is ignored. -/
def report (f : Fleet α) (r : VehicleReport α) : Option ReservationChange × Fleet α :=
  match f.registry.get? r.vehicleId with
  | none => (none, f)
  | some v =>
    let traffic := f.traffic.track r.vehicleId r.position v.radius
    let backlog := match r.waypoint with
      | none => f.backlog
      | some here => f.backlog.modifyHead r.vehicleId (·.reach here)
    let (change, traffic) :=
      traffic.reserve f.network r.vehicleId r.remaining f.settings.traffic.bufferRadius
    (some change, { f with
      registry := f.registry.modify r.vehicleId r.update
      traffic, backlog })

/-- Drops the reservation and the footprint of a vehicle, marks it as offline, and closes its lane
unless commands are still on their way. -/
def takeOffline (f : Fleet α) (vehicleId : String) : Fleet α :=
  { f with
    dispatcher := f.dispatcher.unregister vehicleId
    traffic := f.traffic.release vehicleId
    registry := f.registry.markOffline vehicleId }

/-! ### Stages of the sub-task being executed -/

/-- The head of the queue of a vehicle after it has entered a stage. -/
def advanceHead (f : Fleet α) (vehicleId : String) (stage : Stage) : Except Fault (SubTask α) :=
  match f.backlog.head? vehicleId with
  | none => .error (.noActiveTask vehicleId)
  | some task => task.advance stage

/-- The record of a vehicle that has nothing left to do. -/
def freed (v : Vehicle α) : Vehicle α :=
  { v with
    state := if v.state = .busy then .idle else v.state
    taskId := none
    progress := .none }

/-- Removes the head of the queue of a vehicle and drops its reservation. A vehicle that has nothing
left to do is free again. -/
def closeHead (f : Fleet α) (vehicleId : String) : Fleet α :=
  let backlog := f.backlog.removeHead vehicleId
  { f with
    backlog
    traffic := f.traffic.dropReservation vehicleId
    registry := if backlog.hasTask vehicleId then f.registry
      else f.registry.modify vehicleId freed }

/-- Has a vehicle stop driving. -/
def pause (f : Fleet α) (vehicleId : String) : Except Fault (Fleet α) := do
  let task ← f.advanceHead vehicleId .pause
  let f := { f with backlog := f.backlog.modifyHead vehicleId fun _ => task }
  return f.emit vehicleId (.pause task.id)

/-- Has a vehicle get ready to drive on. It does so once its sub-task is planned again. -/
def resume (f : Fleet α) (vehicleId : String) : Except Fault (Fleet α) := do
  let task ← f.advanceHead vehicleId .run
  let f := { f with backlog := f.backlog.modifyHead vehicleId fun _ => task }
  return f.emit vehicleId (.resume task.id)

/-- Gives up the sub-task that a vehicle executes, and hands it back. -/
def cancel (f : Fleet α) (vehicleId : String) (reason : CancelReason) :
    Except Fault (SubTask α × Fleet α) := do
  let task ← f.advanceHead vehicleId .cancel
  return ({ task with cancelReason := some reason },
    (f.closeHead vehicleId).emit vehicleId (.cancel task.id))

/-- Completes the sub-task that a vehicle executes, and hands it back with the length of what was
driven: what lies behind the vehicle and the waypoint it stands on. -/
def finish (f : Fleet α) (vehicleId : String) : Except Fault (SubTask α × Fleet α) := do
  let task ← f.advanceHead vehicleId .finish
  let driven := task.traveled ++ task.effectiveRoute.take 1
  return ({ task with realizedCost := f.network.routeLength driven }, f.closeHead vehicleId)

end Fleet

end AgvDispatch
