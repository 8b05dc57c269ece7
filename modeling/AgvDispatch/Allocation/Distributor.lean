import AgvDispatch.Allocation.Strategy
import AgvDispatch.Task.Backlog
/-!
# Distribution of orders

The distributor finds the vehicle that is to execute an order. A new order gets the vehicle it
names, if that one is available, and otherwise whatever the strategy chooses. An order past its
first stage is bound already; its vehicle is looked up and, on request, held against its own report.
-/

namespace AgvDispatch

/-- Whether a reported task id names an order or one of its sub-tasks: it is the code of the order,
alone or followed by a hyphen. -/
def TransportOrder.owns (order : TransportOrder) (taskId : String) : Bool :=
  let code := order.code.toList
  code.isPrefixOf taskId.toList
    && match taskId.toList.drop code.length with
      | [] => true
      | c :: _ => c == '-'

/-- Whether the report of a vehicle fits an order: it does not name a task of another order, and
it does not claim to be done while the order is alive. -/
def TransportOrder.fitsReport {α : Type} (order : TransportOrder) (v : Vehicle α) : Bool :=
  v.taskId.all order.owns
    && !((v.progress == .finished || v.progress == .cancelled) && !order.stage.isTerminal)

/-- What finds vehicles for orders. -/
structure Distributor (α : Type) where
  /-- How a vehicle is chosen for a new order that names none. -/
  strategy : Strategy α
  /-- The charge from which on a vehicle may leave its charger. -/
  lowestBattery : Nat
  /-- Whether a bound vehicle must report progress that fits the order. -/
  revalidate : Bool

namespace Distributor

variable {α : Type}

/-- The distributor of the configured mode. -/
def ofSettings (settings : AllocationSettings) (hook : Option (AllocationHook α)) :
    Distributor α where
  strategy := Strategy.ofSettings settings hook
  lowestBattery := settings.lowestBattery
  revalidate := settings.revalidate

/-- The vehicle that a new order names, if it is idle or may leave its charger. -/
def requested (d : Distributor α) (registry : Registry α) (vehicleId : String) :
    Option (Vehicle α) :=
  (registry.idle? vehicleId).or (registry.leavingCharger? vehicleId d.lowestBattery)

/-- The vehicle that an order past its first stage is bound to: the one that it names, or else a
vehicle that has a sub-task of it. -/
def boundTo (d : Distributor α) (registry : Registry α) (order : TransportOrder)
    (holder : Option String) : Option (Vehicle α) := do
  let vehicleId ← order.requestedVehicle.or holder
  let v ← registry.get? vehicleId
  if d.revalidate && !order.fitsReport v then none else some v

/-- The same, where the queues are looked through for a sub-task of the order. -/
def bound (d : Distributor α) (registry : Registry α) (backlog : Backlog α)
    (order : TransportOrder) : Option (Vehicle α) :=
  d.boundTo registry order (backlog.vehicleFor? order.code)

/-- The vehicle that is to execute an order, if there is one, and the distributor with what its
strategy remembers. -/
def distribute [Scalar α] (d : Distributor α) (registry : Registry α) (network : Network α)
    (backlog : Backlog α) (order : TransportOrder) : Option (Vehicle α) × Distributor α :=
  if order.stage = .new then
    match order.requestedVehicle with
    | some vehicleId => (d.requested registry vehicleId, d)
    | none =>
      let (chosen, strategy) := d.strategy.select order ⟨registry, network, d.lowestBattery⟩
      (chosen, { d with strategy })
  else (d.bound registry backlog order, d)

end Distributor

end AgvDispatch
