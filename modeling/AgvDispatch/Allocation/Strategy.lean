import AgvDispatch.Allocation.OriginTable
import AgvDispatch.Network.Graph
import AgvDispatch.Settings.Basic
import AgvDispatch.Task.Order
import AgvDispatch.Vehicle.Registry
/-!
# Allocation strategies

A strategy chooses the vehicle for an order that names none. Every strategy but the external hook
considers only vehicles that are **eligible**: of the required type and labels, and standing on a
waypoint. Where several vehicles are equally good, the one that comes first in the order of the
candidates is chosen, which is the order of their ids except where a table lists them.

The strategy `recentPark` remembers the standby point found for each origin.
-/

namespace AgvDispatch

open Std (TreeMap)

/-- What a strategy may look at. -/
structure Surroundings (α : Type) where
  /-- The known vehicles. -/
  registry : Registry α
  /-- The road network. -/
  network : Network α
  /-- The charge from which on a vehicle may leave its charger. -/
  lowestBattery : Nat

namespace Surroundings

variable {α : Type}

/-- The vehicles free for a task. -/
def idle (s : Surroundings α) : List (Vehicle α) :=
  s.registry.idleVehicles

/-- The vehicles that may leave their charger for a task. -/
def charging (s : Surroundings α) : List (Vehicle α) :=
  s.registry.chargingVehicles s.lowestBattery

end Surroundings

/-- The first element of a list that no other one beats, where each is only held against the best
one before it. -/
def firstBest {β : Type} (beats : β → β → Bool) (xs : List β) : Option β :=
  xs.foldl (fun best x =>
    match best with
    | none => some x
    | some b => if beats x b then some x else some b) none

/-- Whether a vehicle may take an order at all. -/
def TransportOrder.admits {α : Type} (order : TransportOrder) (v : Vehicle α) : Bool :=
  v.matchesLabels order.labels && v.matchesKind order.vehicleKind && v.currentPoint.isSome

/-- A rule for choosing a vehicle that is supplied from outside. -/
abbrev AllocationHook (α : Type) := TransportOrder → Surroundings α → Option (Vehicle α)

/-- A way of choosing the vehicle for an order. -/
inductive Strategy (α : Type) where
  /-- As the hook says; without a hook nobody is chosen. -/
  | customize (hook : Option (AllocationHook α))
  /-- The idle vehicle closest to the origin, else the closest one on a charger. -/
  | distancePriority
  /-- The idle vehicle with the fullest battery, else the fullest one on a charger. -/
  | powerPriority
  /-- The idle vehicle on the standby point closest to the origin. The points found so far are
  remembered by origin. -/
  | recentPark (found : TreeMap Waypoint Waypoint)
  /-- The closest of the vehicles configured for the origin. -/
  | originSpecify (table : OriginTable)

namespace Strategy

variable {α : Type}

/-- The strategy of the configured mode. -/
def ofSettings (settings : AllocationSettings) (hook : Option (AllocationHook α)) : Strategy α :=
  match settings.mode with
  | .customize => customize hook
  | .distancePriority => distancePriority
  | .powerPriority => powerPriority
  | .recentPark => recentPark {}
  | .originSpecify => originSpecify (OriginTable.ofEntries settings.originVehicles.toList)

/-- The mode that a strategy carries out. -/
def mode : Strategy α → AllocationMode
  | customize _ => .customize
  | distancePriority => .distancePriority
  | powerPriority => .powerPriority
  | recentPark _ => .recentPark
  | originSpecify _ => .originSpecify

/-- The eligible candidate with the fullest battery. -/
def fullest (order : TransportOrder) (candidates : List (Vehicle α)) : Option (Vehicle α) :=
  firstBest (fun v b => decide (b.battery < v.battery)) (candidates.filter order.admits)

variable [Scalar α]

/-- Things with their distance to a point. Those without a position are left out. -/
def measured {β : Type} (target : Point α) (place : β → Option (Point α)) (xs : List β) :
    List (α × β) :=
  xs.filterMap fun x => (place x).map fun p => (p.distance target, x)

/-- The first of the things that are closest to a point, those without a position left out. -/
def closest {β : Type} (target : Point α) (place : β → Option (Point α)) (xs : List β) :
    Option β :=
  (firstBest (fun (d, _) (b, _) => decide (d < b)) (measured target place xs)).map (·.2)

/-- The eligible candidate whose waypoint is closest to the origin of an order. -/
def nearest (order : TransportOrder) (candidates : List (Vehicle α)) (s : Surroundings α) :
    Option (Vehicle α) := do
  let origin ← s.network.position order.origin
  closest origin (fun v => v.waypoint.bind s.network.position) (candidates.filter order.admits)

/-- The standby point of the map of an origin that is closest to that origin. -/
def nearestStandby (origin : Waypoint) (s : Surroundings α) : Option Waypoint := do
  let target ← s.network.position origin
  closest target s.network.position (s.network.standbyPoints origin.mapId)

/-- The first eligible idle vehicle on a standby point. -/
def parkedAt (order : TransportOrder) (standby : Waypoint) (s : Surroundings α) :
    Option (Vehicle α) :=
  (s.idle.filter order.admits).find? fun v => v.waypoint == some standby

/-- The nearest of the listed vehicles that are idle, and if none is idle, of those that may leave
their charger. -/
def nearestListed (order : TransportOrder) (ids : List String) (s : Surroundings α) :
    Option (Vehicle α) :=
  let listed := ids.filterMap s.registry.get?
  let idle := listed.filter Vehicle.isIdle
  if idle.isEmpty then nearest order (listed.filter (·.mayLeaveCharger s.lowestBattery)) s
  else nearest order idle s

/-- The vehicle chosen for an order, and the strategy with what it remembers. -/
def select (strategy : Strategy α) (order : TransportOrder) (s : Surroundings α) :
    Option (Vehicle α) × Strategy α :=
  match strategy with
  | customize hook => (hook.bind fun choose => choose order s, strategy)
  | distancePriority =>
    ((nearest order s.idle s).or (nearest order s.charging s), strategy)
  | powerPriority => ((fullest order s.idle).or (fullest order s.charging), strategy)
  | recentPark found =>
    match found.get? order.origin with
    | some standby => (parkedAt order standby s, strategy)
    | none =>
      match nearestStandby order.origin s with
      | none => (none, strategy)
      | some standby => (parkedAt order standby s, recentPark (found.insert order.origin standby))
  | originSpecify table =>
    match table.get? order.origin with
    | none => (none, strategy)
    | some ids => (nearestListed order ids s, strategy)

end Strategy

end AgvDispatch
