import AgvDispatch.Traffic.Basic
import AgvDispatch.Vehicle.Registry
/-!
# Safe routes

A candidate route is **safe** for a vehicle when it keeps clear of every other vehicle registered on
the map: of the corridor that the other one has reserved and of its registered position, by more
than a buffer plus its registered radius. `Traffic.isSafe` looks at the footprints first, and
`Traffic.safePart` backs off to the longest part of a route, from its beginning, that is safe.
-/

namespace AgvDispatch.Traffic

variable {α : Type} [Scalar α]

/-- The vehicles of a map other than the given one. -/
def others (registry : Registry α) (mapId : Int) (vehicleId : String) : List (Vehicle α) :=
  (registry.onMap mapId).filter (·.id != vehicleId)

/-- The largest radius of some vehicles, or zero. -/
def reach (vs : List (Vehicle α)) : α :=
  vs.foldl (fun r v => max r v.radius) 0

/-- Whether a skeleton comes too close to the corridor that a vehicle has reserved on a map. -/
def hitsReservation (t : Traffic α) (mapId : Int) (path : Skeleton α) (buffer : α)
    (v : Vehicle α) : Bool :=
  match t.reservation? v.id with
  | none => false
  | some r => r.mapId == mapId && path.collides (.corridor r.corridor) (buffer + v.radius)

/-- Whether a skeleton comes too close to the registered position of a vehicle. -/
def hitsPosition (path : Skeleton α) (buffer : α) (v : Vehicle α) : Bool :=
  path.collides (.point v.position) (buffer + v.radius)

/-- Whether the footprint of a vehicle is the one around its registered position. -/
def isTracked (t : Traffic α) (v : Vehicle α) : Bool :=
  match t.footprints.get? v.id with
  | none => false
  | some box => box == Envelope.around v.position v.radius

/-- The vehicles whose footprint does not rule out that they are within reach of a skeleton. -/
def within (t : Traffic α) (path : Skeleton α) (buffer : α) (vs : List (Vehicle α)) :
    List (Vehicle α) :=
  let nearby := t.index.query (path.box.expand (buffer + reach vs))
  vs.filter fun v => nearby.contains v.id || !t.isTracked v

/-- Whether a candidate route keeps clear of every other vehicle on a map. An empty route does; a
route that has no skeleton does not. -/
def isSafe (t : Traffic α) (registry : Registry α) (network : Network α) (mapId : Int)
    (vehicleId : String) (candidate : Route) (buffer : α) : Bool :=
  candidate.isEmpty ||
    match network.skeleton? candidate with
    | none => false
    | some path =>
      let vs := others registry mapId vehicleId
      !(vs.any (t.hitsReservation mapId path buffer)
        || (t.within path buffer vs).any (hitsPosition path buffer))

/-- The longest of the first parts of a route, up to a length, that passes a test. The empty part
always does. -/
def longestPart (safe : Route → Bool) (candidate : Route) : Nat → Route
  | 0 => []
  | n + 1 =>
    let part := candidate.take (n + 1)
    if safe part then part else longestPart safe candidate n

/-- The longest part of a candidate route, from its beginning, that is safe. -/
def safePart (t : Traffic α) (registry : Registry α) (network : Network α) (mapId : Int)
    (vehicleId : String) (candidate : Route) (buffer : α) : Route :=
  longestPart (fun part => t.isSafe registry network mapId vehicleId part buffer) candidate
    candidate.length

/-- The candidates that have a position and lie farther from a blocked route than the two radii
together. A blocked route without a skeleton blocks nothing. -/
def avoidancePoints (network : Network α) (blocked : Route) (candidates : List Waypoint)
    (blockedRadius pointRadius : α) : List Waypoint :=
  let path := network.skeleton? blocked
  candidates.filter fun w =>
    match network.position w, path with
    | none, _ => false
    | some _, none => true
    | some p, some path => decide (blockedRadius + pointRadius < path.distanceToPoint p)

/-- The vehicles registered on a map whose footprint meets a region, in ascending order. -/
def vehiclesIn (t : Traffic α) (registry : Registry α) (mapId : Int) (region : Envelope α) :
    List String :=
  let hits := t.index.query (region.expand (reach (registry.onMap mapId)))
  (t.footprints.toList.filter fun (id, box) =>
    hits.contains id && box.intersects region
      && ((registry.get? id).any (·.mapId == mapId))).map (·.1)

end AgvDispatch.Traffic
