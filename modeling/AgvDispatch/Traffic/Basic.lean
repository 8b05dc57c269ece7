import AgvDispatch.Geometry.Clearance
import AgvDispatch.Network.Route
import AgvDispatch.Traffic.BoxIndex
/-!
# Reservations and footprints

`Traffic` is what keeps vehicles apart. It holds one **reservation** for each vehicle under way, the
corridor along its remaining route, and one **footprint** for each vehicle that has reported, the
square around its position, which is also filed in an index.

* `Traffic.reserve` replaces a reservation as a whole. A route that is already reserved is not built
  again, and a route over unknown waypoints leaves nothing reserved.
* `Traffic.track` moves a footprint, and `Traffic.release` drops all that is held for a vehicle.
-/

namespace AgvDispatch

open Std (TreeMap)

/-- The corridor that a vehicle claims for its remaining route. -/
structure Reservation (α : Type) [Scalar α] where
  /-- The vehicle. -/
  vehicleId : String
  /-- The map on which the route begins. -/
  mapId : Int
  /-- The text that identifies the route. -/
  fingerprint : String
  /-- The remaining route. -/
  route : Route
  /-- The area claimed. -/
  corridor : Corridor α
  /-- The count of corridors built when this one was. -/
  revision : Nat

/-- What became of a reservation. -/
inductive ReservationChange where
  /-- There is no remaining route, and nothing is reserved. -/
  | cleared
  /-- The route was reserved before. -/
  | unchanged
  /-- A corridor was built for the route. -/
  | rebuilt
  /-- The route has unknown waypoints, and nothing is reserved. -/
  | unresolved
  deriving DecidableEq, Repr, Inhabited

/-- The reservations and footprints of all vehicles. -/
structure Traffic (α : Type) [Scalar α] where
  /-- The reservation of each vehicle that has one. -/
  reservations : TreeMap String (Reservation α) := {}
  /-- The ids of the vehicles by footprint. -/
  index : BoxIndex α String
  /-- The footprint under which each vehicle is filed. -/
  footprints : TreeMap String (Envelope α) := {}
  /-- How many corridors have been built. -/
  revision : Nat := 0

/-- How much a traffic state holds. -/
structure TrafficNumbers where
  /-- How many vehicles have a reservation. -/
  reservations : Nat
  /-- How many footprints are filed. -/
  footprints : Nat
  /-- How many corridors have been built. -/
  revision : Nat
  deriving DecidableEq, Repr, Inhabited

/-- The numbers of a traffic state in one line. -/
def TrafficNumbers.text (n : TrafficNumbers) : String :=
  "reservations=" ++ toString n.reservations ++ " footprints=" ++ toString n.footprints
    ++ " revision=" ++ toString n.revision

namespace Traffic

variable {α : Type} [Scalar α]

/-- No reservations and no footprints, over an index. -/
def ofIndex (index : BoxIndex α String) : Traffic α := { index }

/-- The reservation of a vehicle. -/
def reservation? (t : Traffic α) (vehicleId : String) : Option (Reservation α) :=
  t.reservations.get? vehicleId

/-- Every reservation, in ascending order of the vehicles. -/
def allReservations (t : Traffic α) : List (Reservation α) :=
  t.reservations.values

/-- Drops the reservation of a vehicle. -/
def dropReservation (t : Traffic α) (vehicleId : String) : Traffic α :=
  { t with reservations := t.reservations.erase vehicleId }

/-- Whether a vehicle has a route reserved, going by the fingerprint. -/
def hasReserved (t : Traffic α) (vehicleId : String) (route : Route) : Bool :=
  match t.reservation? vehicleId with
  | none => false
  | some r => r.fingerprint == route.fingerprint

/-- Reserves the corridor of a remaining route, in place of what the vehicle had reserved before. -/
def reserve (t : Traffic α) (network : Network α) (vehicleId : String) (route : Route)
    (buffer : α) : ReservationChange × Traffic α :=
  match route with
  | [] => (.cleared, t.dropReservation vehicleId)
  | first :: _ =>
    if t.hasReserved vehicleId route then (.unchanged, t)
    else
      match network.skeleton? route with
      | none => (.unresolved, t.dropReservation vehicleId)
      | some skeleton =>
        let reservation : Reservation α := {
          vehicleId, route
          mapId := first.mapId
          fingerprint := route.fingerprint
          corridor := Corridor.around skeleton buffer
          revision := t.revision + 1 }
        (.rebuilt, { t with
          reservations := t.reservations.insert vehicleId reservation
          revision := t.revision + 1 })

/-- Moves the footprint of a vehicle to the square around its position. -/
def track (t : Traffic α) (vehicleId : String) (position : Point α) (radius : α) : Traffic α :=
  let box := Envelope.around position radius
  match t.footprints.get? vehicleId with
  | none => { t with
      index := t.index.insert box vehicleId
      footprints := t.footprints.insert vehicleId box }
  | some old =>
    if old == box then t
    else { t with
      index := t.index.move old vehicleId box vehicleId
      footprints := t.footprints.insert vehicleId box }

/-- Drops the reservation and the footprint of a vehicle. -/
def release (t : Traffic α) (vehicleId : String) : Traffic α :=
  let t := t.dropReservation vehicleId
  match t.footprints.get? vehicleId with
  | none => t
  | some box => { t with
      index := (t.index.remove? box vehicleId).getD t.index
      footprints := t.footprints.erase vehicleId }

/-- The numbers of a traffic state. -/
def numbers (t : Traffic α) : TrafficNumbers where
  reservations := t.reservations.size
  footprints := t.index.size
  revision := t.revision

end Traffic

end AgvDispatch
