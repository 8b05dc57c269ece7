import AgvDispatch.Network.Waypoint
import AgvDispatch.Task.Stage
/-!
# Transport orders

A **transport order** asks for goods to be brought from one waypoint to another. It may name the
vehicle that is to do it, and it may limit the choice by type of equipment and by labels.
-/

namespace AgvDispatch

/-- A request to carry something from one waypoint to another. -/
structure TransportOrder where
  /-- The code that names the order. -/
  code : String
  /-- The group of orders it belongs to. -/
  group : Option String
  /-- The map the order is executed on. -/
  mapId : Int
  /-- Where the goods are. -/
  origin : Waypoint
  /-- Where the goods go. -/
  destination : Waypoint
  /-- The vehicle that the order asks for. -/
  vehicleId : Option String
  /-- The type of equipment required, `0` for any. -/
  vehicleKind : Int
  /-- The listing of labels that the vehicle must carry. -/
  labels : String
  /-- The action at the destination. -/
  actionCode : Int
  /-- What the action is told. -/
  actionParameter : Option String
  /-- Where the order is in its life. -/
  stage : Stage
  deriving DecidableEq, Repr, Inhabited

namespace TransportOrder

/-- A new order that any vehicle may take. -/
def ofRoute (code : String) (origin destination : Waypoint) : TransportOrder where
  code
  origin
  destination
  group := none
  mapId := origin.mapId
  vehicleId := none
  vehicleKind := 0
  labels := ""
  actionCode := 0
  actionParameter := none
  stage := .new

/-- The vehicle that an order asks for; an empty id asks for none. -/
def requestedVehicle (o : TransportOrder) : Option String :=
  o.vehicleId.filter (!·.isEmpty)

end TransportOrder

end AgvDispatch
