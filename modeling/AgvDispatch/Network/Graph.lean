import AgvDispatch.Network.Edge
import AgvDispatch.Network.Waypoint
/-!
# Road networks

A **network** holds the positions of the waypoints, the directed edges between waypoints, and for
each map the standby points where idle vehicles park. An edge may name a waypoint that has no
position. Listings are in ascending order, standby points in the order in which they were added.
-/

namespace AgvDispatch

open Std (TreeMap)

/-- Waypoints with positions, directed edges and standby points. -/
structure Network (α : Type) where
  /-- Where each waypoint lies. -/
  points : TreeMap Waypoint (Point α) := {}
  /-- The edges out of each waypoint, by the waypoint they lead to. -/
  links : TreeMap Waypoint (TreeMap Waypoint (Edge α)) := {}
  /-- The standby points of each map. -/
  standby : TreeMap Int (List Waypoint) := {}
  deriving Inhabited

namespace Network

variable {α : Type}

/-- The position of a waypoint. -/
def position (n : Network α) (w : Waypoint) : Option (Point α) :=
  n.points.get? w

/-- The edge from one waypoint to another. -/
def edge? (n : Network α) (start stop : Waypoint) : Option (Edge α) :=
  (n.links.get? start).bind (·.get? stop)

/-- The standby points of a map, in the order of their addition. -/
def standbyPoints (n : Network α) (mapId : Int) : List Waypoint :=
  (n.standby.get? mapId).getD []

/-- How many waypoints have a position. -/
def pointCount (n : Network α) : Nat :=
  n.points.size

/-- The positioned waypoints of a map, in ascending order. -/
def waypoints (n : Network α) (mapId : Int) : List Waypoint :=
  n.points.keys.filter (·.mapId == mapId)

/-- The waypoints that one edge leads to, in ascending order. -/
def neighbours (n : Network α) (w : Waypoint) : List Waypoint :=
  ((n.links.get? w).map (·.keys)).getD []

/-- Places a waypoint, or moves it. -/
def addPoint (n : Network α) (w : Waypoint) (p : Point α) : Network α :=
  { n with points := n.points.insert w p }

/-- Adds a directed edge, or replaces it. -/
def addEdge (n : Network α) (start stop : Waypoint) (edge : Edge α) : Network α :=
  let out := (n.links.get? start).getD {}
  { n with links := n.links.insert start (out.insert stop edge) }

/-- Adds an edge and its reverse. -/
def addTwoWayEdge (n : Network α) (a b : Waypoint) (edge : Edge α) : Network α :=
  (n.addEdge a b edge).addEdge b a edge.reversed

/-- Adds a standby point behind the others of its map. -/
def addStandby (n : Network α) (w : Waypoint) : Network α :=
  { n with standby := n.standby.insert w.mapId (n.standbyPoints w.mapId ++ [w]) }

end Network

end AgvDispatch
