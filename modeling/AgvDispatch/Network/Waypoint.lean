import Std.Data.TreeMap
/-!
# Waypoints

A **waypoint** is a numbered point of a numbered map. Waypoints are ordered by map and then by
number, and this order is the one in which point sets and neighbours are listed. A **route** is a
list of waypoints; its fingerprint is the text that tells two routes apart.
-/

namespace AgvDispatch

/-- A numbered point of a numbered map. -/
structure Waypoint where
  /-- The map that holds the point. -/
  mapId : Int
  /-- The number of the point on its map. -/
  id : Int
  deriving DecidableEq, Repr, Inhabited

/-- Waypoints in the order of travel. -/
abbrev Route := List Waypoint

namespace Waypoint

/-- By map, then by number. -/
instance : Ord Waypoint where
  compare := compareLex (compareOn mapId) (compareOn id)

instance : Std.TransOrd Waypoint :=
  inferInstanceAs (Std.TransCmp (compareLex (compareOn mapId) (compareOn id)))

instance : Std.LawfulEqOrd Waypoint where
  eq_of_compare {a b} h := by
    have h : compareLex (compareOn mapId) (compareOn id) a b = .eq := h
    rw [compareLex_eq_eq] at h
    have h₁ : a.mapId = b.mapId := Std.LawfulEqOrd.eq_of_compare h.1
    have h₂ : a.id = b.id := Std.LawfulEqOrd.eq_of_compare h.2
    cases a; cases b; simp_all

/-- The written form of a waypoint: map and number, joined by a hyphen. -/
def text (w : Waypoint) : String :=
  toString w.mapId ++ "-" ++ toString w.id

end Waypoint

/-- The text that identifies a route: its waypoints in order, joined by commas. -/
def Route.fingerprint (route : Route) : String :=
  ",".intercalate (route.map Waypoint.text)

end AgvDispatch
