import AgvDispatch.Network.Graph
/-!
# Breadth-first routing

`Network.shortestRoute` finds a route with the fewest waypoints between two waypoints. The search
keeps a queue of waypoints to look around from and, for every waypoint reached, the waypoint it was
reached from. The neighbours of a waypoint are tried in ascending order, so of several shortest
routes the answer is the one that this order meets first.

Every waypoint enters the queue at most once and enters it over an edge, so one more round than
there are edges empties the queue.
-/

namespace AgvDispatch.Network

open Std (TreeMap)

variable {α : Type}

/-- The route to a waypoint, read backwards from where each waypoint was reached from and put in
front of what follows. The number of waypoints reached bounds its length. -/
def retrace (cameFrom : TreeMap Waypoint Waypoint) : Nat → Waypoint → Route → Route
  | 0, w, rest => w :: rest
  | fuel + 1, w, rest =>
    match cameFrom.get? w with
    | none => w :: rest
    | some before => retrace cameFrom fuel before (w :: rest)

/-- The neighbours of a waypoint that may be entered and have not been reached before. -/
def newlyReached (n : Network α) (start : Waypoint) (avoid : Waypoint → Bool)
    (cameFrom : TreeMap Waypoint Waypoint) (here : Waypoint) : List Waypoint :=
  (n.neighbours here).filter fun w => !(w == start || cameFrom.contains w || avoid w)

/-- Searches for at most the given number of rounds. -/
def search (n : Network α) (start goal : Waypoint) (avoid : Waypoint → Bool) :
    Nat → List Waypoint → TreeMap Waypoint Waypoint → Option Route
  | 0, _, _ => none
  | _, [], _ => none
  | fuel + 1, here :: queue, cameFrom =>
    let found := n.newlyReached start avoid cameFrom here
    let cameFrom := found.foldl (fun reached w => reached.insert w here) cameFrom
    if found.contains goal then some (retrace cameFrom cameFrom.size goal [])
    else search n start goal avoid fuel (queue ++ found) cameFrom

/-- How many edges a network has. -/
def edgeCount (n : Network α) : Nat :=
  n.links.foldl (fun count _ out => count + out.size) 0

/-- A shortest route from one waypoint to another that never enters a waypoint to be avoided,
except that it may start on one. The route from a waypoint to itself is that waypoint. -/
def shortestRoute (n : Network α) (start goal : Waypoint) (avoid : Waypoint → Bool) :
    Option Route :=
  if start = goal then some [start]
  else search n start goal avoid (n.edgeCount + 1) [start] {}

end AgvDispatch.Network
