import AgvDispatch.Geometry.Skeleton
import AgvDispatch.Network.Graph
/-!
# The shape of a route

A route over a network is driven along a skeleton: the lines of its edges, one part for each step.
Two waypoints without an edge between them are joined by a straight line. A route that visits a
waypoint without a position has no skeleton and no box, though it still has a length.
-/

namespace AgvDispatch.Network

variable {α : Type} [Scalar α]

/-- The positions along a route; `none` if one of them is unknown. -/
def resolve (n : Network α) (route : Route) : Option (List (Point α)) :=
  route.mapM n.position

/-- The lines driven along a route, one for each step. -/
def stepLines (n : Network α) : List (Waypoint × Point α) → List (List (Point α))
  | (a, p) :: (b, q) :: rest =>
    ((n.edge? a b).map (·.polyline p q)).getD [p, q] :: stepLines n ((b, q) :: rest)
  | _ => []

/-- The skeleton of a route. An empty route has none, nor has one with an unknown position. -/
def skeleton? (n : Network α) : Route → Option (Skeleton α)
  | [] => none
  | [w] => (n.position w).map Skeleton.ofPoint
  | route => do
    let points ← n.resolve route
    Skeleton.ofParts? (n.stepLines (route.zip points))

/-- The length of a polyline. -/
@[specialize]
def lineLength (line : List (Point α)) : α :=
  Scalar.sum (line.zipWith Point.distance line.tail)

/-- The travel length of one step: the declared distance where it is positive, else the length of
the line, and zero if an end has no position. -/
@[specialize]
def stepLength (n : Network α) (start stop : Waypoint) : α :=
  let edge := (n.edge? start stop).getD Edge.straight
  if 0 < edge.distance then edge.distance
  else
    match n.position start, n.position stop with
    | some p, some q => lineLength (edge.polyline p q)
    | _, _ => 0

/-- The travel length of a route. -/
@[specialize]
def routeLength (n : Network α) (route : Route) : α :=
  Scalar.sum (route.zipWith n.stepLength route.tail)

/-- The control points that shape the steps of a route. -/
def controlPoints (n : Network α) (route : Route) : List (Point α) :=
  (route.zip route.tail).flatMap fun (a, b) =>
    ((n.edge? a b).map Edge.controlPoints).getD []

/-- The box around the waypoints of a route and the control points of its edges, expanded by a
tolerance. -/
def box? (n : Network α) (route : Route) (tolerance : α) : Option (Envelope α) := do
  match ← n.resolve route with
  | [] => none
  | p :: ps => some ((Envelope.ofPoints p (ps ++ n.controlPoints route)).expand tolerance)

/-- Whether a point lies within a tolerance of a route. The box is tested first. -/
@[specialize]
def near (n : Network α) (route : Route) (tolerance : α) (p : Point α) : Bool :=
  match n.box? route tolerance, n.skeleton? route with
  | some box, some skeleton => box.contains p && decide (skeleton.distanceToPoint p ≤ tolerance)
  | _, _ => false

end AgvDispatch.Network
