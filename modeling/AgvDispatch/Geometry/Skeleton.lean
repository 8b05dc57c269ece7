import AgvDispatch.Geometry.Envelope
import AgvDispatch.Geometry.Segment
/-!
# Route skeletons

The **skeleton** of a route is one point or a list of polylines, together with the box around it.
The type carries what every construction keeps: there is at least one part, no part is empty, and
the box is the one around the points. `ofParts?` is the general construction; it drops empty parts
and fails when nothing is left.
-/

namespace AgvDispatch

/-- The segments of one polyline. A lone point is a segment from itself to itself. -/
def polylineSegments {α : Type} : List (Point α) → List (Segment α)
  | [] => []
  | [p] => [⟨p, p⟩]
  | p :: rest => (p :: rest).zipWith Segment.mk rest

/-- One or more polylines and the box around them. -/
structure Skeleton (α : Type) [Scalar α] where
  /-- The first point of the first part. -/
  first : Point α
  /-- The points that follow in the first part. -/
  rest : List (Point α)
  /-- The parts after the first one. -/
  others : List (List (Point α))
  /-- No part is empty. -/
  others_ne_nil : ∀ part ∈ others, part ≠ []
  /-- The box around all points. -/
  box : Envelope α
  /-- The box is the least one that holds the points. -/
  box_eq : box = Envelope.ofPoints first (rest ++ others.flatten)

namespace Skeleton

variable {α : Type} [Scalar α]

/-- The polylines of a skeleton. -/
def parts (s : Skeleton α) : List (List (Point α)) :=
  (s.first :: s.rest) :: s.others

/-- The skeleton that is one point. -/
def ofPoint (p : Point α) : Skeleton α where
  first := p
  rest := []
  others := []
  others_ne_nil := by simp
  box := Envelope.ofPoint p
  box_eq := rfl

/-- The skeleton with the given parts, of which the empty ones are dropped; `none` if no part
holds a point. -/
def ofParts? : List (List (Point α)) → Option (Skeleton α)
  | [] => none
  | [] :: parts => ofParts? parts
  | (first :: rest) :: parts =>
    let others := parts.filter fun part => !part.isEmpty
    some {
      first, rest, others
      others_ne_nil := by
        intro part h
        have := (List.mem_filter.1 h).2
        intro hnil
        simp [hnil] at this
      box := Envelope.ofPoints first (rest ++ others.flatten)
      box_eq := rfl }

/-- The segments of all parts, in order. -/
def segments (s : Skeleton α) : List (Segment α) :=
  s.parts.flatMap polylineSegments

/-- The total length of the segments. -/
@[specialize]
def length (s : Skeleton α) : α :=
  Scalar.sum (s.segments.map Segment.length)

/-- The distance of a point to a skeleton. -/
@[specialize]
def distanceToPoint (s : Skeleton α) (p : Point α) : α :=
  Scalar.least (s.segments.map fun segment => segment.distanceToPoint p)

/-- The best distance once a segment has been compared with a list of segments, beginning from the
best distance so far. The search ends as soon as it is zero. -/
@[specialize]
def closestTo (segment : Segment α) (best : Option α) : List (Segment α) → Option α
  | [] => best
  | other :: rest =>
    match Scalar.closer best (segment.distance other) with
    | none => closestTo segment none rest
    | some d => if d == 0 then some 0 else closestTo segment (some d) rest

/-- The best distance between two lists of segments, which ends as soon as it is zero. -/
@[specialize]
def closest (best : Option α) (ours theirs : List (Segment α)) : Option α :=
  match ours with
  | [] => best
  | segment :: rest =>
    match closestTo segment best theirs with
    | none => closest none rest theirs
    | some d => if d == 0 then some 0 else closest (some d) rest theirs

/-- The distance of two skeletons: zero when they cross. -/
@[specialize]
def distance (s t : Skeleton α) : α :=
  (closest none s.segments t.segments).getD Scalar.far

end Skeleton

end AgvDispatch
