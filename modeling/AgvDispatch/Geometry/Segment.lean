import AgvDispatch.Geometry.Point
/-!
# Segments

Straight segments, their distance to a point and to each other.

* `Segment.distanceToPoint` drops the perpendicular and clamps its foot to the segment.
* `Segment.meets` decides whether two segments share a point, by the signs of four turns.
* `Segment.distance` is zero for segments that meet and otherwise the least distance of an end
  point of one to the other: two segments that do not meet are closest at an end point.
-/

namespace AgvDispatch

/-- A straight segment between two points, which may coincide. -/
structure Segment (α : Type) where
  /-- Where the segment begins. -/
  start : Point α
  /-- Where the segment ends. -/
  stop : Point α
  deriving BEq, Repr, Inhabited

namespace Segment

variable {α : Type} [Scalar α]

/-- The length of a segment. -/
@[specialize]
def length (s : Segment α) : α := s.start.distance s.stop

/-- The distance of a point to a segment. -/
@[specialize]
def distanceToPoint (s : Segment α) (p : Point α) : α :=
  let dx := s.stop.x - s.start.x
  let dy := s.stop.y - s.start.y
  let lengthSquared := dx * dx + dy * dy
  if lengthSquared == 0 then p.distance s.start
  else
    let t := Scalar.clampUnit (((p.x - s.start.x) * dx + (p.y - s.start.y) * dy) / lengthSquared)
    p.distance ⟨s.start.x + t * dx, s.start.y + t * dy⟩

/-- Twice the signed area of the triangle `a`, `b`, `c`: positive when it turns left. -/
@[inline]
def turn (a b c : Point α) : α :=
  (b.x - a.x) * (c.y - a.y) - (b.y - a.y) * (c.x - a.x)

/-- Whether a point lies in the box spanned by the two ends of a segment. -/
@[inline]
def boxContains (s : Segment α) (p : Point α) : Bool :=
  decide (min s.start.x s.stop.x ≤ p.x) && decide (p.x ≤ max s.start.x s.stop.x)
    && decide (min s.start.y s.stop.y ≤ p.y) && decide (p.y ≤ max s.start.y s.stop.y)

/-- Whether two numbers lie strictly on different sides of zero. -/
@[inline]
def oppositeSigns (u v : α) : Bool :=
  (decide (0 < u) && decide (v < 0)) || (decide (u < 0) && decide (0 < v))

/-- Whether two segments share a point: either each properly separates the ends of the other, or
an end of one lies on the other. -/
@[specialize]
def meets (s t : Segment α) : Bool :=
  let d₁ := turn t.start t.stop s.start
  let d₂ := turn t.start t.stop s.stop
  let d₃ := turn s.start s.stop t.start
  let d₄ := turn s.start s.stop t.stop
  (oppositeSigns d₁ d₂ && oppositeSigns d₃ d₄)
    || (d₁ == 0 && t.boxContains s.start)
    || (d₂ == 0 && t.boxContains s.stop)
    || (d₃ == 0 && s.boxContains t.start)
    || (d₄ == 0 && s.boxContains t.stop)

/-- The distance of two segments. -/
@[specialize]
def distance (s t : Segment α) : α :=
  if s.meets t then 0
  else
    min (min (min (t.distanceToPoint s.start) (t.distanceToPoint s.stop))
      (s.distanceToPoint t.start)) (s.distanceToPoint t.stop)

end Segment

end AgvDispatch
