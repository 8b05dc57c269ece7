import AgvDispatch.Scalar.Basic
/-!
# Points of the floor

Positions in the facility frame, in millimetres, and their Euclidean distance.
-/

namespace AgvDispatch

/-- A position in the facility frame. -/
structure Point (α : Type) where
  /-- Distance east of the origin. -/
  x : α
  /-- Distance north of the origin. -/
  y : α
  deriving BEq, Repr, Inhabited

namespace Point

variable {α : Type} [Scalar α]

/-- The Euclidean distance of two points. -/
@[specialize]
def distance (p q : Point α) : α :=
  Scalar.hypot (p.x - q.x) (p.y - q.y)

end Point

end AgvDispatch
