import AgvDispatch.Geometry.Skeleton
/-!
# Clearance and collision

A **corridor** is a skeleton inflated by a radius: the area that a vehicle claims. An `Obstacle` is
anything that a planned skeleton is held against. `Skeleton.collides` compares boxes before it
measures: skeletons whose boxes stay apart by the threshold cannot collide.
-/

namespace AgvDispatch

/-- A skeleton inflated by a radius. -/
structure Corridor (α : Type) [Scalar α] where
  /-- The line that is inflated. -/
  skeleton : Skeleton α
  /-- How far the corridor reaches beyond its skeleton. -/
  radius : α

/-- The corridor of a skeleton; a negative radius counts as zero. -/
def Corridor.around {α : Type} [Scalar α] (skeleton : Skeleton α) (radius : α) : Corridor α :=
  ⟨skeleton, max radius 0⟩

/-- What a planned skeleton is held against. -/
inductive Obstacle (α : Type) [Scalar α] where
  /-- A single position. -/
  | point (p : Point α)
  /-- Another skeleton. -/
  | skeleton (s : Skeleton α)
  /-- A claimed corridor. -/
  | corridor (c : Corridor α)

namespace Obstacle

variable {α : Type} [Scalar α]

/-- The box around an obstacle. -/
def box : Obstacle α → Envelope α
  | point p => Envelope.ofPoint p
  | skeleton s => s.box
  | corridor c => c.skeleton.box.expand c.radius

/-- The distance between the border of an obstacle and a skeleton, zero where they overlap. -/
@[specialize]
def clearance (o : Obstacle α) (path : Skeleton α) : α :=
  match o with
  | point p => path.distanceToPoint p
  | skeleton s => s.distance path
  | corridor c => max (c.skeleton.distance path - c.radius) 0

end Obstacle

/-- Whether a skeleton comes closer to an obstacle than a threshold. The boxes are compared first;
the distance is only measured where they meet. -/
@[specialize]
def Skeleton.collides {α : Type} [Scalar α] (path : Skeleton α) (obstacle : Obstacle α)
    (threshold : α) : Bool :=
  (path.box.expand threshold).intersects obstacle.box
    && decide (obstacle.clearance path < threshold)

end AgvDispatch
