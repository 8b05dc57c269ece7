import AgvDispatch.Geometry.Point
/-!
# Envelopes

An **envelope** is an axis-aligned box. It is the first, cheap stand-in for a shape: two shapes
can only touch where their envelopes do. The bounds are plain numbers; an envelope whose lower
bound exceeds its upper one is empty, and no operation repairs it.
-/

namespace AgvDispatch

/-- An axis-aligned box, given by its bounds on both axes. -/
structure Envelope (α : Type) where
  /-- The western bound. -/
  minX : α
  /-- The eastern bound. -/
  maxX : α
  /-- The southern bound. -/
  minY : α
  /-- The northern bound. -/
  maxY : α
  deriving BEq, Repr, Inhabited

namespace Envelope

variable {α : Type} [Scalar α]

/-- The box between two bounds on the first axis and two on the second, each pair in any order. -/
def ofBounds (x₁ x₂ y₁ y₂ : α) : Envelope α :=
  ⟨min x₁ x₂, max x₁ x₂, min y₁ y₂, max y₁ y₂⟩

/-- The box that holds one point. -/
def ofPoint (p : Point α) : Envelope α :=
  ofBounds p.x p.x p.y p.y

/-- The box with every bound moved outwards by a distance, or inwards by a negative one. -/
def expand (e : Envelope α) (distance : α) : Envelope α :=
  ⟨e.minX - distance, e.maxX + distance, e.minY - distance, e.maxY + distance⟩

/-- The square of half-width `radius` centred on a point. -/
def around (p : Point α) (radius : α) : Envelope α :=
  (ofPoint p).expand radius

/-- The middle of a box. -/
def centre (e : Envelope α) : Point α :=
  ⟨(e.minX + e.maxX) / ((2 : Nat) : α), (e.minY + e.maxY) / ((2 : Nat) : α)⟩

/-- The extent on the first axis. -/
def width (e : Envelope α) : α := e.maxX - e.minX

/-- The extent on the second axis. -/
def height (e : Envelope α) : α := e.maxY - e.minY

/-- Whether two boxes share a point. Only a bound that provably lies beyond the opposite one
separates them, so touching boxes meet and an incomparable bound separates nothing. -/
def intersects (e f : Envelope α) : Bool :=
  !(decide (e.maxX < f.minX) || decide (f.maxX < e.minX)
    || decide (e.maxY < f.minY) || decide (f.maxY < e.minY))

/-- Whether a point lies in a box, its border included. -/
def contains (e : Envelope α) (p : Point α) : Bool :=
  decide (e.minX ≤ p.x) && decide (p.x ≤ e.maxX) && decide (e.minY ≤ p.y) && decide (p.y ≤ e.maxY)

/-- The box grown just far enough to hold a point. -/
def cover (e : Envelope α) (p : Point α) : Envelope α :=
  ⟨min e.minX p.x, max e.maxX p.x, min e.minY p.y, max e.maxY p.y⟩

/-- The least box that holds a point and a list of further ones. -/
def ofPoints (p : Point α) (ps : List (Point α)) : Envelope α :=
  ps.foldl cover (ofPoint p)

/-- The least box that holds two boxes. -/
def merge (e f : Envelope α) : Envelope α :=
  ⟨min e.minX f.minX, max e.maxX f.maxX, min e.minY f.minY, max e.maxY f.maxY⟩

end Envelope

end AgvDispatch
