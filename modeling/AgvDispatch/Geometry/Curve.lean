import AgvDispatch.Geometry.Point
/-!
# Bézier curves as polylines

Curved edges are quadratic or cubic Bézier curves. They are flattened into polylines whose number
of segments grows with the length of the chord, between ten and a hundred.
-/

namespace AgvDispatch.Curve

variable {α : Type} [Scalar α]

/-- The number of segments of a flattened curve: one for every ten millimetres of its chord, at
least ten and at most a hundred. -/
def segmentCount (start stop : Point α) : Nat :=
  let whole := Scalar.floor (start.distance stop / ((10 : Nat) : α))
  (max 10 (min whole 100)).toNat

/-- The parameters `0, 1/n, …, 1` at which a curve of `n` segments is sampled. -/
def parameters (n : Nat) : List α :=
  (List.range (n + 1)).map fun (i : Nat) => (i : α) / (n : α)

/-- The coordinate of a quadratic curve at parameter `t`. -/
@[specialize]
def quadraticAt (p₀ c₁ p₂ t : α) : α :=
  let s := 1 - t
  s * s * p₀ + ((2 : Nat) : α) * s * t * c₁ + t * t * p₂

/-- The coordinate of a cubic curve at parameter `t`. -/
@[specialize]
def cubicAt (p₀ c₁ c₂ p₃ t : α) : α :=
  let s := 1 - t
  let s2 := s * s
  let t2 := t * t
  s2 * s * p₀ + ((3 : Nat) : α) * s2 * t * c₁ + ((3 : Nat) : α) * s * t2 * c₂ + t2 * t * p₃

/-- A quadratic curve as a polyline. -/
def quadratic (p₀ c₁ p₂ : Point α) : List (Point α) :=
  (parameters (segmentCount p₀ p₂)).map fun t =>
    ⟨quadraticAt p₀.x c₁.x p₂.x t, quadraticAt p₀.y c₁.y p₂.y t⟩

/-- A cubic curve as a polyline. -/
def cubic (p₀ c₁ c₂ p₃ : Point α) : List (Point α) :=
  (parameters (segmentCount p₀ p₃)).map fun t =>
    ⟨cubicAt p₀.x c₁.x c₂.x p₃.x t, cubicAt p₀.y c₁.y c₂.y p₃.y t⟩

end AgvDispatch.Curve
