import AgvDispatch.Proofs.Scalar.Real
import AgvDispatch.Scalar.Double
import Mathlib.Data.Prod.Lex
/-!
# Scalars that are ranked

Nothing is assumed of the order of scalars in general. `Scalar.Ranked` is what it takes for a search
for the least number to be right: the order ranks the comparable numbers, where two different
numbers may share a rank.

Real numbers are ranked because they are linearly ordered. Double precision numbers are compared by
sign, exponent and mantissa, with the two zeros as one, so `Double.rank` ranks all of them but the
NaN, which is not comparable.
-/

namespace AgvDispatch

/-- **Whether the order ranks the comparable numbers.** -/
class Scalar.Ranked (α : Type) [Scalar α] : Prop where
  /-- Of two numbers at most one is less than the other. -/
  not_lt_of_lt : ∀ x y : α, x < y → ¬y < x
  /-- A comparable number in between does not separate what its order does not. -/
  not_lt_trans : ∀ x y z : α, x ≤ x → y ≤ y → z ≤ z → ¬x < y → ¬y < z → ¬x < z

instance : Scalar.Ranked ℝ where
  not_lt_of_lt _ _ h := lt_asymm h
  not_lt_trans _ _ _ _ _ _ hxy hyz := not_lt.mpr ((not_lt.mp hyz).trans (not_lt.mp hxy))

namespace Double

open Float.Model (UnpackedFloat)

/-- The rank of a number: by sign and size, then by exponent, then by mantissa. -/
def rank : UnpackedFloat → ℤ ×ₗ ℤ ×ₗ ℤ
  | .infinity .negative => toLex (-2, toLex (0, 0))
  | .finite .negative mantissa exponent _ => toLex (-1, toLex (-exponent, -mantissa))
  | .zero _ | .notANumber => toLex (0, toLex (0, 0))
  | .finite .positive mantissa exponent _ => toLex (1, toLex (exponent, mantissa))
  | .infinity .positive => toLex (2, toLex (0, 0))

theorem compare_then_eq_lt {e e' : ℤ} {m m' : ℕ} :
    (compare e e').then (compare m m') = .lt ↔ e < e' ∨ e = e' ∧ m < m' := by
  rw [Ordering.then_eq_lt, Int.compare_eq_lt, Int.compare_eq_eq, Nat.compare_eq_lt]

theorem compare_then_eq_gt {e e' : ℤ} {m m' : ℕ} :
    (compare e e').then (compare m m') = .gt ↔ e' < e ∨ e = e' ∧ m' < m := by
  rw [Ordering.then_eq_gt, Int.compare_eq_gt, Int.compare_eq_eq, Nat.compare_eq_gt]

/-- **Numbers are compared by rank.** -/
theorem lt_iff_rank_lt {a b : UnpackedFloat} (ha : a ≠ .notANumber) (hb : b ≠ .notANumber) :
    a.lt b = true ↔ rank a < rank b := by
  unfold UnpackedFloat.lt
  rw [beq_iff_eq]
  cases a with
  | notANumber => exact absurd rfl ha
  | infinity s =>
    cases b with
    | notANumber => exact absurd rfl hb
    | infinity t => cases s <;> cases t <;> decide
    | zero t => cases s <;> cases t <;> decide
    | finite t =>
      cases s <;> cases t <;> dsimp only [UnpackedFloat.compare, rank] <;>
        simp [Prod.Lex.toLex_lt_toLex]
  | zero s =>
    cases b with
    | notANumber => exact absurd rfl hb
    | infinity t => cases s <;> cases t <;> decide
    | zero t => cases s <;> cases t <;> decide
    | finite t =>
      cases t <;> dsimp only [UnpackedFloat.compare, rank] <;> simp [Prod.Lex.toLex_lt_toLex]
  | finite s =>
    cases b with
    | notANumber => exact absurd rfl hb
    | infinity t =>
      cases s <;> cases t <;> dsimp only [UnpackedFloat.compare, rank] <;>
        simp [Prod.Lex.toLex_lt_toLex]
    | zero t =>
      cases s <;> dsimp only [UnpackedFloat.compare, rank] <;> simp [Prod.Lex.toLex_lt_toLex]
    | finite t =>
      -- Of two negative numbers the one with the larger size is less.
      cases s <;> cases t <;> dsimp only [UnpackedFloat.compare, rank] <;>
        simp [Prod.Lex.toLex_lt_toLex, compare_then_eq_lt, compare_then_eq_gt]

theorem lt_iff {x y : Float} : x < y ↔ x.toModel.unpack.lt y.toModel.unpack = true :=
  decide_eq_true_iff

theorem le_iff {x y : Float} : x ≤ y ↔ x.toModel.unpack.le y.toModel.unpack = true :=
  decide_eq_true_iff

/-- A comparable number is not the NaN. -/
theorem ne_notANumber_of_le_self {x : Float} (h : x ≤ x) : x.toModel.unpack ≠ .notANumber := by
  intro hnan
  rw [le_iff, hnan] at h
  cases h

/-- The NaN is neither less nor greater than anything. -/
theorem ne_notANumber_of_lt {x y : Float} (h : x < y) :
    x.toModel.unpack ≠ .notANumber ∧ y.toModel.unpack ≠ .notANumber := by
  have hright : ∀ a : UnpackedFloat, a.lt .notANumber = false := fun a => by cases a <;> rfl
  rw [lt_iff] at h
  constructor
  · intro hnan
    rw [hnan] at h
    cases h
  · intro hnan
    rw [hnan, hright] at h
    cases h

instance : Scalar.Ranked Float where
  not_lt_of_lt x y hxy hyx := by
    obtain ⟨hx, hy⟩ := ne_notANumber_of_lt hxy
    rw [lt_iff, lt_iff_rank_lt hx hy] at hxy
    rw [lt_iff, lt_iff_rank_lt hy hx] at hyx
    exact lt_asymm hxy hyx
  not_lt_trans x y z hx hy hz hxy hyz := by
    have hx := ne_notANumber_of_le_self hx
    have hy := ne_notANumber_of_le_self hy
    have hz := ne_notANumber_of_le_self hz
    rw [lt_iff, lt_iff_rank_lt hx hy, not_lt] at hxy
    rw [lt_iff, lt_iff_rank_lt hy hz, not_lt] at hyz
    rw [lt_iff, lt_iff_rank_lt hx hz, not_lt]
    exact hyz.trans hxy

/-- Double precision numbers are strictly ordered, the NaN apart from all others. -/
instance isStrictOrder_lt : IsStrictOrder Float (· < ·) where
  irrefl x h := Scalar.Ranked.not_lt_of_lt x x h h
  trans x y z hxy hyz := by
    obtain ⟨hx, hy⟩ := ne_notANumber_of_lt hxy
    obtain ⟨-, hz⟩ := ne_notANumber_of_lt hyz
    rw [lt_iff, lt_iff_rank_lt hx hy] at hxy
    rw [lt_iff, lt_iff_rank_lt hy hz] at hyz
    rw [lt_iff, lt_iff_rank_lt hx hz]
    exact hxy.trans hyz

end Double

end AgvDispatch
