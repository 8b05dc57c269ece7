import AgvDispatch.Scalar.Basic
import Mathlib.Analysis.Real.Sqrt
import Mathlib.Algebra.Order.Floor.Ring
import Mathlib.Algebra.Order.Archimedean.Real.Basic
/-!
# Exact scalars

The real numbers are an instance of `Scalar`. Statements about exact arithmetic are statements about
this instance. Every operation is the one of the field, so that a definition over scalars unfolds to
real arithmetic; `hypot` is the square root of the sum of two squares. A real number is always
comparable, and `far` is never reached as long as there is something to measure.

`Scalar.least` is the least element of a list (`isLeast_least`). The searches that look for a
smallest distance carry a best value from one candidate to the next; `Scalar.IsBest` is what such a
value says about the distances seen so far.
-/

namespace AgvDispatch

noncomputable instance : Scalar ℝ where
  zero := 0
  one := 1
  natCast := Nat.cast
  add := (· + ·)
  sub := (· - ·)
  mul := (· * ·)
  div := (· / ·)
  lt := (· < ·)
  le := (· ≤ ·)
  beq x y := decide (x = y)
  min := min
  max := max
  decidableLT := Classical.decRel _
  decidableLE := Classical.decRel _
  hypot x y := √(x ^ 2 + y ^ 2)
  floor x := ⌊x⌋
  far := 0

namespace Scalar

theorem beq_iff_eq {x y : ℝ} : (x == y) = true ↔ x = y :=
  decide_eq_true_iff

instance : LawfulBEq ℝ where
  eq_of_beq := beq_iff_eq.mp
  rfl := beq_iff_eq.mpr rfl

/-- A number held within `0` and `1` lies there. -/
theorem clampUnit_mem (t : ℝ) : 0 ≤ clampUnit t ∧ clampUnit t ≤ 1 := by
  unfold clampUnit
  split_ifs with h₀ h₁
  · exact ⟨le_rfl, zero_le_one⟩
  · exact ⟨zero_le_one, le_rfl⟩
  · exact ⟨not_lt.mp h₀, not_lt.mp h₁⟩

/-- **What a best value says.** There is none exactly while nothing has been seen, and otherwise it
is the least of what has been seen. -/
def IsBest (seen : Set ℝ) : Option ℝ → Prop
  | none => seen = ∅
  | some d => IsLeast seen d

/-- At most one value is the best. -/
theorem IsBest.unique {seen : Set ℝ} {a b : Option ℝ} (ha : IsBest seen a) (hb : IsBest seen b) :
    a = b := by
  cases a with
  | none =>
    cases b with
    | none => rfl
    | some d =>
      rw [show seen = ∅ from ha] at hb
      exact absurd hb.1 (Set.notMem_empty d)
  | some c =>
    cases b with
    | none =>
      rw [show seen = ∅ from hb] at ha
      exact absurd ha.1 (Set.notMem_empty c)
    | some d => exact congrArg some (IsLeast.unique ha hb)

theorem IsBest.closer {seen : Set ℝ} {best : Option ℝ} (h : IsBest seen best) (d : ℝ) :
    IsBest (insert d seen) (Scalar.closer best d) := by
  have hd : d ≤ d := le_rfl
  cases best with
  | none =>
    rw [Scalar.closer, if_pos hd, show seen = ∅ from h, insert_empty_eq]
    exact isLeast_singleton
  | some b =>
    rw [Scalar.closer, if_pos hd]
    have h' : IsLeast (insert d seen) (min d b) := IsLeast.insert d h
    rw [min_comm] at h'
    exact h'

/-- Zero is the best value of distances as soon as it has been seen. -/
theorem IsBest.zero {seen : Set ℝ} (hnonneg : ∀ d ∈ seen, 0 ≤ d) (h : (0 : ℝ) ∈ seen) :
    IsBest seen (some 0) :=
  ⟨h, hnonneg⟩

/-- The best value after a list of further candidates. -/
theorem IsBest.foldl_closer {seen : Set ℝ} {best : Option ℝ} (h : IsBest seen best)
    (ds : List ℝ) : IsBest ({d | d ∈ ds} ∪ seen) (ds.foldl Scalar.closer best) := by
  induction ds generalizing seen best with
  | nil => simpa using h
  | cons d ds ih =>
    have hstep := ih (h.closer d)
    have hset : {x | x ∈ d :: ds} ∪ seen = {x | x ∈ ds} ∪ insert d seen := by
      ext x
      simp only [List.mem_cons, Set.mem_union, Set.mem_ofPred_eq, Set.mem_insert_iff]
      tauto
    rw [hset]
    exact hstep

/-- **`least` is the least element of a list that is not empty.** -/
theorem isLeast_least {ds : List ℝ} (h : ds ≠ []) : IsLeast {d | d ∈ ds} (least ds) := by
  have hbest : IsBest ({d | d ∈ ds} ∪ ∅) (ds.foldl closer none) :=
    IsBest.foldl_closer (show IsBest ∅ none from rfl) ds
  rw [Set.union_empty] at hbest
  unfold least
  cases hfold : ds.foldl closer none with
  | none =>
    rw [hfold] at hbest
    obtain ⟨d, rest, rfl⟩ := List.exists_cons_of_ne_nil h
    have hmem : d ∈ ({x | x ∈ d :: rest} : Set ℝ) := by simp
    rw [show {x | x ∈ d :: rest} = (∅ : Set ℝ) from hbest] at hmem
    exact absurd hmem (Set.notMem_empty d)
  | some b =>
    rw [hfold] at hbest
    exact hbest

end Scalar

end AgvDispatch
