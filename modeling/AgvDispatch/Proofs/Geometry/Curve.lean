import AgvDispatch.Geometry.Curve
import AgvDispatch.Proofs.Geometry.Segment
/-!
# Curves backwards

In exact arithmetic the samples of a curve at `t` and of the curve from the other end at `1 - t` are
the same point, so that the polyline of a curve backwards is the polyline of the curve with its
control points in the opposite order (`Curve.quadratic_reverse`, `Curve.cubic_reverse`). Two samples
between the ends tell two curves of one order apart (`Curve.quadratic_inj`, `Curve.cubic_inj`).
-/

namespace AgvDispatch

/-! ### Curves backwards -/

namespace Curve

theorem segmentCount_comm (p q : Point ℝ) : segmentCount p q = segmentCount q p := by
  unfold segmentCount
  rw [Point.distance_comm]

theorem le_segmentCount (p q : Point ℝ) : 10 ≤ segmentCount p q := by
  unfold segmentCount
  simp only
  omega

/-- The parameters of a curve backwards are those of the curve, counted from its end. -/
theorem parameters_reverse {n : ℕ} (h : n ≠ 0) :
    (parameters n : List ℝ).reverse = (parameters n).map (1 - ·) := by
  have hn : (n : ℝ) ≠ 0 := Nat.cast_ne_zero.mpr h
  apply List.ext_getElem
  · simp
  · intro i hi hi'
    have hle : i ≤ n := by simpa [parameters, Nat.lt_succ_iff] using hi'
    simp only [parameters, List.getElem_reverse, List.getElem_map, List.getElem_range,
      List.length_map, List.length_range]
    change ((n + 1 - 1 - i : ℕ) : ℝ) / n = 1 - (i : ℝ) / n
    rw [Nat.add_sub_cancel, Nat.cast_sub hle, sub_div, div_self hn]

/-- A curve is sampled as often from either end. -/
theorem parameters_segmentCount_reverse (p q : Point ℝ) :
    (parameters (segmentCount p q) : List ℝ).reverse
      = (parameters (segmentCount q p)).map (1 - ·) := by
  rw [segmentCount_comm p q]
  exact parameters_reverse (Nat.ne_of_gt (Nat.zero_lt_of_lt (le_segmentCount q p)))

theorem quadraticAt_back (a c b t : ℝ) : quadraticAt b c a (1 - t) = quadraticAt a c b t := by
  simp only [quadraticAt]
  ring

theorem cubicAt_back (a c₁ c₂ b t : ℝ) : cubicAt b c₂ c₁ a (1 - t) = cubicAt a c₁ c₂ b t := by
  simp only [cubicAt]
  ring

/-- **A quadratic curve backwards** is the curve with the same control point. -/
theorem quadratic_reverse (p c q : Point ℝ) : (quadratic p c q).reverse = quadratic q c p := by
  unfold quadratic
  rw [← List.map_reverse, parameters_segmentCount_reverse, List.map_map]
  apply List.map_congr_left
  intro t _
  simp only [Function.comp_apply, Point.mk.injEq]
  rw [← quadraticAt_back p.x c.x q.x, ← quadraticAt_back p.y c.y q.y, sub_sub_cancel]
  exact ⟨rfl, rfl⟩

/-- **A cubic curve backwards** is the curve with its control points in the opposite order. -/
theorem cubic_reverse (p c₁ c₂ q : Point ℝ) : (cubic p c₁ c₂ q).reverse = cubic q c₂ c₁ p := by
  unfold cubic
  rw [← List.map_reverse, parameters_segmentCount_reverse, List.map_map]
  apply List.map_congr_left
  intro t _
  simp only [Function.comp_apply, Point.mk.injEq]
  rw [← cubicAt_back p.x c₁.x c₂.x q.x, ← cubicAt_back p.y c₁.y c₂.y q.y, sub_sub_cancel]
  exact ⟨rfl, rfl⟩

/-! ### Curves told apart -/

/-- A curve is sampled at two parameters between its ends. -/
theorem exists_inner_parameters {n : ℕ} (h : 3 ≤ n) : ∃ t u : ℝ, t ∈ parameters n
    ∧ u ∈ parameters n ∧ (0 < t ∧ t < 1) ∧ (0 < u ∧ u < 1) ∧ t ≠ u := by
  have hpos : (0 : ℝ) < n := by exact_mod_cast (by omega : 0 < n)
  have htwo : (2 : ℝ) < n := by exact_mod_cast (by omega : 2 < n)
  refine ⟨(1 : ℕ) / n, (2 : ℕ) / n, List.mem_map.mpr ⟨1, List.mem_range.mpr (by omega), rfl⟩,
    List.mem_map.mpr ⟨2, List.mem_range.mpr (by omega), rfl⟩, ?_, ?_, ?_⟩
  · exact ⟨by positivity, (div_lt_one hpos).mpr (by push_cast; linarith)⟩
  · exact ⟨by positivity, (div_lt_one hpos).mpr (by push_cast; linarith)⟩
  · rw [Ne, div_left_inj' hpos.ne']
    norm_num

theorem quadraticAt_inj {a c c' b t : ℝ} (h₀ : 0 < t) (h₁ : t < 1)
    (h : quadraticAt a c b t = quadraticAt a c' b t) : c = c' := by
  have hne : 2 * (1 - t) * t ≠ 0 := by
    have : 0 < 1 - t := by linarith
    positivity
  apply mul_left_cancel₀ hne
  simp only [quadraticAt, Nat.cast_ofNat] at h
  linear_combination h

/-- Two samples determine both control points. -/
theorem cubicAt_inj {a c₁ c₂ c₁' c₂' b t u : ℝ} (ht : 0 < t ∧ t < 1) (hu : 0 < u ∧ u < 1)
    (hne : t ≠ u) (h : cubicAt a c₁ c₂ b t = cubicAt a c₁' c₂' b t)
    (h' : cubicAt a c₁ c₂ b u = cubicAt a c₁' c₂' b u) : c₁ = c₁' ∧ c₂ = c₂' := by
  -- Between the ends a sample says where the line through the control points is at its parameter.
  have hline : ∀ {s : ℝ}, 0 < s ∧ s < 1 → cubicAt a c₁ c₂ b s = cubicAt a c₁' c₂' b s →
      (1 - s) * c₁ + s * c₂ = (1 - s) * c₁' + s * c₂' := by
    intro s hs heq
    have hs' : 3 * (1 - s) * s ≠ 0 := by
      have hleft : 0 < s := hs.1
      have hright : 0 < 1 - s := by linarith [hs.2]
      positivity
    apply mul_left_cancel₀ hs'
    simp only [cubicAt, Nat.cast_ofNat] at heq
    linear_combination heq
  have hdiff : u - t ≠ 0 := sub_ne_zero.mpr hne.symm
  constructor
  · apply mul_left_cancel₀ hdiff
    linear_combination u * hline ht h - t * hline hu h'
  · apply mul_left_cancel₀ hdiff
    linear_combination (1 - t) * hline hu h' - (1 - u) * hline ht h

theorem quadratic_inj {p c c' q : Point ℝ} (h : quadratic p c q = quadratic p c' q) : c = c' := by
  have hcount := le_segmentCount p q
  obtain ⟨t, -, ht, -, ⟨h₀, h₁⟩, -⟩ := exists_inner_parameters (by omega : 3 ≤ segmentCount p q)
  have hat := List.map_inj_left.mp h t ht
  simp only [Point.mk.injEq] at hat
  rcases c with ⟨x, y⟩
  rcases c' with ⟨x', y'⟩
  rw [Point.mk.injEq]
  exact ⟨quadraticAt_inj h₀ h₁ hat.1, quadraticAt_inj h₀ h₁ hat.2⟩

theorem cubic_inj {p c₁ c₂ c₁' c₂' q : Point ℝ} (h : cubic p c₁ c₂ q = cubic p c₁' c₂' q) :
    c₁ = c₁' ∧ c₂ = c₂' := by
  have hcount := le_segmentCount p q
  obtain ⟨t, u, ht, hu, hti, hui, hne⟩ :=
    exists_inner_parameters (by omega : 3 ≤ segmentCount p q)
  have hat := List.map_inj_left.mp h t ht
  have hau := List.map_inj_left.mp h u hu
  simp only [Point.mk.injEq] at hat hau
  obtain ⟨hx₁, hx₂⟩ := cubicAt_inj hti hui hne hat.1 hau.1
  obtain ⟨hy₁, hy₂⟩ := cubicAt_inj hti hui hne hat.2 hau.2
  rcases c₁ with ⟨x₁, y₁⟩
  rcases c₂ with ⟨x₂, y₂⟩
  simp only at hx₁ hx₂ hy₁ hy₂
  rw [hx₁, hx₂, hy₁, hy₂]
  exact ⟨rfl, rfl⟩

theorem length_quadratic (p c q : Point ℝ) : (quadratic p c q).length = segmentCount p q + 1 := by
  simp [quadratic, parameters]

theorem length_cubic (p c₁ c₂ q : Point ℝ) :
    (cubic p c₁ c₂ q).length = segmentCount p q + 1 := by
  simp [cubic, parameters]

end Curve

end AgvDispatch
