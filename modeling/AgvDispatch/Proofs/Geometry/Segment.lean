import AgvDispatch.Geometry.Segment
import AgvDispatch.Proofs.Scalar.Real
import Mathlib.Data.Set.Image
import Mathlib.Tactic.FieldSimp
import Mathlib.Tactic.LinearCombination
import Mathlib.Tactic.Linarith
import Mathlib.Tactic.Positivity
import Mathlib.Tactic.Ring
/-!
# Distances of segments in exact arithmetic

A segment stands for the set of its points, `Segment.points`. Over the real numbers the computed
distances are the distances of these sets.

* `Segment.isLeast_distanceToPoint`: the clamped foot of the perpendicular is a closest point.
* `Segment.meets_iff`: the signs of the four turns decide whether two segments share a point.
* `Segment.isLeast_distance`: the distance of two segments is the least distance of a point of one
  to a point of the other. Segments that do not meet are closest at an end point: a pair of inner
  points can be moved, without growing apart, until one of them is an end point. It is moved towards
  the crossing of the two lines (`exists_exit_within`), or along both lines at once if they are
  parallel (`exists_exit`).
-/

namespace AgvDispatch

/-! ### Points -/

namespace Point

/-- The square of the distance of two points. -/
def distSq (p q : Point ℝ) : ℝ := (p.x - q.x) ^ 2 + (p.y - q.y) ^ 2

theorem distance_eq_sqrt (p q : Point ℝ) : p.distance q = √(p.distSq q) := rfl

theorem distSq_nonneg (p q : Point ℝ) : 0 ≤ p.distSq q := by
  unfold distSq
  positivity

theorem distance_nonneg (p q : Point ℝ) : 0 ≤ p.distance q := Real.sqrt_nonneg _

theorem distance_le_distance {p q p' q' : Point ℝ} (h : p.distSq q ≤ p'.distSq q') :
    p.distance q ≤ p'.distance q' :=
  Real.sqrt_le_sqrt h

theorem distance_comm (p q : Point ℝ) : p.distance q = q.distance p := by
  rw [distance_eq_sqrt, distance_eq_sqrt]
  congr 1
  unfold distSq
  ring

theorem distance_self (p : Point ℝ) : p.distance p = 0 := by
  rw [distance_eq_sqrt, show p.distSq p = 0 by unfold distSq; ring, Real.sqrt_zero]

/-- Points at distance zero coincide. -/
theorem eq_of_distance_eq_zero {p q : Point ℝ} (h : p.distance q = 0) : p = q := by
  have hsq : p.distSq q = 0 := (Real.sqrt_eq_zero (distSq_nonneg p q)).mp h
  unfold distSq at hsq
  have hx : (p.x - q.x) ^ 2 = 0 := by nlinarith [sq_nonneg (p.x - q.x), sq_nonneg (p.y - q.y)]
  have hy : (p.y - q.y) ^ 2 = 0 := by nlinarith [sq_nonneg (p.x - q.x), sq_nonneg (p.y - q.y)]
  obtain ⟨px, py⟩ := p
  obtain ⟨qx, qy⟩ := q
  rw [Point.mk.injEq]
  exact ⟨sub_eq_zero.mp (pow_eq_zero_iff two_ne_zero |>.mp hx),
    sub_eq_zero.mp (pow_eq_zero_iff two_ne_zero |>.mp hy)⟩

/-- Points are at least as far apart as their first coordinates. -/
theorem abs_sub_x_le_distance (p q : Point ℝ) : |p.x - q.x| ≤ p.distance q := by
  rw [distance_eq_sqrt, ← Real.sqrt_sq_eq_abs]
  apply Real.sqrt_le_sqrt
  unfold distSq
  linarith [sq_nonneg (p.y - q.y)]

/-- Points are at least as far apart as their second coordinates. -/
theorem abs_sub_y_le_distance (p q : Point ℝ) : |p.y - q.y| ≤ p.distance q := by
  rw [distance_eq_sqrt, ← Real.sqrt_sq_eq_abs]
  apply Real.sqrt_le_sqrt
  unfold distSq
  linarith [sq_nonneg (p.x - q.x)]

end Point

namespace Segment

/-! ### The points of a segment -/

/-- The point of a segment at parameter `t`: its start at `0` and its stop at `1`. -/
def pointAt (s : Segment ℝ) (t : ℝ) : Point ℝ :=
  ⟨s.start.x + t * (s.stop.x - s.start.x), s.start.y + t * (s.stop.y - s.start.y)⟩

/-- The set of points of a segment. -/
def points (s : Segment ℝ) : Set (Point ℝ) :=
  {p | ∃ t, 0 ≤ t ∧ t ≤ 1 ∧ p = s.pointAt t}

@[simp] theorem pointAt_zero (s : Segment ℝ) : s.pointAt 0 = s.start := by
  simp [pointAt]

@[simp] theorem pointAt_one (s : Segment ℝ) : s.pointAt 1 = s.stop := by
  simp [pointAt]

theorem pointAt_mem {s : Segment ℝ} {t : ℝ} (h₀ : 0 ≤ t) (h₁ : t ≤ 1) : s.pointAt t ∈ s.points :=
  ⟨t, h₀, h₁, rfl⟩

theorem start_mem (s : Segment ℝ) : s.start ∈ s.points :=
  ⟨0, le_rfl, zero_le_one, s.pointAt_zero.symm⟩

theorem stop_mem (s : Segment ℝ) : s.stop ∈ s.points :=
  ⟨1, zero_le_one, le_rfl, s.pointAt_one.symm⟩

/-- A segment from a point to itself is that point. -/
@[simp] theorem points_self (p : Point ℝ) : points ⟨p, p⟩ = {p} := by
  ext q
  constructor
  · rintro ⟨t, -, -, rfl⟩
    simp [pointAt]
  · intro h
    rw [Set.mem_singleton_iff.mp h]
    exact start_mem ⟨p, p⟩

/-! ### The distance of a point -/

/-- The square of the distance to the point at parameter `t`, as a polynomial in `t`. -/
theorem distSq_pointAt (s : Segment ℝ) (p : Point ℝ) (t : ℝ) :
    p.distSq (s.pointAt t) = p.distSq s.start
      - 2 * t * ((p.x - s.start.x) * (s.stop.x - s.start.x)
        + (p.y - s.start.y) * (s.stop.y - s.start.y))
      + t ^ 2 * s.stop.distSq s.start := by
  simp only [Point.distSq, pointAt]
  ring

/-- On a parabola `c t² − 2 c r t` that opens upwards, the parameter closest to the vertex `r` is
the lowest one. -/
theorem clampUnit_minimises {c t : ℝ} (hc : 0 < c) (r : ℝ) (h₀ : 0 ≤ t) (h₁ : t ≤ 1) :
    Scalar.clampUnit r ^ 2 * c - 2 * Scalar.clampUnit r * (r * c)
      ≤ t ^ 2 * c - 2 * t * (r * c) := by
  unfold Scalar.clampUnit
  split_ifs with hlow hhigh
  · have hlow' : r < 0 := hlow
    have : 0 ≤ t * (t - 2 * r) * c := by
      apply mul_nonneg _ hc.le
      exact mul_nonneg h₀ (by linarith)
    nlinarith
  · have hhigh' : 1 < r := hhigh
    have : 0 ≤ (1 - t) * (2 * r - 1 - t) * c := by
      apply mul_nonneg _ hc.le
      exact mul_nonneg (by linarith) (by linarith)
    nlinarith
  · have : 0 ≤ (t - r) ^ 2 * c := by positivity
    nlinarith

/-- **The distance of a point to a segment** is its least distance to a point of the segment. -/
theorem isLeast_distanceToPoint (s : Segment ℝ) (p : Point ℝ) :
    IsLeast {d | ∃ q ∈ s.points, d = p.distance q} (s.distanceToPoint p) := by
  by_cases hlen : s.stop.distSq s.start = 0
  · -- The segment is one point.
    have hstop : s.stop = s.start :=
      Point.eq_of_distance_eq_zero (by rw [Point.distance_eq_sqrt, hlen, Real.sqrt_zero])
    have hval : s.distanceToPoint p = p.distance s.start := by
      unfold distanceToPoint
      have hzero : ((s.stop.x - s.start.x) * (s.stop.x - s.start.x)
          + (s.stop.y - s.start.y) * (s.stop.y - s.start.y) == 0) = true := by
        rw [Scalar.beq_iff_eq]
        unfold Point.distSq at hlen
        linarith
      exact if_pos hzero
    rw [hval]
    refine ⟨⟨s.start, s.start_mem, rfl⟩, ?_⟩
    rintro d ⟨q, ⟨t, -, -, rfl⟩, rfl⟩
    rw [show s.pointAt t = s.start by simp [pointAt, hstop]]
  · have hpos : 0 < s.stop.distSq s.start := lt_of_le_of_ne (Point.distSq_nonneg _ _) (Ne.symm hlen)
    set u := (p.x - s.start.x) * (s.stop.x - s.start.x)
      + (p.y - s.start.y) * (s.stop.y - s.start.y) with hu
    have hlen' : (s.stop.x - s.start.x) * (s.stop.x - s.start.x)
        + (s.stop.y - s.start.y) * (s.stop.y - s.start.y) = s.stop.distSq s.start := by
      unfold Point.distSq
      ring
    -- The foot of the perpendicular has the parameter `r`.
    obtain ⟨r, hr, hval⟩ : ∃ r, r * s.stop.distSq s.start = u
        ∧ s.distanceToPoint p = p.distance (s.pointAt (Scalar.clampUnit r)) := by
      refine ⟨u / s.stop.distSq s.start, div_mul_cancel₀ u hlen, ?_⟩
      unfold distanceToPoint
      have hne : ¬((s.stop.x - s.start.x) * (s.stop.x - s.start.x)
          + (s.stop.y - s.start.y) * (s.stop.y - s.start.y) == 0) = true := by
        rw [Scalar.beq_iff_eq, hlen']
        exact hlen
      rw [← hlen']
      exact if_neg hne
    obtain ⟨h₀, h₁⟩ := Scalar.clampUnit_mem r
    rw [hval]
    refine ⟨⟨_, pointAt_mem h₀ h₁, rfl⟩, ?_⟩
    rintro d ⟨q, ⟨t, ht₀, ht₁, rfl⟩, rfl⟩
    apply Point.distance_le_distance
    rw [distSq_pointAt, distSq_pointAt]
    have hleast := clampUnit_minimises hpos r ht₀ ht₁
    rw [hr] at hleast
    linarith

theorem distanceToPoint_le {s : Segment ℝ} (p : Point ℝ) {q : Point ℝ} (h : q ∈ s.points) :
    s.distanceToPoint p ≤ p.distance q :=
  (s.isLeast_distanceToPoint p).2 ⟨q, h, rfl⟩

/-! ### Leaving the unit square

The pairs of points of two segments are the points of the unit square of their parameters. A pair
with an end point is a point on the border of the square. -/

/-- A number moving at constant speed within the unit interval reaches one of its ends. -/
theorem exists_exit_interval {x a : ℝ} (h₀ : 0 ≤ x) (h₁ : x ≤ 1) (ha : a ≠ 0) :
    ∃ t, 0 ≤ t ∧ (x + t * a = 0 ∨ x + t * a = 1) := by
  rcases lt_or_gt_of_ne ha with hneg | hpos
  · refine ⟨x / -a, div_nonneg h₀ (by linarith), Or.inl ?_⟩
    field_simp
    ring
  · refine ⟨(1 - x) / a, div_nonneg (by linarith) hpos.le, Or.inr ?_⟩
    field_simp
    ring

/-- A number between two numbers of the unit interval lies in it. -/
theorem unit_of_between {x a t u : ℝ} (h₀ : 0 ≤ x) (h₁ : x ≤ 1) (ht : 0 ≤ t) (htu : t ≤ u)
    (hend : x + u * a = 0 ∨ x + u * a = 1) : 0 ≤ x + t * a ∧ x + t * a ≤ 1 := by
  rcases le_total 0 a with ha | ha
  · have hle : t * a ≤ u * a := mul_le_mul_of_nonneg_right htu ha
    have hnonneg : 0 ≤ t * a := mul_nonneg ht ha
    rcases hend with h | h <;> constructor <;> linarith
  · have hle : u * a ≤ t * a := mul_le_mul_of_nonpos_right htu ha
    have hnonpos : t * a ≤ 0 := mul_nonpos_of_nonneg_of_nonpos ht ha
    rcases hend with h | h <;> constructor <;> linarith

/-- Whether a point of the plane lies on the border of the unit square. -/
def OnBorder (x y : ℝ) : Prop :=
  (0 ≤ x ∧ x ≤ 1) ∧ (0 ≤ y ∧ y ≤ 1) ∧ (x = 0 ∨ x = 1 ∨ y = 0 ∨ y = 1)

/-- **A point moving in a fixed direction leaves the unit square** across its border. -/
theorem exists_exit {x y a b : ℝ} (hx : 0 ≤ x ∧ x ≤ 1) (hy : 0 ≤ y ∧ y ≤ 1)
    (hab : a ≠ 0 ∨ b ≠ 0) : ∃ t, 0 ≤ t ∧ OnBorder (x + t * a) (y + t * b) := by
  by_cases ha : a = 0
  · obtain ⟨t, ht, hend⟩ := exists_exit_interval hy.1 hy.2 (hab.resolve_left (not_not.mpr ha))
    refine ⟨t, ht, ?_, unit_of_between hy.1 hy.2 ht le_rfl hend, by tauto⟩
    rw [ha, mul_zero, add_zero]
    exact hx
  · obtain ⟨t, ht, hendx⟩ := exists_exit_interval hx.1 hx.2 ha
    by_cases hb : b = 0
    · refine ⟨t, ht, unit_of_between hx.1 hx.2 ht le_rfl hendx, ?_, by tauto⟩
      rw [hb, mul_zero, add_zero]
      exact hy
    · -- The border is reached by the coordinate that gets to its end first.
      obtain ⟨u, hu, hendy⟩ := exists_exit_interval hy.1 hy.2 hb
      rcases le_total t u with htu | hut
      · exact ⟨t, ht, unit_of_between hx.1 hx.2 ht le_rfl hendx,
          unit_of_between hy.1 hy.2 ht htu hendy, by tauto⟩
      · exact ⟨u, hu, unit_of_between hx.1 hx.2 hu hut hendx,
          unit_of_between hy.1 hy.2 hu le_rfl hendy, by tauto⟩

/-- A point moving towards a target outside the unit square leaves the square on its way. -/
theorem exists_exit_within {x y a b : ℝ} (hx : 0 ≤ x ∧ x ≤ 1) (hy : 0 ≤ y ∧ y ≤ 1)
    (hout : ¬((0 ≤ x + a ∧ x + a ≤ 1) ∧ 0 ≤ y + b ∧ y + b ≤ 1)) :
    ∃ t, 0 ≤ t ∧ t ≤ 1 ∧ OnBorder (x + t * a) (y + t * b) := by
  have hab : a ≠ 0 ∨ b ≠ 0 := by
    by_contra hcon
    push Not at hcon
    apply hout
    rw [hcon.1, hcon.2, add_zero, add_zero]
    exact ⟨hx, hy⟩
  obtain ⟨t, ht, hborder⟩ := exists_exit hx hy hab
  refine ⟨t, ht, ?_, hborder⟩
  by_contra hlong
  push Not at hlong
  apply hout
  -- The target lies between the starting point and the exit.
  have key : ∀ z c : ℝ, 0 ≤ z ∧ z ≤ 1 → 0 ≤ z + t * c ∧ z + t * c ≤ 1 →
      0 ≤ z + c ∧ z + c ≤ 1 := by
    intro z c hz hzt
    rcases le_total 0 c with hc | hc <;> constructor <;> nlinarith
  exact ⟨key x a hx hborder.1, key y b hy hborder.2.1⟩

/-! ### Segments that share a point -/

/-- The cross product of the directions of two segments. It is zero for parallel ones. -/
def cross (s t : Segment ℝ) : ℝ :=
  (s.stop.x - s.start.x) * (t.stop.y - t.start.y) - (s.stop.y - s.start.y) * (t.stop.x - t.start.x)

/-- The turn from a segment to one of its own points is none. -/
theorem turn_pointAt (s : Segment ℝ) (t : ℝ) : turn s.start s.stop (s.pointAt t) = 0 := by
  simp only [turn, pointAt]
  ring

theorem between_of_unit {a b t : ℝ} (h₀ : 0 ≤ t) (h₁ : t ≤ 1) :
    min a b ≤ a + t * (b - a) ∧ a + t * (b - a) ≤ max a b := by
  rcases le_total a b with h | h
  · rw [min_eq_left h, max_eq_right h]
    constructor <;> nlinarith
  · rw [min_eq_right h, max_eq_left h]
    constructor <;> nlinarith

theorem boxContains_iff {s : Segment ℝ} {p : Point ℝ} : s.boxContains p = true ↔
    (min s.start.x s.stop.x ≤ p.x ∧ p.x ≤ max s.start.x s.stop.x)
      ∧ min s.start.y s.stop.y ≤ p.y ∧ p.y ≤ max s.start.y s.stop.y := by
  simp [boxContains, and_assoc]

/-- A point of a segment lies in its box. -/
theorem boxContains_of_mem {s : Segment ℝ} {p : Point ℝ} (h : p ∈ s.points) :
    s.boxContains p = true := by
  obtain ⟨t, h₀, h₁, rfl⟩ := h
  exact boxContains_iff.mpr ⟨between_of_unit h₀ h₁, between_of_unit h₀ h₁⟩

/-- The parameter of a number between two different ones. -/
theorem exists_unit_of_between {a b x : ℝ} (hne : a ≠ b) (h : min a b ≤ x ∧ x ≤ max a b) :
    ∃ t, 0 ≤ t ∧ t ≤ 1 ∧ x = a + t * (b - a) := by
  have hba : b - a ≠ 0 := sub_ne_zero.mpr (Ne.symm hne)
  refine ⟨(x - a) / (b - a), ?_, ?_, by field_simp; ring⟩ <;>
    rcases lt_or_gt_of_ne hne with hlt | hgt
  · rw [min_eq_left hlt.le] at h
    exact div_nonneg (by linarith) (by linarith)
  · rw [max_eq_left hgt.le] at h
    exact div_nonneg_of_nonpos (by linarith) (by linarith)
  · rw [max_eq_right hlt.le] at h
    exact (div_le_one (by linarith)).mpr (by linarith)
  · rw [min_eq_right hgt.le] at h
    exact (div_le_one_of_neg (by linarith)).mpr (by linarith)

/-- A point on the line of a segment that lies in the box of the segment is one of its points. -/
theorem mem_of_turn_eq_zero {s : Segment ℝ} {p : Point ℝ} (hturn : turn s.start s.stop p = 0)
    (hbox : s.boxContains p = true) : p ∈ s.points := by
  obtain ⟨hx, hy⟩ := boxContains_iff.mp hbox
  have hline : (s.stop.x - s.start.x) * (p.y - s.start.y)
      = (s.stop.y - s.start.y) * (p.x - s.start.x) := sub_eq_zero.mp hturn
  obtain ⟨px, py⟩ := p
  by_cases hxne : s.start.x = s.stop.x
  · have hpx : px = s.start.x := by
      rw [← hxne, min_self, max_self] at hx
      exact le_antisymm hx.2 hx.1
    by_cases hyne : s.start.y = s.stop.y
    · have hpy : py = s.start.y := by
        rw [← hyne, min_self, max_self] at hy
        exact le_antisymm hy.2 hy.1
      rw [hpx, hpy]
      exact s.start_mem
    · obtain ⟨t, h₀, h₁, hpy⟩ := exists_unit_of_between hyne hy
      refine ⟨t, h₀, h₁, ?_⟩
      rw [pointAt, Point.mk.injEq]
      exact ⟨by rw [hpx, ← hxne]; ring, hpy⟩
  · obtain ⟨t, h₀, h₁, hpx⟩ := exists_unit_of_between hxne hx
    refine ⟨t, h₀, h₁, ?_⟩
    rw [pointAt, Point.mk.injEq]
    refine ⟨hpx, ?_⟩
    have hdx : s.stop.x - s.start.x ≠ 0 := sub_ne_zero.mpr (Ne.symm hxne)
    apply mul_left_cancel₀ hdx
    rw [show px = s.start.x + t * (s.stop.x - s.start.x) from hpx] at hline
    linear_combination hline

theorem oppositeSigns_iff {u v : ℝ} :
    oppositeSigns u v = true ↔ (0 < u ∧ v < 0) ∨ (u < 0 ∧ 0 < v) := by
  simp [oppositeSigns]

/-- What `meets` tests, in propositional form. -/
theorem meets_eq_true_iff {s t : Segment ℝ} : s.meets t = true ↔
    (((oppositeSigns (turn t.start t.stop s.start) (turn t.start t.stop s.stop) = true
        ∧ oppositeSigns (turn s.start s.stop t.start) (turn s.start s.stop t.stop) = true)
      ∨ (turn t.start t.stop s.start = 0 ∧ t.boxContains s.start = true))
      ∨ (turn t.start t.stop s.stop = 0 ∧ t.boxContains s.stop = true))
      ∨ (turn s.start s.stop t.start = 0 ∧ s.boxContains t.start = true)
      ∨ (turn s.start s.stop t.stop = 0 ∧ s.boxContains t.stop = true) := by
  unfold meets
  simp only [Bool.or_eq_true, Bool.and_eq_true, Scalar.beq_iff_eq, or_assoc]

/-- An end of one segment lies on the other one. -/
def Touches (s t : Segment ℝ) : Prop :=
  s.start ∈ t.points ∨ s.stop ∈ t.points ∨ t.start ∈ s.points ∨ t.stop ∈ s.points

theorem meets_of_touches {s t : Segment ℝ} (h : s.Touches t) : s.meets t = true := by
  rw [meets_eq_true_iff]
  have key : ∀ {r : Segment ℝ} {p : Point ℝ}, p ∈ r.points →
      turn r.start r.stop p = 0 ∧ r.boxContains p = true := by
    intro r p hp
    refine ⟨?_, boxContains_of_mem hp⟩
    obtain ⟨a, -, -, rfl⟩ := hp
    exact r.turn_pointAt a
  rcases h with h | h | h | h
  · exact Or.inl (Or.inl (Or.inr (key h)))
  · exact Or.inl (Or.inr (key h))
  · exact Or.inr (Or.inl (key h))
  · exact Or.inr (Or.inr (key h))

/-- A pair of points of which one is an end point. -/
theorem exists_end_of_onBorder {s t : Segment ℝ} {a b : ℝ} (h : OnBorder a b) :
    (s.pointAt a = s.start ∨ s.pointAt a = s.stop)
      ∨ t.pointAt b = t.start ∨ t.pointAt b = t.stop := by
  obtain ⟨-, -, rfl | rfl | rfl | rfl⟩ := h <;> simp

theorem touches_of_onBorder {s t : Segment ℝ} {a b : ℝ} (h : OnBorder a b)
    (heq : s.pointAt a = t.pointAt b) : s.Touches t := by
  have ha : s.pointAt a ∈ s.points := pointAt_mem h.1.1 h.1.2
  have hb : t.pointAt b ∈ t.points := pointAt_mem h.2.1.1 h.2.1.2
  rcases exists_end_of_onBorder (s := s) (t := t) h with (hend | hend) | hend | hend
  · exact Or.inl (by rw [← hend, heq]; exact hb)
  · exact Or.inr (Or.inl (by rw [← hend, heq]; exact hb))
  · exact Or.inr (Or.inr (Or.inl (by rw [← hend, ← heq]; exact ha)))
  · exact Or.inr (Or.inr (Or.inr (by rw [← hend, ← heq]; exact ha)))

/-- The difference of a pair of points after both have moved. -/
theorem pointAt_sub_pointAt (s t : Segment ℝ) (a b θ da db : ℝ) :
    (s.pointAt (a + θ * da)).x - (t.pointAt (b + θ * db)).x
      = (s.pointAt a).x - (t.pointAt b).x
        + θ * (da * (s.stop.x - s.start.x) - db * (t.stop.x - t.start.x))
    ∧ (s.pointAt (a + θ * da)).y - (t.pointAt (b + θ * db)).y
      = (s.pointAt a).y - (t.pointAt b).y
        + θ * (da * (s.stop.y - s.start.y) - db * (t.stop.y - t.start.y)) := by
  simp only [pointAt]
  constructor <;> ring

/-- Parallel segments have a common direction of movement that keeps the difference of a pair of
points. -/
theorem exists_slide {s t : Segment ℝ} (h : s.cross t = 0) : ∃ a b : ℝ, (a ≠ 0 ∨ b ≠ 0)
    ∧ a * (s.stop.x - s.start.x) - b * (t.stop.x - t.start.x) = 0
    ∧ a * (s.stop.y - s.start.y) - b * (t.stop.y - t.start.y) = 0 := by
  unfold cross at h
  by_cases hx : t.stop.x - t.start.x = 0
  · by_cases hy : t.stop.y - t.start.y = 0
    · exact ⟨0, 1, Or.inr one_ne_zero, by rw [hx]; ring, by rw [hy]; ring⟩
    · refine ⟨t.stop.y - t.start.y, s.stop.y - s.start.y, Or.inl hy, ?_, by ring⟩
      linear_combination h
  · refine ⟨t.stop.x - t.start.x, s.stop.x - s.start.x, Or.inl hx, by ring, ?_⟩
    linear_combination -h

/-- A linear quantity with opposite signs at the two ends vanishes in between. -/
theorem exists_unit_of_oppositeSigns {u v : ℝ} (h : oppositeSigns u v = true) :
    u - v ≠ 0 ∧ ∃ a, 0 ≤ a ∧ a ≤ 1 ∧ a * (u - v) = u := by
  rcases oppositeSigns_iff.mp h with ⟨hu, hv⟩ | ⟨hu, hv⟩
  · have hpos : 0 < u - v := by linarith
    exact ⟨hpos.ne', u / (u - v), div_nonneg hu.le hpos.le, (div_le_one hpos).mpr (by linarith),
      div_mul_cancel₀ u hpos.ne'⟩
  · have hneg : u - v < 0 := by linarith
    exact ⟨hneg.ne, u / (u - v), div_nonneg_of_nonpos hu.le hneg.le,
      (div_le_one_of_neg hneg).mpr (by linarith), div_mul_cancel₀ u hneg.ne⟩

theorem oppositeSigns_of_inner {a c : ℝ} (h₀ : 0 < a) (h₁ : a < 1) (hc : c ≠ 0) :
    oppositeSigns (a * c) ((a - 1) * c) = true := by
  rw [oppositeSigns_iff]
  have ha : a - 1 < 0 := by linarith
  rcases lt_or_gt_of_ne hc with hneg | hpos
  · exact Or.inr ⟨mul_neg_of_pos_of_neg h₀ hneg, mul_pos_of_neg_of_neg ha hneg⟩
  · exact Or.inl ⟨mul_pos h₀ hpos, mul_neg_of_neg_of_pos ha hpos⟩

/-- Two segments that separate each other's ends cross. -/
theorem exists_mem_of_oppositeSigns {s t : Segment ℝ}
    (h : oppositeSigns (turn t.start t.stop s.start) (turn t.start t.stop s.stop) = true)
    (h' : oppositeSigns (turn s.start s.stop t.start) (turn s.start s.stop t.stop) = true) :
    ∃ p, p ∈ s.points ∧ p ∈ t.points := by
  obtain ⟨hne, a, ha₀, ha₁, ha⟩ := exists_unit_of_oppositeSigns h
  obtain ⟨-, b, hb₀, hb₁, hb⟩ := exists_unit_of_oppositeSigns h'
  -- Both parameters are ratios with the cross product below.
  have hcross : turn t.start t.stop s.start - turn t.start t.stop s.stop = s.cross t := by
    simp only [turn, cross]
    ring
  have hcross' : turn s.start s.stop t.start - turn s.start s.stop t.stop = -s.cross t := by
    simp only [turn, cross]
    ring
  rw [hcross] at hne ha
  rw [hcross'] at hb
  refine ⟨s.pointAt a, pointAt_mem ha₀ ha₁, b, hb₀, hb₁, ?_⟩
  simp only [pointAt, Point.mk.injEq]
  simp only [turn, cross] at ha hb hne
  constructor
  · apply mul_left_cancel₀ hne
    linear_combination (s.stop.x - s.start.x) * ha + (t.stop.x - t.start.x) * hb
  · apply mul_left_cancel₀ hne
    linear_combination (s.stop.y - s.start.y) * ha + (t.stop.y - t.start.y) * hb

/-- A point that two parallel segments share slides along both until it is an end of one. -/
theorem meets_of_parallel {s t : Segment ℝ} (hcross : s.cross t = 0) {a b : ℝ}
    (ha : 0 ≤ a ∧ a ≤ 1) (hb : 0 ≤ b ∧ b ≤ 1) (heq : s.pointAt a = t.pointAt b) :
    s.meets t = true := by
  obtain ⟨da, db, hne, hdx, hdy⟩ := exists_slide hcross
  obtain ⟨θ, -, hborder⟩ := exists_exit ha hb hne
  obtain ⟨hsx, hsy⟩ := pointAt_sub_pointAt s t a b θ da db
  rw [hdx, heq, sub_self, mul_zero, add_zero, sub_eq_zero] at hsx
  rw [hdy, heq, sub_self, mul_zero, add_zero, sub_eq_zero] at hsy
  refine meets_of_touches (touches_of_onBorder hborder ?_)
  rw [pointAt, pointAt, Point.mk.injEq]
  exact ⟨hsx, hsy⟩

/-- Segments that share an inner point but not their direction separate each other's ends. -/
theorem meets_of_inner {s t : Segment ℝ} (hcross : s.cross t ≠ 0) {a b : ℝ} (ha : 0 < a ∧ a < 1)
    (hb : 0 < b ∧ b < 1) (heq : s.pointAt a = t.pointAt b) : s.meets t = true := by
  simp only [pointAt, Point.mk.injEq] at heq
  obtain ⟨hx, hy⟩ := heq
  have h₁ : turn t.start t.stop s.start = a * s.cross t := by
    simp only [turn, cross]
    linear_combination (t.stop.x - t.start.x) * hy - (t.stop.y - t.start.y) * hx
  have h₂ : turn t.start t.stop s.stop = (a - 1) * s.cross t := by
    simp only [turn, cross]
    linear_combination (t.stop.x - t.start.x) * hy - (t.stop.y - t.start.y) * hx
  have h₃ : turn s.start s.stop t.start = b * -s.cross t := by
    simp only [turn, cross]
    linear_combination (s.stop.y - s.start.y) * hx - (s.stop.x - s.start.x) * hy
  have h₄ : turn s.start s.stop t.stop = (b - 1) * -s.cross t := by
    simp only [turn, cross]
    linear_combination (s.stop.y - s.start.y) * hx - (s.stop.x - s.start.x) * hy
  rw [meets_eq_true_iff, h₁, h₂, h₃, h₄]
  exact Or.inl (Or.inl (Or.inl ⟨oppositeSigns_of_inner ha.1 ha.2 hcross,
    oppositeSigns_of_inner hb.1 hb.2 (neg_ne_zero.mpr hcross)⟩))

/-- **Two segments meet exactly when they share a point.** -/
theorem meets_iff {s t : Segment ℝ} : s.meets t = true ↔ ∃ p, p ∈ s.points ∧ p ∈ t.points := by
  constructor
  · intro h
    rw [meets_eq_true_iff] at h
    rcases h with ((⟨h, h'⟩ | ⟨h, hbox⟩) | ⟨h, hbox⟩) | ⟨h, hbox⟩ | ⟨h, hbox⟩
    · exact exists_mem_of_oppositeSigns h h'
    · exact ⟨s.start, s.start_mem, mem_of_turn_eq_zero h hbox⟩
    · exact ⟨s.stop, s.stop_mem, mem_of_turn_eq_zero h hbox⟩
    · exact ⟨t.start, mem_of_turn_eq_zero h hbox, t.start_mem⟩
    · exact ⟨t.stop, mem_of_turn_eq_zero h hbox, t.stop_mem⟩
  · rintro ⟨p, ⟨a, ha₀, ha₁, rfl⟩, b, hb₀, hb₁, heq⟩
    by_cases hcross : s.cross t = 0
    · exact meets_of_parallel hcross ⟨ha₀, ha₁⟩ ⟨hb₀, hb₁⟩ heq
    · by_cases hborder : OnBorder a b
      · exact meets_of_touches (touches_of_onBorder hborder heq)
      · have hne : ¬(a = 0 ∨ a = 1 ∨ b = 0 ∨ b = 1) :=
          fun h => hborder ⟨⟨ha₀, ha₁⟩, ⟨hb₀, hb₁⟩, h⟩
        push Not at hne
        exact meets_of_inner hcross
          ⟨lt_of_le_of_ne ha₀ (Ne.symm hne.1), lt_of_le_of_ne ha₁ hne.2.1⟩
          ⟨lt_of_le_of_ne hb₀ (Ne.symm hne.2.2.1), lt_of_le_of_ne hb₁ hne.2.2.2⟩ heq

/-! ### The distance of two segments -/

/-- A pair of points of two segments that do not meet can be moved, without growing apart, until one
of them is an end point. -/
theorem exists_onBorder_le {s t : Segment ℝ} (hmeets : ¬s.meets t = true) {a b : ℝ}
    (ha : 0 ≤ a ∧ a ≤ 1) (hb : 0 ≤ b ∧ b ≤ 1) :
    ∃ a' b', OnBorder a' b' ∧ (s.pointAt a').distSq (t.pointAt b')
      ≤ (s.pointAt a).distSq (t.pointAt b) := by
  by_cases hc : s.cross t = 0
  · obtain ⟨da, db, hne, hdx, hdy⟩ := exists_slide hc
    obtain ⟨θ, -, hborder⟩ := exists_exit ha hb hne
    refine ⟨_, _, hborder, ?_⟩
    obtain ⟨hsx, hsy⟩ := pointAt_sub_pointAt s t a b θ da db
    rw [hdx, mul_zero, add_zero] at hsx
    rw [hdy, mul_zero, add_zero] at hsy
    unfold Point.distSq
    rw [hsx, hsy]
  · -- The parameters at which the two lines cross.
    set a₀ := turn t.start t.stop s.start / s.cross t with ha₀
    set b₀ := -turn s.start s.stop t.start / s.cross t with hb₀
    have hcross : s.pointAt a₀ = t.pointAt b₀ := by
      simp only [pointAt, Point.mk.injEq, ha₀, hb₀]
      constructor <;> field_simp <;> simp only [turn, cross] <;> ring
    have hout : ¬((0 ≤ a + (a₀ - a) ∧ a + (a₀ - a) ≤ 1) ∧ 0 ≤ b + (b₀ - b) ∧ b + (b₀ - b) ≤ 1) := by
      rw [add_sub_cancel, add_sub_cancel]
      rintro ⟨⟨h₁, h₂⟩, h₃, h₄⟩
      exact hmeets (meets_iff.mpr ⟨s.pointAt a₀, pointAt_mem h₁ h₂, b₀, h₃, h₄, hcross⟩)
    obtain ⟨θ, hθ₀, hθ₁, hborder⟩ := exists_exit_within ha hb hout
    refine ⟨_, _, hborder, ?_⟩
    -- On the way to the crossing the difference of the two points only shrinks.
    obtain ⟨hsx, hsy⟩ := pointAt_sub_pointAt s t a b θ (a₀ - a) (b₀ - b)
    have hx : (s.pointAt a₀).x = (t.pointAt b₀).x := by rw [hcross]
    have hy : (s.pointAt a₀).y = (t.pointAt b₀).y := by rw [hcross]
    have hsx' : (s.pointAt (a + θ * (a₀ - a))).x - (t.pointAt (b + θ * (b₀ - b))).x
        = (1 - θ) * ((s.pointAt a).x - (t.pointAt b).x) := by
      rw [hsx]
      simp only [pointAt] at hx ⊢
      linear_combination θ * hx
    have hsy' : (s.pointAt (a + θ * (a₀ - a))).y - (t.pointAt (b + θ * (b₀ - b))).y
        = (1 - θ) * ((s.pointAt a).y - (t.pointAt b).y) := by
      rw [hsy]
      simp only [pointAt] at hy ⊢
      linear_combination θ * hy
    have hle : (1 - θ) ^ 2 ≤ 1 := by nlinarith
    unfold Point.distSq
    rw [hsx', hsy', mul_pow, mul_pow, ← mul_add]
    exact mul_le_of_le_one_left (by positivity) hle

theorem distance_of_meets {s t : Segment ℝ} (h : s.meets t = true) : s.distance t = 0 :=
  if_pos h

theorem distance_of_not_meets {s t : Segment ℝ} (h : ¬s.meets t = true) : s.distance t
    = min (min (min (t.distanceToPoint s.start) (t.distanceToPoint s.stop))
      (s.distanceToPoint t.start)) (s.distanceToPoint t.stop) :=
  if_neg h

/-- **The distance of two segments** is the least distance of a point of one to a point of the
other. -/
theorem isLeast_distance (s t : Segment ℝ) :
    IsLeast {d | ∃ p ∈ s.points, ∃ q ∈ t.points, d = p.distance q} (s.distance t) := by
  by_cases hmeets : s.meets t = true
  · rw [distance_of_meets hmeets]
    obtain ⟨p, hs, ht⟩ := meets_iff.mp hmeets
    refine ⟨⟨p, hs, p, ht, p.distance_self.symm⟩, ?_⟩
    rintro d ⟨q, -, r, -, rfl⟩
    exact Point.distance_nonneg q r
  · rw [distance_of_not_meets hmeets]
    refine ⟨?_, ?_⟩
    · -- Each of the four candidates is attained.
      have hfrom : ∀ p ∈ s.points, ∃ p' ∈ s.points, ∃ q ∈ t.points,
          t.distanceToPoint p = p'.distance q := by
        intro p hp
        obtain ⟨q, hq, heq⟩ := (t.isLeast_distanceToPoint p).1
        exact ⟨p, hp, q, hq, heq⟩
      have hto : ∀ q ∈ t.points, ∃ p ∈ s.points, ∃ q' ∈ t.points,
          s.distanceToPoint q = p.distance q' := by
        intro q hq
        obtain ⟨p, hp, heq⟩ := (s.isLeast_distanceToPoint q).1
        exact ⟨p, hp, q, hq, by rw [heq, Point.distance_comm]⟩
      have hmin : ∀ {x y : ℝ} (S : Set ℝ), x ∈ S → y ∈ S → min x y ∈ S := by
        intro x y S hx hy
        rcases min_choice x y with h | h <;> rw [h] <;> assumption
      exact hmin _ (hmin _ (hmin _ (hfrom _ s.start_mem) (hfrom _ s.stop_mem))
        (hto _ t.start_mem)) (hto _ t.stop_mem)
    · rintro d ⟨p, ⟨a, ha₀, ha₁, rfl⟩, q, ⟨b, hb₀, hb₁, rfl⟩, rfl⟩
      obtain ⟨a', b', hborder, hle⟩ := exists_onBorder_le hmeets ⟨ha₀, ha₁⟩ ⟨hb₀, hb₁⟩
      refine le_trans ?_ (Point.distance_le_distance hle)
      have hs : s.pointAt a' ∈ s.points := pointAt_mem hborder.1.1 hborder.1.2
      have ht : t.pointAt b' ∈ t.points := pointAt_mem hborder.2.1.1 hborder.2.1.2
      rcases exists_end_of_onBorder (s := s) (t := t) hborder with (h | h) | h | h
      · rw [h]
        exact (min_le_left _ _).trans ((min_le_left _ _).trans
          ((min_le_left _ _).trans (distanceToPoint_le _ ht)))
      · rw [h]
        exact (min_le_left _ _).trans ((min_le_left _ _).trans
          ((min_le_right _ _).trans (distanceToPoint_le _ ht)))
      · rw [h, Point.distance_comm]
        exact (min_le_left _ _).trans ((min_le_right _ _).trans (distanceToPoint_le _ hs))
      · rw [h, Point.distance_comm]
        exact (min_le_right _ _).trans (distanceToPoint_le _ hs)

theorem distance_nonneg (s t : Segment ℝ) : 0 ≤ s.distance t := by
  obtain ⟨p, -, q, -, h⟩ := (s.isLeast_distance t).1
  rw [h]
  exact Point.distance_nonneg p q

end Segment

end AgvDispatch
