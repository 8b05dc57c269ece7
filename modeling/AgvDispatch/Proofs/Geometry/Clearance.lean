import AgvDispatch.Proofs.Geometry.Skeleton
import Mathlib.Analysis.Complex.Basic
import Mathlib.Analysis.Normed.Module.Ball.Pointwise
/-!
# What a clearance measures

The clearance of an obstacle from a path is the least distance from the path to the **area** of the
obstacle, which is its core inflated by its radius (`Obstacle.isLeast_clearance`). It is measured at
a closest pair of points of path and core (`Obstacle.exists_closest`), and the radius is taken off
afterwards, so that overlapping shapes are at clearance zero.

From this follows when a clearance is below a threshold (`Obstacle.clearance_lt_iff`), that a path
comes as close as each of its parts does (`Obstacle.clearance_le_of_subset`), and that the boxes
which are compared first never change the outcome of the collision test
(`Skeleton.collidesAsMeasured`).
-/

namespace AgvDispatch

/-! ### Points -/

namespace Point

/-- A point as a complex number. -/
def toComplex (p : Point ℝ) : ℂ := ⟨p.x, p.y⟩

theorem distance_eq_norm (p q : Point ℝ) : p.distance q = ‖p.toComplex - q.toComplex‖ :=
  (Complex.dist_mk _ _ _ _).symm.trans (dist_eq_norm _ _)

theorem distance_triangle (p q r : Point ℝ) : p.distance r ≤ p.distance q + q.distance r := by
  simp only [distance_eq_norm]
  exact norm_sub_le_norm_sub_add_norm_sub _ _ _

/-- Between two points lies one at any shorter distance from the first. -/
theorem exists_between {c p : Point ℝ} {r : ℝ} (h₀ : 0 ≤ r) (h₁ : r ≤ c.distance p) :
    ∃ q, c.distance q ≤ r ∧ p.distance q = c.distance p - r := by
  rcases h₀.eq_or_lt with rfl | hpos
  · exact ⟨c, (distance_self c).le, by rw [distance_comm, sub_zero]⟩
  · have hd : 0 < c.distance p := hpos.trans_le h₁
    obtain ⟨z, hcz, hzp⟩ := exists_dist_eq c.toComplex p.toComplex
      (sub_nonneg.mpr ((div_le_one hd).mpr h₁)) (div_nonneg h₀ hd.le)
      (sub_add_cancel 1 (r / c.distance p))
    rw [dist_eq_norm, dist_eq_norm, ← distance_eq_norm] at hcz hzp
    refine ⟨⟨z.re, z.im⟩, ?_, ?_⟩
    · rw [distance_eq_norm]
      exact (hcz.trans (div_mul_cancel₀ r hd.ne')).le
    · rw [distance_comm, distance_eq_norm]
      refine hzp.trans ?_
      rw [sub_mul, one_mul, div_mul_cancel₀ r hd.ne']

end Point

namespace Obstacle

/-! ### Closest points -/

/-- **Where a clearance is measured**: at a closest pair of points of the path and the core. -/
theorem exists_closest (o : Obstacle ℝ) (path : Skeleton ℝ) :
    ∃ p ∈ path.region, ∃ c ∈ o.core.1, o.clearance path = max (p.distance c - o.core.2) 0
      ∧ ∀ p' ∈ path.region, ∀ c' ∈ o.core.1, p.distance c ≤ p'.distance c' := by
  -- A point and a skeleton have no radius to take off.
  have hplain : ∀ p c : Point ℝ, p.distance c = max (p.distance c - 0) 0 := fun p c => by
    rw [sub_zero, max_eq_left (Point.distance_nonneg p c)]
  -- Two skeletons are measured the other way round.
  have hskeleton : ∀ s : Skeleton ℝ, ∃ p ∈ path.region, ∃ c ∈ s.region,
      s.distance path = p.distance c
        ∧ ∀ p' ∈ path.region, ∀ c' ∈ s.region, p.distance c ≤ p'.distance c' := by
    intro s
    rw [s.distance_comm]
    obtain ⟨⟨p, hp, c, hc, heq⟩, hleast⟩ := path.isLeast_distance s
    exact ⟨p, hp, c, hc, heq, fun p' hp' c' hc' => heq ▸ hleast ⟨p', hp', c', hc', rfl⟩⟩
  cases o with
  | point c =>
    obtain ⟨⟨p, hp, heq⟩, hleast⟩ := path.isLeast_distanceToPoint c
    rw [Point.distance_comm] at heq
    refine ⟨p, hp, c, rfl, heq.trans (hplain p c), ?_⟩
    rintro p' hp' c' rfl
    rw [← heq, Point.distance_comm]
    exact hleast ⟨p', hp', rfl⟩
  | skeleton s =>
    obtain ⟨p, hp, c, hc, heq, hleast⟩ := hskeleton s
    exact ⟨p, hp, c, hc, heq.trans (hplain p c), hleast⟩
  | corridor corridor =>
    obtain ⟨p, hp, c, hc, heq, hleast⟩ := hskeleton corridor.skeleton
    exact ⟨p, hp, c, hc, congrArg (fun d => max (d - corridor.radius) 0) heq, hleast⟩

/-- **When a clearance is below a threshold.** The threshold must be positive, and some point of the
path be closer to the core than the threshold and the radius together. -/
theorem clearance_lt_iff {o : Obstacle ℝ} {path : Skeleton ℝ} {threshold : ℝ} :
    o.clearance path < threshold ↔ 0 < threshold ∧ ∃ p ∈ path.region, ∃ c ∈ o.core.1,
      p.distance c < threshold + o.core.2 := by
  obtain ⟨p, hp, c, hc, heq, hclosest⟩ := o.exists_closest path
  rw [heq, max_lt_iff, sub_lt_iff_lt_add]
  constructor
  · rintro ⟨hclose, hpos⟩
    exact ⟨hpos, p, hp, c, hc, hclose⟩
  · rintro ⟨hpos, p', hp', c', hc', hclose⟩
    exact ⟨(hclosest p' hp' c' hc').trans_lt hclose, hpos⟩

/-- **A path comes as close as each of its parts.** -/
theorem clearance_le_of_subset {o : Obstacle ℝ} {part path : Skeleton ℝ}
    (h : part.region ⊆ path.region) : o.clearance path ≤ o.clearance part := by
  by_contra hlt
  obtain ⟨hpos, p, hp, c, hc, hclose⟩ := clearance_lt_iff.mp (not_le.mp hlt)
  exact lt_irrefl _ (clearance_lt_iff.mpr ⟨hpos, p, h hp, c, hc, hclose⟩)

/-! ### The area of an obstacle -/

/-- The points that an obstacle takes up: its core, inflated by its radius. -/
def area (o : Obstacle ℝ) : Set (Point ℝ) := {q | ∃ c ∈ o.core.1, c.distance q ≤ o.core.2}

/-- **A clearance is the least distance to the area of the obstacle.** -/
theorem isLeast_clearance {o : Obstacle ℝ} (h : 0 ≤ o.core.2) (path : Skeleton ℝ) :
    IsLeast {d | ∃ p ∈ path.region, ∃ q ∈ o.area, d = p.distance q} (o.clearance path) := by
  obtain ⟨p, hp, c, hc, heq, hclosest⟩ := o.exists_closest path
  rw [heq]
  constructor
  · rcases le_total (p.distance c) o.core.2 with hover | hapart
    -- The path runs through the area.
    · refine ⟨p, hp, p, ⟨c, hc, (Point.distance_comm c p).trans_le hover⟩, ?_⟩
      rw [Point.distance_self, max_eq_right (sub_nonpos.mpr hover)]
    -- The border of the area lies between the two closest points.
    · rw [Point.distance_comm] at hapart
      obtain ⟨q, hcq, hpq⟩ := Point.exists_between h hapart
      refine ⟨p, hp, q, ⟨c, hc, hcq⟩, ?_⟩
      rw [hpq, p.distance_comm c, max_eq_left (sub_nonneg.mpr hapart)]
  · rintro d ⟨p', hp', q, ⟨c', hc', hq⟩, rfl⟩
    refine max_le ?_ (Point.distance_nonneg p' q)
    have hleast : p.distance c ≤ p'.distance c' := hclosest p' hp' c' hc'
    have htriangle : p'.distance c' ≤ p'.distance q + q.distance c' := p'.distance_triangle q c'
    rw [q.distance_comm c'] at htriangle
    linarith

end Obstacle

namespace Skeleton

/-- A part of a path collides with nothing that the path does not collide with. -/
theorem collides_eq_false_of_subset {part path : Skeleton ℝ} (h : part.region ⊆ path.region)
    {o : Obstacle ℝ} {threshold : ℝ} (hclear : path.collides o threshold = false) :
    part.collides o threshold = false := by
  rw [Bool.eq_false_iff, Ne, collides_iff, not_lt] at hclear ⊢
  exact hclear.trans (Obstacle.clearance_le_of_subset h)

/-- The collision test answers as if nothing but the clearance were looked at. -/
structure CollidesAsMeasured (path : Skeleton ℝ) (o : Obstacle ℝ) (threshold : ℝ) : Prop where
  /-- A path collides exactly if the clearance is below the threshold. -/
  collides_eq_true_iff : path.collides o threshold = true ↔ o.clearance path < threshold
  /-- The boxes never stand in the way of this. -/
  boxes_meet : o.clearance path < threshold →
    (path.box.expand threshold).intersects o.box = true
  /-- Nothing collides at a threshold that is not positive, where the boxes may be turned inside
  out; otherwise some point of the path must be too close to the core. -/
  clearance_lt_iff : o.clearance path < threshold ↔ 0 < threshold
    ∧ ∃ p ∈ path.region, ∃ c ∈ o.core.1, p.distance c < threshold + o.core.2
  /-- The clearance is the distance to the inflated area. -/
  isLeast_clearance : 0 ≤ o.core.2 →
    IsLeast {d | ∃ p ∈ path.region, ∃ q ∈ o.area, d = p.distance q} (o.clearance path)

/-- **The boxes never change the outcome of the collision test**, for any shape and any
threshold. -/
theorem collidesAsMeasured (path : Skeleton ℝ) (o : Obstacle ℝ) (threshold : ℝ) :
    path.CollidesAsMeasured o threshold where
  collides_eq_true_iff := collides_iff
  boxes_meet := fun h => (Bool.and_eq_true_iff.mp (collides_iff.mpr h)).1
  clearance_lt_iff := Obstacle.clearance_lt_iff
  isLeast_clearance := fun h => Obstacle.isLeast_clearance h path

end Skeleton

end AgvDispatch
