import AgvDispatch.Proofs.Geometry.Skeleton
/-!
# What a distance measures

The distance of two segments depends on their points alone: its square is the least square of a
distance between a point of one and a point of the other (`Segment.isLeast_distance_sq`). So it is
zero exactly for segments that share a point (`Segment.distance_eq_zero_iff`), and neither the order
of the two segments nor the direction of either makes a difference (`Segment.distance_congr`). No
segment is left out: it may be one point, parallel to the other one, or overlap it.

The search over the segments of two skeletons stops at the first pair that meets. It returns what a
search without this exit returns (`Skeleton.distance_eq_least`), the least distance of all pairs.
-/

namespace AgvDispatch

namespace Segment

/-! ### Segments turned around -/

/-- A segment turned around. -/
def flip {α : Type} (s : Segment α) : Segment α := ⟨s.stop, s.start⟩

theorem pointAt_flip (s : Segment ℝ) (t : ℝ) : s.flip.pointAt t = s.pointAt (1 - t) := by
  simp only [pointAt, flip, Point.mk.injEq]
  constructor <;> ring

theorem points_subset_flip (s : Segment ℝ) : s.points ⊆ s.flip.points := by
  rintro p ⟨t, h₀, h₁, rfl⟩
  refine ⟨1 - t, sub_nonneg.mpr h₁, sub_le_self 1 h₀, ?_⟩
  rw [pointAt_flip, sub_sub_cancel]

@[simp] theorem points_flip (s : Segment ℝ) : s.flip.points = s.points :=
  Set.Subset.antisymm s.flip.points_subset_flip s.points_subset_flip

/-! ### The distance of two segments -/

/-- **The square of the distance of two segments** is the least square of a distance between their
points. -/
theorem isLeast_distance_sq (s t : Segment ℝ) :
    IsLeast {d | ∃ p ∈ s.points, ∃ q ∈ t.points, d = p.distSq q} (s.distance t ^ 2) := by
  obtain ⟨⟨p, hp, q, hq, heq⟩, hleast⟩ := s.isLeast_distance t
  constructor
  · refine ⟨p, hp, q, hq, ?_⟩
    rw [heq, Point.distance_eq_sqrt, Real.sq_sqrt (Point.distSq_nonneg p q)]
  · rintro d ⟨p', hp', q', hq', rfl⟩
    have hle : s.distance t ≤ √(p'.distSq q') := hleast ⟨p', hp', q', hq', rfl⟩
    exact (Real.le_sqrt (s.distance_nonneg t) (Point.distSq_nonneg p' q')).mp hle

/-- **Segments are at distance zero exactly if they share a point.** -/
theorem distance_eq_zero_iff {s t : Segment ℝ} :
    s.distance t = 0 ↔ ∃ p, p ∈ s.points ∧ p ∈ t.points := by
  constructor
  · intro hzero
    obtain ⟨p, hp, q, hq, heq⟩ := (s.isLeast_distance t).1
    have hpq : p = q := Point.eq_of_distance_eq_zero (heq.symm.trans hzero)
    exact ⟨p, hp, hpq ▸ hq⟩
  · intro h
    exact distance_of_meets (meets_iff.mpr h)

/-- **Only the points of two segments count** for their distance. -/
theorem distance_congr {s s' t t' : Segment ℝ} (hs : s.points = s'.points)
    (ht : t.points = t'.points) : s.distance t = s'.distance t' := by
  have h : IsLeast {d | ∃ p ∈ s'.points, ∃ q ∈ t'.points, d = p.distance q} (s.distance t) := by
    rw [← hs, ← ht]
    exact s.isLeast_distance t
  exact h.unique (s'.isLeast_distance t')

theorem distance_comm (s t : Segment ℝ) : s.distance t = t.distance s := by
  have h : IsLeast {d | ∃ q ∈ t.points, ∃ p ∈ s.points, d = q.distance p} (s.distance t) := by
    obtain ⟨⟨p, hp, q, hq, heq⟩, hleast⟩ := s.isLeast_distance t
    refine ⟨⟨q, hq, p, hp, heq.trans (Point.distance_comm p q)⟩, ?_⟩
    rintro d ⟨q', hq', p', hp', rfl⟩
    rw [Point.distance_comm]
    exact hleast ⟨p', hp', q', hq', rfl⟩
  exact h.unique (t.isLeast_distance s)

/-- What the distance of two segments says about their points. -/
structure DistanceIsTrue (s t : Segment ℝ) : Prop where
  /-- Its square is the least square of a distance between a point of one and one of the other. -/
  isLeast_sq : IsLeast {d | ∃ p ∈ s.points, ∃ q ∈ t.points, d = p.distSq q} (s.distance t ^ 2)
  /-- A distance is not negative, so that its square determines it. -/
  nonneg : 0 ≤ s.distance t
  /-- It is zero exactly if the segments share a point. -/
  eq_zero_iff : s.distance t = 0 ↔ ∃ p, p ∈ s.points ∧ p ∈ t.points
  /-- The order of the segments does not matter. -/
  comm : s.distance t = t.distance s
  /-- The direction of the first segment does not matter. -/
  flip_left : s.flip.distance t = s.distance t
  /-- The direction of the second segment does not matter. -/
  flip_right : s.distance t.flip = s.distance t

theorem distanceIsTrue (s t : Segment ℝ) : s.DistanceIsTrue t where
  isLeast_sq := s.isLeast_distance_sq t
  nonneg := s.distance_nonneg t
  eq_zero_iff := distance_eq_zero_iff
  comm := s.distance_comm t
  flip_left := distance_congr s.points_flip rfl
  flip_right := distance_congr rfl t.points_flip

end Segment

namespace Skeleton

/-! ### The distance of two skeletons -/

/-- The distances of all pairs of segments, in the order in which they are compared. -/
noncomputable def pairDistances (ours theirs : List (Segment ℝ)) : List ℝ :=
  ours.flatMap fun s => theirs.map fun t => s.distance t

theorem mem_pairDistances {ours theirs : List (Segment ℝ)} {d : ℝ} :
    d ∈ pairDistances ours theirs ↔ ∃ s ∈ ours, ∃ t ∈ theirs, d = s.distance t := by
  simp only [pairDistances, List.mem_flatMap, List.mem_map, eq_comm]

/-- **The early exit costs nothing**: the search for the closest pair of segments finds the best of
all distances, as if none had been skipped. -/
theorem closest_eq_foldl (ours theirs : List (Segment ℝ)) :
    closest none ours theirs = (pairDistances ours theirs).foldl Scalar.closer none := by
  have hnone : Scalar.IsBest ∅ none := rfl
  have hexit := closest_isBest (fun _ h => absurd h (Set.notMem_empty _)) hnone ours theirs
  have hall := hnone.foldl_closer (pairDistances ours theirs)
  simp only [mem_pairDistances] at hall
  exact hexit.unique hall

theorem pairDistances_ne_nil (s t : Skeleton ℝ) :
    pairDistances s.segments t.segments ≠ [] := by
  obtain ⟨a, ha⟩ := List.exists_mem_of_ne_nil _ s.segments_ne_nil
  obtain ⟨b, hb⟩ := List.exists_mem_of_ne_nil _ t.segments_ne_nil
  exact List.ne_nil_of_mem (mem_pairDistances.mpr ⟨a, ha, b, hb, rfl⟩)

theorem distance_eq_least (s t : Skeleton ℝ) :
    s.distance t = Scalar.least (pairDistances s.segments t.segments) := by
  rw [distance, closest_eq_foldl, Scalar.least]

/-- **The distance of two skeletons is the least of the distances of their segments.** -/
theorem isLeast_segment_distance (s t : Skeleton ℝ) :
    IsLeast {d | ∃ a ∈ s.segments, ∃ b ∈ t.segments, d = a.distance b} (s.distance t) := by
  have hleast := Scalar.isLeast_least (pairDistances_ne_nil s t)
  simp only [mem_pairDistances] at hleast
  rw [distance_eq_least]
  exact hleast

/-- What the distance of two skeletons says about their segments. -/
structure DistanceIsTrue (s t : Skeleton ℝ) : Prop where
  /-- It is the least distance of a segment of one to a segment of the other. -/
  isLeast_segments :
    IsLeast {d | ∃ a ∈ s.segments, ∃ b ∈ t.segments, d = a.distance b} (s.distance t)
  /-- It is what a search over all pairs returns that does not stop at zero. -/
  eq_least : s.distance t = Scalar.least (pairDistances s.segments t.segments)
  /-- The order of the skeletons does not matter. -/
  comm : s.distance t = t.distance s

theorem distanceIsTrue (s t : Skeleton ℝ) : s.DistanceIsTrue t where
  isLeast_segments := isLeast_segment_distance s t
  eq_least := distance_eq_least s t
  comm := distance_comm s t

end Skeleton

/-- **Distances are true**, of all segments and of all skeletons. -/
theorem distances_true : (∀ s t : Segment ℝ, s.DistanceIsTrue t)
    ∧ ∀ s t : Skeleton ℝ, s.DistanceIsTrue t :=
  ⟨Segment.distanceIsTrue, Skeleton.distanceIsTrue⟩

end AgvDispatch
