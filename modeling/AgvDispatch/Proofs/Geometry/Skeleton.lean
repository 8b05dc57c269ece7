import AgvDispatch.Geometry.Clearance
import AgvDispatch.Proofs.Geometry.Segment
/-!
# Skeletons as sets of points in exact arithmetic

`Skeleton.region` is the set of points of the segments of a skeleton. The computed distances of
skeletons are the distances of their regions (`Skeleton.isLeast_distanceToPoint`,
`Skeleton.isLeast_distance`), in spite of the search ending early at zero, and the box of a skeleton
holds its region (`Skeleton.mem_box_of_mem_region`).

For the collision test this means that the boxes only save work: `Skeleton.collides_iff` says that
a skeleton collides exactly when the distance is below the threshold.
-/

namespace AgvDispatch

/-! ### Envelopes -/

namespace Envelope

instance : LawfulBEq (Envelope ℝ) where
  eq_of_beq {e f} h := by
    obtain ⟨x₀, x₁, y₀, y₁⟩ := e
    obtain ⟨x₀', x₁', y₀', y₁'⟩ := f
    have hbounds : (x₀ == x₀' && (x₁ == x₁' && (y₀ == y₀' && y₁ == y₁'))) = true := h
    simpa [and_assoc] using hbounds
  rfl {e} := by
    obtain ⟨x₀, x₁, y₀, y₁⟩ := e
    change (x₀ == x₀ && (x₁ == x₁ && (y₀ == y₀ && y₁ == y₁))) = true
    simp

theorem contains_iff {e : Envelope ℝ} {p : Point ℝ} : e.contains p = true ↔
    (e.minX ≤ p.x ∧ p.x ≤ e.maxX) ∧ e.minY ≤ p.y ∧ p.y ≤ e.maxY := by
  simp [contains, and_assoc]

theorem intersects_iff {e f : Envelope ℝ} : e.intersects f = true ↔
    (f.minX ≤ e.maxX ∧ e.minX ≤ f.maxX) ∧ f.minY ≤ e.maxY ∧ e.minY ≤ f.maxY := by
  simp [intersects, and_assoc]

theorem intersects_comm {e f : Envelope ℝ} : e.intersects f = true ↔ f.intersects e = true := by
  rw [intersects_iff, intersects_iff]
  tauto

theorem contains_ofPoint (p : Point ℝ) : (ofPoint p).contains p = true := by
  rw [contains_iff]
  exact ⟨⟨min_le_left _ _, le_max_left _ _⟩, min_le_left _ _, le_max_left _ _⟩

/-- Growing a box to hold a point loses nothing. -/
theorem contains_cover_of_contains {e : Envelope ℝ} (q : Point ℝ) {p : Point ℝ}
    (h : e.contains p = true) : (e.cover q).contains p = true := by
  rw [contains_iff] at h ⊢
  exact ⟨⟨(min_le_left _ _).trans h.1.1, h.1.2.trans (le_max_left _ _)⟩,
    (min_le_left _ _).trans h.2.1, h.2.2.trans (le_max_left _ _)⟩

theorem contains_cover (e : Envelope ℝ) (p : Point ℝ) : (e.cover p).contains p = true := by
  rw [contains_iff]
  exact ⟨⟨min_le_right _ _, le_max_right _ _⟩, min_le_right _ _, le_max_right _ _⟩

theorem contains_foldl_cover {e : Envelope ℝ} {p : Point ℝ} (ps : List (Point ℝ))
    (h : e.contains p = true ∨ p ∈ ps) : (ps.foldl cover e).contains p = true := by
  induction ps generalizing e with
  | nil => simpa using h
  | cons q ps ih =>
    apply ih
    rcases h with h | h
    · exact Or.inl (contains_cover_of_contains q h)
    · rcases List.mem_cons.mp h with rfl | h
      · exact Or.inl (contains_cover e p)
      · exact Or.inr h

/-- The box around points holds each of them. -/
theorem contains_ofPoints {p q : Point ℝ} {ps : List (Point ℝ)} (h : q ∈ p :: ps) :
    (ofPoints p ps).contains q = true := by
  apply contains_foldl_cover
  rcases List.mem_cons.mp h with rfl | h
  · exact Or.inl (contains_ofPoint q)
  · exact Or.inr h

/-- A box that holds both ends of a segment holds the segment. -/
theorem contains_of_mem_points {e : Envelope ℝ} {s : Segment ℝ} {p : Point ℝ}
    (hstart : e.contains s.start = true) (hstop : e.contains s.stop = true) (h : p ∈ s.points) :
    e.contains p = true := by
  rw [contains_iff] at hstart hstop ⊢
  obtain ⟨⟨hx₀, hx₁⟩, hy₀, hy₁⟩ := Segment.boxContains_iff.mp (Segment.boxContains_of_mem h)
  exact ⟨⟨(le_min hstart.1.1 hstop.1.1).trans hx₀, hx₁.trans (max_le hstart.1.2 hstop.1.2)⟩,
    (le_min hstart.2.1 hstop.2.1).trans hy₀, hy₁.trans (max_le hstart.2.2 hstop.2.2)⟩

/-- **Boxes that stay apart after they have been expanded** hold points that are farther apart than
the two expansions together. -/
theorem lt_distance_of_not_intersects {e f : Envelope ℝ} {a b : ℝ} {p q : Point ℝ}
    (hp : e.contains p = true) (hq : f.contains q = true)
    (h : ¬(e.expand a).intersects (f.expand b) = true) : a + b < p.distance q := by
  rw [contains_iff] at hp hq
  rw [intersects_iff] at h
  simp only [expand] at h
  have hx : |p.x - q.x| ≤ p.distance q := Point.abs_sub_x_le_distance p q
  have hy : |p.y - q.y| ≤ p.distance q := Point.abs_sub_y_le_distance p q
  by_contra hle
  push Not at hle
  obtain ⟨hx₀, hx₁⟩ := abs_le.mp (hx.trans hle)
  obtain ⟨hy₀, hy₁⟩ := abs_le.mp (hy.trans hle)
  exact h ⟨⟨by linarith, by linarith⟩, by linarith, by linarith⟩

theorem expand_zero (e : Envelope ℝ) : e.expand 0 = e := by
  simp [expand]

theorem contains_expand {e : Envelope ℝ} {p q : Point ℝ} {d : ℝ} (h : e.contains p = true)
    (hd : p.distance q ≤ d) : (e.expand d).contains q = true := by
  rw [contains_iff] at h ⊢
  obtain ⟨hx₀, hx₁⟩ := abs_le.mp ((Point.abs_sub_x_le_distance p q).trans hd)
  obtain ⟨hy₀, hy₁⟩ := abs_le.mp ((Point.abs_sub_y_le_distance p q).trans hd)
  simp only [expand]
  exact ⟨⟨by linarith, by linarith⟩, by linarith, by linarith⟩

end Envelope

/-! ### Polylines -/

/-- The ends of the segments of a polyline are points of the polyline. -/
theorem mem_of_mem_polylineSegments {line : List (Point ℝ)} {s : Segment ℝ}
    (h : s ∈ polylineSegments line) : s.start ∈ line ∧ s.stop ∈ line := by
  match line with
  | [] => simp [polylineSegments] at h
  | [p] =>
    simp only [polylineSegments, List.mem_singleton] at h
    simp [h]
  | p :: q :: rest =>
    simp only [polylineSegments] at h
    obtain ⟨a, b, ha, hb, rfl⟩ : ∃ a b, a ∈ p :: q :: rest ∧ b ∈ q :: rest ∧ s = ⟨a, b⟩ := by
      rw [List.mem_iff_getElem] at h
      obtain ⟨i, hi, rfl⟩ := h
      exact ⟨_, _, List.getElem_mem _, List.getElem_mem _, List.getElem_zipWith⟩
    exact ⟨ha, List.mem_cons_of_mem _ hb⟩

/-- Every point of a polyline is a point of one of its segments. -/
theorem exists_polylineSegment {line : List (Point ℝ)} {p : Point ℝ} (h : p ∈ line) :
    ∃ s ∈ polylineSegments line, p ∈ s.points := by
  induction line with
  | nil => simp at h
  | cons q rest ih =>
    match rest with
    | [] =>
      rw [List.mem_singleton] at h
      exact ⟨⟨q, q⟩, by simp [polylineSegments], by rw [h]; exact Segment.start_mem ⟨q, q⟩⟩
    | r :: rest =>
      have hfirst : (⟨q, r⟩ : Segment ℝ) ∈ polylineSegments (q :: r :: rest) := by
        simp [polylineSegments]
      rcases List.mem_cons.mp h with rfl | h
      · exact ⟨_, hfirst, Segment.start_mem _⟩
      · match rest with
        | [] =>
          rw [List.mem_singleton] at h
          exact ⟨_, hfirst, by rw [h]; exact Segment.stop_mem _⟩
        | t :: rest =>
          obtain ⟨s, hs, hp⟩ := ih h
          refine ⟨s, ?_, hp⟩
          simp only [polylineSegments] at hs ⊢
          rw [List.zipWith_cons_cons]
          exact List.mem_cons_of_mem _ hs

theorem polylineSegments_ne_nil {line : List (Point ℝ)} (h : line ≠ []) :
    polylineSegments line ≠ [] := by
  obtain ⟨p, rest, rfl⟩ := List.exists_cons_of_ne_nil h
  have hp : p ∈ p :: rest := List.mem_cons_self
  obtain ⟨s, hs, -⟩ := exists_polylineSegment hp
  exact List.ne_nil_of_mem hs

namespace Skeleton

/-! ### The region of a skeleton -/

/-- The set of points on the lines of a skeleton. -/
def region (s : Skeleton ℝ) : Set (Point ℝ) :=
  {p | ∃ segment ∈ s.segments, p ∈ segment.points}

theorem segments_ne_nil (s : Skeleton ℝ) : s.segments ≠ [] := by
  unfold segments parts
  rw [List.flatMap_cons]
  exact List.append_ne_nil_of_left_ne_nil (polylineSegments_ne_nil (List.cons_ne_nil _ _)) _

/-- The segments of a skeleton with the given parts are those of the parts. -/
theorem segments_ofParts? {parts : List (List (Point ℝ))} {s : Skeleton ℝ}
    (h : ofParts? parts = some s) : s.segments = parts.flatMap polylineSegments := by
  induction parts with
  | nil => simp [ofParts?] at h
  | cons part parts ih =>
    match part with
    | [] =>
      rw [ofParts?] at h
      rw [ih h]
      rfl
    | first :: rest =>
      rw [ofParts?, Option.some.injEq] at h
      subst h
      simp only [segments, Skeleton.parts, List.flatMap_cons]
      congr 1
      clear ih
      induction parts with
      | nil => rfl
      | cons other others ih =>
        match other with
        | [] => simpa [polylineSegments] using ih
        | p :: other =>
          rw [List.filter_cons_of_pos (by simp), List.flatMap_cons, List.flatMap_cons, ih]

/-- There is a skeleton as soon as there is a first part with a point. -/
theorem exists_ofParts? {α : Type} [Scalar α] {part : List (Point α)}
    (parts : List (List (Point α))) (h : part ≠ []) : ∃ s, ofParts? (part :: parts) = some s := by
  obtain ⟨first, rest, rfl⟩ := List.exists_cons_of_ne_nil h
  exact ⟨_, rfl⟩

theorem segments_ofPoint (p : Point ℝ) : (ofPoint p).segments = [⟨p, p⟩] := rfl

@[simp] theorem region_ofPoint (p : Point ℝ) : (ofPoint p).region = {p} := by
  ext q
  simp [region, segments_ofPoint]

/-- **The box of a skeleton holds its region.** -/
theorem mem_box_of_mem_region {s : Skeleton ℝ} {p : Point ℝ} (h : p ∈ s.region) :
    s.box.contains p = true := by
  obtain ⟨segment, hseg, hp⟩ := h
  obtain ⟨part, hpart, hmem⟩ := List.mem_flatMap.mp hseg
  have hbox : ∀ q ∈ part, s.box.contains q = true := by
    intro q hq
    rw [s.box_eq]
    apply Envelope.contains_ofPoints
    have hq' : q ∈ s.parts.flatten := List.mem_flatten.mpr ⟨part, hpart, hq⟩
    simpa [parts] using hq'
  obtain ⟨hstart, hstop⟩ := mem_of_mem_polylineSegments hmem
  exact Envelope.contains_of_mem_points (hbox _ hstart) (hbox _ hstop) hp

/-! ### Distances -/

/-- **The distance of a point to a skeleton** is its least distance to a point of the region. -/
theorem isLeast_distanceToPoint (s : Skeleton ℝ) (p : Point ℝ) :
    IsLeast {d | ∃ q ∈ s.region, d = p.distance q} (s.distanceToPoint p) := by
  have hne : s.segments.map (fun segment => segment.distanceToPoint p) ≠ [] := by
    simpa using s.segments_ne_nil
  obtain ⟨hmem, hleast⟩ := Scalar.isLeast_least hne
  obtain ⟨segment, hseg, heq⟩ := List.mem_map.mp hmem
  refine ⟨?_, ?_⟩
  · obtain ⟨q, hq, hd⟩ := (segment.isLeast_distanceToPoint p).1
    exact ⟨q, ⟨segment, hseg, hq⟩, by rw [← hd]; exact heq.symm⟩
  · rintro d ⟨q, ⟨other, hother, hq⟩, rfl⟩
    exact (hleast (List.mem_map.mpr ⟨other, hother, rfl⟩)).trans (Segment.distanceToPoint_le p hq)

theorem distanceToPoint_le {s : Skeleton ℝ} (p : Point ℝ) {q : Point ℝ} (h : q ∈ s.region) :
    s.distanceToPoint p ≤ p.distance q :=
  (s.isLeast_distanceToPoint p).2 ⟨q, h, rfl⟩

/-- Comparing a segment with a list of segments keeps the best distance, early exit included. -/
theorem closestTo_isBest {seen : Set ℝ} {best : Option ℝ} (hnonneg : ∀ d ∈ seen, 0 ≤ d)
    (h : Scalar.IsBest seen best) (segment : Segment ℝ) (others : List (Segment ℝ)) :
    Scalar.IsBest ({d | ∃ other ∈ others, d = segment.distance other} ∪ seen)
      (closestTo segment best others) := by
  induction others generalizing seen best with
  | nil => simpa [closestTo] using h
  | cons other others ih =>
    set d := segment.distance other with hd
    have hstep := h.closer d
    have hnonneg' : ∀ x ∈ insert d seen, 0 ≤ x := by
      intro x hx
      rcases Set.mem_insert_iff.mp hx with rfl | hx
      · exact Segment.distance_nonneg _ _
      · exact hnonneg x hx
    have hset : {x | ∃ o ∈ other :: others, x = segment.distance o} ∪ seen
        = {x | ∃ o ∈ others, x = segment.distance o} ∪ insert d seen := by
      ext x
      simp only [List.mem_cons, exists_eq_or_imp, Set.mem_union, Set.mem_ofPred_eq,
        Set.mem_insert_iff, ← hd]
      exact or_assoc.trans or_left_comm
    rw [hset, closestTo]
    cases hbest : Scalar.closer best d with
    | none =>
      rw [hbest] at hstep
      exact ih hnonneg' hstep
    | some b =>
      rw [hbest] at hstep
      have hall : ∀ x ∈ {x | ∃ o ∈ others, x = segment.distance o} ∪ insert d seen, 0 ≤ x := by
        rintro x (⟨o, -, rfl⟩ | hx)
        · exact Segment.distance_nonneg _ _
        · exact hnonneg' x hx
      by_cases hb : (b == 0) = true
      · have hzero : b = 0 := Scalar.beq_iff_eq.mp hb
        simp only [hb, if_true]
        exact Scalar.IsBest.zero hall (Or.inr (hzero ▸ hstep.1))
      · simp only [hb]
        exact ih hnonneg' hstep

/-- Comparing two lists of segments keeps the best distance, early exit included. -/
theorem closest_isBest {seen : Set ℝ} {best : Option ℝ} (hnonneg : ∀ d ∈ seen, 0 ≤ d)
    (h : Scalar.IsBest seen best) (ours theirs : List (Segment ℝ)) :
    Scalar.IsBest ({d | ∃ s ∈ ours, ∃ t ∈ theirs, d = s.distance t} ∪ seen)
      (closest best ours theirs) := by
  induction ours generalizing seen best with
  | nil => simpa [closest] using h
  | cons segment ours ih =>
    have hstep := closestTo_isBest hnonneg h segment theirs
    set seen' := {d | ∃ other ∈ theirs, d = segment.distance other} ∪ seen with hseen'
    have hnonneg' : ∀ x ∈ seen', 0 ≤ x := by
      rintro x (⟨o, -, rfl⟩ | hx)
      · exact Segment.distance_nonneg _ _
      · exact hnonneg x hx
    have hset : {d | ∃ s ∈ segment :: ours, ∃ t ∈ theirs, d = s.distance t} ∪ seen
        = {d | ∃ s ∈ ours, ∃ t ∈ theirs, d = s.distance t} ∪ seen' := by
      ext x
      simp only [List.mem_cons, exists_eq_or_imp, Set.mem_union, Set.mem_ofPred_eq, hseen']
      exact or_assoc.trans or_left_comm
    rw [hset, closest]
    cases hbest : closestTo segment best theirs with
    | none =>
      rw [hbest] at hstep
      exact ih hnonneg' hstep
    | some b =>
      rw [hbest] at hstep
      have hall : ∀ x ∈ {d | ∃ s ∈ ours, ∃ t ∈ theirs, d = s.distance t} ∪ seen', 0 ≤ x := by
        rintro x (⟨s, -, t, -, rfl⟩ | hx)
        · exact Segment.distance_nonneg _ _
        · exact hnonneg' x hx
      by_cases hb : (b == 0) = true
      · have hzero : b = 0 := Scalar.beq_iff_eq.mp hb
        simp only [hb, if_true]
        exact Scalar.IsBest.zero hall (Or.inr (hzero ▸ hstep.1))
      · simp only [hb]
        exact ih hnonneg' hstep

/-- **The distance of two skeletons** is the least distance of a point of one region to a point of
the other. -/
theorem isLeast_distance (s t : Skeleton ℝ) :
    IsLeast {d | ∃ p ∈ s.region, ∃ q ∈ t.region, d = p.distance q} (s.distance t) := by
  have hnone : Scalar.IsBest ∅ none := rfl
  have hbest :=
    closest_isBest (fun _ h => absurd h (Set.notMem_empty _)) hnone s.segments t.segments
  rw [Set.union_empty] at hbest
  unfold distance
  cases hres : closest none s.segments t.segments with
  | none =>
    -- Both skeletons have a segment, so something has been compared.
    rw [hres] at hbest
    change _ = ∅ at hbest
    obtain ⟨a, ha⟩ := List.exists_mem_of_ne_nil _ s.segments_ne_nil
    obtain ⟨b, hb⟩ := List.exists_mem_of_ne_nil _ t.segments_ne_nil
    have hmem : a.distance b
        ∈ {d : ℝ | ∃ a ∈ s.segments, ∃ b ∈ t.segments, d = a.distance b} :=
      ⟨a, ha, b, hb, rfl⟩
    rw [hbest] at hmem
    exact absurd hmem (Set.notMem_empty _)
  | some d =>
    rw [hres] at hbest
    obtain ⟨⟨a, ha, b, hb, hd⟩, hleast⟩ := hbest
    refine ⟨?_, ?_⟩
    · obtain ⟨p, hp, q, hq, heq⟩ := (a.isLeast_distance b).1
      exact ⟨p, ⟨a, ha, hp⟩, q, ⟨b, hb, hq⟩, by rw [← heq]; exact hd⟩
    · rintro x ⟨p, ⟨a', ha', hp⟩, q, ⟨b', hb', hq⟩, rfl⟩
      have hab : d ≤ a'.distance b' := hleast ⟨a', ha', b', hb', rfl⟩
      exact hab.trans ((a'.isLeast_distance b').2 ⟨p, hp, q, hq, rfl⟩)

/-- A lower bound on the distance of two skeletons is one on the distances of their points. -/
theorem le_distance_iff {s t : Skeleton ℝ} {d : ℝ} :
    d ≤ s.distance t ↔ ∀ p ∈ s.region, ∀ q ∈ t.region, d ≤ p.distance q := by
  constructor
  · intro h p hp q hq
    exact h.trans ((s.isLeast_distance t).2 ⟨p, hp, q, hq, rfl⟩)
  · intro h
    obtain ⟨p, hp, q, hq, heq⟩ := (s.isLeast_distance t).1
    rw [heq]
    exact h p hp q hq

theorem le_distanceToPoint_iff {s : Skeleton ℝ} {p : Point ℝ} {d : ℝ} :
    d ≤ s.distanceToPoint p ↔ ∀ q ∈ s.region, d ≤ p.distance q := by
  constructor
  · intro h q hq
    exact h.trans (distanceToPoint_le p hq)
  · intro h
    obtain ⟨q, hq, heq⟩ := (s.isLeast_distanceToPoint p).1
    rw [heq]
    exact h q hq

theorem distance_comm (s t : Skeleton ℝ) : s.distance t = t.distance s := by
  apply (s.isLeast_distance t).unique
  have hset : {d | ∃ p ∈ s.region, ∃ q ∈ t.region, d = p.distance q}
      = {d | ∃ p ∈ t.region, ∃ q ∈ s.region, d = p.distance q} := by
    ext d
    constructor <;> rintro ⟨p, hp, q, hq, rfl⟩ <;> exact ⟨q, hq, p, hp, Point.distance_comm _ _⟩
  rw [hset]
  exact t.isLeast_distance s

end Skeleton

/-! ### Collisions -/

/-- The points of an obstacle before it is inflated, and the radius by which it is. -/
def Obstacle.core : Obstacle ℝ → Set (Point ℝ) × ℝ
  | .point p => ({p}, 0)
  | .skeleton s => (s.region, 0)
  | .corridor c => (c.skeleton.region, c.radius)

/-- The box of an obstacle is a box around its core, expanded by the radius. -/
theorem Obstacle.exists_box (o : Obstacle ℝ) : ∃ e : Envelope ℝ, o.box = e.expand o.core.2
    ∧ ∀ q ∈ o.core.1, e.contains q = true := by
  cases o with
  | point p =>
    refine ⟨Envelope.ofPoint p, (Envelope.expand_zero _).symm, ?_⟩
    intro q hq
    rw [Set.mem_singleton_iff.mp hq]
    exact Envelope.contains_ofPoint p
  | skeleton s =>
    exact ⟨s.box, (Envelope.expand_zero _).symm, fun q hq => Skeleton.mem_box_of_mem_region hq⟩
  | corridor c =>
    exact ⟨c.skeleton.box, rfl, fun q hq => Skeleton.mem_box_of_mem_region hq⟩

/-- The clearance is attained: some point of the path and some point of the core are no farther
apart than the clearance and the radius together. -/
theorem Obstacle.exists_distance_le (o : Obstacle ℝ) (path : Skeleton ℝ) :
    ∃ p ∈ path.region, ∃ q ∈ o.core.1, p.distance q ≤ o.clearance path + o.core.2 := by
  cases o with
  | point p =>
    obtain ⟨q, hq, heq⟩ := (path.isLeast_distanceToPoint p).1
    refine ⟨q, hq, p, rfl, ?_⟩
    rw [Point.distance_comm, ← heq]
    exact le_add_of_nonneg_right le_rfl
  | skeleton s =>
    obtain ⟨p, hp, q, hq, heq⟩ := (s.isLeast_distance path).1
    refine ⟨q, hq, p, hp, ?_⟩
    rw [Point.distance_comm, ← heq]
    exact le_add_of_nonneg_right le_rfl
  | corridor c =>
    obtain ⟨p, hp, q, hq, heq⟩ := (c.skeleton.isLeast_distance path).1
    refine ⟨q, hq, p, hp, ?_⟩
    have hle : c.skeleton.distance path - c.radius ≤ max (c.skeleton.distance path - c.radius) 0 :=
      le_max_left _ _
    rw [Point.distance_comm, ← heq]
    exact sub_le_iff_le_add.mp hle

/-- **A skeleton collides with an obstacle exactly when its clearance is below the threshold.** The
boxes of two shapes that are so close always meet. -/
theorem Skeleton.collides_iff {path : Skeleton ℝ} {o : Obstacle ℝ} {threshold : ℝ} :
    path.collides o threshold = true ↔ o.clearance path < threshold := by
  unfold Skeleton.collides
  rw [Bool.and_eq_true, decide_eq_true_eq, and_iff_right_iff_imp]
  intro hclose
  obtain ⟨e, hbox, hcore⟩ := o.exists_box
  obtain ⟨p, hp, q, hq, hle⟩ := o.exists_distance_le path
  by_contra hapart
  rw [hbox] at hapart
  have hlt := Envelope.lt_distance_of_not_intersects (mem_box_of_mem_region hp) (hcore q hq) hapart
  linarith

end AgvDispatch
