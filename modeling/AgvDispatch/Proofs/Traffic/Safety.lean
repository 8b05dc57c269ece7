import AgvDispatch.Proofs.Network.Route
import AgvDispatch.Proofs.Traffic.BoxIndex
import AgvDispatch.Proofs.Traffic.Reservation
import AgvDispatch.Proofs.Vehicle.Registry
import AgvDispatch.Traffic.Safety
/-!
# What a safe route keeps clear of

In exact arithmetic a safe route keeps the full distance to the corridor and to the position of
every other vehicle of its map.

* `Traffic.le_distance_of_isSafe` is about the corridors.
* `Traffic.le_distanceToPoint_of_isSafe` is about the positions. The footprints decide nothing: a
  vehicle that they rule out is out of reach (`Traffic.mem_within`). This rests on the index being
  up to date (`Traffic.Indexed`), which every operation keeps.
* `Traffic.longestPart_spec` says which part of a route is its longest safe one.
-/

namespace AgvDispatch.Traffic

/-! ### The longest safe part -/

/-- The longest part that passes a test: it is one of the parts considered, it passes unless it is
empty, and no longer one does. -/
theorem longestPart_spec (safe : Route → Bool) (candidate : Route) (n : ℕ) :
    ∃ k ≤ n, longestPart safe candidate n = candidate.take k
      ∧ (k ≠ 0 → safe (candidate.take k) = true)
      ∧ ∀ j, k < j → j ≤ n → safe (candidate.take j) = false := by
  induction n with
  | zero => exact ⟨0, le_rfl, rfl, fun h => absurd rfl h, fun j hj hj' => by omega⟩
  | succ n ih =>
    unfold longestPart
    simp only
    -- Longer parts are tried first, so the first one that passes is the longest.
    by_cases hsafe : safe (candidate.take (n + 1)) = true
    · rw [if_pos hsafe]
      exact ⟨n + 1, le_rfl, rfl, fun _ => hsafe, fun j hj hj' => by omega⟩
    · rw [if_neg hsafe]
      obtain ⟨k, hk, heq, hpass, hlonger⟩ := ih
      refine ⟨k, by omega, heq, hpass, fun j hj hj' => ?_⟩
      rcases Nat.lt_or_ge n j with hn | hn
      · have hj'' : j = n + 1 := by omega
        rw [hj'']
        exact Bool.eq_false_iff.mpr hsafe
      · exact hlonger j hj hn

section

variable {α : Type} [Scalar α] {t : Traffic α} {registry : Registry α} {n : Network α}
  {mapId : Int} {id : String} {candidate : Route} {buffer : α}

theorem isSafe_nil : t.isSafe registry n mapId id [] buffer = true := rfl

theorem safePart_isPrefix : t.safePart registry n mapId id candidate buffer <+: candidate := by
  obtain ⟨k, -, heq, -, -⟩ := longestPart_spec
    (fun part => t.isSafe registry n mapId id part buffer) candidate candidate.length
  unfold safePart
  rw [heq]
  exact List.take_prefix k candidate

theorem isSafe_safePart : t.isSafe registry n mapId id
    (t.safePart registry n mapId id candidate buffer) buffer = true := by
  obtain ⟨k, -, heq, hsafe, -⟩ := longestPart_spec
    (fun part => t.isSafe registry n mapId id part buffer) candidate candidate.length
  unfold safePart
  rw [heq]
  rcases Nat.eq_zero_or_pos k with rfl | hk
  · rw [List.take_zero, isSafe_nil]
  · exact hsafe hk.ne'

/-- A route that is safe as a whole is its own longest safe part. -/
theorem safePart_eq_self (h : t.isSafe registry n mapId id candidate buffer = true) :
    t.safePart registry n mapId id candidate buffer = candidate := by
  unfold safePart
  cases hlength : candidate.length with
  | zero =>
    rw [List.length_eq_zero_iff.mp hlength]
    rfl
  | succ k =>
    have hwhole : candidate.take (k + 1) = candidate := by
      rw [← hlength, List.take_length]
    unfold longestPart
    simp only [hwhole]
    rw [if_pos h]

omit [Scalar α] in
theorem mem_others {w : Vehicle α} : w ∈ others registry mapId id
    ↔ (∃ key, registry.get? key = some w) ∧ w.mapId = mapId ∧ w.id ≠ id := by
  unfold others
  rw [List.mem_filter, Registry.mem_onMap, bne_iff_ne, and_assoc]

/-- A route is safe if its skeleton comes too close neither to a corridor nor to a position. -/
theorem isSafe_of_forall {path : Skeleton α} (hpath : n.skeleton? candidate = some path)
    (hreservations : ∀ w ∈ others registry mapId id, t.hitsReservation mapId path buffer w = false)
    (hpositions : ∀ w ∈ others registry mapId id, hitsPosition path buffer w = false) :
    t.isSafe registry n mapId id candidate buffer = true := by
  unfold isSafe
  rw [hpath]
  simp only [Bool.or_eq_true, Bool.not_eq_true', Bool.or_eq_false_iff, List.any_eq_false,
    Bool.not_eq_true]
  exact Or.inr ⟨hreservations, fun w hw => hpositions w (List.mem_of_mem_filter hw)⟩

/-- A safe route has a skeleton, and that skeleton comes too close neither to a corridor nor to one
of the positions that are looked at. -/
theorem exists_path_of_isSafe (hsafe : t.isSafe registry n mapId id candidate buffer = true)
    (hne : candidate ≠ []) : ∃ path, n.skeleton? candidate = some path
      ∧ (∀ w ∈ others registry mapId id, t.hitsReservation mapId path buffer w = false)
      ∧ ∀ w ∈ t.within path buffer (others registry mapId id),
        hitsPosition path buffer w = false := by
  unfold isSafe at hsafe
  rw [List.isEmpty_eq_false_iff.mpr hne, Bool.false_or] at hsafe
  cases hpath : n.skeleton? candidate with
  | none => simp [hpath] at hsafe
  | some path =>
    refine ⟨path, rfl, ?_⟩
    simp only [hpath, Bool.not_eq_true', Bool.or_eq_false_iff, List.any_eq_false,
      Bool.not_eq_true] at hsafe
    exact hsafe

/-- For a vehicle that is alone on its map every route over known waypoints is safe. -/
theorem isSafe_iff_of_others_eq_nil (h : others registry mapId id = []) :
    t.isSafe registry n mapId id candidate buffer = true ↔ n.Resolves candidate := by
  by_cases hne : candidate = []
  · subst hne
    exact ⟨fun _ w hw => absurd hw List.not_mem_nil, fun _ => isSafe_nil⟩
  · constructor
    · intro hsafe
      obtain ⟨path, hpath, -⟩ := exists_path_of_isSafe hsafe hne
      exact (Network.exists_skeleton?_iff.mp ⟨path, hpath⟩).2
    · intro hresolves
      obtain ⟨path, hpath⟩ := Network.exists_skeleton?_iff.mpr ⟨hne, hresolves⟩
      refine isSafe_of_forall hpath ?_ ?_
      · rw [h]
        exact fun w hw => absurd hw List.not_mem_nil
      · rw [h]
        exact fun w hw => absurd hw List.not_mem_nil

/-- The longest safe part of a route for a vehicle that is alone ends before the first waypoint
without a position. -/
theorem safePart_of_others_eq_nil (h : others registry mapId id = []) {part rest : Route}
    (hpart : n.Resolves part) (hrest : ∀ w ∈ rest.head?, n.position w = none) :
    t.safePart registry n mapId id (part ++ rest) buffer = part := by
  obtain ⟨k, hk, heq, hsafe, hlonger⟩ := longestPart_spec
    (fun route => t.isSafe registry n mapId id route buffer) (part ++ rest) (part ++ rest).length
  have hlength : part.length ≤ (part ++ rest).length := by simp
  have hwhole : t.isSafe registry n mapId id ((part ++ rest).take part.length) buffer = true := by
    rw [List.take_left]
    exact (isSafe_iff_of_others_eq_nil h).mpr hpart
  have hle : part.length ≤ k := by
    by_contra hlt
    have hunsafe := hlonger part.length (not_le.mp hlt) hlength
    rw [hwhole] at hunsafe
    cases hunsafe
  have hge : k ≤ part.length := by
    by_contra hlt
    -- A longer part would reach the waypoint without a position.
    have hresolves := (isSafe_iff_of_others_eq_nil h).mp (hsafe (by omega))
    cases hcons : rest with
    | nil =>
      rw [hcons, List.append_nil] at hk
      omega
    | cons w after =>
      have hw : w ∈ (part ++ rest).take k := by
        rw [List.take_append, hcons]
        obtain ⟨m, hm⟩ : ∃ m, k - part.length = m + 1 := ⟨k - part.length - 1, by omega⟩
        rw [hm, List.take_succ_cons]
        exact List.mem_append_right _ List.mem_cons_self
      obtain ⟨p, hp⟩ := hresolves w hw
      rw [hrest w (by rw [hcons]; rfl)] at hp
      cases hp
  unfold safePart
  rw [heq, le_antisymm hge hle, List.take_left]

end

/-! ### Corridors -/

/-- A path that comes close enough to a corridor is closer to its skeleton than the threshold and
the radius together, and the threshold is positive. -/
theorem clearance_corridor_lt_iff {path : Skeleton ℝ} {c : Corridor ℝ} {threshold : ℝ}
    (h : 0 < threshold) : (Obstacle.corridor c).clearance path < threshold
      ↔ c.skeleton.distance path < threshold + c.radius := by
  change max (c.skeleton.distance path - c.radius) 0 < threshold ↔ _
  rw [max_lt_iff, sub_lt_iff_lt_add]
  exact and_iff_left h

variable {t : Traffic ℝ} {registry : Registry ℝ} {n : Network ℝ} {mapId : Int} {id : String}
  {candidate : Route} {buffer : ℝ}

/-- **A safe route keeps clear of the corridors**: of the skeleton that another vehicle has reserved
it keeps the radius of the corridor, the buffer and the radius of that vehicle. -/
theorem le_distance_of_isSafe (hsafe : t.isSafe registry n mapId id candidate buffer = true)
    {path : Skeleton ℝ} (hpath : n.skeleton? candidate = some path) {w : Vehicle ℝ}
    (hw : w ∈ others registry mapId id) {r : Reservation ℝ}
    (hr : t.reservation? w.id = some r) (hmap : r.mapId = mapId) (hpos : 0 < buffer + w.radius) :
    buffer + w.radius + r.corridor.radius ≤ r.corridor.skeleton.distance path := by
  have hne : candidate ≠ [] := by
    rintro rfl
    simp [Network.skeleton?] at hpath
  obtain ⟨path', hpath', hclear, -⟩ := exists_path_of_isSafe hsafe hne
  obtain rfl : path = path' := by
    rw [hpath, Option.some.injEq] at hpath'
    exact hpath'
  have hhit := hclear w hw
  unfold hitsReservation at hhit
  rw [hr] at hhit
  simp only [hmap, beq_self_eq_true, Bool.true_and] at hhit
  rw [Bool.eq_false_iff, Ne, Skeleton.collides_iff, clearance_corridor_lt_iff hpos] at hhit
  exact not_lt.mp hhit

/-! ### Positions -/

/-- Whether the index of a traffic state is up to date: its cells have an extent, and every
footprint is filed in its shard. -/
structure Indexed (t : Traffic ℝ) : Prop where
  /-- The cells of the index have an extent. -/
  regular : t.index.Regular
  /-- The footprints are filed. -/
  filed : ∀ id box, t.footprints.get? id = some box →
    ⟨box, id⟩ ∈ t.index.shard (t.index.shardOf box)

namespace Indexed

theorem ofIndex {index : BoxIndex ℝ String} (h : index.Regular) : (Traffic.ofIndex index).Indexed :=
  ⟨h, fun id box hbox => by simp [Traffic.ofIndex] at hbox⟩

theorem dropReservation (h : t.Indexed) (id : String) : (t.dropReservation id).Indexed :=
  ⟨h.regular, h.filed⟩

theorem reserve (h : t.Indexed) (n : Network ℝ) (id : String) (route : Route) (buffer : ℝ) :
    (t.reserve n id route buffer).2.Indexed := by
  refine ⟨?_, ?_⟩
  · rw [index_reserve]
    exact h.regular
  · rw [index_reserve, footprints_reserve]
    exact h.filed

/-- Footprints that are filed in an index of the same layout, one of them anew. -/
theorem of_insert (h : t.Indexed) {id : String} {box : Envelope ℝ} {index : BoxIndex ℝ String}
    (hlayout : t.index.SameLayout index)
    (hself : ⟨box, id⟩ ∈ index.shard (t.index.shardOf box))
    (hothers : ∀ entry n, entry ∈ t.index.shard n → entry.item ≠ id → entry ∈ index.shard n) :
    ({ t with index, footprints := t.footprints.insert id box } : Traffic ℝ).Indexed := by
  refine ⟨hlayout.regular h.regular, ?_⟩
  intro other box' hbox'
  simp only [Std.TreeMap.get?_eq_getElem?, Std.TreeMap.getElem?_insert,
    Std.LawfulEqCmp.compare_eq_iff_eq] at hbox'
  rw [hlayout.shardOf_eq]
  split at hbox'
  · rename_i heq
    subst heq
    rw [Option.some.injEq] at hbox'
    rw [← hbox']
    exact hself
  · rename_i hne
    exact hothers _ _ (h.filed other box' hbox') (fun heq => hne heq.symm)

theorem track (h : t.Indexed) (id : String) (position : Point ℝ) (radius : ℝ) :
    (t.track id position radius).Indexed := by
  unfold Traffic.track
  simp only
  cases hold : t.footprints.get? id with
  | none =>
    exact h.of_insert (BoxIndex.SameLayout.insert _ _ _) (BoxIndex.mem_shard_insert_self _ _ _)
      fun entry n hentry _ => BoxIndex.mem_shard_insert hentry _ _
  | some old =>
    simp only
    split
    · -- The footprint is the one that is filed.
      exact h
    · exact h.of_insert (BoxIndex.SameLayout.move _ _ _ _ _)
        (BoxIndex.mem_shard_move_self _ _ _ _ _)
        fun entry n hentry hne => BoxIndex.mem_shard_move hentry hne _ _ _

theorem release (h : t.Indexed) (id : String) : (t.release id).Indexed := by
  unfold Traffic.release
  simp only [footprints_dropReservation, index_dropReservation]
  cases hold : t.footprints.get? id with
  | none => exact h.dropReservation id
  | some old =>
    have hlayout := BoxIndex.SameLayout.remove? t.index old id
    refine ⟨hlayout.regular h.regular, ?_⟩
    intro other box hbox
    simp only [Std.TreeMap.get?_eq_getElem?, Std.TreeMap.getElem?_erase,
      Std.LawfulEqCmp.compare_eq_iff_eq] at hbox
    rw [hlayout.shardOf_eq]
    split at hbox
    · exact absurd hbox (by simp)
    · rename_i hne
      exact BoxIndex.mem_shard_getD_remove? (h.filed other box hbox) old (fun heq => hne heq.symm)

end Indexed

theorem foldl_max_radius_ge (vs : List (Vehicle ℝ)) (r : ℝ) :
    r ≤ vs.foldl (fun r v => max r v.radius) r
      ∧ ∀ v ∈ vs, v.radius ≤ vs.foldl (fun r v => max r v.radius) r := by
  induction vs generalizing r with
  | nil => simp
  | cons v vs ih =>
    obtain ⟨hstart, hall⟩ := ih (max r v.radius)
    refine ⟨(le_max_left _ _).trans hstart, ?_⟩
    rw [List.forall_mem_cons]
    exact ⟨(le_max_right _ _).trans hstart, hall⟩

theorem reach_nonneg (vs : List (Vehicle ℝ)) : 0 ≤ reach vs :=
  (foldl_max_radius_ge vs 0).1

theorem radius_le_reach {vs : List (Vehicle ℝ)} {v : Vehicle ℝ} (h : v ∈ vs) :
    v.radius ≤ reach vs :=
  (foldl_max_radius_ge vs 0).2 v h

theorem centre_around (p : Point ℝ) (radius : ℝ) : (Envelope.around p radius).centre = p := by
  unfold Envelope.around Envelope.ofPoint Envelope.ofBounds Envelope.expand Envelope.centre
  obtain ⟨x, y⟩ := p
  simp only [min_self, max_self, Nat.cast_ofNat, Point.mk.injEq]
  constructor <;> ring

/-- **The footprints rule out nothing**: a vehicle within reach of a path is looked at. The radius
may be negative, so that the footprint need not hold any point. -/
theorem mem_within (h : t.Indexed) {path : Skeleton ℝ} {vs : List (Vehicle ℝ)} {v : Vehicle ℝ}
    (hv : v ∈ vs) (hclose : path.distanceToPoint v.position < buffer + v.radius) :
    v ∈ t.within path buffer vs := by
  unfold within
  refine List.mem_filter.mpr ⟨hv, ?_⟩
  rw [Bool.or_eq_true, Bool.not_eq_true', List.contains_iff_mem]
  cases htracked : t.isTracked v with
  | false => exact Or.inr rfl
  | true =>
    refine Or.inl ?_
    unfold isTracked at htracked
    cases hbox : t.footprints.get? v.id with
    | none =>
      rw [hbox] at htracked
      exact absurd htracked Bool.false_ne_true
    | some box =>
      rw [hbox] at htracked
      obtain rfl : box = Envelope.around v.position v.radius := eq_of_beq htracked
      obtain ⟨q, hq, hdist⟩ := (path.isLeast_distanceToPoint v.position).1
      rw [hdist, Point.distance_comm] at hclose
      have hbox' : path.box.contains q = true := Skeleton.mem_box_of_mem_region hq
      refine BoxIndex.mem_query h.regular (h.filed v.id _ hbox) ?_ ?_
      · -- What does not meet the region is farther away than the buffer and both reaches.
        by_contra hapart
        have hfar := Envelope.lt_distance_of_not_intersects hbox'
          (Envelope.contains_ofPoint v.position)
          (fun hmeet => hapart (Envelope.intersects_comm.mp hmeet))
        linarith [reach_nonneg vs]
      · rw [centre_around]
        apply Envelope.contains_expand hbox'
        linarith [radius_le_reach hv]

/-- **A safe route keeps clear of the other vehicles**: of the position of each of them it keeps the
buffer and the radius of that vehicle. -/
theorem le_distanceToPoint_of_isSafe (h : t.Indexed)
    (hsafe : t.isSafe registry n mapId id candidate buffer = true) {path : Skeleton ℝ}
    (hpath : n.skeleton? candidate = some path) {w : Vehicle ℝ}
    (hw : w ∈ others registry mapId id) : buffer + w.radius ≤ path.distanceToPoint w.position := by
  have hne : candidate ≠ [] := by
    rintro rfl
    simp [Network.skeleton?] at hpath
  obtain ⟨path', hpath', -, hclear⟩ := exists_path_of_isSafe hsafe hne
  obtain rfl : path = path' := by
    rw [hpath, Option.some.injEq] at hpath'
    exact hpath'
  by_contra hlt
  have hclose := not_le.mp hlt
  have hhit := hclear w (mem_within h hw hclose)
  unfold hitsPosition at hhit
  rw [Bool.eq_false_iff, Ne, Skeleton.collides_iff] at hhit
  exact hhit hclose

end AgvDispatch.Traffic
