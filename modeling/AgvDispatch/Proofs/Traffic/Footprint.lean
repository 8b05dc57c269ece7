import AgvDispatch.Proofs.Traffic.BoxIndex
import AgvDispatch.Proofs.Traffic.Event
import AgvDispatch.Proofs.Traffic.Reservation
import AgvDispatch.Proofs.Vehicle.Registry
/-!
# One entry for each footprint

A footprint is kept in two places: in the table of the vehicles and in the index, where only the
table tells in which shard to look for it. An entry that was once filed apart from the table would
never be found again, and would stand in the way for ever. This does not happen: whatever is
tracked and released, the index holds one entry for each footprint, and nothing else
(`TrafficControl.filed_run`).

`BoxIndex.Files` is what both operations keep. No assumption on scalars enters, so that positions
need not be finite, radii need not be positive, and a box need not even be equal to itself.
-/

namespace AgvDispatch

variable {α : Type} [Scalar α]

/-! ### An index and a table -/

namespace BoxIndex

variable {ι : Type} {index : BoxIndex α ι} {find find' : ι → Option (Envelope α)}

/-- **Whether the entries of an index are those of a table**, each filed once and in its shard. -/
structure Files (index : BoxIndex α ι) (find : ι → Option (Envelope α)) : Prop where
  mem_shard_iff : ∀ n entry, entry ∈ index.shard n
    ↔ find entry.item = some entry.box ∧ index.shardOf entry.box = n
  nodup : ∀ n, ((index.shard n).map BoxEntry.item).Nodup

theorem Files.insert (h : index.Files find) {box : Envelope α} {item : ι}
    (hnew : find item = none) (hself : find' item = some box)
    (hother : ∀ other, other ≠ item → find' other = find other) :
    (index.insert box item).Files find' := by
  have hlayout := SameLayout.insert index box item
  refine ⟨fun n entry => ?_, fun n => ?_⟩
  · rw [shard_insert, hlayout.shardOf_eq]
    by_cases hitem : entry.item = item
    · -- The item has not been filed yet, so the entry can only be the new one.
      have hnot : entry ∉ index.shard n := by
        rw [h.mem_shard_iff, hitem, hnew]
        simp
      have hentry : entry = ⟨box, item⟩ ↔ box = entry.box := by
        obtain ⟨box', item'⟩ := entry
        simp only [BoxEntry.mk.injEq]
        exact ⟨fun heq => heq.1.symm, fun heq => ⟨heq.symm, hitem⟩⟩
      rw [hitem, hself, Option.some.injEq]
      split
      · rename_i hn
        simp only [List.mem_append, hnot, false_or, List.mem_singleton, hentry]
        exact ⟨fun heq => ⟨heq, heq ▸ hn⟩, fun heq => heq.1⟩
      · rename_i hn
        simp only [hnot, false_iff]
        rintro ⟨heq, hshard⟩
        exact hn (heq ▸ hshard)
    · have hentry : entry ≠ ⟨box, item⟩ := fun heq => hitem (by rw [heq])
      rw [hother entry.item hitem]
      split
      · rw [List.mem_append, List.mem_singleton, or_iff_left hentry]
        exact h.mem_shard_iff n entry
      · exact h.mem_shard_iff n entry
  · rw [shard_insert]
    split
    · have hfresh : item ∉ (index.shard n).map BoxEntry.item := by
        rw [List.mem_map]
        rintro ⟨entry, hentry, hitem⟩
        have hfound := ((h.mem_shard_iff n entry).mp hentry).1
        rw [hitem, hnew] at hfound
        cases hfound
      rw [List.map_append, List.map_singleton, List.nodup_append]
      refine ⟨h.nodup n, List.nodup_singleton item, ?_⟩
      rintro a ha b hb rfl
      obtain rfl : a = item := List.mem_singleton.mp hb
      exact hfresh ha
    · exact h.nodup n

section Remove

variable [BEq ι] [LawfulBEq ι]

/-- What is in the table is found in the index, and it is the only entry that goes. -/
theorem Files.remove? (h : index.Files find) (find' : ι → Option (Envelope α)) {box : Envelope α}
    {item : ι} (hold : find item = some box) (hself : find' item = none)
    (hother : ∀ other, other ≠ item → find' other = find other) :
    ∃ index', index.remove? box item = some index' ∧ index.SameLayout index'
      ∧ index'.Files find' := by
  have hfiled : (⟨box, item⟩ : BoxEntry α ι) ∈ index.shard (index.shardOf box) :=
    (h.mem_shard_iff _ _).mpr ⟨hold, rfl⟩
  obtain ⟨index', hremove⟩ : ∃ index', index.remove? box item = some index' :=
    Option.ne_none_iff_exists'.mp fun hnone =>
      remove?_eq_none_iff.mp hnone _ hfiled (beq_self_eq_true item)
  have hlayout : index.SameLayout index' := SameLayout.of_remove? hremove
  obtain ⟨⟨taken, hbeq, hperm⟩, hrestShards⟩ := shard_remove? hremove
  have htaken : taken.item = item := eq_of_beq hbeq
  have hitems : (item :: (index'.shard (index.shardOf box)).map BoxEntry.item).Nodup := by
    have hnodup := (hperm.map BoxEntry.item).nodup_iff.mp (h.nodup _)
    rwa [List.map_cons, htaken] at hnodup
  -- The entries that are left are those of the other items.
  have hmem : ∀ n entry, entry ∈ index'.shard n ↔ entry ∈ index.shard n ∧ entry.item ≠ item := by
    intro n entry
    by_cases hn : n = index.shardOf box
    · subst hn
      rw [hperm.mem_iff, List.mem_cons]
      constructor
      · intro hentry
        refine ⟨Or.inr hentry, fun hitem => ?_⟩
        exact (List.nodup_cons.mp hitems).1 (hitem ▸ List.mem_map_of_mem hentry)
      · rintro ⟨rfl | hentry, hne⟩
        · exact absurd htaken hne
        · exact hentry
    · rw [hrestShards n hn]
      refine ⟨fun hentry => ⟨hentry, fun hitem => hn ?_⟩, fun hentry => hentry.1⟩
      obtain ⟨hfound, hshard⟩ := (h.mem_shard_iff n entry).mp hentry
      rw [hitem, hold, Option.some.injEq] at hfound
      rw [← hshard, hfound]
  refine ⟨index', hremove, hlayout, fun n entry => ?_, fun n => ?_⟩
  · rw [hmem, h.mem_shard_iff, hlayout.shardOf_eq]
    by_cases hitem : entry.item = item
    · rw [hitem, hself]
      simp
    · rw [hother _ hitem, and_iff_left hitem]
  · by_cases hn : n = index.shardOf box
    · subst hn
      exact (List.nodup_cons.mp hitems).2
    · rw [hrestShards n hn]
      exact h.nodup n

end Remove

/-! ### All shards together -/

omit [Scalar α] in
theorem mem_entries_iff {entry : BoxEntry α ι} :
    entry ∈ index.entries ↔ ∃ n, entry ∈ index.shard n := by
  unfold entries
  rw [values_eq_map_toList, List.mem_flatten]
  constructor
  · rintro ⟨entries, hentries, hmem⟩
    obtain ⟨⟨n, entries'⟩, hpair, rfl⟩ := List.mem_map.mp hentries
    refine ⟨n, ?_⟩
    have hshard := Std.TreeMap.mem_toList_iff_getElem?_eq_some.mp hpair
    rw [shard, Std.TreeMap.get?_eq_getElem?, hshard]
    exact hmem
  · rintro ⟨n, hmem⟩
    unfold shard at hmem
    cases hshard : index.shards.get? n with
    | none =>
      rw [hshard] at hmem
      exact absurd hmem List.not_mem_nil
    | some entries =>
      rw [hshard] at hmem
      have hpair : (n, entries) ∈ index.shards.toList :=
        Std.TreeMap.mem_toList_iff_getElem?_eq_some.mpr hshard
      exact ⟨entries, List.mem_map.mpr ⟨_, hpair, rfl⟩, hmem⟩

theorem Files.mem_entries_iff (h : index.Files find) {entry : BoxEntry α ι} :
    entry ∈ index.entries ↔ find entry.item = some entry.box := by
  rw [BoxIndex.mem_entries_iff]
  constructor
  · rintro ⟨n, hentry⟩
    exact ((h.mem_shard_iff n entry).mp hentry).1
  · intro hfound
    exact ⟨_, (h.mem_shard_iff _ entry).mpr ⟨hfound, rfl⟩⟩

theorem Files.nodup_entries (h : index.Files find) : index.entries.Nodup := by
  unfold entries
  rw [values_eq_map_toList, List.nodup_flatten, List.pairwise_map]
  have hshard : ∀ pair ∈ index.shards.toList, index.shard pair.1 = pair.2 := by
    intro pair hpair
    have hget := Std.TreeMap.mem_toList_iff_getElem?_eq_some.mp hpair
    rw [shard, Std.TreeMap.get?_eq_getElem?, hget]
    rfl
  constructor
  · intro entries hentries
    obtain ⟨pair, hpair, rfl⟩ := List.mem_map.mp hentries
    rw [← hshard pair hpair]
    exact (h.nodup pair.1).of_map BoxEntry.item
  · -- An entry tells its shard, so that two shards have none in common.
    refine index.shards.distinct_keys_toList.imp_of_mem ?_
    intro a b ha hb hkeys entry hentry hentry'
    rw [← hshard a ha] at hentry
    rw [← hshard b hb] at hentry'
    have hshards := ((h.mem_shard_iff _ entry).mp hentry).2.symm.trans
      ((h.mem_shard_iff _ entry).mp hentry').2
    exact hkeys (Std.LawfulEqCmp.compare_eq_iff_eq.mpr hshards)

/-- A query returns filed items only. -/
theorem exists_of_mem_query {region : Envelope α} {item : ι} (h : item ∈ index.query region) :
    ∃ n, ∃ entry ∈ index.shard n, entry.item = item := by
  unfold query at h
  obtain ⟨⟨n, entries⟩, hpair, hitem⟩ := List.mem_flatMap.mp h
  simp only at hitem
  split at hitem
  · obtain ⟨entry, hentry, rfl⟩ := List.mem_map.mp hitem
    have hget := Std.TreeMap.mem_toList_iff_getElem?_eq_some.mp hpair
    refine ⟨n, entry, ?_, rfl⟩
    rw [shard, Std.TreeMap.get?_eq_getElem?, hget]
    exact List.mem_of_mem_filter hentry
  · exact absurd hitem List.not_mem_nil

end BoxIndex

/-! ### Footprints -/

namespace Traffic

variable {t : Traffic α}

theorem get?_footprints_release (t : Traffic α) (id other : String) :
    (t.release id).footprints.get? other
      = if id = other then none else t.footprints.get? other := by
  unfold release
  simp only [footprints_dropReservation]
  cases hold : t.footprints.get? id with
  | none =>
    show t.footprints.get? other = _
    split
    · rename_i heq
      exact heq ▸ hold
    · rfl
  | some box => simp [Std.TreeMap.getElem?_erase]

theorem get?_footprints_track_of_ne (t : Traffic α) {id other : String} (hne : id ≠ other)
    (position : Point α) (radius : α) :
    (t.track id position radius).footprints.get? other = t.footprints.get? other := by
  unfold track
  simp only
  cases t.footprints.get? id with
  | none => simp [Std.TreeMap.getElem?_insert, hne]
  | some old =>
    simp only
    split
    · rfl
    · simp [Std.TreeMap.getElem?_insert, hne]

/-- What tracking and releasing keep: the index files the footprints, and it has a cell. -/
structure Coupled (t : Traffic α) : Prop where
  files : t.index.Files fun id => t.footprints.get? id
  grid_pos : 0 < t.index.grid

namespace Coupled

theorem ofIndex {index : BoxIndex α String} (hempty : ∀ n, index.shard n = [])
    (hgrid : 0 < index.grid) : (Traffic.ofIndex index).Coupled := by
  refine ⟨⟨fun n entry => ?_, fun n => ?_⟩, hgrid⟩
  · simp [Traffic.ofIndex, hempty]
  · simp [Traffic.ofIndex, hempty]

theorem of_eq {t' : Traffic α} (h : t.Coupled) (hindex : t'.index = t.index)
    (hfootprints : t'.footprints = t.footprints) : t'.Coupled := by
  refine ⟨?_, ?_⟩
  · rw [hindex, hfootprints]
    exact h.files
  · rw [hindex]
    exact h.grid_pos

theorem track (h : t.Coupled) (id : String) (position : Point α) (radius : α) :
    (t.track id position radius).Coupled := by
  have hself : ∀ box : Envelope α, (t.footprints.insert id box).get? id = some box := by
    intro box
    simp
  have hother : ∀ (box : Envelope α) other, other ≠ id →
      (t.footprints.insert id box).get? other = t.footprints.get? other := by
    intro box other hne
    simp [Std.TreeMap.getElem?_insert, hne.symm]
  unfold Traffic.track
  simp only
  cases hold : t.footprints.get? id with
  | none => exact ⟨h.files.insert hold (hself _) (hother _), h.grid_pos⟩
  | some old =>
    simp only
    split
    · exact h
    · -- The old entry is taken out, so that the vehicle has none when the new one is filed.
      obtain ⟨index', hremove, hlayout, hfiles⟩ := h.files.remove?
        (fun other => if other = id then none else t.footprints.get? other)
        hold (if_pos rfl) fun other hne => if_neg hne
      have hmove : ∀ box, t.index.move old id box id = index'.insert box id := by
        intro box
        unfold BoxIndex.move
        rw [hremove]
        rfl
      simp only [hmove]
      refine ⟨hfiles.insert (if_pos rfl) (hself _) fun other hne => ?_, ?_⟩
      · rw [if_neg hne]
        exact hother _ other hne
      · show 0 < index'.grid
        rw [hlayout.grid_eq]
        exact h.grid_pos

theorem release (h : t.Coupled) (id : String) : (t.release id).Coupled := by
  unfold Traffic.release
  simp only [footprints_dropReservation, index_dropReservation]
  cases hold : t.footprints.get? id with
  | none => exact h.of_eq rfl rfl
  | some old =>
    obtain ⟨index', hremove, hlayout, hfiles⟩ := h.files.remove?
      (fun other => (t.footprints.erase id).get? other) hold (by simp) fun other hne => by
        simp [Std.TreeMap.getElem?_erase, hne.symm]
    simp only [hremove, Option.getD_some]
    exact ⟨hfiles, hlayout.grid_eq ▸ h.grid_pos⟩

theorem mem_entries_iff (h : t.Coupled) {entry : BoxEntry α String} :
    entry ∈ t.index.entries ↔ t.footprints.get? entry.item = some entry.box :=
  h.files.mem_entries_iff

/-- What is filed for a vehicle is its footprint, if it has one. -/
theorem filter_entries_eq (h : t.Coupled) (id : String) :
    t.index.entries.filter (·.item == id)
      = ((t.footprints.get? id).map fun box => ⟨box, id⟩).toList := by
  have hperm : (t.index.entries.filter (·.item == id)).Perm
      ((t.footprints.get? id).map fun box => ⟨box, id⟩).toList := by
    have hnodup : ((t.footprints.get? id).map fun box =>
        (⟨box, id⟩ : BoxEntry α String)).toList.Nodup := by
      cases t.footprints.get? id <;> simp
    rw [List.perm_ext_iff_of_nodup (h.files.nodup_entries.filter _) hnodup]
    intro entry
    rw [List.mem_filter, h.mem_entries_iff, beq_iff_eq, Option.mem_toList, Option.map_eq_some_iff]
    constructor
    · rintro ⟨hfound, rfl⟩
      exact ⟨entry.box, hfound, rfl⟩
    · rintro ⟨box, hfound, rfl⟩
      exact ⟨hfound, rfl⟩
  -- A list of at most one entry has no other order.
  cases hget : t.footprints.get? id with
  | none =>
    rw [hget] at hperm
    exact hperm.eq_nil
  | some box =>
    rw [hget] at hperm
    exact List.perm_singleton.mp hperm

/-- As many entries are counted as vehicles are tracked. -/
theorem footprints_numbers (h : t.Coupled) : t.numbers.footprints = t.footprints.size := by
  have hrows : (t.footprints.toList.map
      fun row => (⟨row.2, row.1⟩ : BoxEntry α String)).Nodup := by
    rw [List.nodup_iff_pairwise_ne, List.pairwise_map]
    refine t.footprints.distinct_keys_toList.imp ?_
    intro a b hkeys heq
    exact hkeys (Std.LawfulEqCmp.compare_eq_iff_eq.mpr (congrArg BoxEntry.item heq))
  -- The entries are the rows of the table in another order.
  have hperm : t.index.entries.Perm (t.footprints.toList.map fun row => ⟨row.2, row.1⟩) := by
    rw [List.perm_ext_iff_of_nodup h.files.nodup_entries hrows]
    intro entry
    rw [h.mem_entries_iff, List.mem_map]
    constructor
    · intro hfound
      exact ⟨(entry.item, entry.box),
        Std.TreeMap.mem_toList_iff_getElem?_eq_some.mpr hfound, rfl⟩
    · rintro ⟨row, hrow, rfl⟩
      exact Std.TreeMap.mem_toList_iff_getElem?_eq_some.mp hrow
  show t.index.entries.length = t.footprints.size
  rw [hperm.length_eq, List.length_map, Std.TreeMap.length_toList]

/-- A vehicle without a footprint is not found. -/
theorem notMem_query (h : t.Coupled) {id : String} (hnone : t.footprints.get? id = none)
    (region : Envelope α) : id ∉ t.index.query region := by
  intro hitem
  obtain ⟨n, entry, hmem, rfl⟩ := BoxIndex.exists_of_mem_query hitem
  have hfound := ((h.files.mem_shard_iff n entry).mp hmem).1
  rw [hnone] at hfound
  cases hfound

end Coupled

end Traffic

/-! ### Runs -/

/-- Whether an event moves the footprint of a vehicle. -/
def TrafficEvent.Tracks (event : TrafficEvent α) (id : String) : Prop :=
  ∃ position radius, event = .track id position radius

namespace TrafficControl

theorem coupled_start (floor : FloorSettings α) (registry : Registry α) (n : Network α) :
    (start floor registry n).traffic.Coupled := by
  refine Traffic.Coupled.ofIndex (fun m => ?_) ?_
  · simp [FloorSettings.index, BoxIndex.empty, BoxIndex.shard]
  · exact lt_max_of_lt_right Nat.zero_lt_one

theorem coupled_step (c : TrafficControl α) (event : TrafficEvent α) (h : c.traffic.Coupled) :
    (c.step event).traffic.Coupled := by
  cases event with
  | upsert v => exact h
  | modify id change => exact h
  | erase id => exact h
  | reserve id route buffer =>
    exact h.of_eq (Traffic.index_reserve _ _ _ _ _) (Traffic.footprints_reserve _ _ _ _ _)
  | track id position radius => exact h.track id position radius
  | release id => exact h.release id

/-- A vehicle has no footprint until it is tracked. -/
theorem get?_footprints_step_eq_none {c : TrafficControl α} {id : String}
    (h : c.traffic.footprints.get? id = none) {event : TrafficEvent α} (hevent : ¬event.Tracks id) :
    (c.step event).traffic.footprints.get? id = none := by
  cases event with
  | upsert v => exact h
  | modify other change => exact h
  | erase other => exact h
  | reserve other route buffer =>
    show ((c.traffic.reserve c.network other route buffer).2).footprints.get? id = none
    rw [Traffic.footprints_reserve]
    exact h
  | track other position radius =>
    have hne : other ≠ id := fun heq => hevent ⟨position, radius, by rw [heq]⟩
    exact (Traffic.get?_footprints_track_of_ne _ hne _ _).trans h
  | release other =>
    show (c.traffic.release other).footprints.get? id = none
    rw [Traffic.get?_footprints_release, h, ite_self]

theorem get?_footprints_run_eq_none {c : TrafficControl α} {id : String}
    (h : c.traffic.footprints.get? id = none) {events : List (TrafficEvent α)}
    (hevents : ∀ event ∈ events, ¬event.Tracks id) :
    (c.run events).traffic.footprints.get? id = none := by
  induction events generalizing c with
  | nil => exact h
  | cons event later ih =>
    rw [List.forall_mem_cons] at hevents
    exact ih (get?_footprints_step_eq_none h hevents.1) hevents.2

/-- **Whether the index holds one entry for each footprint and nothing else.** -/
structure Filed (c : TrafficControl α) : Prop where
  /-- What is filed for a vehicle is its footprint, if it has one, and nothing otherwise. -/
  filter_entries_eq : ∀ id, c.traffic.index.entries.filter (·.item == id)
    = ((c.traffic.footprints.get? id).map fun box => ⟨box, id⟩).toList
  /-- A shard holds the footprints that belong to it. -/
  mem_shard_iff : ∀ n entry, entry ∈ c.traffic.index.shard n
    ↔ c.traffic.footprints.get? entry.item = some entry.box
      ∧ c.traffic.index.shardOf entry.box = n
  shardOf_lt : ∀ box, c.traffic.index.shardOf box < c.traffic.index.shardCount
  /-- As many entries are counted as vehicles are tracked. -/
  footprints_eq : c.traffic.numbers.footprints = c.traffic.footprints.size
  /-- Once a vehicle has been released, no query finds it until it is tracked again. -/
  notMem_query : ∀ id later, (∀ event ∈ later, ¬event.Tracks id) → ∀ region,
    id ∉ ((c.step (.release id)).run later).traffic.index.query region

/-- **One entry for each footprint**, whatever has been tracked and released. -/
theorem filed_run (floor : FloorSettings α) (registry : Registry α) (n : Network α)
    (events : List (TrafficEvent α)) : ((start floor registry n).run events).Filed := by
  have hcoupled : ((start floor registry n).run events).traffic.Coupled :=
    invariant_run (I := fun c => c.traffic.Coupled) coupled_step (coupled_start floor registry n)
      events
  generalize (start floor registry n).run events = c at *
  refine ⟨hcoupled.filter_entries_eq, hcoupled.files.mem_shard_iff,
    BoxIndex.shardOf_lt_shardCount hcoupled.grid_pos, hcoupled.footprints_numbers, ?_⟩
  intro id later hlater region
  have hreleased : (c.step (.release id)).traffic.footprints.get? id = none := by
    show (c.traffic.release id).footprints.get? id = none
    rw [Traffic.get?_footprints_release, if_pos rfl]
  have hlast : ((c.step (.release id)).run later).traffic.Coupled :=
    invariant_run (I := fun c => c.traffic.Coupled) coupled_step
      (coupled_step c (.release id) hcoupled) later
  exact hlast.notMem_query (get?_footprints_run_eq_none hreleased hlater) region

end TrafficControl

end AgvDispatch
