import AgvDispatch.Proofs.ListParts
import AgvDispatch.Proofs.Traffic.Footprint
/-!
# The index and a scan of all entries

A run of the index is any sequence of items filed, removed and moved (`IndexEvent`). After every run
the index is one flat list of entries, divided into shards (`BoxIndex.IsFlat`):

* an entry is in the shard of its own box, so that the shards in ascending order make up the list;
* the operations do to the list what they would do to one without shards, up to the order;
* a query is the part of the list that meets the region and is centred in a cell of the rows and
  columns that the region spans.

None of this depends on what the scalars are. Where they are exact, cells ascend with the
coordinates. Then a query for a region that is widened by the reach of all boxes misses nothing that
a scan of the list for the region itself would find (`BoxIndex.ScansExactly`).
-/

namespace AgvDispatch

/-- A call that changes an index: an item is filed, removed, or removed and filed elsewhere. -/
inductive IndexEvent (α ι : Type) where
  | insert (box : Envelope α) (item : ι)
  | remove (box : Envelope α) (item : ι)
  | move (oldBox : Envelope α) (oldItem : ι) (box : Envelope α) (item : ι)

/-- Half the extent of a box on the first axis. -/
def Envelope.halfWidth {α : Type} [Scalar α] (e : Envelope α) : α := e.width / ((2 : ℕ) : α)

/-- Half the extent of a box on the second axis. -/
def Envelope.halfHeight {α : Type} [Scalar α] (e : Envelope α) : α := e.height / ((2 : ℕ) : α)

namespace BoxIndex

variable {α ι : Type}

section Definitions

variable [Scalar α]

/-- The shards of the cells that a region covers, row by row. -/
def shardsCovering (index : BoxIndex α ι) (region : Envelope α) : List ℕ :=
  (List.range' (index.row region.minY)
      (index.row region.maxY + 1 - index.row region.minY)).flatMap fun r =>
    (List.range' (index.column region.minX)
      (index.column region.maxX + 1 - index.column region.minX)).map fun c => r * index.grid + c

/-- The entries of the shards covered by a region that meet it. -/
def hits (index : BoxIndex α ι) (region : Envelope α) : List (BoxEntry α ι) :=
  (index.shardsCovering region).flatMap fun n =>
    (index.shard n).filter fun entry => entry.box.intersects region

/-- Whether a box is centred in a cell of the rows and columns that a region spans. -/
def spans (index : BoxIndex α ι) (region box : Envelope α) : Bool :=
  decide (index.row region.minY ≤ index.row box.centre.y)
    && decide (index.row box.centre.y ≤ index.row region.maxY)
    && decide (index.column region.minX ≤ index.column box.centre.x)
    && decide (index.column box.centre.x ≤ index.column region.maxX)

variable [BEq ι]

/-- The index after a call. -/
def step (index : BoxIndex α ι) : IndexEvent α ι → BoxIndex α ι
  | .insert box item => index.insert box item
  | .remove box item => (index.remove? box item).getD index
  | .move oldBox oldItem box item => index.move oldBox oldItem box item

/-- The index after a sequence of calls. -/
def run (index : BoxIndex α ι) (events : List (IndexEvent α ι)) : BoxIndex α ι :=
  events.foldl step index

end Definitions

/-! ### The shards that a region covers -/

theorem mem_interval {n low high : ℕ} :
    n ∈ List.range' low (high + 1 - low) ↔ low ≤ n ∧ n ≤ high := by
  rw [List.mem_range'_1]
  omega

section Covering

variable [Scalar α] {index : BoxIndex α ι}

/-- The shards are listed that a query looks into. -/
theorem mem_shardsCovering (hgrid : 0 < index.grid) {region : Envelope α} {n : ℕ} :
    n ∈ index.shardsCovering region ↔ index.covers region n = true := by
  unfold shardsCovering covers
  simp only [List.mem_flatMap, List.mem_map, mem_interval, Bool.and_eq_true, decide_eq_true_eq]
  constructor
  · rintro ⟨r, hr, c, hc, rfl⟩
    have hlt : c < index.grid := hc.2.trans_lt (column_lt_grid hgrid region.maxX)
    rw [number_div_grid hlt, number_mod_grid hlt]
    exact ⟨⟨hr, hc.1⟩, hc.2⟩
  · rintro ⟨⟨hr, hc⟩, hc'⟩
    exact ⟨n / index.grid, hr, n % index.grid, ⟨hc, hc'⟩, Nat.div_add_mod' n index.grid⟩

theorem lt_shardCount_of_mem_shardsCovering (hgrid : 0 < index.grid) {region : Envelope α} {n : ℕ}
    (h : n ∈ index.shardsCovering region) : n < index.shardCount := by
  unfold shardsCovering at h
  simp only [List.mem_flatMap, List.mem_map, mem_interval] at h
  obtain ⟨r, hr, c, hc, rfl⟩ := h
  exact lt_shardCount (hr.2.trans_lt (row_lt_grid hgrid region.maxY))
    (hc.2.trans_lt (column_lt_grid hgrid region.maxX))

theorem pairwise_shardsCovering (hgrid : 0 < index.grid) (region : Envelope α) :
    (index.shardsCovering region).Pairwise (· < ·) := by
  unfold shardsCovering
  rw [List.pairwise_flatMap]
  constructor
  · intro r hr
    rw [List.pairwise_map]
    exact (List.pairwise_lt_range' 1).imp fun hlt => Nat.add_lt_add_left hlt _
  · refine (List.pairwise_lt_range' 1).imp fun {r r'} hlt n hn n' hn' => ?_
    obtain ⟨c, hc, rfl⟩ := List.mem_map.mp hn
    obtain ⟨c', hc', rfl⟩ := List.mem_map.mp hn'
    -- A row ends before the next one begins.
    have hcolumn : c < index.grid :=
      (mem_interval.mp hc).2.trans_lt (column_lt_grid hgrid region.maxX)
    calc r * index.grid + c < r * index.grid + index.grid := Nat.add_lt_add_left hcolumn _
      _ = (r + 1) * index.grid := (Nat.succ_mul r index.grid).symm
      _ ≤ r' * index.grid := Nat.mul_le_mul_right _ hlt
      _ ≤ r' * index.grid + c' := Nat.le_add_right _ _

end Covering

/-! ### Entries in the shards of their boxes -/

section Placed

variable [Scalar α] {index : BoxIndex α ι}

/-- Whether there is a cell, and every entry is in the shard of its own box. -/
structure Placed (index : BoxIndex α ι) : Prop where
  grid_pos : 0 < index.grid
  shardOf_eq : ∀ n, ∀ entry ∈ index.shard n, index.shardOf entry.box = n

theorem placed_empty (origin : Point α) (width height : α) (grid : ℕ) :
    (empty origin width height grid : BoxIndex α ι).Placed where
  grid_pos := lt_max_of_lt_right Nat.zero_lt_one
  shardOf_eq := by
    intro n entry h
    simp [empty, shard] at h

theorem Placed.insert (h : index.Placed) (box : Envelope α) (item : ι) :
    (index.insert box item).Placed where
  grid_pos := h.grid_pos
  shardOf_eq := by
    intro n entry hentry
    rw [(SameLayout.insert index box item).shardOf_eq]
    rw [shard_insert] at hentry
    split at hentry
    · rename_i hn
      obtain hold | hnew := List.mem_append.mp hentry
      · exact h.shardOf_eq n entry hold
      · rw [List.mem_singleton.mp hnew]
        exact hn
    · exact h.shardOf_eq n entry hentry

theorem Placed.lt_shardCount (h : index.Placed) {n : ℕ} {entry : BoxEntry α ι}
    (hentry : entry ∈ index.shard n) : n < index.shardCount :=
  h.shardOf_eq n entry hentry ▸ shardOf_lt_shardCount h.grid_pos entry.box

/-! ### The shards in ascending order -/

omit [Scalar α] in
theorem shard_of_mem_toList {pair : ℕ × List (BoxEntry α ι)} (h : pair ∈ index.shards.toList) :
    index.shard pair.1 = pair.2 := by
  rw [shard, Std.TreeMap.get?_eq_getElem?, Std.TreeMap.mem_toList_iff_getElem?_eq_some.mp h]
  rfl

omit [Scalar α] in
/-- Whatever is put together from the shards in use is put together from their numbers. -/
theorem flatMap_shards {β : Type} (f : ℕ → List (BoxEntry α ι) → List β) :
    index.shards.toList.flatMap (fun pair => f pair.1 pair.2)
      = index.shards.keys.flatMap fun n => f n (index.shard n) := by
  rw [← Std.TreeMap.map_fst_toList_eq_keys, List.flatMap_map]
  exact List.flatMap_congr fun pair hpair => by rw [shard_of_mem_toList hpair]

omit [Scalar α] in
theorem mem_keys_of_shard_ne_nil {n : ℕ} (h : index.shard n ≠ []) : n ∈ index.shards.keys := by
  rw [Std.TreeMap.mem_keys]
  by_contra hnot
  apply h
  rw [shard, Std.TreeMap.get?_eq_getElem?, Std.TreeMap.getElem?_eq_none hnot, Option.getD_none]

omit [Scalar α] in
theorem pairwise_keys (index : BoxIndex α ι) : index.shards.keys.Pairwise (· < ·) :=
  index.shards.ordered_keys.imp Nat.compare_eq_lt.mp

theorem Placed.entries_eq (h : index.Placed) :
    index.entries = (List.range index.shardCount).flatMap index.shard := by
  have hkeys : index.entries = index.shards.keys.flatMap index.shard := by
    rw [entries, values_eq_map_toList, ← List.flatMap_def]
    exact flatMap_shards fun _ entries => entries
  rw [hkeys]
  -- Shards that are not in use are empty, and those in use are among the ones that exist.
  refine flatMap_eq_of_ascending index.pairwise_keys List.pairwise_lt_range fun n hn => ?_
  obtain ⟨entry, hentry⟩ := List.exists_mem_of_ne_nil _ hn
  exact iff_of_true (mem_keys_of_shard_ne_nil hn) (List.mem_range.mpr (h.lt_shardCount hentry))

/-- **A query returns the items of the entries that it hits**, in the same order. -/
theorem query_eq (hgrid : 0 < index.grid) (region : Envelope α) :
    index.query region = (index.hits region).map BoxEntry.item := by
  have hcovered : ∀ n ∈ index.shardsCovering region, index.covers region n = true :=
    fun n hn => (mem_shardsCovering hgrid).mp hn
  calc index.query region
      = index.shards.keys.flatMap fun n => if index.covers region n = true then
          ((index.shard n).filter (·.box.intersects region)).map BoxEntry.item else [] := by
        unfold query
        exact flatMap_shards fun n (entries : List (BoxEntry α ι)) =>
          if index.covers region n = true then
            (entries.filter (·.box.intersects region)).map BoxEntry.item else []
    _ = (index.shardsCovering region).flatMap fun n => if index.covers region n = true then
          ((index.shard n).filter (·.box.intersects region)).map BoxEntry.item else [] := by
      refine flatMap_eq_of_ascending index.pairwise_keys (pairwise_shardsCovering hgrid region)
        fun n hn => ?_
      split at hn
      · rename_i hcovers
        refine iff_of_true (mem_keys_of_shard_ne_nil fun hnil => hn ?_)
          ((mem_shardsCovering hgrid).mpr hcovers)
        rw [hnil]
        rfl
      · exact absurd rfl hn
    _ = (index.shardsCovering region).flatMap fun n =>
          ((index.shard n).filter (·.box.intersects region)).map BoxEntry.item :=
      List.flatMap_congr fun n hn => if_pos (hcovered n hn)
    _ = (index.hits region).map BoxEntry.item := List.map_flatMap.symm

theorem spans_eq_covers (hgrid : 0 < index.grid) (region box : Envelope α) :
    index.spans region box = index.covers region (index.shardOf box) := by
  simp only [spans, covers, shardOf_div_grid hgrid, shardOf_mod_grid hgrid]

/-- **What a query hits is the part of all entries** that meets the region and is centred in a cell
of its rows and columns. -/
theorem Placed.hits_eq (h : index.Placed) (region : Envelope α) : index.hits region
    = index.entries.filter fun entry =>
        entry.box.intersects region && index.spans region entry.box := by
  have hshard : ∀ n, (index.shard n).filter (fun entry =>
      entry.box.intersects region && index.spans region entry.box)
        = if index.covers region n = true then (index.shard n).filter (·.box.intersects region)
          else [] := by
    intro n
    have hspans : ∀ entry ∈ index.shard n,
        index.spans region entry.box = index.covers region n := fun entry hentry => by
      rw [spans_eq_covers h.grid_pos, h.shardOf_eq n entry hentry]
    split
    · rename_i hcovers
      exact List.filter_congr fun entry hentry => by
        rw [hspans entry hentry, hcovers, Bool.and_true]
    · rename_i hnot
      refine List.filter_eq_nil_iff.mpr fun entry hentry hboth => ?_
      rw [Bool.and_eq_true, hspans entry hentry] at hboth
      exact hnot hboth.2
  -- Both sides are put together from the shards that the region covers, the right one with empty
  -- parts for the other shards between them.
  rw [h.entries_eq, List.filter_flatMap]
  simp only [hshard]
  calc index.hits region
      = (index.shardsCovering region).flatMap fun n => if index.covers region n = true then
          (index.shard n).filter (·.box.intersects region) else [] :=
        List.flatMap_congr fun n hn => (if_pos ((mem_shardsCovering h.grid_pos).mp hn)).symm
    _ = (List.range index.shardCount).flatMap fun n => if index.covers region n = true then
          (index.shard n).filter (·.box.intersects region) else [] := by
      refine flatMap_eq_of_ascending (pairwise_shardsCovering h.grid_pos region)
        List.pairwise_lt_range fun n hn => ?_
      split at hn
      · rename_i hcovers
        have hmem := (mem_shardsCovering h.grid_pos).mpr hcovers
        exact iff_of_true hmem
          (List.mem_range.mpr (lt_shardCount_of_mem_shardsCovering h.grid_pos hmem))
      · exact absurd rfl hn

/-- The entries that a query hits come shard by shard. -/
theorem Placed.pairwise_hits (h : index.Placed) (region : Envelope α) :
    ((index.hits region).map fun entry => index.shardOf entry.box).Pairwise (· ≤ ·) := by
  have hplaced : ∀ n, ∀ entry ∈ (index.shard n).filter (·.box.intersects region),
      index.shardOf entry.box = n :=
    fun n entry hentry => h.shardOf_eq n entry (List.mem_of_mem_filter hentry)
  rw [List.pairwise_map, hits, List.pairwise_flatMap]
  constructor
  · intro n hn
    refine List.pairwise_of_forall_mem_list fun a ha b hb => ?_
    rw [hplaced n a ha, hplaced n b hb]
  · refine (pairwise_shardsCovering h.grid_pos region).imp fun {m n} hlt a ha b hb => ?_
    rw [hplaced m a ha, hplaced n b hb]
    exact hlt.le

/-! ### What the calls do to the entries -/

/-- An index with one more entry, in one of its shards. -/
theorem Placed.entries_perm_cons (h : index.Placed) {index' : BoxIndex α ι} (h' : index'.Placed)
    (hcount : index'.shardCount = index.shardCount) (box : Envelope α) {entry : BoxEntry α ι}
    (hothers : ∀ n, n ≠ index.shardOf box → index'.shard n = index.shard n)
    (hshard : (index'.shard (index.shardOf box)).Perm (entry :: index.shard (index.shardOf box))) :
    index'.entries.Perm (entry :: index.entries) := by
  have hmem : index.shardOf box ∈ List.range index.shardCount :=
    List.mem_range.mpr (shardOf_lt_shardCount h.grid_pos box)
  obtain ⟨before, after, heq, heq'⟩ := exists_flatMap_eq_append (f := index.shard)
    (g := index'.shard) List.nodup_range hmem hothers
  rw [h'.entries_eq, hcount, heq', h.entries_eq, heq, List.append_assoc, List.append_assoc]
  refine ((hshard.append_right after).append_left before).trans ?_
  exact List.perm_middle

theorem Placed.perm_insert (h : index.Placed) (box : Envelope α) (item : ι) :
    (index.insert box item).entries.Perm (⟨box, item⟩ :: index.entries) := by
  refine h.entries_perm_cons (h.insert box item) rfl box (fun n hn => ?_) ?_
  · rw [shard_insert, if_neg hn.symm]
  · rw [shard_insert, if_pos rfl]
    exact List.perm_append_singleton _ _

variable [BEq ι]

theorem Placed.remove? (h : index.Placed) {box : Envelope α} {item : ι} {index' : BoxIndex α ι}
    (hremove : index.remove? box item = some index') : index'.Placed := by
  obtain ⟨⟨taken, -, hperm⟩, hothers⟩ := shard_remove? hremove
  have hlayout : index.SameLayout index' := SameLayout.of_remove? hremove
  refine ⟨hlayout.grid_eq ▸ h.grid_pos, fun n entry hentry => ?_⟩
  rw [hlayout.shardOf_eq]
  by_cases hn : n = index.shardOf box
  · subst hn
    exact h.shardOf_eq _ entry (hperm.mem_iff.mpr (List.mem_cons_of_mem _ hentry))
  · rw [hothers n hn] at hentry
    exact h.shardOf_eq n entry hentry

/-- Removing takes an entry of the item out, one in the shard of the box. -/
theorem Placed.perm_remove? (h : index.Placed) {box : Envelope α} {item : ι}
    {index' : BoxIndex α ι} (hremove : index.remove? box item = some index') :
    ∃ taken : BoxEntry α ι, (taken.item == item) = true
      ∧ index.shardOf taken.box = index.shardOf box
      ∧ index.entries.Perm (taken :: index'.entries) := by
  obtain ⟨⟨taken, hitem, hperm⟩, hothers⟩ := shard_remove? hremove
  refine ⟨taken, hitem, h.shardOf_eq _ taken (hperm.mem_iff.mpr List.mem_cons_self), ?_⟩
  have hlayout : index.SameLayout index' := SameLayout.of_remove? hremove
  have hcount : index.shardCount = index'.shardCount :=
    congrArg₂ (· * ·) hlayout.grid_eq.symm hlayout.grid_eq.symm
  -- Read backwards, the index before has one more entry than the index after.
  refine (h.remove? hremove).entries_perm_cons h hcount box ?_ ?_
  · intro n hn
    rw [hlayout.shardOf_eq] at hn
    exact (hothers n hn).symm
  · rw [hlayout.shardOf_eq]
    exact hperm

theorem Placed.remove?_eq_none_iff (h : index.Placed) {box : Envelope α} {item : ι} :
    index.remove? box item = none ↔ ∀ entry ∈ index.entries,
      index.shardOf entry.box = index.shardOf box → ¬ (entry.item == item) = true := by
  rw [BoxIndex.remove?_eq_none_iff]
  constructor
  · intro hnone entry hentry hshard
    obtain ⟨n, hn⟩ := mem_entries_iff.mp hentry
    rw [← h.shardOf_eq n entry hn, hshard] at hn
    exact hnone entry hn
  · intro hnone entry hentry
    exact hnone entry (mem_entries_iff.mpr ⟨_, hentry⟩) (h.shardOf_eq _ entry hentry)

theorem Placed.getD_remove? (h : index.Placed) (box : Envelope α) (item : ι) :
    ((index.remove? box item).getD index).Placed := by
  cases hremove : index.remove? box item with
  | none => exact h
  | some index' => exact h.remove? hremove

theorem Placed.step (h : index.Placed) (event : IndexEvent α ι) : (index.step event).Placed := by
  cases event with
  | insert box item => exact h.insert box item
  | remove box item => exact h.getD_remove? box item
  | move oldBox oldItem box item => exact (h.getD_remove? oldBox oldItem).insert box item

theorem Placed.run (h : index.Placed) (events : List (IndexEvent α ι)) :
    (index.run events).Placed := by
  induction events generalizing index with
  | nil => exact h
  | cons event later ih => exact ih (h.step event)

/-- Moving an item keeps all entries but the one that it takes out, if it finds one. -/
theorem Placed.perm_move (h : index.Placed) (oldBox : Envelope α) (oldItem : ι)
    (box : Envelope α) (item : ι) : ∃ taken kept : List (BoxEntry α ι),
      index.entries.Perm (taken ++ kept)
      ∧ (index.move oldBox oldItem box item).entries.Perm (⟨box, item⟩ :: kept)
      ∧ taken.length = (if (index.remove? oldBox oldItem).isSome then 1 else 0)
      ∧ ∀ entry ∈ taken, (entry.item == oldItem) = true
        ∧ index.shardOf entry.box = index.shardOf oldBox := by
  have hinsert := (h.getD_remove? oldBox oldItem).perm_insert box item
  unfold move
  cases hremove : index.remove? oldBox oldItem with
  | none =>
    rw [hremove] at hinsert
    exact ⟨[], index.entries, List.Perm.refl _, hinsert, rfl,
      fun entry hentry => absurd hentry List.not_mem_nil⟩
  | some index' =>
    rw [hremove] at hinsert
    obtain ⟨taken, hitem, hshard, hperm⟩ := h.perm_remove? hremove
    refine ⟨[taken], index'.entries, hperm, hinsert, rfl, fun entry hentry => ?_⟩
    obtain rfl := List.mem_singleton.mp hentry
    exact ⟨hitem, hshard⟩

end Placed

/-! ### Exact arithmetic -/

section Exact

variable {index : BoxIndex ℝ ι}

/-- A box that meets a region is centred in the region widened by the reach of the box. -/
theorem contains_centre_expand {box region : Envelope ℝ} {reach : ℝ}
    (hmeets : box.intersects region = true) (hwidth : box.halfWidth ≤ reach)
    (hheight : box.halfHeight ≤ reach) : (region.expand reach).contains box.centre = true := by
  rw [Envelope.intersects_iff] at hmeets
  obtain ⟨⟨hx, hx'⟩, hy, hy'⟩ := hmeets
  simp only [Envelope.halfWidth, Envelope.width, Nat.cast_ofNat] at hwidth
  simp only [Envelope.halfHeight, Envelope.height, Nat.cast_ofNat] at hheight
  rw [Envelope.contains_iff]
  simp only [Envelope.expand, Envelope.centre, Nat.cast_ofNat]
  refine ⟨⟨?_, ?_⟩, ?_, ?_⟩ <;> linarith

theorem intersects_expand {box region : Envelope ℝ} {reach : ℝ}
    (hmeets : box.intersects region = true) (hreach : 0 ≤ reach) :
    box.intersects (region.expand reach) = true := by
  rw [Envelope.intersects_iff] at hmeets ⊢
  obtain ⟨⟨hx, hx'⟩, hy, hy'⟩ := hmeets
  simp only [Envelope.expand]
  refine ⟨⟨?_, ?_⟩, ?_, ?_⟩ <;> linarith

theorem spans_of_contains (hregular : index.Regular) {region box : Envelope ℝ}
    (h : region.contains box.centre = true) : index.spans region box = true := by
  rw [spans_eq_covers hregular.grid_pos]
  exact covers_shardOf hregular h

/-- What meets a region and is centred in it is hit by a query for the region. -/
theorem Placed.mem_hits (hplaced : index.Placed) (hregular : index.Regular) {region : Envelope ℝ}
    {entry : BoxEntry ℝ ι} (hentry : entry ∈ index.entries)
    (hmeets : entry.box.intersects region = true)
    (hcentre : region.contains entry.box.centre = true) : entry ∈ index.hits region := by
  rw [hplaced.hits_eq, List.mem_filter, Bool.and_eq_true]
  exact ⟨hentry, hmeets, spans_of_contains hregular hcentre⟩

/-- **A widened query misses nothing**: among the entries that it hits, those that meet the region
itself are the ones that a scan of all entries finds. -/
theorem Placed.filter_hits_expand (hplaced : index.Placed) (hregular : index.Regular)
    {region : Envelope ℝ} {reach : ℝ} (hreach : 0 ≤ reach)
    (hboxes : ∀ entry ∈ index.entries,
      entry.box.halfWidth ≤ reach ∧ entry.box.halfHeight ≤ reach) :
    (index.hits (region.expand reach)).filter (·.box.intersects region)
      = index.entries.filter (·.box.intersects region) := by
  rw [hplaced.hits_eq, List.filter_filter]
  refine List.filter_congr fun entry hentry => ?_
  by_cases hmeets : entry.box.intersects region = true
  · obtain ⟨hwidth, hheight⟩ := hboxes entry hentry
    have hcentre := contains_centre_expand hmeets hwidth hheight
    rw [intersects_expand hmeets hreach, spans_of_contains hregular hcentre, Bool.and_true,
      Bool.and_true]
  · rw [Bool.not_eq_true] at hmeets
    rw [hmeets, Bool.false_and]

end Exact

/-! ### Runs -/

/-- An index is a flat list of entries, divided into shards. -/
structure IsFlat [Scalar α] [BEq ι] (index : BoxIndex α ι) : Prop where
  /-- Every shard that a box belongs to or a region covers exists. -/
  shardOf_lt : ∀ box, index.shardOf box < index.shardCount
  shardsCovering_lt : ∀ region, ∀ n ∈ index.shardsCovering region, n < index.shardCount
  /-- An entry is in the shard of its box, and the shards make up the list. -/
  shardOf_eq : ∀ n, ∀ entry ∈ index.shard n, index.shardOf entry.box = n
  entries_eq : index.entries = (List.range index.shardCount).flatMap index.shard
  /-- A query returns the part of the list that meets the region and is centred in a cell of its
  rows and columns, in ascending order of the shards. -/
  query_eq : ∀ region, index.query region = (index.hits region).map BoxEntry.item
  hits_eq : ∀ region, index.hits region = index.entries.filter fun entry =>
    entry.box.intersects region && index.spans region entry.box
  pairwise_hits : ∀ region,
    ((index.hits region).map fun entry => index.shardOf entry.box).Pairwise (· ≤ ·)
  /-- Filing adds an entry. -/
  perm_insert : ∀ box item,
    (index.insert box item).entries.Perm (⟨box, item⟩ :: index.entries)
  /-- Removing takes one entry of the item out of the shard of the box, and fails only if there is
  none. -/
  perm_remove? : ∀ box item index', index.remove? box item = some index' →
    ∃ taken : BoxEntry α ι, (taken.item == item) = true
      ∧ index.shardOf taken.box = index.shardOf box
      ∧ index.entries.Perm (taken :: index'.entries)
  remove?_eq_none_iff : ∀ box item, index.remove? box item = none
    ↔ ∀ entry ∈ index.entries, index.shardOf entry.box = index.shardOf box →
      ¬ (entry.item == item) = true
  /-- Moving keeps every entry but the one that it takes out, and files the new one. The size only
  changes if the old one was not found. -/
  perm_move : ∀ oldBox oldItem box item, ∃ taken kept : List (BoxEntry α ι),
    index.entries.Perm (taken ++ kept)
    ∧ (index.move oldBox oldItem box item).entries.Perm (⟨box, item⟩ :: kept)
    ∧ taken.length = (if (index.remove? oldBox oldItem).isSome then 1 else 0)
    ∧ ∀ entry ∈ taken, (entry.item == oldItem) = true
      ∧ index.shardOf entry.box = index.shardOf oldBox
  size_move : ∀ oldBox oldItem box item, (index.move oldBox oldItem box item).size
    = index.size + if (index.remove? oldBox oldItem).isSome then 0 else 1

/-- Queries of an index miss nothing that they are to find. -/
structure ScansExactly (index : BoxIndex ℝ ι) : Prop where
  /-- What meets a region and is centred in it is found. -/
  mem_hits : ∀ region, ∀ entry ∈ index.entries, entry.box.intersects region = true →
    region.contains entry.box.centre = true → entry ∈ index.hits region
  /-- A query widened by the reach of all boxes finds what a scan of all entries finds. -/
  filter_hits_expand : ∀ region reach, 0 ≤ reach →
    (∀ entry ∈ index.entries, entry.box.halfWidth ≤ reach ∧ entry.box.halfHeight ≤ reach) →
    (index.hits (region.expand reach)).filter (·.box.intersects region)
      = index.entries.filter (·.box.intersects region)

section Runs

variable [BEq ι]

theorem SameLayout.run [Scalar α] (index : BoxIndex α ι) (events : List (IndexEvent α ι)) :
    index.SameLayout (index.run events) := by
  induction events generalizing index with
  | nil => exact refl index
  | cons event later ih =>
    refine SameLayout.trans ?_ (ih (index.step event))
    cases event with
    | insert box item => exact insert index box item
    | remove box item => exact remove? index box item
    | move oldBox oldItem box item => exact move index oldBox oldItem box item

theorem Placed.isFlat [Scalar α] {index : BoxIndex α ι} (h : index.Placed) : index.IsFlat where
  shardOf_lt := shardOf_lt_shardCount h.grid_pos
  shardsCovering_lt := fun _ _ hn => lt_shardCount_of_mem_shardsCovering h.grid_pos hn
  shardOf_eq := h.shardOf_eq
  entries_eq := h.entries_eq
  query_eq := BoxIndex.query_eq h.grid_pos
  hits_eq := h.hits_eq
  pairwise_hits := h.pairwise_hits
  perm_insert := h.perm_insert
  perm_remove? := fun _ _ _ => h.perm_remove?
  remove?_eq_none_iff := fun _ _ => h.remove?_eq_none_iff
  perm_move := h.perm_move
  size_move := by
    intro oldBox oldItem box item
    obtain ⟨taken, kept, hbefore, hafter, hlength, -⟩ := h.perm_move oldBox oldItem box item
    have hbefore := hbefore.length_eq
    have hafter := hafter.length_eq
    rw [List.length_append] at hbefore
    rw [List.length_cons] at hafter
    unfold size
    by_cases hfound : (index.remove? oldBox oldItem).isSome = true
    · rw [if_pos hfound] at hlength ⊢
      omega
    · rw [if_neg hfound] at hlength ⊢
      omega

/-- **After every run the index is a flat list in shards**, over any scalars, **and in exact
arithmetic it is searched like one**. -/
theorem isFlat_run_and_scansExactly_run (grid : ℕ) :
    (∀ {α : Type} [Scalar α] (origin : Point α) (width height : α)
      (events : List (IndexEvent α ι)),
        ((empty origin width height grid).run events).IsFlat)
    ∧ ∀ (origin : Point ℝ) (width height : ℝ) (events : List (IndexEvent ℝ ι)),
        ((empty origin width height grid).run events).ScansExactly := by
  constructor
  · intro α _ origin width height events
    exact ((placed_empty origin width height grid).run events).isFlat
  · intro origin width height events
    have hplaced := (placed_empty origin width height grid).run events
    have hregular := (SameLayout.run _ events).regular (regular_empty origin width height grid)
    exact ⟨fun region entry => hplaced.mem_hits hregular,
      fun region reach => hplaced.filter_hits_expand hregular⟩

end Runs

end BoxIndex

end AgvDispatch
