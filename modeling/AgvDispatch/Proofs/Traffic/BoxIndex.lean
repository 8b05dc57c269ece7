import AgvDispatch.Proofs.Geometry.Skeleton
import AgvDispatch.Traffic.BoxIndex
/-!
# What the index finds

An entry that is filed stays where it is while other items are filed, moved and removed
(`BoxIndex.mem_shard_insert`, `BoxIndex.mem_shard_move`, `BoxIndex.mem_shard_remove?`). A query
looks into the shards of the cells that a region covers, and columns and rows ascend with the
coordinates; so it finds every entry whose box meets the region and is centred in it
(`BoxIndex.mem_query`).
-/

namespace AgvDispatch.BoxIndex

section

variable {α ι : Type}

/-! ### The layout of the cells -/

/-- Whether two indices divide the floor in the same way. -/
structure SameLayout (index index' : BoxIndex α ι) : Prop where
  /-- They have the same number of cells. -/
  grid_eq : index'.grid = index.grid
  /-- They begin at the same corner. -/
  origin_eq : index'.origin = index.origin
  /-- Their cells are of the same width. -/
  cellWidth_eq : index'.cellWidth = index.cellWidth
  /-- Their cells are of the same height. -/
  cellHeight_eq : index'.cellHeight = index.cellHeight

namespace SameLayout

theorem refl (index : BoxIndex α ι) : SameLayout index index := ⟨rfl, rfl, rfl, rfl⟩

theorem trans {a b c : BoxIndex α ι} (h : SameLayout a b) (h' : SameLayout b c) :
    SameLayout a c :=
  ⟨h'.1.trans h.1, h'.2.trans h.2, h'.3.trans h.3, h'.4.trans h.4⟩

variable [Scalar α]

theorem shardOf_eq {index index' : BoxIndex α ι} (h : SameLayout index index')
    (box : Envelope α) : index'.shardOf box = index.shardOf box := by
  unfold shardOf row column cell
  rw [h.grid_eq, h.origin_eq, h.cellWidth_eq, h.cellHeight_eq]

theorem insert (index : BoxIndex α ι) (box : Envelope α) (item : ι) :
    SameLayout index (index.insert box item) := ⟨rfl, rfl, rfl, rfl⟩

variable [BEq ι]

theorem of_remove? {index index' : BoxIndex α ι} {box : Envelope α} {item : ι}
    (hremove : index.remove? box item = some index') : SameLayout index index' := by
  obtain ⟨rest, -, rfl⟩ := Option.map_eq_some_iff.mp hremove
  exact ⟨rfl, rfl, rfl, rfl⟩

theorem remove? (index : BoxIndex α ι) (box : Envelope α) (item : ι) :
    SameLayout index ((index.remove? box item).getD index) := by
  cases hremove : index.remove? box item with
  | none => exact refl index
  | some index' => exact of_remove? hremove

theorem move (index : BoxIndex α ι) (old : Envelope α) (oldItem : ι) (box : Envelope α)
    (item : ι) : SameLayout index (index.move old oldItem box item) :=
  (remove? index old oldItem).trans (insert _ box item)

end SameLayout

section Cells

variable {index : BoxIndex α ι}

/-- Shards are numbered row by row. -/
theorem number_div_grid {c : ℕ} (hc : c < index.grid) (r : ℕ) :
    (r * index.grid + c) / index.grid = r := by
  rw [Nat.mul_comm, Nat.mul_add_div (Nat.zero_lt_of_lt hc), Nat.div_eq_of_lt hc, Nat.add_zero]

theorem number_mod_grid {c : ℕ} (hc : c < index.grid) (r : ℕ) :
    (r * index.grid + c) % index.grid = c := by
  rw [Nat.mul_comm, Nat.mul_add_mod, Nat.mod_eq_of_lt hc]

theorem lt_shardCount {r c : ℕ} (hr : r < index.grid) (hc : c < index.grid) :
    r * index.grid + c < index.shardCount :=
  calc r * index.grid + c < r * index.grid + index.grid := by omega
    _ = (r + 1) * index.grid := (Nat.succ_mul r index.grid).symm
    _ ≤ index.grid * index.grid := Nat.mul_le_mul_right _ hr

variable [Scalar α]

theorem cell_lt_grid (hgrid : 0 < index.grid) (origin extent x : α) :
    index.cell origin extent x < index.grid := by
  unfold cell
  omega

theorem column_lt_grid (hgrid : 0 < index.grid) (x : α) : index.column x < index.grid :=
  cell_lt_grid hgrid _ _ x

theorem row_lt_grid (hgrid : 0 < index.grid) (y : α) : index.row y < index.grid :=
  cell_lt_grid hgrid _ _ y

theorem shardOf_div_grid (hgrid : 0 < index.grid) (box : Envelope α) :
    index.shardOf box / index.grid = index.row box.centre.y :=
  number_div_grid (column_lt_grid hgrid _) _

theorem shardOf_mod_grid (hgrid : 0 < index.grid) (box : Envelope α) :
    index.shardOf box % index.grid = index.column box.centre.x :=
  number_mod_grid (column_lt_grid hgrid _) _

theorem shardOf_lt_shardCount (hgrid : 0 < index.grid) (box : Envelope α) :
    index.shardOf box < index.shardCount :=
  lt_shardCount (row_lt_grid hgrid _) (column_lt_grid hgrid _)

end Cells

/-! ### Shards -/

section Insert

variable [Scalar α]

theorem shard_insert (index : BoxIndex α ι) (box : Envelope α) (item : ι) (n : ℕ) :
    (index.insert box item).shard n
      = if index.shardOf box = n then index.shard n ++ [⟨box, item⟩] else index.shard n := by
  unfold shard insert
  simp only [Std.TreeMap.get?_eq_getElem?, Std.TreeMap.getElem?_insert, Nat.compare_eq_eq]
  split
  · rename_i h
    rw [← h]
    rfl
  · rfl

theorem mem_shard_insert {index : BoxIndex α ι} {entry : BoxEntry α ι} {n : ℕ}
    (h : entry ∈ index.shard n) (box : Envelope α) (item : ι) :
    entry ∈ (index.insert box item).shard n := by
  rw [shard_insert]
  split
  · exact List.mem_append_left _ h
  · exact h

theorem mem_shard_insert_self (index : BoxIndex α ι) (box : Envelope α) (item : ι) :
    ⟨box, item⟩ ∈ (index.insert box item).shard (index.shardOf box) := by
  rw [shard_insert, if_pos rfl]
  exact List.mem_append_right _ (List.mem_singleton_self _)

end Insert

variable [BEq ι]

theorem mem_shard_move_self [Scalar α] (index : BoxIndex α ι) (old : Envelope α) (oldItem : ι)
    (box : Envelope α) (item : ι) :
    ⟨box, item⟩ ∈ (index.move old oldItem box item).shard (index.shardOf box) := by
  rw [← (SameLayout.remove? index old oldItem).shardOf_eq box]
  exact mem_shard_insert_self _ box item

/-- Taking an item out of a shard takes out one of its entries; only the order may change besides.
-/
theorem perm_of_takeOut? {item : ι} {entries rest : List (BoxEntry α ι)}
    (h : takeOut? item entries = some rest) :
    ∃ entry : BoxEntry α ι, (entry.item == item) = true ∧ entries.Perm (entry :: rest) := by
  induction entries generalizing rest with
  | nil => simp [takeOut?] at h
  | cons e entries ih =>
    unfold takeOut? at h
    by_cases he : (e.item == item) = true
    · rw [if_pos he] at h
      refine ⟨e, he, List.Perm.cons e ?_⟩
      -- The last entry takes the place of the one that is taken out.
      cases hlast : entries.getLast? with
      | none =>
        rw [hlast, Option.some.injEq] at h
        rw [List.getLast?_eq_none_iff.mp hlast, ← h]
      | some last =>
        rw [hlast, Option.some.injEq] at h
        have hsplit := List.dropLast_append_getLast? last hlast
        rw [← h]
        nth_rewrite 1 [← hsplit]
        exact List.perm_append_singleton _ _
    · rw [if_neg he] at h
      obtain ⟨rest', hrest', rfl⟩ := Option.map_eq_some_iff.mp h
      obtain ⟨entry, hentry, hperm⟩ := ih hrest'
      exact ⟨entry, hentry, (List.Perm.cons e hperm).trans (List.Perm.swap entry e rest')⟩

theorem takeOut?_eq_none_iff {item : ι} {entries : List (BoxEntry α ι)} :
    takeOut? item entries = none ↔ ∀ entry ∈ entries, ¬ (entry.item == item) = true := by
  induction entries with
  | nil => simp [takeOut?]
  | cons entry entries ih =>
    rw [List.forall_mem_cons, ← ih, takeOut?]
    by_cases hentry : (entry.item == item) = true
    · rw [if_pos hentry]
      cases entries.getLast? <;> simp [hentry]
    · rw [if_neg hentry, Option.map_eq_none_iff]
      exact ⟨fun hrest => ⟨hentry, hrest⟩, fun h => h.2⟩

variable [Scalar α]

/-- Removing an item takes one of its entries out of the shard of the box, and leaves the other
shards as they are. -/
theorem shard_remove? {index index' : BoxIndex α ι} {box : Envelope α} {item : ι}
    (hremove : index.remove? box item = some index') :
    (∃ entry : BoxEntry α ι, (entry.item == item) = true
      ∧ (index.shard (index.shardOf box)).Perm (entry :: index'.shard (index.shardOf box)))
    ∧ ∀ n, n ≠ index.shardOf box → index'.shard n = index.shard n := by
  obtain ⟨rest, hrest, rfl⟩ := Option.map_eq_some_iff.mp hremove
  refine ⟨?_, fun n hn => ?_⟩
  · obtain ⟨entry, hitem, hperm⟩ := perm_of_takeOut? hrest
    refine ⟨entry, hitem, ?_⟩
    simpa [shard] using hperm
  · simp [shard, Std.TreeMap.getElem?_insert, hn.symm]

/-- An item is not removed only if the shard of the box does not hold it. -/
theorem remove?_eq_none_iff {index : BoxIndex α ι} {box : Envelope α} {item : ι} :
    index.remove? box item = none
      ↔ ∀ entry ∈ index.shard (index.shardOf box), ¬ (entry.item == item) = true := by
  rw [← takeOut?_eq_none_iff]
  exact Option.map_eq_none_iff

variable [LawfulBEq ι]

/-- Removing an item leaves the entries of the other ones in their shards. -/
theorem mem_shard_remove? {index index' : BoxIndex α ι} {box : Envelope α} {item : ι}
    (hremove : index.remove? box item = some index') {entry : BoxEntry α ι} {n : ℕ}
    (h : entry ∈ index.shard n) (hne : entry.item ≠ item) : entry ∈ index'.shard n := by
  obtain ⟨⟨taken, htaken, hperm⟩, hothers⟩ := shard_remove? hremove
  by_cases hn : n = index.shardOf box
  · subst hn
    obtain rfl | hmem := List.mem_cons.mp (hperm.mem_iff.mp h)
    · exact absurd (eq_of_beq htaken) hne
    · exact hmem
  · rw [hothers n hn]
    exact h

theorem mem_shard_getD_remove? {index : BoxIndex α ι} {entry : BoxEntry α ι} {n : ℕ}
    (h : entry ∈ index.shard n) (box : Envelope α) {item : ι} (hne : entry.item ≠ item) :
    entry ∈ ((index.remove? box item).getD index).shard n := by
  cases hremove : index.remove? box item with
  | none => exact h
  | some index' => exact mem_shard_remove? hremove h hne

/-- Moving an item leaves the entries of the other ones in their shards. -/
theorem mem_shard_move {index : BoxIndex α ι} {entry : BoxEntry α ι} {n : ℕ}
    (h : entry ∈ index.shard n) {oldItem : ι} (hne : entry.item ≠ oldItem) (old box : Envelope α)
    (item : ι) : entry ∈ (index.move old oldItem box item).shard n :=
  mem_shard_insert (mem_shard_getD_remove? h old hne) box item

end

/-! ### Queries -/

section

variable {ι : Type}

/-- Whether an index has a cell and its cells have an extent. -/
structure Regular (index : BoxIndex ℝ ι) : Prop where
  /-- There is a cell. -/
  grid_pos : 0 < index.grid
  /-- The cells are not flat on the first axis. -/
  cellWidth_pos : 0 < index.cellWidth
  /-- The cells are not flat on the second axis. -/
  cellHeight_pos : 0 < index.cellHeight

theorem SameLayout.regular {index index' : BoxIndex ℝ ι} (h : SameLayout index index')
    (hregular : index.Regular) : index'.Regular :=
  ⟨h.grid_eq ▸ hregular.grid_pos, h.cellWidth_eq ▸ hregular.cellWidth_pos,
    h.cellHeight_eq ▸ hregular.cellHeight_pos⟩

/-- An empty index over any floor is regular: missing cells and extents are made up for. -/
theorem regular_empty (origin : Point ℝ) (width height : ℝ) (grid : ℕ) :
    (empty origin width height grid : BoxIndex ℝ ι).Regular := by
  have hgrid : (0 : ℝ) < ((max grid 1 : ℕ) : ℝ) := by
    exact_mod_cast lt_max_of_lt_right Nat.zero_lt_one
  have hextent : ∀ x : ℝ, 0 < if 0 < x then x else (fallbackExtent : ℝ) := by
    intro x
    split
    · assumption
    · exact Nat.cast_pos.mpr (by norm_num)
  exact ⟨lt_max_of_lt_right Nat.zero_lt_one, div_pos (hextent width) hgrid,
    div_pos (hextent height) hgrid⟩

/-- Cells ascend with the coordinates. -/
theorem cell_le_cell (index : BoxIndex ℝ ι) (origin : ℝ) {extent x y : ℝ} (hextent : 0 < extent)
    (h : x ≤ y) : index.cell origin extent x ≤ index.cell origin extent y := by
  unfold cell
  apply Int.toNat_le_toNat
  apply max_le_max le_rfl
  apply min_le_min _ le_rfl
  exact Int.floor_le_floor (div_le_div_of_nonneg_right (sub_le_sub_right h origin) hextent.le)

/-- A region covers the shard of each box that is centred in it. -/
theorem covers_shardOf {index : BoxIndex ℝ ι} (hregular : index.Regular)
    {region box : Envelope ℝ} (h : region.contains box.centre = true) :
    index.covers region (index.shardOf box) = true := by
  rw [Envelope.contains_iff] at h
  obtain ⟨⟨hx₀, hx₁⟩, hy₀, hy₁⟩ := h
  unfold covers
  simp only [shardOf_div_grid hregular.grid_pos, shardOf_mod_grid hregular.grid_pos,
    Bool.and_eq_true, decide_eq_true_eq]
  exact ⟨⟨⟨index.cell_le_cell _ hregular.cellHeight_pos hy₀,
    index.cell_le_cell _ hregular.cellHeight_pos hy₁⟩,
    index.cell_le_cell _ hregular.cellWidth_pos hx₀⟩,
    index.cell_le_cell _ hregular.cellWidth_pos hx₁⟩

/-- **A query finds what meets the region and is centred in it.** -/
theorem mem_query {index : BoxIndex ℝ ι} (hregular : index.Regular) {region box : Envelope ℝ}
    {item : ι} (hfiled : ⟨box, item⟩ ∈ index.shard (index.shardOf box))
    (hmeets : box.intersects region = true) (hcentre : region.contains box.centre = true) :
    item ∈ index.query region := by
  unfold query
  unfold shard at hfiled
  cases hshard : index.shards.get? (index.shardOf box) with
  | none =>
    rw [hshard] at hfiled
    exact absurd hfiled List.not_mem_nil
  | some entries =>
    rw [hshard, Option.getD_some] at hfiled
    refine List.mem_flatMap.mpr
      ⟨(index.shardOf box, entries), Std.TreeMap.mem_toList_iff_getElem?_eq_some.mpr hshard, ?_⟩
    simp only
    rw [if_pos (covers_shardOf hregular hcentre)]
    exact List.mem_map.mpr ⟨⟨box, item⟩, List.mem_filter.mpr ⟨hfiled, hmeets⟩, rfl⟩

end

end AgvDispatch.BoxIndex
