import AgvDispatch.Proofs.Traffic.BroadPhase
import AgvDispatch.Proofs.Traffic.Scan
/-!
# The vehicles in a region

`Traffic.vehiclesIn` finds the vehicles of a map whose footprint meets a region. A footprint is
filed in the cell of its centre, so the region is widened by the largest radius that is registered
on the map before the index is asked.

* What is found is there, and it is listed once, in ascending order
  (`Traffic.mem_vehiclesIn_iff_query`, `Traffic.pairwise_vehiclesIn`). No assumption on scalars
  enters.
* What is there need not be found. A footprint is the square around the last report, with the
  radius that was reported then (`TrafficControl.get?_footprints_run`), while the region is widened
  by the radii that are registered now. Where the former exceeds the latter, a footprint may reach
  out of its cell into a region whose widening does not come near its centre.
* In exact arithmetic nothing is missed in any region exactly if no footprint, less the width of the
  widening, leaves the cell of its centre (`Traffic.answersExactly_iff`).
-/

namespace AgvDispatch

/-! ### Queries of the index -/

namespace BoxIndex

variable {α ι : Type}

/-- Whether a box leaves the row and the column of its centre on no side. -/
structure Fits [Scalar α] (index : BoxIndex α ι) (box : Envelope α) : Prop where
  west : index.column box.centre.x ≤ index.column box.minX
  east : index.column box.maxX ≤ index.column box.centre.x
  south : index.row box.centre.y ≤ index.row box.minY
  north : index.row box.maxY ≤ index.row box.centre.y

section Filed

variable [Scalar α] {index : BoxIndex α ι} {find : ι → Option (Envelope α)}

theorem spans_iff {region box : Envelope α} : index.spans region box = true ↔
    (index.row region.minY ≤ index.row box.centre.y
      ∧ index.row box.centre.y ≤ index.row region.maxY)
    ∧ index.column region.minX ≤ index.column box.centre.x
      ∧ index.column box.centre.x ≤ index.column region.maxX := by
  simp only [spans, Bool.and_eq_true, decide_eq_true_eq, and_assoc]

theorem Files.placed (h : index.Files find) (hgrid : 0 < index.grid) : index.Placed :=
  ⟨hgrid, fun n entry hentry => ((h.mem_shard_iff n entry).mp hentry).2⟩

/-- A query finds the items of the table whose boxes meet the region and are centred in a cell of
its rows and columns. -/
theorem Files.mem_query_iff (h : index.Files find) (hgrid : 0 < index.grid) {region : Envelope α}
    {item : ι} : item ∈ index.query region ↔ ∃ box, find item = some box
      ∧ box.intersects region = true ∧ index.spans region box = true := by
  rw [query_eq hgrid, (h.placed hgrid).hits_eq, List.mem_map]
  constructor
  · rintro ⟨entry, hentry, rfl⟩
    rw [List.mem_filter, Bool.and_eq_true, h.mem_entries_iff] at hentry
    exact ⟨entry.box, hentry⟩
  · rintro ⟨box, hfound, hboth⟩
    refine ⟨⟨box, item⟩, ?_, rfl⟩
    rw [List.mem_filter, Bool.and_eq_true, h.mem_entries_iff]
    exact ⟨hfound, hboth⟩

/-- A query finds no item twice. -/
theorem Files.nodup_query (h : index.Files find) (hgrid : 0 < index.grid) (region : Envelope α) :
    (index.query region).Nodup := by
  rw [query_eq hgrid, (h.placed hgrid).hits_eq]
  refine List.Nodup.map_on (fun entry hentry entry' hentry' hitem => ?_)
    (h.nodup_entries.filter _)
  -- The table tells the box of an item.
  have hbox := h.mem_entries_iff.mp (List.mem_of_mem_filter hentry)
  have hbox' := h.mem_entries_iff.mp (List.mem_of_mem_filter hentry')
  rw [hitem, hbox', Option.some.injEq] at hbox
  obtain ⟨box, item⟩ := entry
  obtain ⟨box', item'⟩ := entry'
  rw [BoxEntry.mk.injEq]
  exact ⟨hbox.symm, hitem⟩

end Filed

end BoxIndex

/-! ### Squares and cells -/

theorem Envelope.around_eq (p : Point ℝ) (radius : ℝ) : Envelope.around p radius
    = ⟨p.x - radius, p.x + radius, p.y - radius, p.y + radius⟩ := by
  simp only [around, ofPoint, ofBounds, expand, min_self, max_self]

/-- The points of a square are on neither axis farther from its centre than its half-width. -/
theorem Envelope.contains_around_iff {p q : Point ℝ} {radius : ℝ} :
    (around p radius).contains q = true ↔ |q.x - p.x| ≤ radius ∧ |q.y - p.y| ≤ radius := by
  rw [contains_iff, around_eq, abs_sub_le_iff, abs_sub_le_iff]
  simp only [sub_le_iff_le_add, and_comm, add_comm]

theorem Envelope.intersects_ofPoint {e : Envelope ℝ} {p : Point ℝ} (h : e.contains p = true) :
    e.intersects (ofPoint p) = true := by
  rw [contains_iff] at h
  rw [intersects_iff]
  simp only [ofPoint, ofBounds, min_self, max_self]
  exact ⟨⟨h.1.2, h.1.1⟩, h.2.2, h.2.1⟩

namespace BoxIndex

variable {ι : Type} {index : BoxIndex ℝ ι}

theorem column_le_column (hregular : index.Regular) {x x' : ℝ} (h : x ≤ x') :
    index.column x ≤ index.column x' :=
  index.cell_le_cell _ hregular.cellWidth_pos h

theorem row_le_row (hregular : index.Regular) {y y' : ℝ} (h : y ≤ y') :
    index.row y ≤ index.row y' :=
  index.cell_le_cell _ hregular.cellHeight_pos h

theorem fits_around_iff {p : Point ℝ} {d : ℝ} : index.Fits (Envelope.around p d) ↔
    (index.column p.x ≤ index.column (p.x - d) ∧ index.column (p.x + d) ≤ index.column p.x)
    ∧ index.row p.y ≤ index.row (p.y - d) ∧ index.row (p.y + d) ≤ index.row p.y := by
  have hcentre := Traffic.centre_around p d
  have hbox := Envelope.around_eq p d
  constructor
  · rintro ⟨hwest, heast, hsouth, hnorth⟩
    rw [hcentre, hbox] at hwest heast hsouth hnorth
    exact ⟨⟨hwest, heast⟩, hsouth, hnorth⟩
  · rintro ⟨⟨hwest, heast⟩, hsouth, hnorth⟩
    refine ⟨?_, ?_, ?_, ?_⟩ <;> rw [hcentre, hbox] <;> assumption

/-- A square without extent fits anywhere. -/
theorem fits_around_of_nonpos (hregular : index.Regular) (p : Point ℝ) {d : ℝ} (h : d ≤ 0) :
    index.Fits (Envelope.around p d) :=
  fits_around_iff.mpr
    ⟨⟨column_le_column hregular (by linarith), column_le_column hregular (by linarith)⟩,
      row_le_row hregular (by linarith), row_le_row hregular (by linarith)⟩

/-- A square that fits less the width of the widening is in reach of every region that it meets. -/
theorem Fits.spans_expand (hregular : index.Regular) {p : Point ℝ} {radius reach : ℝ}
    (h : index.Fits (Envelope.around p (radius - reach))) {region : Envelope ℝ}
    (hmeets : (Envelope.around p radius).intersects region = true) :
    index.spans (region.expand reach) (Envelope.around p radius) = true := by
  obtain ⟨⟨hwest, heast⟩, hsouth, hnorth⟩ := fits_around_iff.mp h
  rw [Envelope.intersects_iff, Envelope.around_eq] at hmeets
  obtain ⟨⟨hx, hx'⟩, hy, hy'⟩ := hmeets
  simp only at hx hx' hy hy'
  rw [spans_iff, Traffic.centre_around]
  simp only [Envelope.expand]
  refine ⟨⟨?_, ?_⟩, ?_, ?_⟩
  · exact (row_le_row hregular (by linarith)).trans hnorth
  · exact hsouth.trans (row_le_row hregular (by linarith))
  · exact (column_le_column hregular (by linarith)).trans heast
  · exact hwest.trans (column_le_column hregular (by linarith))

/-- A square whose points are all in reach of their own widening fits less its width. -/
theorem fits_of_forall_spans (hregular : index.Regular) {p : Point ℝ} {radius reach : ℝ}
    (hreach : 0 ≤ reach) (h : ∀ q, (Envelope.around p radius).contains q = true →
      index.spans ((Envelope.ofPoint q).expand reach) (Envelope.around p radius) = true) :
    index.Fits (Envelope.around p (radius - reach)) := by
  rcases le_total radius reach with hle | hle
  · exact fits_around_of_nonpos hregular p (sub_nonpos.mpr hle)
  · have hradius : 0 ≤ radius := hreach.trans hle
    have hspans : ∀ q : Point ℝ, |q.x - p.x| ≤ radius ∧ |q.y - p.y| ≤ radius →
        (index.row (q.y - reach) ≤ index.row p.y ∧ index.row p.y ≤ index.row (q.y + reach))
        ∧ index.column (q.x - reach) ≤ index.column p.x
          ∧ index.column p.x ≤ index.column (q.x + reach) := by
      intro q hq
      have hboth := spans_iff.mp (h q (Envelope.contains_around_iff.mpr hq))
      rw [Traffic.centre_around] at hboth
      simpa only [Envelope.expand, Envelope.ofPoint, Envelope.ofBounds, min_self, max_self]
        using hboth
    -- The middles of the four sides are the points farthest from the centre on one axis.
    have hwest := (hspans ⟨p.x - radius, p.y⟩ (by simp [abs_of_nonneg, hradius])).2.2
    have heast := (hspans ⟨p.x + radius, p.y⟩ (by simp [abs_of_nonneg, hradius])).2.1
    have hsouth := (hspans ⟨p.x, p.y - radius⟩ (by simp [abs_of_nonneg, hradius])).1.2
    have hnorth := (hspans ⟨p.x, p.y + radius⟩ (by simp [abs_of_nonneg, hradius])).1.1
    rw [fits_around_iff, ← sub_add, ← add_sub_assoc, ← sub_add, ← add_sub_assoc]
    exact ⟨⟨hwest, heast⟩, hsouth, hnorth⟩

end BoxIndex

/-! ### What is found in a region -/

namespace Traffic

section

variable {α : Type} [Scalar α]

/-- Whether a vehicle is registered on a map and tracked with a footprint that meets a region. -/
structure Meets (t : Traffic α) (registry : Registry α) (mapId : Int) (region : Envelope α)
    (id : String) : Prop where
  registered : ∃ v, registry.get? id = some v ∧ v.mapId = mapId
  tracked : ∃ box, t.footprints.get? id = some box ∧ box.intersects region = true

variable {t : Traffic α} {registry : Registry α} {mapId : Int} {region : Envelope α}

omit [Scalar α] in
theorem any_onMap_iff {id : String} : ((registry.get? id).any (·.mapId == mapId)) = true
    ↔ ∃ v, registry.get? id = some v ∧ v.mapId = mapId := by
  rw [Option.any_eq_true]
  simp only [beq_iff_eq]

theorem pairwise_vehiclesIn (t : Traffic α) (registry : Registry α) (mapId : Int)
    (region : Envelope α) : (t.vehiclesIn registry mapId region).Pairwise (· < ·) := by
  unfold vehiclesIn
  refine List.Pairwise.sublist (List.filter_sublist.map _) ?_
  rw [Std.TreeMap.map_fst_toList_eq_keys]
  exact t.footprints.ordered_keys.imp compareOfLessAndEq_eq_lt.mp

/-- The vehicles that are found are those whose footprint meets the region and that the widened
query finds. -/
theorem mem_vehiclesIn_iff_query {id : String} : id ∈ t.vehiclesIn registry mapId region ↔
    t.Meets registry mapId region id
      ∧ id ∈ t.index.query (region.expand (reach (registry.onMap mapId))) := by
  unfold vehiclesIn
  rw [List.mem_map]
  constructor
  · rintro ⟨⟨id', box⟩, hrow, rfl⟩
    rw [List.mem_filter, Bool.and_eq_true, Bool.and_eq_true, List.contains_iff_mem,
      any_onMap_iff] at hrow
    obtain ⟨hfound, ⟨hquery, hmeets⟩, hregistered⟩ := hrow
    exact ⟨⟨hregistered, box, Std.TreeMap.mem_toList_iff_getElem?_eq_some.mp hfound, hmeets⟩,
      hquery⟩
  · rintro ⟨⟨hregistered, box, hfound, hmeets⟩, hquery⟩
    refine ⟨(id, box), ?_, rfl⟩
    rw [List.mem_filter, Bool.and_eq_true, Bool.and_eq_true, List.contains_iff_mem, any_onMap_iff]
    exact ⟨Std.TreeMap.mem_toList_iff_getElem?_eq_some.mpr hfound, ⟨hquery, hmeets⟩, hregistered⟩

/-- **The list is what the widened query finds**, less the vehicles of other maps and those whose
footprint does not meet the region itself, and sorted. The query finds no vehicle twice. -/
theorem Coupled.perm_vehiclesIn (h : t.Coupled) (registry : Registry α) (mapId : Int)
    (region : Envelope α) : (t.vehiclesIn registry mapId region).Perm
      ((t.index.query (region.expand (reach (registry.onMap mapId)))).filter fun id =>
        (registry.get? id).any (·.mapId == mapId)
          && (t.footprints.get? id).any (·.intersects region)) := by
  have hnodup : (t.vehiclesIn registry mapId region).Nodup :=
    (pairwise_vehiclesIn t registry mapId region).imp String.ne_of_lt
  rw [List.perm_ext_iff_of_nodup hnodup ((h.files.nodup_query h.grid_pos _).filter _)]
  intro id
  rw [mem_vehiclesIn_iff_query, List.mem_filter, Bool.and_eq_true, any_onMap_iff,
    Option.any_eq_true]
  exact ⟨fun ⟨hmeets, hquery⟩ => ⟨hquery, hmeets.registered, hmeets.tracked⟩,
    fun ⟨hquery, hregistered, htracked⟩ => ⟨⟨hregistered, htracked⟩, hquery⟩⟩

end

section Exact

theorem reach_le {vs : List (Vehicle ℝ)} {bound : ℝ} (hbound : 0 ≤ bound)
    (h : ∀ v ∈ vs, v.radius ≤ bound) : reach vs ≤ bound :=
  List.foldlRecOn (motive := (· ≤ bound)) vs _ hbound fun _ hr v hv => max_le hr (h v hv)

variable {t : Traffic ℝ} {registry : Registry ℝ} {mapId : Int} {region : Envelope ℝ}

/-- **Which vehicles are found**: those that meet the region and have their footprint centred in a
cell of the rows and columns that the widened region spans. -/
theorem mem_vehiclesIn (h : t.Coupled) {id : String} :
    id ∈ t.vehiclesIn registry mapId region ↔ t.Meets registry mapId region id
      ∧ ∀ box, t.footprints.get? id = some box →
        t.index.spans (region.expand (reach (registry.onMap mapId))) box = true := by
  rw [mem_vehiclesIn_iff_query, h.files.mem_query_iff h.grid_pos]
  refine and_congr_right fun hmeets => ?_
  constructor
  · rintro ⟨box, hfound, -, hspans⟩ box' hfound'
    rw [hfound, Option.some.injEq] at hfound'
    rw [← hfound']
    exact hspans
  · intro hspans
    obtain ⟨box, hfound, hmeets⟩ := hmeets.tracked
    exact ⟨box, hfound, BoxIndex.intersects_expand hmeets (reach_nonneg _), hspans box hfound⟩

/-- **Whether the vehicles that meet a region are found in every region of a map.** -/
def AnswersExactly (t : Traffic ℝ) (registry : Registry ℝ) (mapId : Int) : Prop :=
  ∀ region : Envelope ℝ, region.minX ≤ region.maxX → region.minY ≤ region.maxY →
    ∀ id, id ∈ t.vehiclesIn registry mapId region ↔ t.Meets registry mapId region id

/-- Whether the footprints of the vehicles of a map are squares that do not leave the cells of their
centres once the largest radius registered on the map is taken off them. -/
def Confined (t : Traffic ℝ) (registry : Registry ℝ) (mapId : Int) : Prop :=
  ∀ id p radius, (∃ v, registry.get? id = some v ∧ v.mapId = mapId) →
    t.footprints.get? id = some (Envelope.around p radius) →
    t.index.Fits (Envelope.around p (radius - reach (registry.onMap mapId)))

/-- **Nothing is missed exactly if no footprint leaves its cell by more than the widening.** -/
theorem answersExactly_iff (h : t.Coupled) (hregular : t.index.Regular)
    (hsquares : ∀ id box, t.footprints.get? id = some box →
      ∃ p radius, box = Envelope.around p radius) :
    t.AnswersExactly registry mapId ↔ t.Confined registry mapId := by
  constructor
  · intro hexact id p radius hregistered hfound
    refine BoxIndex.fits_of_forall_spans hregular (reach_nonneg _) fun q hq => ?_
    -- A region may be a single point of the footprint.
    have hmeets : t.Meets registry mapId (Envelope.ofPoint q) id :=
      ⟨hregistered, _, hfound, Envelope.intersects_ofPoint hq⟩
    have hmem := (hexact (Envelope.ofPoint q) min_le_max min_le_max id).mpr hmeets
    exact ((mem_vehiclesIn h).mp hmem).2 _ hfound
  · intro hconfined region _ _ id
    rw [mem_vehiclesIn h]
    refine and_iff_left_of_imp fun hmeets box hfound => ?_
    obtain ⟨p, radius, rfl⟩ := hsquares id box hfound
    obtain ⟨box', hfound', hmeets'⟩ := hmeets.tracked
    rw [hfound, Option.some.injEq] at hfound'
    exact (hconfined id p radius hmeets.registered hfound).spans_expand hregular (hfound' ▸ hmeets')

theorem confined_of_radius_le (hregular : t.index.Regular)
    (h : ∀ id p radius, (∃ v, registry.get? id = some v ∧ v.mapId = mapId) →
      t.footprints.get? id = some (Envelope.around p radius) →
      radius ≤ reach (registry.onMap mapId)) : t.Confined registry mapId :=
  fun id p radius hregistered hfound =>
    BoxIndex.fits_around_of_nonpos hregular p (sub_nonpos.mpr (h id p radius hregistered hfound))

end Exact

end Traffic

/-! ### Runs -/

/-- The footprint that an event leaves a vehicle with, given the one it had. -/
def TrafficEvent.footprint {α : Type} [Scalar α] (id : String) (box : Option (Envelope α)) :
    TrafficEvent α → Option (Envelope α)
  | .track other position radius => if other = id then some (.around position radius) else box
  | .release other => if other = id then none else box
  | _ => box

/-- The footprint of a vehicle after a sequence of events: the square around its last report, if it
has not been released since. -/
def lastFootprint {α : Type} [Scalar α] (id : String) (events : List (TrafficEvent α)) :
    Option (Envelope α) :=
  events.foldl (TrafficEvent.footprint id) none

/-- A footprint is left as it was, or it is the one that the event reports. -/
theorem TrafficEvent.eq_track_of_footprint {α : Type} [Scalar α] {id : String}
    {last : Option (Envelope α)} {event : TrafficEvent α} {box : Envelope α}
    (h : event.footprint id last = some box) :
    last = some box ∨ ∃ p radius, event = .track id p radius ∧ box = .around p radius := by
  cases event with
  | track other p radius =>
    change (if other = id then some (Envelope.around p radius) else last) = some box at h
    split at h
    · rename_i heq
      exact Or.inr ⟨p, radius, by rw [heq], (Option.some.inj h).symm⟩
    · exact Or.inl h
  | release other =>
    change (if other = id then none else last) = some box at h
    split at h
    · cases h
    · exact Or.inl h
  | upsert v => exact Or.inl h
  | modify other change => exact Or.inl h
  | erase other => exact Or.inl h
  | reserve other route buffer => exact Or.inl h

/-- What a vehicle is tracked with was reported for it. -/
theorem exists_track_of_lastFootprint {α : Type} [Scalar α] {id : String}
    {events : List (TrafficEvent α)} {box : Envelope α} (h : lastFootprint id events = some box) :
    ∃ p radius, .track id p radius ∈ events ∧ box = .around p radius := by
  unfold lastFootprint at h
  have hfold : ∀ box, events.foldl (TrafficEvent.footprint id) none = some box →
      ∃ p radius, .track id p radius ∈ events ∧ box = .around p radius :=
    List.foldlRecOn (motive := fun last => ∀ box, last = some box →
        ∃ p radius, .track id p radius ∈ events ∧ box = .around p radius) events
      (TrafficEvent.footprint id) (fun box hnone => by cases hnone)
      fun last ih event hevent box hbox => by
        obtain hlast | ⟨p, radius, heq, hbox'⟩ := TrafficEvent.eq_track_of_footprint hbox
        · exact ih box hlast
        · exact ⟨p, radius, heq ▸ hevent, hbox'⟩
  exact hfold box h

theorem Traffic.get?_footprints_track (t : Traffic ℝ) (id : String) (position : Point ℝ)
    (radius : ℝ) : (t.track id position radius).footprints.get? id
      = some (.around position radius) := by
  unfold Traffic.track
  cases hold : t.footprints.get? id with
  | none => simp
  | some old =>
    simp only
    split
    · rename_i heq
      rw [hold, eq_of_beq heq]
    · simp

namespace TrafficControl

theorem get?_footprints_step (c : TrafficControl ℝ) (event : TrafficEvent ℝ) (id : String) :
    (c.step event).traffic.footprints.get? id
      = event.footprint id (c.traffic.footprints.get? id) := by
  cases event with
  | upsert v => rfl
  | modify other change => rfl
  | erase other => rfl
  | reserve other route buffer =>
    exact congrArg (fun boxes => boxes.get? id)
      (Traffic.footprints_reserve c.traffic c.network other route buffer)
  | track other position radius =>
    show (c.traffic.track other position radius).footprints.get? id = if other = id then _ else _
    split
    · rename_i heq
      rw [← heq]
      exact c.traffic.get?_footprints_track other position radius
    · rename_i hne
      exact c.traffic.get?_footprints_track_of_ne hne position radius
  | release other => exact c.traffic.get?_footprints_release other id

/-- **The footprint of a vehicle is the square around its last report.** -/
theorem get?_footprints_run (floor : FloorSettings ℝ) (registry : Registry ℝ) (n : Network ℝ)
    (events : List (TrafficEvent ℝ)) (id : String) :
    ((start floor registry n).run events).traffic.footprints.get? id = lastFootprint id events := by
  have hfold : ∀ c : TrafficControl ℝ, (c.run events).traffic.footprints.get? id
      = events.foldl (TrafficEvent.footprint id) (c.traffic.footprints.get? id) := by
    induction events with
    | nil => exact fun c => rfl
    | cons event later ih =>
      intro c
      rw [List.foldl_cons, ← get?_footprints_step]
      exact ih (c.step event)
  rw [hfold]
  simp [start, Traffic.ofIndex, lastFootprint]

theorem sameLayout_step {α : Type} [Scalar α] (c : TrafficControl α) (event : TrafficEvent α) :
    c.traffic.index.SameLayout (c.step event).traffic.index := by
  cases event with
  | upsert v => exact .refl _
  | modify id change => exact .refl _
  | erase id => exact .refl _
  | reserve id route buffer =>
    show BoxIndex.SameLayout _ (c.traffic.reserve c.network id route buffer).2.index
    rw [Traffic.index_reserve]
    exact .refl _
  | track id p radius =>
    show BoxIndex.SameLayout _ (c.traffic.track id p radius).index
    unfold Traffic.track
    cases c.traffic.footprints.get? id with
    | none => exact .insert _ _ _
    | some old =>
      simp only
      split
      · exact .refl _
      · exact .move _ _ _ _ _
  | release id =>
    show BoxIndex.SameLayout _ (c.traffic.release id).index
    unfold Traffic.release
    simp only [Traffic.footprints_dropReservation, Traffic.index_dropReservation]
    cases c.traffic.footprints.get? id with
    | none => exact .refl _
    | some old => exact .remove? _ _ _

theorem sameLayout_run {α : Type} [Scalar α] (c : TrafficControl α)
    (events : List (TrafficEvent α)) :
    c.traffic.index.SameLayout (c.run events).traffic.index :=
  invariant_run (I := fun c' => c.traffic.index.SameLayout c'.traffic.index)
    (fun c' event h => h.trans (sameLayout_step c' event)) (.refl _) events

/-- **What a query of the vehicles in a region gives.** -/
structure AnswersRegions (c : TrafficControl ℝ) (floor : FloorSettings ℝ)
    (events : List (TrafficEvent ℝ)) : Prop where
  /-- The cells are those of the floor. -/
  layout : BoxIndex.SameLayout floor.index c.traffic.index
  /-- A footprint is the square around the last report. -/
  footprints_eq : ∀ id, c.traffic.footprints.get? id = lastFootprint id events
  /-- The answer is in ascending order of the ids, without repetition. -/
  pairwise_lt : ∀ mapId region,
    (c.traffic.vehiclesIn c.registry mapId region).Pairwise (· < ·)
  /-- It is put together from what the index finds in the widened region. -/
  perm_query : ∀ mapId region, (c.traffic.vehiclesIn c.registry mapId region).Perm
    ((c.traffic.index.query (region.expand (Traffic.reach (c.registry.onMap mapId)))).filter
      fun id => (c.registry.get? id).any (·.mapId == mapId)
        && (c.traffic.footprints.get? id).any (·.intersects region))
  /-- It holds only vehicles that are tracked and registered on the map and whose footprint meets
  the region: those that are centred in a cell of the rows and columns of the widened region. -/
  mem_iff : ∀ mapId region id, id ∈ c.traffic.vehiclesIn c.registry mapId region ↔
    c.traffic.Meets c.registry mapId region id
      ∧ ∀ box, c.traffic.footprints.get? id = some box →
        c.traffic.index.spans (region.expand (Traffic.reach (c.registry.onMap mapId))) box = true
  /-- It holds all that meet the region, for every region, exactly if no footprint leaves its cell
  by more than the widening. -/
  exact_iff : ∀ mapId,
    c.traffic.AnswersExactly c.registry mapId ↔ c.traffic.Confined c.registry mapId
  /-- So it does as long as no vehicle of the map was last reported with a radius that exceeds all
  radii registered there. -/
  exact_of_radius_le : ∀ mapId,
    (∀ id p radius, (∃ v, c.registry.get? id = some v ∧ v.mapId = mapId) →
      c.traffic.footprints.get? id = some (.around p radius) →
      radius ≤ Traffic.reach (c.registry.onMap mapId)) →
    c.traffic.AnswersExactly c.registry mapId

theorem answersRegions_run (floor : FloorSettings ℝ) (registry : Registry ℝ) (n : Network ℝ)
    (events : List (TrafficEvent ℝ)) :
    ((start floor registry n).run events).AnswersRegions floor events := by
  have hlayout := sameLayout_run (start floor registry n) events
  have hfootprints := get?_footprints_run floor registry n events
  have hcoupled : ((start floor registry n).run events).traffic.Coupled :=
    invariant_run (I := fun c => c.traffic.Coupled) coupled_step (coupled_start floor registry n)
      events
  have hregular := hlayout.regular (indexed_start floor registry n).regular
  generalize (start floor registry n).run events = c at *
  have hexact : ∀ mapId,
      c.traffic.AnswersExactly c.registry mapId ↔ c.traffic.Confined c.registry mapId := by
    intro mapId
    refine Traffic.answersExactly_iff hcoupled hregular fun id box hbox => ?_
    obtain ⟨p, radius, -, heq⟩ := exists_track_of_lastFootprint ((hfootprints id).symm.trans hbox)
    exact ⟨p, radius, heq⟩
  exact {
    layout := hlayout
    footprints_eq := hfootprints
    pairwise_lt := c.traffic.pairwise_vehiclesIn c.registry
    perm_query := hcoupled.perm_vehiclesIn c.registry
    mem_iff := fun _ _ _ => Traffic.mem_vehiclesIn hcoupled
    exact_iff := hexact
    exact_of_radius_le := fun mapId h =>
      (hexact mapId).mpr (Traffic.confined_of_radius_le hregular h) }

/-! ### A vehicle that has shrunk -/

/-- A vehicle west of a border between cells is tracked with its radius of 250, and the radius in
its record is changed to 50 afterwards. -/
noncomputable def shrunk : TrafficControl ℝ :=
  (start ⟨0, 0, 8000, 8000, 2⟩ {} {}).run [.upsert (.ready "AGV1" 1 ⟨3900, 2000⟩ 250),
    .track "AGV1" ⟨3900, 2000⟩ 250, .modify "AGV1" fun v => { v with radius := 50 }]

/-- A region east of the border. -/
noncomputable def eastern : Envelope ℝ := ⟨4100, 6000, 1500, 2500⟩

theorem get?_registry_shrunk (id : String) : shrunk.registry.get? id
    = if "AGV1" = id then some (.ready "AGV1" 1 ⟨3900, 2000⟩ 50) else none := by
  show (Registry.modify (Registry.upsert {} (.ready "AGV1" 1 _ _)) "AGV1" _).get? id = _
  rw [Registry.get?_modify, Registry.get?_upsert, Registry.get?_empty]
  show (if "AGV1" = id then Option.map _ (if "AGV1" = id then _ else _)
    else if "AGV1" = id then _ else _) = _
  split
  · rfl
  · rfl

theorem get?_footprints_shrunk :
    shrunk.traffic.footprints.get? "AGV1" = some (.around ⟨3900, 2000⟩ 250) :=
  (get?_footprints_run _ _ _ _ _).trans rfl

theorem reach_shrunk_le : Traffic.reach (shrunk.registry.onMap 1) ≤ 50 := by
  refine Traffic.reach_le (by norm_num) fun v hv => ?_
  obtain ⟨⟨id, hid⟩, -⟩ := Registry.mem_onMap.mp hv
  rw [get?_registry_shrunk] at hid
  split at hid
  · rw [← Option.some.inj hid]
    exact le_rfl
  · cases hid

/-- **A vehicle is missed once its registered radius has shrunk**: it is on the map, and its
footprint meets the region. -/
theorem shrunk_missed : eastern.minX ≤ eastern.maxX ∧ eastern.minY ≤ eastern.maxY
    ∧ shrunk.traffic.Meets shrunk.registry 1 eastern "AGV1"
    ∧ "AGV1" ∉ shrunk.traffic.vehiclesIn shrunk.registry 1 eastern := by
  have hregistered : ∃ v, shrunk.registry.get? "AGV1" = some v ∧ v.mapId = 1 :=
    ⟨_, (get?_registry_shrunk "AGV1").trans (if_pos rfl), rfl⟩
  have hmeets : (Envelope.around (⟨3900, 2000⟩ : Point ℝ) 250).intersects eastern = true := by
    rw [Envelope.intersects_iff, Envelope.around_eq]
    norm_num [eastern]
  refine ⟨by norm_num [eastern], by norm_num [eastern],
    ⟨hregistered, _, get?_footprints_shrunk, hmeets⟩, fun hmem => ?_⟩
  have hcoupled : shrunk.traffic.Coupled :=
    invariant_run (I := fun c => c.traffic.Coupled) coupled_step (coupled_start _ _ _) _
  have hspans := ((Traffic.mem_vehiclesIn hcoupled).mp hmem).2 _ get?_footprints_shrunk
  rw [BoxIndex.spans_iff, Traffic.centre_around] at hspans
  have hlayout : BoxIndex.SameLayout (FloorSettings.index ⟨0, 0, 8000, 8000, 2⟩)
      shrunk.traffic.index := sameLayout_run (start ⟨0, 0, 8000, 8000, 2⟩ {} {}) _
  have hgrid : shrunk.traffic.index.grid = 2 := hlayout.grid_eq
  have horigin : shrunk.traffic.index.origin = ⟨0, 0⟩ := hlayout.origin_eq
  have hwidth : shrunk.traffic.index.cellWidth = 4000 := by
    rw [hlayout.cellWidth_eq]
    norm_num [FloorSettings.index, BoxIndex.empty]
  have hcolumn := hspans.2.1
  simp only [BoxIndex.column, BoxIndex.cell, hgrid, horigin, hwidth, Envelope.expand, eastern]
    at hcolumn
  -- The widened region begins east of the border, and the vehicle stands west of it.
  have hreach := reach_shrunk_le
  have hwest : Scalar.floor (((3900 : ℝ) - 0) / 4000) < 1 := by
    apply Int.floor_lt.mpr
    norm_num
  have heast : 1 ≤ Scalar.floor
      ((4100 - Traffic.reach (shrunk.registry.onMap 1) - (0 : ℝ)) / 4000) := by
    apply Int.le_floor.mpr
    rw [le_div_iff₀ (by norm_num)]
    push_cast
    linarith
  omega

end TrafficControl

end AgvDispatch
