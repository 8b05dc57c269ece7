import AgvDispatch.Proofs.Allocation.Listed
import AgvDispatch.Settings.Check
/-!
# The entries of the origin table

The origin table is configured as a collection of entries without an order. Whoever builds the table
visits them in some order, and of two entries for the same origin the later one prevails. So the
table does not depend on the order exactly if no two entries configure different vehicles for the
same origin (`OriginTable.orderFree_iff_unequivocal`), and then neither does the choice of a
vehicle.

The check of settings does not see to that. It looks at each key by itself, and two keys may be
written differently and denote the same origin: blanks around the numbers, leading zeros and plus
signs do not count (`OriginTable.choice_hangs_on_order`).
-/

namespace AgvDispatch

namespace OriginTable

/-! ### The table that entries build -/

/-- Whether one of some entries configures a list of vehicles for an origin. -/
def Configures (entries : List (String × String)) (origin : Waypoint) (ids : List String) : Prop :=
  ∃ entry ∈ entries, Waypoint.ofOriginKey? entry.1 = some origin
    ∧ (Text.entries entry.2).map String.ofList = ids

theorem get?_addEntry (table : OriginTable) (key listing : String) (origin : Waypoint) :
    (table.addEntry key listing).get? origin
      = if Waypoint.ofOriginKey? key = some origin
        then some ((Text.entries listing).map String.ofList) else table.get? origin := by
  unfold addEntry
  cases Waypoint.ofOriginKey? key with
  | none => rfl
  | some origin' =>
    simp only [Std.TreeMap.get?_eq_getElem?, Std.TreeMap.getElem?_insert,
      Std.LawfulEqCmp.compare_eq_iff_eq, Option.some.injEq]

theorem ofEntries_concat (entries : List (String × String)) (entry : String × String) :
    ofEntries (entries ++ [entry]) = (ofEntries entries).addEntry entry.1 entry.2 := by
  unfold ofEntries
  rw [List.foldl_append]
  rfl

/-- **The last entry for an origin prevails.** -/
theorem get?_ofEntries_concat (entries : List (String × String)) {entry : String × String}
    {origin : Waypoint} (h : Waypoint.ofOriginKey? entry.1 = some origin) :
    (ofEntries (entries ++ [entry])).get? origin
      = some ((Text.entries entry.2).map String.ofList) := by
  rw [ofEntries_concat, get?_addEntry, if_pos h]

theorem configures_concat {entries : List (String × String)} {entry : String × String}
    {origin : Waypoint} {ids : List String} : Configures (entries ++ [entry]) origin ids
      ↔ Configures entries origin ids ∨ Waypoint.ofOriginKey? entry.1 = some origin
        ∧ (Text.entries entry.2).map String.ofList = ids := by
  unfold Configures
  simp only [List.mem_append, List.mem_singleton, or_and_right, exists_or, exists_eq_left]

/-- What stands in the table has been configured. -/
theorem configures_of_get? {entries : List (String × String)} {origin : Waypoint}
    {ids : List String} (h : (ofEntries entries).get? origin = some ids) :
    Configures entries origin ids := by
  induction entries using List.reverseRecOn with
  | nil =>
    rw [ofEntries, List.foldl_nil, Std.TreeMap.get?_eq_getElem?, Std.TreeMap.getElem?_emptyc] at h
    cases h
  | append_singleton entries entry ih =>
    rw [ofEntries_concat, get?_addEntry] at h
    rw [configures_concat]
    split at h
    · rename_i hkey
      exact Or.inr ⟨hkey, Option.some.inj h⟩
    · exact Or.inl (ih h)

/-- If something has been configured for an origin, something stands in the table. -/
theorem isSome_get?_of_configures {entries : List (String × String)} {origin : Waypoint}
    {ids : List String} (h : Configures entries origin ids) :
    ((ofEntries entries).get? origin).isSome = true := by
  induction entries using List.reverseRecOn with
  | nil =>
    obtain ⟨entry, hentry, -⟩ := h
    exact absurd hentry List.not_mem_nil
  | append_singleton entries entry ih =>
    rw [ofEntries_concat, get?_addEntry]
    split
    · rfl
    · rename_i hkey
      exact ih ((configures_concat.mp h).resolve_right fun hlast => hkey hlast.1)

/-! ### The order of the entries -/

/-- **Whether no two entries configure different vehicles for the same origin.** -/
def Unequivocal (entries : List (String × String)) : Prop :=
  ∀ origin ids ids', Configures entries origin ids → Configures entries origin ids' → ids = ids'

theorem Unequivocal.get?_eq_some_iff {entries : List (String × String)} (h : Unequivocal entries)
    {origin : Waypoint} {ids : List String} :
    (ofEntries entries).get? origin = some ids ↔ Configures entries origin ids := by
  refine ⟨configures_of_get?, fun hids => ?_⟩
  obtain ⟨ids', hget⟩ := Option.isSome_iff_exists.mp (isSome_get?_of_configures hids)
  rw [hget, h origin ids' ids (configures_of_get? hget) hids]

/-- The order of the entries does not matter to what they configure. -/
theorem configures_perm {entries visited : List (String × String)} (h : visited.Perm entries)
    {origin : Waypoint} {ids : List String} :
    Configures visited origin ids ↔ Configures entries origin ids :=
  exists_congr fun _ => and_congr_left' h.mem_iff

theorem Unequivocal.perm {entries visited : List (String × String)} (h : Unequivocal entries)
    (hperm : visited.Perm entries) : Unequivocal visited :=
  fun origin ids ids' hids hids' => h origin ids ids' ((configures_perm hperm).mp hids)
    ((configures_perm hperm).mp hids')

/-- **Whether nothing hangs on the order in which entries are visited**: neither the table nor the
choice of a vehicle. -/
structure OrderFree (α : Type) [Scalar α] (entries : List (String × String)) : Prop where
  equiv : ∀ visited visited', visited.Perm entries → visited'.Perm entries →
    (ofEntries visited).Equiv (ofEntries visited')
  select_eq : ∀ visited visited', visited.Perm entries → visited'.Perm entries →
    ∀ (order : TransportOrder) (s : Surroundings α),
      ((Strategy.originSpecify (ofEntries visited)).select order s).1
        = ((Strategy.originSpecify (ofEntries visited')).select order s).1

/-- Tables are the same if the same stands in them for every origin. -/
theorem equiv_iff_get? {table table' : OriginTable} :
    table.Equiv table' ↔ ∀ origin, table.get? origin = table'.get? origin :=
  ⟨fun h _ => h.getElem?_eq, Std.TreeMap.Equiv.of_forall_constGet?_eq⟩

theorem Unequivocal.equiv {entries visited visited' : List (String × String)}
    (h : Unequivocal entries) (hperm : visited.Perm entries) (hperm' : visited'.Perm entries) :
    (ofEntries visited).Equiv (ofEntries visited') := by
  refine equiv_iff_get?.mpr fun origin => Option.ext fun ids => ?_
  rw [(h.perm hperm).get?_eq_some_iff, (h.perm hperm').get?_eq_some_iff, configures_perm hperm,
    configures_perm hperm']

/-- The same vehicle is chosen with the same table. -/
theorem select_congr {α : Type} [Scalar α] {table table' : OriginTable}
    (h : table.Equiv table') (order : TransportOrder) (s : Surroundings α) :
    ((Strategy.originSpecify table).select order s).1
      = ((Strategy.originSpecify table').select order s).1 := by
  rw [fst_select_originSpecify, fst_select_originSpecify, idsFor, idsFor,
    equiv_iff_get?.mp h order.origin]

/-- Entries that configure different vehicles for the same origin are told apart by the order. -/
theorem unequivocal_of_equiv {entries : List (String × String)}
    (h : ∀ visited visited', visited.Perm entries → visited'.Perm entries →
      (ofEntries visited).Equiv (ofEntries visited')) : Unequivocal entries := by
  rintro origin ids ids' ⟨entry, hentry, hkey, hids⟩ ⟨entry', hentry', hkey', hids'⟩
  by_contra hne
  have hother : entry' ≠ entry := by
    rintro rfl
    exact hne (hids.symm.trans hids')
  -- Both entries are taken out of their places and visited at the end, in either order.
  have hrest : entries.Perm (entry :: entry' :: (entries.erase entry).erase entry') :=
    (List.perm_cons_erase hentry).trans
      (List.Perm.cons entry (List.perm_cons_erase ((List.mem_erase_of_ne hother).mpr hentry')))
  generalize (entries.erase entry).erase entry' = rest at hrest
  have hlast : ((rest ++ [entry']) ++ [entry]).Perm entries :=
    ((List.perm_append_singleton _ _).trans
      (List.Perm.cons entry (List.perm_append_singleton _ _))).trans hrest.symm
  have hlast' : ((rest ++ [entry]) ++ [entry']).Perm entries :=
    ((List.perm_append_singleton _ _).trans
      (List.Perm.cons entry' (List.perm_append_singleton _ _))).trans
      ((List.Perm.swap entry entry' rest).trans hrest.symm)
  have hget : some ids = some ids' := by
    have hequiv := equiv_iff_get?.mp (h _ _ hlast hlast') origin
    rw [get?_ofEntries_concat _ hkey, get?_ofEntries_concat _ hkey', hids, hids'] at hequiv
    exact hequiv
  exact hne (Option.some.inj hget)

/-- **Nothing hangs on the order of the entries exactly if no two of them configure different
vehicles for the same origin.** -/
theorem orderFree_iff_unequivocal (α : Type) [Scalar α] (entries : List (String × String)) :
    OrderFree α entries ↔ Unequivocal entries := by
  constructor
  · exact fun h => unequivocal_of_equiv h.equiv
  · intro h
    exact ⟨fun _ _ hperm hperm' => h.equiv hperm hperm',
      fun _ _ hperm hperm' => select_congr (h.equiv hperm hperm')⟩

/-- Settings that write the same origin in two ways. -/
def doubleSettings : Settings Float :=
  { Settings.standard with
    allocation := { AllocationSettings.standard with
      mode := .originSpecify
      originVehicles := Std.TreeMap.ofList [("1-1", "A"), ("01-1", "B")] } }

/-- **A choice may hang on the order of the entries**, although the settings break no rule. -/
theorem choice_hangs_on_order :
    doubleSettings.problems = []
      ∧ doubleSettings.allocation.originVehicles.toList = [("01-1", "B"), ("1-1", "A")]
      ∧ ((Strategy.originSpecify (ofEntries [("01-1", "B"), ("1-1", "A")])).select
        (.ofRoute "T" ⟨1, 1⟩ ⟨1, 1⟩) ⟨Distributor.twins, Distributor.yard, 40⟩).1.map (·.id)
          = some "A"
      ∧ ((Strategy.originSpecify (ofEntries [("1-1", "A"), ("01-1", "B")])).select
        (.ofRoute "T" ⟨1, 1⟩ ⟨1, 1⟩) ⟨Distributor.twins, Distributor.yard, 40⟩).1.map (·.id)
          = some "B"
      ∧ ¬OrderFree Float doubleSettings.allocation.originVehicles.toList := by
  have hentries : doubleSettings.allocation.originVehicles.toList
      = [("01-1", "B"), ("1-1", "A")] := by decide +kernel
  have hlast : ((Strategy.originSpecify (ofEntries [("01-1", "B"), ("1-1", "A")])).select
      (.ofRoute "T" ⟨1, 1⟩ ⟨1, 1⟩) ⟨Distributor.twins, Distributor.yard, 40⟩).1.map (·.id)
        = some "A" := by decide +kernel
  have hlast' : ((Strategy.originSpecify (ofEntries [("1-1", "A"), ("01-1", "B")])).select
      (.ofRoute "T" ⟨1, 1⟩ ⟨1, 1⟩) ⟨Distributor.twins, Distributor.yard, 40⟩).1.map (·.id)
        = some "B" := by decide +kernel
  refine ⟨List.isEmpty_iff.mp (by decide +kernel), hentries, hlast, hlast', fun h => ?_⟩
  rw [hentries] at h
  rw [h.select_eq _ _ (List.Perm.refl _) (List.Perm.swap _ _ _), hlast'] at hlast
  exact absurd hlast (by decide)

end OriginTable

end AgvDispatch
