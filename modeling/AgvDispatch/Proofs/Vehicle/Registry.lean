import AgvDispatch.Vehicle.Registry
import Mathlib.Logic.Basic
import Std.Data.DTreeMap.Internal.WF.Lemmas
/-!
# The registry as a map

Looking vehicles up after the registry has changed, and which vehicles a listing holds.
`Registry.Holds` and `Registry.Keyed` speak of the vehicles under all ids at once.
-/

namespace AgvDispatch

/-- The values of a map are those of its pairs. -/
theorem values_eq_map_toList {κ β : Type} {cmp : κ → κ → Ordering} (m : Std.TreeMap κ β cmp) :
    m.values = m.toList.map Prod.snd := by
  change m.inner.inner.values = (Std.DTreeMap.Internal.Impl.Const.toList m.inner.inner).map Prod.snd
  rw [Std.DTreeMap.Internal.Impl.values_eq_map_snd,
    Std.DTreeMap.Internal.Impl.Const.toList_eq_toListModel_map, List.map_map]
  rfl

namespace Registry

variable {α : Type}

@[simp] theorem get?_empty (id : String) : ({} : Registry α).get? id = none := by
  simp [get?]

theorem get?_upsert (r : Registry α) (v : Vehicle α) (id : String) :
    (r.upsert v).get? id = if v.id = id then some v else r.get? id := by
  simp [get?, upsert, Std.TreeMap.getElem?_insert]

theorem get?_modify (r : Registry α) (id : String) (f : Vehicle α → Vehicle α) (other : String) :
    (r.modify id f).get? other = if id = other then (r.get? other).map f else r.get? other := by
  unfold modify
  cases h : r.get? id with
  | none =>
    simp only
    split
    · rename_i heq
      rw [← heq, h]
      rfl
    · rfl
  | some v =>
    simp only [get?, Std.TreeMap.get?_eq_getElem?, Std.TreeMap.getElem?_insert,
      Std.LawfulEqCmp.compare_eq_iff_eq]
    split
    · rename_i heq
      rw [← heq]
      exact (congrArg (Option.map f) h).symm
    · rfl

/-- The vehicles that are listed are those that are found under some id. -/
theorem mem_all {r : Registry α} {v : Vehicle α} : v ∈ r.all ↔ ∃ id, r.get? id = some v := by
  unfold all
  rw [values_eq_map_toList, List.mem_map]
  constructor
  · rintro ⟨⟨id, v'⟩, hmem, rfl⟩
    exact ⟨id, Std.TreeMap.mem_toList_iff_getElem?_eq_some.mp hmem⟩
  · rintro ⟨id, hget⟩
    exact ⟨(id, v), Std.TreeMap.mem_toList_iff_getElem?_eq_some.mpr hget, rfl⟩

theorem mem_onMap {r : Registry α} {mapId : Int} {v : Vehicle α} :
    v ∈ r.onMap mapId ↔ (∃ id, r.get? id = some v) ∧ v.mapId = mapId := by
  unfold onMap
  rw [List.mem_filter, mem_all, beq_iff_eq]

/-- Whether every vehicle of a registry has a property, which may depend on its id. -/
def Holds (r : Registry α) (P : String → Vehicle α → Prop) : Prop :=
  ∀ id v, r.get? id = some v → P id v

/-- Whether every vehicle is filed under its own id. -/
def Keyed (r : Registry α) : Prop := r.Holds fun id v => v.id = id

theorem Keyed.upsert {r : Registry α} (h : r.Keyed) (v : Vehicle α) : (r.upsert v).Keyed := by
  intro id w hw
  rw [get?_upsert] at hw
  split at hw
  · rename_i hid
    obtain rfl : v = w := Option.some.inj hw
    exact hid
  · exact h id w hw

theorem keyed_ofList (vs : List (Vehicle α)) : (ofList vs).Keyed := by
  have hfold : ∀ r : Registry α, r.Keyed → (vs.foldl Registry.upsert r).Keyed := by
    induction vs with
    | nil => exact fun r h => h
    | cons v vs ih => exact fun r h => ih _ (h.upsert v)
  refine hfold {} ?_
  intro id v hv
  rw [get?_empty] at hv
  cases hv

/-- A vehicle of a keyed registry is found under its id. -/
theorem Keyed.get?_of_mem_all {r : Registry α} (h : r.Keyed) {v : Vehicle α} (hv : v ∈ r.all) :
    r.get? v.id = some v := by
  obtain ⟨id, hid⟩ := mem_all.mp hv
  have hkey : v.id = id := h id v hid
  rw [hkey]
  exact hid

end Registry

end AgvDispatch
