import AgvDispatch.Proofs.Allocation.Optimum
import AgvDispatch.Proofs.Allocation.Registered
/-!
# The vehicles configured for an origin

Among the vehicles that are configured for the origin of an order, the closest one is to be chosen:
an idle one, and one that may leave its charger only if no idle one may take the order
(`Strategy.ChoosesInTurn`). That is how the strategy by distance chooses in the registry of these
vehicles alone (`Registry.restrict`).

The strategy with the origin table decides between the two groups too early. It looks at the charger
only if none of the configured vehicles is idle, while an idle vehicle may lack a label, be of the
wrong type or stand off the network. Such vehicles **shadow** those on the charger
(`Strategy.Shadowed`), and then nobody is chosen. In all other cases the choice is the right one,
and up to vehicles that are equally close the one by distance (`OriginTable.allocatesListed`).

Distances need not be comparable here. Who is closest is a vehicle that no other one is strictly
closer than.
-/

namespace AgvDispatch

/-- The first best is beaten by none, if beating is a strict order. -/
theorem not_beats_of_firstBest {β : Type} {beats : β → β → Bool}
    [IsStrictOrder β (beats · · = true)] {xs : List β} {b : β} (h : firstBest beats xs = some b) :
    ∀ a ∈ xs, ¬beats a b = true := by
  induction xs using List.reverseRecOn generalizing b with
  | nil => cases h
  | append_singleton xs x ih =>
    have hself : ¬beats x x = true := irrefl_of (beats · · = true) x
    rw [firstBest_concat] at h
    rw [List.forall_mem_append, List.forall_mem_singleton]
    split at h
    · rename_i hnone
      obtain rfl := firstBest_eq_none_iff.mp hnone
      obtain rfl : x = b := Option.some.inj h
      exact ⟨List.forall_mem_nil _, hself⟩
    · rename_i c hc
      split at h
      · -- Who beats the best of the others is beaten by none of them either.
        rename_i hbeats
        obtain rfl : x = b := Option.some.inj h
        exact ⟨fun a ha hax => ih hc a ha (trans_of (beats · · = true) hax hbeats), hself⟩
      · rename_i hbeats
        obtain rfl : c = b := Option.some.inj h
        exact ⟨ih hc, hbeats⟩

namespace Registry

variable {α : Type} {r : Registry α} {ids : List String}

/-- Whether a vehicle is registered under one of some ids. -/
def Lists (r : Registry α) (ids : List String) (v : Vehicle α) : Prop :=
  ∃ id ∈ ids, r.get? id = some v

theorem mem_filterMap_get? {v : Vehicle α} : v ∈ ids.filterMap r.get? ↔ r.Lists ids v :=
  List.mem_filterMap

/-- A registry without the vehicles whose ids are not listed. -/
def restrict (r : Registry α) (ids : List String) : Registry α :=
  ⟨r.vehicles.filter fun id _ => ids.contains id⟩

theorem get?_restrict (r : Registry α) (ids : List String) (id : String) :
    (r.restrict ids).get? id = if id ∈ ids then r.get? id else none := by
  unfold restrict get?
  rw [Std.TreeMap.get?_eq_getElem?, Std.TreeMap.getElem?_filter', Std.TreeMap.get?_eq_getElem?]
  cases r.vehicles[id]? with
  | none => exact (ite_self none).symm
  | some v => by_cases hid : id ∈ ids <;> simp [Option.filter, hid]

theorem mem_all_restrict {v : Vehicle α} : v ∈ (r.restrict ids).all ↔ r.Lists ids v := by
  rw [mem_all]
  refine exists_congr fun id => ?_
  rw [get?_restrict]
  split
  · rename_i hid
    exact (and_iff_right hid).symm
  · rename_i hid
    exact iff_of_false nofun fun h => hid h.1

end Registry

namespace Strategy

variable {α : Type} [Scalar α]

/-! ### Choices by distance -/

/-- **Whether a vehicle is one of the closest** of a group: no other one is closer. -/
structure IsClosest (n : Network α) (target : Point α) (may : Vehicle α → Prop)
    (v : Vehicle α) : Prop where
  mem : may v
  not_closer : ∀ v', may v' → ¬Closer n target v' v

/-- **Whether somebody is chosen from a group by distance**: one of the closest, and nobody only if
the group is empty. -/
structure Chooses (n : Network α) (target : Point α) (may : Vehicle α → Prop)
    (chosen : Option (Vehicle α)) : Prop where
  isClosest : ∀ v, chosen = some v → IsClosest n target may v
  empty : chosen = none → ∀ v, ¬may v

/-- **Whether somebody is chosen from two groups by distance**, from the second one only if the
first one is empty. -/
structure ChoosesInTurn (n : Network α) (target : Point α) (may may' : Vehicle α → Prop)
    (chosen : Option (Vehicle α)) : Prop where
  isClosest : ∀ v, chosen = some v → IsClosest n target may v
    ∨ (∀ u, ¬may u) ∧ IsClosest n target may' v
  empty : chosen = none → (∀ u, ¬may u) ∧ ∀ u, ¬may' u

/-- Whether two choices are the same up to vehicles that are equally close. -/
def Agree (n : Network α) (target : Point α) : Option (Vehicle α) → Option (Vehicle α) → Prop :=
  Option.Rel fun v v' => ¬Closer n target v v' ∧ ¬Closer n target v' v

variable {n : Network α} {target : Point α} {may may' : Vehicle α → Prop}
  {chosen chosen' : Option (Vehicle α)}

theorem Chooses.or (h : Chooses n target may chosen) (h' : Chooses n target may' chosen') :
    ChoosesInTurn n target may may' (chosen.or chosen') := by
  constructor
  · intro v hv
    rcases Option.or_eq_some_iff.mp hv with hv | ⟨hnone, hv⟩
    · exact Or.inl (h.isClosest v hv)
    · exact Or.inr ⟨h.empty hnone, h'.isClosest v hv⟩
  · intro hnone
    obtain ⟨hchosen, hchosen'⟩ := Option.or_eq_none_iff.mp hnone
    exact ⟨h.empty hchosen, h'.empty hchosen'⟩

/-- Two choices from the same groups agree. -/
theorem ChoosesInTurn.agree (h : ChoosesInTurn n target may may' chosen)
    (h' : ChoosesInTurn n target may may' chosen') : Agree n target chosen chosen' := by
  cases hchosen : chosen with
  | none =>
    obtain ⟨hnone, hnone'⟩ := h.empty hchosen
    cases hchosen' : chosen' with
    | none => exact Option.Rel.none
    | some v' =>
      rcases h'.isClosest v' hchosen' with hv' | ⟨-, hv'⟩
      · exact absurd hv'.mem (hnone v')
      · exact absurd hv'.mem (hnone' v')
  | some v =>
    cases hchosen' : chosen' with
    | none =>
      obtain ⟨hnone, hnone'⟩ := h'.empty hchosen'
      rcases h.isClosest v hchosen with hv | ⟨-, hv⟩
      · exact absurd hv.mem (hnone v)
      · exact absurd hv.mem (hnone' v)
    | some v' =>
      refine Option.Rel.some ?_
      -- Both come from the first group if that has anybody, and else both from the second one.
      rcases h.isClosest v hchosen with hv | ⟨hempty, hv⟩ <;>
        rcases h'.isClosest v' hchosen' with hv' | ⟨hempty', hv'⟩
      · exact ⟨hv'.not_closer v hv.mem, hv.not_closer v' hv'.mem⟩
      · exact absurd hv.mem (hempty' v)
      · exact absurd hv'.mem (hempty v')
      · exact ⟨hv'.not_closer v hv.mem, hv.not_closer v' hv'.mem⟩

/-- **The nearest of some candidates is chosen from them by distance.** -/
theorem chooses_nearest [IsStrictOrder α (· < ·)] {order : TransportOrder}
    {candidates : List (Vehicle α)} {r : Registry α} {lowestBattery : ℕ}
    (horigin : n.position order.origin = some target)
    (hmay : ∀ v, may v ↔ v ∈ candidates ∧ order.admits v = true ∧ ∃ p, v.place n = some p) :
    Chooses n target may (nearest order candidates ⟨r, n, lowestBattery⟩) := by
  have hmem : ∀ v, v ∈ (candidates.filter order.admits).filter (fun v => (v.place n).isSome)
      ↔ may v := by
    intro v
    rw [List.mem_filter, List.mem_filter, Option.isSome_iff_exists, hmay, and_assoc]
  have hstrict : IsStrictOrder (Vehicle α) fun v v' =>
      decide (gauge target (Vehicle.place n) v < gauge target (Vehicle.place n) v') = true :=
    { irrefl := fun v h => irrefl_of (· < ·) _ (of_decide_eq_true h)
      trans := fun _ _ _ h h' => decide_eq_true
        (trans_of (· < ·) (of_decide_eq_true h) (of_decide_eq_true h')) }
  rw [nearest_eq_firstBest _ _ _ horigin]
  constructor
  · intro v hv
    have hmay' := (hmem v).mp (mem_of_firstBest hv)
    refine ⟨hmay', fun v' hmay'' hcloser => ?_⟩
    obtain ⟨p', p, hp', hp, hlt⟩ := hcloser
    refine not_beats_of_firstBest hv v' ((hmem v').mpr hmay'') (decide_eq_true ?_)
    rw [gauge_of_place hp, gauge_of_place hp']
    exact hlt
  · intro hnone v hv
    exact List.eq_nil_iff_forall_not_mem.mp (firstBest_eq_none_iff.mp hnone) v ((hmem v).mpr hv)

/-! ### The listed vehicles -/

variable {r : Registry α} {ids : List String} {order : TransportOrder} {lowestBattery : ℕ}

/-- Whether a vehicle is listed and may take an order. -/
def TakesListed (n : Network α) (order : TransportOrder) (r : Registry α) (ids : List String)
    (free : Vehicle α → Bool) (v : Vehicle α) : Prop :=
  r.Lists ids v ∧ order.TakesFrom n free v

/-- **Whether idle vehicles shadow those on the charger**: there are some among the listed vehicles,
but none of them may take the order, while one on its charger may. -/
structure Shadowed (n : Network α) (order : TransportOrder) (r : Registry α) (ids : List String)
    (lowestBattery : ℕ) : Prop where
  idle : ∃ v, r.Lists ids v ∧ v.isIdle = true
  unfit : ∀ v, ¬TakesListed n order r ids Vehicle.isIdle v
  waiting : ∃ v, TakesListed n order r ids (·.mayLeaveCharger lowestBattery) v

variable [IsStrictOrder α (· < ·)]

/-- The nearest free vehicle is chosen by distance from any list of the listed vehicles. -/
theorem chooses_listed (r' : Registry α) {listed : List (Vehicle α)}
    (hlisted : ∀ v, v ∈ listed ↔ r.Lists ids v) (lowestBattery : ℕ) (free : Vehicle α → Bool)
    (horigin : n.position order.origin = some target) :
    Chooses n target (TakesListed n order r ids free)
      (nearest order (listed.filter free) ⟨r', n, lowestBattery⟩) := by
  refine chooses_nearest horigin fun v => ?_
  rw [List.mem_filter, hlisted]
  unfold TakesListed TransportOrder.TakesFrom TransportOrder.Takes
  tauto

/-- By distance, the vehicles of the restricted registry are the listed ones. -/
theorem choosesInTurn_restrict (r : Registry α) (ids : List String) (lowestBattery : ℕ)
    (horigin : n.position order.origin = some target) :
    ChoosesInTurn n target (TakesListed n order r ids Vehicle.isIdle)
      (TakesListed n order r ids (·.mayLeaveCharger lowestBattery))
      (distancePriority.select order ⟨r.restrict ids, n, lowestBattery⟩).1 := by
  have hlisted : ∀ v, v ∈ (r.restrict ids).all ↔ r.Lists ids v :=
    fun _ => Registry.mem_all_restrict
  exact (chooses_listed _ hlisted lowestBattery Vehicle.isIdle horigin).or
    (chooses_listed _ hlisted lowestBattery (·.mayLeaveCharger lowestBattery) horigin)

/-- **Without shadows the listed vehicles are chosen from in turn.** -/
theorem choosesInTurn_nearestListed (horigin : n.position order.origin = some target)
    (h : ¬Shadowed n order r ids lowestBattery) :
    ChoosesInTurn n target (TakesListed n order r ids Vehicle.isIdle)
      (TakesListed n order r ids (·.mayLeaveCharger lowestBattery))
      (nearestListed order ids ⟨r, n, lowestBattery⟩) := by
  have hlisted : ∀ v, v ∈ ids.filterMap r.get? ↔ r.Lists ids v :=
    fun _ => Registry.mem_filterMap_get?
  unfold nearestListed
  simp only
  split
  · rename_i hnobody
    have hempty : ∀ u, ¬TakesListed n order r ids Vehicle.isIdle u := by
      rintro u ⟨hlists, ⟨hidle, -⟩, -⟩
      refine List.eq_nil_iff_forall_not_mem.mp (List.isEmpty_iff.mp hnobody) u ?_
      exact List.mem_filter.mpr ⟨(hlisted u).mpr hlists, hidle⟩
    have hchooses :=
      chooses_listed r hlisted lowestBattery (·.mayLeaveCharger lowestBattery) horigin
    exact ⟨fun v hv => Or.inr ⟨hempty, hchooses.isClosest v hv⟩,
      fun hnone => ⟨hempty, hchooses.empty hnone⟩⟩
  · rename_i hsomebody
    have hchooses := chooses_listed r hlisted lowestBattery Vehicle.isIdle horigin
    refine ⟨fun v hv => Or.inl (hchooses.isClosest v hv), fun hnone => ?_⟩
    refine ⟨hchooses.empty hnone, fun u hu => h ⟨?_, hchooses.empty hnone, u, hu⟩⟩
    obtain ⟨v, hv⟩ := List.exists_mem_of_ne_nil _ (mt List.isEmpty_iff.mpr hsomebody)
    obtain ⟨hlists, hidle⟩ := List.mem_filter.mp hv
    exact ⟨v, (hlisted v).mp hlists, hidle⟩

/-- **If idle vehicles shadow those on the charger, nobody is chosen.** -/
theorem Shadowed.nearestListed_eq_none (h : Shadowed n order r ids lowestBattery)
    (horigin : n.position order.origin = some target) :
    nearestListed order ids ⟨r, n, lowestBattery⟩ = none := by
  have hlisted : ∀ v, v ∈ ids.filterMap r.get? ↔ r.Lists ids v :=
    fun _ => Registry.mem_filterMap_get?
  obtain ⟨v, hlists, hidle⟩ := h.idle
  have hsomebody : ¬((ids.filterMap r.get?).filter Vehicle.isIdle).isEmpty = true := by
    rw [List.isEmpty_iff]
    exact List.ne_nil_of_mem (List.mem_filter.mpr ⟨(hlisted v).mpr hlists, hidle⟩)
  unfold nearestListed
  simp only [hsomebody]
  rw [if_neg Bool.false_ne_true, Option.eq_none_iff_forall_ne_some]
  intro u hu
  have hchooses := chooses_listed r hlisted lowestBattery Vehicle.isIdle horigin
  exact h.unfit u (hchooses.isClosest u hu).mem

end Strategy

/-! ### The strategy with the origin table -/

namespace OriginTable

open Strategy

variable {α : Type} [Scalar α]

/-- The ids that are configured for an origin. -/
def idsFor (table : OriginTable) (origin : Waypoint) : List String :=
  (table.get? origin).getD []

theorem fst_select_originSpecify (table : OriginTable) (order : TransportOrder)
    (s : Surroundings α) : ((originSpecify table).select order s).1
      = nearestListed order (table.idsFor order.origin) s := by
  unfold idsFor
  simp only [Strategy.select]
  cases table.get? order.origin with
  | some ids => rfl
  | none =>
    change none = nearest order [] s
    unfold nearest
    cases s.network.position order.origin <;> rfl

/-- **Whether the vehicle for an order is chosen among those configured for its origin**, which lies
at a point. -/
structure AllocatesListed (table : OriginTable) (r : Registry α) (n : Network α)
    (order : TransportOrder) (lowestBattery : ℕ) (target : Point α) : Prop where
  /-- One of the closest idle ones, else one of the closest that may leave their charger, except
  where the idle ones shadow these. -/
  choosesInTurn_iff : ChoosesInTurn n target
      (TakesListed n order r (table.idsFor order.origin) Vehicle.isIdle)
      (TakesListed n order r (table.idsFor order.origin) (·.mayLeaveCharger lowestBattery))
      ((originSpecify table).select order ⟨r, n, lowestBattery⟩).1
    ↔ ¬Shadowed n order r (table.idsFor order.origin) lowestBattery
  /-- The choice agrees with the one by distance in the registry of these vehicles, with the same
  exception. -/
  agree_iff : Agree n target ((originSpecify table).select order ⟨r, n, lowestBattery⟩).1
      (distancePriority.select order
        ⟨r.restrict (table.idsFor order.origin), n, lowestBattery⟩).1
    ↔ ¬Shadowed n order r (table.idsFor order.origin) lowestBattery
  /-- In the exceptional case nobody is chosen. -/
  eq_none : Shadowed n order r (table.idsFor order.origin) lowestBattery →
    ((originSpecify table).select order ⟨r, n, lowestBattery⟩).1 = none

/-- **The vehicle is chosen among those configured for the origin, unless idle ones shadow the ones
on the charger.** -/
theorem allocatesListed [IsStrictOrder α (· < ·)] (table : OriginTable) (r : Registry α)
    {n : Network α} {order : TransportOrder} (lowestBattery : ℕ) {target : Point α}
    (horigin : n.position order.origin = some target) :
    table.AllocatesListed r n order lowestBattery target := by
  have hrestrict := choosesInTurn_restrict r (table.idsFor order.origin) lowestBattery horigin
  have hnone : Shadowed n order r (table.idsFor order.origin) lowestBattery →
      ((originSpecify table).select order ⟨r, n, lowestBattery⟩).1 = none := by
    rw [fst_select_originSpecify]
    exact fun h => h.nearestListed_eq_none horigin
  have hturn : ¬Shadowed n order r (table.idsFor order.origin) lowestBattery →
      ChoosesInTurn n target
        (TakesListed n order r (table.idsFor order.origin) Vehicle.isIdle)
        (TakesListed n order r (table.idsFor order.origin) (·.mayLeaveCharger lowestBattery))
        ((originSpecify table).select order ⟨r, n, lowestBattery⟩).1 := by
    rw [fst_select_originSpecify]
    exact choosesInTurn_nearestListed horigin
  refine ⟨⟨fun h hshadowed => ?_, hturn⟩, ⟨fun h hshadowed => ?_, fun h => ?_⟩, hnone⟩
  · obtain ⟨v, hv⟩ := hshadowed.waiting
    exact (h.empty (hnone hshadowed)).2 v hv
  · rw [hnone hshadowed] at h
    obtain ⟨v, hv⟩ := hshadowed.waiting
    generalize hchosen : (distancePriority.select order
      ⟨r.restrict (table.idsFor order.origin), n, lowestBattery⟩).1 = chosen at h hrestrict
    cases h
    exact (hrestrict.empty rfl).2 v hv
  · exact (hturn h).agree hrestrict

/-- Two vehicles are configured for an origin: one is idle, and one stands on its charger and has a
label. -/
def pairTable : OriginTable := ofEntries [("1-1", "A, B")]

/-- The two vehicles. -/
def pairRegistry : Registry Float := Registry.ofList
  [{ Vehicle.ready "A" 1 ⟨0, 0⟩ 300 with currentPoint := some 1 },
    { Vehicle.ready "B" 1 ⟨1000, 0⟩ 300 with
      currentPoint := some 2, state := .charging, battery := 80, labels := "cold" }]

/-- An order that starts at their origin. -/
def pairOrder (labels : String) : TransportOrder :=
  { TransportOrder.ofRoute "T" ⟨1, 1⟩ ⟨1, 2⟩ with labels }

/-- The idle vehicle gets an order that it may take. -/
theorem allocatesListed_pair :
    Distributor.yard.position ⟨1, 1⟩ = some ⟨0, 0⟩
      ∧ pairTable.AllocatesListed pairRegistry Distributor.yard (pairOrder "") 40 ⟨0, 0⟩
      ∧ ((originSpecify pairTable).select (pairOrder "") ⟨pairRegistry, Distributor.yard, 40⟩).1.map
        (·.id) = some "A" :=
  ⟨by rfl, allocatesListed _ _ _ (by rfl), by decide +kernel⟩

/-- **The idle vehicle shadows the other one** if it lacks a label that the order asks for: nobody
is chosen, though the vehicle on the charger may take the order. -/
theorem nobody_chosen_shadowed :
    (∃ v, TakesListed Distributor.yard (pairOrder "cold") pairRegistry
        (pairTable.idsFor (pairOrder "cold").origin) (·.mayLeaveCharger 40) v)
      ∧ ((originSpecify pairTable).select (pairOrder "cold")
        ⟨pairRegistry, Distributor.yard, 40⟩).1 = none := by
  refine ⟨⟨{ Vehicle.ready "B" 1 ⟨1000, 0⟩ 300 with
      currentPoint := some 2, state := .charging, battery := 80, labels := "cold" },
    ⟨"B", ?_, ?_⟩, ⟨?_, ?_⟩, ⟨1000, 0⟩, ?_⟩, ?_⟩
  · decide +kernel
  · rfl
  · decide +kernel
  · decide +kernel
  · rfl
  · rfl

end OriginTable

end AgvDispatch
