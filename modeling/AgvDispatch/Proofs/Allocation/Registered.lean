import AgvDispatch.Allocation.Distributor
import AgvDispatch.Proofs.Vehicle.Registry
import Mathlib.Data.List.Basic
/-!
# Who is chosen is registered

Every strategy chooses among the vehicles of the registry, and so does a request by id. The only one
that need not is a hook, which is code from outside; `AllocationHook.Choosy` says of a hook that it
chooses among the vehicles it is shown. With such a hook, or without any, who is chosen for an order
is registered (`Distributor.mem_all_of_distribute`).
-/

namespace AgvDispatch

/-- A first best element is one of the list. -/
theorem mem_of_firstBest {β : Type} {beats : β → β → Bool} {xs : List β} {b : β}
    (h : firstBest beats xs = some b) : b ∈ xs := by
  -- What is best so far always comes from the list.
  suffices hall : ∀ c ∈ firstBest beats xs, c ∈ xs from hall b h
  unfold firstBest
  refine List.foldlRecOn (motive := fun best => ∀ c ∈ best, c ∈ xs) xs _ (by simp) ?_
  intro best hbest x hx c hc
  cases best with
  | none =>
    obtain rfl : x = c := Option.some.inj hc
    exact hx
  | some first =>
    simp only at hc
    split at hc
    · obtain rfl : x = c := Option.some.inj hc
      exact hx
    · exact hbest c hc

namespace Registry

variable {α : Type} {r : Registry α} {v : Vehicle α}

theorem mem_all_of_get? {id : String} (h : r.get? id = some v) : v ∈ r.all :=
  mem_all.mpr ⟨id, h⟩

theorem mem_all_of_mem_idleVehicles (h : v ∈ r.idleVehicles) : v ∈ r.all :=
  List.mem_of_mem_filter h

theorem mem_all_of_mem_chargingVehicles {lowestBattery : ℕ}
    (h : v ∈ r.chargingVehicles lowestBattery) : v ∈ r.all :=
  List.mem_of_mem_filter h

end Registry

/-- **Whether a hook chooses among the vehicles that it is shown.** -/
def AllocationHook.Choosy {α : Type} (choose : AllocationHook α) : Prop :=
  ∀ order s v, choose order s = some v → v ∈ s.registry.all

namespace Strategy

variable {α : Type}

/-- Whether the hook of a strategy, if it has one, chooses among the vehicles that it is shown. -/
def Choosy : Strategy α → Prop
  | customize hook => ∀ choose ∈ hook, AllocationHook.Choosy choose
  | _ => True

theorem choosy_ofSettings (settings : AllocationSettings) {hook : Option (AllocationHook α)}
    (h : ∀ choose ∈ hook, AllocationHook.Choosy choose) : (ofSettings settings hook).Choosy := by
  unfold ofSettings
  cases settings.mode with
  | customize => exact h
  | distancePriority | powerPriority | recentPark | originSpecify => trivial

theorem mem_of_fullest {order : TransportOrder} {candidates : List (Vehicle α)} {v : Vehicle α}
    (h : fullest order candidates = some v) : v ∈ candidates :=
  List.mem_of_mem_filter (mem_of_firstBest h)

theorem mem_all_of_parkedAt {order : TransportOrder} {standby : Waypoint} {s : Surroundings α}
    {v : Vehicle α} (h : parkedAt order standby s = some v) : v ∈ s.registry.all := by
  have hidle : v ∈ s.idle := List.mem_of_mem_filter (List.mem_of_find?_eq_some h)
  exact Registry.mem_all_of_mem_idleVehicles hidle

variable [Scalar α]

theorem mem_of_closest {β : Type} {target : Point α} {place : β → Option (Point α)} {xs : List β}
    {x : β} (h : closest target place xs = some x) : x ∈ xs := by
  obtain ⟨⟨d, x'⟩, hbest, rfl⟩ := Option.map_eq_some_iff.mp h
  obtain ⟨y, hy, hplace⟩ := List.mem_filterMap.mp (mem_of_firstBest hbest)
  obtain ⟨p, -, heq⟩ := Option.map_eq_some_iff.mp hplace
  obtain rfl : y = x' := congrArg Prod.snd heq
  exact hy

theorem mem_of_nearest {order : TransportOrder} {candidates : List (Vehicle α)}
    {s : Surroundings α} {v : Vehicle α} (h : nearest order candidates s = some v) :
    v ∈ candidates := by
  obtain ⟨origin, -, hclosest⟩ := Option.bind_eq_some_iff.mp h
  exact List.mem_of_mem_filter (mem_of_closest hclosest)

theorem mem_all_of_nearestListed {order : TransportOrder} {ids : List String}
    {s : Surroundings α} {v : Vehicle α} (h : nearestListed order ids s = some v) :
    v ∈ s.registry.all := by
  have hlisted : v ∈ ids.filterMap s.registry.get? := by
    unfold nearestListed at h
    simp only at h
    split at h
    · exact List.mem_of_mem_filter (mem_of_nearest h)
    · exact List.mem_of_mem_filter (mem_of_nearest h)
  obtain ⟨id, -, hid⟩ := List.mem_filterMap.mp hlisted
  exact Registry.mem_all_of_get? hid

/-- A strategy keeps its hook. -/
theorem Choosy.select {strategy : Strategy α} (h : strategy.Choosy) (order : TransportOrder)
    (s : Surroundings α) : (strategy.select order s).2.Choosy := by
  cases strategy with
  | customize hook => exact h
  | distancePriority | powerPriority => trivial
  | recentPark found =>
    simp only [Strategy.select]
    split
    · trivial
    · split <;> trivial
  | originSpecify table =>
    simp only [Strategy.select]
    split <;> trivial

/-- **Who is chosen by a strategy is registered.** -/
theorem Choosy.mem_all_of_select {strategy : Strategy α} (h : strategy.Choosy)
    {order : TransportOrder} {s : Surroundings α} {v : Vehicle α}
    (hchosen : (strategy.select order s).1 = some v) : v ∈ s.registry.all := by
  cases strategy with
  | customize hook =>
    obtain ⟨choose, hhook, hchoose⟩ := Option.bind_eq_some_iff.mp hchosen
    exact h choose hhook order s v hchoose
  | distancePriority =>
    rcases Option.or_eq_some_iff.mp hchosen with hidle | ⟨-, hcharging⟩
    · exact Registry.mem_all_of_mem_idleVehicles (mem_of_nearest hidle)
    · exact Registry.mem_all_of_mem_chargingVehicles (mem_of_nearest hcharging)
  | powerPriority =>
    rcases Option.or_eq_some_iff.mp hchosen with hidle | ⟨-, hcharging⟩
    · exact Registry.mem_all_of_mem_idleVehicles (mem_of_fullest hidle)
    · exact Registry.mem_all_of_mem_chargingVehicles (mem_of_fullest hcharging)
  | recentPark found =>
    simp only [Strategy.select] at hchosen
    split at hchosen
    · exact mem_all_of_parkedAt hchosen
    · split at hchosen
      · cases hchosen
      · exact mem_all_of_parkedAt hchosen
  | originSpecify table =>
    simp only [Strategy.select] at hchosen
    split at hchosen
    · cases hchosen
    · exact mem_all_of_nearestListed hchosen

end Strategy

namespace Distributor

variable {α : Type} [Scalar α] {d : Distributor α}

theorem choosy_distribute (h : d.strategy.Choosy) (registry : Registry α) (n : Network α)
    (b : Backlog α) (order : TransportOrder) :
    (d.distribute registry n b order).2.strategy.Choosy := by
  unfold distribute
  split
  · split
    · exact h
    · exact h.select order _
  · exact h

omit [Scalar α] in
theorem mem_all_of_requested {registry : Registry α} {id : String} {v : Vehicle α}
    (h : d.requested registry id = some v) : v ∈ registry.all := by
  rcases Option.or_eq_some_iff.mp h with hidle | ⟨-, hcharging⟩
  · exact Registry.mem_all_of_get? (Option.filter_eq_some_iff.mp hidle).1
  · exact Registry.mem_all_of_get? (Option.filter_eq_some_iff.mp hcharging).1

omit [Scalar α] in
theorem mem_all_of_bound {registry : Registry α} {b : Backlog α} {order : TransportOrder}
    {v : Vehicle α} (h : d.bound registry b order = some v) : v ∈ registry.all := by
  obtain ⟨id, -, hid⟩ := Option.bind_eq_some_iff.mp h
  obtain ⟨u, hu, hfits⟩ := Option.bind_eq_some_iff.mp hid
  split at hfits
  · cases hfits
  · obtain rfl : u = v := Option.some.inj hfits
    exact Registry.mem_all_of_get? hu

/-- **Who is to execute an order is registered.** -/
theorem mem_all_of_distribute (h : d.strategy.Choosy) {registry : Registry α} {n : Network α}
    {b : Backlog α} {order : TransportOrder} {v : Vehicle α}
    (hchosen : (d.distribute registry n b order).1 = some v) : v ∈ registry.all := by
  unfold distribute at hchosen
  split at hchosen
  · split at hchosen
    · exact mem_all_of_requested hchosen
    · exact h.mem_all_of_select hchosen
  · exact mem_all_of_bound hchosen

end Distributor

end AgvDispatch
