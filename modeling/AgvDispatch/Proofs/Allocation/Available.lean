import AgvDispatch.Proofs.Allocation.Registered
/-!
# Who is chosen is available

A new order only goes to a vehicle that is **available**: it is free for a new task, or it may leave
its charger for one. This holds of every strategy but a hook
(`Strategy.Unhooked.available_of_select`) and of a request by id, so it holds of the distributor
(`Distributor.available_of_distribute`). If the order names no vehicle, who is chosen stands on a
waypoint (`Distributor.admits_of_distribute`).
-/

namespace AgvDispatch

/-- **Whether a vehicle is available for a new order.** -/
def Vehicle.Available {α : Type} (v : Vehicle α) (lowestBattery : ℕ) : Prop :=
  v.isIdle = true ∨ v.mayLeaveCharger lowestBattery = true

namespace Strategy

variable {α : Type}

/-- Whether a strategy chooses by itself: it has no hook. -/
def Unhooked : Strategy α → Prop
  | customize hook => hook = none
  | _ => True

theorem unhooked_of_mode_ne {strategy : Strategy α} (h : strategy.mode ≠ .customize) :
    strategy.Unhooked := by
  cases strategy with
  | customize hook => exact absurd rfl h
  | distancePriority | powerPriority | recentPark | originSpecify => trivial

theorem unhooked_ofSettings (settings : AllocationSettings) :
    (ofSettings settings none : Strategy α).Unhooked := by
  unfold ofSettings
  cases settings.mode with
  | customize => exact rfl
  | distancePriority | powerPriority | recentPark | originSpecify => trivial

theorem Unhooked.choosy {strategy : Strategy α} (h : strategy.Unhooked) : strategy.Choosy := by
  cases strategy with
  | customize hook =>
    obtain rfl : hook = none := h
    nofun
  | distancePriority | powerPriority | recentPark | originSpecify => trivial

theorem admits_of_fullest {order : TransportOrder} {candidates : List (Vehicle α)} {v : Vehicle α}
    (h : fullest order candidates = some v) : order.admits v = true :=
  (List.mem_filter.mp (mem_of_firstBest h)).2

theorem available_of_mem_idle {s : Surroundings α} {v : Vehicle α} (h : v ∈ s.idle) :
    v.Available s.lowestBattery :=
  Or.inl (List.mem_filter.mp h).2

theorem available_of_mem_charging {s : Surroundings α} {v : Vehicle α} (h : v ∈ s.charging) :
    v.Available s.lowestBattery :=
  Or.inr (List.mem_filter.mp h).2

theorem available_of_parkedAt {order : TransportOrder} {standby : Waypoint} {s : Surroundings α}
    {v : Vehicle α} (h : parkedAt order standby s = some v) :
    v.Available s.lowestBattery ∧ order.admits v = true := by
  obtain ⟨hidle, hadmits⟩ := List.mem_filter.mp (List.mem_of_find?_eq_some h)
  exact ⟨available_of_mem_idle hidle, hadmits⟩

variable [Scalar α]

theorem admits_of_nearest {order : TransportOrder} {candidates : List (Vehicle α)}
    {s : Surroundings α} {v : Vehicle α} (h : nearest order candidates s = some v) :
    order.admits v = true := by
  obtain ⟨origin, -, hclosest⟩ := Option.bind_eq_some_iff.mp h
  exact (List.mem_filter.mp (mem_of_closest hclosest)).2

theorem available_of_nearestListed {order : TransportOrder} {ids : List String}
    {s : Surroundings α} {v : Vehicle α} (h : nearestListed order ids s = some v) :
    v.Available s.lowestBattery ∧ order.admits v = true := by
  unfold nearestListed at h
  simp only at h
  split at h
  · exact ⟨Or.inr (List.mem_filter.mp (mem_of_nearest h)).2, admits_of_nearest h⟩
  · exact ⟨Or.inl (List.mem_filter.mp (mem_of_nearest h)).2, admits_of_nearest h⟩

/-- A strategy without a hook gets none. -/
theorem Unhooked.select {strategy : Strategy α} (h : strategy.Unhooked) (order : TransportOrder)
    (s : Surroundings α) : (strategy.select order s).2.Unhooked := by
  cases strategy with
  | customize hook => exact h
  | distancePriority | powerPriority => trivial
  | recentPark found =>
    simp only [Strategy.select]
    split
    · trivial
    · split <;> trivial
  | originSpecify table =>
    simp only [Strategy.select]
    split <;> trivial

/-- **Who is chosen by a strategy is available** and may take the order. -/
theorem Unhooked.available_of_select {strategy : Strategy α} (h : strategy.Unhooked)
    {order : TransportOrder} {s : Surroundings α} {v : Vehicle α}
    (hchosen : (strategy.select order s).1 = some v) :
    v.Available s.lowestBattery ∧ order.admits v = true := by
  cases strategy with
  | customize hook =>
    obtain rfl : hook = none := h
    cases hchosen
  | distancePriority =>
    rcases Option.or_eq_some_iff.mp hchosen with hidle | ⟨-, hcharging⟩
    · exact ⟨available_of_mem_idle (mem_of_nearest hidle), admits_of_nearest hidle⟩
    · exact ⟨available_of_mem_charging (mem_of_nearest hcharging), admits_of_nearest hcharging⟩
  | powerPriority =>
    rcases Option.or_eq_some_iff.mp hchosen with hidle | ⟨-, hcharging⟩
    · exact ⟨available_of_mem_idle (mem_of_fullest hidle), admits_of_fullest hidle⟩
    · exact ⟨available_of_mem_charging (mem_of_fullest hcharging), admits_of_fullest hcharging⟩
  | recentPark found =>
    simp only [Strategy.select] at hchosen
    split at hchosen
    · exact available_of_parkedAt hchosen
    · split at hchosen
      · cases hchosen
      · exact available_of_parkedAt hchosen
  | originSpecify table =>
    simp only [Strategy.select] at hchosen
    split at hchosen
    · cases hchosen
    · exact available_of_nearestListed hchosen

end Strategy

namespace Distributor

variable {α : Type} {d : Distributor α}

theorem available_of_requested {registry : Registry α} {id : String} {v : Vehicle α}
    (h : d.requested registry id = some v) : v.Available d.lowestBattery := by
  rcases Option.or_eq_some_iff.mp h with hidle | ⟨-, hcharging⟩
  · exact Or.inl (Option.filter_eq_some_iff.mp hidle).2
  · exact Or.inr (Option.filter_eq_some_iff.mp hcharging).2

variable [Scalar α]

theorem unhooked_distribute (h : d.strategy.Unhooked) (registry : Registry α) (n : Network α)
    (b : Backlog α) (order : TransportOrder) :
    (d.distribute registry n b order).2.strategy.Unhooked := by
  unfold distribute
  split
  · split
    · exact h
    · exact h.select order _
  · exact h

/-- **Who gets a new order is available.** -/
theorem available_of_distribute (h : d.strategy.Unhooked) {registry : Registry α} {n : Network α}
    {b : Backlog α} {order : TransportOrder} {v : Vehicle α} (hnew : order.stage = .new)
    (hchosen : (d.distribute registry n b order).1 = some v) : v.Available d.lowestBattery := by
  unfold distribute at hchosen
  rw [if_pos hnew] at hchosen
  split at hchosen
  · exact available_of_requested hchosen
  · exact (h.available_of_select hchosen).1

/-- Who gets a new order that names no vehicle may take it. -/
theorem admits_of_distribute (h : d.strategy.Unhooked) {registry : Registry α} {n : Network α}
    {b : Backlog α} {order : TransportOrder} {v : Vehicle α} (hnew : order.stage = .new)
    (hany : order.requestedVehicle = none)
    (hchosen : (d.distribute registry n b order).1 = some v) : order.admits v = true := by
  unfold distribute at hchosen
  rw [if_pos hnew, hany] at hchosen
  exact (h.available_of_select hchosen).2

end Distributor

end AgvDispatch
