import AgvDispatch.Proofs.Fleet.Collision
import AgvDispatch.Proofs.Network.Lattice
import AgvDispatch.Proofs.Simulation.GridSide
import AgvDispatch.Proofs.Simulation.Trail
/-!
# How a simulation begins

The vehicles of a simulation have different ids (`Simulation.vehicleId_injective`), each of them is
registered (`Simulation.isSome_get?_assembled`), and they stand on different points of the floor
plan (`Simulation.clear_assembled`). At first nothing is claimed (`Simulation.separated_assembled`).
-/

namespace AgvDispatch.Simulation

/-! ### Ids -/

theorem toList_pushn (c : Char) (n : ℕ) : ("".pushn c n).toList = List.replicate n c := by
  rw [String.pushn_eq_repeat_push]
  induction n with
  | zero => rfl
  | succ n ih => rw [Nat.repeat, String.toList_push, ih, List.replicate_succ']

/-- **Different vehicles have different ids**: leading zeros do not change what a number stands
for. -/
theorem vehicleId_injective : Function.Injective vehicleId := by
  intro m n h
  have hdigits : ∀ k : ℕ, (toString k).toList = Nat.toDigits 10 k := fun k => Nat.toList_repr
  have hlist := congrArg String.toList h
  unfold vehicleId at hlist
  simp only [String.toList_append, toList_pushn] at hlist
  rw [List.append_assoc, List.append_assoc] at hlist
  have hpadded := List.append_cancel_left hlist
  -- What is left of the ids is a number with zeros in front.
  have hvalue := congrArg (fun digits => Nat.ofDigitChars 10 digits 0) hpadded
  simpa only [Nat.ofDigitChars_append, Nat.ofDigitChars_replicate_zero, Nat.mul_zero, hdigits,
    Nat.ofDigitChars_ten_toDigits] using hvalue

/-! ### The registry -/

section

variable {α : Type} [Scalar α] {network : Network α} {vehicles points : ℕ}

/-- A vehicle in the position where it starts. -/
def startVehicle (vehicles points i : ℕ) (position : Point α) : Vehicle α :=
  { Vehicle.ready (vehicleId (i + 1)) mapId position vehicleRadius with
    currentPoint := some (startPoint vehicles points i).id }

/-- Registers a vehicle if there is a point for it. -/
def enlist (network : Network α) (vehicles points : ℕ) (registry : Registry α) (i : ℕ) :
    Registry α :=
  match network.position (startPoint vehicles points i) with
  | none => registry
  | some p => registry.upsert (startVehicle vehicles points i p)

theorem fleetRegistry_eq (network : Network α) (vehicles points : ℕ) :
    fleetRegistry network vehicles points
      = (List.range vehicles).foldl (enlist network vehicles points) {} := rfl

theorem waypoint_startVehicle (vehicles points i : ℕ) (p : Point α) :
    (startVehicle vehicles points i p).waypoint = some (startPoint vehicles points i) := rfl

theorem get?_enlist {i : ℕ} {p : Point α}
    (hp : network.position (startPoint vehicles points i) = some p) (registry : Registry α)
    (id : String) : (enlist network vehicles points registry i).get? id
      = if vehicleId (i + 1) = id then some (startVehicle vehicles points i p)
        else registry.get? id := by
  unfold enlist
  rw [hp]
  exact registry.get?_upsert _ id

/-- Whoever is registered in the end was so before or has been registered at the point where it
starts. -/
theorem exists_of_get?_foldl_enlist {is : List ℕ} {registry : Registry α} {id : String}
    {v : Vehicle α} (h : (is.foldl (enlist network vehicles points) registry).get? id = some v) :
    (∃ i ∈ is, ∃ p, network.position (startPoint vehicles points i) = some p
        ∧ id = vehicleId (i + 1) ∧ v = startVehicle vehicles points i p)
      ∨ registry.get? id = some v := by
  induction is generalizing registry with
  | nil => exact Or.inr h
  | cons i is ih =>
    rcases ih h with ⟨j, hj, hfound⟩ | hrest
    · exact Or.inl ⟨j, List.mem_cons_of_mem i hj, hfound⟩
    · cases hp : network.position (startPoint vehicles points i) with
      | none =>
        have hsame : enlist network vehicles points registry i = registry := by
          unfold enlist
          rw [hp]
        rw [hsame] at hrest
        exact Or.inr hrest
      | some p =>
        rw [get?_enlist hp] at hrest
        split at hrest
        · rename_i hid
          rw [Option.some.injEq] at hrest
          exact Or.inl ⟨i, List.mem_cons_self, p, hp, hid.symm, hrest.symm⟩
        · exact Or.inr hrest

/-- A vehicle that has been registered stays so while others are. -/
theorem isSome_get?_foldl_enlist {is : List ℕ} {registry : Registry α} {id : String}
    (h : (registry.get? id).isSome = true) :
    ((is.foldl (enlist network vehicles points) registry).get? id).isSome = true := by
  induction is generalizing registry with
  | nil => exact h
  | cons i is ih =>
    apply ih
    cases hp : network.position (startPoint vehicles points i) with
    | none =>
      unfold enlist
      rw [hp]
      exact h
    | some p =>
      rw [get?_enlist hp]
      split
      · rfl
      · exact h

theorem isSome_get?_fleetRegistry {i : ℕ} {p : Point α} (hi : i < vehicles)
    (hp : network.position (startPoint vehicles points i) = some p) :
    ((fleetRegistry network vehicles points).get? (vehicleId (i + 1))).isSome = true := by
  obtain ⟨before, after, hsplit⟩ := List.append_of_mem (List.mem_range.mpr hi)
  rw [fleetRegistry_eq, hsplit, List.foldl_append, List.foldl_cons]
  apply isSome_get?_foldl_enlist
  rw [get?_enlist hp, if_pos rfl]
  rfl

end

/-! ### The floor plan -/

section

variable {α : Type} [Scalar α] {vehicles : ℕ}

theorem mapId_of_position_floorPlan {side : ℕ} {w : Waypoint} {p : Point α}
    (h : (floorPlan side : Network α).position w = some p) : w.mapId = mapId := by
  obtain ⟨col, -, row, -, rfl, -⟩ := Network.exists_cell_of_position_lattice h
  rfl

/-- Every vehicle starts on a point of the floor plan. -/
theorem exists_position_startPoint {side i : ℕ} (hside : 0 < side) (hi : i < vehicles) :
    ∃ p : Point α, (floorPlan side).position (startPoint vehicles (side * side) i) = some p := by
  have hbound := startPoint_bound (Nat.mul_pos hside hside) hi
  -- The number of the point is taken apart into its column and its row.
  have hpoint : startPoint vehicles (side * side) i
      = Network.latticePoint mapId (side : ℤ).toNat (i * (side * side) / vehicles % side)
        (i * (side * side) / vehicles / side) := by
    have hnumber := Nat.div_add_mod (i * (side * side) / vehicles) side
    rw [Nat.mul_comm] at hnumber
    unfold startPoint waypoint Network.latticePoint
    rw [Int.toNat_natCast, hnumber]
  rw [hpoint]
  refine ⟨_, Network.position_lattice mapId side side spacing ?_ ?_⟩
  · rw [Int.toNat_natCast]
    exact Nat.mod_lt _ hside
  · rw [Int.toNat_natCast]
    exact Nat.div_lt_of_lt_mul hbound

theorem gridSide_pos (vehicles : ℕ) : 0 < gridSide vehicles :=
  Nat.lt_of_lt_of_le (by decide) (Nat.le_max_left 4 _)

/-! ### The fleet -/

theorem network_assembled (settings : Settings α) (vehicles : ℕ) :
    (assembled settings vehicles).network = floorPlan (gridSide vehicles) := by
  simp only [assembled, Fleet.start]

theorem registry_assembled (settings : Settings α) (vehicles : ℕ) :
    (assembled settings vehicles).registry = fleetRegistry (floorPlan (gridSide vehicles)) vehicles
      (gridSide vehicles * gridSide vehicles) := by
  simp only [assembled, Fleet.start]

/-- **Every vehicle is registered.** -/
theorem isSome_get?_assembled (settings : Settings α) {i : ℕ} (hi : i < vehicles) :
    ((assembled settings vehicles).registry.get? (vehicleId (i + 1))).isSome = true := by
  obtain ⟨p, hp⟩ := exists_position_startPoint (α := α) (gridSide_pos vehicles) hi
  rw [registry_assembled]
  exact isSome_get?_fleetRegistry hi hp

/-- Whoever is registered is one of the vehicles at the point where it starts. -/
theorem exists_of_get?_assembled {settings : Settings α} {id : String} {v : Vehicle α}
    (h : (assembled settings vehicles).registry.get? id = some v) :
    ∃ i < vehicles, ∃ p, (floorPlan (gridSide vehicles) : Network α).position
        (startPoint vehicles (gridSide vehicles * gridSide vehicles) i) = some p
      ∧ id = vehicleId (i + 1)
      ∧ v = startVehicle vehicles (gridSide vehicles * gridSide vehicles) i p := by
  rw [registry_assembled, fleetRegistry_eq] at h
  rcases exists_of_get?_foldl_enlist h with ⟨i, hi, hfound⟩ | hempty
  · exact ⟨i, List.mem_range.mp hi, hfound⟩
  · rw [Registry.get?_empty] at hempty
    cases hempty

end

variable {settings : Settings ℝ} {vehicles : ℕ}

theorem onMap_assembled (hbuffer : 0 ≤ settings.traffic.bufferRadius)
    (hsafety : 0 ≤ settings.traffic.safetyBuffer) : (assembled settings vehicles).OnMap mapId := by
  refine ⟨?_, ?_, ?_, ?_, ?_, hbuffer, hsafety⟩
  · intro id v hv
    obtain ⟨i, -, p, -, hid, rfl⟩ := exists_of_get?_assembled hv
    exact hid.symm
  · intro id v hv
    obtain ⟨i, -, p, -, -, rfl⟩ := exists_of_get?_assembled hv
    rfl
  · intro id v hv
    obtain ⟨i, -, p, -, -, rfl⟩ := exists_of_get?_assembled hv
    change (0 : ℝ) < ((300 : ℕ) : ℝ)
    norm_num
  · intro w p hp
    rw [network_assembled] at hp
    exact mapId_of_position_floorPlan hp
  · intro id task htask
    change task ∈ ({} : Backlog ℝ).queue id at htask
    rw [Backlog.queue_empty] at htask
    exact absurd htask List.not_mem_nil

theorem separated_assembled (hbuffer : 0 ≤ settings.traffic.bufferRadius)
    (hsafety : 0 ≤ settings.traffic.safetyBuffer) :
    (assembled settings vehicles).Separated mapId :=
  .of_empty (onMap_assembled hbuffer hsafety) Backlog.queue_empty
    fun id => Traffic.reservation?_ofIndex _ id

/-- **The vehicles start on different points of the floor plan.** -/
theorem clear_assembled (hpos : 0 < vehicles)
    (hpoints : gridSide vehicles * gridSide vehicles ≤ 2147483647) :
    (assembled settings vehicles).Clear vehicleRadius := by
  refine ⟨.ofIndex (BoxIndex.regular_empty _ _ _ _), ?_, ?_, ?_, ?_⟩
  · intro id v hv
    obtain ⟨i, -, p, -, -, rfl⟩ := exists_of_get?_assembled hv
    rfl
  · intro id v hv
    obtain ⟨i, -, p, hp, -, rfl⟩ := exists_of_get?_assembled hv
    rw [network_assembled]
    exact ⟨_, waypoint_startVehicle _ _ i p, hp⟩
  · intro id other a b hne ha hb heq
    obtain ⟨i, -, p, -, hid, rfl⟩ := exists_of_get?_assembled ha
    obtain ⟨j, -, q, -, hother, rfl⟩ := exists_of_get?_assembled hb
    rw [waypoint_startVehicle, waypoint_startVehicle, Option.some.injEq] at heq
    have hij := startPoint_injective hpos (le_gridSide_mul_gridSide hpoints) heq
    exact hne (by rw [hid, hother, hij])
  · intro id other a b _ _ _ p hp
    have hnone : (assembled settings vehicles).traffic.claimed id = ∅ :=
      Traffic.claimed_eq_empty (Traffic.reservation?_ofIndex _ id)
    rw [hnone] at hp
    exact absurd hp (Set.notMem_empty p)

end AgvDispatch.Simulation
