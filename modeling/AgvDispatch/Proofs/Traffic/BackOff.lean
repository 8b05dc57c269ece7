import AgvDispatch.Proofs.Geometry.Clearance
import AgvDispatch.Proofs.ListParts
import AgvDispatch.Proofs.Traffic.BroadPhase
/-!
# Backing off

In exact arithmetic a part of a safe route is safe (`Traffic.isSafe_of_isPrefix`): its waypoints are
known, and its skeleton runs through no point that the whole skeleton does not run through, so that
it comes no closer to anything. This takes that the footprints have no say in the answer.

Backing off from a candidate therefore finds the one part that parts the safe ones from the unsafe
ones (`TrafficControl.backsOff_run`), whatever registry writes and traffic operations came before.
-/

namespace AgvDispatch

namespace Traffic

variable {t : Traffic ℝ} {registry : Registry ℝ} {n : Network ℝ} {mapId : Int} {id : String}
  {buffer : ℝ}

/-! ### Parts of safe routes -/

/-- A part keeps clear of the corridors that the whole skeleton keeps clear of. -/
theorem hitsReservation_of_subset {part path : Skeleton ℝ} (h : part.region ⊆ path.region)
    {v : Vehicle ℝ} (hclear : t.hitsReservation mapId path buffer v = false) :
    t.hitsReservation mapId part buffer v = false := by
  unfold hitsReservation at hclear ⊢
  cases hr : t.reservation? v.id with
  | none => rfl
  | some r =>
    simp only [hr, Bool.and_eq_false_iff] at hclear ⊢
    exact hclear.imp_right (Skeleton.collides_eq_false_of_subset h)

/-- A part keeps clear of the vehicles that the whole skeleton keeps clear of. -/
theorem hitsPosition_of_subset {part path : Skeleton ℝ} (h : part.region ⊆ path.region)
    {v : Vehicle ℝ} (hclear : hitsPosition path buffer v = false) :
    hitsPosition part buffer v = false :=
  Skeleton.collides_eq_false_of_subset h hclear

/-- What it takes for a route to be safe if every vehicle is looked at. -/
theorem isSafeUnfiltered_iff {route : Route} :
    t.isSafeUnfiltered registry n mapId id route buffer = true ↔ route = [] ∨
      ∃ path, n.skeleton? route = some path ∧ ∀ v ∈ others registry mapId id,
        t.hitsReservation mapId path buffer v = false ∧ hitsPosition path buffer v = false := by
  unfold isSafeUnfiltered
  rw [Bool.or_eq_true, List.isEmpty_iff]
  refine or_congr_right ?_
  cases n.skeleton? route with
  | none => simp
  | some path => simp [List.any_eq_false, forall_and]

/-- **A part of a safe route is safe.** -/
theorem isSafe_of_isPrefix (h : t.Indexed) {part route : Route} (hpart : part <+: route)
    (hsafe : t.isSafe registry n mapId id route buffer = true) :
    t.isSafe registry n mapId id part buffer = true := by
  rw [isSafe_eq_isSafeUnfiltered h, isSafeUnfiltered_iff] at hsafe ⊢
  rcases hsafe with rfl | ⟨path, hpath, hclear⟩
  · exact Or.inl (List.prefix_nil.mp hpart)
  · by_cases hne : part = []
    · exact Or.inl hne
    · have hresolves : n.Resolves part :=
        (Network.exists_skeleton?_iff.mp ⟨path, hpath⟩).2.mono hpart.subset
      obtain ⟨partPath, hpartPath⟩ := Network.exists_skeleton?_iff.mpr ⟨hne, hresolves⟩
      have hsubset : partPath.region ⊆ path.region := by
        rw [Network.region_eq_covered hpartPath, Network.region_eq_covered hpath]
        exact Network.covered_subset_of_infix hpart.isInfix
      exact Or.inr ⟨partPath, hpartPath, fun v hv => (hclear v hv).imp
        (hitsReservation_of_subset hsubset) (hitsPosition_of_subset hsubset)⟩

/-! ### Backing off -/

/-- **Backing off from a candidate route**, for one vehicle and buffer. -/
structure BacksOff (t : Traffic ℝ) (registry : Registry ℝ) (n : Network ℝ) (mapId : Int)
    (id : String) (candidate : Route) (buffer : ℝ) : Prop where
  /-- The last waypoint is dropped until what is left is safe, at most once for each waypoint. -/
  rounds : ∃ k ≤ candidate.length,
    t.safePart registry n mapId id candidate buffer = List.dropLast^[k] candidate
      ∧ ∀ j < k, t.isSafe registry n mapId id (List.dropLast^[j] candidate) buffer = false
  /-- What is left is a first part of the candidate. -/
  isPrefix : t.safePart registry n mapId id candidate buffer <+: candidate
  /-- The parts of the candidate that are no longer are safe, and all longer ones are not. -/
  isSafe_iff : ∀ part, part <+: candidate → (t.isSafe registry n mapId id part buffer = true
    ↔ part <+: t.safePart registry n mapId id candidate buffer)
  /-- Every part of a safe route is safe. -/
  isSafe_of_isPrefix : ∀ part route, part <+: route →
    t.isSafe registry n mapId id route buffer = true →
    t.isSafe registry n mapId id part buffer = true

theorem Indexed.backsOff (h : t.Indexed) (registry : Registry ℝ) (n : Network ℝ) (mapId : Int)
    (id : String) (candidate : Route) (buffer : ℝ) :
    t.BacksOff registry n mapId id candidate buffer := by
  obtain ⟨k, hk, heq, -, hlonger⟩ := longestPart_spec
    (fun part => t.isSafe registry n mapId id part buffer) candidate candidate.length
  change t.safePart registry n mapId id candidate buffer = _ at heq
  constructor
  case rounds =>
    refine ⟨candidate.length - k, Nat.sub_le _ _, ?_, fun j hj => ?_⟩
    · rw [iterate_dropLast, heq, Nat.sub_sub_self hk]
    · rw [iterate_dropLast]
      exact hlonger _ (by omega) (Nat.sub_le _ _)
  case isPrefix => exact safePart_isPrefix
  case isSafe_iff =>
    intro part hpart
    constructor
    · intro hsafe
      -- A part that is safe is no longer than what is left.
      have hle : part.length ≤ k := by
        by_contra hlt
        have hunsafe := hlonger part.length (not_le.mp hlt) hpart.length_le
        rw [← List.prefix_iff_eq_take.mp hpart, hsafe] at hunsafe
        cases hunsafe
      rw [heq, List.prefix_iff_eq_take.mp hpart]
      exact List.take_prefix_take_left hle
    · exact fun hprefix => isSafe_of_isPrefix h hprefix isSafe_safePart
  case isSafe_of_isPrefix => exact fun part route => isSafe_of_isPrefix h

end Traffic

namespace TrafficControl

/-- **Backing off finds the longest safe part of a candidate**, and nothing but its parts is safe,
after any sequence of registry writes and traffic operations. -/
theorem backsOff_run (floor : FloorSettings ℝ) (registry : Registry ℝ) (n : Network ℝ)
    (events : List (TrafficEvent ℝ)) (mapId : Int) (id : String) (candidate : Route)
    (buffer : ℝ) :
    let c := (start floor registry n).run events
    c.traffic.BacksOff c.registry c.network mapId id candidate buffer := by
  intro c
  have hindexed : c.traffic.Indexed :=
    invariant_run (I := fun c => c.traffic.Indexed) indexed_step
      (indexed_start floor registry n) events
  exact hindexed.backsOff c.registry c.network mapId id candidate buffer

end TrafficControl

end AgvDispatch
