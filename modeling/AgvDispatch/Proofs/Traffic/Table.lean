import AgvDispatch.Proofs.Network.Route
import AgvDispatch.Proofs.Traffic.Event
import AgvDispatch.Proofs.Traffic.Reservation
import AgvDispatch.Proofs.Vehicle.Registry
/-!
# The table of reservations

Which reservations there are after a run of traffic control is decided by the last call for each
vehicle. A vehicle has one exactly if that call asked for a route that can be driven, and then the
reservation is for this route (`TrafficControl.keepsTable_run`). It makes no difference how often
the route was asked for, what was asked for before and what the other vehicles did. That a route
which is already reserved is not built again is only seen in the count of the corridors built.

The numbers of the corridors tell the reservations apart: each is built under a number of its own.
-/

namespace AgvDispatch

variable {α : Type}

namespace TrafficEvent

/-- Whether an event sets the reservation of a vehicle anew, or drops it. -/
def Concerns (id : String) : TrafficEvent α → Prop
  | .reserve other _ _ | .release other => other = id
  | .upsert _ | .modify .. | .erase _ | .track .. => False

/-- Whether the last event for the reservation of a vehicle asks for a route. -/
def LastAsked (events : List (TrafficEvent α)) (id : String) (route : Route) : Prop :=
  ∃ before buffer after, events = before ++ .reserve id route buffer :: after
    ∧ ∀ event ∈ after, ¬ event.Concerns id

theorem not_lastAsked_nil (id : String) (route : Route) :
    ¬ LastAsked ([] : List (TrafficEvent α)) id route := by
  rintro ⟨before, buffer, after, h, -⟩
  exact List.append_ne_nil_of_right_ne_nil before (List.cons_ne_nil _ after) h.symm

/-- With one more event, either this is the last one for the vehicle, or it is for another. -/
theorem lastAsked_concat {events : List (TrafficEvent α)} {event : TrafficEvent α} {id : String}
    {route : Route} : LastAsked (events ++ [event]) id route
      ↔ (∃ buffer, event = .reserve id route buffer)
        ∨ (¬ event.Concerns id ∧ LastAsked events id route) := by
  constructor
  · rintro ⟨before, buffer, after, h, hafter⟩
    cases after using List.reverseRecOn with
    | nil => exact Or.inl ⟨buffer, (List.append_inj' h rfl).2 |> List.singleton_inj.mp⟩
    | append_singleton after last =>
      rw [← List.cons_append, ← List.append_assoc] at h
      obtain ⟨rfl, hlast⟩ := List.append_inj' h rfl
      obtain rfl := List.singleton_inj.mp hlast
      refine Or.inr ⟨hafter event (List.mem_append_right _ List.mem_cons_self), ?_⟩
      exact ⟨before, buffer, after, rfl, fun e he => hafter e (List.mem_append_left _ he)⟩
  · rintro (⟨buffer, rfl⟩ | ⟨hnot, before, buffer, after, rfl, hafter⟩)
    · exact ⟨events, buffer, [], rfl, fun e he => absurd he List.not_mem_nil⟩
    · refine ⟨before, buffer, after ++ [event], by simp, fun e he => ?_⟩
      obtain he | he := List.mem_append.mp he
      · exact hafter e he
      · exact List.mem_singleton.mp he ▸ hnot

end TrafficEvent

variable [Scalar α]

namespace TrafficControl

/-- What an event makes of a reservation, if it asks for one. -/
def change? (c : TrafficControl α) : TrafficEvent α → Option ReservationChange
  | .reserve id route buffer => some (c.traffic.reserve c.network id route buffer).1
  | .upsert _ | .modify .. | .erase _ | .track .. | .release _ => none

/-- What became of the reservations asked for in a run, in order. -/
def changes (c : TrafficControl α) : List (TrafficEvent α) → List ReservationChange
  | [] => []
  | event :: later => (c.change? event).toList ++ (c.step event).changes later

theorem run_concat (c : TrafficControl α) (events : List (TrafficEvent α))
    (event : TrafficEvent α) : c.run (events ++ [event]) = (c.run events).step event := by
  rw [run, run, List.foldl_concat]

@[simp] theorem network_step (c : TrafficControl α) (event : TrafficEvent α) :
    (c.step event).network = c.network := by
  cases event <;> rfl

end TrafficControl

namespace Traffic

/-! ### The listing -/

theorem mem_allReservations {t : Traffic α} {r : Reservation α} :
    r ∈ t.allReservations ↔ ∃ id, t.reservation? id = some r := by
  unfold allReservations
  rw [values_eq_map_toList, List.mem_map]
  constructor
  · rintro ⟨⟨id, r'⟩, hmem, rfl⟩
    exact ⟨id, Std.TreeMap.mem_toList_iff_getElem?_eq_some.mp hmem⟩
  · rintro ⟨id, hget⟩
    exact ⟨(id, r), Std.TreeMap.mem_toList_iff_getElem?_eq_some.mpr hget, rfl⟩

/-- Where every reservation is filed under its vehicle, no vehicle is listed twice. -/
theorem nodup_map_vehicleId {t : Traffic α} (h : t.Holds fun id r => r.vehicleId = id) :
    (t.allReservations.map Reservation.vehicleId).Nodup := by
  have hkeys : t.allReservations.map Reservation.vehicleId = t.reservations.keys := by
    unfold allReservations
    rw [values_eq_map_toList, List.map_map, ← Std.TreeMap.map_fst_toList_eq_keys]
    exact List.map_congr_left fun entry hentry =>
      h entry.1 entry.2 (Std.TreeMap.mem_toList_iff_getElem?_eq_some.mp hentry)
  rw [hkeys]
  exact t.reservations.nodup_keys

theorem reservedRoute?_eq_some_iff {t : Traffic α} {id : String} {route : Route} :
    t.reservedRoute? id = some route ↔ ∃ r, t.reservation? id = some r ∧ r.route = route :=
  Option.map_eq_some_iff

theorem isSome_reservation? {t : Traffic α} {id : String} :
    (t.reservation? id).isSome ↔ ∃ route, t.reservedRoute? id = some route := by
  rw [← Option.isSome_iff_exists, reservedRoute?, Option.isSome_map]

/-- A call that reports no change makes none, and is one for the route that is reserved. -/
theorem reserve_unchanged_iff {t : Traffic α} {n : Network α}
    (h : t.Holds fun _ r => ∃ reach, r.Fits n reach) {id : String} {route : Route} {buffer : α} :
    (t.reserve n id route buffer).1 = .unchanged ↔ t.reservedRoute? id = some route := by
  have hprints : t.Holds fun _ r => r.fingerprint = r.route.fingerprint :=
    fun id r hr => (h id r hr).choose_spec.fingerprint_eq
  rw [← hasReserved_iff hprints]
  obtain ⟨rfl, heq⟩ | ⟨-, hreserved, heq⟩ | ⟨hreserved, -, heq⟩ | ⟨hreserved, r, heq, -⟩ :=
    t.reserve_results n id route buffer
  -- No reservation is for the empty route, which has no first waypoint.
  · simp only [heq, reduceCtorEq, false_iff]
    intro hreserved
    obtain ⟨r, hr, hnil⟩ := reservedRoute?_eq_some_iff.mp ((hasReserved_iff hprints).mp hreserved)
    obtain ⟨reach, hfits⟩ := h id r hr
    have hmap := hfits.mapId_eq
    rw [hnil] at hmap
    exact absurd hmap (by simp)
  · simp only [heq, hreserved]
  · simp only [heq, hreserved, reduceCtorEq, Bool.false_eq_true]
  · simp only [heq, hreserved, reduceCtorEq, Bool.false_eq_true]

theorem reserve_eq_of_unchanged {t : Traffic α} {n : Network α} {id : String} {route : Route}
    {buffer : α} (h : (t.reserve n id route buffer).1 = .unchanged) :
    (t.reserve n id route buffer).2 = t := by
  obtain ⟨-, heq⟩ | ⟨-, -, heq⟩ | ⟨-, -, heq⟩ | ⟨-, r, heq, -⟩ :=
    t.reserve_results n id route buffer
  all_goals rw [heq] at h ⊢
  all_goals exact absurd h (by simp)

/-! ### The numbers of the corridors -/

@[simp] theorem revision_track (t : Traffic α) (id : String) (position : Point α) (radius : α) :
    (t.track id position radius).revision = t.revision := by
  unfold track
  cases t.footprints.get? id with
  | none => rfl
  | some old =>
    simp only
    split <;> rfl

@[simp] theorem revision_release (t : Traffic α) (id : String) :
    (t.release id).revision = t.revision := by
  unfold release
  simp only
  split <;> rfl

theorem revision_reserve (t : Traffic α) (n : Network α) (id : String) (route : Route)
    (buffer : α) : (t.reserve n id route buffer).2.revision
      = t.revision + [(t.reserve n id route buffer).1].count .rebuilt := by
  obtain ⟨-, h⟩ | ⟨-, -, h⟩ | ⟨-, -, h⟩ | ⟨-, r, h, -⟩ := t.reserve_results n id route buffer
  all_goals
    rw [h]
    rfl

/-- Whether the reservations have numbers that tell them apart, all of them issued. -/
structure TellsApart (t : Traffic α) : Prop where
  revision_le : t.Holds fun _ r => r.revision ≤ t.revision
  id_eq : ∀ id id' r r', t.reservation? id = some r → t.reservation? id' = some r' →
    r.revision = r'.revision → id = id'

/-- Dropping reservations does not confuse those that are left. -/
theorem TellsApart.of_subset {t t' : Traffic α} (h : t.TellsApart)
    (hsub : ∀ id r, t'.reservation? id = some r → t.reservation? id = some r)
    (hrevision : t'.revision = t.revision) : t'.TellsApart where
  revision_le := fun id r hr => hrevision ▸ h.revision_le id r (hsub id r hr)
  id_eq := fun id id' r r' hr hr' => h.id_eq id id' r r' (hsub id r hr) (hsub id' r' hr')

theorem TellsApart.dropReservation {t : Traffic α} (h : t.TellsApart) (id : String) :
    (t.dropReservation id).TellsApart := by
  refine h.of_subset (fun other r hr => ?_) rfl
  rw [reservation?_dropReservation] at hr
  split at hr
  · exact absurd hr (by simp)
  · exact hr

theorem TellsApart.reserve {t : Traffic α} (h : t.TellsApart) (n : Network α) (id : String)
    (route : Route) (buffer : α) : (t.reserve n id route buffer).2.TellsApart := by
  obtain ⟨-, heq⟩ | ⟨-, -, heq⟩ | ⟨-, -, heq⟩ | ⟨-, r, heq, hrevision, -⟩ :=
    t.reserve_results n id route buffer
  · rw [heq]
    exact h.dropReservation id
  · rw [heq]
    exact h
  · rw [heq]
    exact h.dropReservation id
  · rw [heq]
    have hget : ∀ other r', reservation?
        { t with reservations := t.reservations.insert id r, revision := t.revision + 1 } other
          = some r' → (other = id ∧ r' = r) ∨ t.reservation? other = some r' := by
      intro other r' hr'
      rw [reservation?, Std.TreeMap.get?_eq_getElem?, Std.TreeMap.getElem?_insert] at hr'
      split at hr'
      · rename_i hid
        exact Or.inl ⟨(Std.LawfulEqCmp.eq_of_compare hid).symm, (Option.some.inj hr').symm⟩
      · exact Or.inr hr'
    constructor
    · intro other r' hr'
      obtain ⟨-, rfl⟩ | hold := hget other r' hr'
      · exact hrevision.le
      · exact (h.revision_le other r' hold).trans (Nat.le_succ _)
    -- The new number is above all the old ones.
    · intro other other' r₁ r₂ hr₁ hr₂ hsame
      obtain ⟨rfl, rfl⟩ | hold₁ := hget other r₁ hr₁ <;>
        obtain ⟨rfl, rfl⟩ | hold₂ := hget other' r₂ hr₂
      · rfl
      · have := h.revision_le other' r₂ hold₂
        omega
      · have := h.revision_le other r₁ hold₁
        omega
      · exact h.id_eq other other' r₁ r₂ hold₁ hold₂ hsame

end Traffic

namespace TrafficControl

/-! ### What one event does -/

theorem tellsApart_step {c : TrafficControl α} (h : c.traffic.TellsApart)
    (event : TrafficEvent α) : (c.step event).traffic.TellsApart := by
  cases event with
  | upsert v => exact h
  | modify id change => exact h
  | erase id => exact h
  | reserve id route buffer => exact h.reserve c.network id route buffer
  | track id position radius =>
    refine h.of_subset (fun other r hr => ?_) (Traffic.revision_track ..)
    exact (Traffic.reservation?_track ..).symm.trans hr
  | release id =>
    refine (h.dropReservation id).of_subset (fun other r hr => ?_) (Traffic.revision_release ..)
    rw [Traffic.reservation?_dropReservation, ← Traffic.reservation?_release]
    exact hr

theorem revision_step (c : TrafficControl α) (event : TrafficEvent α) :
    (c.step event).traffic.revision
      = c.traffic.revision + (c.change? event).toList.count .rebuilt := by
  cases event with
  | upsert v => rfl
  | modify id change => rfl
  | erase id => rfl
  | reserve id route buffer => exact Traffic.revision_reserve ..
  | track id position radius => exact Traffic.revision_track ..
  | release id => exact Traffic.revision_release ..

/-- Every reservation is filed under its vehicle and fits its route. -/
def AllFit (c : TrafficControl α) : Prop :=
  c.traffic.Holds fun id r => r.vehicleId = id ∧ ∃ reach, r.Fits c.network reach

theorem allFit_step {c : TrafficControl α} (h : c.AllFit) (event : TrafficEvent α) :
    (c.step event).AllFit := by
  unfold AllFit
  rw [network_step]
  cases event with
  | upsert v => exact h
  | modify id change => exact h
  | erase id => exact h
  | reserve id route buffer =>
    refine Traffic.Holds.reserve h ?_
    rintro r hid rfl hprint hmap hskeleton hradius
    exact ⟨hid, buffer, hprint, hmap, hskeleton, hradius⟩
  | track id position radius => exact Traffic.Holds.track h id position radius
  | release id => exact Traffic.Holds.release h id

/-- **The routes reserved after an event**: a call for a vehicle decides alone, whatever has been
reserved before. -/
theorem reservedRoute?_step {c : TrafficControl α} (h : c.AllFit) (event : TrafficEvent α)
    (id : String) (route : Route) : (c.step event).traffic.reservedRoute? id = some route
      ↔ ((∃ buffer, event = .reserve id route buffer) ∧ (c.network.skeleton? route).isSome)
        ∨ (¬ event.Concerns id ∧ c.traffic.reservedRoute? id = some route) := by
  cases event with
  | upsert v => simp [step, TrafficEvent.Concerns]
  | modify other change => simp [step, TrafficEvent.Concerns]
  | erase other => simp [step, TrafficEvent.Concerns]
  | reserve other asked buffer =>
    by_cases heq : other = id
    · subst heq
      have hroute := Traffic.reservedRoute?_reserve_of_fits
        (fun id r hr => (h id r hr).2) other asked buffer
      change (c.traffic.reserve c.network other asked buffer).2.reservedRoute? other = _ ↔ _
      rw [hroute]
      -- The route asked for is the one reserved then, also where nothing was built for it.
      split
      · rename_i hskeleton
        constructor
        · intro hasked
          obtain rfl := Option.some.inj hasked
          exact Or.inl ⟨⟨buffer, rfl⟩, hskeleton⟩
        · rintro (⟨⟨buffer', hevent⟩, -⟩ | ⟨hnot, -⟩)
          · rw [(TrafficEvent.reserve.inj hevent).2.1]
          · exact absurd rfl hnot
      · rename_i hnone
        constructor
        · exact fun hasked => absurd hasked (by simp)
        · rintro (⟨⟨buffer', hevent⟩, hskeleton⟩ | ⟨hnot, -⟩)
          · rw [← (TrafficEvent.reserve.inj hevent).2.1] at hskeleton
            exact absurd hskeleton hnone
          · exact absurd rfl hnot
    · have hother : (c.step (.reserve other asked buffer)).traffic.reservedRoute? id
          = c.traffic.reservedRoute? id :=
        congrArg _ (Traffic.reservation?_reserve_of_ne _ _ (Ne.symm heq) asked buffer)
      simp [hother, TrafficEvent.Concerns, heq]
  | track other position radius =>
    have hsame : (c.step (.track other position radius)).traffic.reservedRoute? id
        = c.traffic.reservedRoute? id :=
      congrArg _ (Traffic.reservation?_track ..)
    simp [hsame, TrafficEvent.Concerns]
  | release other =>
    have hdrop : (c.step (.release other)).traffic.reservedRoute? id
        = (if other = id then none else c.traffic.reservation? id).map Reservation.route :=
      congrArg _ (Traffic.reservation?_release ..)
    rw [hdrop]
    by_cases heq : other = id <;> simp [heq, TrafficEvent.Concerns, Traffic.reservedRoute?]

/-! ### What a run does -/

theorem network_run (c : TrafficControl α) (events : List (TrafficEvent α)) :
    (c.run events).network = c.network :=
  invariant_run (I := fun c' => c'.network = c.network)
    (fun c' event h => (network_step c' event).trans h) rfl events

theorem revision_run (c : TrafficControl α) (events : List (TrafficEvent α)) :
    (c.run events).traffic.revision = c.traffic.revision + (c.changes events).count .rebuilt := by
  induction events generalizing c with
  | nil => rfl
  | cons event later ih =>
    change ((c.step event).run later).traffic.revision = _
    rw [ih, revision_step, changes, List.count_append, Nat.add_assoc]

section Start

variable (floor : FloorSettings α) (registry : Registry α) (n : Network α)
  (events : List (TrafficEvent α))

theorem reservation?_start (id : String) :
    (start floor registry n).traffic.reservation? id = none :=
  Traffic.reservation?_ofIndex floor.index id

theorem allFit_run : ((start floor registry n).run events).AllFit := by
  refine invariant_run (I := AllFit) (fun _ event h => allFit_step h event) ?_ events
  intro id r hr
  rw [reservation?_start] at hr
  exact absurd hr (by simp)

theorem tellsApart_run : ((start floor registry n).run events).traffic.TellsApart := by
  refine invariant_run (I := fun c => c.traffic.TellsApart)
    (fun _ event h => tellsApart_step h event) ⟨fun id r hr => ?_, fun id id' r r' hr => ?_⟩ events
  all_goals
    rw [reservation?_start] at hr
    exact absurd hr (by simp)

/-- **A route is reserved exactly if it was the last one asked for**, and can be driven. -/
theorem reservedRoute?_run (id : String) (route : Route) :
    ((start floor registry n).run events).traffic.reservedRoute? id = some route
      ↔ TrafficEvent.LastAsked events id route ∧ (n.skeleton? route).isSome := by
  induction events using List.reverseRecOn with
  | nil =>
    have hnone : (start floor registry n).traffic.reservedRoute? id = none :=
      congrArg (Option.map Reservation.route) (reservation?_start floor registry n id)
    change (start floor registry n).traffic.reservedRoute? id = some route ↔ _
    rw [hnone]
    simp [TrafficEvent.not_lastAsked_nil]
  | append_singleton events event ih =>
    rw [run_concat, reservedRoute?_step (allFit_run floor registry n events), network_run, ih,
      TrafficEvent.lastAsked_concat]
    change (_ ∧ (n.skeleton? route).isSome ∨ _) ↔ _
    tauto

end Start

/-- The reservations as a table that the calls since the start alone decide on. -/
structure KeepsTable (n : Network α) (events : List (TrafficEvent α))
    (changes : List ReservationChange) (t : Traffic α) : Prop where
  /-- A vehicle has a reservation exactly if the last call for it asked for a route that is not
  empty and has no unknown waypoint. -/
  isSome_iff : ∀ id, (t.reservation? id).isSome
    ↔ ∃ route, TrafficEvent.LastAsked events id route ∧ route ≠ [] ∧ n.Resolves route
  /-- The reservation is for the route asked for, with its text, its first map and its skeleton. -/
  reservation : ∀ id r, t.reservation? id = some r →
    r.vehicleId = id ∧ TrafficEvent.LastAsked events id r.route
      ∧ r.fingerprint = r.route.fingerprint ∧ r.route.head?.map Waypoint.mapId = some r.mapId
      ∧ n.skeleton? r.route = some r.corridor.skeleton
  /-- Each vehicle is listed with its only reservation. -/
  nodup_vehicleId : (t.allReservations.map Reservation.vehicleId).Nodup
  mem_allReservations : ∀ r, r ∈ t.allReservations ↔ t.reservation? r.vehicleId = some r
  /-- The call for a route changes nothing, and says so, exactly if this very route is reserved. -/
  unchanged_iff : ∀ id route buffer, (t.reserve n id route buffer).1 = .unchanged
    ↔ ∃ r, t.reservation? id = some r ∧ r.route = route
  eq_of_unchanged : ∀ id route buffer, (t.reserve n id route buffer).1 = .unchanged →
    (t.reserve n id route buffer).2 = t
  /-- The corridors built are counted, and their numbers tell the reservations apart. -/
  revision_eq : t.revision = changes.count .rebuilt
  nodup_revision : (t.allReservations.map Reservation.revision).Nodup
  revision_le : ∀ r ∈ t.allReservations, r.revision ≤ t.revision

/-- **The reservations are the table of the routes asked for last**, after every run. -/
theorem keepsTable_run (floor : FloorSettings α) (registry : Registry α) (n : Network α)
    (events : List (TrafficEvent α)) :
    KeepsTable n events ((start floor registry n).changes events)
      ((start floor registry n).run events).traffic := by
  have hfit := allFit_run floor registry n events
  have happart := tellsApart_run floor registry n events
  have hroute := reservedRoute?_run floor registry n events
  have hnetwork : ((start floor registry n).run events).network = n := network_run _ events
  unfold AllFit at hfit
  rw [hnetwork] at hfit
  set t := ((start floor registry n).run events).traffic
  have hmem : ∀ r, r ∈ t.allReservations ↔ t.reservation? r.vehicleId = some r := by
    intro r
    rw [Traffic.mem_allReservations]
    constructor
    · rintro ⟨id, hr⟩
      rw [(hfit id r hr).1, hr]
    · exact fun hr => ⟨_, hr⟩
  have hnodup := Traffic.nodup_map_vehicleId fun id r hr => (hfit id r hr).1
  constructor
  case isSome_iff =>
    intro id
    rw [Traffic.isSome_reservation?]
    refine exists_congr fun route => ?_
    rw [hroute, Option.isSome_iff_exists, Network.exists_skeleton?_iff]
  case reservation =>
    intro id r hr
    obtain ⟨hid, reach, hfits⟩ := hfit id r hr
    have hasked := ((hroute id r.route).mp (Traffic.reservedRoute?_eq_some_iff.mpr ⟨r, hr, rfl⟩)).1
    exact ⟨hid, hasked, hfits.fingerprint_eq, hfits.mapId_eq, hfits.skeleton_eq⟩
  case nodup_vehicleId => exact hnodup
  case mem_allReservations => exact hmem
  case unchanged_iff =>
    intro id route buffer
    rw [Traffic.reserve_unchanged_iff fun id r hr => (hfit id r hr).2,
      Traffic.reservedRoute?_eq_some_iff]
  case eq_of_unchanged => exact fun id route buffer => Traffic.reserve_eq_of_unchanged
  case revision_eq => exact (revision_run _ events).trans (Nat.zero_add _)
  case nodup_revision =>
    -- One number means one vehicle, and a vehicle has one reservation.
    refine List.Nodup.map_on (fun r hr r' hr' hsame => ?_) (List.Nodup.of_map _ hnodup)
    rw [hmem] at hr hr'
    have hid := happart.id_eq _ _ r r' hr hr' hsame
    rw [hid] at hr
    exact Option.some.inj (hr.symm.trans hr')
  case revision_le => exact fun r hr => happart.revision_le _ r ((hmem r).mp hr)

end TrafficControl

end AgvDispatch
