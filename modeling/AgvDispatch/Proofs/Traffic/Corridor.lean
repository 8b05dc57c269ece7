import AgvDispatch.Proofs.Network.Lattice
import AgvDispatch.Proofs.Scalar.Real
import AgvDispatch.Proofs.Traffic.Table
import AgvDispatch.Scalar.Double
/-!
# Which corridor is reserved

A call for a route that is reserved already leaves the corridor as it is, whatever buffer the call
comes with. So the buffer of a corridor is not that of the last call. It is that of the call that
**opened** the present row of calls for the route (`TrafficEvent.Opened`), the first one since the
vehicle had another route or none.

`TrafficControl.corridor?_run` says what is reserved after every run, and
`TrafficControl.isFromOpening_reserve` compares it with what building the corridor again would give:
the two are the same exactly if both buffers come to the same radius.
-/

namespace AgvDispatch

variable {α : Type}

namespace TrafficEvent

/-- **Whether a buffer opened the row of calls that a vehicle is in**: it came with a call for the
route, the last call before that was not for this route, and all calls since then have been. -/
def Opened (events : List (TrafficEvent α)) (id : String) (route : Route) (first : α) : Prop :=
  ∃ before after, events = before ++ .reserve id route first :: after
    ∧ ¬LastAsked before id route
    ∧ ∀ event ∈ after, event.Concerns id → ∃ buffer, event = .reserve id route buffer

theorem not_opened_nil (id : String) (route : Route) (first : α) :
    ¬Opened [] id route first := by
  rintro ⟨before, after, h, -⟩
  exact List.append_ne_nil_of_right_ne_nil before (List.cons_ne_nil _ after) h.symm

/-- With one more event, either a row is opened by it, or the row before it goes on. -/
theorem opened_concat {events : List (TrafficEvent α)} {event : TrafficEvent α} {id : String}
    {route : Route} {first : α} : Opened (events ++ [event]) id route first
      ↔ (event = .reserve id route first ∧ ¬LastAsked events id route)
        ∨ ((event.Concerns id → ∃ buffer, event = .reserve id route buffer)
          ∧ Opened events id route first) := by
  constructor
  · rintro ⟨before, after, h, hbefore, hafter⟩
    cases after using List.reverseRecOn with
    | nil =>
      obtain ⟨rfl, hevent⟩ := List.append_inj' h rfl
      exact Or.inl ⟨List.singleton_inj.mp hevent, hbefore⟩
    | append_singleton after last =>
      rw [← List.cons_append, ← List.append_assoc] at h
      obtain ⟨rfl, hlast⟩ := List.append_inj' h rfl
      obtain rfl := List.singleton_inj.mp hlast
      refine Or.inr ⟨hafter event (List.mem_append_right _ List.mem_cons_self), ?_⟩
      exact ⟨before, after, rfl, hbefore, fun e he => hafter e (List.mem_append_left _ he)⟩
  · rintro (⟨rfl, hlast⟩ | ⟨hsame, before, after, rfl, hbefore, hafter⟩)
    · exact ⟨events, [], rfl, hlast, fun e he => absurd he List.not_mem_nil⟩
    · refine ⟨before, after ++ [event], by simp, hbefore, fun e he => ?_⟩
      obtain he | he := List.mem_append.mp he
      · exact hafter e he
      · exact List.mem_singleton.mp he ▸ hsame

/-- One route was asked for last. -/
theorem LastAsked.unique {events : List (TrafficEvent α)} {id : String} {route route' : Route}
    (h : LastAsked events id route) (h' : LastAsked events id route') : route' = route := by
  induction events using List.reverseRecOn with
  | nil => exact absurd h (not_lastAsked_nil id route)
  | append_singleton events event ih =>
    obtain ⟨buffer, rfl⟩ | ⟨hnot, hlast⟩ := lastAsked_concat.mp h <;>
      obtain ⟨buffer', heq⟩ | ⟨hnot', hlast'⟩ := lastAsked_concat.mp h'
    · exact (TrafficEvent.reserve.inj heq).2.1.symm
    · exact absurd rfl hnot'
    · exact absurd (heq ▸ rfl) hnot
    · exact ih hlast hlast'

/-- A row of calls is for the route asked for last. -/
theorem Opened.lastAsked {events : List (TrafficEvent α)} {id : String} {route : Route} {first : α}
    (h : Opened events id route first) : LastAsked events id route := by
  induction events using List.reverseRecOn with
  | nil => exact absurd h (not_opened_nil id route first)
  | append_singleton events event ih =>
    rw [lastAsked_concat]
    obtain ⟨rfl, -⟩ | ⟨hsame, hopened⟩ := opened_concat.mp h
    · exact Or.inl ⟨first, rfl⟩
    · by_cases hconcerns : event.Concerns id
      · exact Or.inl (hsame hconcerns)
      · exact Or.inr ⟨hconcerns, ih hopened⟩

/-- **One buffer opened the row.** -/
theorem Opened.unique {events : List (TrafficEvent α)} {id : String} {route : Route}
    {first first' : α} (h : Opened events id route first) (h' : Opened events id route first') :
    first' = first := by
  induction events using List.reverseRecOn with
  | nil => exact absurd h (not_opened_nil id route first)
  | append_singleton events event ih =>
    obtain ⟨rfl, hlast⟩ | ⟨-, hopened⟩ := opened_concat.mp h <;>
      obtain ⟨heq, hlast'⟩ | ⟨-, hopened'⟩ := opened_concat.mp h'
    · exact (TrafficEvent.reserve.inj heq).2.2.symm
    -- A row that goes on is not opened a second time.
    · exact absurd hopened'.lastAsked hlast
    · exact absurd hopened.lastAsked hlast'
    · exact ih hopened hopened'

/-- Events for other vehicles leave a row as it is. -/
theorem opened_concat_of_not_concerns {events : List (TrafficEvent α)} {event : TrafficEvent α}
    {id : String} (h : ¬event.Concerns id) {route : Route} {first : α} :
    Opened (events ++ [event]) id route first ↔ Opened events id route first := by
  rw [opened_concat]
  constructor
  · rintro (⟨rfl, -⟩ | ⟨-, hopened⟩)
    · exact absurd rfl h
    · exact hopened
  · exact fun hopened => Or.inr ⟨fun hconcerns => absurd hconcerns h, hopened⟩

theorem not_opened_concat_release (events : List (TrafficEvent α)) (id : String) (route : Route)
    (first : α) : ¬Opened (events ++ [.release id]) id route first := by
  rw [opened_concat]
  rintro (⟨h, -⟩ | ⟨h, -⟩)
  · cases h
  · obtain ⟨buffer, h⟩ := h rfl
    cases h

/-- A call opens a row unless its route was the last one asked for. -/
theorem opened_concat_reserve {events : List (TrafficEvent α)} {id : String} {asked route : Route}
    {buffer first : α} : Opened (events ++ [.reserve id asked buffer]) id route first
      ↔ asked = route ∧ ((¬LastAsked events id asked ∧ buffer = first)
        ∨ Opened events id asked first) := by
  rw [opened_concat]
  constructor
  · rintro (⟨h, hlast⟩ | ⟨h, hopened⟩)
    · obtain ⟨-, rfl, rfl⟩ := TrafficEvent.reserve.inj h
      exact ⟨rfl, Or.inl ⟨hlast, rfl⟩⟩
    · obtain ⟨buffer', hevent⟩ := h rfl
      obtain ⟨-, rfl, -⟩ := TrafficEvent.reserve.inj hevent
      exact ⟨rfl, Or.inr hopened⟩
  · rintro ⟨rfl, ⟨hlast, rfl⟩ | hopened⟩
    · exact Or.inl ⟨rfl, hlast⟩
    · exact Or.inr ⟨fun _ => ⟨buffer, rfl⟩, hopened⟩

end TrafficEvent

variable [Scalar α]

namespace Traffic

/-- The corridor that a vehicle has reserved. -/
def corridor? (t : Traffic α) (id : String) : Option (Corridor α) :=
  (t.reservation? id).map Reservation.corridor

/-- The corridor that a call leaves a vehicle with if nothing was reserved for it before. -/
def rebuilt? (t : Traffic α) (n : Network α) (id : String) (route : Route) (buffer : α) :
    Option (Corridor α) :=
  ((t.dropReservation id).reserve n id route buffer).2.corridor? id

/-- A call for a route that is not reserved yet builds its corridor. -/
theorem corridor?_reserve_of_hasReserved {t : Traffic α} {n : Network α} {id : String}
    {route : Route} {buffer : α} (h : t.hasReserved id route = false) :
    (t.reserve n id route buffer).2.corridor? id
      = (n.skeleton? route).map (Corridor.around · buffer) := by
  have hdropped : (t.dropReservation id).corridor? id = none := by
    rw [corridor?, reservation?_dropReservation, if_pos rfl]
    rfl
  obtain ⟨rfl, heq⟩ | ⟨-, hreserved, -⟩ | ⟨-, hskeleton, heq⟩
    | ⟨-, r, heq, -, -, -, -, -, hskeleton, hradius⟩ := t.reserve_results n id route buffer
  · rw [heq, hdropped]
    rfl
  · rw [h] at hreserved
    cases hreserved
  · rw [heq, hdropped, hskeleton]
    rfl
  · have hget : (t.reserve n id route buffer).2.reservation? id = some r := by
      rw [heq]
      simp [reservation?]
    rw [corridor?, hget, hskeleton, Option.map_some, Option.map_some, Corridor.around, ← hradius]

theorem reserve_of_hasReserved {t : Traffic α} {n : Network α} {id : String} {route : Route}
    (h : t.hasReserved id route = true) (hskeleton : (n.skeleton? route).isSome) (buffer : α) :
    t.reserve n id route buffer = (.unchanged, t) := by
  obtain ⟨rfl, -⟩ | ⟨-, -, heq⟩ | ⟨hnot, -⟩ | ⟨hnot, -⟩ := t.reserve_results n id route buffer
  · cases hskeleton
  · exact heq
  · exact absurd (h.symm.trans hnot) (by decide)
  · exact absurd (h.symm.trans hnot) (by decide)

/-- A vehicle has a corridor after a call that builds one or changes nothing. -/
theorem exists_corridor?_reserve {t : Traffic α} {n : Network α} {id : String} {route : Route}
    {buffer : α} (h : (t.reserve n id route buffer).1 = .rebuilt
      ∨ (t.reserve n id route buffer).1 = .unchanged) :
    ∃ corridor, (t.reserve n id route buffer).2.corridor? id = some corridor := by
  obtain ⟨-, heq⟩ | ⟨-, hreserved, heq⟩ | ⟨-, -, heq⟩ | ⟨-, r, heq, -⟩ :=
    t.reserve_results n id route buffer
  · rw [heq] at h
    simp at h
  · rw [heq]
    unfold hasReserved at hreserved
    cases hr : t.reservation? id with
    | none => simp [hr] at hreserved
    | some r => exact ⟨r.corridor, congrArg (Option.map Reservation.corridor) hr⟩
  · rw [heq] at h
    simp at h
  · rw [heq]
    exact ⟨r.corridor, by simp [corridor?, reservation?]⟩

theorem hasReserved_eq_false_of_rebuilt {t : Traffic α} {n : Network α} {id : String}
    {route : Route} {buffer : α} (h : (t.reserve n id route buffer).1 = .rebuilt) :
    t.hasReserved id route = false := by
  obtain ⟨-, heq⟩ | ⟨-, -, heq⟩ | ⟨hnot, -⟩ | ⟨hnot, -⟩ := t.reserve_results n id route buffer
  · rw [heq] at h
    cases h
  · rw [heq] at h
    cases h
  · exact hnot
  · exact hnot

/-- **What a rebuild gives**: the skeleton of the route, inflated by the buffer. -/
theorem rebuilt?_eq (t : Traffic α) (n : Network α) (id : String) (route : Route) (buffer : α) :
    t.rebuilt? n id route buffer = (n.skeleton? route).map (Corridor.around · buffer) := by
  refine corridor?_reserve_of_hasReserved ?_
  rw [hasReserved, reservation?_dropReservation, if_pos rfl]

end Traffic

namespace TrafficControl

/-! ### Every run -/

/-- An event that does not concern a vehicle leaves its reservation alone. -/
theorem reservation?_step_of_not_concerns (c : TrafficControl α) {event : TrafficEvent α}
    {id : String} (h : ¬event.Concerns id) :
    (c.step event).traffic.reservation? id = c.traffic.reservation? id := by
  cases event with
  | upsert v => rfl
  | modify other change => rfl
  | erase other => rfl
  | reserve other route buffer =>
    exact Traffic.reservation?_reserve_of_ne _ _ (Ne.symm h) route buffer
  | track other position radius => exact Traffic.reservation?_track ..
  | release other => exact (Traffic.reservation?_release ..).trans (if_neg h)

section Start

variable (floor : FloorSettings α) (registry : Registry α) (n : Network α)
  (events : List (TrafficEvent α))

/-- A route passes for reserved if it was the last one asked for and can be driven. -/
theorem hasReserved_run_iff (id : String) (route : Route) :
    ((start floor registry n).run events).traffic.hasReserved id route = true
      ↔ TrafficEvent.LastAsked events id route ∧ (n.skeleton? route).isSome := by
  have hprints : ((start floor registry n).run events).traffic.Holds
      fun _ r => r.fingerprint = r.route.fingerprint :=
    fun id r hr => (allFit_run floor registry n events id r hr).2.choose_spec.fingerprint_eq
  rw [Traffic.hasReserved_iff hprints, reservedRoute?_run]

/-- **What is reserved after a run**: the corridor of the route of the present row of calls, with
the buffer that opened the row. -/
theorem corridor?_run (id : String) (corridor : Corridor α) :
    ((start floor registry n).run events).traffic.corridor? id = some corridor
      ↔ ∃ route first, TrafficEvent.Opened events id route first
        ∧ (n.skeleton? route).map (Corridor.around · first) = some corridor := by
  induction events using List.reverseRecOn with
  | nil =>
    have hnone : (start floor registry n).traffic.corridor? id = none :=
      congrArg (Option.map Reservation.corridor) (reservation?_start floor registry n id)
    change (start floor registry n).traffic.corridor? id = _ ↔ _
    rw [hnone]
    simp [TrafficEvent.not_opened_nil]
  | append_singleton events event ih =>
    have hreserved := hasReserved_run_iff floor registry n events id
    have hnetwork : ((start floor registry n).run events).network = n := network_run _ events
    rw [run_concat]
    generalize (start floor registry n).run events = c at *
    by_cases hconcerns : event.Concerns id
    · cases event with
      | upsert v => exact hconcerns.elim
      | modify other change => exact hconcerns.elim
      | erase other => exact hconcerns.elim
      | track other position radius => exact hconcerns.elim
      | release other =>
        obtain rfl : other = id := hconcerns
        have hnone : (c.step (.release other)).traffic.corridor? other = none :=
          congrArg (Option.map Reservation.corridor)
            ((Traffic.reservation?_release ..).trans (if_pos rfl))
        rw [hnone]
        simp [TrafficEvent.not_opened_concat_release]
      | reserve other asked buffer =>
        obtain rfl : other = id := hconcerns
        change (c.traffic.reserve c.network other asked buffer).2.corridor? other = _ ↔ _
        simp only [TrafficEvent.opened_concat_reserve, and_assoc, exists_and_left, exists_eq_left']
        cases hasked : c.traffic.hasReserved other asked with
        | true =>
          -- The row goes on, and nothing is built.
          obtain ⟨hlast, hskeleton⟩ := (hreserved asked).mp hasked
          rw [Traffic.reserve_of_hasReserved hasked (hnetwork ▸ hskeleton), ih]
          constructor
          · rintro ⟨route, first, hopened, hcorridor⟩
            obtain rfl : route = asked := hlast.unique hopened.lastAsked
            exact ⟨first, Or.inr hopened, hcorridor⟩
          · rintro ⟨first, ⟨hnot, -⟩ | hopened, hcorridor⟩
            · exact absurd hlast hnot
            · exact ⟨asked, first, hopened, hcorridor⟩
        | false =>
          -- If there is a corridor to build, this call opens a row.
          have hnot : ∀ first, (n.skeleton? asked).map (Corridor.around · first) = some corridor →
              ¬TrafficEvent.LastAsked events other asked := by
            intro first hcorridor hlast
            obtain ⟨skeleton, hskeleton, -⟩ := Option.map_eq_some_iff.mp hcorridor
            have htrue := (hreserved asked).mpr ⟨hlast, Option.isSome_of_eq_some hskeleton⟩
            exact absurd (htrue.symm.trans hasked) (by decide)
          rw [Traffic.corridor?_reserve_of_hasReserved hasked, hnetwork]
          constructor
          · exact fun hcorridor => ⟨buffer, Or.inl ⟨hnot buffer hcorridor, rfl⟩, hcorridor⟩
          · rintro ⟨first, ⟨-, rfl⟩ | hopened, hcorridor⟩
            · exact hcorridor
            · exact absurd hopened.lastAsked (hnot first hcorridor)
    · -- The row of the vehicle goes on, and its corridor stays.
      have hsame : (c.step event).traffic.corridor? id = c.traffic.corridor? id :=
        congrArg _ (c.reservation?_step_of_not_concerns hconcerns)
      simp only [hsame, ih, TrafficEvent.opened_concat_of_not_concerns hconcerns]

end Start

/-- What is reserved for a vehicle after a call for a route, where `first` opened the row of calls
that the call belongs to. -/
structure IsFromOpening (n : Network α) (events : List (TrafficEvent α)) (t : Traffic α)
    (id : String) (route : Route) (buffer first : α) : Prop where
  /-- The buffer opened the row, and no other one did. -/
  opened_iff : ∀ other, TrafficEvent.Opened (events ++ [.reserve id route buffer]) id route other
    ↔ other = first
  /-- The corridor is what a rebuild with the buffer that opened the row gives. -/
  corridor?_eq : (t.reserve n id route buffer).2.corridor? id = t.rebuilt? n id route first
  /-- There is a corridor, and it reaches as far as this buffer says. -/
  radius_eq : ∃ corridor, (t.reserve n id route buffer).2.corridor? id = some corridor
    ∧ corridor.radius = max first 0
  /-- A corridor that is built anew opens a row. -/
  first_eq_of_rebuilt : (t.reserve n id route buffer).1 = .rebuilt → first = buffer
  /-- The corridor is what a rebuild with the buffer of the call itself gives exactly if the two
  buffers come to the same. -/
  eq_rebuilt_iff : (t.reserve n id route buffer).2.corridor? id = t.rebuilt? n id route buffer
    ↔ max first 0 = max buffer 0

/-- **A call that leaves a vehicle with a corridor leaves it with the one that opened the row of
calls**, after every run. -/
theorem isFromOpening_reserve (floor : FloorSettings α) (registry : Registry α) (n : Network α)
    (events : List (TrafficEvent α)) (id : String) (route : Route) (buffer : α)
    (h : (((start floor registry n).run events).traffic.reserve n id route buffer).1 = .rebuilt
      ∨ (((start floor registry n).run events).traffic.reserve n id route buffer).1
        = .unchanged) :
    ∃ first, IsFromOpening n events ((start floor registry n).run events).traffic id route buffer
      first := by
  have hnetwork : ((start floor registry n).run events).network = n := network_run _ events
  obtain ⟨corridor, hcorridor⟩ := Traffic.exists_corridor?_reserve h
  have hafter := corridor?_run floor registry n (events ++ [.reserve id route buffer]) id corridor
  rw [run_concat, step, hnetwork] at hafter
  have hreserved := hasReserved_run_iff floor registry n events id route
  obtain ⟨asked, first, hopened, hbuilt⟩ := hafter.mp hcorridor
  generalize ((start floor registry n).run events).traffic = t at *
  obtain ⟨rfl, hfirst⟩ := TrafficEvent.opened_concat_reserve.mp hopened
  obtain ⟨skeleton, hskeleton, rfl⟩ := Option.map_eq_some_iff.mp hbuilt
  have hfrom : (t.reserve n id route buffer).2.corridor? id = t.rebuilt? n id route first := by
    rw [hcorridor, Traffic.rebuilt?_eq, hskeleton]
    rfl
  refine ⟨first, fun other => ⟨hopened.unique, fun hother => hother ▸ hopened⟩, hfrom,
    ⟨_, hcorridor, rfl⟩, fun hrebuilt => ?_, ?_⟩
  · obtain ⟨-, hbuffer⟩ | hearlier := hfirst
    · exact hbuffer.symm
    · have htrue := hreserved.mpr ⟨hearlier.lastAsked, Option.isSome_of_eq_some hskeleton⟩
      exact absurd (htrue.symm.trans (Traffic.hasReserved_eq_false_of_rebuilt hrebuilt))
        (by decide)
  · rw [hfrom, Traffic.rebuilt?_eq, Traffic.rebuilt?_eq, hskeleton, Option.map_some,
      Option.map_some, Option.some.injEq, Corridor.around, Corridor.around, Corridor.mk.injEq]
    exact and_iff_right rfl

/-! ### A corridor that stays as it is -/

/-- One waypoint in one place. -/
def spot : Network α := ({} : Network α).addPoint ⟨1, 1⟩ ⟨0, 0⟩

/-- A vehicle has called for the only waypoint of a network. -/
def parked (buffer : α) : TrafficControl α :=
  (start .standard (.ofList []) spot).run [.reserve "a" [⟨1, 1⟩] buffer]

theorem skeleton?_spot : (spot : Network α).skeleton? [⟨1, 1⟩] = some (.ofPoint ⟨0, 0⟩) := by
  simp [spot, Network.skeleton?, Network.position_addPoint]

theorem unchanged_parked (buffer buffer' : α) :
    (parked buffer).traffic.reserve spot "a" [⟨1, 1⟩] buffer'
      = (.unchanged, (parked buffer).traffic) := by
  have hskeleton : ((spot : Network α).skeleton? [⟨1, 1⟩]).isSome :=
    Option.isSome_of_eq_some skeleton?_spot
  refine Traffic.reserve_of_hasReserved ?_ hskeleton buffer'
  exact (hasReserved_run_iff _ _ _ _ "a" [⟨1, 1⟩]).mpr
    ⟨⟨[], buffer, [], rfl, fun event hevent => absurd hevent List.not_mem_nil⟩, hskeleton⟩

theorem corridor?_parked (buffer : α) :
    (parked buffer).traffic.corridor? "a" = some (.around (.ofPoint ⟨0, 0⟩) buffer) := by
  rw [parked, corridor?_run]
  refine ⟨[⟨1, 1⟩], buffer, ⟨[], [], rfl, TrafficEvent.not_lastAsked_nil _ _, ?_⟩, ?_⟩
  · exact fun event hevent => absurd hevent List.not_mem_nil
  · rw [skeleton?_spot]
    rfl

theorem isFromOpening_parked :
    (((parked (300 : Float)).traffic.reserve spot "a" [⟨1, 1⟩] 500).1 = .rebuilt
        ∨ ((parked (300 : Float)).traffic.reserve spot "a" [⟨1, 1⟩] 500).1 = .unchanged)
      ∧ ∃ first, IsFromOpening spot [.reserve "a" [⟨1, 1⟩] 300] (parked (300 : Float)).traffic "a"
        [⟨1, 1⟩] 500 first := by
  have hunchanged := congrArg Prod.fst (unchanged_parked (300 : Float) 500)
  exact ⟨Or.inr hunchanged, isFromOpening_reserve _ _ _ _ _ _ _ (Or.inr hunchanged)⟩

/-- **A wider buffer is passed over**: the call reports that nothing has changed, and the corridor
is as narrow as it was. -/
theorem corridor?_widened :
    ((parked (300 : ℝ)).traffic.reserve spot "a" [⟨1, 1⟩] 500).1 = .unchanged
      ∧ ((parked (300 : ℝ)).traffic.reserve spot "a" [⟨1, 1⟩] 500).2.corridor? "a"
        ≠ (parked (300 : ℝ)).traffic.rebuilt? spot "a" [⟨1, 1⟩] 500 := by
  rw [unchanged_parked, Traffic.rebuilt?_eq, skeleton?_spot, corridor?_parked]
  refine ⟨rfl, fun h => ?_⟩
  have hradius : max (300 : ℝ) 0 = max 500 0 :=
    congrArg Corridor.radius (Option.some.inj h)
  norm_num at hradius

end TrafficControl

end AgvDispatch
