import AgvDispatch.Proofs.Fleet.Delivery
import AgvDispatch.Proofs.Traffic.Footprint
/-!
# Vehicles that are offline

What is left of a vehicle that has been taken offline, as long as no command is emitted to it.

* The traffic state holds nothing for it, until it reports again (`Fleet.forgotten_run`).
* Its lane at the dispatcher is closed if it is not busy when the vehicle goes offline. A lane that
  is busy stays open for good (`Fleet.mem_keys_run_takeOffline`): it comes to rest once its worker
  has had enough turns (`Fleet.exists_drained`), but there is no event that closes it then.

So a vehicle leaves nothing behind exactly if its lane is not busy at that moment
(`Fleet.departure_run`).
-/

namespace AgvDispatch.Fleet

variable {α : Type} [Scalar α]

/-- Whether an event neither takes a vehicle offline nor emits a command to it. -/
def LeavesAlone (id : String) (f : Fleet α) (event : FleetEvent α) : Prop :=
  event ≠ .takeOffline id ∧ (f.outcome event id).emitted = []

/-- Whether the traffic state holds nothing for a vehicle. -/
def Forgotten (f : Fleet α) (id : String) : Prop :=
  f.traffic.reservation? id = none ∧ f.traffic.footprints.get? id = none

/-- **Whether a vehicle that is taken offline leaves nothing behind**: once all its commands have
ended and no more have been emitted, its lane is closed, and unless it has reported again the
traffic state holds nothing for it. -/
def LeavesNothing (f : Fleet α) (id : String) : Prop :=
  ∀ after, (f.step (.takeOffline id)).Along (LeavesAlone id) after →
    (((f.step (.takeOffline id)).run after).dispatcher.lane id).waiting = [] →
    (((f.step (.takeOffline id)).run after).dispatcher.lane id).running = [] →
      id ∉ ((f.step (.takeOffline id)).run after).dispatcher.keys
        ∧ ((∀ r, .report r ∈ after → r.vehicleId ≠ id) →
          ((f.step (.takeOffline id)).run after).Forgotten id)

/-! ### The lane -/

/-- An event of a fleet is one of the dispatcher, or none. -/
theorem dispatcher_step (f : Fleet α) (event : FleetEvent α) :
    (f.step event).dispatcher = f.dispatcher
      ∨ ∃ d, (f.step event).dispatcher = f.dispatcher.step d := by
  cases f.transfer_step event with
  | idle h => exact Or.inl h
  | submitted owner command h => exact Or.inr ⟨.submit owner command, h⟩
  | unregistered owner _ h => exact Or.inr ⟨.unregister owner, h⟩
  | woken owner i h => exact Or.inr ⟨.wake owner i, h⟩
  | handedOver owner i command _ h => exact Or.inr ⟨.finish owner i _, h⟩

theorem orderly_run {f : Fleet α} (h : f.dispatcher.Orderly) (events : List (FleetEvent α)) :
    (f.run events).dispatcher.Orderly := by
  refine invariant_run (I := fun f => f.dispatcher.Orderly) (fun f event h => ?_) h events
  obtain heq | ⟨d, heq⟩ := f.dispatcher_step event
  · rwa [heq]
  · rw [heq]
    exact h.step d

/-- A lane is opened by a command to its vehicle and closed when the vehicle goes offline, and
otherwise it is left as it is. -/
theorem mem_keys_step {f : Fleet α} {event : FleetEvent α} {id : String}
    (h : f.LeavesAlone id event) :
    id ∈ (f.step event).dispatcher.keys ↔ id ∈ f.dispatcher.keys := by
  obtain ⟨hoffline, hsilent⟩ := h
  cases f.transfer_step event with
  | idle hdispatcher => rw [hdispatcher]
  | submitted owner command hdispatcher _ hemitted =>
    have hne : owner ≠ id := by
      rintro rfl
      rw [hemitted, if_pos rfl] at hsilent
      exact List.cons_ne_nil _ _ hsilent
    rw [hdispatcher, Dispatcher.mem_keys_submit, or_iff_right hne]
  | unregistered owner hevent hdispatcher =>
    have hne : owner ≠ id := by
      rintro rfl
      exact hoffline hevent
    rw [hdispatcher, Dispatcher.mem_keys_unregister_of_ne _ hne]
  | woken owner i hdispatcher => rw [hdispatcher, Dispatcher.mem_keys_wake]
  | handedOver owner i command _ hdispatcher => rw [hdispatcher, Dispatcher.mem_keys_finish]

/-- **The lane of a vehicle that has been taken offline is left exactly if it was busy.** -/
theorem mem_keys_run_takeOffline {f : Fleet α} {id : String} {after : List (FleetEvent α)}
    (h : (f.step (.takeOffline id)).Along (LeavesAlone id) after) :
    id ∈ ((f.step (.takeOffline id)).run after).dispatcher.keys
      ↔ (f.dispatcher.lane id).isBusy = true :=
  h.invariant (I := fun g => id ∈ g.dispatcher.keys ↔ (f.dispatcher.lane id).isBusy = true)
    (fun _ _ hg hevent => (mem_keys_step hevent).trans hg)
    (f.dispatcher.mem_keys_unregister_self id)

/-! ### Workers bring a lane to rest -/

theorem lane_deliver (f : Fleet α) (id : String) :
    (f.deliver id 0).dispatcher.lane id = (f.dispatcher.lane id).turn := by
  unfold deliver Lane.turn
  cases (f.dispatcher.lane id).running? 0 with
  | none => exact (f.dispatcher.lane_wake id 0 id).trans (if_pos rfl)
  | some command => exact (f.dispatcher.lane_finish id 0 _ id).trans (if_pos rfl)

theorem lane_run_replicate (f : Fleet α) (id : String) (n : ℕ) :
    (f.run (List.replicate n (.deliver id 0))).dispatcher.lane id
      = Lane.turn^[n] (f.dispatcher.lane id) := by
  induction n generalizing f with
  | zero => rfl
  | succ n ih =>
    rw [Function.iterate_succ_apply, ← f.lane_deliver]
    exact ih (f.deliver id 0)

theorem along_replicate (f : Fleet α) (id other : String) (n : ℕ) :
    f.Along (LeavesAlone id) (List.replicate n (.deliver other 0)) := by
  induction n generalizing f with
  | zero => trivial
  | succ n ih => exact ⟨⟨by simp, rfl⟩, ih _⟩

/-- **All commands of a vehicle end** if its worker is given turns and nothing else happens. -/
theorem exists_drained {f : Fleet α} (h : f.dispatcher.Orderly) (id : String) :
    ∃ after, f.Along (LeavesAlone id) after ∧ (f.run after).dispatcher.lane id = {} := by
  obtain ⟨n, hn⟩ := (h.lanes id).exists_iterate_turn_eq_empty
  exact ⟨List.replicate n (.deliver id 0), f.along_replicate id id n,
    (f.lane_run_replicate id n).trans hn⟩

/-! ### The traffic state -/

/-- A plan that sends the vehicle nowhere reserves nothing for it. -/
theorem forgotten_plan {f : Fleet α} {id : String} (h : f.Forgotten id) (owner : String)
    (candidate : Route) (hsilent : owner = id →
      (Outcome.ofPlan (f.backlog.head? owner) (f.plan owner candidate).1).emitted = []) :
    (f.plan owner candidate).2.Forgotten id := by
  obtain ⟨-, heq⟩ | ⟨task, hhead, -, -, -, ⟨-, heq⟩ | ⟨-, heq⟩⟩ := f.plan_cases owner candidate
  · rwa [heq]
  · rw [heq]
    exact h
  -- A plan that is committed reserves for its owner, and sends a move command to it.
  · have hne : id ≠ owner := by
      rintro rfl
      rw [heq, hhead] at hsilent
      exact List.cons_ne_nil _ _ (hsilent rfl)
    have htraffic : (f.plannedFleet owner task candidate).traffic
        = (f.traffic.reserve f.network owner (f.plannedTask owner task candidate).effectiveRoute
          f.settings.traffic.bufferRadius).2 := rfl
    rw [heq]
    unfold Forgotten
    rw [htraffic, Traffic.reservation?_reserve_of_ne _ _ hne, Traffic.footprints_reserve]
    exact h

theorem forgotten_planRemaining {f : Fleet α} {id : String} (h : f.Forgotten id) (owner : String)
    (hsilent : owner = id →
      (Outcome.ofPlan (f.backlog.head? owner) (f.planRemaining owner).1).emitted = []) :
    (f.planRemaining owner).2.Forgotten id := by
  obtain ⟨-, heq⟩ | ⟨task, -, ⟨-, -, heq⟩ | ⟨-, heq⟩⟩ := f.planRemaining_cases owner
  · rwa [heq]
  · rwa [heq]
  · rw [heq] at hsilent ⊢
    exact forgotten_plan h owner _ hsilent

/-- **Only a command to a vehicle and a report of it give it a share of the traffic again.** -/
theorem forgotten_step {f : Fleet α} {event : FleetEvent α} {id : String} (h : f.Forgotten id)
    (hevent : f.LeavesAlone id event) (hreport : ∀ r, event = .report r → r.vehicleId ≠ id) :
    (f.step event).Forgotten id := by
  have hsilent := hevent.2
  have hsame : ∀ {g : Fleet α}, g.traffic = f.traffic → g.Forgotten id := fun heq => by
    unfold Forgotten
    rwa [heq]
  cases f.change_step event with
  | idle _ htraffic | assigned _ _ _ _ htraffic | staged _ _ _ _ _ _ _ htraffic
  | deferred _ _ _ _ _ _ _ _ _ _ htraffic => exact hsame htraffic
  | planned owner task candidate hplan =>
    obtain rfl | ⟨rfl, -⟩ := hplan
    · refine forgotten_plan h owner candidate ?_
      rintro rfl
      simpa only [outcome, if_pos] using hsilent
    · refine forgotten_planRemaining h owner ?_
      rintro rfl
      simpa only [outcome, if_pos] using hsilent
  | reported r v his _ _ htraffic =>
    have hne := hreport r his
    unfold Forgotten
    rw [htraffic, Traffic.reservation?_reserve_of_ne _ _ hne.symm, Traffic.reservation?_track,
      Traffic.footprints_reserve, Traffic.get?_footprints_track_of_ne _ hne]
    exact h
  -- The end of a sub-task and going offline only take something out of the traffic state.
  | closed owner _ _ _ _ htraffic =>
    unfold Forgotten
    rw [htraffic, Traffic.reservation?_dropReservation, h.1, ite_self]
    exact ⟨rfl, h.2⟩
  | released owner _ _ htraffic =>
    unfold Forgotten
    rw [htraffic, Traffic.reservation?_release, Traffic.get?_footprints_release, h.1, h.2, ite_self,
      ite_self]
    exact ⟨rfl, rfl⟩

theorem forgotten_run {f : Fleet α} {id : String} (h : f.Forgotten id) {after : List (FleetEvent α)}
    (hafter : f.Along (LeavesAlone id) after)
    (hreports : ∀ r, .report r ∈ after → r.vehicleId ≠ id) : (f.run after).Forgotten id := by
  induction after generalizing f with
  | nil => exact h
  | cons event later ih =>
    refine ih (forgotten_step h hafter.1 fun r heq => ?_) hafter.2 fun r hr =>
      hreports r (List.mem_cons_of_mem _ hr)
    exact hreports r (heq ▸ List.mem_cons_self)

theorem forgotten_takeOffline (f : Fleet α) (id : String) :
    (f.step (.takeOffline id)).Forgotten id :=
  ⟨(f.traffic.reservation?_release id id).trans (if_pos rfl),
    (f.traffic.get?_footprints_release id id).trans (if_pos rfl)⟩

/-! ### What is left -/

theorem leavesNothing_of_idle {f : Fleet α} {id : String}
    (hidle : (f.dispatcher.lane id).isBusy = false) : f.LeavesNothing id := by
  intro after hafter _ _
  refine ⟨fun hmem => ?_, forgotten_run (f.forgotten_takeOffline id) hafter⟩
  rw [mem_keys_run_takeOffline hafter, hidle] at hmem
  cases hmem

theorem not_leavesNothing_of_busy {f : Fleet α} (h : f.dispatcher.Orderly) {id : String}
    (hbusy : (f.dispatcher.lane id).isBusy = true) : ¬ f.LeavesNothing id := by
  intro hnothing
  -- Turns of the worker end all commands, but do not close the lane.
  obtain ⟨after, hafter, hempty⟩ := exists_drained (orderly_run h [.takeOffline id]) id
  have hlane : ((f.step (.takeOffline id)).run after).dispatcher.lane id = {} := hempty
  have hclosed := (hnothing after hafter (by rw [hlane]) (by rw [hlane]; rfl)).1
  exact hclosed ((mem_keys_run_takeOffline hafter).mpr hbusy)

/-- What is left of a vehicle that is taken offline. -/
structure Departure (f : Fleet α) (id : String) : Prop where
  /-- The vehicle leaves nothing behind exactly if its lane is not busy. -/
  leavesNothing_iff : f.LeavesNothing id ↔ (f.dispatcher.lane id).isBusy = false
  /-- A lane that is busy stays open, also when all its commands have ended. -/
  mem_keys_iff : ∀ after, (f.step (.takeOffline id)).Along (LeavesAlone id) after →
    (id ∈ ((f.step (.takeOffline id)).run after).dispatcher.keys
      ↔ (f.dispatcher.lane id).isBusy = true)
  /-- The traffic state holds nothing for the vehicle until it reports again. -/
  forgotten : ∀ after, (f.step (.takeOffline id)).Along (LeavesAlone id) after →
    (∀ r, .report r ∈ after → r.vehicleId ≠ id) →
      ((f.step (.takeOffline id)).run after).Forgotten id

/-- **A vehicle that goes offline leaves nothing behind exactly if its lane is not busy**, whatever
has happened before. -/
theorem departure_run (settings : Settings α) (registry : Registry α) (n : Network α)
    (hook : Option (AllocationHook α)) (sink : Sink) (before : List (FleetEvent α)) (id : String) :
    ((start settings registry n hook sink).run before).Departure id := by
  have horderly : ((start settings registry n hook sink).run before).dispatcher.Orderly :=
    orderly_run Dispatcher.orderly_empty before
  refine ⟨⟨fun hnothing => ?_, leavesNothing_of_idle⟩, fun after => mem_keys_run_takeOffline,
    fun after => forgotten_run (forgotten_takeOffline _ id)⟩
  by_contra hbusy
  exact not_leavesNothing_of_busy horderly (Bool.not_eq_false _ ▸ hbusy) hnothing

/-! ### A lane that is left open -/

theorem dispatcher_step_cancel {f : Fleet α} {id : String} {reason : CancelReason}
    {task : SubTask α} (hhead : f.backlog.head? id = some task)
    (hmay : task.stage.mayBecome .cancel = true) : (f.step (.cancel id reason)).dispatcher
      = f.dispatcher.submit id (.cancel task.id) := by
  have hcancel : f.cancel id reason
      = .ok ({ task.setStage .cancel with cancelReason := some reason },
        (f.closeHead id).emit id (.cancel task.id)) :=
    cancel_eq_ok_iff.mpr ⟨task, hhead, hmay, rfl⟩
  simp only [step, hcancel]
  rfl

/-- The command to give the sub-task up waits when the vehicle goes offline. -/
theorem lane_cancelled_tour : ((tourStart [] : Fleet Float).run
    [.assign tourOrder, .cancel "a" .vehicleOffline]).dispatcher.lane "a"
      = ({} : Lane VehicleCommand).submit (.cancel "tour-1") := by
  have hassigned : ((tourStart [] : Fleet Float).step (.assign tourOrder)).dispatcher = {} :=
    (line_assign _ _).1
  change (((tourStart [] : Fleet Float).step (.assign tourOrder)).step
    (.cancel "a" .vehicleOffline)).dispatcher.lane "a" = _
  rw [dispatcher_step_cancel (head?_assigned []) rfl, Dispatcher.lane_submit, if_pos rfl, hassigned]
  simp only [Dispatcher.lane, Std.TreeMap.get?_eq_getElem?, Std.TreeMap.getElem?_emptyc,
    Option.getD_none]
  rfl

/-- **A vehicle goes offline while a command waits for it**: its worker hands the command over in
four turns, and the lane is still open then. -/
theorem mem_keys_cancelled_tour :
    let f := (tourStart [] : Fleet Float).run [.assign tourOrder, .cancel "a" .vehicleOffline]
    let after := [.deliver "a" 0, .deliver "a" 0, .deliver "a" 0, .deliver "a" 0]
    (f.step (.takeOffline "a")).Along (LeavesAlone "a") after
      ∧ ((f.step (.takeOffline "a")).run after).dispatcher.lane "a" = {}
      ∧ "a" ∈ ((f.step (.takeOffline "a")).run after).dispatcher.keys
      ∧ ¬ f.LeavesNothing "a" := by
  intro f after
  have hlane : f.dispatcher.lane "a" = ({} : Lane VehicleCommand).submit (.cancel "tour-1") :=
    lane_cancelled_tour
  have hbusy : (f.dispatcher.lane "a").isBusy = true := by
    rw [hlane]
    rfl
  have horderly : f.dispatcher.Orderly := orderly_run Dispatcher.orderly_empty _
  have hafter : (f.step (.takeOffline "a")).Along (LeavesAlone "a") after :=
    along_replicate _ "a" "a" 4
  refine ⟨hafter, ?_, (mem_keys_run_takeOffline hafter).mpr hbusy,
    not_leavesNothing_of_busy horderly hbusy⟩
  -- Going offline does not touch a lane that is busy.
  have hkept : (f.step (.takeOffline "a")).dispatcher.lane "a" = f.dispatcher.lane "a" :=
    (horderly.unregister "a").1 "a"
  have hturns := (f.step (.takeOffline "a")).lane_run_replicate "a" 4
  rw [hkept, hlane] at hturns
  exact hturns

end AgvDispatch.Fleet
