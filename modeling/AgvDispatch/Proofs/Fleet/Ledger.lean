import AgvDispatch.Proofs.Fleet.Delivery
/-!
# Counting commands

With a sink that accepts every command, each command is counted twice: when it is emitted, and when
it has been delivered. `Fleet.Ledger` says that a fleet has emitted a number of commands. Every
event adds to it the commands that it emits (`Fleet.Ledger.step`), and once no lane is busy that
many commands have been delivered (`Fleet.Ledger.count_sink_eq`).

To let every command reach the sink is to have workers take steps (`Fleet.exists_settle_eq_run`).
-/

namespace AgvDispatch

theorem Sink.Accepting.count_send {sink : Sink} (h : sink.Accepting) (id : String)
    (command : VehicleCommand) : (sink.send id command).count = sink.count + 1 := by
  simp only [Sink.send, h.answer_eq, Sink.count, List.length_cons]

theorem Sink.accepting_empty : ({} : Sink).Accepting := by
  intro id answer hanswer
  simp at hanswer

variable {α : Type} [Scalar α]

namespace Fleet

/-- **Whether a fleet has emitted a number of commands**, all of which are or will be delivered. -/
structure Ledger (f : Fleet α) (emitted : ℕ) : Prop where
  accepting : f.sink.Accepting
  /-- The commands that have been delivered are the jobs that have ended. -/
  count_eq : f.sink.count = f.dispatcher.tally.total
  /-- The commands that have been emitted are the jobs that have been submitted. -/
  record : ∃ events, (RecordedDispatcher.ofEvents events).dispatcher = f.dispatcher
    ∧ events.countP DispatchEvent.isSubmission = emitted
    ∧ events.countP DispatchEvent.isLooseEnd = 0

theorem ledger_start (settings : Settings α) (registry : Registry α) (n : Network α)
    (hook : Option (AllocationHook α)) : (start settings registry n hook {}).Ledger 0 :=
  ⟨Sink.accepting_empty, rfl, [], rfl, rfl, rfl⟩

namespace Ledger

variable {f : Fleet α} {emitted : ℕ}

/-- Only the dispatcher and the sink matter. -/
theorem of_eq {g : Fleet α} (h : f.Ledger emitted) (hdispatcher : g.dispatcher = f.dispatcher)
    (hsink : g.sink = f.sink) : g.Ledger emitted := by
  obtain ⟨haccepting, hcount, hrecord⟩ := h
  refine ⟨hsink ▸ haccepting, ?_, ?_⟩
  · rw [hsink, hdispatcher, hcount]
  · rwa [hdispatcher]

/-- A fleet goes on by an event of the dispatcher that is about a key. -/
theorem of_step {g : Fleet α} (h : f.Ledger emitted) (event : DispatchEvent VehicleCommand)
    {owner : String} (hkey : event.key? = some owner) (hsink : g.sink.Accepting)
    (hdispatcher : g.dispatcher = f.dispatcher.step event)
    (hcount : g.sink.count = f.sink.count + (f.dispatcher.ends event owner).length) :
    g.Ledger (emitted + if event.isSubmission then 1 else 0) := by
  obtain ⟨events, hevents, hsubmissions, hloose⟩ := h.record
  have hlooseEnd : event.isLooseEnd = false := by
    cases event <;> first | rfl | cases hkey
  refine ⟨hsink, ?_, events ++ [event], ?_, ?_, ?_⟩
  · have horderly := (RecordedDispatcher.accounted_ofEvents events).orderly
    rw [hevents] at horderly
    have howner : ∀ key ∈ event.key?, key ∈ ({owner} : Finset String) := by simp [hkey]
    have htotal := horderly.total_tally_step howner
    rw [hlooseEnd, Finset.sum_singleton] at htotal
    rw [hdispatcher, htotal, hcount, h.count_eq]
    simp
  · rw [RecordedDispatcher.dispatcher_ofEvents_concat, hevents, hdispatcher]
  · rw [List.countP_append, hsubmissions, List.countP_singleton]
  · rw [List.countP_append, hloose, List.countP_singleton, hlooseEnd]
    rfl

/-- **Every event adds the commands that it emits.** It emits one command to one vehicle, or none.
-/
theorem step (h : f.Ledger emitted) (event : FleetEvent α) :
    ((f.step event).Ledger emitted ∧ ∀ id, (f.outcome event id).emitted = [])
      ∨ ((f.step event).Ledger (emitted + 1) ∧ ∃ id, (f.outcome event id).emitted ≠ []) := by
  have hends : ∀ {sink : Sink} (event : DispatchEvent VehicleCommand) (owner : String),
      sink = f.sink → f.dispatcher.ends event owner = [] →
      sink.Accepting ∧ sink.count = f.sink.count + (f.dispatcher.ends event owner).length := by
    rintro sink event owner rfl hnone
    rw [hnone]
    exact ⟨h.accepting, rfl⟩
  cases f.transfer_step event with
  | idle hdispatcher hsink hemitted => exact Or.inl ⟨h.of_eq hdispatcher hsink, hemitted⟩
  | submitted owner command hdispatcher hsink hemitted =>
    obtain ⟨haccepting, hcount⟩ := hends (.submit owner command) owner hsink rfl
    refine Or.inr ⟨h.of_step (.submit owner command) rfl haccepting hdispatcher hcount, owner, ?_⟩
    rw [hemitted, if_pos rfl]
    exact List.cons_ne_nil command []
  | unregistered owner _ hdispatcher hsink hemitted =>
    obtain ⟨haccepting, hcount⟩ := hends (.unregister owner) owner hsink rfl
    exact Or.inl ⟨h.of_step (.unregister owner) rfl haccepting hdispatcher hcount, hemitted⟩
  | woken owner i hdispatcher hsink hemitted =>
    obtain ⟨haccepting, hcount⟩ := hends (.wake owner i) owner hsink rfl
    exact Or.inl ⟨h.of_step (.wake owner i) rfl haccepting hdispatcher hcount, hemitted⟩
  | handedOver owner i command hrunning hdispatcher hsink hemitted =>
    have hcount : (f.step event).sink.count = f.sink.count
        + (f.dispatcher.ends (.finish owner i (f.sink.answer owner).outcome) owner).length := by
      rw [hsink, h.accepting.count_send]
      simp [Dispatcher.ends, hrunning]
    refine Or.inl ⟨?_, hemitted⟩
    exact h.of_step (.finish owner i _) rfl (hsink ▸ h.accepting.send owner command) hdispatcher
      hcount

theorem step_of_silent (h : f.Ledger emitted) (event : FleetEvent α)
    (hsilent : ∀ id, (f.outcome event id).emitted = []) : (f.step event).Ledger emitted := by
  rcases h.step event with ⟨hledger, -⟩ | ⟨-, id, hne⟩
  · exact hledger
  · exact absurd (hsilent id) hne

theorem step_of_emitted (h : f.Ledger emitted) {event : FleetEvent α} {id : String}
    (hne : (f.outcome event id).emitted ≠ []) : (f.step event).Ledger (emitted + 1) := by
  rcases h.step event with ⟨-, hsilent⟩ | ⟨hledger, -⟩
  · exact absurd (hsilent id) hne
  · exact hledger

/-- **Once no lane is busy every command that has been emitted has been delivered.** -/
theorem count_sink_eq (h : f.Ledger emitted) (hbusy : f.dispatcher.isBusy = false) :
    f.sink.count = emitted := by
  obtain ⟨events, hevents, hsubmissions, hloose⟩ := h.record
  rw [← hevents] at hbusy
  have htotal := RecordedDispatcher.total_tally_of_isBusy hbusy
  rw [hevents, hsubmissions, hloose] at htotal
  exact h.count_eq.trans htotal

end Ledger

end Fleet

/-! ### Workers -/

/-- Whether an event is a step of a worker. -/
def FleetEvent.IsDelivery : FleetEvent α → Prop
  | .deliver _ _ => True
  | _ => False

namespace Fleet

theorem run_append (f : Fleet α) (events later : List (FleetEvent α)) :
    f.run (events ++ later) = (f.run events).run later :=
  List.foldl_append

/-- **To let every command reach the sink is to have workers take steps.** -/
theorem exists_settle_eq_run (f : Fleet α) : ∃ events : List (FleetEvent α),
    (∀ event ∈ events, event.IsDelivery) ∧ f.settle = f.run events := by
  have hdrain : ∀ (fuel : ℕ) (g : Fleet α) (id : String), ∃ events : List (FleetEvent α),
      (∀ event ∈ events, event.IsDelivery) ∧ drainLane fuel g id = g.run events := by
    intro fuel
    induction fuel with
    | zero => exact fun g id => ⟨[], by simp, rfl⟩
    | succ fuel ih =>
      intro g id
      unfold drainLane
      split
      · exact ⟨[], by simp, rfl⟩
      · obtain ⟨events, hevents, heq⟩ := ih (g.deliver id 0) id
        refine ⟨.deliver id 0 :: events, ?_, heq⟩
        rw [List.forall_mem_cons]
        exact ⟨trivial, hevents⟩
  unfold settle
  generalize f.dispatcher.keys = ids
  induction ids generalizing f with
  | nil => exact ⟨[], by simp, rfl⟩
  | cons id ids ih =>
    obtain ⟨first, hfirst, hdrained⟩ := hdrain (2 * (f.dispatcher.lane id).signals + 8) f id
    obtain ⟨later, hlater, heq⟩ := ih (drainLane (2 * (f.dispatcher.lane id).signals + 8) f id)
    refine ⟨first ++ later, List.forall_mem_append.mpr ⟨hfirst, hlater⟩, ?_⟩
    rw [List.foldl_cons, heq, hdrained, run_append]

/-- Workers emit nothing. -/
theorem Ledger.run_of_isDelivery {f : Fleet α} {emitted : ℕ} (h : f.Ledger emitted)
    {events : List (FleetEvent α)} (hevents : ∀ event ∈ events, event.IsDelivery) :
    (f.run events).Ledger emitted := by
  induction events generalizing f with
  | nil => exact h
  | cons event events ih =>
    rw [List.forall_mem_cons] at hevents
    obtain ⟨hevent, hlater⟩ := hevents
    have hsilent : ∀ id, (f.outcome event id).emitted = [] := by
      intro id
      cases event with
      | deliver => rfl
      | _ => cases hevent
    exact ih (h.step_of_silent event hsilent) hlater

end Fleet

end AgvDispatch
