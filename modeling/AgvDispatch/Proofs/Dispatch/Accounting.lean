import AgvDispatch.Proofs.Dispatch.Fifo
import Mathlib.Algebra.BigOperators.Group.Finset.Basic
import Mathlib.Algebra.BigOperators.Group.Finset.Piecewise
/-!
# What the signals account for

The count of signals of a lane is not the count of its jobs: a signal is given with every job, but
it is settled later, together with all others that the worker owes by then. So the count may be
ahead of the jobs, and what may be concluded from it is one-sided.

* `Lane.Orderly.balanced`: while a signal is left there is one worker, and no worker otherwise; the
  signals are enough for what the worker owes and for the jobs that wait or are being run.
* `Dispatcher.Orderly.lane_eq_empty_of_isBusy`: where no lane is busy, all lanes are empty.
* `Dispatcher.Orderly.total_tally_step`: an event adds to the tally the jobs that it ends. So the
  tally and the jobs that have yet to end make up the jobs that have been submitted
  (`Dispatcher.Orderly.total_tally_run`).
* `RecordedDispatcher.total_tally_eq_iff`: whatever has happened to a dispatcher, its tally is
  complete exactly when all jobs have ended.
-/

namespace AgvDispatch

open Std (TreeMap)

variable {J : Type}

/-- Looking for an entry of a map is looking for one among its pairs. -/
theorem any_eq_any_toList {κ β : Type} {cmp : κ → κ → Ordering} (m : TreeMap κ β cmp)
    (p : κ → β → Bool) : m.any p = m.toList.any fun entry => p entry.1 entry.2 := by
  -- The map is walked through by a loop that is left at the first hit.
  have hloop : m.any p = Id.run (do
      for entry in m do
        if p entry.1 entry.2 then return true
      return false) := rfl
  rw [hloop, TreeMap.forIn_eq_forIn_toList]
  induction m.toList with
  | nil => rfl
  | cons entry rest ih =>
    rw [List.any_cons, ← ih, List.forIn_cons]
    cases p entry.1 entry.2 <;> simp

/-! ### The signals of one lane -/

namespace Lane

/-- **Whether the signals of a lane account for its jobs and its workers.** -/
structure Balanced (lane : Lane J) : Prop where
  /-- A signal is left exactly as long as there is a worker. -/
  signals_pos_iff : 0 < lane.signals ↔ lane.workers ≠ []
  /-- There is no second worker. -/
  length_workers_le : lane.workers.length ≤ 1
  /-- What a worker owes can be taken off the count. -/
  owed_le : ∀ worker ∈ lane.workers, worker.owed ≤ lane.signals
  /-- There is a signal for each job that waits or is being run. -/
  length_add_length_le : lane.waiting.length + lane.running.length ≤ lane.signals

/-- A worker holds back a signal for the job that it runs. -/
theorem length_toList_job?_le (worker : Worker J) : worker.job?.toList.length ≤ worker.held := by
  unfold Worker.job? Worker.held
  cases worker.phase <;> simp

theorem Orderly.balanced {lane : Lane J} (h : lane.Orderly) : lane.Balanced := by
  cases h with
  | idle => exact ⟨by simp, by simp, by simp, by simp [running]⟩
  | @working waiting signals worker hpos hle hcovered =>
    have hrunning : (⟨waiting, signals, [worker]⟩ : Lane J).running = worker.job?.toList := by
      unfold running
      cases hjob : worker.job? <;> simp [hjob]
    have hheld := length_toList_job?_le worker
    refine ⟨?_, ?_, ?_, ?_⟩
    · have hsignals : 0 < signals := by omega
      simp [hsignals]
    · simp
    · simpa using hle
    · rw [hrunning]
      show waiting.length + worker.job?.toList.length ≤ signals
      omega

end Lane

/-! ### Lanes at rest -/

/-- The number of jobs in a tally. -/
def JobTally.total (tally : JobTally) : ℕ :=
  tally.executed + tally.failed + tally.panicked

@[simp] theorem JobTally.total_count (tally : JobTally) (outcome : JobOutcome) :
    (tally.count outcome).total = tally.total + 1 := by
  cases outcome <;> simp only [count, total] <;> omega

namespace Dispatcher

/-- A dispatcher is busy if the lane of a key is. -/
theorem isBusy_iff {d : Dispatcher J} : d.isBusy = true ↔ ∃ key, (d.lane key).isBusy = true := by
  unfold isBusy
  rw [any_eq_any_toList, List.any_eq_true]
  constructor
  · rintro ⟨⟨key, found⟩, hmem, hbusy⟩
    have hlane : d.lanes[key]? = some found := TreeMap.mem_toList_iff_getElem?_eq_some.mp hmem
    refine ⟨key, ?_⟩
    rw [lane, TreeMap.get?_eq_getElem?, hlane]
    exact hbusy
  · rintro ⟨key, hbusy⟩
    unfold lane at hbusy
    cases hlane : d.lanes.get? key with
    | none =>
      rw [hlane] at hbusy
      cases hbusy
    | some found =>
      rw [hlane] at hbusy
      exact ⟨(key, found), TreeMap.mem_toList_iff_getElem?_eq_some.mpr hlane, hbusy⟩

/-- **Where no lane is busy, all lanes are empty.** -/
theorem Orderly.lane_eq_empty_of_isBusy {d : Dispatcher J} (h : d.Orderly)
    (hbusy : d.isBusy = false) (key : String) : d.lane key = {} := by
  refine h.lane_eq_empty ?_
  by_contra hlane
  have hsome := isBusy_iff.mpr ⟨key, Bool.of_not_eq_false hlane⟩
  rw [hbusy] at hsome
  cases hsome

end Dispatcher

/-! ### The tally -/

namespace DispatchEvent

/-- The key that an event is about. -/
def key? : DispatchEvent J → Option String
  | .submit key _ | .unregister key | .wake key _ | .finish key _ _ => some key
  | .wakeDetached _ _ | .finishDetached _ _ _ | .count _ => none

/-- Whether an event submits a job under a key. -/
def isSubmission : DispatchEvent J → Bool
  | .submit _ _ => true
  | _ => false

/-- Whether an event ends a job without a key. -/
def isLooseEnd : DispatchEvent J → Bool
  | .count _ => true
  | _ => false

/-- Of the keys of a set that an event is about, the event submits one job if it submits any. -/
theorem sum_length_submits {event : DispatchEvent J} {keys : Finset String}
    (hkeys : ∀ key ∈ event.key?, key ∈ keys) :
    ∑ key ∈ keys, (event.submits key).length = if event.isSubmission then 1 else 0 := by
  cases event with
  | submit owner job =>
    have howner : owner ∈ keys := hkeys owner rfl
    simp [submits, isSubmission, apply_ite List.length, howner]
  | _ => simp [submits, isSubmission]

end DispatchEvent

namespace Dispatcher

/-- The jobs under some keys that have yet to end. -/
def outstanding (d : Dispatcher J) (keys : Finset String) : ℕ :=
  ∑ key ∈ keys, ((d.lane key).waiting.length + (d.lane key).running.length)

theorem outstanding_empty (keys : Finset String) : ({} : Dispatcher J).outstanding keys = 0 := by
  have hempty : ∀ key, ({} : Dispatcher J).lane key = {} := by simp [lane]
  simp [outstanding, hempty, Lane.running]

/-- A job is outstanding from its submission to its end. -/
theorem Orderly.outstanding_step {d : Dispatcher J} (h : d.Orderly) (event : DispatchEvent J)
    (keys : Finset String) :
    (d.step event).outstanding keys + ∑ key ∈ keys, (d.ends event key).length
      = d.outstanding keys + ∑ key ∈ keys, (event.submits key).length := by
  unfold outstanding
  rw [← Finset.sum_add_distrib, ← Finset.sum_add_distrib]
  refine Finset.sum_congr rfl fun key _ => ?_
  -- A job that is started moves from the line to the worker, so that it counts on both sides.
  have hstep := h.step_lane event key
  have hline := congrArg List.length (hstep.waiting_append (h.lanes key))
  have hrun := congrArg List.length (hstep.running_append (h.lanes key))
  rw [List.length_append, List.length_append] at hline hrun
  omega

/-- **An event adds to the tally the jobs that it ends.** -/
theorem Orderly.total_tally_step {d : Dispatcher J} (h : d.Orderly) {event : DispatchEvent J}
    {keys : Finset String} (hkeys : ∀ key ∈ event.key?, key ∈ keys) :
    (d.step event).tally.total = d.tally.total + ∑ key ∈ keys, (d.ends event key).length
      + if event.isLooseEnd then 1 else 0 := by
  have hmodify : ∀ (key : String) (f : Lane J → Lane J), (d.modifyLane key f).tally = d.tally := by
    intro key f
    unfold modifyLane
    split <;> rfl
  cases event with
  | submit owner job => simp [Dispatcher.step, submit, ends, DispatchEvent.isLooseEnd]
  | unregister owner =>
    have htally : (d.unregister owner).tally = d.tally := by
      unfold Dispatcher.unregister
      split <;> rfl
    simp [Dispatcher.step, htally, ends, DispatchEvent.isLooseEnd]
  | wake owner i => simp [Dispatcher.step, wake, hmodify, ends, DispatchEvent.isLooseEnd]
  | finish owner i outcome =>
    have howner : owner ∈ keys := hkeys owner rfl
    have hends : ∑ key ∈ keys, (d.ends (.finish owner i outcome) key).length
        = ((d.lane owner).running? i).toList.length := by
      simp [ends, apply_ite List.length, howner]
    rw [hends]
    simp only [Dispatcher.step, finish, DispatchEvent.isLooseEnd]
    cases (d.lane owner).running? i with
    | none => simp
    | some job => simp [Dispatcher.count, hmodify]
  | wakeDetached n i => simp [Dispatcher.step, h.wakeDetached, ends, DispatchEvent.isLooseEnd]
  | finishDetached n i outcome =>
    simp [Dispatcher.step, h.finishDetached, ends, DispatchEvent.isLooseEnd]
  | count outcome => simp [Dispatcher.step, Dispatcher.count, ends, DispatchEvent.isLooseEnd]

/-- The dispatcher after a sequence of events. -/
def run (d : Dispatcher J) (events : List (DispatchEvent J)) : Dispatcher J :=
  events.foldl step d

/-- **The tally and the outstanding jobs** make up the jobs that have been submitted and those
without a key that have ended. -/
theorem Orderly.total_tally_run {d : Dispatcher J} (h : d.Orderly)
    {events : List (DispatchEvent J)} {keys : Finset String}
    (hkeys : ∀ event ∈ events, ∀ key ∈ event.key?, key ∈ keys) :
    (d.run events).tally.total + (d.run events).outstanding keys
      = d.tally.total + d.outstanding keys + events.countP DispatchEvent.isSubmission
        + events.countP DispatchEvent.isLooseEnd := by
  induction events generalizing d with
  | nil => rfl
  | cons event later ih =>
    rw [List.forall_mem_cons] at hkeys
    have hrest := ih (h.step event) hkeys.2
    have htally := h.total_tally_step hkeys.1
    have houtstanding := h.outstanding_step event keys
    rw [DispatchEvent.sum_length_submits hkeys.1] at houtstanding
    rw [List.countP_cons, List.countP_cons]
    show ((d.step event).run later).tally.total + ((d.step event).run later).outstanding keys = _
    omega

end Dispatcher

/-! ### All events -/

namespace RecordedDispatcher

/-- The record of a dispatcher from the beginning. -/
def ofEvents (events : List (DispatchEvent J)) : RecordedDispatcher J :=
  ({} : RecordedDispatcher J).run events

theorem dispatcher_run (r : RecordedDispatcher J) (events : List (DispatchEvent J)) :
    (r.run events).dispatcher = r.dispatcher.run events := by
  induction events generalizing r with
  | nil => rfl
  | cons event later ih => exact ih (r.step event)

theorem ofEvents_append (past later : List (DispatchEvent J)) :
    ofEvents (past ++ later) = (ofEvents past).run later :=
  List.foldl_append

theorem dispatcher_ofEvents_concat (events : List (DispatchEvent J)) (event : DispatchEvent J) :
    (ofEvents (events ++ [event])).dispatcher = (ofEvents events).dispatcher.step event := by
  rw [ofEvents_append]
  rfl

theorem accounted_ofEvents (events : List (DispatchEvent J)) : (ofEvents events).Accounted :=
  accounted_empty.run events

/-- All jobs of a key have ended exactly if none waits or is being run. -/
theorem Accounted.ended_eq_submitted_iff {r : RecordedDispatcher J} (h : r.Accounted)
    (key : String) : r.ended key = r.submitted key
      ↔ (r.dispatcher.lane key).waiting = [] ∧ (r.dispatcher.lane key).running = [] := by
  rw [h.submitted_eq, h.started_eq, List.append_assoc, List.self_eq_append_right,
    List.append_eq_nil_iff, and_comm]

/-- If nothing is going on under a key, all its jobs have ended. -/
theorem Accounted.ended_eq_submitted {r : RecordedDispatcher J} (h : r.Accounted) {key : String}
    (hlane : r.dispatcher.lane key = {}) : r.ended key = r.submitted key := by
  refine (h.ended_eq_submitted_iff key).mpr ?_
  rw [hlane]
  exact ⟨rfl, rfl⟩

/-- The tally and the outstanding jobs make up the jobs that have been submitted and those without a
key that have ended, over any keys that include the ones that are ever mentioned. -/
theorem total_tally_ofEvents {events : List (DispatchEvent J)} {keys : Finset String}
    (hkeys : (events.filterMap DispatchEvent.key?).toFinset ⊆ keys) :
    (ofEvents events).dispatcher.tally.total + (ofEvents events).dispatcher.outstanding keys
      = events.countP DispatchEvent.isSubmission + events.countP DispatchEvent.isLooseEnd := by
  have hmentioned : ∀ event ∈ events, ∀ key ∈ event.key?, key ∈ keys := by
    intro event hevent key hkey
    exact hkeys (List.mem_toFinset.mpr (List.mem_filterMap.mpr ⟨event, hevent, hkey⟩))
  have htotal := (Dispatcher.orderly_empty (J := J)).total_tally_run hmentioned
  have hstart : ({} : Dispatcher J).tally.total = 0 := rfl
  rw [Dispatcher.outstanding_empty, hstart, Nat.zero_add] at htotal
  have hrun : (ofEvents events).dispatcher = ({} : Dispatcher J).run events :=
    dispatcher_run {} events
  rw [hrun]
  exact htotal

/-- **The tally is complete exactly when all jobs have ended.** It then holds the jobs that have
been submitted and those without a key that have ended. -/
theorem total_tally_eq_iff (events : List (DispatchEvent J)) :
    (ofEvents events).dispatcher.tally.total = events.countP DispatchEvent.isSubmission
        + events.countP DispatchEvent.isLooseEnd
      ↔ ∀ key, (ofEvents events).ended key = (ofEvents events).submitted key := by
  have h := accounted_ofEvents events
  let mentioned : Finset String := (events.filterMap DispatchEvent.key?).toFinset
  constructor
  · intro htally key
    -- The key may be one that is never mentioned.
    have htotal := total_tally_ofEvents (Finset.subset_insert key mentioned)
    have hnone : (ofEvents events).dispatcher.outstanding (insert key mentioned) = 0 := by omega
    have hlane := Finset.sum_eq_zero_iff.mp hnone key (Finset.mem_insert_self key mentioned)
    rw [Nat.add_eq_zero_iff, List.length_eq_zero_iff, List.length_eq_zero_iff] at hlane
    exact (h.ended_eq_submitted_iff key).mpr hlane
  · intro hended
    have htotal := total_tally_ofEvents (Finset.Subset.refl mentioned)
    have hnone : (ofEvents events).dispatcher.outstanding mentioned = 0 := by
      refine Finset.sum_eq_zero fun key _ => ?_
      obtain ⟨hwaiting, hrunning⟩ := (h.ended_eq_submitted_iff key).mp (hended key)
      rw [hwaiting, hrunning]
      rfl
    omega

/-- Where no lane is busy, the tally is complete. -/
theorem total_tally_of_isBusy {events : List (DispatchEvent J)}
    (hbusy : (ofEvents events).dispatcher.isBusy = false) :
    (ofEvents events).dispatcher.tally.total = events.countP DispatchEvent.isSubmission
      + events.countP DispatchEvent.isLooseEnd := by
  have h := accounted_ofEvents events
  exact (total_tally_eq_iff events).mpr fun key =>
    h.ended_eq_submitted (h.orderly.lane_eq_empty_of_isBusy hbusy key)

end RecordedDispatcher

end AgvDispatch
