import AgvDispatch.Dispatch.Dispatcher
import AgvDispatch.Proofs.Dispatch.Lane
/-!
# First in, first out

What happens to a dispatcher is a sequence of **events** in any order: jobs are submitted under
keys, keys are unregistered, workers have their turns, and jobs end, well or not. A dispatcher on
record (`RecordedDispatcher`) keeps for each key the jobs that were submitted, started and ended.

Whatever happens, the jobs of a key are run in the order of their submission, each of them once and
one at a time; no job is forgotten, however the jobs before it ended; and the jobs of other keys
have no say in it (`RecordedDispatcher.firstInFirstOut_run`).
-/

namespace AgvDispatch

variable {J : Type}

/-- What may happen to a dispatcher. -/
inductive DispatchEvent (J : Type) where
  /-- A job is submitted under a key. -/
  | submit (key : String) (job : J)
  /-- A key is unregistered. -/
  | unregister (key : String)
  /-- A worker of a key that is not running a job has its turn. -/
  | wake (key : String) (worker : ℕ)
  /-- The job that a worker of a key runs ends. -/
  | finish (key : String) (worker : ℕ) (outcome : JobOutcome)
  /-- A worker of a closed lane has its turn. -/
  | wakeDetached (lane worker : ℕ)
  /-- The job that a worker of a closed lane runs ends. -/
  | finishDetached (lane worker : ℕ) (outcome : JobOutcome)
  /-- A job without a key ends. -/
  | count (outcome : JobOutcome)

/-- The jobs that an event submits under a key. -/
def DispatchEvent.submits (event : DispatchEvent J) (key : String) : List J :=
  match event with
  | .submit owner job => if owner = key then [job] else []
  | _ => []

/-- Whether an event is a turn of the worker of a key. -/
def DispatchEvent.isTurn (key : String) : DispatchEvent J → Bool
  | .wake owner worker => owner == key && worker == 0
  | _ => false

namespace Dispatcher

/-- The dispatcher after an event. -/
def step (d : Dispatcher J) : DispatchEvent J → Dispatcher J
  | .submit key job => d.submit key job
  | .unregister key => d.unregister key
  | .wake key i => d.wake key i
  | .finish key i outcome => d.finish key i outcome
  | .wakeDetached n i => d.wakeDetached n i
  | .finishDetached n i outcome => d.finishDetached n i outcome
  | .count outcome => d.count outcome

/-- The jobs of a key that an event has a worker start. -/
def starts (d : Dispatcher J) (event : DispatchEvent J) (key : String) : List J :=
  match event with
  | .wake owner i => if owner = key then ((d.lane owner).taken? i).toList else []
  | _ => []

/-- The jobs of a key that an event ends. -/
def ends (d : Dispatcher J) (event : DispatchEvent J) (key : String) : List J :=
  match event with
  | .finish owner i _ => if owner = key then ((d.lane owner).running? i).toList else []
  | _ => []

/-! ### Lanes after an event -/

theorem lane_submit (d : Dispatcher J) (key : String) (job : J) (other : String) :
    (d.submit key job).lane other
      = if key = other then (d.lane other).submit job else d.lane other := by
  unfold lane submit
  simp only [Std.TreeMap.get?_eq_getElem?, Std.TreeMap.getElem?_insert,
    Std.LawfulEqCmp.compare_eq_iff_eq]
  split
  · rename_i hkey
    subst hkey
    rfl
  · rfl

/-- A key whose lane is not open has an empty lane, on which the step of a worker has no effect. -/
theorem lane_modifyLane (d : Dispatcher J) (key : String) {f : Lane J → Lane J} (hf : f {} = {})
    (other : String) :
    (d.modifyLane key f).lane other = if key = other then f (d.lane other) else d.lane other := by
  unfold modifyLane
  cases hlane : d.lanes.get? key with
  | none =>
    simp only
    split
    · rename_i hkey
      subst hkey
      unfold lane
      rw [hlane, Option.getD_none, hf]
    · rfl
  | some found =>
    unfold lane
    simp only [Std.TreeMap.get?_eq_getElem?, Std.TreeMap.getElem?_insert,
      Std.LawfulEqCmp.compare_eq_iff_eq]
    split
    · rename_i hkey
      subst hkey
      rw [Std.TreeMap.get?_eq_getElem?] at hlane
      rw [hlane]
      rfl
    · rfl

theorem lane_wake (d : Dispatcher J) (key : String) (i : ℕ) (other : String) :
    (d.wake key i).lane other = if key = other then (d.lane other).wake i else d.lane other :=
  d.lane_modifyLane key (Lane.wake_empty i) other

theorem lane_finish (d : Dispatcher J) (key : String) (i : ℕ) (outcome : JobOutcome)
    (other : String) : (d.finish key i outcome).lane other
      = if key = other then (d.lane other).finish i else d.lane other := by
  unfold finish
  split
  · rename_i hrunning
    split
    · rename_i hkey
      subst hkey
      exact (Lane.finish_of_running?_eq_none hrunning).symm
    · rfl
  · exact d.lane_modifyLane key (Lane.finish_empty i) other

/-! ### Keys after an event -/

theorem mem_keys_submit (d : Dispatcher J) (key : String) (job : J) (other : String) :
    other ∈ (d.submit key job).keys ↔ key = other ∨ other ∈ d.keys := by
  unfold keys submit
  simp only [Std.TreeMap.mem_keys, Std.TreeMap.mem_insert, Std.LawfulEqCmp.compare_eq_iff_eq]

theorem mem_keys_modifyLane (d : Dispatcher J) (key : String) (f : Lane J → Lane J)
    (other : String) : other ∈ (d.modifyLane key f).keys ↔ other ∈ d.keys := by
  unfold modifyLane
  cases hlane : d.lanes.get? key with
  | none => exact Iff.rfl
  | some found =>
    unfold keys
    simp only [Std.TreeMap.mem_keys, Std.TreeMap.mem_insert, Std.LawfulEqCmp.compare_eq_iff_eq]
    refine or_iff_right_of_imp ?_
    rintro rfl
    rw [← Std.TreeMap.isSome_getElem?_iff_mem, ← Std.TreeMap.get?_eq_getElem?, hlane]
    rfl

theorem mem_keys_wake (d : Dispatcher J) (key : String) (i : ℕ) (other : String) :
    other ∈ (d.wake key i).keys ↔ other ∈ d.keys :=
  d.mem_keys_modifyLane key _ other

theorem mem_keys_finish (d : Dispatcher J) (key : String) (i : ℕ) (outcome : JobOutcome)
    (other : String) : other ∈ (d.finish key i outcome).keys ↔ other ∈ d.keys := by
  unfold finish
  split
  · exact Iff.rfl
  · exact d.mem_keys_modifyLane key _ other

/-- A key that is unregistered is left exactly if its lane is busy. -/
theorem mem_keys_unregister_self (d : Dispatcher J) (key : String) :
    key ∈ (d.unregister key).keys ↔ (d.lane key).isBusy = true := by
  unfold unregister isIdle lane keys
  rw [Std.TreeMap.get?_eq_getElem?]
  cases hlane : d.lanes[key]? with
  | none =>
    rw [if_neg Bool.false_ne_true, Std.TreeMap.mem_keys, ← Std.TreeMap.isSome_getElem?_iff_mem,
      hlane]
    exact Iff.rfl
  | some found =>
    cases hbusy : found.isBusy with
    | false => simp [hbusy]
    | true =>
      simp only [hbusy, Bool.not_true, Bool.false_eq_true, if_false, Option.getD_some, iff_true]
      rw [Std.TreeMap.mem_keys, ← Std.TreeMap.isSome_getElem?_iff_mem, hlane]
      rfl

theorem mem_keys_unregister_of_ne (d : Dispatcher J) {key other : String} (hne : key ≠ other) :
    other ∈ (d.unregister key).keys ↔ other ∈ d.keys := by
  unfold unregister
  split
  · unfold keys
    simp only [Std.TreeMap.mem_keys, Std.TreeMap.mem_erase, ne_eq,
      Std.LawfulEqCmp.compare_eq_iff_eq, hne, not_false_eq_true, true_and]
  · exact Iff.rfl

/-- **Whether a dispatcher is in order**: so is every lane, and no closed lane goes on. -/
structure Orderly (d : Dispatcher J) : Prop where
  /-- Every lane is in order. -/
  lanes : ∀ key, (d.lane key).Orderly
  /-- No worker runs jobs of a closed lane. -/
  detached_eq : d.detached = []

theorem orderly_empty : ({} : Dispatcher J).Orderly := by
  refine ⟨fun key => ?_, rfl⟩
  have hempty : ({} : Dispatcher J).lane key = {} := by simp [lane]
  rw [hempty]
  exact .idle

/-- There is no closed lane whose worker could do anything. -/
theorem Orderly.wakeDetached {d : Dispatcher J} (h : d.Orderly) (n i : ℕ) :
    d.wakeDetached n i = d := by
  unfold Dispatcher.wakeDetached
  rw [h.detached_eq, List.getElem?_nil]

theorem Orderly.finishDetached {d : Dispatcher J} (h : d.Orderly) (n i : ℕ) (outcome : JobOutcome) :
    d.finishDetached n i outcome = d := by
  unfold Dispatcher.finishDetached
  rw [h.detached_eq, List.getElem?_nil]

/-- A lane that is not busy has no signal left, so nothing is going on in it. -/
theorem Orderly.lane_eq_empty {d : Dispatcher J} (h : d.Orderly) {key : String}
    (hquiet : (d.lane key).isBusy = false) : d.lane key = {} :=
  (h.lanes key).eq_empty (by simpa [Lane.isBusy] using hquiet)

/-- So it is with a lane that can be closed. -/
theorem Orderly.lane_eq_empty_of_isIdle {d : Dispatcher J} (h : d.Orderly) {key : String}
    (hidle : d.isIdle key = true) : d.lane key = {} := by
  refine h.lane_eq_empty ?_
  unfold isIdle at hidle
  unfold lane
  cases hlane : d.lanes.get? key with
  | none => rfl
  | some found =>
    rw [hlane] at hidle
    simpa using hidle

/-- Unregistering a key leaves every lane as it is, as it closes empty lanes only. -/
theorem Orderly.unregister {d : Dispatcher J} (h : d.Orderly) (key : String) :
    (∀ other, (d.unregister key).lane other = d.lane other)
      ∧ (d.unregister key).detached = [] := by
  unfold Dispatcher.unregister
  split
  · rename_i hidle
    have hempty := h.lane_eq_empty_of_isIdle hidle
    refine ⟨fun other => ?_, ?_⟩
    · by_cases hkey : key = other
      · subst hkey
        rw [hempty]
        simp [lane]
      · simp [lane, Std.TreeMap.getElem?_erase, hkey]
    · simp only [hempty]
      exact h.detached_eq
  · exact ⟨fun other => rfl, h.detached_eq⟩

/-- **What an event does to the lane of a key.** -/
theorem Orderly.step_lane {d : Dispatcher J} (h : d.Orderly) (event : DispatchEvent J)
    (key : String) : (d.lane key).Step ((d.step event).lane key) (event.submits key)
      (d.starts event key) (d.ends event key) := by
  cases event with
  | submit owner job =>
    simp only [step, DispatchEvent.submits, starts, ends]
    rw [lane_submit]
    split
    · exact .submitted job
    · exact .idle
  | unregister owner =>
    simp only [step, DispatchEvent.submits, starts, ends]
    rw [(h.unregister owner).1]
    exact .idle
  | wake owner i =>
    simp only [step, DispatchEvent.submits, starts, ends]
    rw [lane_wake]
    split
    · rename_i howner
      subst howner
      exact .woken i
    · exact .idle
  | finish owner i outcome =>
    simp only [step, DispatchEvent.submits, starts, ends]
    rw [lane_finish]
    split
    · rename_i howner
      subst howner
      exact .finished i
    · exact .idle
  | wakeDetached n i =>
    simp only [step, DispatchEvent.submits, starts, ends]
    rw [h.wakeDetached]
    exact .idle
  | finishDetached n i outcome =>
    simp only [step, DispatchEvent.submits, starts, ends]
    rw [h.finishDetached]
    exact .idle
  | count outcome => exact .idle

/-- **Every event keeps a dispatcher in order.** -/
theorem Orderly.step {d : Dispatcher J} (h : d.Orderly) (event : DispatchEvent J) :
    (d.step event).Orderly := by
  refine ⟨fun key => (h.lanes key).step (h.step_lane event key), ?_⟩
  cases event with
  | submit owner job => exact h.detached_eq
  | unregister owner => exact (h.unregister owner).2
  | wake owner i =>
    simp only [Dispatcher.step, wake, modifyLane]
    split <;> exact h.detached_eq
  | finish owner i outcome =>
    simp only [Dispatcher.step, finish, modifyLane]
    split
    · exact h.detached_eq
    · split <;> exact h.detached_eq
  | wakeDetached n i =>
    exact (congrArg Dispatcher.detached (h.wakeDetached n i)).trans h.detached_eq
  | finishDetached n i outcome =>
    exact (congrArg Dispatcher.detached (h.finishDetached n i outcome)).trans h.detached_eq
  | count outcome => exact h.detached_eq

/-- An event that is not a turn of the worker of a key does not defer the next job of the key, and
starts none. -/
theorem Orderly.due_step {d : Dispatcher J} (h : d.Orderly) {key : String} {next : J} {turns : ℕ}
    (hdue : (d.lane key).Due next turns) {event : DispatchEvent J}
    (hevent : event.isTurn key = false) :
    ((d.step event).lane key).Due next turns ∧ d.starts event key = [] := by
  cases event with
  | submit owner job =>
    refine ⟨?_, rfl⟩
    simp only [Dispatcher.step]
    rw [lane_submit]
    split
    · exact hdue.submit job
    · exact hdue
  | unregister owner =>
    refine ⟨?_, rfl⟩
    simp only [Dispatcher.step]
    rw [(h.unregister owner).1]
    exact hdue
  | wake owner i =>
    simp only [Dispatcher.step, starts]
    rw [lane_wake]
    split
    · rename_i howner
      subst howner
      have hi : i ≠ 0 := by simpa [DispatchEvent.isTurn] using hevent
      obtain ⟨hwake, htaken⟩ := hdue.wake_of_ne_zero hi
      rw [hwake, htaken]
      exact ⟨hdue, rfl⟩
    · exact ⟨hdue, rfl⟩
  | finish owner i outcome =>
    refine ⟨?_, rfl⟩
    simp only [Dispatcher.step]
    rw [lane_finish]
    split
    · rw [hdue.finish]
      exact hdue
    · exact hdue
  | wakeDetached n i =>
    simp only [Dispatcher.step]
    rw [h.wakeDetached]
    exact ⟨hdue, rfl⟩
  | finishDetached n i outcome =>
    simp only [Dispatcher.step]
    rw [h.finishDetached]
    exact ⟨hdue, rfl⟩
  | count outcome => exact ⟨hdue, rfl⟩

end Dispatcher

/-- **A dispatcher on record**, with the jobs that have been submitted, started and ended under each
key so far, the oldest first. -/
structure RecordedDispatcher (J : Type) where
  /-- The dispatcher. -/
  dispatcher : Dispatcher J := {}
  /-- The jobs that have been submitted. -/
  submitted : String → List J := fun _ => []
  /-- The jobs that have been started. -/
  started : String → List J := fun _ => []
  /-- The jobs that have ended. -/
  ended : String → List J := fun _ => []

namespace RecordedDispatcher

/-- The record after an event. -/
def step (r : RecordedDispatcher J) (event : DispatchEvent J) : RecordedDispatcher J where
  dispatcher := r.dispatcher.step event
  submitted := fun key => r.submitted key ++ event.submits key
  started := fun key => r.started key ++ r.dispatcher.starts event key
  ended := fun key => r.ended key ++ r.dispatcher.ends event key

/-- The record after a sequence of events. -/
def run (r : RecordedDispatcher J) (events : List (DispatchEvent J)) : RecordedDispatcher J :=
  events.foldl step r

/-- **What a record shows of the jobs of a key.** -/
structure FirstInFirstOut (r : RecordedDispatcher J) (key : String) : Prop where
  /-- The jobs start in the order of submission, each of them once, and the others still wait. -/
  submitted_eq : r.submitted key = r.started key ++ (r.dispatcher.lane key).waiting
  /-- The jobs end in that order, too, and the others are being run. -/
  started_eq : r.started key = r.ended key ++ (r.dispatcher.lane key).running
  /-- At most one job is being run. -/
  length_running_le : (r.dispatcher.lane key).running.length ≤ 1
  /-- No job is run by a worker of a closed lane. -/
  detached_eq : r.dispatcher.detached = []
  /-- A job starts only after all jobs before it have ended. -/
  ended_eq_of_starts : ∀ event, r.dispatcher.starts event key ≠ [] → r.ended key = r.started key
  /-- If no worker can do anything while a job waits, a job before it is being run. -/
  running_ne_nil_of_quiet :
    (∀ worker ∈ (r.dispatcher.lane key).workers, worker.job?.isSome = true) →
    (r.dispatcher.lane key).waiting ≠ [] → (r.dispatcher.lane key).running ≠ []
  /-- However a job ends, its worker starts the next one in its next turn. -/
  started_of_finish : ∀ worker outcome next rest,
    ((r.dispatcher.lane key).running? worker).isSome = true →
    (r.dispatcher.lane key).waiting = next :: rest →
    (r.run [.finish key worker outcome, .wake key worker]).started key = r.started key ++ [next]
  /-- A job whose predecessors have ended starts within two turns of its worker, whatever happens in
  between. -/
  started_of_turns : ∀ next rest events, (r.dispatcher.lane key).running = [] →
    (r.dispatcher.lane key).waiting = next :: rest →
    2 ≤ events.countP (DispatchEvent.isTurn key) →
    r.started key ++ [next] <+: (r.run events).started key

/-- What every event keeps of a record. -/
structure Accounted (r : RecordedDispatcher J) : Prop where
  /-- The dispatcher is in order. -/
  orderly : r.dispatcher.Orderly
  /-- What has been submitted has been started or waits. -/
  submitted_eq : ∀ key, r.submitted key = r.started key ++ (r.dispatcher.lane key).waiting
  /-- What has been started has ended or is being run. -/
  started_eq : ∀ key, r.started key = r.ended key ++ (r.dispatcher.lane key).running

theorem accounted_empty : ({} : RecordedDispatcher J).Accounted := by
  have hempty : ∀ key, ({} : Dispatcher J).lane key = {} := by simp [Dispatcher.lane]
  refine ⟨Dispatcher.orderly_empty, fun key => ?_, fun key => ?_⟩
  · change [] = [] ++ (({} : Dispatcher J).lane key).waiting
    rw [hempty]
    rfl
  · change [] = [] ++ (({} : Dispatcher J).lane key).running
    rw [hempty]
    rfl

/-- Nothing is taken back from a record. -/
theorem isPrefix_run (r : RecordedDispatcher J) (events : List (DispatchEvent J)) (key : String) :
    r.submitted key <+: (r.run events).submitted key
      ∧ r.started key <+: (r.run events).started key
      ∧ r.ended key <+: (r.run events).ended key := by
  induction events generalizing r with
  | nil => exact ⟨List.prefix_refl _, List.prefix_refl _, List.prefix_refl _⟩
  | cons event later ih =>
    obtain ⟨hsubmitted, hstarted, hended⟩ := ih (r.step event)
    exact ⟨(List.prefix_append _ _).trans hsubmitted, (List.prefix_append _ _).trans hstarted,
      (List.prefix_append _ _).trans hended⟩

namespace Accounted

variable {r : RecordedDispatcher J}

/-- **Every event is accounted for.** -/
theorem step (h : r.Accounted) (event : DispatchEvent J) : (r.step event).Accounted := by
  refine ⟨h.orderly.step event, fun key => ?_, fun key => ?_⟩
  · have hline := (h.orderly.step_lane event key).waiting_append (h.orderly.lanes key)
    calc r.submitted key ++ event.submits key
        = r.started key ++ ((r.dispatcher.lane key).waiting ++ event.submits key) := by
          rw [h.submitted_eq, List.append_assoc]
      _ = (r.started key ++ r.dispatcher.starts event key)
          ++ ((r.dispatcher.step event).lane key).waiting := by
          rw [hline, List.append_assoc]
  · have hrun := (h.orderly.step_lane event key).running_append (h.orderly.lanes key)
    calc r.started key ++ r.dispatcher.starts event key
        = r.ended key ++ ((r.dispatcher.lane key).running ++ r.dispatcher.starts event key) := by
          rw [h.started_eq, List.append_assoc]
      _ = (r.ended key ++ r.dispatcher.ends event key)
          ++ ((r.dispatcher.step event).lane key).running := by
          rw [hrun, List.append_assoc]

theorem run (h : r.Accounted) (events : List (DispatchEvent J)) : (r.run events).Accounted := by
  induction events generalizing r with
  | nil => exact h
  | cons event later ih => exact ih (h.step event)

/-- A job starts only after all jobs before it have ended. -/
theorem ended_eq_of_starts (h : r.Accounted) {event : DispatchEvent J} {key : String}
    (hstarts : r.dispatcher.starts event key ≠ []) : r.ended key = r.started key := by
  have hrunning : (r.dispatcher.lane key).running = [] := by
    cases event with
    | wake owner i =>
      simp only [Dispatcher.starts] at hstarts
      split at hstarts
      · rename_i howner
        subst howner
        cases htaken : (r.dispatcher.lane owner).taken? i with
        | none => simp [htaken] at hstarts
        | some job => exact (h.orderly.lanes owner).running_eq_nil_of_taken htaken
      · exact absurd rfl hstarts
    | submit owner job => exact absurd rfl hstarts
    | unregister owner => exact absurd rfl hstarts
    | finish owner i outcome => exact absurd rfl hstarts
    | wakeDetached n i => exact absurd rfl hstarts
    | finishDetached n i outcome => exact absurd rfl hstarts
    | count outcome => exact absurd rfl hstarts
  rw [h.started_eq, hrunning, List.append_nil]

/-- However a job ends, its worker starts the next one in its next turn. -/
theorem started_of_finish (h : r.Accounted) {key : String} {i : ℕ} (outcome : JobOutcome)
    (hrunning : ((r.dispatcher.lane key).running? i).isSome = true) {next : J} {rest : List J}
    (hwaiting : (r.dispatcher.lane key).waiting = next :: rest) :
    (r.run [.finish key i outcome, .wake key i]).started key = r.started key ++ [next] := by
  have htaken : ((r.dispatcher.lane key).finish i).taken? i = some next :=
    (h.orderly.lanes key).taken?_finish hrunning hwaiting
  change (r.started key ++ []) ++ (if key = key then
    (((r.dispatcher.finish key i outcome).lane key).taken? i).toList else []) = _
  rw [if_pos rfl, Dispatcher.lane_finish, if_pos rfl, htaken, List.append_nil]
  rfl

/-- A turn of the worker starts the job that is due, or brings it closer. -/
theorem started_wake_of_due {key : String} {next : J} {turns : ℕ}
    (hdue : (r.dispatcher.lane key).Due next (turns + 1)) :
    (r.step (.wake key 0)).started key = r.started key ++ [next]
      ∨ ((r.step (.wake key 0)).started key = r.started key
        ∧ ((r.step (.wake key 0)).dispatcher.lane key).Due next turns) := by
  have hstarted : (r.step (.wake key 0)).started key
      = r.started key ++ ((r.dispatcher.lane key).taken? 0).toList := by
    change r.started key ++ (if key = key then _ else []) = _
    rw [if_pos rfl]
  have hlane : (r.step (.wake key 0)).dispatcher.lane key = (r.dispatcher.lane key).wake 0 := by
    refine (Dispatcher.lane_wake _ _ _ _).trans ?_
    rw [if_pos rfl]
  rcases hdue.wake with htaken | ⟨htaken, hdue'⟩
  · rw [htaken] at hstarted
    exact Or.inl hstarted
  · rw [htaken, Option.toList_none, List.append_nil] at hstarted
    rw [hlane]
    exact Or.inr ⟨hstarted, hdue'⟩

/-- A job that is due starts as soon as its worker has had enough turns. -/
theorem started_of_due (h : r.Accounted) {key : String} {next : J} {turns : ℕ}
    (hdue : (r.dispatcher.lane key).Due next turns) {events : List (DispatchEvent J)}
    (hturns : turns ≤ events.countP (DispatchEvent.isTurn key)) :
    r.started key ++ [next] <+: (r.run events).started key := by
  -- Over the events, for any number of turns: a turn of the worker makes it smaller, and no other
  -- event makes it larger.
  induction events generalizing r turns with
  | nil =>
    have hpos := hdue.pos
    rw [List.countP_nil] at hturns
    omega
  | cons event later ih =>
    cases hevent : event.isTurn key with
    | false =>
      rw [List.countP_cons_of_neg (by simp [hevent])] at hturns
      obtain ⟨hdue', hstarts⟩ := h.orderly.due_step hdue hevent
      have hstarted : (r.step event).started key = r.started key := by
        change r.started key ++ r.dispatcher.starts event key = _
        rw [hstarts, List.append_nil]
      rw [← hstarted]
      exact ih (h.step event) hdue' hturns
    | true =>
      rw [List.countP_cons_of_pos hevent] at hturns
      obtain rfl : event = .wake key 0 := by
        cases event with
        | wake owner i =>
          simp only [DispatchEvent.isTurn, Bool.and_eq_true, beq_iff_eq] at hevent
          rw [hevent.1, hevent.2]
        | _ => cases hevent
      obtain ⟨fewer, rfl⟩ : ∃ fewer, turns = fewer + 1 :=
        Nat.exists_eq_succ_of_ne_zero (Nat.pos_iff_ne_zero.mp hdue.pos)
      rcases started_wake_of_due hdue with hstarted | ⟨hstarted, hdue'⟩
      · rw [← hstarted]
        exact (isPrefix_run _ later key).2.1
      · rw [← hstarted]
        exact ih (h.step _) hdue' (by omega)

end Accounted

/-- **First in, first out.** Whatever happens to a dispatcher, in whatever order, the jobs of each
key run in the order of submission, each once and one at a time, and none is forgotten. -/
theorem firstInFirstOut_run (events : List (DispatchEvent J)) (key : String) :
    (({} : RecordedDispatcher J).run events).FirstInFirstOut key := by
  have h := accounted_empty.run events
  have horderly := h.orderly.lanes key
  exact {
    submitted_eq := h.submitted_eq key
    started_eq := h.started_eq key
    length_running_le := horderly.length_running_le
    detached_eq := h.orderly.detached_eq
    ended_eq_of_starts := fun _ hstarts => h.ended_eq_of_starts hstarts
    running_ne_nil_of_quiet := horderly.running_ne_nil_of_quiet
    started_of_finish := fun _ outcome _ _ hrunning hwaiting =>
      h.started_of_finish outcome hrunning hwaiting
    started_of_turns := fun _ _ _ hrunning hwaiting hturns =>
      h.started_of_due (horderly.due hrunning hwaiting) hturns }

end RecordedDispatcher

end AgvDispatch
