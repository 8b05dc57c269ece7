import AgvDispatch.Dispatch.Lane
import Mathlib.Data.List.Basic
import Mathlib.Logic.Function.Iterate
/-!
# One worker at a time

A lane is **orderly** (`Lane.Orderly`) when nothing is going on in it, or it has a single worker
that owes some of the signals, and the others cover the jobs that wait. Every operation keeps a lane
orderly. So a lane has at most one worker, a signal is left as long as a job waits, and the worker
does not end before.

What an operation does to the jobs is written down in `Lane.Step`: jobs are taken from the front of
the line to which they are added at the back (`Lane.Step.waiting_append`), and a job that is taken
is run until it ends (`Lane.Step.running_append`).
-/

namespace AgvDispatch

variable {J : Type}

namespace Worker

/-- The job that a worker runs. -/
def job? (worker : Worker J) : Option J :=
  match worker.phase with
  | .running job => some job
  | _ => none

/-- The signals that a worker keeps from the jobs that wait: the one of the job that it runs, or
those that it is about to settle. -/
def held (worker : Worker J) : ℕ :=
  match worker.phase with
  | .polling => 0
  | .running _ => 1
  | .settling => worker.owed

/-- The turns that a worker takes before it looks for a job or settles again. -/
def turnsLeft (worker : Worker J) : ℕ :=
  match worker.phase with
  | .settling => 0
  | .polling => 1
  | .running _ => 2

end Worker

namespace Lane

/-- The jobs that are being run. -/
def running (lane : Lane J) : List J :=
  lane.workers.filterMap Worker.job?

/-- The job that a worker takes if it has its turn now. -/
def taken? (lane : Lane J) (i : ℕ) : Option J :=
  match lane.workers[i]? with
  | some ⟨_, .polling⟩ => lane.waiting.head?
  | _ => none

/-- **Whether a lane is in order.** -/
inductive Orderly : Lane J → Prop
  /-- Nothing is going on. -/
  | idle : Orderly {}
  /-- A single worker owes some of the signals, and what it does not hold covers the jobs that
  wait. -/
  | working {waiting : List J} {signals : ℕ} {worker : Worker J} (owed_pos : 0 < worker.owed)
    (owed_le : worker.owed ≤ signals) (covered : waiting.length + worker.held ≤ signals) :
    Orderly ⟨waiting, signals, [worker]⟩

/-- What an operation does to a lane, with the jobs that are submitted, taken and ended by it. -/
inductive Step (lane : Lane J) : Lane J → List J → List J → List J → Prop
  /-- The lane is left alone. -/
  | idle : Step lane lane [] [] []
  /-- A job lines up. -/
  | submitted (job : J) : Step lane (lane.submit job) [job] [] []
  /-- A worker has its turn. -/
  | woken (i : ℕ) : Step lane (lane.wake i) [] (lane.taken? i).toList []
  /-- A worker has come to the end of a job. -/
  | finished (i : ℕ) : Step lane (lane.finish i) [] [] (lane.running? i).toList

@[simp] theorem wake_empty (i : ℕ) : ({} : Lane J).wake i = {} := rfl

@[simp] theorem finish_empty (i : ℕ) : ({} : Lane J).finish i = {} := rfl

section

variable {waiting : List J} {signals owed : ℕ} {worker : Worker J} {job : J} {i : ℕ}

/-- There is no second worker that could do anything. -/
theorem wake_of_ne_zero (hi : i ≠ 0) :
    (⟨waiting, signals, [worker]⟩ : Lane J).wake i = ⟨waiting, signals, [worker]⟩ := by
  unfold wake
  simp [hi]

theorem finish_of_ne_zero (hi : i ≠ 0) :
    (⟨waiting, signals, [worker]⟩ : Lane J).finish i = ⟨waiting, signals, [worker]⟩ := by
  unfold finish
  simp [hi]

theorem taken?_of_ne_zero (hi : i ≠ 0) :
    (⟨waiting, signals, [worker]⟩ : Lane J).taken? i = none := by
  unfold taken?
  simp [hi]

theorem running?_of_ne_zero (hi : i ≠ 0) :
    (⟨waiting, signals, [worker]⟩ : Lane J).running? i = none := by
  unfold running?
  simp [hi]

/-- A worker that runs no job has none to end. -/
theorem finish_of_running?_eq_none {lane : Lane J} (hrunning : lane.running? i = none) :
    lane.finish i = lane := by
  unfold running? at hrunning
  unfold finish
  split
  · rename_i hworker
    rw [hworker] at hrunning
    cases hrunning
  · rfl

theorem wake_polling_nil : (⟨[], signals, [⟨owed, .polling⟩]⟩ : Lane J).wake 0
    = ⟨[], signals, [⟨owed, .settling⟩]⟩ := rfl

theorem wake_polling_cons : (⟨job :: waiting, signals, [⟨owed, .polling⟩]⟩ : Lane J).wake 0
    = ⟨waiting, signals, [⟨owed, .running job⟩]⟩ := rfl

theorem wake_settling : (⟨waiting, signals, [⟨owed, .settling⟩]⟩ : Lane J).wake 0
    = if signals - owed = 0 then ⟨waiting, signals - owed, []⟩
      else ⟨waiting, signals - owed, [⟨signals - owed, .polling⟩]⟩ := rfl

end

namespace Orderly

variable {lane lane' : Lane J}

theorem submit (h : lane.Orderly) (job : J) : (lane.submit job).Orderly := by
  cases h with
  | idle => exact .working Nat.zero_lt_one (Nat.le_refl _) (Nat.le_refl _)
  | @working waiting signals worker hpos hle hcovered =>
    -- A signal is left as long as there is a worker, so no second one is started.
    have hsubmit : (⟨waiting, signals, [worker]⟩ : Lane J).submit job
        = ⟨waiting ++ [job], signals + 1, [worker]⟩ := by
      unfold Lane.submit
      rw [if_neg (by dsimp only; omega)]
    rw [hsubmit]
    refine .working hpos (by omega) ?_
    rw [List.length_append, List.length_singleton]
    omega

theorem wake (h : lane.Orderly) (i : ℕ) : (lane.wake i).Orderly := by
  cases h with
  | idle => exact .idle
  | @working waiting signals worker hpos hle hcovered =>
    by_cases hi : i = 0
    · subst hi
      obtain ⟨owed, phase⟩ := worker
      cases phase with
      | running job => exact .working hpos hle hcovered
      | polling =>
        cases waiting with
        | nil =>
          rw [wake_polling_nil]
          exact .working hpos hle (by simpa [Worker.held] using hle)
        | cons job waiting =>
          rw [wake_polling_cons]
          exact .working hpos hle hcovered
      | settling =>
        -- What is left of the signals covers the jobs that wait.
        have hleft : waiting.length ≤ signals - owed := by
          simp only [Worker.held] at hcovered
          omega
        rw [wake_settling]
        split
        · rename_i hzero
          rw [hzero] at hleft ⊢
          rw [List.length_eq_zero_iff.mp (Nat.le_zero.mp hleft)]
          exact .idle
        · rename_i hsome
          exact .working (Nat.pos_of_ne_zero hsome) (Nat.le_refl _) hleft
    · rw [wake_of_ne_zero hi]
      exact .working hpos hle hcovered

theorem finish (h : lane.Orderly) (i : ℕ) : (lane.finish i).Orderly := by
  cases h with
  | idle => exact .idle
  | @working waiting signals worker hpos hle hcovered =>
    by_cases hi : i = 0
    · subst hi
      obtain ⟨owed, phase⟩ := worker
      cases phase with
      | running job => exact .working hpos hle (by simp only [Worker.held] at hcovered ⊢; omega)
      | polling => exact .working hpos hle hcovered
      | settling => exact .working hpos hle hcovered
    · rw [finish_of_ne_zero hi]
      exact .working hpos hle hcovered

/-- **Every step keeps a lane in order.** -/
theorem step {submitted taken ended : List J} (h : lane.Orderly)
    (hstep : lane.Step lane' submitted taken ended) : lane'.Orderly := by
  cases hstep with
  | idle => exact h
  | submitted job => exact h.submit job
  | woken i => exact h.wake i
  | finished i => exact h.finish i

/-- At most one job is being run. -/
theorem length_running_le (h : lane.Orderly) : lane.running.length ≤ 1 := by
  cases h with
  | idle => exact Nat.zero_le 1
  | @working waiting signals worker _ _ _ =>
    exact List.length_filterMap_le Worker.job? [worker]

/-- A lane without signals is empty. -/
theorem eq_empty (h : lane.Orderly) (hsignals : lane.signals = 0) : lane = {} := by
  cases h with
  | idle => rfl
  | working hpos hle _ =>
    dsimp only at hsignals
    omega

/-- A job is taken only if none is being run. -/
theorem running_eq_nil_of_taken (h : lane.Orderly) {i : ℕ} {job : J}
    (htaken : lane.taken? i = some job) : lane.running = [] := by
  cases h with
  | idle => rfl
  | @working waiting signals worker _ _ _ =>
    by_cases hi : i = 0
    · subst hi
      obtain ⟨owed, phase⟩ := worker
      cases phase with
      | polling => rfl
      | running job => cases htaken
      | settling => cases htaken
    · rw [taken?_of_ne_zero hi] at htaken
      cases htaken

/-- A worker that has come to the end of a job takes the one at the head of the line. -/
theorem taken?_finish (h : lane.Orderly) {i : ℕ} (hrunning : (lane.running? i).isSome = true)
    {next : J} {rest : List J} (hwaiting : lane.waiting = next :: rest) :
    (lane.finish i).taken? i = some next := by
  cases h with
  | idle => cases hwaiting
  | @working waiting signals worker _ _ _ =>
    obtain rfl : waiting = next :: rest := hwaiting
    by_cases hi : i = 0
    · subst hi
      obtain ⟨owed, phase⟩ := worker
      cases phase with
      | running job => rfl
      | polling => cases hrunning
      | settling => cases hrunning
    · rw [running?_of_ne_zero hi] at hrunning
      cases hrunning

/-- **No job is forgotten**: if no worker can do anything while a job waits, one is being run. -/
theorem running_ne_nil_of_quiet (h : lane.Orderly)
    (hquiet : ∀ worker ∈ lane.workers, worker.job?.isSome = true) (hwaiting : lane.waiting ≠ []) :
    lane.running ≠ [] := by
  cases h with
  | idle => exact absurd rfl hwaiting
  | @working waiting signals worker _ _ _ =>
    obtain ⟨job, hjob⟩ := Option.isSome_iff_exists.mp (hquiet worker List.mem_cons_self)
    have hrunning : (⟨waiting, signals, [worker]⟩ : Lane J).running = [job] := by
      simp [running, hjob]
    rw [hrunning]
    exact List.cons_ne_nil job []

end Orderly

/-! ### Turns of the worker -/

/-- The lane after its worker has taken a step, or has come to the end of the job that it runs. -/
def turn (lane : Lane J) : Lane J :=
  match lane.running? 0 with
  | some _ => lane.finish 0
  | none => lane.wake 0

/-- A bound on the turns that it takes until nothing is going on. A signal and a job that waits
count for three each, as a job is taken, run and looked past. -/
def turnsLeft (lane : Lane J) : ℕ :=
  3 * (lane.signals + lane.waiting.length) + lane.workers.head?.elim 0 Worker.turnsLeft

namespace Orderly

variable {lane : Lane J}

theorem turn (h : lane.Orderly) : lane.turn.Orderly := by
  unfold Lane.turn
  split
  · exact h.finish 0
  · exact h.wake 0

/-- Every turn gets ahead, as long as a signal is left. -/
theorem turnsLeft_turn_lt (h : lane.Orderly) (hbusy : lane.isBusy = true) :
    lane.turn.turnsLeft < lane.turnsLeft := by
  cases h with
  | idle => cases hbusy
  | @working waiting signals worker hpos hle hcovered =>
    obtain ⟨owed, phase⟩ := worker
    cases phase with
    | running job => exact Nat.lt_succ_self _
    | polling =>
      cases waiting with
      | nil => exact Nat.lt_succ_self _
      | cons job waiting =>
        have hturn : (⟨job :: waiting, signals, [⟨owed, .polling⟩]⟩ : Lane J).turn
            = ⟨waiting, signals, [⟨owed, .running job⟩]⟩ := rfl
        rw [hturn]
        simp only [turnsLeft, List.length_cons, List.head?_cons, Option.elim_some, Worker.turnsLeft]
        omega
    | settling =>
      have hturn : (⟨waiting, signals, [⟨owed, .settling⟩]⟩ : Lane J).turn
          = (⟨waiting, signals, [⟨owed, .settling⟩]⟩ : Lane J).wake 0 := rfl
      rw [hturn, wake_settling]
      -- The worker gives back what it owes, which is not nothing, and polls on if more is left.
      dsimp only at hpos hle
      split
      · simp only [turnsLeft, List.head?_nil, List.head?_cons, Option.elim_none, Option.elim_some,
          Worker.turnsLeft]
        omega
      · simp only [turnsLeft, List.head?_cons, Option.elim_some, Worker.turnsLeft]
        omega

/-- **A lane comes to rest** if its worker is given turns and nothing is submitted. -/
theorem exists_iterate_turn_eq_empty (h : lane.Orderly) : ∃ n, Lane.turn^[n] lane = {} := by
  -- By induction on the turns that are left at most: a busy lane has fewer after a turn.
  induction hleft : lane.turnsLeft using Nat.strongRecOn generalizing lane with
  | ind left ih =>
    by_cases hbusy : lane.isBusy = true
    · subst hleft
      obtain ⟨n, hn⟩ := ih _ (h.turnsLeft_turn_lt hbusy) h.turn rfl
      exact ⟨n + 1, hn⟩
    · have hsignals : lane.signals = 0 := by simpa [isBusy] using hbusy
      exact ⟨0, h.eq_empty hsignals⟩

end Orderly

namespace Step

variable {lane lane' : Lane J} {submitted taken ended : List J}

/-- **Jobs are taken in the order in which they line up.** -/
theorem waiting_append (hstep : lane.Step lane' submitted taken ended) (h : lane.Orderly) :
    lane.waiting ++ submitted = taken ++ lane'.waiting := by
  cases hstep with
  | idle => rw [List.append_nil, List.nil_append]
  | submitted job => rfl
  | woken i =>
    rw [List.append_nil]
    cases h with
    | idle => rfl
    | @working waiting signals worker _ _ _ =>
      by_cases hi : i = 0
      · subst hi
        obtain ⟨owed, phase⟩ := worker
        cases phase with
        | running job => rfl
        | polling => cases waiting <;> rfl
        | settling =>
          rw [wake_settling]
          split <;> rfl
      · rw [wake_of_ne_zero hi, taken?_of_ne_zero hi]
        rfl
  | finished i =>
    rw [List.append_nil]
    unfold finish
    split <;> rfl

/-- **A job that is taken is run until it ends.** -/
theorem running_append (hstep : lane.Step lane' submitted taken ended) (h : lane.Orderly) :
    lane.running ++ taken = ended ++ lane'.running := by
  cases hstep with
  | idle => rw [List.append_nil, List.nil_append]
  | submitted job =>
    cases h with
    | idle => rfl
    | @working waiting signals worker hpos hle _ =>
      unfold running submit
      rw [if_neg (by dsimp only; omega), List.append_nil, List.nil_append]
  | woken i =>
    cases h with
    | idle => rfl
    | @working waiting signals worker _ _ _ =>
      by_cases hi : i = 0
      · subst hi
        obtain ⟨owed, phase⟩ := worker
        cases phase with
        | running job => rfl
        | polling => cases waiting <;> rfl
        | settling =>
          rw [wake_settling]
          split <;> rfl
      · rw [wake_of_ne_zero hi, taken?_of_ne_zero hi]
        exact List.append_nil _
  | finished i =>
    rw [List.append_nil]
    cases h with
    | idle => rfl
    | @working waiting signals worker _ _ _ =>
      by_cases hi : i = 0
      · subst hi
        obtain ⟨owed, phase⟩ := worker
        cases phase <;> rfl
      · rw [finish_of_ne_zero hi, running?_of_ne_zero hi]
        rfl

end Step

/-! ### Turns -/

/-- **Whether the job at the head of the line is taken within a number of turns** of the worker,
whatever else happens to the lane. -/
def Due (lane : Lane J) (next : J) (turns : ℕ) : Prop :=
  ∃ rest signals owed, 0 < signals
    ∧ ((1 ≤ turns ∧ lane = ⟨next :: rest, signals, [⟨owed, .polling⟩]⟩)
      ∨ (2 ≤ turns ∧ owed < signals ∧ lane = ⟨next :: rest, signals, [⟨owed, .settling⟩]⟩))

/-- If no job is being run, two turns are enough. -/
theorem Orderly.due {lane : Lane J} (h : lane.Orderly) (hrunning : lane.running = []) {next : J}
    {rest : List J} (hwaiting : lane.waiting = next :: rest) : lane.Due next 2 := by
  cases h with
  | idle => cases hwaiting
  | @working waiting signals worker hpos hle hcovered =>
    obtain rfl : waiting = next :: rest := hwaiting
    obtain ⟨owed, phase⟩ := worker
    cases phase with
    | running job => cases hrunning
    | polling => exact ⟨rest, signals, owed, Nat.lt_of_lt_of_le hpos hle, Or.inl ⟨by omega, rfl⟩⟩
    | settling =>
      have hleft : owed < signals := by
        simp only [Worker.held, List.length_cons] at hcovered
        omega
      exact ⟨rest, signals, owed, by omega, Or.inr ⟨(Nat.le_refl _), hleft, rfl⟩⟩

namespace Due

variable {lane : Lane J} {next : J} {turns : ℕ}

theorem pos (h : lane.Due next turns) : 0 < turns := by
  obtain ⟨-, -, -, -, ⟨hturns, -⟩ | ⟨hturns, -⟩⟩ := h
  · exact hturns
  · omega

/-- Another job lines up behind. -/
theorem submit (h : lane.Due next turns) (job : J) : (lane.submit job).Due next turns := by
  obtain ⟨rest, signals, owed, hpos, ⟨hturns, rfl⟩ | ⟨hturns, howed, rfl⟩⟩ := h
  · refine ⟨rest ++ [job], signals + 1, owed, Nat.succ_pos _, Or.inl ⟨hturns, ?_⟩⟩
    unfold Lane.submit
    rw [if_neg (by dsimp only; omega), List.cons_append]
  · refine ⟨rest ++ [job], signals + 1, owed, Nat.succ_pos _, Or.inr ⟨hturns, by omega, ?_⟩⟩
    unfold Lane.submit
    rw [if_neg (by dsimp only; omega), List.cons_append]

theorem wake_of_ne_zero (h : lane.Due next turns) {i : ℕ} (hi : i ≠ 0) :
    lane.wake i = lane ∧ lane.taken? i = none := by
  obtain ⟨rest, signals, owed, -, ⟨-, rfl⟩ | ⟨-, -, rfl⟩⟩ := h
  · exact ⟨Lane.wake_of_ne_zero hi, taken?_of_ne_zero hi⟩
  · exact ⟨Lane.wake_of_ne_zero hi, taken?_of_ne_zero hi⟩

theorem finish (h : lane.Due next turns) (i : ℕ) : lane.finish i = lane := by
  obtain ⟨rest, signals, owed, -, ⟨-, rfl⟩ | ⟨-, -, rfl⟩⟩ := h
  · by_cases hi : i = 0
    · subst hi
      rfl
    · exact finish_of_ne_zero hi
  · by_cases hi : i = 0
    · subst hi
      rfl
    · exact finish_of_ne_zero hi

/-- A turn of the worker takes the job, or brings it closer. -/
theorem wake (h : lane.Due next (turns + 1)) : lane.taken? 0 = some next
    ∨ (lane.taken? 0 = none ∧ (lane.wake 0).Due next turns) := by
  obtain ⟨rest, signals, owed, -, ⟨-, rfl⟩ | ⟨hturns, howed, rfl⟩⟩ := h
  · exact Or.inl rfl
  · refine Or.inr ⟨rfl, rest, signals - owed, signals - owed, by omega, Or.inl ⟨by omega, ?_⟩⟩
    rw [wake_settling, if_neg (by omega)]

end Due

end Lane

end AgvDispatch
