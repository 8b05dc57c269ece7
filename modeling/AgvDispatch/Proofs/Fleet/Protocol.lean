import AgvDispatch.Proofs.Fleet.Lifecycle
import Mathlib.Data.List.Chain
/-!
# The protocol of commands

The commands for one sub-task follow a **protocol** (`VehicleCommand.Protocol`): the vehicle is sent
on its way before it is interrupted, it is not sent on while it is interrupted, interruptions end in
turn, and nothing follows once the sub-task has been given up.

The order of commands is not kept anywhere. It comes about because each command takes the sub-task
along an edge of the graph of stages: `Stage.told?` is the part of the graph that commands go along.
Its edges are those of the protocol and one more, from the first stage to the stage of driving,
which is meant for a plan but open to `Fleet.resume` as well.

* `Transcript.Heard.run`: in every run, the commands for the head of a queue lead along these edges
  to its stage.
* `Transcript.Heard.isOk_resume_iff`: a sub-task is taken up from the stage of an interruption or
  from the first stage.
* `Transcript.protocol_iff`: the protocol is kept in exactly those runs in which no sub-task is
  taken up in the first stage.
-/

namespace AgvDispatch

/-! ### The protocol -/

namespace VehicleCommand

/-- The kinds of the commands that interrupt a vehicle or have it get ready again, in order. -/
def interruptions (commands : List VehicleCommand) : List String :=
  (commands.map kind).filter fun kind => kind = "pause" || kind = "resume"

/-- **The protocol of the commands for one sub-task.** -/
structure Protocol (commands : List VehicleCommand) : Prop where
  /-- Pauses and resumes take turns. -/
  alternate : (interruptions commands).IsChain (· ≠ ·)
  /-- The first of them is a pause. -/
  head?_ne : (interruptions commands).head? ≠ some "resume"
  /-- By then the vehicle has been sent on its way. -/
  exists_move : ∀ before command after, commands = before ++ command :: after →
    command.kind = "pause" ∨ command.kind = "resume" → ∃ earlier ∈ before, earlier.kind = "move"
  /-- It is not sent on between a pause and its resume. -/
  kind_ne_move : ∀ before id between after,
    commands = before ++ .pause id :: (between ++ after) →
    (∀ command ∈ between, command.kind ≠ "resume") → ∀ command ∈ between, command.kind ≠ "move"
  /-- Nothing follows a cancel, another one included. -/
  eq_nil_of_cancel : ∀ before id after, commands = before ++ .cancel id :: after → after = []

end VehicleCommand

/-! ### Commands along the graph of stages -/

namespace Stage

/-- The stage that a sub-task has been taken to by a command, if the command may be given in a
stage. -/
def told? : Stage → VehicleCommand → Option Stage
  | new, .move .. | run, .move .. | new, .resume _ | pause, .resume _ => some run
  | run, .pause _ => some pause
  | new, .cancel _ | run, .cancel _ | pause, .cancel _ => some cancel
  | _, _ => none

/-- The stage that a sub-task has been taken to by a sequence of commands. -/
def toldAll? (s : Stage) (commands : List VehicleCommand) : Option Stage :=
  commands.foldlM told? s

theorem toldAll?_cons {s t : Stage} {command : VehicleCommand} {rest : List VehicleCommand} :
    s.toldAll? (command :: rest) = some t ↔ ∃ u, s.told? command = some u
      ∧ u.toldAll? rest = some t := by
  unfold toldAll?
  rw [List.foldlM_cons]
  exact Option.bind_eq_some_iff

theorem toldAll?_append {s t : Stage} {before after : List VehicleCommand} :
    s.toldAll? (before ++ after) = some t ↔ ∃ u, s.toldAll? before = some u
      ∧ u.toldAll? after = some t := by
  unfold toldAll?
  rw [List.foldlM_append]
  exact Option.bind_eq_some_iff

variable {s t : Stage} {commands : List VehicleCommand}

/-- Nothing is told about a sub-task that has been given up. -/
theorem eq_nil_of_toldAll?_cancel (h : cancel.toldAll? commands = some t) : commands = [] := by
  cases commands with
  | nil => rfl
  | cons command rest =>
    obtain ⟨u, hfirst, -⟩ := toldAll?_cons.mp h
    cases command <;> cases hfirst

/-- **Interruptions take turns.** While the vehicle drives the next of them is a pause, and while it
is interrupted a resume. -/
theorem interruptions_of_toldAll? (h : s.toldAll? commands = some t) :
    (VehicleCommand.interruptions commands).IsChain (· ≠ ·)
      ∧ (s = run → (VehicleCommand.interruptions commands).head? ≠ some "resume")
      ∧ (s = pause → (VehicleCommand.interruptions commands).head? ≠ some "pause") := by
  induction commands generalizing s with
  | nil => exact ⟨.nil, fun _ => by simp [VehicleCommand.interruptions],
      fun _ => by simp [VehicleCommand.interruptions]⟩
  | cons command rest ih =>
    obtain ⟨u, hfirst, hrest⟩ := toldAll?_cons.mp h
    obtain ⟨hchain, hrun, hpause⟩ := ih hrest
    cases command with
    | move id route =>
      have hsame : VehicleCommand.interruptions (.move id route :: rest)
          = VehicleCommand.interruptions rest := rfl
      rw [hsame]
      cases s <;> cases hfirst
      · exact ⟨hchain, nofun, nofun⟩
      · exact ⟨hchain, fun _ => hrun rfl, nofun⟩
    | pause id =>
      have hmore : VehicleCommand.interruptions (.pause id :: rest)
          = "pause" :: VehicleCommand.interruptions rest := rfl
      rw [hmore, List.isChain_cons, List.head?_cons]
      cases s <;> cases hfirst
      refine ⟨⟨fun next hnext heq => ?_, hchain⟩, fun _ => by decide, nofun⟩
      exact hpause rfl (heq ▸ hnext)
    | resume id =>
      have hmore : VehicleCommand.interruptions (.resume id :: rest)
          = "resume" :: VehicleCommand.interruptions rest := rfl
      rw [hmore, List.isChain_cons, List.head?_cons]
      have hturn : ∀ next ∈ (VehicleCommand.interruptions rest).head?, u = run → "resume" ≠ next :=
        fun next hnext hu heq => hrun hu (heq ▸ hnext)
      cases s <;> cases hfirst
      · exact ⟨⟨fun next hnext => hturn next hnext rfl, hchain⟩, nofun, nofun⟩
      · exact ⟨⟨fun next hnext => hturn next hnext rfl, hchain⟩, nofun, fun _ => by decide⟩
    | cancel id =>
      have hlast : rest = [] := by
        cases s <;> cases hfirst <;> exact eq_nil_of_toldAll?_cancel hrest
      subst hlast
      exact ⟨.nil, fun _ => nofun, fun _ => nofun⟩

/-- A vehicle that is interrupted is not sent on before it gets ready again. -/
theorem kind_ne_move_of_toldAll?_pause (h : pause.toldAll? commands = some t)
    (hresume : ∀ command ∈ commands, command.kind ≠ "resume") :
    ∀ command ∈ commands, command.kind ≠ "move" := by
  cases commands with
  | nil => exact fun command hcommand => absurd hcommand List.not_mem_nil
  | cons first rest =>
    obtain ⟨u, hfirst, hrest⟩ := toldAll?_cons.mp h
    rw [List.forall_mem_cons] at hresume
    cases first with
    | move | pause => cases hfirst
    | resume id => exact absurd rfl hresume.1
    | cancel id =>
      cases hfirst
      rw [eq_nil_of_toldAll?_cancel hrest, List.forall_mem_singleton]
      simp [VehicleCommand.kind]

/-- The first command sends the vehicle on its way, if it is neither a resume nor the last one. -/
theorem exists_move_of_toldAll?_new {before after : List VehicleCommand} {command : VehicleCommand}
    (h : new.toldAll? (before ++ command :: after) = some t)
    (hresume : ∀ id, (before ++ command :: after).head? ≠ some (.resume id))
    (hkind : command.kind = "pause" ∨ command.kind = "resume") :
    ∃ earlier ∈ before, earlier.kind = "move" := by
  cases before with
  | nil =>
    obtain ⟨u, hfirst, -⟩ := toldAll?_cons.mp h
    cases command with
    | move | cancel => simp [VehicleCommand.kind] at hkind
    | pause id => cases hfirst
    | resume id => exact absurd rfl (hresume id)
  | cons first rest =>
    obtain ⟨u, hfirst, hrest⟩ := toldAll?_cons.mp h
    cases first with
    | move id route => exact ⟨_, List.mem_cons_self, rfl⟩
    | pause id => cases hfirst
    | resume id => exact absurd rfl (hresume id)
    | cancel id =>
      cases hfirst
      have hnil := eq_nil_of_toldAll?_cancel hrest
      exact absurd hnil (List.append_ne_nil_of_right_ne_nil rest (List.cons_ne_nil command after))

/-- **Commands along the graph of stages follow the protocol** unless they begin with a resume. -/
theorem protocol_iff_of_toldAll? (h : new.toldAll? commands = some t) :
    VehicleCommand.Protocol commands ↔ ∀ id, commands.head? ≠ some (.resume id) := by
  constructor
  · intro hprotocol id hhead
    obtain ⟨rest, rfl⟩ := List.head?_eq_some_iff.mp hhead
    exact hprotocol.head?_ne rfl
  · intro hresume
    refine ⟨(interruptions_of_toldAll? h).1, ?_, ?_, ?_, ?_⟩
    · -- The first command leads to the stage of driving, or it is the only one.
      cases commands with
      | nil => nofun
      | cons first rest =>
        obtain ⟨u, hfirst, hrest⟩ := toldAll?_cons.mp h
        cases first with
        | move id route =>
          cases hfirst
          exact (interruptions_of_toldAll? hrest).2.1 rfl
        | pause id => cases hfirst
        | resume id => exact absurd rfl (hresume id)
        | cancel id =>
          cases hfirst
          rw [eq_nil_of_toldAll?_cancel hrest]
          nofun
    · rintro before command after rfl hkind
      exact exists_move_of_toldAll?_new h hresume hkind
    · rintro before id between after rfl hbetween
      obtain ⟨u, -, hpause⟩ := toldAll?_append.mp h
      obtain ⟨v, hstep, hrest⟩ := toldAll?_cons.mp hpause
      obtain ⟨w, hmiddle, -⟩ := toldAll?_append.mp hrest
      cases u <;> cases hstep
      exact kind_ne_move_of_toldAll?_pause hmiddle hbetween
    · rintro before id after rfl
      obtain ⟨u, -, hcancel⟩ := toldAll?_append.mp h
      obtain ⟨v, hstep, hrest⟩ := toldAll?_cons.mp hcancel
      cases u <;> cases hstep <;> exact eq_nil_of_toldAll?_cancel hrest

/-- The stages that commands lead to. No command leads back to the first one. -/
theorem eq_of_toldAll?_new (h : new.toldAll? commands = some t) :
    (commands = [] ∧ t = new) ∨ t = run ∨ t = pause ∨ t = cancel := by
  have hlater : ∀ (rest : List VehicleCommand) (s : Stage), s = run ∨ s = pause ∨ s = cancel →
      s.toldAll? rest = some t → t = run ∨ t = pause ∨ t = cancel := by
    intro rest
    induction rest with
    | nil =>
      rintro s hs h
      obtain rfl : s = t := Option.some.inj h
      exact hs
    | cons command rest ih =>
      intro s hs h
      obtain ⟨u, hfirst, hrest⟩ := toldAll?_cons.mp h
      refine ih u ?_ hrest
      rcases hs with rfl | rfl | rfl <;> cases command <;> cases hfirst <;> decide
  cases commands with
  | nil => exact Or.inl ⟨rfl, (Option.some.inj h).symm⟩
  | cons command rest =>
    obtain ⟨u, hfirst, hrest⟩ := toldAll?_cons.mp h
    refine Or.inr (hlater rest u ?_ hrest)
    cases command <;> cases hfirst <;> decide

end Stage

variable {α : Type} [Scalar α]

namespace Fleet

variable {f : Fleet α} {event : FleetEvent α} {id : String} {queue' : List (SubTask α)}
  {outcome : Outcome α}

/-- An order that lines up in an empty queue is the head, and the vehicle is told nothing. -/
theorem Effect.of_queue_eq_nil (h : f.Effect event id queue' outcome)
    (hqueue : f.backlog.queue id = []) : outcome = {}
      ∧ (queue' = [] ∨ ∃ order number, queue' = [.ofOrder id order number]) := by
  cases h with
  | idle => exact ⟨rfl, Or.inl hqueue⟩
  | assigned order =>
    rw [hqueue]
    exact ⟨rfl, Or.inr ⟨order, _, rfl⟩⟩
  | staged _ _ _ _ _ heq _ | deferred _ _ _ heq _ | planned _ _ _ heq _ _ | passed _ _ _ heq
  | cancelled _ _ _ heq _ | finished _ _ heq _ _ =>
    rw [hqueue] at heq
    cases heq

/-- **What a vehicle is told in an event is about the head of its queue** and takes it along the
graph of stages, to the stage that it is in afterwards or to its end. -/
theorem Effect.toldAll?_head (h : f.Effect event id queue' outcome) {task : SubTask α}
    {later : List (SubTask α)} (hqueue : f.backlog.queue id = task :: later)
    {commands : List VehicleCommand} (hstage : Stage.new.toldAll? commands = some task.stage) :
    (∀ command ∈ outcome.emitted, command.taskId = task.id)
      ∧ ((outcome.handedBack = none ∧ ∃ task' later', queue' = task' :: later'
          ∧ task'.id = task.id ∧ task.stage.toldAll? outcome.emitted = some task'.stage)
        ∨ ∃ last stage, outcome.handedBack = some last ∧ last.id = task.id ∧ queue' = later
          ∧ task.stage.toldAll? outcome.emitted = some stage) := by
  have hreached := Stage.eq_of_toldAll?_new hstage
  cases h with
  | idle => exact ⟨by simp, Or.inl ⟨rfl, task, later, hqueue, rfl, rfl⟩⟩
  | assigned order =>
    rw [hqueue]
    exact ⟨by simp, Or.inl ⟨rfl, task, _, rfl, rfl, rfl⟩⟩
  | staged head later' stage command his heq hmay =>
    obtain ⟨rfl, rfl⟩ := List.cons.inj (hqueue.symm.trans heq)
    have htold : task.stage.told? command = some stage ∧ command.taskId = task.id := by
      rcases his with ⟨-, rfl, rfl⟩ | ⟨-, rfl, rfl⟩ <;>
        rcases hreached with ⟨-, hs⟩ | hs | hs | hs <;>
        rw [hs] at hmay ⊢ <;> first | exact ⟨rfl, rfl⟩ | cases hmay
    refine ⟨by simpa using htold.2, Or.inl ⟨rfl, _, _, rfl, rfl, ?_⟩⟩
    exact Stage.toldAll?_cons.mpr ⟨_, htold.1, rfl⟩
  | deferred head later' candidate heq _ =>
    obtain ⟨rfl, rfl⟩ := List.cons.inj (hqueue.symm.trans heq)
    exact ⟨by simp, Or.inl ⟨rfl, _, _, rfl, rfl, rfl⟩⟩
  | planned head later' candidate heq hneeds _ =>
    obtain ⟨rfl, rfl⟩ := List.cons.inj (hqueue.symm.trans heq)
    have hrun : (f.plannedTask id task candidate).stage = .run :=
      SubTask.stage_commitPlan_of_needsPlan (task.propose candidate) hneeds _ _
    refine ⟨by simp [VehicleCommand.taskId],
      Or.inl ⟨rfl, _, _, rfl, SubTask.id_commitPlan _ _ _, ?_⟩⟩
    rw [hrun]
    refine Stage.toldAll?_cons.mpr ⟨.run, ?_, rfl⟩
    rcases hreached with ⟨-, hs⟩ | hs | hs | hs <;> rw [hs] at hneeds ⊢ <;>
      first | rfl | cases hneeds
  | passed r head later' heq =>
    obtain ⟨rfl, rfl⟩ := List.cons.inj (hqueue.symm.trans heq)
    refine ⟨by simp, Or.inl ⟨rfl, _, _, rfl, (SubTask.evolves_passed r task).id_eq, ?_⟩⟩
    rw [SubTask.stage_passed]
    rfl
  | cancelled reason head later' heq hmay =>
    obtain ⟨rfl, rfl⟩ := List.cons.inj (hqueue.symm.trans heq)
    refine ⟨by simp [VehicleCommand.taskId], Or.inr ⟨_, .cancel, rfl, rfl, rfl, ?_⟩⟩
    refine Stage.toldAll?_cons.mpr ⟨.cancel, ?_, rfl⟩
    rcases hreached with ⟨-, hs⟩ | hs | hs | hs <;> rw [hs] at hmay ⊢ <;> first | rfl | cases hmay
  | finished head later' heq _ _ =>
    obtain ⟨rfl, rfl⟩ := List.cons.inj (hqueue.symm.trans heq)
    exact ⟨by simp, Or.inr ⟨_, _, rfl, rfl, rfl, rfl⟩⟩

/-! ### Taking up a sub-task -/

/-- Whether an event takes up a sub-task that has not been begun. -/
def TakesUpNew (f : Fleet α) (event : FleetEvent α) : Prop :=
  ∃ id task, event = .resume id ∧ f.backlog.head? id = some task ∧ task.stage = .new

/-- Whether an event only takes up a sub-task that is interrupted. -/
def TakesUpPaused (f : Fleet α) (event : FleetEvent α) : Prop :=
  ∀ id, event = .resume id → (f.resume id).isOk = true →
    ∃ task, f.backlog.head? id = some task ∧ task.stage = .pause

theorem outcome_resume {task : SubTask α} (hhead : f.backlog.head? id = some task)
    (hmay : task.stage.mayBecome .run = true) :
    f.outcome (.resume id) id = { emitted := [.resume task.id] } := by
  have hok := resume_eq_ok_iff.mpr ⟨task, hhead, hmay, rfl⟩
  simp only [outcome, hok, hhead, Outcome.ofChange, if_true]
  rfl

/-- No other event has a vehicle get ready again. -/
theorem eq_resume_of_head?_emitted {taskId : String}
    (h : (f.outcome event id).emitted.head? = some (.resume taskId)) : event = .resume id := by
  have heffect := f.effect_step event id
  generalize (f.step event).backlog.queue id = queue' at heffect
  generalize f.outcome event id = outcome at h heffect
  cases heffect with
  | idle | assigned | deferred | passed | finished => cases h
  | planned | cancelled => cases h
  | staged _ _ _ _ his _ _ =>
    rcases his with ⟨-, -, rfl⟩ | ⟨hevent, -, -⟩
    · cases h
    · exact hevent

end Fleet

/-! ### Fleets on record -/

/-- **A fleet on record**, with what its vehicles have been told about each sub-task. -/
structure Transcript (α : Type) [Scalar α] where
  /-- The fleet. -/
  fleet : Fleet α
  /-- The commands for the head of the queue of each vehicle, in order. -/
  current : String → List VehicleCommand := fun _ => []
  /-- The sub-tasks that each vehicle has handed back, with the commands for them. -/
  closed : String → List (SubTask α × List VehicleCommand) := fun _ => []

namespace Transcript

/-- The record after an event. A sub-task that is handed back takes its commands along. -/
def step (c : Transcript α) (event : FleetEvent α) : Transcript α where
  fleet := c.fleet.step event
  current := fun id => match (c.fleet.outcome event id).handedBack with
    | none => c.current id ++ (c.fleet.outcome event id).emitted
    | some _ => []
  closed := fun id => match (c.fleet.outcome event id).handedBack with
    | none => c.closed id
    | some last => c.closed id ++ [(last, c.current id ++ (c.fleet.outcome event id).emitted)]

/-- The record after a sequence of events. -/
def run (c : Transcript α) (events : List (FleetEvent α)) : Transcript α :=
  events.foldl step c

theorem fleet_run (c : Transcript α) (events : List (FleetEvent α)) :
    (c.run events).fleet = c.fleet.run events := by
  induction events generalizing c with
  | nil => rfl
  | cons event later ih => exact ih (c.step event)

/-- The commands for each sub-task of a vehicle that is at the head of its queue or has been. -/
def dialogues (c : Transcript α) (id : String) : List (List VehicleCommand) :=
  (c.closed id).map Prod.snd ++ [c.current id]

theorem exists_mem_dialogues {P : List VehicleCommand → Prop} (c : Transcript α) (id : String) :
    (∃ commands ∈ c.dialogues id, P commands)
      ↔ (∃ entry ∈ c.closed id, P entry.2) ∨ P (c.current id) := by
  unfold dialogues
  simp only [List.mem_append, List.mem_map, List.mem_singleton, or_and_right, exists_or,
    exists_eq_left, exists_exists_and_eq_and]

theorem exists_mem_dialogues_step {P : List VehicleCommand → Prop} (c : Transcript α)
    (event : FleetEvent α) (id : String) (hnil : ¬P []) :
    (∃ commands ∈ (c.step event).dialogues id, P commands)
      ↔ (∃ entry ∈ c.closed id, P entry.2)
        ∨ P (c.current id ++ (c.fleet.outcome event id).emitted) := by
  rw [exists_mem_dialogues]
  simp only [step]
  cases (c.fleet.outcome event id).handedBack with
  | none => exact Iff.rfl
  | some last =>
    simp only [List.mem_append, List.mem_singleton, or_and_right, exists_or, exists_eq_left, hnil,
      or_false]

/-- Whether a vehicle has been told to get ready again before anything else about a sub-task. -/
def BeginsWithResume (c : Transcript α) : Prop :=
  ∃ id, ∃ commands ∈ c.dialogues id, ∃ taskId, commands.head? = some (.resume taskId)

/-- **What the commands have to do with the sub-tasks.** -/
structure Heard (c : Transcript α) : Prop where
  onTrack : c.fleet.OnTrack
  /-- Without a sub-task there are no commands. -/
  idle : ∀ id, c.fleet.backlog.queue id = [] → c.current id = []
  /-- The commands for the head of a queue name it, and lead to its stage. -/
  head : ∀ id task later, c.fleet.backlog.queue id = task :: later →
    Stage.new.toldAll? (c.current id) = some task.stage
      ∧ ∀ command ∈ c.current id, command.taskId = task.id
  /-- The commands for what has been handed back name it, and go along the graph of stages. -/
  closed : ∀ id, ∀ entry ∈ c.closed id, (∃ stage, Stage.new.toldAll? entry.2 = some stage)
    ∧ ∀ command ∈ entry.2, command.taskId = entry.1.id

namespace Heard

variable {c : Transcript α}

theorem of_queues_empty {f : Fleet α} (h : ∀ id, f.backlog.queue id = []) :
    Heard { fleet := f } where
  onTrack := .of_queues_empty h
  idle := fun _ _ => rfl
  head := by
    intro id task later hqueue
    have hqueue : f.backlog.queue id = task :: later := hqueue
    rw [h] at hqueue
    cases hqueue
  closed := by simp

/-- **Every event keeps the commands in step with the sub-tasks.** -/
theorem step (h : c.Heard) (event : FleetEvent α) : (c.step event).Heard := by
  have hqueue : ∀ id, ((c.fleet.step event).backlog.queue id = [] → (c.step event).current id = [])
      ∧ (∀ task' later', (c.fleet.step event).backlog.queue id = task' :: later' →
        Stage.new.toldAll? ((c.step event).current id) = some task'.stage
          ∧ ∀ command ∈ (c.step event).current id, command.taskId = task'.id)
      ∧ ∀ entry ∈ (c.step event).closed id, (∃ stage, Stage.new.toldAll? entry.2 = some stage)
        ∧ ∀ command ∈ entry.2, command.taskId = entry.1.id := by
    intro id
    have heffect := c.fleet.effect_step event id
    have hclosed := h.closed id
    simp only [Transcript.step]
    generalize (c.fleet.step event).backlog.queue id = queue' at heffect ⊢
    generalize c.fleet.outcome event id = outcome at heffect ⊢
    cases hbefore : c.fleet.backlog.queue id with
    | nil =>
      -- A sub-task that lines up has not been heard of yet.
      obtain ⟨rfl, hnew⟩ := heffect.of_queue_eq_nil hbefore
      simp only [h.idle id hbefore, List.append_nil]
      refine ⟨fun _ => trivial, fun task' later' hqueue' => ?_, hclosed⟩
      rcases hnew with rfl | ⟨order, number, rfl⟩
      · cases hqueue'
      · obtain ⟨rfl, -⟩ := List.cons.inj hqueue'
        exact ⟨rfl, by simp⟩
    | cons task later =>
      obtain ⟨hstage, hnamed⟩ := h.head id task later hbefore
      obtain ⟨hemitted, hcases⟩ := heffect.toldAll?_head hbefore hstage
      have hall : ∀ command ∈ c.current id ++ outcome.emitted, command.taskId = task.id :=
        List.forall_mem_append.mpr ⟨hnamed, hemitted⟩
      rcases hcases with
        ⟨hnone, task', later', rfl, hid, htold⟩ | ⟨last, stage, hsome, hid, rfl, htold⟩
      · rw [hnone]
        refine ⟨nofun, fun task'' later'' hqueue' => ?_, hclosed⟩
        obtain ⟨rfl, -⟩ := List.cons.inj hqueue'
        rw [hid]
        exact ⟨Stage.toldAll?_append.mpr ⟨task.stage, hstage, htold⟩, hall⟩
      · rw [hsome]
        refine ⟨fun _ => rfl, fun task' later' hqueue' => ?_, ?_⟩
        · -- Whoever comes next has waited.
          have hwaiting : task' ∈ (c.fleet.backlog.queue id).tail := by
            rw [hbefore, List.tail_cons, hqueue']
            exact List.mem_cons_self
          rw [(h.onTrack.waiting id task' hwaiting).stage_eq]
          exact ⟨rfl, by simp⟩
        · rw [List.forall_mem_append, List.forall_mem_singleton, hid]
          exact ⟨hclosed, ⟨stage, Stage.toldAll?_append.mpr ⟨task.stage, hstage, htold⟩⟩, hall⟩
  exact ⟨h.onTrack.step event, fun id => (hqueue id).1, fun id => (hqueue id).2.1,
    fun id => (hqueue id).2.2⟩

theorem run (h : c.Heard) (events : List (FleetEvent α)) : (c.run events).Heard :=
  List.foldlRecOn events Transcript.step h fun _ hc event _ => hc.step event

/-- The commands for a sub-task go along the graph of stages. -/
theorem toldAll?_dialogue (h : c.Heard) {id : String} {commands : List VehicleCommand}
    (hcommands : commands ∈ c.dialogues id) :
    ∃ stage, Stage.new.toldAll? commands = some stage := by
  unfold dialogues at hcommands
  rw [List.mem_append, List.mem_map, List.mem_singleton] at hcommands
  rcases hcommands with ⟨entry, hentry, rfl⟩ | rfl
  · exact (h.closed id entry hentry).1
  · cases hqueue : c.fleet.backlog.queue id with
    | nil => exact ⟨.new, by rw [h.idle id hqueue]; rfl⟩
    | cons task later => exact ⟨task.stage, (h.head id task later hqueue).1⟩

/-- **A sub-task is taken up from the stage of an interruption or from the first stage.** -/
theorem isOk_resume_iff (h : c.Heard) (id : String) : (c.fleet.resume id).isOk = true ↔
    ∃ task, c.fleet.backlog.head? id = some task ∧ (task.stage = .pause ∨ task.stage = .new) := by
  constructor
  · intro hok
    cases hresume : c.fleet.resume id with
    | error fault =>
      rw [hresume] at hok
      cases hok
    | ok f' =>
      obtain ⟨task, hhead, hmay, -⟩ := Fleet.resume_eq_ok_iff.mp hresume
      obtain ⟨later, hqueue⟩ := Backlog.head?_eq_some_iff.mp hhead
      refine ⟨task, hhead, ?_⟩
      rcases Stage.eq_of_toldAll?_new (h.head id task later hqueue).1 with
        ⟨-, hs⟩ | hs | hs | hs <;> rw [hs] at hmay ⊢ <;> first | decide | cases hmay
  · rintro ⟨task, hhead, hstage⟩
    have hmay : task.stage.mayBecome .run = true := by
      rcases hstage with hs | hs <;> rw [hs] <;> rfl
    rw [Fleet.resume_eq_ok_iff.mpr ⟨task, hhead, hmay, rfl⟩]
    rfl

theorem takesUpPaused_iff (h : c.Heard) (event : FleetEvent α) :
    c.fleet.TakesUpPaused event ↔ ¬c.fleet.TakesUpNew event := by
  constructor
  · rintro hpaused ⟨id, task, hevent, hhead, hnew⟩
    obtain ⟨task', hhead', hpause⟩ :=
      hpaused id hevent ((h.isOk_resume_iff id).mpr ⟨task, hhead, Or.inr hnew⟩)
    obtain rfl : task = task' := Option.some.inj (hhead.symm.trans hhead')
    rw [hnew] at hpause
    cases hpause
  · intro hnot id hevent hok
    obtain ⟨task, hhead, hpause | hnew⟩ := (h.isOk_resume_iff id).mp hok
    · exact ⟨task, hhead, hpause⟩
    · exact absurd ⟨id, task, hevent, hhead, hnew⟩ hnot

/-- What a vehicle is told begins with a resume if it did so before, or if the sub-task has just
been taken up in the first stage. -/
theorem head?_current_append (h : c.Heard) (event : FleetEvent α) (id : String) :
    (∃ taskId, (c.current id ++ (c.fleet.outcome event id).emitted).head? = some (.resume taskId))
      ↔ (∃ taskId, (c.current id).head? = some (.resume taskId))
        ∨ ∃ task, event = .resume id ∧ c.fleet.backlog.head? id = some task
          ∧ task.stage = .new := by
  constructor
  · rintro ⟨taskId, hhead⟩
    cases hcurrent : c.current id with
    | cons first rest =>
      rw [hcurrent] at hhead
      exact Or.inl ⟨taskId, hhead⟩
    | nil =>
      rw [hcurrent, List.nil_append] at hhead
      cases hqueue : c.fleet.backlog.queue id with
      | nil =>
        rw [((c.fleet.effect_step event id).of_queue_eq_nil hqueue).1] at hhead
        cases hhead
      | cons task later =>
        -- Nothing has been told so far, so the sub-task is still in the first stage.
        have hstage := (h.head id task later hqueue).1
        rw [hcurrent] at hstage
        exact Or.inr ⟨task, Fleet.eq_resume_of_head?_emitted hhead,
          Backlog.head?_eq_some_iff.mpr ⟨later, hqueue⟩, (Option.some.inj hstage).symm⟩
  · rintro (⟨taskId, hhead⟩ | ⟨task, rfl, hhead, hnew⟩)
    · refine ⟨taskId, ?_⟩
      rw [List.head?_append, hhead]
      rfl
    · obtain ⟨later, hqueue⟩ := Backlog.head?_eq_some_iff.mp hhead
      have hcurrent : c.current id = [] := by
        rcases Stage.eq_of_toldAll?_new (h.head id task later hqueue).1 with
          ⟨hnil, -⟩ | hs | hs | hs
        · exact hnil
        all_goals rw [hnew] at hs; cases hs
      refine ⟨task.id, ?_⟩
      rw [hcurrent, Fleet.outcome_resume hhead (by rw [hnew]; rfl)]
      rfl

/-- An event has what is told about a sub-task begin with a resume only by taking up a sub-task in
the first stage. -/
theorem beginsWithResume_step (h : c.Heard) (event : FleetEvent α) :
    (c.step event).BeginsWithResume ↔ c.BeginsWithResume ∨ c.fleet.TakesUpNew event := by
  unfold BeginsWithResume Fleet.TakesUpNew
  rw [← exists_or]
  refine exists_congr fun id => ?_
  rw [exists_mem_dialogues_step c event id (by simp), exists_mem_dialogues c,
    h.head?_current_append, or_assoc]

/-- **Some commands for a sub-task begin with a resume exactly if one has been taken up in the first
stage.** -/
theorem not_beginsWithResume_run (h : c.Heard) (events : List (FleetEvent α)) :
    ¬(c.run events).BeginsWithResume
      ↔ ¬c.BeginsWithResume ∧ c.fleet.Along (fun f event => ¬f.TakesUpNew event) events := by
  induction events generalizing c with
  | nil => exact (and_iff_left trivial).symm
  | cons event later ih =>
    refine (ih (h.step event)).trans ?_
    rw [h.beginsWithResume_step, not_or, and_assoc]
    rfl

theorem along_takesUpPaused_iff (h : c.Heard) (events : List (FleetEvent α)) :
    c.fleet.Along Fleet.TakesUpPaused events
      ↔ c.fleet.Along (fun f event => ¬f.TakesUpNew event) events := by
  induction events generalizing c with
  | nil => exact Iff.rfl
  | cons event later ih => exact and_congr (h.takesUpPaused_iff event) (ih (h.step event))

end Heard

/-- **When the commands follow the protocol.** In a run of a fleet that has done nothing yet the
commands for every sub-task follow the protocol, and only interrupted sub-tasks are taken up, if and
only if no sub-task is taken up that has not been begun. -/
theorem protocol_iff (settings : Settings α) (registry : Registry α) (n : Network α)
    (hook : Option (AllocationHook α)) (sink : Sink) (events : List (FleetEvent α)) :
    let f := Fleet.start settings registry n hook sink
    ((∀ id, ∀ commands ∈ (({ fleet := f } : Transcript α).run events).dialogues id,
        VehicleCommand.Protocol commands) ∧ f.Along Fleet.TakesUpPaused events)
      ↔ f.Along (fun f event => ¬f.TakesUpNew event) events := by
  intro f
  have hstart : ({ fleet := f } : Transcript α).Heard :=
    .of_queues_empty (Fleet.queue_start settings registry n hook sink)
  have hnothing : ¬({ fleet := f } : Transcript α).BeginsWithResume := by
    simp [BeginsWithResume, dialogues]
  have hprotocol : (∀ id, ∀ commands ∈ (({ fleet := f } : Transcript α).run events).dialogues id,
      VehicleCommand.Protocol commands)
        ↔ ¬(({ fleet := f } : Transcript α).run events).BeginsWithResume := by
    have hcommands : ∀ id, ∀ commands ∈ (({ fleet := f } : Transcript α).run events).dialogues id,
        (VehicleCommand.Protocol commands ↔ ∀ taskId, commands.head? ≠ some (.resume taskId)) := by
      intro id commands hmem
      obtain ⟨stage, hstage⟩ := (hstart.run events).toldAll?_dialogue hmem
      exact Stage.protocol_iff_of_toldAll? hstage
    unfold BeginsWithResume
    push Not
    exact forall_congr' fun id => forall₂_congr (hcommands id)
  rw [hprotocol, hstart.not_beginsWithResume_run, hstart.along_takesUpPaused_iff,
    and_iff_right hnothing, and_self]

/-- **A vehicle is told to get ready again that has never been sent anywhere.** -/
theorem not_protocol_resumed : ∃ commands ∈
    (({ fleet := Fleet.tourStart [] } : Transcript Float).run
      [.assign Fleet.tourOrder, .resume "a"]).dialogues "a",
    commands = [.resume "tour-1"] ∧ ¬VehicleCommand.Protocol commands := by
  have hhead := Fleet.head?_assigned (α := Float) []
  have houtcome := Fleet.outcome_resume hhead rfl
  refine ⟨[.resume "tour-1"], ?_, rfl, fun hprotocol => hprotocol.head?_ne rfl⟩
  have hcurrent : (({ fleet := Fleet.tourStart [] } : Transcript Float).run
      [.assign Fleet.tourOrder, .resume "a"]).current "a" = [.resume "tour-1"] := by
    simp only [run, List.foldl_cons, List.foldl_nil, step]
    rw [houtcome]
    rfl
  rw [dialogues, hcurrent]
  exact List.mem_append_right _ (List.mem_singleton_self _)

end Transcript

end AgvDispatch
