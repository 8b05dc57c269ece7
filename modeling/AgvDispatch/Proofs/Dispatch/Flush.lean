import AgvDispatch.Proofs.Dispatch.Accounting
/-!
# Flushing

A flush looks at the open lanes, and does so again after a nap, until none of them is busy or the
time is up. A look takes its time: the lanes are spread over **shards**, and the look goes from
shard to shard and, within one, from lane to lane. It holds the shard that it is in, so that no lane
is opened or closed there and none is given a job. Other than that, things go on while it looks:
jobs are submitted to the lanes of other shards, also to lanes that it has read already, and workers
take their steps everywhere.

So the lanes need not have been quiet all at once when a look has found no busy one. Those of one
shard were: the lanes that have been read there stay empty as long as the shard is held. The
invariant behind this (`Flush.Sound`) says of a look that is under way that each shard is still
ahead of it, or is held, with empty lanes apart from those that have yet to be read, or had empty
lanes at some moment since the look began. It follows that all jobs that had been submitted by then
have ended, but a job that was submitted later may be left (`RecordedDispatcher.signalsAccount_run`,
`RecordedDispatcher.returned_with_job_left`).

A look that nothing comes between finds what `Dispatcher.isBusy` says (`Flush.Sound.isBusy_eq`).
-/

namespace AgvDispatch

variable {J : Type} {shards : ℕ}

/-! ### Records that grow -/

namespace RecordedDispatcher

theorem isPrefix_ofEvents {past present : List (DispatchEvent J)} (h : past <+: present)
    (key : String) : (ofEvents past).submitted key <+: (ofEvents present).submitted key
      ∧ (ofEvents past).ended key <+: (ofEvents present).ended key := by
  obtain ⟨later, rfl⟩ := h
  obtain ⟨hsubmitted, -, hended⟩ := isPrefix_run (ofEvents past) later key
  rw [ofEvents_append]
  exact ⟨hsubmitted, hended⟩

/-- The jobs that end have been submitted, in that order. -/
theorem Accounted.ended_isPrefix {r : RecordedDispatcher J} (h : r.Accounted) (key : String) :
    r.ended key <+: r.submitted key := by
  rw [h.submitted_eq, h.started_eq, List.append_assoc]
  exact List.prefix_append _ _

/-- Events that submit no job leave the record of submitted jobs as it is. -/
theorem submitted_run_of_quiet (r : RecordedDispatcher J) {events : List (DispatchEvent J)}
    (hnone : ∀ event ∈ events, event.isSubmission = false) (key : String) :
    (r.run events).submitted key = r.submitted key := by
  induction events generalizing r with
  | nil => rfl
  | cons event later ih =>
    rw [List.forall_mem_cons] at hnone
    have hevent : event.submits key = [] := by
      cases event with
      | submit owner job => cases hnone.1
      | _ => rfl
    refine (ih (r.step event) hnone.2).trans ?_
    change r.submitted key ++ event.submits key = _
    rw [hevent, List.append_nil]

end RecordedDispatcher

/-- A lane that is empty stays so if no job is submitted. -/
theorem Lane.Step.eq_empty {lane lane' : Lane J} {submitted started ended : List J}
    (h : lane.Step lane' submitted started ended) (hlane : lane = {}) (hnone : submitted = []) :
    lane' = {} := by
  subst hlane
  cases h with
  | idle => rfl
  | submitted job => cases hnone
  | woken i => rfl
  | finished i => rfl

/-- A key whose lane is not open has an empty lane. -/
theorem Dispatcher.lane_eq_empty_of_not_mem_keys {d : Dispatcher J} {key : String}
    (hkey : key ∉ d.keys) : d.lane key = {} := by
  unfold keys at hkey
  rw [Std.TreeMap.mem_keys, ← Std.TreeMap.isSome_getElem?_iff_mem, Bool.not_eq_true,
    Option.isSome_eq_false_iff, Option.isNone_iff_eq_none] at hkey
  rw [lane, Std.TreeMap.get?_eq_getElem?, hkey, Option.getD_none]

/-! ### The course of a flush -/

/-- The key whose shard an event needs for itself, as it opens or closes a lane of the shard or puts
a job in it. The workers of a lane need no shard. -/
def DispatchEvent.shardKey? : DispatchEvent J → Option String
  | .submit key _ | .unregister key => some key
  | _ => none

/-- How far a flush has come. -/
inductive FlushPhase (shards : ℕ) where
  /-- It looks at the lanes. In the shard that it holds, those of some keys have yet to be read, and
  there are shards that it has yet to enter. -/
  | looking (held : Option (Fin shards)) (unread : List String) (ahead : List (Fin shards))
  /-- It has come upon a busy lane. -/
  | waiting
  /-- It is over, and has returned whether no lane was busy. -/
  | returned (quiet : Bool)
  deriving DecidableEq, Repr

/-- What may happen while a dispatcher is being flushed. -/
inductive FlushEvent (J : Type) where
  /-- Something happens to the dispatcher. -/
  | happen (event : DispatchEvent J)
  /-- The look enters the next shard, or ends if there is none. -/
  | enter
  /-- The look reads the lane of a key. -/
  | read (key : String)
  /-- After a nap, a new look begins. -/
  | retry
  /-- The time is up. -/
  | giveUp

/-- **A flush.** -/
structure Flush (J : Type) (shards : ℕ) where
  /-- All that has happened to the dispatcher. -/
  past : List (DispatchEvent J)
  /-- What had happened to it when the last look began. -/
  begun : List (DispatchEvent J)
  /-- How far the flush has come. -/
  phase : FlushPhase shards

namespace Flush

/-- A flush that begins after some events. -/
def call (events : List (DispatchEvent J)) : Flush J shards where
  past := events
  begun := events
  phase := .looking none [] (List.finRange shards)

/-- The dispatcher as it is now. -/
def dispatcher (f : Flush J shards) : Dispatcher J :=
  (RecordedDispatcher.ofEvents f.past).dispatcher

variable (shard : String → Fin shards)

/-- Whether an event can happen now. The shard that is held is not to be had, and once the flush is
over, its record is closed. -/
def admits (f : Flush J shards) (event : DispatchEvent J) : Bool :=
  match f.phase with
  | .looking (some held) _ _ => event.shardKey?.all fun key => shard key != held
  | .looking none _ _ | .waiting => true
  | .returned _ => false

/-- The look is done with a shard: it enters the next one, whose open lanes it has yet to read. If
there is none, no lane was found to be busy. -/
def enter (f : Flush J shards) : Flush J shards :=
  match f.phase with
  | .looking _ [] [] => { f with phase := .returned true }
  | .looking _ [] (next :: ahead) =>
    { f with phase := .looking (some next) (f.dispatcher.keys.filter (shard · == next)) ahead }
  | _ => f

/-- The look reads the lane of a key that it has yet to read. -/
def read (f : Flush J shards) (key : String) : Flush J shards :=
  match f.phase with
  | .looking held unread ahead =>
    if key ∈ unread then
      if (f.dispatcher.lane key).isBusy then { f with phase := .waiting }
      else { f with phase := .looking held (unread.erase key) ahead }
    else f
  | _ => f

/-- The flush after an event; what cannot happen now has no effect. -/
def step (f : Flush J shards) : FlushEvent J → Flush J shards
  | .happen event => if f.admits shard event then { f with past := f.past ++ [event] } else f
  | .enter => f.enter shard
  | .read key => f.read key
  | .retry => if f.phase = .waiting then call f.past else f
  | .giveUp => if f.phase = .waiting then { f with phase := .returned false } else f

/-- The flush after a sequence of events. -/
def run (f : Flush J shards) (schedule : List (FlushEvent J)) : Flush J shards :=
  schedule.foldl (step shard) f

/-! ### What a flush finds -/

/-- Whether something was the case at some moment since the last look began. -/
def Met (f : Flush J shards) (p : Dispatcher J → Prop) : Prop :=
  ∃ moment, f.begun <+: moment ∧ moment <+: f.past
    ∧ p (RecordedDispatcher.ofEvents moment).dispatcher

/-- Whether all lanes of a shard are empty, apart from those of some keys. -/
def QuietBut (unread : List String) (s : Fin shards) (d : Dispatcher J) : Prop :=
  ∀ key, shard key = s → key ∈ unread ∨ d.lane key = {}

/-- What a flush has found in each phase. -/
def Finds (f : Flush J shards) : FlushPhase shards → Prop
  | .looking held unread ahead =>
    ∀ s, s ∈ ahead ∨ (held = some s ∧ QuietBut shard unread s f.dispatcher)
      ∨ f.Met (QuietBut shard [] s)
  | .returned true => ∀ s, f.Met (QuietBut shard [] s)
  | .waiting | .returned false => ∃ key, f.Met fun d => (d.lane key).isBusy = true

/-- **Whether a flush has found what its phase says.** -/
structure Sound (f : Flush J shards) : Prop where
  /-- The last look began in the past. -/
  begun_isPrefix : f.begun <+: f.past
  /-- The flush has found what its phase says. -/
  finds : f.Finds shard f.phase

variable {shard} {f : Flush J shards}

theorem Met.append {p : Dispatcher J → Prop} (h : f.Met p) (event : DispatchEvent J) :
    Met { f with past := f.past ++ [event] } p := by
  obtain ⟨moment, hbegun, hpast, hp⟩ := h
  exact ⟨moment, hbegun, hpast.trans (List.prefix_append _ _), hp⟩

/-- A lane that has been read in the shard that is held stays empty: no event that can happen gives
it a job, and without one its workers have nothing to do. -/
theorem QuietBut.append {unread : List String} {s : Fin shards} {ahead : List (Fin shards)}
    (h : QuietBut shard unread s f.dispatcher) (hphase : f.phase = .looking (some s) unread ahead)
    {event : DispatchEvent J} (hadmits : f.admits shard event = true) :
    QuietBut shard unread s (dispatcher { f with past := f.past ++ [event] }) := by
  have hdispatcher : dispatcher { f with past := f.past ++ [event] } = f.dispatcher.step event :=
    RecordedDispatcher.dispatcher_ofEvents_concat f.past event
  have horderly := (RecordedDispatcher.accounted_ofEvents f.past).orderly
  intro key hkey
  refine (h key hkey).imp_right fun hlane => ?_
  have hnone : event.submits key = [] := by
    unfold admits at hadmits
    rw [hphase] at hadmits
    cases event with
    | submit owner job =>
      have howner : owner ≠ key := by
        rintro rfl
        simp [DispatchEvent.shardKey?, hkey] at hadmits
      simp [DispatchEvent.submits, howner]
    | _ => rfl
  have hstep := horderly.step_lane event key
  rw [hdispatcher]
  exact hstep.eq_empty hlane hnone

theorem Finds.append (h : f.Finds shard f.phase) {event : DispatchEvent J}
    (hadmits : f.admits shard event = true) :
    Finds shard { f with past := f.past ++ [event] } f.phase := by
  match hphase : f.phase with
  | .looking held unread ahead =>
    rw [hphase] at h
    intro s
    rcases h s with hahead | ⟨rfl, hquiet⟩ | hmet
    · exact Or.inl hahead
    · exact Or.inr (Or.inl ⟨rfl, hquiet.append hphase hadmits⟩)
    · exact Or.inr (Or.inr (hmet.append event))
  | .returned true =>
    rw [hphase] at h
    exact fun s => (h s).append event
  | .waiting | .returned false =>
    rw [hphase] at h
    exact h.imp fun key hbusy => hbusy.append event

theorem sound_call (events : List (DispatchEvent J)) : (call events).Sound shard :=
  ⟨List.prefix_refl _, fun s => Or.inl (List.mem_finRange s)⟩

namespace Sound

theorem finds_of (h : f.Sound shard) {phase : FlushPhase shards} (hphase : f.phase = phase) :
    f.Finds shard phase := by
  rw [← hphase]
  exact h.finds

/-- The present is one of the moments since the last look began. -/
theorem met (h : f.Sound shard) {p : Dispatcher J → Prop} (hp : p f.dispatcher) : f.Met p :=
  ⟨f.past, h.begun_isPrefix, List.prefix_refl _, hp⟩

/-- The lanes of the shard that is left are empty, and those of the one that is entered are, too,
unless they are open. -/
theorem enter (h : f.Sound shard) : (f.enter shard).Sound shard := by
  obtain ⟨past, begun, phase⟩ := f
  have hfinds := h.finds
  match phase with
  | .looking _ [] [] =>
    refine ⟨h.begun_isPrefix, fun s => ?_⟩
    rcases hfinds s with hahead | ⟨-, hquiet⟩ | hmet
    · cases hahead
    · exact h.met hquiet
    · exact hmet
  | .looking _ [] (next :: ahead) =>
    refine ⟨h.begun_isPrefix, fun s => ?_⟩
    rcases hfinds s with hahead | ⟨-, hquiet⟩ | hmet
    · rcases List.mem_cons.mp hahead with rfl | hahead
      · refine Or.inr (Or.inl ⟨rfl, fun key hkey => ?_⟩)
        rw [List.mem_filter, hkey, beq_self_eq_true]
        refine (em _).imp (⟨·, rfl⟩) Dispatcher.lane_eq_empty_of_not_mem_keys
      · exact Or.inl hahead
    · exact Or.inr (Or.inr (h.met hquiet))
    · exact Or.inr (Or.inr hmet)
  | .looking _ (_ :: _) _ | .waiting | .returned _ => exact h

/-- A lane that is read is either busy or empty. -/
theorem read (h : f.Sound shard) (key : String) : (f.read key).Sound shard := by
  obtain ⟨past, begun, phase⟩ := f
  have hfinds := h.finds
  match phase with
  | .looking held unread ahead =>
    unfold Flush.read
    simp only
    split
    · split
      · rename_i hbusy
        exact ⟨h.begun_isPrefix, key, h.met (p := fun d => (d.lane key).isBusy = true) hbusy⟩
      · rename_i hquiet
        have hempty := (RecordedDispatcher.accounted_ofEvents past).orderly.lane_eq_empty
          (Bool.of_not_eq_true hquiet)
        refine ⟨h.begun_isPrefix, fun s => ?_⟩
        rcases hfinds s with hahead | ⟨hheld, hbut⟩ | hmet
        · exact Or.inl hahead
        · refine Or.inr (Or.inl ⟨hheld, fun other hother => ?_⟩)
          by_cases heq : other = key
          · subst heq
            exact Or.inr hempty
          · exact (hbut other hother).imp_left (List.mem_erase_of_ne heq).mpr
        · exact Or.inr (Or.inr hmet)
    · exact h
  | .waiting | .returned _ => exact h

/-- **Every event keeps a flush sound.** -/
theorem step (h : f.Sound shard) (event : FlushEvent J) : (f.step shard event).Sound shard := by
  cases event with
  | happen event =>
    simp only [Flush.step]
    split
    · rename_i hadmits
      exact ⟨h.begun_isPrefix.trans (List.prefix_append _ _), h.finds.append hadmits⟩
    · exact h
  | enter => exact h.enter
  | read key => exact h.read key
  | retry =>
    simp only [Flush.step]
    split
    · exact sound_call f.past
    · exact h
  | giveUp =>
    simp only [Flush.step]
    split
    · rename_i hwaiting
      exact ⟨h.begun_isPrefix, h.finds_of hwaiting⟩
    · exact h

theorem run (h : f.Sound shard) (schedule : List (FlushEvent J)) :
    (f.run shard schedule).Sound shard := by
  induction schedule generalizing f with
  | nil => exact h
  | cons event later ih => exact ih (h.step event)

/-- When a flush succeeds, the lanes of each shard were empty, all of them at once, at some moment
since its last look began. -/
theorem met_of_returned (h : f.Sound shard) (hquiet : f.phase = .returned true) (s : Fin shards) :
    f.Met fun d => ∀ key, shard key = s → d.lane key = {} := by
  obtain ⟨moment, hbegun, hpast, hmoment⟩ := h.finds_of hquiet s
  exact ⟨moment, hbegun, hpast, fun key hkey => (hmoment key hkey).resolve_left List.not_mem_nil⟩

/-- **A look that nothing comes between** finds out whether the dispatcher is busy. -/
theorem isBusy_eq (h : f.Sound shard) (hpast : f.past = f.begun) :
    (f.phase = .returned true → f.dispatcher.isBusy = false)
      ∧ (f.phase = .waiting ∨ f.phase = .returned false → f.dispatcher.isBusy = true) := by
  have hnow : ∀ p, f.Met p → p f.dispatcher := by
    rintro p ⟨moment, hbegun, hmoment, hp⟩
    rw [← hpast] at hbegun
    rwa [hmoment.eq_of_length_le hbegun.length_le] at hp
  constructor
  · intro hquiet
    by_contra hbusy
    obtain ⟨key, hkey⟩ := Dispatcher.isBusy_iff.mp (Bool.of_not_eq_false hbusy)
    rw [hnow _ (h.met_of_returned hquiet (shard key)) key rfl] at hkey
    cases hkey
  · rintro (hphase | hphase)
    all_goals
      obtain ⟨key, hmet⟩ := h.finds_of hphase
      exact Dispatcher.isBusy_iff.mpr ⟨key, hnow _ hmet⟩

/-- When a flush succeeds, the jobs that had been submitted when its last look began have ended. -/
theorem submitted_isPrefix_ended (h : f.Sound shard) (hquiet : f.phase = .returned true)
    (key : String) : (RecordedDispatcher.ofEvents f.begun).submitted key
      <+: (RecordedDispatcher.ofEvents f.past).ended key := by
  obtain ⟨moment, hbegun, hpast, hlane⟩ := h.met_of_returned hquiet (shard key)
  calc (RecordedDispatcher.ofEvents f.begun).submitted key
      <+: (RecordedDispatcher.ofEvents moment).submitted key :=
        (RecordedDispatcher.isPrefix_ofEvents hbegun key).1
    _ = (RecordedDispatcher.ofEvents moment).ended key :=
        ((RecordedDispatcher.accounted_ofEvents moment).ended_eq_submitted (hlane key rfl)).symm
    _ <+: (RecordedDispatcher.ofEvents f.past).ended key :=
        (RecordedDispatcher.isPrefix_ofEvents hpast key).2

end Sound

end Flush

/-! ### What the signals account for -/

namespace RecordedDispatcher

/-- **What a flush makes sure of** when it succeeds. -/
structure Flushed (shard : String → Fin shards) (f : Flush J shards) : Prop where
  /-- The lanes of each shard were empty, all of them at once, at some moment since the last look
  began. -/
  lane_eq : ∀ s, f.Met fun d => ∀ key, shard key = s → d.lane key = {}
  /-- The jobs that had been submitted when the last look began have ended. -/
  ended_of_begun : ∀ key, (ofEvents f.begun).submitted key <+: (ofEvents f.past).ended key
  /-- If no job has been submitted since, all jobs have ended, and the tally is complete. -/
  ended_of_quiet : ∀ since, f.past = f.begun ++ since →
    (∀ event ∈ since, event.isSubmission = false) →
    (∀ key, (ofEvents f.past).ended key = (ofEvents f.past).submitted key)
      ∧ (ofEvents f.past).dispatcher.tally.total = f.past.countP DispatchEvent.isSubmission
        + f.past.countP DispatchEvent.isLooseEnd

theorem flushed_of_sound {shard : String → Fin shards} {f : Flush J shards} (h : f.Sound shard)
    (hquiet : f.phase = .returned true) : Flushed shard f := by
  have hended := h.submitted_isPrefix_ended hquiet
  refine ⟨h.met_of_returned hquiet, hended, fun since hsince hnone => ?_⟩
  have hall : ∀ key, (ofEvents f.past).ended key = (ofEvents f.past).submitted key := by
    intro key
    have hsubmitted : (ofEvents f.past).submitted key = (ofEvents f.begun).submitted key := by
      rw [hsince, ofEvents_append]
      exact submitted_run_of_quiet _ hnone key
    refine ((accounted_ofEvents f.past).ended_isPrefix key).eq_of_length_le ?_
    rw [hsubmitted]
    exact (hended key).length_le
  exact ⟨hall, (total_tally_eq_iff f.past).mpr hall⟩

/-- **What a flush tells** in each case. -/
structure Tells (shard : String → Fin shards) (f : Flush J shards) : Prop where
  /-- If it succeeds, the jobs that its last look began with have ended. -/
  flushed : f.phase = .returned true → Flushed shard f
  /-- If it fails, some lane was busy at a moment since its last look began. -/
  busy_of_failed : f.phase = .returned false →
    ∃ key, f.Met fun d => (d.lane key).isBusy = true
  /-- If nothing has come between, it tells whether the dispatcher is busy. -/
  isBusy_eq : f.past = f.begun → (f.phase = .returned true → f.dispatcher.isBusy = false)
    ∧ (f.phase = .waiting ∨ f.phase = .returned false → f.dispatcher.isBusy = true)

theorem tells_of_sound {shard : String → Fin shards} {f : Flush J shards} (h : f.Sound shard) :
    Tells shard f :=
  ⟨flushed_of_sound h, fun hfailed => h.finds_of hfailed, h.isBusy_eq⟩

/-- **What the signals account for** after a sequence of events. -/
structure SignalsAccount (events : List (DispatchEvent J)) : Prop where
  /-- The signals of every open lane account for its jobs and its workers. -/
  balanced : ∀ key lane, (ofEvents events).dispatcher.lanes.get? key = some lane → lane.Balanced
  /-- No closed lane has a worker left. -/
  detached_eq : (ofEvents events).dispatcher.detached = []
  /-- A key is unregistered only if none of its jobs waits or is being run, as all have ended. -/
  ended_of_isIdle : ∀ key, (ofEvents events).dispatcher.isIdle key = true →
    ((ofEvents events).dispatcher.lane key).waiting = []
      ∧ ((ofEvents events).dispatcher.lane key).running = []
      ∧ (ofEvents events).ended key = (ofEvents events).submitted key
  /-- Unregistering a key takes no job away. -/
  lane_unregister : ∀ key other,
    ((ofEvents events).dispatcher.unregister key).lane other
      = (ofEvents events).dispatcher.lane other
  /-- The tally is complete exactly when all jobs have ended. -/
  total_tally_iff : (ofEvents events).dispatcher.tally.total
      = events.countP DispatchEvent.isSubmission + events.countP DispatchEvent.isLooseEnd
    ↔ ∀ key, (ofEvents events).ended key = (ofEvents events).submitted key
  /-- However the lanes are spread and whatever happens during a flush, it tells what holds. -/
  tells : ∀ (shards : ℕ) (shard : String → Fin shards) (schedule : List (FlushEvent J)),
    Tells shard ((Flush.call events).run shard schedule)

/-- **Whatever happens to a dispatcher, the signals account for it.** -/
theorem signalsAccount_run (events : List (DispatchEvent J)) : SignalsAccount events := by
  have h := accounted_ofEvents events
  refine ⟨?_, h.orderly.detached_eq, ?_, ?_, total_tally_eq_iff events, ?_⟩
  · intro key lane hlane
    have heq : (ofEvents events).dispatcher.lane key = lane := by
      rw [Dispatcher.lane, hlane, Option.getD_some]
    rw [← heq]
    exact (h.orderly.lanes key).balanced
  · intro key hidle
    have hempty := h.orderly.lane_eq_empty_of_isIdle hidle
    have hended := h.ended_eq_submitted hempty
    obtain ⟨hwaiting, hrunning⟩ := (h.ended_eq_submitted_iff key).mp hended
    exact ⟨hwaiting, hrunning, hended⟩
  · exact fun key => (h.orderly.unregister key).1
  · exact fun shards shard schedule => tells_of_sound ((Flush.sound_call events).run schedule)

/-- **A job may be left when a flush succeeds.** The look finds the lane of `"a"` empty and goes on
to the shard of `"b"`. Before it reads the lane of `"b"`, the job that runs there submits another
one under `"a"` and ends, so that the lane of `"b"` is found to be empty, too. -/
theorem returned_with_job_left :
    let f := (Flush.call [.submit "a" "first", .wake "a" 0, .finish "a" 0 .done, .wake "a" 0,
        .wake "a" 0, .submit "b" "second", .wake "b" 0] : Flush String 2).run
      (fun key => if key = "a" then 0 else 1)
      [.enter, .read "a", .enter, .happen (.submit "a" "third"), .happen (.finish "b" 0 .done),
        .happen (.wake "b" 0), .happen (.wake "b" 0), .read "b", .enter]
    f.phase = .returned true
      ∧ (ofEvents f.past).submitted "a" = ["first", "third"]
      ∧ (ofEvents f.past).ended "a" = ["first"]
      ∧ ((ofEvents f.past).dispatcher.lane "a").waiting = ["third"]
      ∧ (ofEvents f.past).dispatcher.tally.total = 2
      ∧ f.past.countP DispatchEvent.isSubmission = 3 := by
  decide +kernel

end RecordedDispatcher

end AgvDispatch
