import AgvDispatch.Proofs.Fleet.Booking
import AgvDispatch.Proofs.Fleet.Detour
import AgvDispatch.Proofs.Fleet.Lifecycle
import AgvDispatch.Proofs.Network.Fingerprint
/-!
# Which sub-task an id stands for

The id of a sub-task is made of the code of its order and of its number, and it can be taken apart
again (`SubTask.idOf_inj`). The number is one more than how many sub-tasks were queued when the
sub-task lined up. No counter is behind it: a queue that has lost its head and grown again is as
long as it was before. If it gets a sub-task of the same order then, and the earlier one still
waits, both have the same id (`Fleet.ids_reassigned`).

That is the only way. The ids of a fleet that begins with empty queues stand for one sub-task each,
all along a run, exactly if no order lines up behind as many sub-tasks as one that it shares its
code with did before (`Fleet.unambiguous_run_iff`). Orders whose codes are not queued already are
always safe (`Fleet.unambiguous_run_of_unqueued`).
-/

namespace AgvDispatch

variable {α : Type}

namespace SubTask

/-! ### Ids -/

theorem toList_idOf (code : String) (number : ℕ) :
    (idOf code number).toList = code.toList ++ '-' :: Nat.toDigits 10 number := by
  unfold idOf
  rw [String.toList_append, String.toList_append, List.append_assoc]
  exact congrArg (code.toList ++ '-' :: ·) Nat.toList_repr

/-- **An id gives away the order and the number**, whatever hyphens and digits there are in the code
of the order: the number is what follows the last hyphen. -/
theorem idOf_inj {code code' : String} {number number' : ℕ} :
    idOf code number = idOf code' number' ↔ code = code' ∧ number = number' := by
  constructor
  · intro h
    -- Read backwards, both ids are split at their first hyphen.
    have hlists := congrArg (fun id => id.toList.reverse) h
    simp only [toList_idOf, List.reverse_append, List.reverse_cons, List.append_assoc,
      List.singleton_append] at hlists
    have hdigits : ∀ n, '-' ∉ (Nat.toDigits 10 n).reverse := fun n hmem =>
      hyphen_notMem_toDigits n (List.mem_reverse.mp hmem)
    obtain ⟨hnumber, hcode⟩ := append_separator_inj (hdigits number) (hdigits number') hlists
    rw [List.reverse_inj, String.toList_inj] at hcode
    rw [List.reverse_inj, ← Nat.toList_repr, ← Nat.toList_repr, String.toList_inj] at hnumber
    exact ⟨hcode, Nat.repr_injective hnumber⟩
  · rintro ⟨rfl, rfl⟩
    rfl

/-- Whether the id of a sub-task is the one that its order and its number make. -/
def IsNamed (t : SubTask α) : Prop := t.id = idOf t.orderCode t.number

theorem isNamed_ofOrder [Scalar α] (id : String) (order : TransportOrder) (number : ℕ) :
    (ofOrder id order number : SubTask α).IsNamed := rfl

/-- No step touches the id of a sub-task or what it is made of. -/
theorem Step.name_eq [Scalar α] {t t' : SubTask α} (h : t.Step t') :
    t'.id = t.id ∧ t'.orderCode = t.orderCode ∧ t'.number = t.number := by
  cases h with
  | staged stage _ => exact ⟨rfl, rfl, rfl⟩
  | deferred candidate => exact ⟨rfl, rfl, rfl⟩
  | planned candidate segment length _ _ =>
    have hevolves := t.evolves_commitPlan candidate segment length
    exact ⟨hevolves.id_eq, hevolves.orderCode_eq, hevolves.number_eq⟩
  | passed r =>
    have hevolves := evolves_passed r t
    exact ⟨hevolves.id_eq, hevolves.orderCode_eq, hevolves.number_eq⟩

theorem IsNamed.step [Scalar α] {t t' : SubTask α} (h : t.IsNamed) (hstep : t.Step t') :
    t'.IsNamed := by
  obtain ⟨hid, horder, hnumber⟩ := hstep.name_eq
  unfold IsNamed
  rw [hid, horder, hnumber]
  exact h

end SubTask

variable [Scalar α]

namespace Fleet

variable {f : Fleet α}

/-! ### What an event does to the ids -/

/-- Whether an order lines up with a vehicle. -/
def LinesUp (f : Fleet α) (order : TransportOrder) (id : String) : Prop :=
  order.stage = .new ∧ (f.assign order).1 = some id

theorem queue_assign_of_linesUp {order : TransportOrder} {id : String} (h : f.LinesUp order id) :
    (f.assign order).2.backlog.queue id
      = f.backlog.queue id ++ [.ofOrder id order ((f.backlog.queue id).length + 1)] := by
  rcases f.assign_of_new h.1 with ⟨hnone, -⟩ | ⟨v, hv, hbacklog⟩
  · rw [h.2] at hnone
    cases hnone
  · obtain rfl : id = v := Option.some.inj (h.2.symm.trans hv)
    rw [hbacklog, Backlog.queue_push]
    exact if_pos rfl

theorem queue_assign_of_not_linesUp {order : TransportOrder} {id : String}
    (h : ¬f.LinesUp order id) : (f.assign order).2.backlog.queue id = f.backlog.queue id := by
  rcases f.assign_cases order with ⟨hbacklog, -⟩ | ⟨v, hnew, hv, hbacklog, -⟩
  · rw [hbacklog]
  · rw [hbacklog, Backlog.queue_push, if_neg]
    rintro rfl
    exact h ⟨hnew, hv⟩

/-- The ids of the sub-tasks that are queued for a vehicle. -/
def ids (f : Fleet α) (id : String) : List String := (f.backlog.queue id).map SubTask.id

/-- **An order that lines up adds one id to those of a queue**; whatever else happens adds none. -/
theorem ids_step (f : Fleet α) (event : FleetEvent α) (id : String) :
    (∃ order, event = .assign order ∧ f.LinesUp order id ∧ (f.step event).ids id
        = f.ids id ++ [SubTask.idOf order.code ((f.backlog.queue id).length + 1)])
      ∨ ((∀ order, event = .assign order → ¬f.LinesUp order id)
        ∧ ((f.step event).ids id).Sublist (f.ids id)) := by
  by_cases hlines : ∃ order, event = .assign order ∧ f.LinesUp order id
  · obtain ⟨order, rfl, horder⟩ := hlines
    refine Or.inl ⟨order, rfl, horder, ?_⟩
    unfold ids
    rw [step, queue_assign_of_linesUp horder, List.map_append]
    rfl
  · have hnot : ∀ order, event = .assign order → ¬f.LinesUp order id :=
      fun order hassign horder => hlines ⟨order, hassign, horder⟩
    refine Or.inr ⟨hnot, ?_⟩
    unfold ids
    rcases f.queue_step_cases event id with
      heq | ⟨order, rfl, -⟩ | ⟨task, rest, task', hcons, heq, hstep⟩ | heq
    · rw [heq]
    · rw [step, queue_assign_of_not_linesUp (hnot order rfl)]
    · rw [heq, hcons, List.map_cons, List.map_cons, hstep.name_eq.1]
    · rw [heq]
      exact (List.tail_sublist _).map _

/-- Whether all sub-tasks have the ids that their orders and numbers make. -/
def Named (f : Fleet α) : Prop := ∀ id, ∀ task ∈ f.backlog.queue id, task.IsNamed

theorem Named.step (h : f.Named) (event : FleetEvent α) : (f.step event).Named := by
  intro id
  have hqueue := h id
  rcases f.queue_step_cases event id with
    heq | ⟨order, -, heq⟩ | ⟨task, rest, task', hcons, heq, hstep⟩ | heq
  · rw [heq]
    exact hqueue
  · rw [heq, List.forall_mem_append]
    exact ⟨hqueue, List.forall_mem_singleton.mpr (SubTask.isNamed_ofOrder _ _ _)⟩
  · rw [hcons, List.forall_mem_cons] at hqueue
    rw [heq, List.forall_mem_cons]
    exact ⟨hqueue.1.step hstep, hqueue.2⟩
  · rw [heq]
    exact fun task htask => hqueue task (List.mem_of_mem_tail htask)

/-- An id is in use in a queue if a sub-task has its order and its number. -/
theorem Named.mem_ids_iff (h : f.Named) {id code : String} {number : ℕ} :
    SubTask.idOf code number ∈ f.ids id
      ↔ ∃ task ∈ f.backlog.queue id, task.orderCode = code ∧ task.number = number := by
  unfold ids
  rw [List.mem_map]
  refine exists_congr fun task => and_congr_right fun htask => ?_
  rw [h id task htask, SubTask.idOf_inj]

/-! ### Ids that stand for one sub-task -/

/-- **Whether the ids stand for one sub-task each.** -/
structure Unambiguous (f : Fleet α) : Prop where
  /-- No two sub-tasks of a queue have the same id. -/
  nodup_ids : ∀ id, (f.ids id).Nodup
  /-- Every sub-task is found under its id. -/
  find?_eq : ∀ id, ∀ task ∈ f.backlog.queue id, f.backlog.find? id task.id = some task
  /-- A sub-task that is removed by its id is the one that is missing afterwards. -/
  queue_remove : ∀ id before task after, f.backlog.queue id = before ++ task :: after →
    (f.backlog.remove id task.id).queue id = before ++ after

/-- What is found and what is removed follow from the ids. -/
theorem unambiguous_iff_nodup_ids : f.Unambiguous ↔ ∀ id, (f.ids id).Nodup := by
  refine ⟨Unambiguous.nodup_ids, fun hnodup => ?_⟩
  -- A sub-task that stands before another one has an id of its own.
  have hbefore : ∀ id before task after, f.backlog.queue id = before ++ task :: after →
      ∀ earlier ∈ before, ¬(earlier.id == task.id) = true := by
    intro id before task after hqueue earlier hearlier heq
    have hids := hnodup id
    rw [ids, hqueue, List.map_append, List.map_cons, List.nodup_append] at hids
    exact hids.2.2 _ (List.mem_map_of_mem hearlier) _ List.mem_cons_self (beq_iff_eq.mp heq)
  refine ⟨hnodup, fun id task htask => ?_, fun id before task after hqueue => ?_⟩
  · obtain ⟨before, after, hqueue⟩ := List.append_of_mem htask
    rw [Backlog.find?, hqueue, List.find?_append,
      List.find?_eq_none.mpr (hbefore id before task after hqueue), Option.none_or]
    exact List.find?_cons_of_pos (beq_self_eq_true task.id)
  · rw [Backlog.queue_remove, if_pos rfl, hqueue,
      List.eraseP_append_right _ (hbefore id before task after hqueue)]
    exact congrArg (before ++ ·) (List.eraseP_cons_of_pos (beq_self_eq_true task.id))

/-- **Whether an event lets no order line up behind as many sub-tasks as one with the same code did
before**: the number of a sub-task is one more than how many it lined up behind. -/
def NumbersApart (f : Fleet α) (event : FleetEvent α) : Prop :=
  ∀ order id, event = .assign order → f.LinesUp order id → ∀ task ∈ f.backlog.queue id,
    task.orderCode = order.code → task.number ≠ (f.backlog.queue id).length + 1

/-- **One event keeps the ids unambiguous exactly if it keeps the numbers apart.** -/
theorem Named.unambiguous_step_iff (hnamed : f.Named) (h : f.Unambiguous)
    (event : FleetEvent α) : (f.step event).Unambiguous ↔ f.NumbersApart event := by
  rw [unambiguous_iff_nodup_ids]
  constructor
  · rintro hnodup order id rfl hlines task htask hcode hnumber
    have hused : SubTask.idOf order.code ((f.backlog.queue id).length + 1) ∈ f.ids id :=
      hnamed.mem_ids_iff.mpr ⟨task, htask, hcode, hnumber⟩
    rcases f.ids_step (.assign order) id with ⟨order', hassign, -, heq⟩ | ⟨hnot, -⟩
    · obtain rfl : order = order' := FleetEvent.assign.inj hassign
      have hids := hnodup id
      rw [heq, List.nodup_append] at hids
      exact hids.2.2 _ hused _ List.mem_cons_self rfl
    · exact hnot order rfl hlines
  · intro hapart id
    have hids := h.nodup_ids id
    rcases f.ids_step event id with ⟨order, rfl, hlines, heq⟩ | ⟨-, hsub⟩
    · rw [heq, List.nodup_append]
      refine ⟨hids, List.nodup_singleton _, fun used hused new hnew => ?_⟩
      rw [List.mem_singleton] at hnew
      rintro rfl
      rw [hnew, hnamed.mem_ids_iff] at hused
      obtain ⟨task, htask, hcode, hnumber⟩ := hused
      exact hapart order id rfl hlines task htask hcode hnumber
    · exact hids.sublist hsub

/-- The ids stay unambiguous all along a run exactly if every event keeps the numbers apart. -/
theorem Named.unambiguous_run_iff_along (hnamed : f.Named) (h : f.Unambiguous)
    (events : List (FleetEvent α)) :
    (∀ earlier, earlier <+: events → (f.run earlier).Unambiguous)
      ↔ Along NumbersApart f events := by
  induction events generalizing f with
  | nil =>
    simp only [List.prefix_nil, forall_eq]
    exact iff_of_true h trivial
  | cons event later ih =>
    have hstep := hnamed.unambiguous_step_iff h event
    constructor
    · intro hrun
      have hfirst : (f.step event).Unambiguous :=
        hrun [event] (List.cons_prefix_cons.mpr ⟨rfl, List.nil_prefix⟩)
      refine ⟨hstep.mp hfirst, (ih (hnamed.step event) hfirst).mp fun earlier hearlier => ?_⟩
      exact hrun (event :: earlier) (List.cons_prefix_cons.mpr ⟨rfl, hearlier⟩)
    · rintro ⟨hapart, hlater⟩ earlier hearlier
      rcases List.prefix_cons_iff.mp hearlier with rfl | ⟨rest, rfl, hrest⟩
      · exact h
      · exact (ih (hnamed.step event) (hstep.mpr hapart)).mpr hlater rest hrest

theorem named_start (settings : Settings α) (registry : Registry α) (n : Network α)
    (hook : Option (AllocationHook α)) (sink : Sink) :
    (start settings registry n hook sink).Named := by
  intro id task htask
  rw [queue_start] at htask
  exact absurd htask List.not_mem_nil

theorem unambiguous_start (settings : Settings α) (registry : Registry α) (n : Network α)
    (hook : Option (AllocationHook α)) (sink : Sink) :
    (start settings registry n hook sink).Unambiguous := by
  rw [unambiguous_iff_nodup_ids]
  intro id
  rw [ids, queue_start]
  exact List.nodup_nil

/-- **Ids stand for one sub-task each, all along a run, exactly if no order lines up behind as many
sub-tasks as one with the same code did that is still queued.** -/
theorem unambiguous_run_iff (settings : Settings α) (registry : Registry α) (n : Network α)
    (hook : Option (AllocationHook α)) (sink : Sink) (events : List (FleetEvent α)) :
    (∀ earlier, earlier <+: events →
        ((start settings registry n hook sink).run earlier).Unambiguous)
      ↔ Along NumbersApart (start settings registry n hook sink) events :=
  (named_start settings registry n hook sink).unambiguous_run_iff_along
    (unambiguous_start settings registry n hook sink) events

/-- Orders keep the ids unambiguous if no vehicle gets one that it has a sub-task of. -/
theorem unambiguous_run_of_unqueued {settings : Settings α} {registry : Registry α}
    {n : Network α} {hook : Option (AllocationHook α)} {sink : Sink}
    {events : List (FleetEvent α)}
    (h : Along (fun f event => ∀ order id, event = .assign order → f.LinesUp order id →
      ∀ task ∈ f.backlog.queue id, task.orderCode ≠ order.code)
      (start settings registry n hook sink) events) :
    ((start settings registry n hook sink).run events).Unambiguous := by
  have hinvariant : ((start settings registry n hook sink).run events).Named
      ∧ ((start settings registry n hook sink).run events).Unambiguous :=
    h.invariant (I := fun f => f.Named ∧ f.Unambiguous) (fun f event hf hevent =>
      ⟨hf.1.step event, (hf.1.unambiguous_step_iff hf.2 event).mpr
        fun order id hassign hlines task htask hcode _ =>
          hevent order id hassign hlines task htask hcode⟩)
      ⟨named_start _ _ _ _ _, unambiguous_start _ _ _ _ _⟩
  exact hinvariant.2

/-! ### Two sub-tasks with one id -/

/-- Whether the vehicle of a tour can be given work as soon as it reports that it has none. -/
def Willing (f : Fleet α) : Prop :=
  ∃ v, f.registry.get? "a" = some v ∧ v.id = "a"
    ∧ ({ v with state := .idle, progress := .none } : Vehicle α).isIdle = true

/-- The vehicle of a tour reports that it has no work. -/
def restReport : VehicleReport α :=
  { VehicleReport.ofPosition "a" 1 ⟨0, 0⟩ with state := some .idle, progress := some .none }

theorem willing_tourStart (known : Route) : (tourStart known : Fleet α).Willing := by
  obtain ⟨hget, -⟩ := Option.filter_eq_some_iff.mp (idle?_tourStart (α := α) known)
  exact ⟨guide, hget, rfl, rfl⟩

/-- An order that names a vehicle lines up with it if the vehicle is free. -/
theorem linesUp_tourOrder {v : Vehicle α} (hidle : f.registry.idle? "a" = some v)
    (hid : v.id = "a") : f.LinesUp tourOrder "a" := by
  have hrequested : (f.distributor.distribute f.registry f.network f.backlog tourOrder).1
      = some v := by
    change (f.registry.idle? "a").or _ = some v
    rw [hidle, Option.some_or]
  refine ⟨rfl, ?_⟩
  unfold assign
  simp only [hrequested]
  exact congrArg some hid

/-- A vehicle that reports that it has no work gets the next order that names it. -/
theorem Willing.run_report_assign (h : f.Willing) :
    (f.run [.report restReport, .assign tourOrder]).Willing
      ∧ (f.run [.report restReport, .assign tourOrder]).backlog.queue "a"
        = f.backlog.queue "a" ++ [.ofOrder "a" tourOrder ((f.backlog.queue "a").length + 1)] := by
  obtain ⟨v, hget, hid, hfit⟩ := h
  have hqueue : (f.step (.report restReport)).backlog.queue "a" = f.backlog.queue "a" :=
    (queue_report hget "a").trans (congrFun List.modifyHead_id (f.backlog.queue "a"))
  have hreported : (f.step (.report restReport)).registry.get? "a"
      = some (restReport.update v) :=
    (get?_report hget "a").trans (congrArg (Option.map restReport.update) hget)
  have hidle : (f.step (.report restReport)).registry.idle? "a" = some (restReport.update v) := by
    rw [Registry.idle?, hreported]
    exact Option.filter_some_pos hfit
  change ((f.step (.report restReport)).assign tourOrder).2.Willing
    ∧ ((f.step (.report restReport)).assign tourOrder).2.backlog.queue "a" = _
  generalize f.step (.report restReport) = g at *
  have hlines : g.LinesUp tourOrder "a" := linesUp_tourOrder hidle hid
  refine ⟨?_, by rw [queue_assign_of_linesUp hlines, hqueue]⟩
  rcases g.assign_cases tourOrder with ⟨-, hregistry⟩ | ⟨id, -, -, -, hregistry⟩
  · exact ⟨restReport.update v, hregistry ▸ hreported, hid, hfit⟩
  · by_cases howner : id = "a"
    · refine ⟨{ restReport.update v with
          state := .busy
          taskId := some (SubTask.idOf tourOrder.code ((g.backlog.queue id).length + 1))
          progress := .underway }, ?_, hid, hfit⟩
      rw [hregistry, Registry.get?_modify, if_pos howner, hreported]
      rfl
    · refine ⟨restReport.update v, ?_, hid, hfit⟩
      rw [hregistry, Registry.get?_modify, if_neg howner, hreported]

/-- Giving up a sub-task that others wait behind leaves the vehicle as it is. -/
theorem Willing.step_cancel (h : f.Willing) {task : SubTask α} {later : List (SubTask α)}
    (hqueue : f.backlog.queue "a" = task :: later) (hmay : task.stage.mayBecome .cancel = true)
    (hne : later ≠ []) (reason : CancelReason) : (f.step (.cancel "a" reason)).Willing
      ∧ (f.step (.cancel "a" reason)).backlog.queue "a" = later := by
  have hstep : f.step (.cancel "a" reason)
      = (f.closeHead "a").emit "a" (.cancel task.id) := by
    have hhead : f.backlog.head? "a" = some task :=
      Backlog.head?_eq_some_iff.mpr ⟨later, hqueue⟩
    have hcancel : f.cancel "a" reason
        = .ok ({ task.setStage .cancel with cancelReason := some reason },
          (f.closeHead "a").emit "a" (.cancel task.id)) :=
      cancel_eq_ok_iff.mpr ⟨task, hhead, hmay, rfl⟩
    simp only [step]
    rw [hcancel]
    rfl
  have hremoved : (f.backlog.removeHead "a").queue "a" = later := by
    rw [Backlog.queue_removeHead, if_pos rfl, hqueue]
    rfl
  rw [hstep]
  refine ⟨?_, hremoved⟩
  obtain ⟨v, hget, hid, hfit⟩ := h
  refine ⟨v, ?_, hid, hfit⟩
  change (f.closeHead "a").registry.get? "a" = some v
  rw [get?_closeHead, if_neg, hget]
  rintro ⟨-, htail⟩
  rw [hqueue] at htail
  exact hne htail

/-- A vehicle gets two sub-tasks of an order, gives the first one up and gets a third one. -/
def reassignment : List (FleetEvent α) :=
  [.report restReport, .assign tourOrder, .report restReport, .assign tourOrder,
    .cancel "a" .operator, .report restReport, .assign tourOrder]

/-- **Two sub-tasks with the same id are queued for one vehicle**: both lined up behind one
other. -/
theorem ids_reassigned :
    ((tourStart [] : Fleet Float).run reassignment).ids "a" = ["tour-2", "tour-2"]
      ∧ ¬((tourStart [] : Fleet Float).run reassignment).Unambiguous := by
  have hfirst := (willing_tourStart (α := Float) []).run_report_assign
  have hsecond := hfirst.1.run_report_assign
  rw [hfirst.2] at hsecond
  have hstart : (tourStart [] : Fleet Float).backlog.queue "a" = [] := queue_start _ _ _ _ _ "a"
  rw [hstart] at hsecond
  have hclosed := hsecond.1.step_cancel hsecond.2 rfl (List.cons_ne_nil _ _) .operator
  have hthird := hclosed.1.run_report_assign.2
  rw [hclosed.2] at hthird
  have hids : ((tourStart [] : Fleet Float).run reassignment).ids "a" = ["tour-2", "tour-2"] :=
    congrArg (List.map SubTask.id) hthird
  refine ⟨hids, fun h => ?_⟩
  have hnodup := h.nodup_ids "a"
  rw [hids] at hnodup
  exact absurd hnodup (by decide)

end Fleet

end AgvDispatch
