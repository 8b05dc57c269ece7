import AgvDispatch.Allocation.Distributor
import AgvDispatch.Proofs.Fleet.Naming
/-!
# What re-validation recognises

A bound vehicle that reports a task is held against the order it is bound to. The report is accepted
if the reported id is the code of the order, alone or followed by a hyphen and **anything at all**
(`TransportOrder.owns_iff`), and if the vehicle does not claim to be done while the order is alive.

The ids that this is meant for are the **own** ones: the code itself and the ids of the sub-tasks,
where the hyphen is followed by a number (`TransportOrder.IsOwn`). All other ids that are accepted
**stray** (`TransportOrder.Strays`). Among them are the ids of all sub-tasks of every other order
whose code continues the one of this order by a hyphen (`TransportOrder.strays_idOf_iff`); a
vehicle that executes such a sub-task is taken for one that executes this order
(`Distributor.stranger_accepted`).
-/

namespace AgvDispatch

namespace TransportOrder

/-! ### Task ids -/

/-- Whether a task id names an order itself or one of its sub-tasks. -/
def IsOwn (order : TransportOrder) (taskId : String) : Prop :=
  taskId = order.code ∨ ∃ number, taskId = SubTask.idOf order.code number

/-- Whether a task id begins like that of a sub-task of an order, but does not go on with a
number. -/
def Strays (order : TransportOrder) (taskId : String) : Prop :=
  ∃ rest, taskId = order.code ++ "-" ++ rest ∧ ∀ number : ℕ, rest ≠ toString number

variable {order : TransportOrder} {taskId : String}

theorem toList_append_hyphen (code rest : String) :
    (code ++ "-" ++ rest).toList = code.toList ++ '-' :: rest.toList := by
  rw [String.toList_append, String.toList_append, List.append_assoc]
  rfl

/-- What follows the hyphen behind a code is given away by the whole. -/
theorem append_hyphen_inj {code rest rest' : String} :
    code ++ "-" ++ rest = code ++ "-" ++ rest' ↔ rest = rest' := by
  rw [← String.toList_inj, toList_append_hyphen, toList_append_hyphen, List.append_cancel_left_eq,
    List.cons.injEq, String.toList_inj, and_iff_right rfl]

/-- **An id is accepted if it is the code, alone or followed by a hyphen.** -/
theorem owns_iff : order.owns taskId = true
    ↔ taskId = order.code ∨ ∃ rest, taskId = order.code ++ "-" ++ rest := by
  have hcode : ∀ rest : List Char, taskId.toList = order.code.toList ++ rest →
      (order.owns taskId = true ↔ rest = [] ∨ ∃ cs, rest = '-' :: cs) := by
    intro rest htext
    unfold owns
    simp only [htext, List.drop_left, Bool.and_eq_true,
      List.isPrefixOf_iff_prefix.mpr (List.prefix_append _ rest), true_and]
    cases rest with
    | nil => exact iff_of_true rfl (Or.inl rfl)
    | cons c cs => simp
  constructor
  · intro h
    have hprefix : order.code.toList <+: taskId.toList := by
      unfold owns at h
      exact List.isPrefixOf_iff_prefix.mp (Bool.and_eq_true_iff.mp h).1
    obtain ⟨rest, hrest⟩ := hprefix
    rcases (hcode rest hrest.symm).mp h with rfl | ⟨cs, rfl⟩
    · rw [List.append_nil, String.toList_inj] at hrest
      exact Or.inl hrest.symm
    · refine Or.inr ⟨String.ofList cs, ?_⟩
      rw [← String.toList_inj, toList_append_hyphen, String.toList_ofList, hrest]
  · rintro (rfl | ⟨rest, rfl⟩)
    · exact (hcode [] (List.append_nil _).symm).mpr (Or.inl rfl)
    · exact (hcode _ (toList_append_hyphen _ _)).mpr (Or.inr ⟨_, rfl⟩)

/-- The ids that are accepted are the own ones and those that stray. -/
theorem owns_iff_isOwn_or_strays :
    order.owns taskId = true ↔ order.IsOwn taskId ∨ order.Strays taskId := by
  rw [owns_iff]
  constructor
  · rintro (hcode | ⟨rest, rfl⟩)
    · exact Or.inl (Or.inl hcode)
    · by_cases hnumber : ∃ number : ℕ, rest = toString number
      · obtain ⟨number, rfl⟩ := hnumber
        exact Or.inl (Or.inr ⟨number, rfl⟩)
      · exact Or.inr ⟨rest, rfl, not_exists.mp hnumber⟩
  · rintro ((hcode | ⟨number, rfl⟩) | ⟨rest, rfl, -⟩)
    · exact Or.inl hcode
    · exact Or.inr ⟨toString number, rfl⟩
    · exact Or.inr ⟨rest, rfl⟩

/-- An id that strays is not an own one. -/
theorem Strays.not_isOwn (h : order.Strays taskId) : ¬order.IsOwn taskId := by
  obtain ⟨rest, rfl, hrest⟩ := h
  rintro (hcode | ⟨number, hnumber⟩)
  · have hlength := congrArg (fun text : String => text.toList.length) hcode
    simp only [toList_append_hyphen, List.length_append, List.length_cons] at hlength
    omega
  · exact hrest number (append_hyphen_inj.mp hnumber)

/-- **The ids of another order's sub-tasks stray exactly if the code of that order continues the one
of this order by a hyphen.** -/
theorem strays_idOf_iff {code : String} {number : ℕ} :
    order.Strays (SubTask.idOf code number) ↔ ∃ rest, code = order.code ++ "-" ++ rest := by
  have hdigits : ∀ n, (toString n).toList = Nat.toDigits 10 n := fun n => Nat.toList_repr
  constructor
  · rintro ⟨rest, hrest, hnumber⟩
    have hnumber' : rest.toList ≠ Nat.toDigits 10 number := by
      rw [← hdigits number, Ne, String.toList_inj]
      exact hnumber number
    have hlists := congrArg String.toList hrest
    rw [SubTask.toList_idOf, toList_append_hyphen] at hlists
    -- One of the two codes begins with the other one, and what is left of it begins with a hyphen.
    rcases List.append_eq_append_iff.mp hlists with
      ⟨_ | ⟨c, cs⟩, -, htail⟩ | ⟨_ | ⟨c, cs⟩, hcode, htail⟩
    · exact absurd (List.tail_eq_of_cons_eq htail).symm hnumber'
    · -- The number has no hyphen, so it is not cut within.
      refine absurd ?_ (hyphen_notMem_toDigits number)
      rw [List.tail_eq_of_cons_eq htail]
      exact List.mem_append_right _ List.mem_cons_self
    · exact absurd (List.tail_eq_of_cons_eq htail) hnumber'
    · refine ⟨String.ofList cs, ?_⟩
      rw [← String.toList_inj, toList_append_hyphen, String.toList_ofList, hcode,
        ← List.head_eq_of_cons_eq htail]
  · rintro ⟨rest, rfl⟩
    refine ⟨rest ++ "-" ++ toString number, ?_, fun number' hnumber => ?_⟩
    · rw [← String.toList_inj, SubTask.toList_idOf]
      simp only [toList_append_hyphen, hdigits, List.append_assoc, List.cons_append]
    · refine hyphen_notMem_toDigits number' ?_
      rw [← hdigits number', ← hnumber, toList_append_hyphen]
      exact List.mem_append_right _ List.mem_cons_self

/-! ### Reports -/

variable {α : Type}

/-- Whether a vehicle claims to be done with an order that is alive. -/
def Contradicts (order : TransportOrder) (v : Vehicle α) : Prop :=
  (v.progress = .finished ∨ v.progress = .cancelled) ∧ order.stage.isTerminal = false

/-- **A report is accepted if its id is**, and if the vehicle does not claim to be done too
early. -/
theorem fitsReport_iff {v : Vehicle α} (h : v.taskId = some taskId) : order.fitsReport v = true
    ↔ (order.IsOwn taskId ∨ order.Strays taskId) ∧ ¬order.Contradicts v := by
  unfold fitsReport Contradicts
  rw [h, Option.all_some, Bool.and_eq_true, owns_iff_isOwn_or_strays, Bool.not_eq_true',
    ← Bool.not_eq_true, Bool.and_eq_true, Bool.or_eq_true, beq_iff_eq, beq_iff_eq,
    Bool.not_eq_true']

end TransportOrder

/-! ### Holders -/

namespace Backlog

variable {α : Type}

/-- Whether a vehicle has a sub-task of an order. -/
def IsHolder (b : Backlog α) (orderCode id : String) : Prop :=
  ∃ task ∈ b.queue id, task.orderCode = orderCode

/-- What may be found when the queues are looked through, in whatever order, for a vehicle that has
a sub-task of an order. -/
def MayFind (b : Backlog α) (orderCode : String) : Option String → Prop
  | some id => b.IsHolder orderCode id
  | none => ∀ id, ¬b.IsHolder orderCode id

theorem mayFind_vehicleFor? (b : Backlog α) (orderCode : String) :
    b.MayFind orderCode (b.vehicleFor? orderCode) := by
  unfold vehicleFor?
  generalize hfind : List.find? _ b.queues.toList = found
  cases found with
  | some entry =>
    obtain ⟨id, tasks⟩ := entry
    have hget := Std.TreeMap.mem_toList_iff_getElem?_eq_some.mp (List.mem_of_find?_eq_some hfind)
    have hqueue : b.queue id = tasks := by
      rw [queue, Std.TreeMap.get?_eq_getElem?, hget, Option.getD_some]
    have hany := List.find?_some hfind
    obtain ⟨task, htask, hcode⟩ := List.any_eq_true.mp hany
    exact ⟨task, hqueue ▸ htask, beq_iff_eq.mp hcode⟩
  | none =>
    rintro id ⟨task, htask, hcode⟩
    unfold queue at htask
    cases hget : b.queues.get? id with
    | none =>
      rw [hget] at htask
      exact absurd htask List.not_mem_nil
    | some tasks =>
      rw [hget] at htask
      have hentry := List.find?_eq_none.mp hfind (id, tasks)
        (Std.TreeMap.mem_toList_iff_getElem?_eq_some.mpr hget)
      exact hentry (List.any_eq_true.mpr ⟨task, htask, beq_iff_eq.mpr hcode⟩)

end Backlog

/-! ### The distributor -/

namespace Distributor

variable {α : Type} [Scalar α]

/-- Whether an order past its first stage is bound to a vehicle: it names the vehicle, or else the
vehicle has a sub-task of it. -/
def Binds (registry : Registry α) (backlog : Backlog α) (order : TransportOrder)
    (v : Vehicle α) : Prop :=
  ∃ id, (order.requestedVehicle = some id
      ∨ order.requestedVehicle = none ∧ backlog.IsHolder order.code id)
    ∧ registry.get? id = some v

/-- Whether an order past its first stage is bound to a vehicle that is the first one by id, should
there be several. -/
def BindsFirst (registry : Registry α) (backlog : Backlog α) (order : TransportOrder)
    (v : Vehicle α) : Prop :=
  ∃ id, order.requestedVehicle.or (backlog.vehicleFor? order.code) = some id
    ∧ registry.get? id = some v

omit [Scalar α] in
/-- An order past its first stage gets the vehicle that it names or that has been found for it,
provided that its report fits if reports are checked. -/
theorem boundTo_eq_some_iff {d : Distributor α} {registry : Registry α} {order : TransportOrder}
    {holder : Option String} {v : Vehicle α} : d.boundTo registry order holder = some v
      ↔ (∃ id, order.requestedVehicle.or holder = some id ∧ registry.get? id = some v)
        ∧ (d.revalidate = true → order.fitsReport v = true) := by
  unfold boundTo
  simp only [Option.bind_eq_bind, Option.bind_eq_some_iff]
  constructor
  · rintro ⟨id, hid, w, hget, hw⟩
    split at hw
    · cases hw
    · rename_i hfits
      obtain rfl : w = v := Option.some.inj hw
      exact ⟨⟨id, hid, hget⟩, fun hcheck => by simpa [hcheck] using hfits⟩
  · rintro ⟨⟨id, hid, hget⟩, hfits⟩
    refine ⟨id, hid, v, hget, if_neg ?_⟩
    rw [Bool.and_eq_true, Bool.not_eq_true']
    exact fun ⟨hcheck, hnot⟩ => absurd (hfits hcheck) (Bool.not_eq_true _ ▸ hnot)

/-- The vehicle that is looked up is the first one by id. -/
theorem distribute_eq_some_iff {d : Distributor α} {registry : Registry α} {n : Network α}
    {backlog : Backlog α} {order : TransportOrder} {v : Vehicle α} (hstage : order.stage ≠ .new) :
    (d.distribute registry n backlog order).1 = some v
      ↔ BindsFirst registry backlog order v
        ∧ (d.revalidate = true → order.fitsReport v = true) := by
  unfold distribute bound
  rw [if_neg hstage]
  exact boundTo_eq_some_iff

omit [Scalar α] in
/-- **In whatever order the queues are looked through**, an order past its first stage may get any
vehicle that it is bound to, and no other one. -/
theorem exists_mayFind_iff {d : Distributor α} {registry : Registry α} {backlog : Backlog α}
    {order : TransportOrder} {v : Vehicle α} :
    (∃ holder, backlog.MayFind order.code holder ∧ d.boundTo registry order holder = some v)
      ↔ Binds registry backlog order v
        ∧ (d.revalidate = true → order.fitsReport v = true) := by
  simp only [boundTo_eq_some_iff, Option.or_eq_some_iff]
  constructor
  · rintro ⟨holder, hfound, ⟨id, hid, hget⟩, hfits⟩
    refine ⟨⟨id, hid.imp_right ?_, hget⟩, hfits⟩
    rintro ⟨hnone, rfl⟩
    exact ⟨hnone, hfound⟩
  · rintro ⟨⟨id, hnamed | ⟨hnone, hholder⟩, hget⟩, hfits⟩
    · exact ⟨_, backlog.mayFind_vehicleFor? order.code, ⟨id, Or.inl hnamed, hget⟩, hfits⟩
    · exact ⟨some id, hholder, ⟨id, Or.inr ⟨hnone, rfl⟩, hget⟩, hfits⟩

/-- **What re-validation makes of a vehicle that reports a task id.** -/
structure Revalidates (order : TransportOrder) (v : Vehicle α) (taskId : String) : Prop where
  /-- The report fits if its id is an own one or strays, and if it does not contradict the order. -/
  fits_iff : order.fitsReport v = true
    ↔ (order.IsOwn taskId ∨ order.Strays taskId) ∧ ¬order.Contradicts v
  /-- So only the own ids are recognised, except where an id strays. -/
  recognisesOwn_iff : (order.fitsReport v = true ↔ order.IsOwn taskId ∧ ¬order.Contradicts v)
    ↔ ¬(order.Strays taskId ∧ ¬order.Contradicts v)
  /-- The id of a sub-task of another order strays exactly if its code continues the one of this
  order by a hyphen. -/
  strays_iff : ∀ (vehicleId : String) (other : TransportOrder) (number : ℕ),
    taskId = (SubTask.ofOrder vehicleId other number : SubTask α).id →
      (order.Strays taskId ↔ ∃ rest, other.code = order.code ++ "-" ++ rest)
  /-- With re-validation the vehicle may execute the order exactly if it is bound to it and its
  report fits. -/
  bound_iff : ∀ (d : Distributor α) (registry : Registry α) (backlog : Backlog α),
    d.revalidate = true →
      ((∃ holder, backlog.MayFind order.code holder ∧ d.boundTo registry order holder = some v)
        ↔ Binds registry backlog order v ∧ order.fitsReport v = true)
  /-- It is the first one by id that does. -/
  distribute_iff : ∀ (d : Distributor α) (registry : Registry α) (n : Network α)
    (backlog : Backlog α), d.revalidate = true → order.stage ≠ .new →
      ((d.distribute registry n backlog order).1 = some v
        ↔ BindsFirst registry backlog order v ∧ order.fitsReport v = true)

/-- **Re-validation recognises an order's own sub-tasks, and every id that strays.** -/
theorem revalidates_of_report (order : TransportOrder) {v : Vehicle α} {taskId : String}
    (h : v.taskId = some taskId) : Revalidates order v taskId where
  fits_iff := order.fitsReport_iff h
  recognisesOwn_iff := by
    have hapart : order.Strays taskId → ¬order.IsOwn taskId := TransportOrder.Strays.not_isOwn
    rw [order.fitsReport_iff h]
    tauto
  strays_iff := by
    rintro vehicleId other number rfl
    exact TransportOrder.strays_idOf_iff
  bound_iff := by
    intro d registry backlog hcheck
    rw [exists_mayFind_iff]
    exact and_congr_right fun _ => forall_prop_of_true hcheck
  distribute_iff := by
    intro d registry n backlog hcheck hstage
    rw [distribute_eq_some_iff hstage]
    exact and_congr_right fun _ => forall_prop_of_true hcheck

/-- An order in execution that names its vehicle. -/
def underway (code : String) : TransportOrder :=
  { TransportOrder.ofRoute code ⟨1, 1⟩ ⟨1, 2⟩ with vehicleId := some "A", stage := .run }

/-- A vehicle that executes the first sub-task of an order. -/
def executing (order : TransportOrder) : Vehicle Float :=
  { Vehicle.ready "A" 1 ⟨0, 0⟩ 300 with
    state := .busy
    taskId := some (SubTask.ofOrder "A" order 1 : SubTask Float).id
    progress := .underway }

/-- A vehicle that executes its order is recognised, and so is its id if the order has a hyphen in
its code. -/
theorem revalidates_executing : (executing (underway "T-1")).taskId = some "T-1-1"
    ∧ Revalidates (underway "T-1") (executing (underway "T-1")) "T-1-1" :=
  ⟨rfl, revalidates_of_report _ rfl⟩

/-- **A vehicle that executes another order is accepted**: the code of that order continues the one
of this order by a hyphen, and the id of its sub-task is not an own one. -/
theorem stranger_accepted :
    ¬(underway "T").IsOwn (SubTask.ofOrder "A" (underway "T-X") 1 : SubTask Float).id
      ∧ (underway "T").fitsReport (executing (underway "T-X")) = true
      ∧ ((⟨.distancePriority, 20, true⟩ : Distributor Float).distribute
        (Registry.ofList [executing (underway "T-X")]) {} {} (underway "T")).1
          = some (executing (underway "T-X")) := by
  have hstrays : (underway "T").Strays
      (SubTask.ofOrder "A" (underway "T-X") 1 : SubTask Float).id :=
    TransportOrder.strays_idOf_iff.mpr ⟨"X", rfl⟩
  exact ⟨hstrays.not_isOwn, by decide +kernel, rfl⟩

end Distributor

end AgvDispatch
