import AgvDispatch.Proofs.Allocation.Optimum
/-!
# What is remembered of the standby points

The strategy that takes vehicles from the standby points remembers, for each origin, the point it
has found. What is remembered stays **coherent** with the network: it is what would be found again
(`Strategy.Coherent`). A call adds to it only what it has just found, so this holds after any calls
(`Strategy.coherent_run`), whatever becomes of the registry in between.

So every call chooses whom a strategy that remembers nothing would choose
(`Strategy.parksAsFresh_run`). That is the first of the idle vehicles that may take the order and
stand on the standby point in question, and this is the first of the closest standby points of the
map (`Network.IsNearestStandby`).
-/

namespace AgvDispatch

/-- Where nothing is better than anything, the first best is the first. -/
theorem firstBest_eq_head? {β : Type} (xs : List β) :
    firstBest (fun _ _ => false) xs = xs.head? := by
  cases xs with
  | nil => rfl
  | cons x xs => exact firstBest_append_cons (List.forall_mem_nil _) fun _ _ => Bool.false_ne_true

/-! ### The nearest standby point -/

/-- **Whether a standby point is the nearest one** of the map of an origin: those that are listed
before it are farther from the origin, and those behind it are not closer. Points without a position
do not count. -/
def Network.IsNearestStandby {α : Type} [Scalar α] (n : Network α) (origin standby : Waypoint) :
    Prop :=
  ∃ target p before after, n.position origin = some target ∧ n.position standby = some p
    ∧ n.standbyPoints origin.mapId = before ++ standby :: after
    ∧ (∀ w ∈ before, ∀ q, n.position w = some q → p.distance target < q.distance target)
    ∧ ∀ w ∈ after, ∀ q, n.position w = some q → ¬q.distance target < p.distance target

/-- Whether a vehicle is idle, may take an order and stands on a waypoint. -/
def TransportOrder.ParksOn {α : Type} (order : TransportOrder) (standby : Waypoint)
    (v : Vehicle α) : Prop :=
  order.Takes Vehicle.isIdle v ∧ v.waypoint = some standby

namespace Strategy

variable {α : Type}

/-- **Who is found on a standby point** is the first of the vehicles that park there. -/
theorem picks_parkedAt (r : Registry α) (n : Network α) (order : TransportOrder)
    (standby : Waypoint) (lowestBattery : ℕ) : r.Picks (order.ParksOn standby) (fun _ _ => False)
      (parkedAt order standby ⟨r, n, lowestBattery⟩) := by
  have hparked : parkedAt order standby ⟨r, n, lowestBattery⟩
      = firstBest (fun _ _ => false) (r.all.filter fun v =>
        (v.waypoint == some standby) && (order.admits v && v.isIdle)) := by
    rw [firstBest_eq_head?, ← List.filter_filter, ← List.filter_filter, List.head?_filter]
    rfl
  rw [hparked]
  refine Registry.picks_firstBest ⟨fun _ _ _ _ h => h.elim, fun _ _ _ _ _ _ _ _ h => h⟩ ?_ ?_
  · intro v
    rw [Bool.and_eq_true, Bool.and_eq_true, beq_iff_eq]
    unfold TransportOrder.ParksOn TransportOrder.Takes
    tauto
  · exact fun _ _ _ _ => iff_of_false Bool.false_ne_true id

variable [Scalar α]

/-- **Which thing is the closest**: those before it are farther from the point, those behind it are
not closer. -/
theorem closest_eq_some_iff [Scalar.Ranked α] {β : Type} {target : Point α}
    {place : β → Option (Point α)} {xs : List β} {x : β}
    (hcomparable : ∀ y p, place y = some p → p.distance target ≤ p.distance target) :
    closest target place xs = some x ↔ ∃ p before after, place x = some p
      ∧ xs = before ++ x :: after
      ∧ (∀ y ∈ before, ∀ q, place y = some q → p.distance target < q.distance target)
      ∧ ∀ y ∈ after, ∀ q, place y = some q → ¬q.distance target < p.distance target := by
  have hle : ∀ y ∈ xs.filter (fun y => (place y).isSome),
      gauge target place y ≤ gauge target place y := by
    intro y hy
    obtain ⟨p, hp⟩ := Option.isSome_iff_exists.mp (List.mem_filter.mp hy).2
    rw [gauge_of_place hp]
    exact hcomparable y p hp
  have hranks : RanksOn (· ∈ xs.filter fun y => (place y).isSome)
      fun y z => decide (gauge target place y < gauge target place z) = true := by
    simp only [decide_eq_true_eq]
    exact ⟨fun y z _ _ => Scalar.Ranked.not_lt_of_lt _ _,
      fun y z w hy hz hw => Scalar.Ranked.not_lt_trans _ _ _ (hle y hy) (hle z hz) (hle w hw)⟩
  rw [closest_eq_firstBest, firstBest_eq_some_iff hranks]
  simp only [decide_eq_true_eq]
  constructor
  · rintro ⟨before, after, hxs, hbefore, hafter⟩
    -- What has no position may stand anywhere in between.
    obtain ⟨before', rest, rfl, rfl, hrest⟩ := List.filter_eq_append_iff.mp hxs
    obtain ⟨skipped, after', rfl, hskipped, hx, rfl⟩ := List.filter_eq_cons_iff.mp hrest
    obtain ⟨p, hp⟩ := Option.isSome_iff_exists.mp hx
    refine ⟨p, before' ++ skipped, after', hp, (List.append_assoc _ _ _).symm, ?_, ?_⟩
    · intro y hy q hq
      have hplaced : (place y).isSome = true := Option.isSome_iff_exists.mpr ⟨q, hq⟩
      rcases List.mem_append.mp hy with hy | hy
      · have hlt := hbefore y (List.mem_filter.mpr ⟨hy, hplaced⟩)
        rwa [gauge_of_place hp, gauge_of_place hq] at hlt
      · exact absurd hplaced (hskipped y hy)
    · intro y hy q hq
      have hnot := hafter y (List.mem_filter.mpr ⟨hy, Option.isSome_iff_exists.mpr ⟨q, hq⟩⟩)
      rwa [gauge_of_place hp, gauge_of_place hq] at hnot
  · rintro ⟨p, before, after, hp, rfl, hbefore, hafter⟩
    refine ⟨before.filter fun y => (place y).isSome, after.filter fun y => (place y).isSome,
      by simp [hp], fun y hy => ?_, fun y hy => ?_⟩
    · obtain ⟨hmem, hplaced⟩ := List.mem_filter.mp hy
      obtain ⟨q, hq⟩ := Option.isSome_iff_exists.mp hplaced
      rw [gauge_of_place hp, gauge_of_place hq]
      exact hbefore y hmem q hq
    · obtain ⟨hmem, hplaced⟩ := List.mem_filter.mp hy
      obtain ⟨q, hq⟩ := Option.isSome_iff_exists.mp hplaced
      rw [gauge_of_place hp, gauge_of_place hq]
      exact hafter y hmem q hq

/-- **What is found is the nearest standby point.** -/
theorem nearestStandby_eq_some_iff [Scalar.Ranked α] {n : Network α} (hcomparable : n.Comparable)
    {r : Registry α} {lowestBattery : ℕ} {origin standby : Waypoint} :
    nearestStandby origin ⟨r, n, lowestBattery⟩ = some standby
      ↔ n.IsNearestStandby origin standby := by
  unfold nearestStandby Network.IsNearestStandby
  simp only [Option.bind_eq_bind, Option.bind_eq_some_iff]
  refine exists_congr fun target => ?_
  constructor
  · rintro ⟨horigin, hclosest⟩
    obtain ⟨p, before, after, h⟩ := (closest_eq_some_iff
      fun w p hp => hcomparable w origin p target hp horigin).mp hclosest
    exact ⟨p, before, after, horigin, h⟩
  · rintro ⟨p, before, after, horigin, h⟩
    exact ⟨horigin, (closest_eq_some_iff
      fun w p hp => hcomparable w origin p target hp horigin).mpr ⟨p, before, after, h⟩⟩

/-! ### What is remembered -/

/-- A call of a strategy: the order, with the vehicles and the charge as they are then. -/
structure Call (α : Type) where
  /-- The order that a vehicle is looked for. -/
  order : TransportOrder
  /-- The vehicles that are known. -/
  registry : Registry α
  /-- The charge from which on a vehicle may leave its charger. -/
  lowestBattery : ℕ

omit [Scalar α] in
/-- What a strategy sees in a call. -/
def Call.surroundings (call : Call α) (n : Network α) : Surroundings α :=
  ⟨call.registry, n, call.lowestBattery⟩

/-- A strategy after some calls in the same network. -/
def run (strategy : Strategy α) (n : Network α) (calls : List (Call α)) : Strategy α :=
  calls.foldl (fun strategy call => (strategy.select call.order (call.surroundings n)).2) strategy

/-- **Whether what is remembered is coherent with a network**: it is what would be found again. -/
def Coherent (n : Network α) (found : Std.TreeMap Waypoint Waypoint) : Prop :=
  ∀ origin standby, found.get? origin = some standby →
    ∀ r lowestBattery, nearestStandby origin ⟨r, n, lowestBattery⟩ = some standby

variable {n : Network α} {found : Std.TreeMap Waypoint Waypoint}

theorem coherent_empty (n : Network α) : Coherent n {} := by
  intro origin standby h
  rw [Std.TreeMap.get?_eq_getElem?, Std.TreeMap.getElem?_emptyc] at h
  cases h

/-- A call adds at most what it has found, and nothing if it has found nothing. -/
theorem select_recentPark_snd (found : Std.TreeMap Waypoint Waypoint) (order : TransportOrder)
    (s : Surroundings α) : ((recentPark found).select order s).2 = recentPark found
      ∨ ∃ standby, nearestStandby order.origin s = some standby
        ∧ ((recentPark found).select order s).2
          = recentPark (found.insert order.origin standby) := by
  simp only [Strategy.select]
  split
  · exact Or.inl rfl
  · cases hfound : nearestStandby order.origin s with
    | none => exact Or.inl rfl
    | some standby => exact Or.inr ⟨standby, rfl, rfl⟩

/-- **One call keeps what is remembered coherent.** -/
theorem Coherent.select (h : Coherent n found) (call : Call α) :
    ∃ found', ((recentPark found).select call.order (call.surroundings n)).2 = recentPark found'
      ∧ Coherent n found' := by
  rcases select_recentPark_snd found call.order (call.surroundings n) with
    heq | ⟨standby, hstandby, heq⟩
  · exact ⟨found, heq, h⟩
  · refine ⟨_, heq, fun origin standby' hget => ?_⟩
    rw [Std.TreeMap.get?_eq_getElem?, Std.TreeMap.getElem?_insert] at hget
    split at hget
    · rename_i horigin
      obtain rfl := Option.some.inj hget
      rw [← Std.LawfulEqCmp.eq_of_compare horigin]
      exact fun _ _ => hstandby
    · exact h origin standby' hget

/-- What is remembered is coherent after any calls. -/
theorem coherent_run (n : Network α) (calls : List (Call α)) :
    ∃ found, (recentPark {}).run n calls = recentPark found ∧ Coherent n found := by
  induction calls using List.reverseRecOn with
  | nil => exact ⟨{}, rfl, coherent_empty n⟩
  | append_singleton calls call ih =>
    obtain ⟨found, hrun, hcoherent⟩ := ih
    unfold run at hrun ⊢
    rw [List.foldl_append, hrun]
    exact hcoherent.select call

/-- **What is remembered makes no difference to the choice.** -/
theorem Coherent.select_fst (h : Coherent n found) (call : Call α) :
    ((recentPark found).select call.order (call.surroundings n)).1
      = (nearestStandby call.order.origin (call.surroundings n)).bind
        fun standby => parkedAt call.order standby (call.surroundings n) := by
  simp only [Strategy.select]
  split
  · rename_i standby hget
    have hfound : nearestStandby call.order.origin (call.surroundings n) = some standby :=
      h _ _ hget _ _
    rw [hfound]
    rfl
  · cases nearestStandby call.order.origin (call.surroundings n) <;> rfl

/-- **Whether a call is answered as if nothing were remembered.** -/
structure ParksAsFresh (strategy : Strategy α) (n : Network α) (call : Call α) : Prop where
  /-- A strategy that remembers nothing chooses the same vehicle. -/
  fresh : (strategy.select call.order (call.surroundings n)).1
    = ((recentPark {}).select call.order (call.surroundings n)).1
  /-- It is the first of those that park on the nearest standby point. -/
  picks : ∀ standby, n.IsNearestStandby call.order.origin standby →
    call.registry.Picks (call.order.ParksOn standby) (fun _ _ => False)
      (strategy.select call.order (call.surroundings n)).1
  /-- If there is no such point, nobody is chosen and nothing is added to what is remembered. -/
  unplaced : (∀ standby, ¬n.IsNearestStandby call.order.origin standby) →
    strategy.select call.order (call.surroundings n) = (none, strategy)

/-- **Every call is answered as if nothing were remembered**, after any calls before it. -/
theorem parksAsFresh_run [Scalar.Ranked α] (hcomparable : n.Comparable) (calls : List (Call α))
    (call : Call α) : ((recentPark {}).run n calls).ParksAsFresh n call := by
  obtain ⟨found, hrun, hcoherent⟩ := coherent_run n calls
  have hnearest : ∀ standby, nearestStandby call.order.origin (call.surroundings n) = some standby
      ↔ n.IsNearestStandby call.order.origin standby :=
    fun standby => nearestStandby_eq_some_iff hcomparable
  rw [hrun]
  refine ⟨?_, fun standby hstandby => ?_, fun hnone => ?_⟩
  · rw [hcoherent.select_fst, (coherent_empty n).select_fst]
  · rw [hcoherent.select_fst, (hnearest standby).mpr hstandby]
    exact picks_parkedAt _ _ _ _ _
  · have hunfound : nearestStandby call.order.origin (call.surroundings n) = none :=
      Option.eq_none_iff_forall_ne_some.mpr fun standby h => hnone standby ((hnearest standby).mp h)
    refine Prod.ext ?_ ?_
    · rw [hcoherent.select_fst, hunfound]
      rfl
    · rcases select_recentPark_snd found call.order (call.surroundings n) with
        heq | ⟨standby, hstandby, -⟩
      · exact heq
      · rw [hunfound] at hstandby
        cases hstandby

/-- The yard with two standby points, the first of which has no position. -/
def lot : Network Float := (Distributor.yard.addStandby ⟨1, 9⟩).addStandby ⟨1, 2⟩

/-- A call for an order that starts at the other point of the yard. -/
def lotCall (registry : Registry Float) : Call Float :=
  ⟨.ofRoute "T" ⟨1, 1⟩ ⟨1, 1⟩, registry, 20⟩

/-- The standby point is remembered from the first call, and the vehicle is the one that is there in
the second call. -/
theorem parksAsFresh_lot : lot.Comparable
    ∧ ParksAsFresh ((recentPark {}).run lot [lotCall Distributor.twins]) lot
      (lotCall (Distributor.twins.erase "A"))
    ∧ (((recentPark {}).run lot [lotCall Distributor.twins]).select
      (lotCall (Distributor.twins.erase "A")).order
        ((lotCall (Distributor.twins.erase "A")).surroundings lot)).1.map (·.id) = some "B" :=
  ⟨Distributor.comparable_yard, parksAsFresh_run (n := lot) Distributor.comparable_yard _ _,
    by decide +kernel⟩

end Strategy

end AgvDispatch
