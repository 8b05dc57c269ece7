import AgvDispatch.Proofs.Allocation.Registered
import AgvDispatch.Proofs.Network.Lattice
import AgvDispatch.Proofs.Scalar.Ranked
import AgvDispatch.Proofs.Vehicle.Registry
import Mathlib.Data.String.Basic
/-!
# The best vehicle is chosen

The strategies by distance and by battery choose the **pick** of the idle vehicles, and if these
have none, the pick of the vehicles that may leave their charger (`Distributor.allocatesBest`). The
pick of a group is the best of its vehicles, and of several that are best the one with the smallest
id (`Registry.IsPick`).

A vehicle belongs to a group only if the order admits it, and for the strategy by distance only if
its waypoint has a position. So an idle vehicle that may not take the order does not keep one on a
charger from it.

Nothing is assumed of the scalars but that they are ranked, and of the network but that the
distances within it are comparable (`Network.Comparable`).
-/

namespace AgvDispatch

/-! ### The first best of a list -/

/-- **Whether some things are ranked** by which is better than which. -/
structure RanksOn {β : Type} (may : β → Prop) (better : β → β → Prop) : Prop where
  asymm : ∀ a b, may a → may b → better a b → ¬better b a
  trans : ∀ a b c, may a → may b → may c → ¬better a b → ¬better b c → ¬better a c

section FirstBest

variable {β γ : Type} {beats : β → β → Bool}

theorem firstBest_concat (xs : List β) (x : β) : firstBest beats (xs ++ [x]) =
    match firstBest beats xs with
    | none => some x
    | some b => if beats x b then some x else some b := by
  unfold firstBest
  rw [List.foldl_append]
  rfl

theorem firstBest_eq_none_iff {xs : List β} : firstBest beats xs = none ↔ xs = [] := by
  constructor
  · intro h
    rcases xs.eq_nil_or_concat' with rfl | ⟨before, x, rfl⟩
    · rfl
    · rw [firstBest_concat] at h
      split at h
      · cases h
      · split at h <;> cases h
  · rintro rfl
    rfl

theorem firstBest_map (f : γ → β) (xs : List γ) : firstBest beats (xs.map f)
    = (firstBest (fun x y => beats (f x) (f y)) xs).map f := by
  induction xs using List.reverseRecOn with
  | nil => rfl
  | append_singleton xs x ih =>
    rw [List.map_append, List.map_singleton, firstBest_concat, firstBest_concat, ih]
    cases firstBest (fun x y => beats (f x) (f y)) xs with
    | none => rfl
    | some b =>
      simp only [Option.map_some]
      split <;> rfl

/-- What beats all that comes before it, and is beaten by nothing that comes after it, is the first
best. -/
theorem firstBest_append_cons {before after : List β} {b : β}
    (hbefore : ∀ a ∈ before, beats b a = true) (hafter : ∀ a ∈ after, ¬beats a b = true) :
    firstBest beats (before ++ b :: after) = some b := by
  rw [← List.singleton_append, ← List.append_assoc]
  induction after using List.reverseRecOn with
  | nil =>
    rw [List.append_nil, firstBest_concat]
    split
    · rfl
    · rename_i c hc
      exact if_pos (hbefore c (mem_of_firstBest hc))
  | append_singleton after x ih =>
    rw [List.forall_mem_append, List.forall_mem_singleton] at hafter
    rw [← List.append_assoc, firstBest_concat, ih hafter.1]
    exact if_neg hafter.2

/-- **Where the first best stands**: it beats all that comes before it, and nothing that comes after
it beats it. -/
theorem firstBest_eq_some_iff {xs : List β} (hranks : RanksOn (· ∈ xs) (beats · · = true))
    {b : β} : firstBest beats xs = some b ↔ ∃ before after, xs = before ++ b :: after
      ∧ (∀ a ∈ before, beats b a = true) ∧ ∀ a ∈ after, ¬beats a b = true := by
  constructor
  · intro h
    -- The scan runs from the left, so what was best before the last element is held against it.
    induction xs using List.reverseRecOn generalizing b with
    | nil => cases h
    | append_singleton xs x ih =>
      have hranks' : RanksOn (· ∈ xs) (beats · · = true) :=
        ⟨fun a c ha hc => hranks.asymm a c (List.mem_append_left _ ha) (List.mem_append_left _ hc),
          fun a c d ha hc hd => hranks.trans a c d (List.mem_append_left _ ha)
            (List.mem_append_left _ hc) (List.mem_append_left _ hd)⟩
      have hx : x ∈ xs ++ [x] := List.mem_append_right _ (List.mem_singleton_self x)
      rw [firstBest_concat] at h
      split at h
      · rename_i hnone
        obtain rfl := firstBest_eq_none_iff.mp hnone
        obtain rfl : x = b := Option.some.inj h
        exact ⟨[], [], rfl, List.forall_mem_nil _, List.forall_mem_nil _⟩
      · rename_i c hc
        obtain ⟨before, after, rfl, hbefore, hafter⟩ := ih hranks' hc
        split at h
        · rename_i hbeats
          obtain rfl : x = b := Option.some.inj h
          refine ⟨before ++ c :: after, [], rfl, fun a ha => ?_, List.forall_mem_nil _⟩
          have hc' : c ∈ (before ++ c :: after) ++ [x] :=
            List.mem_append_left _ (List.mem_append_right _ List.mem_cons_self)
          have ha' : a ∈ (before ++ c :: after) ++ [x] := List.mem_append_left _ ha
          -- The last beats whom it beats and all that this one is not beaten by.
          have hnot : ¬beats a c = true := by
            rcases List.mem_append.mp ha with hmem | hmem
            · exact hranks.asymm c a hc' ha' (hbefore a hmem)
            · rcases List.mem_cons.mp hmem with rfl | hmem
              · exact fun hself => hranks.asymm a a ha' ha' hself hself
              · exact hafter a hmem
          by_contra hlast
          exact hranks.trans x a c hx ha' hc' hlast hnot hbeats
        · rename_i hbeats
          obtain rfl : c = b := Option.some.inj h
          refine ⟨before, after ++ [x], by simp, hbefore, ?_⟩
          rw [List.forall_mem_append, List.forall_mem_singleton]
          exact ⟨hafter, hbeats⟩
  · rintro ⟨before, after, rfl, hbefore, hafter⟩
    exact firstBest_append_cons hbefore hafter

/-- **What the first best is worth**: nothing beats it, and it beats all that comes earlier. -/
theorem firstBest_spec {earlier : β → β → Prop} {xs : List β} (hsorted : xs.Pairwise earlier)
    (hranks : RanksOn (· ∈ xs) (beats · · = true)) {b : β} (h : firstBest beats xs = some b) :
    b ∈ xs ∧ ∀ a ∈ xs, ¬beats a b = true ∧ (a = b ∨ earlier b a ∨ beats b a = true) := by
  obtain ⟨before, after, rfl, hbefore, hafter⟩ := (firstBest_eq_some_iff hranks).mp h
  have hb : b ∈ before ++ b :: after := List.mem_append_right _ List.mem_cons_self
  refine ⟨hb, fun a ha => ?_⟩
  rcases List.mem_append.mp ha with hmem | hmem
  · have hbeats := hbefore a hmem
    exact ⟨hranks.asymm b a hb ha hbeats, Or.inr (Or.inr hbeats)⟩
  · rcases List.mem_cons.mp hmem with rfl | hmem
    · exact ⟨fun hself => hranks.asymm a a ha ha hself hself, Or.inl rfl⟩
    · obtain ⟨hearlier, -⟩ := List.pairwise_cons.mp (List.pairwise_append.mp hsorted).2.1
      exact ⟨hafter a hmem, Or.inr (Or.inl (hearlier a hmem))⟩

end FirstBest

/-! ### The pick of a group -/

namespace Registry

variable {α : Type} {r : Registry α} {may : Vehicle α → Prop}
  {better : Vehicle α → Vehicle α → Prop}

/-- **The pick of a group** of vehicles, with the id under which it is registered. -/
structure IsPick (r : Registry α) (may : Vehicle α → Prop) (better : Vehicle α → Vehicle α → Prop)
    (id : String) (v : Vehicle α) : Prop where
  registered : r.get? id = some v
  mem : may v
  /-- No vehicle of the group is better. -/
  best : ∀ id' v', r.get? id' = some v' → may v' → ¬better v' v
  /-- No vehicle of the group that is equally good has a smaller id. -/
  first : ∀ id' v', r.get? id' = some v' → may v' → ¬better v v' → id ≤ id'

/-- Whether a group is empty. -/
def HasNone (r : Registry α) (may : Vehicle α → Prop) : Prop :=
  ∀ id v, r.get? id = some v → ¬may v

/-- A group has one pick at most. -/
theorem IsPick.unique {id id' : String} {v v' : Vehicle α} (h : r.IsPick may better id v)
    (h' : r.IsPick may better id' v') : v = v' := by
  have hle : id ≤ id' :=
    h.first id' v' h'.registered h'.mem (h'.best id v h.registered h.mem)
  have hge : id' ≤ id :=
    h'.first id v h.registered h.mem (h.best id' v' h'.registered h'.mem)
  obtain rfl : id = id' := le_antisymm hle hge
  exact Option.some.inj (h.registered.symm.trans h'.registered)

/-- The vehicles with their ids, in ascending order of these. -/
theorem pairwise_toList (r : Registry α) :
    r.vehicles.toList.Pairwise fun entry entry' => entry.1 < entry'.1 :=
  r.vehicles.ordered_keys_toList.imp compareOfLessAndEq_eq_lt.mp

theorem mem_toList {entry : String × Vehicle α} :
    entry ∈ r.vehicles.toList ↔ r.get? entry.1 = some entry.2 :=
  Std.TreeMap.mem_toList_iff_getElem?_eq_some

/-- Whoever is looked for among the vehicles can be looked for among those with their ids. -/
theorem filter_all (r : Registry α) (p : Vehicle α → Bool) :
    r.all.filter p = (r.vehicles.toList.filter fun entry => p entry.2).map Prod.snd := by
  unfold all
  rw [values_eq_map_toList, List.filter_map]
  rfl

variable {p : Vehicle α → Bool} {beats : Vehicle α → Vehicle α → Bool}

/-- **The first best of the listing of a group is its pick.** -/
theorem exists_isPick_of_firstBest (hranks : RanksOn may better) (hp : ∀ v, p v = true ↔ may v)
    (hbeats : ∀ v v', may v → may v' → (beats v v' = true ↔ better v v')) {v : Vehicle α}
    (h : firstBest beats (r.all.filter p) = some v) : ∃ id, r.IsPick may better id v := by
  -- The ids are needed to tell what comes first, so the scan is taken over the pairs.
  rw [filter_all, firstBest_map] at h
  obtain ⟨⟨id, v⟩, hbest, rfl⟩ := Option.map_eq_some_iff.mp h
  have hmay : ∀ entry ∈ r.vehicles.toList.filter (fun entry => p entry.2), may entry.2 :=
    fun entry hentry => (hp entry.2).mp (List.mem_filter.mp hentry).2
  have hranks' : RanksOn (· ∈ r.vehicles.toList.filter fun entry => p entry.2)
      fun x y => beats x.2 y.2 = true := by
    constructor
    · intro x y hx hy
      rw [hbeats _ _ (hmay x hx) (hmay y hy), hbeats _ _ (hmay y hy) (hmay x hx)]
      exact hranks.asymm x.2 y.2 (hmay x hx) (hmay y hy)
    · intro x y z hx hy hz
      rw [hbeats _ _ (hmay x hx) (hmay y hy), hbeats _ _ (hmay y hy) (hmay z hz),
        hbeats _ _ (hmay x hx) (hmay z hz)]
      exact hranks.trans x.2 y.2 z.2 (hmay x hx) (hmay y hy) (hmay z hz)
  obtain ⟨hmem, hspec⟩ := firstBest_spec (r.pairwise_toList.filter _) hranks' hbest
  have hall : ∀ id' v', r.get? id' = some v' → may v' → ¬better v' v
      ∧ ((id', v') = (id, v) ∨ id < id' ∨ better v v') := by
    intro id' v' hget hmay'
    have hentry : (id', v') ∈ r.vehicles.toList.filter fun entry => p entry.2 :=
      List.mem_filter.mpr ⟨mem_toList.mpr hget, (hp v').mpr hmay'⟩
    have h := hspec (id', v') hentry
    rw [hbeats _ _ hmay' (hmay _ hmem), hbeats _ _ (hmay _ hmem) hmay'] at h
    exact h
  refine ⟨id, mem_toList.mp (List.mem_filter.mp hmem).1, hmay _ hmem,
    fun id' v' hget hmay' => (hall id' v' hget hmay').1, fun id' v' hget hmay' hnot => ?_⟩
  rcases (hall id' v' hget hmay').2 with heq | hlt | hbetter
  · exact (congrArg Prod.fst heq).ge
  · exact hlt.le
  · exact absurd hbetter hnot

theorem filter_all_eq_nil_iff (hp : ∀ v, p v = true ↔ may v) :
    r.all.filter p = [] ↔ r.HasNone may := by
  rw [List.filter_eq_nil_iff]
  constructor
  · intro h id v hget hmay
    exact h v (mem_all.mpr ⟨id, hget⟩) ((hp v).mpr hmay)
  · intro h v hv hpv
    obtain ⟨id, hget⟩ := mem_all.mp hv
    exact h id v hget ((hp v).mp hpv)

/-- **What is chosen from a group**: its pick, and nothing if the group is empty. -/
structure Picks (r : Registry α) (may : Vehicle α → Prop) (better : Vehicle α → Vehicle α → Prop)
    (chosen : Option (Vehicle α)) : Prop where
  some_iff : ∀ v, chosen = some v ↔ ∃ id, r.IsPick may better id v
  none_iff : chosen = none ↔ r.HasNone may

theorem picks_firstBest (hranks : RanksOn may better) (hp : ∀ v, p v = true ↔ may v)
    (hbeats : ∀ v v', may v → may v' → (beats v v' = true ↔ better v v')) :
    r.Picks may better (firstBest beats (r.all.filter p)) := by
  have hnone : firstBest beats (r.all.filter p) = none ↔ r.HasNone may :=
    firstBest_eq_none_iff.trans (filter_all_eq_nil_iff hp)
  refine ⟨fun v => ⟨exists_isPick_of_firstBest hranks hp hbeats, ?_⟩, hnone⟩
  rintro ⟨id, hpick⟩
  cases hchosen : firstBest beats (r.all.filter p) with
  | none => exact absurd hpick.mem (hnone.mp hchosen id v hpick.registered)
  | some w =>
    obtain ⟨id', hpick'⟩ := exists_isPick_of_firstBest hranks hp hbeats hchosen
    rw [hpick'.unique hpick]

/-- **What is chosen from two groups**: the pick of the first one, and the pick of the second one
only if the first one is empty. -/
structure PicksInTurn (r : Registry α) (may may' : Vehicle α → Prop)
    (better : Vehicle α → Vehicle α → Prop) (chosen : Option (Vehicle α)) : Prop where
  some_iff : ∀ v, chosen = some v ↔ ∃ id, r.IsPick may better id v
    ∨ r.HasNone may ∧ r.IsPick may' better id v
  none_iff : chosen = none ↔ r.HasNone may ∧ r.HasNone may'

theorem Picks.or {may' : Vehicle α → Prop} {chosen chosen' : Option (Vehicle α)}
    (h : r.Picks may better chosen) (h' : r.Picks may' better chosen') :
    r.PicksInTurn may may' better (chosen.or chosen') := by
  constructor
  · intro v
    rw [Option.or_eq_some_iff, h.some_iff, h.none_iff, h'.some_iff, exists_or, exists_and_left]
  · rw [Option.or_eq_none_iff, h.none_iff, h'.none_iff]

end Registry

/-! ### By distance -/

/-- Where the waypoint of a vehicle lies. -/
def Vehicle.place {α : Type} (n : Network α) (v : Vehicle α) : Option (Point α) :=
  v.waypoint.bind n.position

/-- Whether the distances within a network are comparable. -/
def Network.Comparable {α : Type} [Scalar α] (n : Network α) : Prop :=
  ∀ w w' p q, n.position w = some p → n.position w' = some q → p.distance q ≤ p.distance q

namespace TransportOrder

variable {α : Type}

/-- Whether a vehicle is free in some sense and may take an order. -/
def Takes (order : TransportOrder) (free : Vehicle α → Bool) (v : Vehicle α) : Prop :=
  free v = true ∧ order.admits v = true

/-- Whether, besides, the waypoint of the vehicle has a position. -/
def TakesFrom (order : TransportOrder) (n : Network α) (free : Vehicle α → Bool)
    (v : Vehicle α) : Prop :=
  order.Takes free v ∧ ∃ p, v.place n = some p

end TransportOrder

namespace Strategy

variable {α : Type} [Scalar α]

/-- Whether one vehicle stands closer to a point than another one. -/
def Closer (n : Network α) (target : Point α) (v v' : Vehicle α) : Prop :=
  ∃ p p', v.place n = some p ∧ v'.place n = some p' ∧ p.distance target < p'.distance target

/-- How far something is from a point, which is nothing to go by if it has no position. -/
def gauge {β : Type} (target : Point α) (place : β → Option (Point α)) (x : β) : α :=
  ((place x).map (·.distance target)).getD Scalar.far

theorem measured_eq_map {β : Type} (target : Point α) (place : β → Option (Point α))
    (xs : List β) : measured target place xs
      = (xs.filter fun x => (place x).isSome).map fun x => (gauge target place x, x) := by
  induction xs with
  | nil => rfl
  | cons x xs ih =>
    unfold measured at ih ⊢
    rw [List.filterMap_cons, List.filter_cons]
    cases hplace : place x with
    | none => exact ih
    | some p =>
      simp only [Option.map_some, Option.isSome_some, if_true, List.map_cons, ih, gauge, hplace,
        Option.getD_some]

/-- The closest thing is the first best of those that have a position. -/
theorem closest_eq_firstBest {β : Type} (target : Point α) (place : β → Option (Point α))
    (xs : List β) : closest target place xs
      = firstBest (fun x y => decide (gauge target place x < gauge target place y))
        (xs.filter fun x => (place x).isSome) := by
  unfold closest
  rw [measured_eq_map, firstBest_map, Option.map_map]
  exact Option.map_id'

variable {n : Network α} {target : Point α}

theorem gauge_of_place {β : Type} {place : β → Option (Point α)} {x : β} {p : Point α}
    (h : place x = some p) : gauge target place x = p.distance target := by
  unfold gauge
  rw [h]
  rfl

theorem closer_iff {v v' : Vehicle α} {p p' : Point α} (h : v.place n = some p)
    (h' : v'.place n = some p') :
    Closer n target v v' ↔ p.distance target < p'.distance target := by
  constructor
  · rintro ⟨q, q', hq, hq', hlt⟩
    rw [h, Option.some.injEq] at hq
    rw [h', Option.some.injEq] at hq'
    rwa [hq, hq']
  · exact fun hlt => ⟨p, p', h, h', hlt⟩

/-- Distances that are comparable rank the vehicles that stand at them. -/
theorem ranksOn_closer [Scalar.Ranked α] {may : Vehicle α → Prop} (hcomparable : ∀ v, may v →
    ∃ p, v.place n = some p ∧ p.distance target ≤ p.distance target) :
    RanksOn may (Closer n target) := by
  constructor
  · intro v v' hv hv'
    obtain ⟨p, hp, -⟩ := hcomparable v hv
    obtain ⟨p', hp', -⟩ := hcomparable v' hv'
    rw [closer_iff hp hp', closer_iff hp' hp]
    exact Scalar.Ranked.not_lt_of_lt _ _
  · intro v v' v'' hv hv' hv''
    obtain ⟨p, hp, hle⟩ := hcomparable v hv
    obtain ⟨p', hp', hle'⟩ := hcomparable v' hv'
    obtain ⟨p'', hp'', hle''⟩ := hcomparable v'' hv''
    rw [closer_iff hp hp', closer_iff hp' hp'', closer_iff hp hp'']
    exact Scalar.Ranked.not_lt_trans _ _ _ hle hle' hle''

/-- The nearest vehicle is the first best of those that are admitted and have a position. -/
theorem nearest_eq_firstBest {order : TransportOrder} (candidates : List (Vehicle α))
    (r : Registry α) (lowestBattery : ℕ) (horigin : n.position order.origin = some target) :
    nearest order candidates ⟨r, n, lowestBattery⟩
      = firstBest (fun v v' => decide
          (gauge target (Vehicle.place n) v < gauge target (Vehicle.place n) v'))
        ((candidates.filter order.admits).filter fun v => (v.place n).isSome) := by
  rw [← closest_eq_firstBest]
  unfold nearest
  rw [horigin]
  rfl

/-- **The nearest of the free vehicles is their pick by distance.** -/
theorem picks_nearest [Scalar.Ranked α] (hcomparable : n.Comparable) (r : Registry α)
    (order : TransportOrder) (lowestBattery : ℕ) (free : Vehicle α → Bool)
    (horigin : n.position order.origin = some target) :
    r.Picks (order.TakesFrom n free) (Closer n target)
      (nearest order (r.all.filter free) ⟨r, n, lowestBattery⟩) := by
  rw [nearest_eq_firstBest _ _ _ horigin, List.filter_filter, List.filter_filter]
  refine Registry.picks_firstBest (ranksOn_closer ?_) ?_ ?_
  · rintro v ⟨-, p, hp⟩
    obtain ⟨w, -, hw⟩ := Option.bind_eq_some_iff.mp hp
    exact ⟨p, hp, hcomparable w order.origin p target hw horigin⟩
  · intro v
    rw [Bool.and_eq_true, Bool.and_eq_true, Option.isSome_iff_exists]
    unfold TransportOrder.TakesFrom TransportOrder.Takes
    tauto
  · rintro v v' ⟨-, p, hp⟩ ⟨-, p', hp'⟩
    rw [decide_eq_true_iff, gauge_of_place hp, gauge_of_place hp', closer_iff hp hp']

/-! ### By battery -/

/-- Whether one vehicle has a fuller battery than another one. -/
def Fuller (v v' : Vehicle α) : Prop := v'.battery < v.battery

omit [Scalar α] in
theorem ranksOn_fuller (may : Vehicle α → Prop) : RanksOn may Fuller where
  asymm _ _ _ _ h := lt_asymm h
  trans _ _ _ _ _ _ h h' := not_lt.mpr ((not_lt.mp h).trans (not_lt.mp h'))

omit [Scalar α] in
/-- **The fullest of the free vehicles is their pick by battery.** -/
theorem picks_fullest (r : Registry α) (order : TransportOrder) (free : Vehicle α → Bool) :
    r.Picks (order.Takes free) Fuller (fullest order (r.all.filter free)) := by
  unfold fullest
  rw [List.filter_filter]
  refine Registry.picks_firstBest (ranksOn_fuller _) ?_ ?_
  · intro v
    rw [Bool.and_eq_true]
    exact and_comm
  · intro v v' _ _
    exact decide_eq_true_iff

end Strategy

/-! ### The distributor -/

namespace Distributor

variable {α : Type} [Scalar α] {d : Distributor α} {n : Network α} {order : TransportOrder}

theorem distribute_of_new (hnew : order.stage = .new) (hfree : order.requestedVehicle = none)
    (d : Distributor α) (r : Registry α) (n : Network α) (b : Backlog α) :
    (d.distribute r n b order).1 = (d.strategy.select order ⟨r, n, d.lowestBattery⟩).1 := by
  unfold distribute
  rw [if_pos hnew, hfree]

/-- **Whether the best vehicle is chosen** for an order. -/
structure AllocatesBest (d : Distributor α) (r : Registry α) (n : Network α) (b : Backlog α)
    (order : TransportOrder) : Prop where
  /-- By distance, the closest idle vehicle, else the closest one that may leave its charger. -/
  distance : d.strategy = .distancePriority → ∀ target, n.position order.origin = some target →
    r.PicksInTurn (order.TakesFrom n Vehicle.isIdle)
      (order.TakesFrom n (·.mayLeaveCharger d.lowestBattery)) (Strategy.Closer n target)
      (d.distribute r n b order).1
  /-- By distance, nobody if the origin has no position. -/
  unplaced : d.strategy = .distancePriority → n.position order.origin = none →
    (d.distribute r n b order).1 = none
  /-- By battery, the fullest idle vehicle, else the fullest one that may leave its charger. -/
  power : d.strategy = .powerPriority → r.PicksInTurn (order.Takes Vehicle.isIdle)
    (order.Takes (·.mayLeaveCharger d.lowestBattery)) Strategy.Fuller (d.distribute r n b order).1

/-- **The best vehicle is chosen** for a new order that names none. -/
theorem allocatesBest [Scalar.Ranked α] (d : Distributor α) (r : Registry α) (b : Backlog α)
    (hcomparable : n.Comparable) (hnew : order.stage = .new)
    (hfree : order.requestedVehicle = none) : d.AllocatesBest r n b order where
  distance := by
    intro hstrategy target horigin
    rw [distribute_of_new hnew hfree, hstrategy]
    exact (Strategy.picks_nearest hcomparable r order _ _ horigin).or
      (Strategy.picks_nearest hcomparable r order _ _ horigin)
  unplaced := by
    intro hstrategy horigin
    rw [distribute_of_new hnew hfree, hstrategy]
    simp only [Strategy.select, Strategy.nearest, horigin]
    rfl
  power := by
    intro hstrategy
    rw [distribute_of_new hnew hfree, hstrategy]
    exact (Strategy.picks_fullest r order _).or (Strategy.picks_fullest r order _)

/-- A floor with two waypoints, in double precision. -/
def yard : Network Float := (({} : Network Float).addPoint ⟨1, 1⟩ ⟨0, 0⟩).addPoint ⟨1, 2⟩ ⟨1000, 0⟩

/-- Two idle vehicles that stand on the same waypoint. -/
def twins : Registry Float := Registry.ofList
  [{ Vehicle.ready "B" 1 ⟨1000, 0⟩ 300 with currentPoint := some 2 },
    { Vehicle.ready "A" 1 ⟨1000, 0⟩ 300 with currentPoint := some 2 }]

theorem comparable_yard : yard.Comparable := by
  have hplaces : ∀ w p, yard.position w = some p → p = ⟨1000, 0⟩ ∨ p = ⟨0, 0⟩ := by
    intro w p hp
    unfold yard at hp
    rw [Network.position_addPoint, Network.position_addPoint] at hp
    split at hp
    · exact Or.inl (Option.some.inj hp).symm
    · split at hp
      · exact Or.inr (Option.some.inj hp).symm
      · cases hp
  intro w w' p q hp hq
  rcases hplaces w p hp with rfl | rfl <;> rcases hplaces w' q hq with rfl | rfl <;>
    decide +kernel

/-- Of two vehicles at the same distance the one with the smaller id is chosen. -/
theorem allocatesBest_twins :
    AllocatesBest ⟨.distancePriority, 20, false⟩ twins yard {} (.ofRoute "T" ⟨1, 1⟩ ⟨1, 1⟩)
      ∧ ((⟨.distancePriority, 20, false⟩ : Distributor Float).distribute twins yard {}
        (.ofRoute "T" ⟨1, 1⟩ ⟨1, 1⟩)).1.map (·.id) = some "A" :=
  ⟨allocatesBest _ twins {} comparable_yard rfl rfl, by decide +kernel⟩

end Distributor

end AgvDispatch
