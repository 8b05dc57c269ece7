import AgvDispatch.Proofs.Network.BreadthFirst
import AgvDispatch.Proofs.Network.Lattice
import Mathlib.Data.Nat.Dist
/-!
# Routes on a lattice

The points of a lattice are numbered row by row, so the last point of a row and the first one of the
next row have successive numbers. They are no neighbours: an edge joins two points exactly if their
**cells**, the columns and rows in which they lie, are one step apart
(`Network.mem_neighbours_lattice_iff`). Each cell is joined, when it is added, to the cells that
precede it in its row and in its column, and two cells are one step apart exactly if one of them
precedes the other.

A step changes the distance of cells by one at most, so no walk has fewer steps than its ends are
apart (`Network.cellDistance_le_length`). From every cell a step leads towards the goal and stays
within the lattice, and the way that these steps make up repeats nothing because each of them comes
closer to the goal (`Network.exists_isWay_lattice`). So the shortest routes, and with them all that
is promised of a lattice (`Network.laysOut_lattice`), are known from the numbers of the columns and
the rows.
-/

namespace AgvDispatch.Network

open Std (TreeMap)

variable {α : Type}

/-! ### Cells and how far apart they are -/

/-- How many steps along rows and columns lie between two cells. -/
def cellDistance (a b : Nat × Nat) : Nat := Nat.dist a.1 b.1 + Nat.dist a.2 b.2

/-- The waypoint of a cell. -/
def cellPoint (mapId : Int) (cols : Nat) (cell : Nat × Nat) : Waypoint :=
  latticePoint mapId cols cell.1 cell.2

/-- Whether a cell is the western or the southern neighbour of another one. -/
def Precedes (a b : Nat × Nat) : Prop :=
  a.1 + 1 = b.1 ∧ a.2 = b.2 ∨ a.1 = b.1 ∧ a.2 + 1 = b.2

theorem cellDistance_eq_one_iff {a b : Nat × Nat} :
    cellDistance a b = 1 ↔ Precedes a b ∨ Precedes b a := by
  unfold cellDistance Precedes Nat.dist
  omega

theorem cellDistance_eq_zero_iff {a b : Nat × Nat} : cellDistance a b = 0 ↔ a = b := by
  unfold cellDistance Nat.dist
  rw [Prod.ext_iff]
  omega

theorem cellDistance_triangle (a b c : Nat × Nat) :
    cellDistance a c ≤ cellDistance a b + cellDistance b c := by
  have hcol := Nat.dist.triangle_inequality a.1 b.1 c.1
  have hrow := Nat.dist.triangle_inequality a.2 b.2 c.2
  unfold cellDistance
  omega

/-- From a cell there is a step towards any other cell, and it stays in the lattice. -/
theorem exists_cell_towards {cols rows : Nat} {a goal : Nat × Nat} (ha : a ∈ cells cols rows)
    (hgoal : goal ∈ cells cols rows) {d : Nat} (hd : cellDistance a goal = d + 1) :
    ∃ b ∈ cells cols rows, cellDistance a b = 1 ∧ cellDistance b goal = d := by
  rw [mem_cells] at ha hgoal
  simp only [mem_cells]
  unfold cellDistance Nat.dist at *
  rcases Nat.lt_trichotomy a.1 goal.1 with hcol | hcol | hcol
  · exact ⟨(a.1 + 1, a.2), by simp only; omega⟩
  · rcases Nat.lt_or_ge a.2 goal.2 with hrow | hrow
    · exact ⟨(a.1, a.2 + 1), by simp only; omega⟩
    · exact ⟨(a.1, a.2 - 1), by simp only; omega⟩
  · exact ⟨(a.1 - 1, a.2), by simp only; omega⟩

theorem cellPoint_inj {mapId : Int} {cols rows : Nat} {a b : Nat × Nat} (ha : a ∈ cells cols rows)
    (hb : b ∈ cells cols rows) (h : cellPoint mapId cols a = cellPoint mapId cols b) : a = b := by
  obtain ⟨hcol, hrow⟩ := latticePoint_inj (mem_cells.mp ha).1 (mem_cells.mp hb).1 h
  exact Prod.ext hcol hrow

/-- The cells are numbered row by row. -/
theorem exists_cellPoint_eq_iff {mapId : Int} {cols rows : Nat} {w : Waypoint} :
    (∃ cell ∈ cells cols rows, w = cellPoint mapId cols cell)
      ↔ ∃ i < cols * rows, w = ⟨mapId, (i + 1 : ℕ)⟩ := by
  constructor
  · rintro ⟨cell, hcell, rfl⟩
    obtain ⟨hcol, hrow⟩ := mem_cells.mp hcell
    refine ⟨cell.2 * cols + cell.1, ?_, rfl⟩
    calc cell.2 * cols + cell.1 < cell.2 * cols + cols := Nat.add_lt_add_left hcol _
      _ = (cell.2 + 1) * cols := (Nat.succ_mul cell.2 cols).symm
      _ ≤ rows * cols := Nat.mul_le_mul_right cols hrow
      _ = cols * rows := Nat.mul_comm rows cols
  · rintro ⟨i, hi, rfl⟩
    have hpos : 0 < cols := Nat.pos_of_mul_pos_right (Nat.zero_lt_of_lt hi)
    refine ⟨(i % cols, i / cols), mem_cells.mpr ⟨Nat.mod_lt i hpos, Nat.div_lt_of_lt_mul hi⟩, ?_⟩
    unfold cellPoint latticePoint
    simp only [Nat.div_add_mod']

/-! ### Edges -/

/-- Whether two waypoints are two given ones, either way round. -/
def AreEnds (a b x y : Waypoint) : Prop := x = a ∧ y = b ∨ x = b ∧ y = a

theorem isSome_edge?_addTwoWayEdge (n : Network α) (a b : Waypoint) (e : Edge α) (x y : Waypoint) :
    ((n.addTwoWayEdge a b e).edge? x y).isSome = true
      ↔ AreEnds a b x y ∨ (n.edge? x y).isSome = true := by
  unfold addTwoWayEdge AreEnds
  rw [edge?_addEdge, edge?_addEdge]
  split
  · rename_i h
    exact iff_of_true rfl (Or.inl (Or.inr ⟨h.1.symm, h.2.symm⟩))
  · split
    · rename_i h
      exact iff_of_true rfl (Or.inl (Or.inl ⟨h.1.symm, h.2.symm⟩))
    · rename_i hback hforth
      refine ⟨Or.inr, fun h => h.resolve_left ?_⟩
      rintro (⟨rfl, rfl⟩ | ⟨rfl, rfl⟩)
      · exact hforth ⟨rfl, rfl⟩
      · exact hback ⟨rfl, rfl⟩

variable [Scalar α] {mapId : Int} {cols : Nat} {spacing : α}

/-- **Adding a cell** adds the edges between it and the cells that precede it. -/
theorem isSome_edge?_addLatticePoint (n : Network α) (cell : Nat × Nat) (x y : Waypoint) :
    ((addLatticePoint mapId cols spacing n cell.1 cell.2).edge? x y).isSome = true
      ↔ (∃ before, Precedes before cell
          ∧ AreEnds (cellPoint mapId cols before) (cellPoint mapId cols cell) x y)
        ∨ (n.edge? x y).isSome = true := by
  obtain ⟨col, row⟩ := cell
  have hbefore : (∃ before, Precedes before (col, row)
        ∧ AreEnds (cellPoint mapId cols before) (cellPoint mapId cols (col, row)) x y)
      ↔ (row ≠ 0 ∧ AreEnds (latticePoint mapId cols col (row - 1))
          (latticePoint mapId cols col row) x y)
        ∨ (col ≠ 0 ∧ AreEnds (latticePoint mapId cols (col - 1) row)
          (latticePoint mapId cols col row) x y) := by
    constructor
    · rintro ⟨⟨col', row'⟩, ⟨rfl, rfl⟩ | ⟨rfl, rfl⟩, hends⟩
      · exact Or.inr ⟨Nat.succ_ne_zero _, hends⟩
      · exact Or.inl ⟨Nat.succ_ne_zero _, hends⟩
    · rintro (⟨hne, hends⟩ | ⟨hne, hends⟩)
      · exact ⟨(col, row - 1), Or.inr ⟨rfl, Nat.succ_pred hne⟩, hends⟩
      · exact ⟨(col - 1, row), Or.inl ⟨Nat.succ_pred hne, rfl⟩, hends⟩
  rw [hbefore]
  unfold addLatticePoint
  simp only
  split <;> split <;>
    simp_all only [isSome_edge?_addTwoWayEdge, edge?_addPoint, ne_eq, not_true_eq_false,
      not_false_eq_true, false_and, true_and, false_or, or_assoc]

theorem isSome_edge?_addCells (cs : List (Nat × Nat)) (n : Network α) (x y : Waypoint) :
    ((addCells mapId cols spacing n cs).edge? x y).isSome = true
      ↔ (∃ cell ∈ cs, ∃ before, Precedes before cell
          ∧ AreEnds (cellPoint mapId cols before) (cellPoint mapId cols cell) x y)
        ∨ (n.edge? x y).isSome = true := by
  induction cs generalizing n with
  | nil => simp [addCells]
  | cons cell cs ih =>
    have hfold : addCells mapId cols spacing n (cell :: cs)
        = addCells mapId cols spacing (addLatticePoint mapId cols spacing n cell.1 cell.2) cs := rfl
    rw [hfold, ih, isSome_edge?_addLatticePoint, ← or_assoc]
    refine or_congr_left ?_
    simp only [List.mem_cons, exists_eq_or_imp]
    exact or_comm

/-- **The neighbours on a lattice** are the cells one step away. -/
theorem mem_neighbours_lattice_iff {mapId cols rows : Int} {spacing : α} {x y : Waypoint} :
    y ∈ (lattice mapId cols rows spacing).neighbours x
      ↔ ∃ a ∈ cells cols.toNat rows.toNat, ∃ b ∈ cells cols.toNat rows.toNat,
        x = cellPoint mapId cols.toNat a ∧ y = cellPoint mapId cols.toNat b
          ∧ cellDistance a b = 1 := by
  have hempty : ¬(({} : Network α).edge? x y).isSome = true := by simp [edge?]
  rw [mem_neighbours_iff, lattice_eq, isSome_edge?_addCells, or_iff_left hempty]
  constructor
  · rintro ⟨cell, hcell, before, hprecedes, hends⟩
    have hbefore : before ∈ cells cols.toNat rows.toNat := by
      rw [mem_cells] at hcell ⊢
      unfold Precedes at hprecedes
      omega
    rcases hends with ⟨rfl, rfl⟩ | ⟨rfl, rfl⟩
    · exact ⟨before, hbefore, cell, hcell, rfl, rfl,
        cellDistance_eq_one_iff.mpr (Or.inl hprecedes)⟩
    · exact ⟨cell, hcell, before, hbefore, rfl, rfl,
        cellDistance_eq_one_iff.mpr (Or.inr hprecedes)⟩
  · rintro ⟨a, ha, b, hb, rfl, rfl, hstep⟩
    rcases cellDistance_eq_one_iff.mp hstep with hprecedes | hprecedes
    · exact ⟨b, hb, a, hprecedes, Or.inl ⟨rfl, rfl⟩⟩
    · exact ⟨a, ha, b, hprecedes, Or.inr ⟨rfl, rfl⟩⟩

/-! ### Points -/

theorem exists_position_lattice_iff {mapId cols rows : Int} {spacing : α} {w : Waypoint} :
    (∃ p, (lattice mapId cols rows spacing).position w = some p)
      ↔ ∃ cell ∈ cells cols.toNat rows.toNat, w = cellPoint mapId cols.toNat cell := by
  constructor
  · rintro ⟨p, hp⟩
    obtain ⟨col, hcol, row, hrow, rfl, -⟩ := exists_cell_of_position_lattice hp
    exact ⟨(col, row), mem_cells.mpr ⟨hcol, hrow⟩, rfl⟩
  · rintro ⟨cell, hcell, rfl⟩
    obtain ⟨hcol, hrow⟩ := mem_cells.mp hcell
    exact ⟨_, position_lattice mapId cols rows spacing hcol hrow⟩

/-- **The points of a lattice** are numbered from `1`. -/
theorem keys_points_lattice (mapId cols rows : Int) (spacing : α) :
    (lattice mapId cols rows spacing).points.keys
      = (List.range (cols.toNat * rows.toNat)).map fun i => ⟨mapId, (i + 1 : ℕ)⟩ := by
  have hmem : ∀ w, w ∈ (lattice mapId cols rows spacing).points.keys
      ↔ w ∈ (List.range (cols.toNat * rows.toNat)).map fun i =>
        (⟨mapId, (i + 1 : ℕ)⟩ : Waypoint) := by
    intro w
    rw [TreeMap.mem_keys, TreeMap.mem_iff_isSome_getElem?, Option.isSome_iff_exists,
      ← TreeMap.get?_eq_getElem?, List.mem_map]
    refine (exists_position_lattice_iff.trans exists_cellPoint_eq_iff).trans ?_
    simp only [List.mem_range, eq_comm]
  have hsorted : ((List.range (cols.toNat * rows.toNat)).map fun i =>
      (⟨mapId, (i + 1 : ℕ)⟩ : Waypoint)).Pairwise fun a b => compare a b = .lt := by
    rw [List.pairwise_map]
    refine List.pairwise_lt_range.imp fun {i j} hij => ?_
    change (compare mapId mapId).then (compare ((i + 1 : ℕ) : ℤ) ((j + 1 : ℕ) : ℤ)) = .lt
    have hmap : compare mapId mapId = .eq := Std.ReflCmp.compare_self
    rw [hmap]
    exact Int.compare_eq_lt.mpr (by omega)
  -- Both lists are in ascending order, so they agree if they have the same members.
  have hnodup : ∀ {ws : List Waypoint}, ws.Pairwise (fun a b => compare a b = .lt) → ws.Nodup := by
    refine fun h => h.imp fun {a b} hlt heq => ?_
    have hself : compare b b = .eq := Std.ReflCmp.compare_self
    rw [heq, hself] at hlt
    cases hlt
  refine List.Perm.eq_of_pairwise (fun a b _ _ hab hba => ?_) TreeMap.ordered_keys hsorted
    ((List.perm_ext_iff_of_nodup (hnodup TreeMap.ordered_keys) (hnodup hsorted)).mpr hmem)
  exact absurd hba (Std.OrientedCmp.not_lt_of_lt hab)

/-! ### Ways -/

omit [Scalar α] in
/-- A way is extended at its front by a waypoint from which an edge leads to it. -/
theorem IsWay.cons {n : Network α} {avoid : Waypoint → Bool} {start next goal : Waypoint}
    {route : Route} (hway : n.IsWay avoid next goal route) (hleads : n.Leads avoid start next)
    (hnew : start ∉ route) : n.IsWay avoid start goal (start :: route) := by
  obtain ⟨rest, rfl⟩ := List.head?_eq_some_iff.mp hway.head
  have hchain : (start :: next :: rest).IsChain (n.Leads avoid) :=
    List.isChain_cons_cons.mpr ⟨hleads, hway.isChain⟩
  obtain ⟨hedges, hentered⟩ := isChain_leads_iff.mp hchain
  exact ⟨rfl, List.getLast?_cons_cons.trans hway.last, hedges,
    List.nodup_cons.mpr ⟨hnew, hway.nodup⟩, hentered⟩

section Ways

variable {mapId cols rows : Int} {spacing : α} {goal : Nat × Nat}
  (hgoal : goal ∈ cells cols.toNat rows.toNat)
include hgoal

/-- **A way on a lattice is no shorter** than the distance of its ends. -/
theorem cellDistance_le_length {a : Nat × Nat} (ha : a ∈ cells cols.toNat rows.toNat)
    {rest : Route} (hchain : (cellPoint mapId cols.toNat a :: rest).IsChain
      ((lattice mapId cols rows spacing).Leads fun _ => false))
    (hlast : (cellPoint mapId cols.toNat a :: rest).getLast?
      = some (cellPoint mapId cols.toNat goal)) :
    cellDistance a goal ≤ rest.length := by
  induction rest generalizing a with
  | nil =>
    obtain rfl := cellPoint_inj ha hgoal (Option.some.inj hlast)
    exact (cellDistance_eq_zero_iff.mpr rfl).le
  | cons w rest ih =>
    obtain ⟨⟨hneighbour, -⟩, hchain⟩ := List.isChain_cons_cons.mp hchain
    obtain ⟨a', ha', b, hb, heq, rfl, hstep⟩ := mem_neighbours_lattice_iff.mp hneighbour
    obtain rfl := cellPoint_inj ha ha' heq
    rw [List.getLast?_cons_cons] at hlast
    calc cellDistance a goal ≤ cellDistance a b + cellDistance b goal :=
          cellDistance_triangle a b goal
      _ ≤ 1 + rest.length := Nat.add_le_add hstep.le (ih hb hchain hlast)
      _ = (cellPoint mapId cols.toNat b :: rest).length := by rw [List.length_cons, Nat.add_comm]

/-- **A way as short as the distance**: each of its steps leads closer to the goal. -/
theorem exists_isWay_lattice {d : Nat} {a : Nat × Nat} (ha : a ∈ cells cols.toNat rows.toNat)
    (hd : cellDistance a goal = d) :
    ∃ route, (lattice mapId cols rows spacing).IsWay (fun _ => false)
        (cellPoint mapId cols.toNat a) (cellPoint mapId cols.toNat goal) route
      ∧ route.length = d + 1
      ∧ ∀ w ∈ route, ∃ cell ∈ cells cols.toNat rows.toNat,
        w = cellPoint mapId cols.toNat cell ∧ cellDistance cell goal ≤ d := by
  induction d generalizing a with
  | zero =>
    obtain rfl := cellDistance_eq_zero_iff.mp hd
    refine ⟨[cellPoint mapId cols.toNat a], ⟨rfl, rfl, nofun, List.nodup_singleton _, nofun⟩, rfl,
      fun w hw => ⟨a, ha, List.mem_singleton.mp hw, hd.le⟩⟩
  | succ d ih =>
    obtain ⟨b, hb, hstep, hcloser⟩ := exists_cell_towards ha hgoal hd
    obtain ⟨route, hway, hlength, hcells⟩ := ih hb hcloser
    -- All that follows is closer to the goal, so the cell itself is not among it.
    have hnew : cellPoint mapId cols.toNat a ∉ route := by
      intro hmem
      obtain ⟨cell, hcell, heq, hle⟩ := hcells _ hmem
      obtain rfl := cellPoint_inj ha hcell heq
      omega
    have hleads : (lattice mapId cols rows spacing).Leads (fun _ => false)
        (cellPoint mapId cols.toNat a) (cellPoint mapId cols.toNat b) :=
      ⟨mem_neighbours_lattice_iff.mpr ⟨a, ha, b, hb, rfl, rfl, hstep⟩, rfl⟩
    refine ⟨_, hway.cons hleads hnew, by rw [List.length_cons, hlength], ?_⟩
    rw [List.forall_mem_cons]
    refine ⟨⟨a, ha, rfl, hd.le⟩, fun w hw => ?_⟩
    obtain ⟨cell, hcell, heq, hle⟩ := hcells w hw
    exact ⟨cell, hcell, heq, hle.trans (Nat.le_succ d)⟩

/-- **The shortest route on a lattice** has one waypoint more than its ends are apart. -/
theorem exists_shortestRoute_lattice {a : Nat × Nat} (ha : a ∈ cells cols.toNat rows.toNat) :
    ∃ route, (lattice mapId cols rows spacing).shortestRoute (cellPoint mapId cols.toNat a)
        (cellPoint mapId cols.toNat goal) (fun _ => false) = some route
      ∧ route.length = cellDistance a goal + 1 := by
  by_cases heq : cellPoint mapId cols.toNat a = cellPoint mapId cols.toNat goal
  · obtain rfl := cellPoint_inj ha hgoal heq
    exact ⟨_, if_pos rfl, by rw [cellDistance_eq_zero_iff.mpr rfl]; rfl⟩
  · obtain ⟨way, hway, hlength, -⟩ :
        ∃ way, (lattice mapId cols rows spacing).IsWay (fun _ => false)
            (cellPoint mapId cols.toNat a) (cellPoint mapId cols.toNat goal) way
          ∧ way.length = cellDistance a goal + 1 ∧ _ :=
      exists_isWay_lattice hgoal ha rfl
    have hanswer : (lattice mapId cols rows spacing).IsAnswer (fun _ => false)
        (cellPoint mapId cols.toNat a) (cellPoint mapId cols.toNat goal) _ :=
      isAnswer_shortestRoute heq
    cases hroute : (lattice mapId cols rows spacing).shortestRoute (cellPoint mapId cols.toNat a)
        (cellPoint mapId cols.toNat goal) (fun _ => false) with
    | none =>
      rw [hroute] at hanswer
      exact absurd hway (hanswer way)
    | some route =>
      rw [hroute] at hanswer
      refine ⟨route, rfl, le_antisymm (hlength ▸ hanswer.2 way hway) ?_⟩
      obtain ⟨rest, rfl⟩ := List.head?_eq_some_iff.mp hanswer.1.head
      exact Nat.succ_le_succ (cellDistance_le_length hgoal ha hanswer.1.isChain hanswer.1.last)

end Ways

/-! ### The layout -/

/-- What it means that a network **is laid out as a lattice**. -/
structure LaysOut (mapId : Int) (cols rows : Nat) (n : Network α) : Prop where
  pointCount : n.pointCount = cols * rows
  waypoints : n.waypoints mapId = (List.range (cols * rows)).map fun i => ⟨mapId, (i + 1 : ℕ)⟩
  /-- The points are those of the cells, numbered row by row. -/
  exists_position_iff : ∀ w, (∃ p, n.position w = some p)
    ↔ ∃ cell ∈ cells cols rows, w = ⟨mapId, (cell.2 * cols + cell.1 + 1 : ℕ)⟩
  mem_neighbours_iff : ∀ x y, y ∈ n.neighbours x
    ↔ ∃ a ∈ cells cols rows, ∃ b ∈ cells cols rows,
      x = cellPoint mapId cols a ∧ y = cellPoint mapId cols b ∧ cellDistance a b = 1
  exists_shortestRoute : ∀ a ∈ cells cols rows, ∀ b ∈ cells cols rows,
    ∃ route, n.shortestRoute (cellPoint mapId cols a) (cellPoint mapId cols b) (fun _ => false)
        = some route
      ∧ route.length = Nat.dist a.1 b.1 + Nat.dist a.2 b.2 + 1

/-- **A lattice is laid out as one.** -/
theorem laysOut_lattice (mapId cols rows : Int) (spacing : α) :
    LaysOut mapId cols.toNat rows.toNat (lattice mapId cols rows spacing) where
  pointCount := by
    rw [pointCount, ← TreeMap.length_keys, keys_points_lattice, List.length_map, List.length_range]
  waypoints := by
    rw [waypoints, keys_points_lattice, List.filter_eq_self]
    intro w hw
    obtain ⟨i, -, rfl⟩ := List.mem_map.mp hw
    exact beq_self_eq_true mapId
  exists_position_iff _ := exists_position_lattice_iff
  mem_neighbours_iff _ _ := mem_neighbours_lattice_iff
  exists_shortestRoute _ ha _ hb := exists_shortestRoute_lattice hb ha

end AgvDispatch.Network
