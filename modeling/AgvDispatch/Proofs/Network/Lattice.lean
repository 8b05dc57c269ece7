import AgvDispatch.Network.Lattice
import AgvDispatch.Proofs.Network.Search
import Mathlib.Tactic.Common
/-!
# Lattices

A lattice has a point in each column of each row (`Network.position_lattice`) and no others
(`Network.exists_cell_of_position_lattice`), and none of its edges leads from a point to itself
(`Network.edge?_lattice_self`). Every point can be reached from every other one
(`Network.reflTransGen_lattice`).

A lattice is built cell by cell, so the former are shown for any list of cells.
-/

namespace AgvDispatch.Network

variable {α : Type}

/-! ### Points and edges one by one -/

theorem position_addPoint (n : Network α) (w : Waypoint) (p : Point α) (other : Waypoint) :
    (n.addPoint w p).position other = if w = other then some p else n.position other := by
  simp [position, addPoint, Std.TreeMap.getElem?_insert]

@[simp] theorem edge?_addPoint (n : Network α) (w : Waypoint) (p : Point α) (a b : Waypoint) :
    (n.addPoint w p).edge? a b = n.edge? a b := rfl

theorem edge?_addEdge (n : Network α) (a b : Waypoint) (e : Edge α) (x y : Waypoint) :
    (n.addEdge a b e).edge? x y = if a = x ∧ b = y then some e else n.edge? x y := by
  unfold edge? addEdge
  simp only [Std.TreeMap.get?_eq_getElem?, Std.TreeMap.getElem?_insert,
    Std.LawfulEqCmp.compare_eq_iff_eq]
  by_cases hax : a = x
  · subst hax
    simp only [if_true, true_and, Option.bind_some, Std.TreeMap.getElem?_insert,
      Std.LawfulEqCmp.compare_eq_iff_eq]
    split
    · rfl
    · cases n.links[a]? with
      | none => simp
      | some out => rfl
  · rw [if_neg hax, if_neg (fun h => hax h.1)]

/-- Joining two different waypoints does not join a waypoint to itself. -/
theorem edge?_addTwoWayEdge_self [Scalar α] (n : Network α) {a b : Waypoint} (hne : a ≠ b)
    (e : Edge α) (w : Waypoint) : (n.addTwoWayEdge a b e).edge? w w = n.edge? w w := by
  unfold addTwoWayEdge
  rw [edge?_addEdge, if_neg, edge?_addEdge, if_neg]
  · rintro ⟨rfl, rfl⟩
    exact hne rfl
  · rintro ⟨rfl, rfl⟩
    exact hne rfl

/-- Whether edges join two waypoints both ways. -/
def Joined (n : Network α) (a b : Waypoint) : Prop :=
  (n.edge? a b).isSome = true ∧ (n.edge? b a).isSome = true

theorem Joined.addPoint {n : Network α} {a b : Waypoint} (h : n.Joined a b) (w : Waypoint)
    (p : Point α) : (n.addPoint w p).Joined a b := h

theorem isSome_edge?_addEdge {n : Network α} {x y : Waypoint} (h : (n.edge? x y).isSome = true)
    (a b : Waypoint) (e : Edge α) : ((n.addEdge a b e).edge? x y).isSome = true := by
  rw [edge?_addEdge]
  split
  · rfl
  · exact h

theorem Joined.addTwoWayEdge [Scalar α] {n : Network α} {x y : Waypoint} (h : n.Joined x y)
    (a b : Waypoint) (e : Edge α) : (n.addTwoWayEdge a b e).Joined x y :=
  ⟨isSome_edge?_addEdge (isSome_edge?_addEdge h.1 a b e) b a _,
    isSome_edge?_addEdge (isSome_edge?_addEdge h.2 a b e) b a _⟩

theorem joined_addTwoWayEdge [Scalar α] (n : Network α) (a b : Waypoint) (e : Edge α) :
    (n.addTwoWayEdge a b e).Joined a b := by
  unfold Network.addTwoWayEdge
  refine ⟨isSome_edge?_addEdge ?_ b a _, ?_⟩
  · rw [edge?_addEdge, if_pos ⟨rfl, rfl⟩]
    rfl
  · rw [edge?_addEdge, if_pos ⟨rfl, rfl⟩]
    rfl

/-! ### Cells -/

theorem latticePoint_inj {mapId : Int} {cols col row col' row' : Nat} (h : col < cols)
    (h' : col' < cols) (heq : latticePoint mapId cols col row = latticePoint mapId cols col' row') :
    col = col' ∧ row = row' := by
  have hnumber : row * cols + col = row' * cols + col' := by
    have hid := congrArg Waypoint.id heq
    unfold latticePoint at hid
    simp only at hid
    omega
  have hcol : col = col' := by
    have hmod := congrArg (· % cols) hnumber
    simpa [Nat.mod_eq_of_lt h, Nat.mod_eq_of_lt h'] using hmod
  have hpos : 0 < cols := by omega
  refine ⟨hcol, Nat.eq_of_mul_eq_mul_right hpos ?_⟩
  omega

/-- The cells of a lattice, row by row, each as its column and its row. -/
def cells (cols rows : Nat) : List (Nat × Nat) :=
  (List.range rows).flatMap fun row => (List.range cols).map fun col => (col, row)

theorem mem_cells {cols rows : Nat} {cell : Nat × Nat} :
    cell ∈ cells cols rows ↔ cell.1 < cols ∧ cell.2 < rows := by
  obtain ⟨col, row⟩ := cell
  simp only [cells, List.mem_flatMap, List.mem_range, List.mem_map, Prod.mk.injEq]
  constructor
  · rintro ⟨row', hrow, col', hcol, rfl, rfl⟩
    exact ⟨hcol, hrow⟩
  · rintro ⟨hcol, hrow⟩
    exact ⟨row, hrow, col, hcol, rfl, rfl⟩

variable [Scalar α]

/-- Adds the points of some cells. -/
def addCells (mapId : Int) (cols : Nat) (spacing : α) (n : Network α) (cs : List (Nat × Nat)) :
    Network α :=
  cs.foldl (fun n cell => addLatticePoint mapId cols spacing n cell.1 cell.2) n

theorem lattice_eq (mapId cols rows : Int) (spacing : α) : lattice mapId cols rows spacing
    = addCells mapId cols.toNat spacing {} (cells cols.toNat rows.toNat) := by
  unfold lattice addCells cells
  rw [List.foldl_flatMap]
  simp only [List.foldl_map]

/-- Where the point of a cell lies. -/
def cellPosition (spacing : α) (cell : Nat × Nat) : Point α :=
  ⟨(cell.1 : α) * spacing, (cell.2 : α) * spacing⟩

variable {mapId : Int} {cols : Nat} {spacing : α}

theorem position_addLatticePoint (n : Network α) (col row : Nat) (w : Waypoint) :
    (addLatticePoint mapId cols spacing n col row).position w
      = if latticePoint mapId cols col row = w then some (cellPosition spacing (col, row))
        else n.position w := by
  unfold addLatticePoint
  simp only
  split <;> split <;> exact n.position_addPoint _ _ w

theorem edge?_addLatticePoint_self {col : Nat} (hcol : col < cols) (n : Network α) (row : Nat)
    (w : Waypoint) :
    (addLatticePoint mapId cols spacing n col row).edge? w w = n.edge? w w := by
  -- The edges lead to the neighbours in the west and in the south.
  have hwest : col ≠ 0 →
      latticePoint mapId cols (col - 1) row ≠ latticePoint mapId cols col row := by
    intro hne heq
    have hinj := (latticePoint_inj (by omega) hcol heq).1
    omega
  have hsouth : row ≠ 0 →
      latticePoint mapId cols col (row - 1) ≠ latticePoint mapId cols col row := by
    intro hne heq
    have hinj := (latticePoint_inj hcol hcol heq).2
    omega
  unfold addLatticePoint
  simp only
  split <;> split
  · rfl
  · rename_i _ hcol'
    rw [edge?_addTwoWayEdge_self _ (hwest hcol'), edge?_addPoint]
  · rename_i hrow _
    rw [edge?_addTwoWayEdge_self _ (hsouth hrow), edge?_addPoint]
  · rename_i hrow hcol'
    rw [edge?_addTwoWayEdge_self _ (hsouth hrow), edge?_addTwoWayEdge_self _ (hwest hcol'),
      edge?_addPoint]

/-- The point of a cell after some cells have been added. -/
theorem position_addCells {cell : Nat × Nat} (hcell : cell.1 < cols) {cs : List (Nat × Nat)}
    (hcs : ∀ c ∈ cs, c.1 < cols) (n : Network α) :
    (addCells mapId cols spacing n cs).position (latticePoint mapId cols cell.1 cell.2)
      = if cell ∈ cs then some (cellPosition spacing cell)
        else n.position (latticePoint mapId cols cell.1 cell.2) := by
  induction cs generalizing n with
  | nil => simp [addCells]
  | cons c cs ih =>
    rw [List.forall_mem_cons] at hcs
    have hrest := ih hcs.2 (addLatticePoint mapId cols spacing n c.1 c.2)
    have hfold : addCells mapId cols spacing n (c :: cs)
        = addCells mapId cols spacing (addLatticePoint mapId cols spacing n c.1 c.2) cs := rfl
    rw [hfold, hrest, position_addLatticePoint]
    by_cases hmem : cell ∈ cs
    · rw [if_pos hmem, if_pos (List.mem_cons_of_mem c hmem)]
    · rw [if_neg hmem]
      by_cases hc : c = cell
      · rw [hc, if_pos rfl, if_pos List.mem_cons_self]
      · have hne : latticePoint mapId cols c.1 c.2 ≠ latticePoint mapId cols cell.1 cell.2 := by
          intro heq
          obtain ⟨h₁, h₂⟩ := latticePoint_inj hcs.1 hcell heq
          exact hc (Prod.ext h₁ h₂)
        have hnot : cell ∉ c :: cs := by
          rw [List.mem_cons, not_or]
          exact ⟨fun heq => hc heq.symm, hmem⟩
        rw [if_neg hne, if_neg hnot]

theorem exists_cell_of_position_addCells {cs : List (Nat × Nat)} {n : Network α} {w : Waypoint}
    {p : Point α} (h : (addCells mapId cols spacing n cs).position w = some p) :
    (∃ cell ∈ cs, w = latticePoint mapId cols cell.1 cell.2 ∧ p = cellPosition spacing cell)
      ∨ n.position w = some p := by
  induction cs generalizing n with
  | nil => exact Or.inr h
  | cons c cs ih =>
    rcases ih h with ⟨cell, hmem, hcell⟩ | hpos
    · exact Or.inl ⟨cell, List.mem_cons_of_mem c hmem, hcell⟩
    · rw [position_addLatticePoint] at hpos
      split at hpos
      · rename_i hw
        rw [Option.some.injEq] at hpos
        exact Or.inl ⟨c, List.mem_cons_self, hw.symm, hpos.symm⟩
      · exact Or.inr hpos

theorem edge?_addCells_self {cs : List (Nat × Nat)} (hcs : ∀ c ∈ cs, c.1 < cols) (n : Network α)
    (w : Waypoint) : (addCells mapId cols spacing n cs).edge? w w = n.edge? w w := by
  induction cs generalizing n with
  | nil => rfl
  | cons c cs ih =>
    rw [List.forall_mem_cons] at hcs
    exact (ih hcs.2 _).trans (edge?_addLatticePoint_self hcs.1 n c.2 w)

theorem Joined.addLatticePoint {n : Network α} {x y : Waypoint} (h : n.Joined x y) (col row : Nat) :
    (addLatticePoint mapId cols spacing n col row).Joined x y := by
  unfold Network.addLatticePoint
  simp only
  split <;> split
  · exact h.addPoint _ _
  · exact (h.addPoint _ _).addTwoWayEdge _ _ _
  · exact (h.addPoint _ _).addTwoWayEdge _ _ _
  · exact ((h.addPoint _ _).addTwoWayEdge _ _ _).addTwoWayEdge _ _ _

/-- A point is joined to its western and to its southern neighbour. -/
theorem joined_addLatticePoint (n : Network α) (col row : Nat) :
    (col ≠ 0 → (addLatticePoint mapId cols spacing n col row).Joined
        (latticePoint mapId cols (col - 1) row) (latticePoint mapId cols col row))
      ∧ (row ≠ 0 → (addLatticePoint mapId cols spacing n col row).Joined
        (latticePoint mapId cols col (row - 1)) (latticePoint mapId cols col row)) := by
  unfold Network.addLatticePoint
  simp only
  refine ⟨fun hcol => ?_, fun hrow => ?_⟩
  · rw [if_neg hcol]
    split
    · exact joined_addTwoWayEdge _ _ _ _
    · exact (joined_addTwoWayEdge _ _ _ _).addTwoWayEdge _ _ _
  · rw [if_neg hrow]
    exact joined_addTwoWayEdge _ _ _ _

theorem joined_addCells {cell : Nat × Nat} {cs : List (Nat × Nat)} (hmem : cell ∈ cs)
    (n : Network α) :
    (cell.1 ≠ 0 → (addCells mapId cols spacing n cs).Joined
        (latticePoint mapId cols (cell.1 - 1) cell.2) (latticePoint mapId cols cell.1 cell.2))
      ∧ (cell.2 ≠ 0 → (addCells mapId cols spacing n cs).Joined
        (latticePoint mapId cols cell.1 (cell.2 - 1)) (latticePoint mapId cols cell.1 cell.2)) := by
  -- The edges are there once the cell has been added, and they stay.
  have hkept : ∀ {x y : Waypoint} (later : List (Nat × Nat)) {n : Network α}, n.Joined x y →
      (addCells mapId cols spacing n later).Joined x y := by
    intro x y later
    induction later with
    | nil => exact fun h => h
    | cons c later ih => exact fun h => ih (h.addLatticePoint c.1 c.2)
  obtain ⟨before, after, rfl⟩ := List.append_of_mem hmem
  have hsplit : addCells mapId cols spacing n (before ++ cell :: after)
      = addCells mapId cols spacing
        (addLatticePoint mapId cols spacing (addCells mapId cols spacing n before) cell.1 cell.2)
        after := by
    unfold addCells
    rw [List.foldl_append]
    rfl
  rw [hsplit]
  exact ⟨fun hcol => hkept after ((joined_addLatticePoint _ _ _).1 hcol),
    fun hrow => hkept after ((joined_addLatticePoint _ _ _).2 hrow)⟩

/-! ### The lattice -/

/-- **A lattice has a point in each column of each row.** -/
theorem position_lattice (mapId cols rows : Int) (spacing : α) {col row : Nat}
    (hcol : col < cols.toNat) (hrow : row < rows.toNat) :
    (lattice mapId cols rows spacing).position (latticePoint mapId cols.toNat col row)
      = some (cellPosition spacing (col, row)) := by
  have hmem : (col, row) ∈ cells cols.toNat rows.toNat := mem_cells.mpr ⟨hcol, hrow⟩
  have hfirst : ((col, row) : Nat × Nat).1 < cols.toNat := hcol
  rw [lattice_eq]
  exact (position_addCells hfirst (fun c hc => (mem_cells.mp hc).1) _).trans (if_pos hmem)

/-- **A lattice has no other points.** -/
theorem exists_cell_of_position_lattice {mapId cols rows : Int} {spacing : α} {w : Waypoint}
    {p : Point α} (h : (lattice mapId cols rows spacing).position w = some p) :
    ∃ col < cols.toNat, ∃ row < rows.toNat, w = latticePoint mapId cols.toNat col row
      ∧ p = cellPosition spacing (col, row) := by
  rw [lattice_eq] at h
  rcases exists_cell_of_position_addCells h with ⟨cell, hmem, hw, hp⟩ | hempty
  · obtain ⟨hcol, hrow⟩ := mem_cells.mp hmem
    exact ⟨cell.1, hcol, cell.2, hrow, hw, hp⟩
  · simp [position] at hempty

/-- **No edge of a lattice leads from a point to itself.** -/
theorem edge?_lattice_self (mapId cols rows : Int) (spacing : α) (w : Waypoint) :
    (lattice mapId cols rows spacing).edge? w w = none := by
  rw [lattice_eq, edge?_addCells_self (fun c hc => (mem_cells.mp hc).1)]
  simp [edge?]

/-- **A lattice joins every point to its western and to its southern neighbour.** -/
theorem joined_lattice (mapId cols rows : Int) (spacing : α) {col row : Nat}
    (hcol : col < cols.toNat) (hrow : row < rows.toNat) :
    (col ≠ 0 → (lattice mapId cols rows spacing).Joined
        (latticePoint mapId cols.toNat (col - 1) row) (latticePoint mapId cols.toNat col row))
      ∧ (row ≠ 0 → (lattice mapId cols rows spacing).Joined
        (latticePoint mapId cols.toNat col (row - 1)) (latticePoint mapId cols.toNat col row)) := by
  have hmem : (col, row) ∈ cells cols.toNat rows.toNat := mem_cells.mpr ⟨hcol, hrow⟩
  rw [lattice_eq]
  exact joined_addCells hmem _

omit [Scalar α] in
theorem Joined.leads {n : Network α} {a b : Waypoint} (h : n.Joined a b) :
    n.Leads (fun _ => false) a b ∧ n.Leads (fun _ => false) b a :=
  ⟨⟨mem_neighbours_iff.mpr h.1, rfl⟩, ⟨mem_neighbours_iff.mpr h.2, rfl⟩⟩

/-- The first point of a lattice can be reached from every point and the other way round: along the
row to its first column, and from there along the column. -/
theorem reflTransGen_corner (mapId cols rows : Int) (spacing : α) {col row : Nat}
    (hcol : col < cols.toNat) (hrow : row < rows.toNat) :
    Relation.ReflTransGen ((lattice mapId cols rows spacing).Leads fun _ => false)
        (latticePoint mapId cols.toNat 0 0) (latticePoint mapId cols.toNat col row)
      ∧ Relation.ReflTransGen ((lattice mapId cols rows spacing).Leads fun _ => false)
        (latticePoint mapId cols.toNat col row) (latticePoint mapId cols.toNat 0 0) := by
  induction col with
  | zero =>
    induction row with
    | zero => exact ⟨.refl, .refl⟩
    | succ row ih =>
      obtain ⟨hto, hback⟩ := ih (by omega)
      obtain ⟨hup, hdown⟩ :=
        ((joined_lattice mapId cols rows spacing hcol hrow).2 (Nat.succ_ne_zero row)).leads
      exact ⟨hto.tail hup, hback.head hdown⟩
  | succ col ih =>
    obtain ⟨hto, hback⟩ := ih (by omega)
    obtain ⟨heast, hwest⟩ :=
      ((joined_lattice mapId cols rows spacing hcol hrow).1 (Nat.succ_ne_zero col)).leads
    exact ⟨hto.tail heast, hback.head hwest⟩

/-- **Every point of a lattice can be reached from every other one.** -/
theorem reflTransGen_lattice {mapId cols rows : Int} {spacing : α} {w x : Waypoint} {p q : Point α}
    (hw : (lattice mapId cols rows spacing).position w = some p)
    (hx : (lattice mapId cols rows spacing).position x = some q) :
    Relation.ReflTransGen ((lattice mapId cols rows spacing).Leads fun _ => false) w x := by
  obtain ⟨col, hcol, row, hrow, rfl, -⟩ := exists_cell_of_position_lattice hw
  obtain ⟨col', hcol', row', hrow', rfl, -⟩ := exists_cell_of_position_lattice hx
  exact (reflTransGen_corner mapId cols rows spacing hcol hrow).2.trans
    (reflTransGen_corner mapId cols rows spacing hcol' hrow').1

end AgvDispatch.Network
