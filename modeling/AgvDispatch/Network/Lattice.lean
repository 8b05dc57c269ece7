import AgvDispatch.Network.Graph
/-!
# Lattices

The rectangular lattice is the network of an open floor: waypoints at equal spacing, numbered row by
row from `1`, each joined both ways to its neighbours in the row and in the column.
-/

namespace AgvDispatch.Network

variable {α : Type} [Scalar α]

/-- The waypoint in a column and a row of a lattice with `cols` columns. -/
def latticePoint (mapId : Int) (cols col row : Nat) : Waypoint :=
  ⟨mapId, (row * cols + col + 1 : Nat)⟩

/-- Adds the waypoint of a column and a row and joins it to its western and southern neighbours. -/
def addLatticePoint (mapId : Int) (cols : Nat) (spacing : α) (n : Network α) (col row : Nat) :
    Network α :=
  let here := latticePoint mapId cols col row
  let n := n.addPoint here ⟨(col : α) * spacing, (row : α) * spacing⟩
  let n := if col = 0 then n
    else n.addTwoWayEdge (latticePoint mapId cols (col - 1) row) here Edge.straight
  if row = 0 then n
  else n.addTwoWayEdge (latticePoint mapId cols col (row - 1)) here Edge.straight

/-- The lattice of a map with the given numbers of columns and rows; a negative number counts as
none. -/
def lattice (mapId cols rows : Int) (spacing : α) : Network α :=
  (List.range rows.toNat).foldl (fun n row =>
    (List.range cols.toNat).foldl (fun n col =>
      addLatticePoint mapId cols.toNat spacing n col row) n) {}

end AgvDispatch.Network
