import AgvDispatch.Geometry.Envelope
import Std.Data.TreeMap
/-!
# A sharded index of boxes

`BoxIndex` finds the items whose boxes meet a region. The floor is divided into a grid of equal
cells, and each cell has a **shard** that holds the items whose box is centred in it; what is
centred outside the floor belongs to the nearest cell. A query looks into the shards that the region
covers. It may therefore miss an item that meets the region but is centred in a cell outside it, so
that a caller widens the region by the reach of its items.

Shards are numbered row by row. A new item goes to the end of its shard; where one is removed, the
last item of the shard takes its place.
-/

namespace AgvDispatch

open Std (TreeMap)

/-- An item and the box it is filed under. -/
structure BoxEntry (α ι : Type) where
  /-- The box. -/
  box : Envelope α
  /-- The item. -/
  item : ι
  deriving Repr, Inhabited

/-- Items filed by their boxes. -/
structure BoxIndex (α ι : Type) where
  /-- The number of cells on each axis. -/
  grid : Nat
  /-- The corner where the numbering of the cells begins. -/
  origin : Point α
  /-- The extent of a cell on the first axis. -/
  cellWidth : α
  /-- The extent of a cell on the second axis. -/
  cellHeight : α
  /-- The entries of each shard that has been used. -/
  shards : TreeMap Nat (List (BoxEntry α ι)) := {}
  deriving Inhabited

namespace BoxIndex

variable {α ι : Type}

section Layout

variable [Scalar α]

/-- The extent that stands in for one that is not positive: large enough to hold any floor. -/
def fallbackExtent : α := ((1000000 : Nat) : α)

/-- An empty index over a floor of the given extent, with at least one cell. -/
def empty (origin : Point α) (width height : α) (grid : Nat) : BoxIndex α ι :=
  let grid := max grid 1
  let width := if 0 < width then width else fallbackExtent
  let height := if 0 < height then height else fallbackExtent
  { grid, origin, cellWidth := width / (grid : α), cellHeight := height / (grid : α) }

/-- The cell, counted along one axis, in which a coordinate lies. -/
def cell (index : BoxIndex α ι) (origin extent x : α) : Nat :=
  (max 0 (min (Scalar.floor ((x - origin) / extent)) (index.grid - 1))).toNat

/-- The column in which a coordinate on the first axis lies. -/
def column (index : BoxIndex α ι) (x : α) : Nat :=
  index.cell index.origin.x index.cellWidth x

/-- The row in which a coordinate on the second axis lies. -/
def row (index : BoxIndex α ι) (y : α) : Nat :=
  index.cell index.origin.y index.cellHeight y

/-- The number of the shard that a box belongs to. -/
def shardOf (index : BoxIndex α ι) (box : Envelope α) : Nat :=
  index.row box.centre.y * index.grid + index.column box.centre.x

/-- Whether a region covers the cell of a shard. -/
def covers (index : BoxIndex α ι) (region : Envelope α) (shard : Nat) : Bool :=
  let r := shard / index.grid
  let c := shard % index.grid
  decide (index.row region.minY ≤ r) && decide (r ≤ index.row region.maxY)
    && decide (index.column region.minX ≤ c) && decide (c ≤ index.column region.maxX)

end Layout

/-- How many shards there are. -/
def shardCount (index : BoxIndex α ι) : Nat :=
  index.grid * index.grid

/-- The entries of a shard. -/
def shard (index : BoxIndex α ι) (number : Nat) : List (BoxEntry α ι) :=
  (index.shards.get? number).getD []

/-- The number of entries of every shard. -/
def sizes (index : BoxIndex α ι) : List Nat :=
  (List.range index.shardCount).map fun number => (index.shard number).length

/-- All entries: shard by shard, in the order of each shard. -/
def entries (index : BoxIndex α ι) : List (BoxEntry α ι) :=
  index.shards.values.flatten

/-- How many entries there are. -/
def size (index : BoxIndex α ι) : Nat :=
  index.entries.length

/-- Takes the first entry of an item out of a shard and puts the last entry in its place; `none` if
the shard does not hold the item. -/
def takeOut? [BEq ι] (item : ι) : List (BoxEntry α ι) → Option (List (BoxEntry α ι))
  | [] => none
  | entry :: rest =>
    if entry.item == item then
      match rest.getLast? with
      | none => some []
      | some last => some (last :: rest.dropLast)
    else (takeOut? item rest).map (entry :: ·)

variable [Scalar α]

/-- Files an item under a box. -/
def insert (index : BoxIndex α ι) (box : Envelope α) (item : ι) : BoxIndex α ι :=
  let number := index.shardOf box
  { index with shards := index.shards.insert number (index.shard number ++ [⟨box, item⟩]) }

/-- Removes an item from the shard of a box; `none` if that shard does not hold it. -/
def remove? [BEq ι] (index : BoxIndex α ι) (box : Envelope α) (item : ι) :
    Option (BoxIndex α ι) :=
  let number := index.shardOf box
  (takeOut? item (index.shard number)).map fun entries =>
    { index with shards := index.shards.insert number entries }

/-- Removes an item from the shard of its old box, if it is there, and files one under a new box. -/
def move [BEq ι] (index : BoxIndex α ι) (oldBox : Envelope α) (oldItem : ι) (box : Envelope α)
    (item : ι) : BoxIndex α ι :=
  ((index.remove? oldBox oldItem).getD index).insert box item

/-- The items that are filed in the shards covered by a region and whose boxes meet it. -/
def query (index : BoxIndex α ι) (region : Envelope α) : List ι :=
  index.shards.toList.flatMap fun (number, entries) =>
    if index.covers region number then
      (entries.filter fun entry => entry.box.intersects region).map BoxEntry.item
    else []

end BoxIndex

end AgvDispatch
