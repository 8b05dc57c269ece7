import AgvDispatch.Simulation.ChaCha
/-!
# Random demand

In each tick of a simulation a new transport may be wanted. Whether it is, and between which two
points, depends on nothing but the random words; so the demand of a whole run is laid out
beforehand, one entry for each tick.
-/

namespace AgvDispatch

/-- A transport that is wanted: the numbers of two points of the lattice. -/
structure Trip where
  /-- Where it begins. -/
  origin : Nat
  /-- Where it ends. -/
  destination : Nat
  deriving DecidableEq, Repr, Inhabited

namespace RandomWords

/-- Whether an event of a given chance happens. Certainty draws nothing. -/
def drawChance (r : RandomWords) (chance : Float) : Bool × RandomWords :=
  if chance == 1.0 then (true, r)
  else
    let (draw, r) := r.drawWide
    (decide (draw < (chance * 18446744073709551616.0).toUInt64), r)

/-- The largest low half of a product that may be accepted: the multiple of the range that is
closest to the size of a word, less one. -/
def acceptedBelow (range : Nat) : Nat :=
  range * Nat.pow 2 (31 - range.log2) - 1

/-- Draws a number from `1` to `range`, for a range that fits into a word. A word is multiplied by
the range; the high half of the product is the draw, unless the low half lies in the part of the
words that would make some numbers likelier than others. At most `fuel` words are drawn. -/
def drawUpTo : Nat → RandomWords → Nat → Nat × RandomWords
  | 0, r, _ => (1, r)
  | fuel + 1, r, range =>
    let (word, r) := r.draw
    let product := word.toNat * range
    if product % Nat.pow 2 32 ≤ acceptedBelow range then (1 + product / Nat.pow 2 32, r)
    else drawUpTo fuel r range

/-- How many draws are made at most where a draw may be refused. Each draw is refused with a chance
of at most one half, so the bound is never reached in practice. -/
def patience : Nat := 4096

/-- Draws a number from `1` to `range` other than the given one; at most `fuel` numbers are drawn.
-/
def drawOther : Nat → RandomWords → Nat → Nat → Nat × RandomWords
  | 0, r, range, taken => (taken % range + 1, r)
  | fuel + 1, r, range, taken =>
    let (number, r) := drawUpTo patience r range
    if number = taken then drawOther fuel r range taken else (number, r)

/-- Draws the trip between two different points out of a number of points. -/
def drawTrip (r : RandomWords) (points : Nat) : Trip × RandomWords :=
  let (origin, r) := drawUpTo patience r points
  let (destination, r) := drawOther patience r points origin
  (⟨origin, destination⟩, r)

end RandomWords

/-- The trips wanted in each of a number of ticks. -/
def demand (chance : Float) (points : Nat) : Nat → RandomWords → List (Option Trip)
  | 0, _ => []
  | ticks + 1, r =>
    let (wanted, r) := r.drawChance chance
    if wanted then
      let (trip, r) := r.drawTrip points
      some trip :: demand chance points ticks r
    else none :: demand chance points ticks r

end AgvDispatch
