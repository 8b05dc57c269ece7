/-!
# Scalars

Coordinates, radii, buffers and distances are measured in a **scalar** type. The library is
written once over the class `Scalar`: the program runs it on double precision numbers
(`AgvDispatch.Scalar.Double`), and any ordered field with square roots is another instance, so
that a statement about exact arithmetic is a statement about the very same definitions.

Nothing is assumed of the operations here. In particular a scalar may be *incomparable* (not even
`x ≤ x` holds of it); `closer` and `least` say what becomes of such a number in a minimum.
-/

namespace AgvDispatch

/-- **Numbers that lengths are measured in.** The order is decidable, and minima and maxima are
operations of their own because an incomparable argument gives way to the other one. -/
class Scalar (α : Type) extends Zero α, One α, NatCast α, Add α, Sub α, Mul α, Div α,
    LT α, LE α, BEq α, Min α, Max α where
  /-- The strict order is decidable. -/
  decidableLT : DecidableLT α
  /-- The weak order is decidable. -/
  decidableLE : DecidableLE α
  /-- The length of the hypotenuse over two legs. -/
  hypot : α → α → α
  /-- The greatest integer that is not above a number. -/
  floor : α → Int
  /-- The distance reported when there is nothing comparable to measure. -/
  far : α

attribute [reducible, instance] Scalar.decidableLT Scalar.decidableLE

namespace Scalar

variable {α : Type} [Scalar α]

/-- The smaller of the best distance so far and a new one. An incomparable distance is
ignored. -/
@[specialize]
def closer (best : Option α) (d : α) : Option α :=
  if d ≤ d then
    match best with
    | none => some d
    | some b => some (min b d)
  else best

/-- The least of the comparable numbers of a list, and `far` if it holds none. -/
@[specialize]
def least (ds : List α) : α :=
  (ds.foldl closer none).getD far

/-- The sum of a list, added up from the left. -/
@[specialize]
def sum (xs : List α) : α :=
  xs.foldl (· + ·) 0

/-- A number held within `0` and `1`. -/
@[inline]
def clampUnit (t : α) : α :=
  if t < 0 then 0 else if 1 < t then 1 else t

end Scalar

end AgvDispatch
