/-!
# The size of the simulated floor

A simulation runs on a square lattice with roughly four points for each vehicle. Its side is the
square root of four times the number of vehicles, rounded up. The root is taken in double precision,
which for huge numbers rounds first and may then meet a whole number from above.
-/

namespace AgvDispatch

/-- The whole part of the square root of a number of at most `2 * bits` binary digits. -/
def sqrtFloor : Nat → Nat → Nat
  | 0, n => if n = 0 then 0 else 1
  | bits + 1, n =>
    let r := 2 * sqrtFloor bits (n / 4)
    if (r + 1) * (r + 1) ≤ n then r + 1 else r

/-- The closest number with at most 53 significant binary digits, a tie going to the even one. -/
def toDoublePrecision (n : Nat) : Nat :=
  let shift := n.log2 - 52
  let unit := Nat.pow 2 shift
  let rest := n % unit
  let whole := n / unit
  let up := decide (unit < 2 * rest) || (decide (2 * rest = unit) && whole % 2 == 1)
  (if up then whole + 1 else whole) * unit

/-- The square root of a number in double precision, rounded up to a whole number. A root whose
distance from the whole number below it is under half a unit in the last place counts as that
number. -/
def sqrtCeil (n : Nat) : Nat :=
  let k := sqrtFloor 64 n
  let halfUnits := Nat.pow 2 (53 - k.log2)
  if k * k = n then k
  else if n * (halfUnits * halfUnits) < (k * halfUnits + 1) * (k * halfUnits + 1) then k
  else k + 1

/-- The side of the lattice for a number of vehicles: at least four, and within 32 bits. -/
def gridSide (vehicles : Nat) : Nat :=
  max 4 (min (sqrtCeil (4 * toDoublePrecision vehicles)) 2147483647)

end AgvDispatch
