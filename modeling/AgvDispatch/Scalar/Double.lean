import AgvDispatch.Scalar.Basic
/-!
# Double precision scalars

The instance of `Scalar` that the program runs on. Every operation is spelled out from operations
that evaluate inside the logic, so closed statements about double precision numbers can be decided.

* `Double.minimum`, `Double.maximum`: of two numbers, where a NaN gives way to the other argument.
* `Double.hypot`: no overflow or underflow in between, and an infinite leg wins over a NaN.
* `Double.floor`: the greatest integer not above a number, `0` for a NaN, saturating far outside
  every range that an index is clamped to.
-/

namespace AgvDispatch.Double

/-- The power of two with exponent `k`, for `k` in the range of normal numbers. -/
@[inline]
def powerOfTwo (k : Int) : Float :=
  Float.ofBits (((k + 1023).toNat <<< 52).toUInt64)

/-- Positive infinity. -/
def infinity : Float := 1.0 / 0.0

/-- The smaller of two numbers; a NaN gives way to the other one. -/
@[inline]
def minimum (x y : Float) : Float :=
  if x < y then x else if y.isNaN then x else y

/-- The greater of two numbers; a NaN gives way to the other one. -/
@[inline]
def maximum (x y : Float) : Float :=
  if y < x then x else if y.isNaN then x else y

/-- The scale that brings very large legs into the middle of the range, and its inverse. -/
def shrink : Float := powerOfTwo (-600)

/-- The scale that brings very small legs into the middle of the range. -/
def stretch : Float := powerOfTwo 600

/-- Legs above this length are scaled down before they are squared. -/
def hugeLeg : Float := powerOfTwo 500

/-- Legs below this length are scaled up before they are squared. -/
def tinyLeg : Float := powerOfTwo (-400)

/-- The hypotenuse of two legs that are so large or so small that squaring them directly would
leave the range. -/
@[noinline]
def hypotScaled (a b : Float) : Float :=
  if a == infinity || b == infinity then infinity
  else if hugeLeg < a || hugeLeg < b then
    let (a, b) := (a * shrink, b * shrink)
    (a * a + b * b).sqrt * stretch
  else
    let (a, b) := (a * stretch, b * stretch)
    (a * a + b * b).sqrt * shrink

/-- The length of the hypotenuse over two legs. The legs are squared directly when the longer one
is of moderate size and scaled by a power of two otherwise. -/
@[inline]
def hypot (x y : Float) : Float :=
  let a := x.abs
  let b := y.abs
  let longer := if a < b then b else a
  if tinyLeg ≤ longer && longer ≤ hugeLeg && b ≤ hugeLeg then (a * a + b * b).sqrt
  else hypotScaled a b

/-- The greatest integer that is not above a number. -/
def floor (x : Float) : Int :=
  if x < 0 then
    let whole := (-x).toUInt64.toNat
    if Float.ofNat whole < -x then -(whole : Int) - 1 else -(whole : Int)
  else x.toUInt64.toNat

end AgvDispatch.Double

namespace AgvDispatch

instance : Scalar Float where
  zero := 0.0
  one := 1.0
  natCast := Float.ofNat
  add := Float.add
  sub := Float.sub
  mul := Float.mul
  div := Float.div
  lt := fun x y => x < y
  le := fun x y => x ≤ y
  beq := Float.beq
  min := Double.minimum
  max := Double.maximum
  decidableLT := fun x y => inferInstanceAs (Decidable (x < y))
  decidableLE := fun x y => inferInstanceAs (Decidable (x ≤ y))
  hypot := Double.hypot
  floor := Double.floor
  far := Double.infinity

end AgvDispatch
