/-!
# Shortest decimals

The shortest decimal that reads back as a given double precision number, and of several such
decimals the closest one. All arithmetic is on natural numbers.

A finite positive number is `m * 2 ^ q`. The decimals that read back as it are those within half a
unit of the last binary place, the ends included if `m` is even; below a power of two the unit is
half as large. For `1, 2, …, 17` digits the two neighbours of the number on the decimal grid are
tried, and the first grid with a hit wins: if any point of a grid lies in the interval, so does one
of the two neighbours.
-/

namespace AgvDispatch.Decimal

/-- A finite positive number in binary: `mantissa * 2 ^ exponent`. -/
structure Binary where
  /-- The whole factor. -/
  mantissa : Nat
  /-- The exponent of two. -/
  exponent : Int
  /-- Whether the number below is only half as far away as the number above. -/
  narrowBelow : Bool
  deriving DecidableEq, Repr, Inhabited

/-- The binary form of the magnitude of a finite number other than zero. -/
def Binary.ofFloat (x : Float) : Binary :=
  let bits := x.toBits.toNat
  let fraction : Nat := bits % Nat.pow 2 52
  let biased : Nat := bits / Nat.pow 2 52 % Nat.pow 2 11
  if biased = 0 then ⟨fraction, -1074, false⟩
  else
    ⟨Nat.pow 2 52 + fraction, (biased : Int) - 1075,
      decide (fraction = 0) && decide (1 < biased)⟩

/-- A decimal: `digits * 10 ^ exponent`. -/
structure Digits where
  /-- The whole factor. -/
  digits : Nat
  /-- The exponent of ten. -/
  exponent : Int
  deriving DecidableEq, Repr, Inhabited

/-- How many decimal digits a number has; zero has one. -/
def length (n : Nat) : Nat :=
  (Nat.toDigits 10 n).length

/-- A power whose exponent counts as zero if it is negative. -/
def power (base : Nat) (exponent : Int) : Nat :=
  Nat.pow base exponent.toNat

/-- The numerator and the denominator of a number in binary. -/
def Binary.fraction (b : Binary) : Nat × Nat :=
  (b.mantissa * power 2 b.exponent, power 2 (-b.exponent))

/-- The position of the first decimal digit of a number: it lies between ten to this power and ten
to the next one. -/
def Binary.magnitude (b : Binary) : Int :=
  let (num, den) := b.fraction
  if den ≤ num then (length (num / den) : Int) - 1
  else -(length ((den - 1) / num) : Int)

/-- The comparison of a decimal with a number of quarters of the binary unit. -/
def compareQuarters (d : Digits) (quarters : Nat) (exponent : Int) : Ordering :=
  let e := exponent - 2
  compare (d.digits * power 10 d.exponent * power 2 (-e))
    (quarters * power 2 e * power 10 (-d.exponent))

/-- Whether a decimal reads back as a number in binary. -/
def Binary.reads (b : Binary) (d : Digits) : Bool :=
  let low := 4 * b.mantissa - (if b.narrowBelow then 1 else 2)
  let high := 4 * b.mantissa + 2
  let even := b.mantissa % 2 == 0
  match compareQuarters d low b.exponent, compareQuarters d high b.exponent with
  | .gt, .lt => true
  | .eq, _ | _, .eq => even
  | _, _ => false

/-- Where a tie between two neighbours on a grid goes. -/
inductive Tie where
  /-- To the one that is farther from zero. -/
  | up
  /-- To the one whose last digit is even. -/
  | even
  deriving DecidableEq, Repr, Inhabited

/-- Whether the lower of two neighbours on a grid is preferred. What lies between them is the lower
one and `rest / unit` of a step. -/
def Tie.prefersLower (tie : Tie) (lower rest unit : Nat) : Bool :=
  decide (2 * rest < unit)
    || (decide (2 * rest = unit) && decide (tie = .even) && lower % 2 == 0)

/-- The neighbour of a number on a decimal grid that reads back as it, the closer one if both do. -/
def Binary.onGrid? (tie : Tie) (b : Binary) (exponent : Int) : Option Digits :=
  let (num, den) := b.fraction
  let num := num * power 10 (-exponent)
  let den := den * power 10 exponent
  let below : Digits := ⟨num / den, exponent⟩
  let above : Digits := ⟨num / den + 1, exponent⟩
  match b.reads below, b.reads above with
  | true, true => some (if tie.prefersLower (num / den) (num % den) den then below else above)
  | true, false => some below
  | false, true => some above
  | false, false => none

/-- Tries finer and finer grids. -/
def Binary.shortestFrom (tie : Tie) (b : Binary) : Nat → Int → Digits
  | 0, exponent => ⟨0, exponent⟩
  | fuel + 1, exponent =>
    match b.onGrid? tie exponent with
    | some d => d
    | none => shortestFrom tie b fuel (exponent - 1)

/-- A decimal without the zeros at its end; at most `fuel` of them are removed. -/
def Digits.strip : Nat → Digits → Digits
  | 0, d => d
  | fuel + 1, d =>
    if d.digits ≠ 0 ∧ d.digits % 10 = 0 then strip fuel ⟨d.digits / 10, d.exponent + 1⟩ else d

/-- The shortest decimal that reads back as the magnitude of a finite number other than zero. -/
def shortest (tie : Tie) (x : Float) : Digits :=
  let b := Binary.ofFloat x
  (b.shortestFrom tie 18 b.magnitude).strip 20

/-! ### Written forms -/

/-- A decimal in positional notation. -/
def Digits.positional (d : Digits) : String :=
  let text := toString d.digits
  if 0 ≤ d.exponent then text.pushn '0' d.exponent.toNat
  else
    let places := (-d.exponent).toNat
    let padded := "".pushn '0' (places + 1 - text.length) ++ text
    let whole := padded.length - places
    String.ofList (padded.toList.take whole) ++ "." ++ String.ofList (padded.toList.drop whole)

/-- Whether a number is negative or the negative zero. -/
def isNegative (x : Float) : Bool :=
  decide (Nat.pow 2 63 ≤ x.toBits.toNat)

/-- **Plain notation:** the shortest decimal in positional notation, without an exponent and without
a point unless it is needed. A tie goes up. -/
def plain (x : Float) : String :=
  if x.isNaN then "NaN"
  else
    let magnitude :=
      if x.isInf then "inf" else if x == 0 then "0" else (shortest .up x).positional
    if isNegative x then "-" ++ magnitude else magnitude

/-- The mantissa of scientific notation: a point follows the first digit if there are more. -/
def Digits.scientific (d : Digits) : String :=
  let text := toString d.digits
  let exponent := d.exponent + text.length - 1
  let mantissa := match text.toList with
    | first :: c :: rest => String.ofList (first :: '.' :: c :: rest)
    | _ => text
  mantissa ++ "e" ++ toString exponent

/-- **Record notation:** the shortest decimal with a point in it, or in scientific notation from ten
to the sixteenth on and below ten to the minus fifth. A tie goes to the even digit. A number that is
not finite is `null`. -/
def record (x : Float) : String :=
  if x.isNaN || x.isInf then "null"
  else
    let magnitude :=
      if x == 0 then "0.0"
      else
        let d := shortest .even x
        let point := d.exponent + length d.digits
        if -5 < point ∧ point ≤ 16 then
          if 0 ≤ d.exponent then d.positional ++ ".0" else d.positional
        else d.scientific
    if isNegative x then "-" ++ magnitude else magnitude

end AgvDispatch.Decimal
