import AgvDispatch.Decimal.Shortest
/-!
# Rounded decimals

Decimals with a given number of digits, for figures that are compared or shown with less than full
precision.
-/

namespace AgvDispatch.Decimal

/-- The quotient rounded to the closest whole number, a half going to the even one. -/
def divideRounded (num den : Nat) : Nat :=
  let quotient := num / den
  let twice := 2 * (num % den)
  if den < twice ∨ (twice = den ∧ quotient % 2 = 1) then quotient + 1 else quotient

/-- The decimal with at most so many digits that is closest to the magnitude of a finite number
other than zero, without the zeros at its end. -/
def rounded (digits : Nat) (x : Float) : Digits :=
  let b := Binary.ofFloat x
  let (num, den) := b.fraction
  let exponent := b.magnitude - digits + 1
  Digits.strip digits
    ⟨divideRounded (num * power 10 (-exponent)) (den * power 10 exponent), exponent⟩

end AgvDispatch.Decimal
