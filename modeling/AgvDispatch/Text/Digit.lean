/-!
# Digits

The values of digits in bases up to sixteen.
-/

namespace AgvDispatch.Text

/-- The value of a digit in a base up to sixteen, whose higher digits are letters in either case. -/
def digitIn? (base : Nat) (c : Char) : Option Nat :=
  let value? :=
    if '0' ≤ c ∧ c ≤ '9' then some (c.toNat - '0'.toNat)
    else if 'a' ≤ c ∧ c ≤ 'f' then some (c.toNat - 'a'.toNat + 10)
    else if 'A' ≤ c ∧ c ≤ 'F' then some (c.toNat - 'A'.toNat + 10)
    else none
  value?.filter fun value => decide (value < base)

/-- The number with the given digits. -/
def ofDigits (base : Nat) (digits : List Nat) : Nat :=
  digits.foldl (fun value digit => base * value + digit) 0

/-- The character with the number that hexadecimal digits give, if there is one. -/
def codedChar? (digits : List Char) : Option Char := do
  let n := ofDigits 16 (← digits.mapM (digitIn? 16))
  if n < 0xD800 ∨ (0xE000 ≤ n ∧ n < 0x110000) then some (Char.ofNat n) else none

end AgvDispatch.Text
