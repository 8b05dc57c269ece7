import AgvDispatch.Text.Digit
/-!
# Characters in two halves

Where four hexadecimal digits are to name a character, one outside the basic plane is named by two
numbers, the halves of a surrogate pair. A half does not stand for anything on its own.
-/

namespace AgvDispatch.Text

/-- The value of four hexadecimal digits. -/
def hexValue4? (a b c d : Char) : Option Nat :=
  ([a, b, c, d].mapM (digitIn? 16)).map (ofDigits 16)

/-- Whether a number is the first half of a pair. -/
def isHighHalf (n : Nat) : Bool := decide (0xD800 ≤ n) && decide (n < 0xDC00)

/-- Whether a number is the second half of a pair. -/
def isLowHalf (n : Nat) : Bool := decide (0xDC00 ≤ n) && decide (n < 0xE000)

/-- The character that the two halves of a pair stand for. -/
def ofHalves (high low : Nat) : Char :=
  Char.ofNat (0x10000 + (high - 0xD800) * 0x400 + (low - 0xDC00))

end AgvDispatch.Text
