import AgvDispatch.Proofs.Network.Fingerprint
import AgvDispatch.Proofs.Text.Listing
import AgvDispatch.Text.Integer
import Mathlib.Data.Int.Notation
import Mathlib.Order.Defs.LinearOrder
/-!
# Numerals

What texts are read as integers, and as which. A **numeral** is a row of one or more decimal digits,
and an integer is a numeral with at most one sign in front; leading zeros do not count. Reading an
integer is exactly finding what it denotes (`Text.readInt?_eq_some_iff`), and an integer is read
from the text that it is written as (`Text.denotesInt_toString`).
-/

namespace AgvDispatch.Text

/-- Whether a text is a row of one or more decimal digits with a value. -/
structure IsNumeral (digits : List Char) (value : ℕ) : Prop where
  ne_nil : digits ≠ []
  isDigit : ∀ c ∈ digits, c.isDigit = true
  value_eq : value = Nat.ofDigitChars 10 digits 0

/-- Whether a text denotes a number without a minus sign. -/
inductive DenotesNat : List Char → ℕ → Prop where
  /-- The digits alone. -/
  | plain {digits : List Char} {n : ℕ} (h : IsNumeral digits n) : DenotesNat digits n
  /-- The digits after a plus sign. -/
  | plus {digits : List Char} {n : ℕ} (h : IsNumeral digits n) : DenotesNat ('+' :: digits) n

/-- **Whether a text denotes an integer**, with any sign or none. -/
inductive DenotesInt : List Char → ℤ → Prop where
  /-- A number without a minus sign. -/
  | nonneg {cs : List Char} {n : ℕ} (h : DenotesNat cs n) : DenotesInt cs n
  /-- The digits after a minus sign. -/
  | minus {digits : List Char} {n : ℕ} (h : IsNumeral digits n) :
    DenotesInt ('-' :: digits) (-(n : ℤ))

/-! ### Digits -/

theorem readDigits_eq_some_iff {value n : ℕ} {cs : List Char} : readDigits value cs = some n
    ↔ (∀ c ∈ cs, c.isDigit = true) ∧ n = Nat.ofDigitChars 10 cs value := by
  induction cs generalizing value with
  | nil =>
    rw [readDigits, Nat.ofDigitChars_nil, Option.some.injEq, eq_comm]
    exact (and_iff_right (List.forall_mem_nil _)).symm
  | cons c cs ih =>
    unfold readDigits digitValue?
    by_cases hc : c.isDigit = true
    · rw [if_pos hc, Nat.ofDigitChars_cons, List.forall_mem_cons]
      simp only [hc, true_and]
      exact ih
    · rw [if_neg hc, List.forall_mem_cons]
      simp [hc]

theorem readNat?_eq_some_iff {cs : List Char} {n : ℕ} : readNat? cs = some n ↔ IsNumeral cs n := by
  cases cs with
  | nil => exact iff_of_false (by simp [readNat?]) fun h => h.ne_nil rfl
  | cons c cs =>
    rw [readNat?, readDigits_eq_some_iff]
    · exact ⟨fun h => ⟨List.cons_ne_nil c cs, h.1, h.2⟩, fun h => ⟨h.isDigit, h.value_eq⟩⟩
    · exact List.cons_ne_nil c cs

/-- A sign is no digit. -/
theorem IsNumeral.ne_cons {digits cs : List Char} {n : ℕ} (h : IsNumeral digits n) {sign : Char}
    (hsign : sign.isDigit = false) : digits ≠ sign :: cs := by
  rintro rfl
  have hdigit := h.isDigit sign List.mem_cons_self
  rw [hsign] at hdigit
  cases hdigit

/-- A written number is a numeral. -/
theorem isNumeral_toDigits (n : ℕ) : IsNumeral (Nat.toDigits 10 n) n where
  ne_nil := Nat.toDigits_ne_nil
  isDigit _ hc := Nat.isDigit_of_mem_toDigits (by decide) (by decide) hc
  value_eq := Nat.ofDigitChars_ten_toDigits.symm

/-! ### Signs -/

/-- Without a sign the digits begin at once. -/
theorem readInt?_of_isNumeral {digits : List Char} {n : ℕ} (h : IsNumeral digits n) :
    readInt? digits = some n := by
  unfold readInt?
  split
  · exact absurd rfl (h.ne_cons (by decide))
  · exact absurd rfl (h.ne_cons (by decide))
  · rw [readNat?_eq_some_iff.mpr h]
    rfl

/-- **What is read as an integer** is what denotes it. -/
theorem readInt?_eq_some_iff {cs : List Char} {z : ℤ} :
    readInt? cs = some z ↔ DenotesInt cs z := by
  constructor
  · intro h
    unfold readInt? at h
    split at h
    · rename_i digits
      cases hread : readNat? digits with
      | none =>
        rw [hread] at h
        cases h
      | some n =>
        rw [hread] at h
        obtain rfl := Option.some.inj h
        exact .minus (readNat?_eq_some_iff.mp hread)
    · obtain ⟨n, hn, rfl⟩ := Option.map_eq_some_iff.mp h
      exact .nonneg (.plus (readNat?_eq_some_iff.mp hn))
    · obtain ⟨n, hn, rfl⟩ := Option.map_eq_some_iff.mp h
      exact .nonneg (.plain (readNat?_eq_some_iff.mp hn))
  · rintro (⟨⟨h⟩ | ⟨h⟩⟩ | ⟨h⟩)
    · exact readInt?_of_isNumeral h
    · rw [readInt?, readNat?_eq_some_iff.mpr h]
      rfl
    · rw [readInt?, readNat?_eq_some_iff.mpr h]
      rfl

/-- **An integer is read from its text.** -/
theorem denotesInt_toString (z : ℤ) : DenotesInt (toString z).toList z := by
  cases z with
  | ofNat n =>
    rw [Int.ofNat_eq_natCast, toList_toString_natCast]
    exact .nonneg (.plain (isNumeral_toDigits n))
  | negSucc n =>
    rw [toList_toString_negSucc, Int.negSucc_eq]
    exact_mod_cast DenotesInt.minus (isNumeral_toDigits (n + 1))

/-- **What is read within bounds** is what denotes a number within them. -/
theorem readIntWithin?_eq_some_iff {low high : ℤ} {cs : List Char} {z : ℤ} :
    readIntWithin? low high cs = some z ↔ DenotesInt cs z ∧ low ≤ z ∧ z ≤ high := by
  unfold readIntWithin?
  rw [Option.filter_eq_some_iff, readInt?_eq_some_iff, Bool.and_eq_true, decide_eq_true_eq,
    decide_eq_true_eq]

/-- Where there is no minus sign, no negative number is denoted. -/
theorem DenotesInt.exists_denotesNat {cs : List Char} {z : ℤ} (h : DenotesInt cs z)
    (hminus : '-' ∉ cs) : ∃ n : ℕ, DenotesNat cs n ∧ z = n := by
  cases h with
  | nonneg h => exact ⟨_, h, rfl⟩
  | minus h => exact absurd List.mem_cons_self hminus

/-! ### Blanks -/

/-- A digit is not blank. -/
theorem isBlank_of_isDigit {c : Char} (h : c.isDigit = true) : isBlank c = false := by
  simp only [Char.isDigit, Bool.and_eq_true, decide_eq_true_eq] at h
  have hlow : 48 ≤ c.toNat := h.1
  have hhigh : c.toNat ≤ 57 := h.2
  have hranges : ∀ range ∈ blankRanges, range.2 < 48 ∨ 57 < range.1 := by decide
  rw [isBlank, inRanges, List.any_eq_false]
  intro range hrange
  rw [Bool.and_eq_true, decide_eq_true_eq, decide_eq_true_eq]
  have haside := hranges range hrange
  omega

theorem IsNumeral.isBlank_getLast? {digits : List Char} {n : ℕ} (h : IsNumeral digits n)
    (before : List Char) {c : Char} (hc : (before ++ digits).getLast? = some c) :
    isBlank c = false := by
  rw [List.getLast?_append_of_ne_nil _ h.ne_nil] at hc
  exact isBlank_of_isDigit (h.isDigit c (List.mem_of_getLast? hc))

/-- There are no blanks within an integer, so none at its ends. -/
theorem DenotesInt.isTight {cs : List Char} {z : ℤ} (h : DenotesInt cs z) : IsTight cs := by
  rcases h with ⟨⟨h⟩ | ⟨h⟩⟩ | ⟨h⟩
  · exact ⟨fun c hc => isBlank_of_isDigit (h.isDigit c (List.mem_of_head? hc)),
      fun c hc => h.isBlank_getLast? [] hc⟩
  · refine ⟨fun c hc => ?_, fun c hc => h.isBlank_getLast? ['+'] hc⟩
    obtain rfl : '+' = c := Option.some.inj hc
    decide
  · refine ⟨fun c hc => ?_, fun c hc => h.isBlank_getLast? ['-'] hc⟩
    obtain rfl : '-' = c := Option.some.inj hc
    decide

end AgvDispatch.Text
