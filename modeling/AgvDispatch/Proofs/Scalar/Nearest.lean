import Mathlib.Algebra.Order.Archimedean.Real.Basic
import Mathlib.Data.EReal.Operations
import Mathlib.Data.Int.Log
import Mathlib.Algebra.Order.Floor.Semiring
import Mathlib.Tactic.Linarith
/-!
# Rounding to the nearest double precision number

What a double precision operation should return for an exact result that is not negative: the
mantissa has fifty-three binary digits, of which the last one stands at the place
`Double.lastPlace`, and the number of units in this place is rounded to the nearest natural number,
and to an even one if two are equally near (`Double.rounded`).

Rounding keeps the order (`Double.rounded_mono`) and changes nothing about a number that has no
digits behind the last place (`Double.rounded_eq_self`). For two numbers with the same last place
the former is what rounding to natural numbers keeps. Otherwise there is a power of two between
them, which neither of the two can cross.

Rounding extends to extended real numbers: what is too large becomes infinite, and what is negative
is rounded like its opposite. It still keeps the order (`Double.round_mono`).
-/

namespace AgvDispatch.Double

/-! ### Natural numbers -/

/-- The natural number nearest to a number that is not negative, and of two that are equally near
the even one. -/
noncomputable def nearest (x : ℝ) : ℕ :=
  if x < ⌊x⌋₊ + 1 / 2 then ⌊x⌋₊
  else if ⌊x⌋₊ + 1 / 2 < x then ⌊x⌋₊ + 1
  else ⌊x⌋₊ + ⌊x⌋₊ % 2

theorem floor_le_nearest (x : ℝ) : ⌊x⌋₊ ≤ nearest x := by
  unfold nearest
  split_ifs <;> omega

theorem nearest_le_floor_add_one (x : ℝ) : nearest x ≤ ⌊x⌋₊ + 1 := by
  unfold nearest
  split_ifs <;> omega

theorem nearest_natCast (n : ℕ) : nearest n = n := by
  unfold nearest
  rw [Nat.floor_natCast, if_pos]
  linarith

theorem nearest_mono {x y : ℝ} (h : x ≤ y) : nearest x ≤ nearest y := by
  rcases (Nat.floor_mono h).lt_or_eq with hlt | heq
  · calc nearest x ≤ ⌊x⌋₊ + 1 := nearest_le_floor_add_one x
      _ ≤ ⌊y⌋₊ := hlt
      _ ≤ nearest y := floor_le_nearest y
  · -- Both lie between the same two natural numbers.
    unfold nearest
    rw [heq]
    split_ifs with hx hy hy' hx' hy hy' hy hy'
    · exact le_rfl
    · omega
    · omega
    · linarith
    · exact le_rfl
    · linarith
    · linarith
    · omega
    · exact le_rfl

/-! ### Double precision -/

/-- So many units in a binary place. -/
noncomputable def units (n place : ℤ) : ℝ := n * 2 ^ place

/-- The place of the last binary digit of the mantissa of a number. -/
noncomputable def lastPlace (v : ℝ) : ℤ := max (Int.log 2 v - 52) (-1074)

/-- A number that is not negative, rounded to double precision, except that nothing is too large. -/
noncomputable def rounded (v : ℝ) : ℝ := nearest (v / 2 ^ lastPlace v) * 2 ^ lastPlace v

theorem two_zpow_pos (e : ℤ) : (0 : ℝ) < 2 ^ e := zpow_pos two_pos e

theorem rounded_nonneg (v : ℝ) : 0 ≤ rounded v :=
  mul_nonneg (Nat.cast_nonneg _) (two_zpow_pos _).le

theorem rounded_of_nonpos {v : ℝ} (h : v ≤ 0) : rounded v = 0 := by
  have hle : v / 2 ^ lastPlace v ≤ ((0 : ℕ) : ℝ) := by
    rw [Nat.cast_zero]
    exact div_nonpos_of_nonpos_of_nonneg h (two_zpow_pos _).le
  have hnearest : nearest (v / 2 ^ lastPlace v) = 0 :=
    Nat.le_zero.mp ((nearest_mono hle).trans (nearest_natCast 0).le)
  rw [rounded, hnearest, Nat.cast_zero, zero_mul]

/-- **A number without digits behind its last place** is not changed. -/
theorem rounded_eq_self {v : ℝ} {m : ℕ} {e : ℤ} (hv : v = m * 2 ^ e) (he : lastPlace v ≤ e) :
    rounded v = v := by
  have hunits : v / 2 ^ lastPlace v = ((m * 2 ^ (e - lastPlace v).toNat : ℕ) : ℝ) := by
    have hplace : ((e - lastPlace v).toNat : ℤ) = e - lastPlace v := by omega
    rw [div_eq_iff (two_zpow_pos _).ne', Nat.cast_mul, Nat.cast_pow, Nat.cast_ofNat,
      ← zpow_natCast, hplace, mul_assoc, ← zpow_add₀ two_ne_zero, sub_add_cancel]
    exact hv
  rw [rounded, hunits, nearest_natCast, ← hunits, div_mul_cancel₀ _ (two_zpow_pos _).ne']

/-- The mantissa has fifty-three digits at most. -/
theorem nearest_units_le (v : ℝ) : nearest (v / 2 ^ lastPlace v) ≤ 2 ^ 53 := by
  have hle : v / 2 ^ lastPlace v ≤ ((2 ^ 53 : ℕ) : ℝ) := by
    rw [div_le_iff₀ (two_zpow_pos _), Nat.cast_pow, Nat.cast_ofNat, ← zpow_natCast,
      ← zpow_add₀ two_ne_zero]
    calc v ≤ 2 ^ (Int.log 2 v + 1) := by exact_mod_cast (Int.lt_zpow_succ_log_self one_lt_two v).le
      _ ≤ 2 ^ (((53 : ℕ) : ℤ) + lastPlace v) := by
        refine zpow_le_zpow_right₀ one_le_two ?_
        unfold lastPlace
        omega
  exact (nearest_mono hle).trans (nearest_natCast _).le

/-- It has all of them unless the number is so small that digits are missing at the front. -/
theorem le_nearest_units {v : ℝ} (hv : 0 < v) (hplace : lastPlace v ≠ -1074) :
    2 ^ 52 ≤ nearest (v / 2 ^ lastPlace v) := by
  have hle : ((2 ^ 52 : ℕ) : ℝ) ≤ v / 2 ^ lastPlace v := by
    rw [le_div_iff₀ (two_zpow_pos _), Nat.cast_pow, Nat.cast_ofNat, ← zpow_natCast,
      ← zpow_add₀ two_ne_zero]
    calc (2 : ℝ) ^ (((52 : ℕ) : ℤ) + lastPlace v) = 2 ^ Int.log 2 v := by
          congr 1
          unfold lastPlace at hplace ⊢
          omega
      _ ≤ v := by exact_mod_cast Int.zpow_log_le_self one_lt_two hv
  exact (nearest_natCast _).symm.le.trans (nearest_mono hle)

/-- A power of two that is not beyond a number is not crossed where the number is rounded. -/
theorem two_zpow_log_le_rounded {w : ℝ} (hw : 0 < w) (hplace : lastPlace w ≠ -1074) :
    (2 : ℝ) ^ Int.log 2 w ≤ rounded w := by
  have hunits : ((2 ^ 52 : ℕ) : ℝ) ≤ nearest (w / 2 ^ lastPlace w) :=
    Nat.cast_le.mpr (le_nearest_units hw hplace)
  calc (2 : ℝ) ^ Int.log 2 w = ((2 ^ 52 : ℕ) : ℝ) * 2 ^ lastPlace w := by
        rw [Nat.cast_pow, Nat.cast_ofNat, ← zpow_natCast, ← zpow_add₀ two_ne_zero]
        congr 1
        unfold lastPlace at hplace ⊢
        omega
    _ ≤ rounded w := mul_le_mul_of_nonneg_right hunits (two_zpow_pos _).le

/-- Nor is one that is beyond the number. -/
theorem rounded_le_two_zpow {v : ℝ} {k : ℤ} (hk : lastPlace v ≤ k) (h : v ≤ 2 ^ k) :
    rounded v ≤ 2 ^ k := by
  have hplace : ((k - lastPlace v).toNat : ℤ) = k - lastPlace v := by omega
  have hpow : (2 : ℝ) ^ k = ((2 ^ (k - lastPlace v).toNat : ℕ) : ℝ) * 2 ^ lastPlace v := by
    rw [Nat.cast_pow, Nat.cast_ofNat, ← zpow_natCast, hplace, ← zpow_add₀ two_ne_zero,
      sub_add_cancel]
  have hle : v / 2 ^ lastPlace v ≤ ((2 ^ (k - lastPlace v).toNat : ℕ) : ℝ) := by
    rw [div_le_iff₀ (two_zpow_pos _), ← hpow]
    exact h
  have hunits : (nearest (v / 2 ^ lastPlace v) : ℝ) ≤ ((2 ^ (k - lastPlace v).toNat : ℕ) : ℝ) := by
    exact_mod_cast (nearest_mono hle).trans (nearest_natCast _).le
  rw [hpow]
  exact mul_le_mul_of_nonneg_right hunits (two_zpow_pos _).le

theorem lastPlace_mono {v w : ℝ} (hv : 0 < v) (h : v ≤ w) : lastPlace v ≤ lastPlace w :=
  max_le_max (Int.sub_le_sub_right (Int.log_mono_right hv h) _) le_rfl

/-- **Rounding keeps the order.** -/
theorem rounded_mono {v w : ℝ} (h : v ≤ w) : rounded v ≤ rounded w := by
  rcases le_or_gt v 0 with hnonpos | hv
  · rw [rounded_of_nonpos hnonpos]
    exact rounded_nonneg w
  have hw : 0 < w := hv.trans_le h
  rcases (lastPlace_mono hv h).eq_or_lt with heq | hlt
  · unfold rounded
    rw [heq]
    have hunits : v / 2 ^ lastPlace w ≤ w / 2 ^ lastPlace w :=
      div_le_div_of_nonneg_right h (two_zpow_pos _).le
    exact mul_le_mul_of_nonneg_right (Nat.cast_le.mpr (nearest_mono hunits)) (two_zpow_pos _).le
  · -- The greatest power of two that is not beyond the larger number separates the two.
    have hplaces : lastPlace w ≠ -1074 ∧ lastPlace v ≤ Int.log 2 w
        ∧ Int.log 2 v + 1 ≤ Int.log 2 w := by
      unfold lastPlace at hlt ⊢
      omega
    obtain ⟨hplace, hbelow, hlog⟩ := hplaces
    have hpow : v ≤ 2 ^ Int.log 2 w := by
      calc v ≤ 2 ^ (Int.log 2 v + 1) := by
            exact_mod_cast (Int.lt_zpow_succ_log_self one_lt_two v).le
        _ ≤ 2 ^ Int.log 2 w := zpow_le_zpow_right₀ one_le_two hlog
    exact (rounded_le_two_zpow hbelow hpow).trans (two_zpow_log_le_rounded hw hplace)

/-! ### Rounding of extended reals -/

/-- A number that is not negative, rounded to double precision; what is too large is infinite. -/
noncomputable def magnitude (v : ℝ) : EReal :=
  if rounded v < 2 ^ (1024 : ℤ) then rounded v else ⊤

/-- **An extended real number, rounded to double precision.** -/
noncomputable def round (x : EReal) : EReal :=
  if x = ⊤ then ⊤ else if x = ⊥ then ⊥
  else if 0 ≤ x then magnitude x.toReal else -magnitude (-x.toReal)

theorem magnitude_nonneg (v : ℝ) : 0 ≤ magnitude v := by
  unfold magnitude
  split_ifs
  · exact EReal.coe_nonneg.mpr (rounded_nonneg v)
  · exact le_top

theorem magnitude_mono {v w : ℝ} (h : v ≤ w) : magnitude v ≤ magnitude w := by
  unfold magnitude
  split_ifs with hv hw
  · exact EReal.coe_le_coe (rounded_mono h)
  · exact le_top
  · exact absurd ((rounded_mono h).trans_lt ‹_›) hv
  · exact le_rfl

theorem magnitude_zero : magnitude 0 = 0 := by
  unfold magnitude
  rw [rounded_of_nonpos le_rfl, if_pos (two_zpow_pos _), EReal.coe_zero]

@[simp] theorem round_top : round ⊤ = ⊤ := if_pos rfl

@[simp] theorem round_bot : round ⊥ = ⊥ := (if_neg bot_ne_top).trans (if_pos rfl)

theorem round_coe (v : ℝ) : round v = if 0 ≤ v then magnitude v else -magnitude (-v) := by
  unfold round
  rw [if_neg (EReal.coe_ne_top v), if_neg (EReal.coe_ne_bot v), EReal.toReal_coe]
  simp only [EReal.coe_nonneg]

@[simp] theorem round_zero : round 0 = 0 := by
  rw [← EReal.coe_zero, round_coe, if_pos le_rfl, magnitude_zero, EReal.coe_zero]

theorem round_neg (x : EReal) : round (-x) = -round x := by
  induction x with
  | bot => simp
  | top => simp
  | coe v =>
    rw [← EReal.coe_neg, round_coe, round_coe]
    rcases lt_trichotomy v 0 with hv | rfl | hv
    · rw [if_pos (by linarith), if_neg hv.not_ge, neg_neg]
    · simp [magnitude_zero]
    · rw [if_neg (by linarith), if_pos hv.le, neg_neg]

/-- **Rounding keeps the order.** -/
theorem round_mono {x y : EReal} (h : x ≤ y) : round x ≤ round y := by
  induction x with
  | bot => rw [round_bot]; exact bot_le
  | top => rw [top_le_iff.mp h]
  | coe v =>
    induction y with
    | bot => exact absurd (le_bot_iff.mp h) (EReal.coe_ne_bot v)
    | top => rw [round_top]; exact le_top
    | coe w =>
      have hle : v ≤ w := EReal.coe_le_coe_iff.mp h
      rw [round_coe, round_coe]
      split_ifs with hv hw hw
      · exact magnitude_mono hle
      · exact absurd (hv.trans hle) hw
      · calc -magnitude (-v) ≤ 0 := EReal.neg_le_zero.mpr (magnitude_nonneg _)
          _ ≤ magnitude w := magnitude_nonneg w
      · exact EReal.neg_le_neg_iff.mpr (magnitude_mono (neg_le_neg hle))

end AgvDispatch.Double
