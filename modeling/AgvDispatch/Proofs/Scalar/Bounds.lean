import AgvDispatch.Proofs.Scalar.Value
/-!
# Bounds of sums in double precision

Sums and differences keep bounds although they are rounded, since rounding keeps the order. There is
a side condition to each bound, which excludes that infinities cancel out.

The middle of two numbers lies between them (`Double.between_half_add`) unless their sum overflows:
a number is doubled exactly, and a half of what has been doubled is the number again.
-/

namespace AgvDispatch.Double

open Float.Model.UnpackedFloat

variable {x y z w : Float}

theorem IsNumber.le_self (h : IsNumber x) : x ≤ x := le_iff_value.mpr ⟨h, h, le_rfl⟩

theorem le_trans (hxy : x ≤ y) (hyz : y ≤ z) : x ≤ z := by
  obtain ⟨hx, -, hle⟩ := le_iff_value.mp hxy
  obtain ⟨-, hz, hle'⟩ := le_iff_value.mp hyz
  exact le_iff_value.mpr ⟨hx, hz, hle.trans hle'⟩

theorem lt_of_lt_of_le (hxy : x < y) (hyz : y ≤ z) : x < z := by
  obtain ⟨hx, -, hlt⟩ := lt_iff_value.mp hxy
  obtain ⟨-, hz, hle⟩ := le_iff_value.mp hyz
  exact lt_iff_value.mpr ⟨hx, hz, hlt.trans_le hle⟩

theorem lt_of_le_of_lt (hxy : x ≤ y) (hyz : y < z) : x < z := by
  obtain ⟨hx, -, hle⟩ := le_iff_value.mp hxy
  obtain ⟨-, hz, hlt⟩ := lt_iff_value.mp hyz
  exact lt_iff_value.mpr ⟨hx, hz, hle.trans_lt hlt⟩

theorem not_lt_of_le (h : x ≤ y) : ¬y < x := fun hlt =>
  (le_iff_value.mp h).2.2.not_gt (lt_iff_value.mp hlt).2.2

theorem lt_of_not_le (hx : IsNumber x) (hy : IsNumber y) (h : ¬x ≤ y) : y < x :=
  lt_iff_value.mpr ⟨hy, hx, not_le.mp fun hle => h (le_iff_value.mpr ⟨hx, hy, hle⟩)⟩

theorem le_of_not_lt (hx : IsNumber x) (hy : IsNumber y) (h : ¬x < y) : y ≤ x :=
  le_iff_value.mpr ⟨hy, hx, not_lt.mp fun hlt => h (lt_iff_value.mpr ⟨hx, hy, hlt⟩)⟩

theorem sub_le_sub_right (h : x ≤ y) (hz : value z ≠ ⊤) (hx : IsNumber (x - z)) :
    x - z ≤ y - z := by
  obtain ⟨-, hy, hle⟩ := le_iff_value.mp h
  obtain ⟨⟨-, hz'⟩, hbot, -⟩ := isNumber_sub_iff.mp hx
  have hbot' : value y ≠ ⊥ ∨ value z ≠ ⊥ :=
    hbot.imp_left fun hne heq => hne (le_bot_iff.mp (heq ▸ hle))
  have hnumber : IsNumber (y - z) := isNumber_sub_iff.mpr ⟨⟨hy, hz'⟩, hbot', Or.inr hz⟩
  refine le_iff_value.mpr ⟨hx, hnumber, ?_⟩
  rw [value_sub hx, value_sub hnumber]
  exact round_mono (EReal.sub_le_sub hle le_rfl)

theorem sub_le_sub (h : x ≤ y) (h' : w ≤ z) (hy : value y ≠ ⊤) (hw : value w ≠ ⊥) :
    x - z ≤ y - w := by
  obtain ⟨hx, hy', hle⟩ := le_iff_value.mp h
  obtain ⟨hw', hz, hle'⟩ := le_iff_value.mp h'
  have hxtop : value x ≠ ⊤ := fun heq => hy (top_le_iff.mp (heq ▸ hle))
  have hzbot : value z ≠ ⊥ := fun heq => hw (le_bot_iff.mp (heq ▸ hle'))
  have hleft : IsNumber (x - z) := isNumber_sub_iff.mpr ⟨⟨hx, hz⟩, Or.inr hzbot, Or.inl hxtop⟩
  have hright : IsNumber (y - w) := isNumber_sub_iff.mpr ⟨⟨hy', hw'⟩, Or.inr hw, Or.inl hy⟩
  refine le_iff_value.mpr ⟨hleft, hright, ?_⟩
  rw [value_sub hleft, value_sub hright]
  exact round_mono (EReal.sub_le_sub hle hle')

theorem sum_le_sum (h : x ≤ y) (h' : w ≤ z) (hx : value x ≠ ⊥) (hw : value w ≠ ⊥) :
    x + w ≤ y + z := by
  obtain ⟨hx', hy, hle⟩ := le_iff_value.mp h
  obtain ⟨hw', hz, hle'⟩ := le_iff_value.mp h'
  have hybot : value y ≠ ⊥ := fun heq => hx (le_bot_iff.mp (heq ▸ hle))
  have hzbot : value z ≠ ⊥ := fun heq => hw (le_bot_iff.mp (heq ▸ hle'))
  have hleft : IsNumber (x + w) := isNumber_add_iff.mpr ⟨⟨hx', hw'⟩, Or.inl hx, Or.inr hw⟩
  have hright : IsNumber (y + z) := isNumber_add_iff.mpr ⟨⟨hy, hz⟩, Or.inl hybot, Or.inr hzbot⟩
  refine le_iff_value.mpr ⟨hleft, hright, ?_⟩
  rw [value_add hleft, value_add hright]
  exact round_mono (add_le_add hle hle')

theorem value_ne_bot_of_nonneg (h : 0 ≤ x) : value x ≠ ⊥ := fun heq =>
  EReal.bot_lt_zero.not_ge (heq ▸ (le_iff_value.mp h).2.2)

theorem sub_le_of_le (hy : value y ≠ ⊤) (h : x ≤ y) (hz : 0 ≤ z) : x - z ≤ y := by
  obtain ⟨hx, hy', hle⟩ := le_iff_value.mp h
  obtain ⟨-, hz', hle'⟩ := le_iff_value.mp hz
  have hx' : value x ≠ ⊤ := fun heq => hy (top_le_iff.mp (heq ▸ hle))
  have hnumber : IsNumber (x - z) :=
    isNumber_sub_iff.mpr ⟨⟨hx, hz'⟩, Or.inr (value_ne_bot_of_nonneg hz), Or.inl hx'⟩
  refine le_iff_value.mpr ⟨hnumber, hy', ?_⟩
  calc value (x - z) = round (value x - value z) := value_sub hnumber
    _ ≤ round (value y - 0) := round_mono (EReal.sub_le_sub hle hle')
    _ = value y := by rw [sub_zero, round_value]

theorem le_add_of_le (hx : value x ≠ ⊥) (h : x ≤ y) (hz : 0 ≤ z) : x ≤ y + z := by
  obtain ⟨hx', hy, hle⟩ := le_iff_value.mp h
  obtain ⟨-, hz', hle'⟩ := le_iff_value.mp hz
  have hy' : value y ≠ ⊥ := fun heq => hx (le_bot_iff.mp (heq ▸ hle))
  have hnumber : IsNumber (y + z) :=
    isNumber_add_iff.mpr ⟨⟨hy, hz'⟩, Or.inl hy', Or.inr (value_ne_bot_of_nonneg hz)⟩
  refine le_iff_value.mpr ⟨hx', hnumber, ?_⟩
  calc value x = round (value x + 0) := by rw [add_zero, round_value]
    _ ≤ round (value y + value z) := round_mono (add_le_add hle hle')
    _ = value (y + z) := (value_add hnumber).symm

theorem le_add_of_nonneg_left (hx : IsNumber x) (hbot : value x ≠ ⊥) (h : 0 ≤ z) : x ≤ z + x := by
  obtain ⟨-, hz, hle⟩ := le_iff_value.mp h
  have hnumber : IsNumber (z + x) :=
    isNumber_add_iff.mpr ⟨⟨hz, hx⟩, Or.inl (value_ne_bot_of_nonneg h), Or.inr hbot⟩
  refine le_iff_value.mpr ⟨hx, hnumber, ?_⟩
  calc value x = round (0 + value x) := by rw [zero_add, round_value]
    _ ≤ round (value z + value x) := round_mono (add_le_add hle le_rfl)
    _ = value (z + x) := (value_add hnumber).symm

/-! ### The middle of two numbers -/

/-- A finite number and its double are not changed by rounding. -/
theorem exists_value_eq_coe (h : x.isFinite = true) :
    ∃ r : ℝ, value x = r ∧ |r| < 2 ^ (1024 : ℤ) ∧ rounded (2 * |r|) = 2 * |r| := by
  obtain ⟨hx, hbot, htop⟩ := isFinite_iff.mp h
  have hstored := isStored_unpack x
  unfold IsNumber at hx
  unfold value at hbot htop ⊢
  cases hu : x.toModel.unpack with
  | notANumber => exact absurd hu hx
  | infinity s =>
    rw [hu] at hbot htop
    cases s
    · exact absurd rfl hbot
    · exact absurd rfl htop
  | zero s =>
    refine ⟨0, rfl, ?_, ?_⟩
    · rw [abs_zero]
      exact two_zpow_pos _
    · rw [abs_zero, mul_zero]
      exact rounded_of_nonpos le_rfl
  | finite s m e hm =>
    obtain ⟨hcanonical, he⟩ := hstored s m e hm hu
    have hnonneg : (0 : ℝ) ≤ m * 2 ^ e := mul_nonneg (Nat.cast_nonneg _) (two_zpow_pos e).le
    have hlt := (mul_two_zpow_lt_iff hcanonical).mpr (by omega)
    have hdouble : 2 * ((m : ℝ) * 2 ^ e) = m * 2 ^ (e + 1) := by
      rw [zpow_add_one₀ two_ne_zero]
      ring
    have hrounded : rounded (2 * ((m : ℝ) * 2 ^ e)) = 2 * (m * 2 ^ e) := by
      have hdigits : m.log2 < 53 := (Nat.log2_lt hm.ne').mpr hcanonical.mantissa_lt
      have hle := hcanonical.le_exponent
      refine rounded_eq_self hdouble ?_
      rw [hdouble, lastPlace, log_mul_two_zpow hm.ne']
      omega
    cases s with
    | negative =>
      refine ⟨-(m * 2 ^ e), unpackedValue_negative e hm, ?_, ?_⟩
      · rwa [abs_neg, abs_of_nonneg hnonneg]
      · rwa [abs_neg, abs_of_nonneg hnonneg]
    | positive =>
      refine ⟨m * 2 ^ e, unpackedValue_positive e hm, ?_, ?_⟩
      · rwa [abs_of_nonneg hnonneg]
      · rwa [abs_of_nonneg hnonneg]

theorem value_mul_self_nonneg (hx : x.isFinite = true) :
    IsNumber (x * x) ∧ 0 ≤ value (x * x) := by
  obtain ⟨hnumber, hvalue⟩ := value_mul hx hx
  obtain ⟨r, hr, -⟩ := exists_value_eq_coe hx
  refine ⟨hnumber, ?_⟩
  rw [hvalue, hr, ← EReal.coe_mul, ← round_zero]
  exact round_mono (EReal.coe_nonneg.mpr (mul_self_nonneg r))

theorem add_self_le {r s : ℝ} (hr : rounded (2 * |r|) = 2 * |r|) (hs : |s| < 2 ^ (1024 : ℤ))
    (h : round ((r : EReal) + r) ≤ s) : r + r ≤ s := by
  rw [← EReal.coe_add, round_coe] at h
  split_ifs at h with hsign
  · have habs : r + r = 2 * |r| := by
      rw [abs_of_nonneg (by linarith)]
      ring
    rw [magnitude, habs, hr] at h
    split_ifs at h
    · rw [habs]
      exact EReal.coe_le_coe_iff.mp h
    · exact absurd (top_le_iff.mp h) (EReal.coe_ne_top s)
  · have habs : -(r + r) = 2 * |r| := by
      rw [abs_of_neg (by linarith)]
      ring
    rw [magnitude, habs, hr] at h
    split_ifs at h with hfits
    · rw [← EReal.coe_neg, EReal.coe_le_coe_iff] at h
      linarith
    · -- The double would be too small, and the other number is not.
      linarith [(abs_lt.mp hs).1, not_lt.mp hfits]

theorem le_add_self {r s : ℝ} (hr : rounded (2 * |r|) = 2 * |r|) (hs : |s| < 2 ^ (1024 : ℤ))
    (h : (s : EReal) ≤ round ((r : EReal) + r)) : s ≤ r + r := by
  have hneg : round (((-r : ℝ) : EReal) + (-r : ℝ)) ≤ (-s : ℝ) := by
    rw [← EReal.coe_add, ← neg_add, EReal.coe_neg, EReal.coe_neg, round_neg, EReal.coe_add]
    exact EReal.neg_le_neg_iff.mpr h
  have hle := add_self_le (by rwa [abs_neg]) (by rwa [abs_neg]) hneg
  linarith

theorem unpack_two : ((2 : ℕ) : Float).toModel.unpack
    = .finite .positive (2 ^ 52) (-51) (by decide) := rfl

theorem value_two : value ((2 : ℕ) : Float) = (2 : ℝ) := by
  rw [value, unpack_two, unpackedValue_positive]
  congr 1
  rw [Nat.cast_pow, Nat.cast_ofNat, ← zpow_natCast, ← zpow_add₀ two_ne_zero]
  norm_num

theorem isFinite_of_isFinite_add (h : (x + y).isFinite = true) :
    x.isFinite = true ∧ y.isFinite = true := by
  obtain ⟨hnumber, hbot, htop⟩ := isFinite_iff.mp h
  obtain ⟨⟨hx, hy⟩, -⟩ := isNumber_add_iff.mp hnumber
  rw [value_add hnumber] at hbot htop
  have hxbot : value x ≠ ⊥ := by
    intro heq
    rw [heq, EReal.bot_add, round_bot] at hbot
    exact hbot rfl
  have hybot : value y ≠ ⊥ := by
    intro heq
    rw [heq, EReal.add_bot, round_bot] at hbot
    exact hbot rfl
  refine ⟨isFinite_iff.mpr ⟨hx, hxbot, fun heq => ?_⟩, isFinite_iff.mpr ⟨hy, hybot, fun heq => ?_⟩⟩
  · rw [heq, EReal.top_add_of_ne_bot hybot, round_top] at htop
    exact htop rfl
  · rw [heq, EReal.add_top_of_ne_bot hxbot, round_top] at htop
    exact htop rfl

/-- **The middle of two numbers lies between them**, provided that their sum is not too large. -/
theorem between_half_add (h : x ≤ y) (hsum : (x + y).isFinite = true) :
    x ≤ (x + y) / ((2 : ℕ) : Float) ∧ (x + y) / ((2 : ℕ) : Float) ≤ y := by
  obtain ⟨hx, hy, hle⟩ := le_iff_value.mp h
  obtain ⟨hfinite, hfinite'⟩ := isFinite_of_isFinite_add hsum
  have hnumber := (isFinite_iff.mp hsum).1
  obtain ⟨hhalf, hvalue⟩ := value_div hnumber unpack_two
  obtain ⟨s, hs, hslt, -⟩ := exists_value_eq_coe hsum
  obtain ⟨r, hr, -, hdouble⟩ := exists_value_eq_coe hfinite
  obtain ⟨r', hr', -, hdouble'⟩ := exists_value_eq_coe hfinite'
  have hround : round (value x + value y) = s := by rw [← value_add hnumber, hs]
  have hlower : r + r ≤ s := by
    refine add_self_le hdouble hslt ?_
    rw [← hround, ← hr]
    exact round_mono (add_le_add le_rfl hle)
  have hupper : s ≤ r' + r' := by
    refine le_add_self hdouble' hslt ?_
    rw [← hround, ← hr']
    exact round_mono (add_le_add hle le_rfl)
  rw [hs, value_two, ← EReal.coe_div] at hvalue
  constructor
  · refine le_iff_value.mpr ⟨hx, hhalf, ?_⟩
    rw [hvalue, ← round_value x, hr]
    exact round_mono (EReal.coe_le_coe_iff.mpr (by linarith))
  · refine le_iff_value.mpr ⟨hhalf, hy, ?_⟩
    rw [hvalue, ← round_value y, hr']
    exact round_mono (EReal.coe_le_coe_iff.mpr (by linarith))

theorem isFinite_add_congr (hx : (x == z) = true) (hy : (y == w) = true)
    (h : (z + w).isFinite = true) : (x + y).isFinite = true := by
  obtain ⟨hx', -, hxz⟩ := beq_iff_value.mp hx
  obtain ⟨hy', -, hyw⟩ := beq_iff_value.mp hy
  obtain ⟨hnumber, hfinite⟩ := isFinite_iff.mp h
  have hsum : IsNumber (x + y) := by
    rw [isNumber_add_iff, hxz, hyw]
    exact ⟨⟨hx', hy'⟩, (isNumber_add_iff.mp hnumber).2⟩
  rw [isFinite_iff, value_add hsum, hxz, hyw, ← value_add hnumber]
  exact ⟨hsum, hfinite⟩

/-- The interval of a half-width around a number, and its middle, lie within the interval that is
widened by as much or by more on every side of a number on either side. -/
theorem between_of_around {lo hi r t a b : Float} (hlo : lo ≤ x) (hhi : x ≤ hi)
    (hx : x.isFinite = true) (hr : r.isFinite = true) (hpos : 0 ≤ r) (ht : r ≤ t)
    (ha : (a == x - r) = true) (hb : (b == x + r) = true)
    (hsum : (x - r + (x + r)).isFinite = true) :
    (lo - t ≤ (a + b) / ((2 : ℕ) : Float) ∧ (a + b) / ((2 : ℕ) : Float) ≤ hi + t)
      ∧ lo - t ≤ b ∧ a ≤ hi + t := by
  obtain ⟨ha', hxr, haeq⟩ := beq_iff_value.mp ha
  obtain ⟨hb', hxr', hbeq⟩ := beq_iff_value.mp hb
  obtain ⟨-, hxbot, hxtop⟩ := isFinite_iff.mp hx
  obtain ⟨-, hrbot, -⟩ := isFinite_iff.mp hr
  have hwest : lo - t ≤ a := le_trans (sub_le_sub hlo ht hxtop hrbot)
    (le_iff_value.mpr ⟨hxr, ha', haeq.ge⟩)
  have heast : b ≤ hi + t := le_trans (le_iff_value.mpr ⟨hb', hxr', hbeq.le⟩)
    (sum_le_sum hhi ht hxbot hrbot)
  have hab : a ≤ b := by
    have hself := (isFinite_iff.mp hx).1.le_self
    have hle := le_trans (sub_le_of_le hxtop hself hpos) (le_add_of_le hxbot hself hpos)
    refine le_iff_value.mpr ⟨ha', hb', ?_⟩
    rw [haeq, hbeq]
    exact (le_iff_value.mp hle).2.2
  obtain ⟨hleft, hright⟩ := between_half_add hab (isFinite_add_congr ha hb hsum)
  exact ⟨⟨le_trans hwest hleft, le_trans hright heast⟩, le_trans hwest hab, le_trans hab heast⟩

end AgvDispatch.Double
