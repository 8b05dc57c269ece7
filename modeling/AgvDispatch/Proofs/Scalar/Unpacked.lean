import AgvDispatch.Proofs.Scalar.Nearest
import Mathlib
/-!
# Unpacked numbers

An operation on double precision numbers unpacks them into sign, mantissa and exponent, computes an
extended mantissa, and rounds and packs it. An extended mantissa is a natural number together with
how the rest compares with zero and with a half. It **describes** every number of which this is
true (`Double.Describes`), and that is enough to round the number to a natural one.

Wherever a shift puts the last digit, it is the last place of the number described
(`Double.targetExponent_eq_lastPlace`). So the result is the number rounded to double precision
(`Double.roundWithAccuracy_eq`), in canonical form: with fifty-three digits, or with the smallest
exponent. Such a number is read as it has been stored unless it is too large
(`Double.unpack_pack_ofParts`), and all numbers that are read are of this form
(`Double.isCanonical_unpack`).
-/

namespace AgvDispatch.Double

open Float.Model (Format totalExponent UnpackedFloat)
open Float.Model.UnpackedFloat

/-! ### Extended mantissas -/

/-- **Whether an extended mantissa describes a number**: its natural part exactly, and of the rest
how it compares with zero and with what is missing to the next natural number. -/
def Describes : ExtendedMantissa → ℝ → Prop
  | ⟨m, false, false⟩, x => x = m
  | ⟨m, false, true⟩, x => m < x ∧ x - m < m + 1 - x
  | ⟨m, true, false⟩, x => x - m = m + 1 - x
  | ⟨m, true, true⟩, x => m + 1 - x < x - m ∧ x < m + 1

namespace Describes

variable {em : ExtendedMantissa} {x : ℝ}

theorem bounds (h : Describes em x) : (em.mantissa : ℝ) ≤ x ∧ x < em.mantissa + 1 := by
  obtain ⟨m, _ | _, _ | _⟩ := em
  · rw [h]
    exact ⟨le_rfl, lt_add_one _⟩
  · exact ⟨h.1.le, by linarith [h.1, h.2]⟩
  · have hx : x - m = m + 1 - x := h
    exact ⟨by linarith, by linarith⟩
  · exact ⟨by linarith [h.1, h.2], h.2⟩

theorem floor_eq (h : Describes em x) : ⌊x⌋₊ = em.mantissa :=
  (Nat.floor_eq_iff ((Nat.cast_nonneg _).trans h.bounds.1)).mpr h.bounds

/-- **The mantissa is rounded to the nearest number.** -/
theorem roundedMantissa_eq (h : Describes em x) : em.roundedMantissa = nearest x := by
  unfold nearest
  rw [h.floor_eq]
  obtain ⟨m, _ | _, _ | _⟩ := em
  · have hx : x = m := h
    rw [if_pos (by rw [hx]; linarith)]
    rfl
  · rw [if_pos (by linarith [h.2])]
    rfl
  · have hx : x = m + 1 / 2 := by
      have hmiddle : x - m = m + 1 - x := h
      linarith
    rw [if_neg hx.not_lt, if_neg hx.not_gt]
    rfl
  · have hx : m + 1 / 2 < x := by linarith [h.1]
    rw [if_neg hx.not_gt, if_pos hx]
    rfl

/-- Shifting divides the number described by two. -/
theorem shiftRightOne (h : Describes em x) : Describes em.shiftRightOne (x / 2) := by
  obtain ⟨m, round, sticky⟩ := em
  obtain ⟨q, rfl | rfl⟩ := Nat.even_or_odd' m
  · -- The digit that is shifted out is zero.
    have hhalf : 2 * q / 2 = q := by omega
    have hdigit : (2 * q % 2 != 0) = false := by simp
    unfold ExtendedMantissa.shiftRightOne
    simp only [hhalf, hdigit]
    cases round <;> cases sticky <;>
      simp only [Describes, Bool.or_self, Nat.cast_mul, Nat.cast_ofNat] at h ⊢
    · linarith
    · constructor <;> linarith
    · constructor <;> linarith
    · constructor <;> linarith
  · -- The digit that is shifted out is one.
    have hhalf : (2 * q + 1) / 2 = q := by omega
    have hdigit : ((2 * q + 1) % 2 != 0) = true := by simp [Nat.add_mod]
    unfold ExtendedMantissa.shiftRightOne
    simp only [hhalf, hdigit]
    cases round <;> cases sticky <;>
      simp only [Describes, Bool.or_self, Nat.cast_add, Nat.cast_mul, Nat.cast_ofNat,
        Nat.cast_one] at h ⊢
    · linarith
    · constructor <;> linarith
    · constructor <;> linarith
    · constructor <;> linarith

theorem shiftRight (h : Describes em x) (k : ℕ) : Describes (em >>> k) (x / 2 ^ k) := by
  change Describes (k.repeat ExtendedMantissa.shiftRightOne em) _
  induction k with
  | zero =>
    rw [pow_zero, div_one]
    exact h
  | succ k ih =>
    rw [pow_succ, ← div_div]
    exact ih.shiftRightOne

end Describes

theorem describes_exact (m : ℕ) :
    Describes (ExtendedMantissa.ofMantissaAndAccuracy m .exact) m :=
  rfl

theorem mantissa_ofMantissaAndAccuracy (m : ℕ) (accuracy : Accuracy) :
    (ExtendedMantissa.ofMantissaAndAccuracy m accuracy).mantissa = m := by
  obtain _ | _ | _ | _ := accuracy <;> rfl

/-- The quotient and the remainder of a division describe the exact quotient. -/
theorem describes_div (m : ℕ) {d : ℕ} (hd : 0 < d) :
    Describes (ExtendedMantissa.ofMantissaAndAccuracy (m / d) (accuracyOfFraction (m % d) d))
      ((m : ℝ) / d) := by
  have hd' : (0 : ℝ) < d := Nat.cast_pos.mpr hd
  have hsplit : (m : ℝ) / d = (m / d : ℕ) + ((m % d : ℕ) : ℝ) / d := by
    have hmul : (m : ℝ) = (m / d : ℕ) * d + (m % d : ℕ) := by
      exact_mod_cast (Nat.div_add_mod' m d).symm
    rw [div_eq_iff hd'.ne', add_mul, div_mul_cancel₀ _ hd'.ne', ← hmul]
  have hrest : ((m % d : ℕ) : ℝ) / d < 1 := (div_lt_one hd').mpr (Nat.cast_lt.mpr (Nat.mod_lt m hd))
  rw [hsplit]
  unfold accuracyOfFraction
  by_cases hzero : m % d = 0
  · rw [if_pos hzero, hzero, Nat.cast_zero, zero_div, add_zero]
    exact describes_exact _
  · rw [if_neg hzero]
    have hpos : (0 : ℝ) < ((m % d : ℕ) : ℝ) / d :=
      div_pos (Nat.cast_pos.mpr (Nat.pos_of_ne_zero hzero)) hd'
    cases hcompare : compare (2 * (m % d)) d with
    | lt =>
      have hlt : ((2 * (m % d) : ℕ) : ℝ) < d := Nat.cast_lt.mpr (Nat.compare_eq_lt.mp hcompare)
      have hhalf : ((m % d : ℕ) : ℝ) / d < 1 / 2 := by
        rw [div_lt_iff₀ hd']
        push_cast at hlt
        linarith
      exact ⟨lt_add_of_pos_right _ hpos, by linarith⟩
    | eq =>
      have heq : ((2 * (m % d) : ℕ) : ℝ) = d := Nat.cast_inj.mpr (Nat.compare_eq_eq.mp hcompare)
      have hhalf : ((m % d : ℕ) : ℝ) / d = 1 / 2 := by
        rw [div_eq_iff hd'.ne']
        push_cast at heq
        linarith
      show _ = _
      linarith
    | gt =>
      have hgt : (d : ℝ) < ((2 * (m % d) : ℕ) : ℝ) :=
        Nat.cast_lt.mpr (Nat.compare_eq_gt.mp hcompare)
      have hhalf : 1 / 2 < ((m % d : ℕ) : ℝ) / d := by
        rw [lt_div_iff₀ hd']
        push_cast at hgt
        linarith
      exact ⟨by linarith, by linarith⟩

/-! ### Places -/

theorem targetExponent_eq (m : ℕ) (e : ℤ) :
    Format.binary64.targetExponent (totalExponent m e) = max (m.log2 + e - 52) (-1074) := by
  have hmin : Format.binary64.minExponent = -1074 := by decide
  have hbits : (Format.binary64.mantissaBits : ℤ) = 53 := by decide
  unfold Format.targetExponent totalExponent
  rw [hmin, hbits]
  omega

theorem two_pow_log2_le {m : ℕ} (hm : m ≠ 0) : (2 : ℝ) ^ m.log2 ≤ m := by
  exact_mod_cast Nat.log2_self_le hm

theorem add_one_le_two_pow_log2 (m : ℕ) : (m : ℝ) + 1 ≤ 2 ^ (m.log2 + 1) := by
  exact_mod_cast Nat.lt_log2_self (n := m)

theorem log_eq_of_bounds {m : ℕ} (hm : m ≠ 0) {v : ℝ} {e : ℤ} (hle : m ≤ v / 2 ^ e)
    (hlt : v / 2 ^ e < m + 1) : Int.log 2 v = m.log2 + e := by
  rw [le_div_iff₀ (two_zpow_pos e)] at hle
  rw [div_lt_iff₀ (two_zpow_pos e)] at hlt
  have hv : 0 < v := lt_of_lt_of_le
    (mul_pos (Nat.cast_pos.mpr (Nat.pos_of_ne_zero hm)) (two_zpow_pos e)) hle
  have hlower : (2 : ℝ) ^ (m.log2 + e : ℤ) ≤ v := by
    rw [zpow_add₀ two_ne_zero, zpow_natCast]
    exact (mul_le_mul_of_nonneg_right (two_pow_log2_le hm) (two_zpow_pos e).le).trans hle
  have hupper : v < (2 : ℝ) ^ (m.log2 + e + 1 : ℤ) := by
    rw [add_right_comm, zpow_add₀ two_ne_zero, ← Nat.cast_succ, zpow_natCast]
    exact hlt.trans_le
      (mul_le_mul_of_nonneg_right (add_one_le_two_pow_log2 m) (two_zpow_pos e).le)
  apply le_antisymm
  · have h : Int.log 2 v < m.log2 + e + 1 := (Int.lt_zpow_iff_log_lt one_lt_two hv).mp
      (by exact_mod_cast hupper)
    omega
  · exact (Int.zpow_le_iff_le_log one_lt_two hv).mp (by exact_mod_cast hlower)

theorem log_mul_two_zpow {m : ℕ} (hm : m ≠ 0) (e : ℤ) :
    Int.log 2 ((m : ℝ) * 2 ^ e) = m.log2 + e := by
  have hunits : (m : ℝ) * 2 ^ e / 2 ^ e = m := mul_div_cancel_right₀ _ (two_zpow_pos e).ne'
  exact log_eq_of_bounds hm hunits.ge (hunits.trans_lt (lt_add_one _))

theorem targetExponent_eq_lastPlace_mul {m : ℕ} (hm : m ≠ 0) (e : ℤ) :
    Format.binary64.targetExponent (totalExponent m e) = lastPlace ((m : ℝ) * 2 ^ e) := by
  rw [targetExponent_eq, lastPlace, log_mul_two_zpow hm]

/-- The place to which a number is shifted is its last place. -/
theorem targetExponent_eq_lastPlace {m : ℕ} {v : ℝ} (hv : 0 < v) {e : ℤ} (hle : m ≤ v / 2 ^ e)
    (hlt : v / 2 ^ e < m + 1) (he : e ≤ lastPlace v) :
    Format.binary64.targetExponent (totalExponent m e) = lastPlace v := by
  rw [targetExponent_eq]
  by_cases hm : m = 0
  · -- What is less than a unit of the place is only described there if it is beyond all places.
    rw [hm, Nat.cast_zero, zero_add, div_lt_one (two_zpow_pos e)] at hlt
    have hlog : Int.log 2 v < e := (Int.lt_zpow_iff_log_lt one_lt_two hv).mp (by exact_mod_cast hlt)
    rw [hm, Nat.log2_zero]
    unfold lastPlace at he ⊢
    omega
  · rw [lastPlace, log_eq_of_bounds hm hle hlt]

theorem decreaseExponent_eq (m : ℕ) (e t : ℤ) :
    decreaseExponent m e t = (m * 2 ^ (e - t).toNat, min e t) := by
  have hmin : e - (e - t).toNat = min e t := by omega
  unfold decreaseExponent
  simp only [hmin, Nat.shiftLeft_eq]

/-- Decreasing the exponent does not change the number. -/
theorem mul_two_pow_mul_two_zpow (m : ℝ) (e t : ℤ) :
    m * 2 ^ (e - t).toNat * 2 ^ min e t = m * 2 ^ e := by
  have hsum : ((e - t).toNat : ℤ) + min e t = e := by omega
  rw [mul_assoc, ← zpow_natCast, ← zpow_add₀ two_ne_zero, hsum]

/-! ### Rounding -/

/-- Whether a mantissa and an exponent are those of a double precision number: fifty-three binary
digits, or fewer at the least exponent. -/
structure IsCanonical (m : ℕ) (e : ℤ) : Prop where
  mantissa_lt : m < 2 ^ 53
  le_exponent : -1074 ≤ e
  full : 2 ^ 52 ≤ m ∨ e = -1074

/-- The number of a sign, a mantissa and an exponent. -/
def ofParts (s : Sign) (m : ℕ) (e : ℤ) : UnpackedFloat :=
  if h : m = 0 then .zero s else .finite s m e (Nat.pos_of_ne_zero h)

theorem ofParts_of_pos (s : Sign) {m : ℕ} (hm : 0 < m) (e : ℤ) :
    ofParts s m e = .finite s m e hm :=
  dif_neg hm.ne'

/-- **A number that is described exactly enough is rounded.** -/
theorem roundWithAccuracy_eq (s : Sign) {m : ℕ} {e : ℤ} {accuracy : Accuracy} {v : ℝ} (hv : 0 < v)
    (hdescribes : Describes (ExtendedMantissa.ofMantissaAndAccuracy m accuracy) (v / 2 ^ e))
    (he : e ≤ lastPlace v) :
    ∃ (m' : ℕ) (e' : ℤ), roundWithAccuracy .binary64 s m e accuracy = ofParts s m' e'
      ∧ IsCanonical m' e' ∧ (m' : ℝ) * 2 ^ e' = rounded v := by
  have hbounds := hdescribes.bounds
  rw [mantissa_ofMantissaAndAccuracy] at hbounds
  have hfirst := targetExponent_eq_lastPlace hv hbounds.1 hbounds.2 he
  obtain ⟨k, hk⟩ : ∃ k : ℕ, lastPlace v = e + k := ⟨(lastPlace v - e).toNat, by omega⟩
  have hunits := (hdescribes.shiftRight k).roundedMantissa_eq
  rw [div_div, ← zpow_natCast, ← zpow_add₀ two_ne_zero, ← hk] at hunits
  have hround : roundWithAccuracy .binary64 s m e accuracy
      = ofParts s (shiftToTargetExponent .binary64 (nearest (v / 2 ^ lastPlace v))
          (lastPlace v) .exact).1.mantissa
        (shiftToTargetExponent .binary64 (nearest (v / 2 ^ lastPlace v)) (lastPlace v)
          .exact).2 := by
    have hamount : (lastPlace v - e).toNat = k := by omega
    have hshift : shiftToTargetExponent .binary64 m e accuracy
        = (ExtendedMantissa.ofMantissaAndAccuracy m accuracy >>> k, lastPlace v) := by
      unfold shiftToTargetExponent shiftToExponent
      simp only [hfirst, hamount]
      rw [hk]
    unfold roundWithAccuracy
    simp only [hshift, hunits]
    rfl
  rw [hround]
  have hplace : -1074 ≤ lastPlace v := le_max_right _ _
  set n := nearest (v / 2 ^ lastPlace v) with hn
  rcases (nearest_units_le v).lt_or_eq with hlt | heq
  · -- The mantissa has its fifty-three digits.
    have hlog : n.log2 ≤ 52 := by
      by_cases hzero : n = 0
      · rw [hzero, Nat.log2_zero]
        exact Nat.zero_le 52
      · exact Nat.le_of_lt_succ ((Nat.log2_lt hzero).mpr hlt)
    have hshift : shiftToTargetExponent .binary64 n (lastPlace v) .exact
        = (⟨n, false, false⟩, lastPlace v) := by
      have hamount : (max (n.log2 + lastPlace v - 52) (-1074) - lastPlace v).toNat = 0 := by omega
      unfold shiftToTargetExponent shiftToExponent
      simp only [targetExponent_eq, hamount, Nat.cast_zero, add_zero]
      rfl
    refine ⟨n, lastPlace v, by rw [hshift], ⟨hlt, hplace, ?_⟩, rfl⟩
    by_cases hsmall : lastPlace v = -1074
    · exact Or.inr hsmall
    · exact Or.inl (le_nearest_units hv hsmall)
  · -- The mantissa has been rounded up to one digit more, all of them zero but the first.
    have hshift : shiftToTargetExponent .binary64 n (lastPlace v) .exact
        = (⟨2 ^ 52, false, false⟩, lastPlace v + 1) := by
      have hlog : n.log2 = 53 := by rw [hn, heq, Nat.log2_two_pow]
      have hamount : (max (n.log2 + lastPlace v - 52) (-1074) - lastPlace v).toNat = 1 := by omega
      unfold shiftToTargetExponent shiftToExponent
      simp only [targetExponent_eq, hamount, Nat.cast_one]
      rw [hn, heq]
      rfl
    refine ⟨2 ^ 52, lastPlace v + 1, by rw [hshift], ⟨by norm_num, by omega, Or.inl le_rfl⟩, ?_⟩
    rw [rounded, heq, zpow_add₀ two_ne_zero]
    push_cast
    ring

/-! ### Storing -/

/-- A number whose mantissa has all its digits is stored with its exponent and without its first
digit. -/
theorem unpack_packComponents_normal (s : Sign) {m b : ℕ} (hm : 2 ^ 52 ≤ m) (hm' : m < 2 ^ 53)
    (hb : 0 < b) (hb' : b < 2047) :
    unpack .binary64 (packComponents .binary64 s (BitVec.ofNat _ b) (BitVec.ofNat _ m))
      = ofParts s m (b - 1075) := by
  have hexponent : (BitVec.ofNat 11 b).toNat = b := by
    rw [BitVec.toNat_ofNat]
    omega
  have hmantissa : (1#1 ++ BitVec.ofNat 52 m).toNat = m := by
    rw [BitVec.toNat_append, ← Nat.shiftLeft_add_eq_or_of_lt (BitVec.isLt _), BitVec.toNat_ofNat,
      Nat.shiftLeft_eq]
    show 1 * 2 ^ 52 + m % 2 ^ 52 = m
    omega
  have hnotAll : BitVec.ofNat 11 b ≠ -1#11 := by
    rw [ne_eq, ← BitVec.toNat_inj, hexponent]
    exact hb'.ne
  have hnotNone : BitVec.ofNat 11 b ≠ 0#11 := by
    rw [ne_eq, ← BitVec.toNat_inj, hexponent]
    exact hb.ne'
  rw [ofParts_of_pos s (by omega), unpack]
  simp only [unpackExponent_packComponents, unpackMantissa_packComponents,
    unpackSign_packComponents, Sign.ofBitVec_toBitVec]
  rw [if_neg hnotAll, if_neg hnotNone]
  simp only [hexponent, hmantissa]
  rfl

/-- A number with a shorter mantissa is stored without an exponent. -/
theorem unpack_packComponents_subnormal (s : Sign) {m : ℕ} (hm : 0 < m) (hm' : m < 2 ^ 52) :
    unpack .binary64 (packComponents .binary64 s 0#_ (BitVec.ofNat _ m)) = ofParts s m (-1074) := by
  have hmantissa : (BitVec.ofNat 52 m).toNat = m := by
    rw [BitVec.toNat_ofNat]
    omega
  have hnotNone : BitVec.ofNat 52 m ≠ 0#52 := by
    rw [ne_eq, ← BitVec.toNat_inj, hmantissa]
    exact hm.ne'
  rw [ofParts_of_pos s hm, unpack]
  simp only [unpackExponent_packComponents, unpackMantissa_packComponents,
    unpackSign_packComponents, Sign.ofBitVec_toBitVec]
  rw [if_neg (by decide), if_pos trivial, dif_neg hnotNone]
  simp only [hmantissa]
  rfl

/-- **What is read of a number that has been stored**: the number, or infinity if it is too large.
-/
theorem unpack_pack_ofParts (s : Sign) {m : ℕ} {e : ℤ} (h : IsCanonical m e) :
    unpack .binary64 (pack .binary64 (ofParts s m e))
      = if 972 ≤ e then .infinity s else ofParts s m e := by
  obtain ⟨hlt, hle, hfull⟩ := h
  by_cases hm : m = 0
  · rw [if_neg (by omega), ofParts, dif_pos hm]
    exact unpack_packedZero
  have hpos := Nat.pos_of_ne_zero hm
  have hbiased : (e + Format.binary64.exponentBias
      + Format.binary64.mantissaBitsWithoutImplicit).toNat = (e + 1075).toNat := by
    have hbias : (Format.binary64.exponentBias : ℤ) = 1023 := by decide
    have hbits : (Format.binary64.mantissaBitsWithoutImplicit : ℤ) = 52 := rfl
    rw [hbias, hbits]
    omega
  rw [ofParts_of_pos s hpos, pack, hbiased, ← ofParts_of_pos s hpos]
  by_cases hlarge : 972 ≤ e
  · have hoverflow : 2 ^ 11 ≤ (e + 1075).toNat + 1 := by omega
    rw [if_pos hlarge, if_pos hoverflow]
    simp [unpack, packedInfinity]
  have hfits : ¬2 ^ 11 ≤ (e + 1075).toNat + 1 := by omega
  rw [if_neg hlarge, if_neg hfits]
  by_cases hnormal : 2 ^ 52 ≤ m
  · have hlog : m.log2 + 1 = Format.binary64.mantissaBits :=
      congrArg (· + 1) ((Nat.log2_eq_iff hm).mpr ⟨hnormal, hlt⟩)
    have hexponent : ((e + 1075).toNat : ℤ) - 1075 = e := by omega
    rw [if_pos hlog, unpack_packComponents_normal s hnormal hlt (by omega) (by omega), hexponent]
  · have hlog : m.log2 + 1 ≠ Format.binary64.mantissaBits := fun heq =>
      ((Nat.log2_lt hm).mpr (not_le.mp hnormal)).ne (Nat.succ_injective heq)
    have he : -1074 = e := by omega
    rw [if_neg hlog, unpack_packComponents_subnormal s hpos (not_le.mp hnormal), he]

/-- **What is read of stored numbers is canonical.** -/
theorem isCanonical_unpack {bits : BitVec Format.binary64.numBits} {s : Sign} {m : ℕ} {e : ℤ}
    {hm : 0 < m} (h : unpack .binary64 bits = .finite s m e hm) : IsCanonical m e ∧ e ≤ 971 := by
  have hmantissa : (unpackMantissa bits).toNat < 2 ^ 52 := BitVec.isLt _
  have hexponent : (unpackExponent bits).toNat < 2 ^ 11 := BitVec.isLt _
  have hbias : (Format.binary64.exponentBias : ℤ) = 1023 := by decide
  unfold unpack at h
  simp only [hbias, Nat.cast_ofNat] at h
  split at h
  · split at h <;> cases h
  rename_i hnotAll
  have hfinite : (unpackExponent bits).toNat ≠ 2047 := fun hall =>
    hnotAll (BitVec.eq_of_toNat_eq hall)
  split at h
  · rename_i hnone
    split at h
    · cases h
    -- The least exponent, and any mantissa.
    obtain ⟨-, rfl, rfl⟩ := finite.inj h
    rw [hnone]
    exact ⟨⟨by omega, by decide, Or.inr (by decide)⟩, by decide⟩
  · rename_i hsome
    have hpos : (unpackExponent bits).toNat ≠ 0 := fun hzero =>
      hsome (BitVec.eq_of_toNat_eq hzero)
    have hfull : (1#1 ++ unpackMantissa bits).toNat = 2 ^ 52 + (unpackMantissa bits).toNat := by
      rw [BitVec.toNat_append, ← Nat.shiftLeft_add_eq_or_of_lt (BitVec.isLt _)]
      rfl
    obtain ⟨-, rfl, rfl⟩ := finite.inj h
    rw [hfull]
    exact ⟨⟨by omega, by omega, Or.inl (by omega)⟩, by omega⟩

end AgvDispatch.Double
