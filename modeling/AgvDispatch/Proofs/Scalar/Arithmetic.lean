import AgvDispatch.Proofs.Scalar.Unpacked
import AgvDispatch.Proofs.Scalar.Ranked
/-!
# Arithmetic of unpacked numbers

The value of an unpacked number is an extended real number. A result **rounds** an exact one
(`Double.Rounds`) if what is stored of it is a number and has the value of the exact result,
rounded. Sums and differences round the sum and the difference of the
values, infinite ones included, unless these are infinities that cancel out. Products do for finite
factors, and quotients for divisors that are positive and finite. The argument is the same for each
of them: the mantissa that is computed describes the exact result and begins before its last place.
-/

namespace AgvDispatch.Double

open Float.Model (UnpackedFloat)
open Float.Model.UnpackedFloat

/-! ### The values of unpacked numbers -/

/-- The value of an unpacked number, and zero for the NaN. -/
noncomputable def unpackedValue : UnpackedFloat → EReal
  | .infinity .positive => ⊤
  | .infinity .negative => ⊥
  | .zero _ | .notANumber => 0
  | .finite s m e _ => units (s.apply m) e

/-- What is read of a number that has been stored. -/
def store (u : UnpackedFloat) : UnpackedFloat := unpack .binary64 (pack .binary64 u)

/-- Whether an unpacked number is as it is when it is read. -/
def IsStored (u : UnpackedFloat) : Prop :=
  ∀ s m e hm, u = .finite s m e hm → IsCanonical m e ∧ e ≤ 971

theorem isStored_unpack (x : Float) : IsStored x.toModel.unpack :=
  fun _ _ _ _ h => isCanonical_unpack h

@[simp] theorem store_notANumber : store .notANumber = .notANumber := unpack_packedNaN

@[simp] theorem store_zero (s : Sign) : store (.zero s) = .zero s := unpack_packedZero

@[simp] theorem store_infinity (s : Sign) : store (.infinity s) = .infinity s := by
  simp [store, pack, unpack, packedInfinity]

theorem store_of_isStored {u : UnpackedFloat} (h : IsStored u) : store u = u := by
  cases u with
  | notANumber => exact store_notANumber
  | infinity s => exact store_infinity s
  | zero s => exact store_zero s
  | finite s m e hm =>
    obtain ⟨hcanonical, he⟩ := h s m e hm rfl
    rw [← ofParts_of_pos s hm]
    exact (unpack_pack_ofParts s hcanonical).trans (if_neg (by omega))

theorem IsStored.neg {u : UnpackedFloat} (h : IsStored u) : IsStored u.neg := by
  intro s m e hm heq
  cases u with
  | finite s' m' e' hm' =>
    obtain ⟨-, rfl, rfl⟩ := finite.inj heq
    exact h s' m' e' hm' rfl
  | _ => cases heq

theorem apply_neg (s : Sign) (n : ℤ) : (-s).apply n = -s.apply n := by
  cases s
  · exact (neg_neg n).symm
  · rfl

theorem unpackedValue_neg (u : UnpackedFloat) : unpackedValue u.neg = -unpackedValue u := by
  cases u with
  | notANumber => exact neg_zero.symm
  | zero s => exact neg_zero.symm
  | infinity s => cases s <;> simp [unpackedValue, UnpackedFloat.neg]
  | finite s m e hm =>
    show ((((-s).apply m : ℤ) : ℝ) * 2 ^ e : ℝ) = -((((s.apply m : ℤ) : ℝ) * 2 ^ e : ℝ) : EReal)
    rw [apply_neg, Int.cast_neg, neg_mul, EReal.coe_neg]

/-! ### Rounded results -/

/-- **Whether a number is stored as an exact one rounded.** -/
structure Rounds (u : UnpackedFloat) (x : EReal) : Prop where
  ne_notANumber : store u ≠ .notANumber
  value_eq : unpackedValue (store u) = round x

theorem apply_eq_mul (s : Sign) (n : ℤ) : s.apply n = s.apply 1 * n := by
  cases s
  · exact (neg_one_mul n).symm
  · exact (one_mul n).symm

theorem unpackedValue_ofParts (s : Sign) (m : ℕ) (e : ℤ) :
    unpackedValue (ofParts s m e) = (((s.apply 1 : ℤ) : ℝ) * (m * 2 ^ e) : ℝ) := by
  by_cases hm : m = 0
  · rw [ofParts, dif_pos hm, hm, Nat.cast_zero, zero_mul, mul_zero]
    rfl
  · rw [ofParts_of_pos s (Nat.pos_of_ne_zero hm)]
    show ((((s.apply m : ℤ) : ℝ) * 2 ^ e : ℝ) : EReal) = _
    rw [apply_eq_mul, Int.cast_mul, Int.cast_natCast, mul_assoc]

theorem round_signed (s : Sign) {v : ℝ} (hv : 0 ≤ v) :
    round (((s.apply 1 : ℤ) : ℝ) * v : ℝ)
      = if rounded v < 2 ^ (1024 : ℤ) then ((((s.apply 1 : ℤ) : ℝ) * rounded v : ℝ) : EReal)
        else unpackedValue (.infinity s) := by
  have hmagnitude : round v = magnitude v := by rw [round_coe, if_pos hv]
  cases s with
  | positive =>
    show round (((1 : ℤ) : ℝ) * v : ℝ) = if _ then ((((1 : ℤ) : ℝ) * _ : ℝ) : EReal) else ⊤
    rw [Int.cast_one, one_mul, one_mul, hmagnitude]
    rfl
  | negative =>
    show round (((-1 : ℤ) : ℝ) * v : ℝ) = if _ then ((((-1 : ℤ) : ℝ) * _ : ℝ) : EReal) else ⊥
    rw [Int.cast_neg, Int.cast_one, neg_one_mul, neg_one_mul, EReal.coe_neg, EReal.coe_neg,
      round_neg, hmagnitude, magnitude]
    split_ifs
    · rfl
    · rfl

theorem mul_two_zpow_lt_iff {m : ℕ} {e : ℤ} (h : IsCanonical m e) :
    (m : ℝ) * 2 ^ e < 2 ^ (1024 : ℤ) ↔ ¬972 ≤ e := by
  have hpow : (2 : ℝ) ^ (1024 : ℤ) = 2 ^ (52 : ℤ) * 2 ^ (972 : ℤ) := by
    have hsum : (52 : ℤ) + 972 = 1024 := by decide
    rw [← zpow_add₀ two_ne_zero, hsum]
  constructor
  · intro hlt he
    have hm : 2 ^ 52 ≤ m := h.full.resolve_right (by omega)
    have hm' : (2 : ℝ) ^ (52 : ℤ) ≤ m := by exact_mod_cast hm
    have hle : (2 : ℝ) ^ (52 : ℤ) * 2 ^ (972 : ℤ) ≤ m * 2 ^ e :=
      mul_le_mul hm' (zpow_le_zpow_right₀ one_le_two he) (two_zpow_pos _).le (Nat.cast_nonneg _)
    exact absurd hlt (hpow ▸ hle.not_gt)
  · intro he
    have hm : (m : ℝ) < 2 ^ (53 : ℤ) := by exact_mod_cast h.mantissa_lt
    calc (m : ℝ) * 2 ^ e < 2 ^ (53 : ℤ) * 2 ^ e :=
          mul_lt_mul_of_pos_right hm (two_zpow_pos e)
      _ ≤ 2 ^ (53 : ℤ) * 2 ^ (971 : ℤ) :=
          mul_le_mul_of_nonneg_left (zpow_le_zpow_right₀ one_le_two (by omega)) (two_zpow_pos _).le
      _ = 2 ^ (1024 : ℤ) := by
        have hsum : (53 : ℤ) + 971 = 1024 := by decide
        rw [← zpow_add₀ two_ne_zero, hsum]

theorem rounds_roundWithAccuracy (s : Sign) {m : ℕ} {e : ℤ} {accuracy : Accuracy} {v : ℝ}
    (hv : 0 < v)
    (hdescribes : Describes (ExtendedMantissa.ofMantissaAndAccuracy m accuracy) (v / 2 ^ e))
    (he : e ≤ lastPlace v) :
    Rounds (roundWithAccuracy .binary64 s m e accuracy) (((s.apply 1 : ℤ) : ℝ) * v : ℝ) := by
  obtain ⟨m', e', heq, hcanonical, hvalue⟩ := roundWithAccuracy_eq s hv hdescribes he
  have hfits := mul_two_zpow_lt_iff hcanonical
  have hstore : store (ofParts s m' e') = if 972 ≤ e' then .infinity s else ofParts s m' e' :=
    unpack_pack_ofParts s hcanonical
  rw [heq]
  constructor
  · rw [hstore]
    split
    · exact UnpackedFloat.noConfusion
    · unfold ofParts
      split <;> exact UnpackedFloat.noConfusion
  · rw [hstore, round_signed s hv.le, ← hvalue]
    by_cases hlarge : 972 ≤ e'
    · rw [if_pos hlarge, if_neg (mt hfits.mp (not_not.mpr hlarge))]
    · rw [if_neg hlarge, if_pos (hfits.mpr hlarge), unpackedValue_ofParts]

/-- A stored number is not changed by rounding. -/
theorem round_unpackedValue {u : UnpackedFloat} (h : IsStored u) :
    round (unpackedValue u) = unpackedValue u := by
  cases u with
  | notANumber => exact round_zero
  | zero s => exact round_zero
  | infinity s => cases s <;> simp [unpackedValue]
  | finite s m e hm =>
    obtain ⟨hcanonical, he⟩ := h s m e hm rfl
    have hrounded : rounded ((m : ℝ) * 2 ^ e) = m * 2 ^ e := by
      have hdigits : m.log2 < 53 := (Nat.log2_lt hm.ne').mpr hcanonical.mantissa_lt
      refine rounded_eq_self rfl ?_
      have hle := hcanonical.le_exponent
      rw [lastPlace, log_mul_two_zpow hm.ne']
      omega
    rw [← ofParts_of_pos s hm, unpackedValue_ofParts,
      round_signed s (mul_nonneg (Nat.cast_nonneg _) (two_zpow_pos e).le), hrounded,
      if_pos ((mul_two_zpow_lt_iff hcanonical).mpr (by omega))]

theorem rounds_of_isStored {u : UnpackedFloat} (h : IsStored u) (hu : u ≠ .notANumber) :
    Rounds u (unpackedValue u) := by
  constructor
  · rw [store_of_isStored h]
    exact hu
  · rw [store_of_isStored h, round_unpackedValue h]

theorem rounds_round (s : Sign) {m : ℕ} (hm : 0 < m) (e : ℤ) :
    Rounds (UnpackedFloat.round .binary64 s m e) (((s.apply 1 : ℤ) : ℝ) * (m * 2 ^ e) : ℝ) := by
  have hv : (0 : ℝ) < m * 2 ^ e := mul_pos (Nat.cast_pos.mpr hm) (two_zpow_pos e)
  unfold UnpackedFloat.round
  simp only [targetExponent_eq_lastPlace_mul hm.ne', decreaseExponent_eq]
  refine rounds_roundWithAccuracy s hv ?_ (min_le_right _ _)
  have hunits : (m : ℝ) * 2 ^ e / 2 ^ min e (lastPlace (m * 2 ^ e))
      = ((m * 2 ^ (e - lastPlace (m * 2 ^ e)).toNat : ℕ) : ℝ) := by
    rw [div_eq_iff (two_zpow_pos _).ne', Nat.cast_mul, Nat.cast_pow, Nat.cast_ofNat,
      mul_two_pow_mul_two_zpow]
  rw [hunits]
  exact describes_exact _

theorem rounds_zero (s : Sign) : Rounds (.zero s) 0 := by
  constructor
  · rw [store_zero]
    exact UnpackedFloat.noConfusion
  · rw [store_zero, round_zero]
    rfl

theorem rounds_normalize (m e : ℤ) (s : Sign) :
    Rounds (UnpackedFloat.normalize .binary64 m e s) ((m : ℝ) * 2 ^ e : ℝ) := by
  unfold UnpackedFloat.normalize
  rcases lt_trichotomy m 0 with hm | rfl | hm
  · rw [Int.compare_eq_lt.mpr hm]
    have hcast : ((-m).toNat : ℝ) = -m := by
      have htoNat : ((-m).toNat : ℤ) = -m := by omega
      exact_mod_cast congrArg (Int.cast : ℤ → ℝ) htoNat
    have h := rounds_round .negative (by omega : 0 < (-m).toNat) e
    rw [hcast] at h
    have heq : ((Sign.negative.apply 1 : ℤ) : ℝ) * (-m * 2 ^ e) = m * 2 ^ e := by
      show ((-1 : ℤ) : ℝ) * _ = _
      push_cast
      ring
    rwa [heq] at h
  · rw [Int.cast_zero, zero_mul, EReal.coe_zero]
    exact rounds_zero s
  · rw [Int.compare_eq_gt.mpr hm]
    have hcast : (m.toNat : ℝ) = m := by
      have htoNat : (m.toNat : ℤ) = m := by omega
      exact_mod_cast congrArg (Int.cast : ℤ → ℝ) htoNat
    have h := rounds_round .positive (by omega : 0 < m.toNat) e
    rw [hcast] at h
    have heq : ((Sign.positive.apply 1 : ℤ) : ℝ) * (m * 2 ^ e) = m * 2 ^ e := by
      show ((1 : ℤ) : ℝ) * _ = _
      rw [Int.cast_one, one_mul]
    rwa [heq] at h

/-! ### Sums and differences -/

theorem apply_mul_two_pow (s : Sign) (m k : ℕ) :
    ((s.apply (m * 2 ^ k : ℕ) : ℤ) : ℝ) = ((s.apply m : ℤ) : ℝ) * 2 ^ k := by
  rw [apply_eq_mul s m, apply_eq_mul s (m * 2 ^ k : ℕ)]
  push_cast
  ring

theorem rounds_infinity (s : Sign) : Rounds (.infinity s) (unpackedValue (.infinity s)) :=
  rounds_of_isStored (fun _ _ _ _ heq => by cases heq) UnpackedFloat.noConfusion

theorem unpackedValue_infinity_add (s t : Sign) {m : ℕ} (e : ℤ) (hm : 0 < m) :
    unpackedValue (.infinity s) + unpackedValue (.finite t m e hm)
      = unpackedValue (.infinity s) := by
  cases s
  · exact EReal.bot_add _
  · exact EReal.top_add_coe _

/-- **Sums are rounded.** -/
theorem rounds_add {u v : UnpackedFloat} (hu : IsStored u) (hv : IsStored v)
    (h : u.add .binary64 v ≠ .notANumber) :
    Rounds (u.add .binary64 v) (unpackedValue u + unpackedValue v) := by
  cases u with
  | notANumber => exact absurd rfl h
  | infinity s =>
    cases v with
    | notANumber => exact absurd rfl h
    | infinity t =>
      cases s <;> cases t
      · exact rounds_infinity .negative
      · exact absurd rfl h
      · exact absurd rfl h
      · exact rounds_infinity .positive
    | zero t =>
      show Rounds (.infinity s) (unpackedValue (.infinity s) + 0)
      rw [add_zero]
      exact rounds_infinity s
    | finite t =>
      rw [unpackedValue_infinity_add]
      exact rounds_infinity s
  | zero s =>
    show Rounds _ (0 + unpackedValue v)
    rw [zero_add]
    cases v with
    | notANumber => exact absurd rfl h
    | infinity t => exact rounds_infinity t
    | zero t =>
      obtain ⟨r, hr⟩ : ∃ r, add .binary64 (.zero s) (.zero t) = .zero r := by
        cases s <;> cases t <;> exact ⟨_, rfl⟩
      rw [hr]
      exact rounds_zero r
    | finite t => exact rounds_of_isStored hv UnpackedFloat.noConfusion
  | finite s m e hm =>
    cases v with
    | notANumber => exact absurd rfl h
    | infinity t =>
      rw [add_comm, unpackedValue_infinity_add]
      exact rounds_infinity t
    | zero t =>
      show Rounds _ (unpackedValue (.finite s m e hm) + 0)
      rw [add_zero]
      exact rounds_of_isStored hu UnpackedFloat.noConfusion
    | finite t m' e' hm' =>
      -- Both numbers are brought to the smaller one of the exponents.
      have hsum := rounds_normalize (s.apply (m * 2 ^ (e - min e e').toNat : ℕ)
        + t.apply (m' * 2 ^ (e' - min e e').toNat : ℕ)) (min e e') .positive
      have hleft := mul_two_pow_mul_two_zpow ((s.apply m : ℤ) : ℝ) e (min e e')
      have hright := mul_two_pow_mul_two_zpow ((t.apply m' : ℤ) : ℝ) e' (min e e')
      rw [min_eq_right (min_le_left e e')] at hleft
      rw [min_eq_right (min_le_right e e')] at hright
      rw [Int.cast_add, apply_mul_two_pow, apply_mul_two_pow, add_mul, hleft, hright,
        EReal.coe_add] at hsum
      unfold add
      simp only [decreaseExponent_eq]
      exact hsum

theorem sub_eq_add (u v : UnpackedFloat) :
    u.sub .binary64 v = u.add .binary64 v.neg := by
  cases u with
  | notANumber => rfl
  | infinity s => cases v <;> rfl
  | zero s => cases v <;> rfl
  | finite s m e hm =>
    cases v with
    | finite t m' e' hm' =>
      unfold sub add UnpackedFloat.neg
      simp only [apply_neg, Int.sub_eq_add_neg]
    | _ => rfl

/-- **Differences are rounded.** -/
theorem rounds_sub {u v : UnpackedFloat} (hu : IsStored u) (hv : IsStored v)
    (h : u.sub .binary64 v ≠ .notANumber) :
    Rounds (u.sub .binary64 v) (unpackedValue u - unpackedValue v) := by
  rw [sub_eq_add] at h ⊢
  rw [sub_eq_add_neg, ← unpackedValue_neg]
  exact rounds_add hu hv.neg h

/-! ### Products and quotients -/

theorem apply_mul_apply (s t : Sign) :
    ((s.apply 1 : ℤ) : ℝ) * ((t.apply 1 : ℤ) : ℝ) = (((s * t).apply 1 : ℤ) : ℝ) := by
  rw [← Int.cast_mul]
  congr 1
  cases s <;> cases t <;> rfl

/-- The product of two numbers has no digits before the place where its own begin. -/
theorem add_le_lastPlace {m m' : ℕ} {e e' : ℤ} (hm : 0 < m) (hm' : 0 < m') (h : IsCanonical m e)
    (h' : IsCanonical m' e') : e + e' ≤ lastPlace ((m * m' : ℕ) * 2 ^ (e + e')) := by
  rw [lastPlace, log_mul_two_zpow (Nat.mul_ne_zero hm.ne' hm'.ne')]
  have hle := h.le_exponent
  have hle' := h'.le_exponent
  have hlog : 2 ^ 52 ≤ m ∨ 2 ^ 52 ≤ m' → 52 ≤ (m * m').log2 := by
    intro hfull
    rw [Nat.le_log2 (Nat.mul_ne_zero hm.ne' hm'.ne')]
    rcases hfull with hfull | hfull
    · exact hfull.trans (Nat.le_mul_of_pos_right m hm')
    · exact hfull.trans (Nat.le_mul_of_pos_left m' hm)
  rcases h.full with hfull | rfl
  · have h52 := hlog (Or.inl hfull)
    omega
  · rcases h'.full with hfull | rfl
    · have h52 := hlog (Or.inr hfull)
      omega
    · omega

/-- **Products of numbers that are finite are rounded.** -/
theorem rounds_mul {u v : UnpackedFloat} (hu : IsStored u) (hv : IsStored v)
    (hu' : u.isFinite = true) (hv' : v.isFinite = true) :
    Rounds (u.mul .binary64 v) (unpackedValue u * unpackedValue v) := by
  cases u with
  | notANumber => cases hu'
  | infinity s => cases hu'
  | zero s =>
    show Rounds _ (0 * unpackedValue v)
    rw [zero_mul]
    cases v with
    | notANumber => cases hv'
    | infinity t => cases hv'
    | zero t => exact rounds_zero _
    | finite t => exact rounds_zero _
  | finite s m e hm =>
    cases v with
    | notANumber => cases hv'
    | infinity t => cases hv'
    | zero t =>
      show Rounds _ (unpackedValue (.finite s m e hm) * 0)
      rw [mul_zero]
      exact rounds_zero _
    | finite t m' e' hm' =>
      have hcanonical := (hu s m e hm rfl).1
      have hcanonical' := (hv t m' e' hm' rfl).1
      have hv : (0 : ℝ) < (m * m' : ℕ) * 2 ^ (e + e') :=
        mul_pos (Nat.cast_pos.mpr (Nat.mul_pos hm hm')) (two_zpow_pos _)
      have hunits : ((m * m' : ℕ) : ℝ) * 2 ^ (e + e') / 2 ^ (e + e') = (m * m' : ℕ) :=
        mul_div_cancel_right₀ _ (two_zpow_pos _).ne'
      have hproduct := rounds_roundWithAccuracy (s * t) hv (hunits ▸ describes_exact (m * m'))
        (add_le_lastPlace hm hm' hcanonical hcanonical')
      have hvalue : ((((s * t).apply 1 : ℤ) : ℝ) * ((m * m' : ℕ) * 2 ^ (e + e')) : ℝ)
          = ((s.apply m : ℤ) : ℝ) * 2 ^ e * (((t.apply m' : ℤ) : ℝ) * 2 ^ e') := by
        rw [← apply_mul_apply, apply_eq_mul s m, apply_eq_mul t m', zpow_add₀ two_ne_zero]
        push_cast
        ring
      rw [hvalue, EReal.coe_mul] at hproduct
      exact hproduct

theorem sub_le_log_div {v w : ℝ} (hv : 0 < v) (hw : 0 < w) :
    Int.log 2 v - Int.log 2 w - 1 ≤ Int.log 2 (v / w) := by
  have hle : (2 : ℝ) ^ (Int.log 2 v - Int.log 2 w - 1) ≤ v / w := by
    have hlower : (2 : ℝ) ^ Int.log 2 v ≤ v := by
      exact_mod_cast Int.zpow_log_le_self one_lt_two hv
    have hupper : w ≤ (2 : ℝ) ^ (Int.log 2 w + 1) := by
      exact_mod_cast (Int.lt_zpow_succ_log_self one_lt_two w).le
    rw [sub_sub, zpow_sub₀ two_ne_zero]
    exact div_le_div₀ hv.le hlower hw hupper
  exact (Int.zpow_le_iff_le_log one_lt_two (div_pos hv hw)).mp (by exact_mod_cast hle)

/-- The quotient is described by a mantissa and an exponent before the last place. -/
theorem divCore_spec {m m' : ℕ} (e e' : ℤ) (hm : 0 < m) (hm' : 0 < m') :
    ∃ (q : ℕ) (t : ℤ) (accuracy : Accuracy), divCore .binary64 m e m' e' = (q, t, accuracy)
      ∧ Describes (ExtendedMantissa.ofMantissaAndAccuracy q accuracy)
        ((m * 2 ^ e : ℝ) / (m' * 2 ^ e') / 2 ^ t)
      ∧ t ≤ lastPlace ((m * 2 ^ e : ℝ) / (m' * 2 ^ e')) := by
  set p := Float.Model.Format.binary64.targetExponent
    (Float.Model.totalExponent m e - Float.Model.totalExponent m' e') with hp
  have hdigits : p = max (m.log2 + e - m'.log2 - e' - 53) (-1074) := by
    have hmin : Float.Model.Format.binary64.minExponent = -1074 := by decide
    have hbits : (Float.Model.Format.binary64.mantissaBits : ℤ) = 53 := by decide
    rw [hp, Float.Model.Format.targetExponent, hmin, hbits, Float.Model.totalExponent,
      Float.Model.totalExponent]
    congr 2
    omega
  set t := min (e - e') p with ht
  have hscaled : (m * 2 ^ e : ℝ) / (m' * 2 ^ e') / 2 ^ t
      = ((m * 2 ^ (e - e' - t).toNat : ℕ) : ℝ) / m' := by
    have hshift := mul_two_pow_mul_two_zpow (m : ℝ) (e - e') t
    rw [min_eq_right (min_le_left (e - e') p)] at hshift
    have hsplit : (m * 2 ^ e : ℝ) = m * 2 ^ (e - e' - t).toNat * 2 ^ t * 2 ^ e' := by
      rw [hshift, mul_assoc, ← zpow_add₀ two_ne_zero, sub_add_cancel]
    rw [hsplit, mul_div_mul_right _ _ (two_zpow_pos e').ne', div_right_comm,
      mul_div_cancel_right₀ _ (two_zpow_pos t).ne', Nat.cast_mul, Nat.cast_pow, Nat.cast_ofNat]
  refine ⟨m * 2 ^ (e - e' - t).toNat / m', t,
    accuracyOfFraction (m * 2 ^ (e - e' - t).toNat % m') m', ?_, ?_, ?_⟩
  · unfold divCore
    simp only [Nat.shiftLeft_eq]
    rfl
  · rw [hscaled]
    exact describes_div _ hm'
  · have hlog := sub_le_log_div (mul_pos (Nat.cast_pos.mpr hm) (two_zpow_pos e))
      (mul_pos (Nat.cast_pos.mpr hm') (two_zpow_pos e'))
    rw [log_mul_two_zpow hm.ne', log_mul_two_zpow hm'.ne'] at hlog
    unfold lastPlace
    omega

/-- **Quotients by a positive number are rounded.** -/
theorem rounds_div {u : UnpackedFloat} (hu : IsStored u) (h : u ≠ .notANumber) {m' : ℕ} (e' : ℤ)
    (hm' : 0 < m') : Rounds (u.div .binary64 (.finite .positive m' e' hm'))
      (unpackedValue u / (m' * 2 ^ e' : ℝ)) := by
  have hw : (0 : ℝ) < m' * 2 ^ e' := mul_pos (Nat.cast_pos.mpr hm') (two_zpow_pos e')
  cases u with
  | notANumber => exact absurd rfl h
  | infinity s =>
    cases s with
    | negative =>
      show Rounds (.infinity .negative) (⊥ / _)
      rw [EReal.bot_div_of_pos_ne_top (EReal.coe_pos.mpr hw) (EReal.coe_ne_top _)]
      exact rounds_infinity .negative
    | positive =>
      show Rounds (.infinity .positive) (⊤ / _)
      rw [EReal.top_div_of_pos_ne_top (EReal.coe_pos.mpr hw) (EReal.coe_ne_top _)]
      exact rounds_infinity .positive
  | zero s =>
    show Rounds (.zero _) (0 / _)
    rw [EReal.zero_div]
    exact rounds_zero _
  | finite s m e hm =>
    have hv : (0 : ℝ) < m * 2 ^ e := mul_pos (Nat.cast_pos.mpr hm) (two_zpow_pos e)
    obtain ⟨q, t, accuracy, hcore, hdescribes, hplace⟩ := divCore_spec e e' hm hm'
    have hquotient := rounds_roundWithAccuracy (s / .positive) (div_pos hv hw) hdescribes hplace
    have hsign : s / .positive = s := by cases s <;> rfl
    have hvalue : ((s.apply 1 : ℤ) : ℝ) * ((m * 2 ^ e : ℝ) / (m' * 2 ^ e'))
        = ((s.apply m : ℤ) : ℝ) * 2 ^ e / (m' * 2 ^ e') := by
      rw [apply_eq_mul s m, Int.cast_mul, Int.cast_natCast, mul_assoc, ← mul_div_assoc]
    rw [hsign, hvalue, EReal.coe_div] at hquotient
    unfold div
    simp only [hcore, hsign]
    exact hquotient

end AgvDispatch.Double
