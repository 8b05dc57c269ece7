import AgvDispatch.Proofs.Scalar.Value
/-!
# Numbers without a minus sign

Whether a quotient is positive depends on the sign of the divisor even where the divisor is a zero.
A number without a minus sign is a positive one, an infinity, the zero without a sign or the NaN.
The quotient of two such numbers is one as well, whether or not it is defined
(`Double.isUnsigned_div`).

Division by such a number keeps the order of two numbers once the smaller quotient is positive
(`Double.div_le_div_of_pos`): if the divisor is zero both are infinite, and if it is infinite
neither is positive.
-/

namespace AgvDispatch.Double

open Float.Model (Format UnpackedFloat)
open Float.Model.UnpackedFloat

/-- Whether there is no minus sign to an unpacked number. -/
def NoMinus (u : UnpackedFloat) : Prop := u.abs = u

/-- **Whether there is no minus sign to a double precision number**, be it a zero, an infinity or
the NaN. -/
def IsUnsigned (x : Float) : Prop := NoMinus x.toModel.unpack

namespace NoMinus

theorem roundWithAccuracy (m : ℕ) (e : ℤ) (accuracy : Accuracy) :
    NoMinus (roundWithAccuracy .binary64 .positive m e accuracy) := by
  unfold UnpackedFloat.roundWithAccuracy
  dsimp only
  split <;> rfl

theorem unpack_packComponents (exponent : BitVec 11) (mantissa : BitVec 52) :
    NoMinus (unpack .binary64 (packComponents .binary64 .positive exponent mantissa)) := by
  unfold unpack
  simp only [unpackExponent_packComponents, unpackMantissa_packComponents,
    unpackSign_packComponents, Sign.ofBitVec_toBitVec]
  split
  · split <;> rfl
  · split
    · split <;> rfl
    · rfl

/-- A sign is not changed where a number is stored. -/
theorem store {u : UnpackedFloat} (h : NoMinus u) : NoMinus (store u) := by
  cases u with
  | notANumber =>
    rw [store_notANumber]
    rfl
  | infinity s =>
    rw [store_infinity]
    exact h
  | zero s =>
    rw [store_zero]
    exact h
  | finite s m e hm =>
    obtain ⟨hs, -⟩ := finite.inj h
    rw [← hs]
    unfold Double.store pack
    dsimp only
    split
    · exact unpack_packComponents _ _
    · split
      · exact unpack_packComponents _ _
      · exact unpack_packComponents _ _

theorem mul {u v : UnpackedFloat} (hu : NoMinus u) (hv : NoMinus v) :
    NoMinus (u.mul .binary64 v) := by
  rw [← hu, ← hv]
  cases u <;> cases v <;> first | rfl | exact roundWithAccuracy _ _ _

theorem div {u v : UnpackedFloat} (hu : NoMinus u) (hv : NoMinus v) :
    NoMinus (u.div .binary64 v) := by
  rw [← hu, ← hv]
  cases u <;> cases v <;> first | rfl | exact roundWithAccuracy _ _ _

theorem ofNat (n : ℕ) : NoMinus (ofNat .binary64 n) := by
  unfold UnpackedFloat.ofNat ofInt UnpackedFloat.normalize
  split
  · rename_i h
    exact absurd (Int.compare_eq_lt.mp h) (by omega)
  · rfl
  · exact roundWithAccuracy _ _ _

end NoMinus

theorem isUnsigned_div {x y : Float} (hx : IsUnsigned x) (hy : IsUnsigned y) :
    IsUnsigned (x / y) :=
  (hx.div hy).store

theorem isUnsigned_natCast (n : ℕ) : IsUnsigned (n : Float) := by
  show IsUnsigned (Float.ofScientific n false 0)
  unfold Float.ofScientific
  split
  · show NoMinus (store (UnpackedFloat.mul .binary64 (store _) _))
    have hone : NoMinus (Float.exactlyRepresentablePowersOfTen[0]).toModel.unpack := by
      unfold NoMinus
      rfl
    exact (NoMinus.mul (NoMinus.ofNat _).store hone).store
  · show NoMinus (store (UnpackedFloat.ofScientific .binary64 n 0))
    refine NoMinus.store ?_
    unfold UnpackedFloat.ofScientific
    split
    · rfl
    split
    · rfl
    split
    · rfl
    split
    · exact NoMinus.mul rfl rfl
    · exact NoMinus.div rfl rfl

theorem isUnsigned_of_pos {x : Float} (h : 0 < x) : IsUnsigned x := by
  obtain ⟨-, -, hpos⟩ := lt_iff_value.mp h
  unfold value at hpos
  unfold IsUnsigned
  cases hu : x.toModel.unpack with
  | notANumber => rfl
  | infinity s =>
    rw [hu] at hpos
    cases s
    · exact absurd hpos EReal.bot_lt_zero.not_gt
    · rfl
  | zero s =>
    rw [hu] at hpos
    exact absurd hpos (lt_irrefl _)
  | finite s m e hm =>
    rw [hu] at hpos
    cases s
    · exact absurd hpos (unpackedValue_negative_neg e hm).not_gt
    · rfl

section Division

variable {x y w : Float}

/-- A positive number divided by zero is infinite. -/
theorem value_div_zero_of_pos (hx : IsNumber x) (hpos : 0 < value x)
    (hw : w.toModel.unpack = .zero .positive) : IsNumber (x / w) ∧ value (x / w) = ⊤ := by
  have hunsigned := isUnsigned_of_pos (lt_iff_value.mpr ⟨isNumber_zero, hx, hpos⟩)
  have hdiv : x.toModel.unpack.div .binary64 (.zero .positive) = .infinity .positive := by
    unfold IsUnsigned at hunsigned
    unfold IsNumber at hx
    unfold value at hpos
    cases hu : x.toModel.unpack with
    | notANumber => exact absurd hu hx
    | zero s =>
      rw [hu] at hpos
      exact absurd hpos (lt_irrefl _)
    | infinity s =>
      rw [hu] at hunsigned
      rw [← hunsigned]
      rfl
    | finite s m e hm =>
      rw [hu] at hunsigned
      rw [← hunsigned]
      rfl
  unfold IsNumber value
  rw [unpack_div, hw, hdiv]
  exact ⟨(rounds_infinity .positive).ne_notANumber, (rounds_infinity .positive).value_eq⟩

theorem pos_of_div_zero_pos (hw : w.toModel.unpack = .zero .positive) (h : 0 < x / w) :
    0 < value x := by
  obtain ⟨-, hnumber, hpos⟩ := lt_iff_value.mp h
  have hbot : ¬0 < unpackedValue (store (.infinity .negative)) := by
    rw [store_infinity]
    exact EReal.bot_lt_zero.not_gt
  unfold IsNumber at hnumber
  unfold value at hpos ⊢
  rw [unpack_div, hw] at hnumber hpos
  cases hu : x.toModel.unpack with
  | notANumber =>
    rw [hu] at hnumber
    exact absurd store_notANumber hnumber
  | zero s =>
    rw [hu] at hnumber
    exact absurd store_notANumber hnumber
  | infinity s =>
    rw [hu] at hpos
    cases s with
    | negative =>
      exact absurd hpos hbot
    | positive => exact EReal.zero_lt_top
  | finite s m e hm =>
    rw [hu] at hpos
    cases s with
    | negative =>
      exact absurd hpos hbot
    | positive => exact unpackedValue_positive_pos e hm

/-- Nothing is left of a number that is divided by infinity. -/
theorem not_pos_div_infinity {s : Sign} (hw : w.toModel.unpack = .infinity s) : ¬0 < x / w := by
  intro h
  obtain ⟨-, hnumber, hpos⟩ := lt_iff_value.mp h
  unfold IsNumber at hnumber
  unfold value at hpos
  rw [unpack_div, hw] at hnumber hpos
  cases hu : x.toModel.unpack with
  | notANumber =>
    rw [hu] at hnumber
    exact hnumber store_notANumber
  | infinity t =>
    rw [hu] at hnumber
    exact hnumber store_notANumber
  | zero t =>
    rw [hu, UnpackedFloat.div, (rounds_zero _).value_eq, round_zero] at hpos
    exact lt_irrefl _ hpos
  | finite t =>
    rw [hu, UnpackedFloat.div, (rounds_zero _).value_eq, round_zero] at hpos
    exact lt_irrefl _ hpos

/-- A quotient by a number without a minus sign is positive only if the dividend is. -/
theorem pos_of_div_pos (hw : IsUnsigned w) (h : 0 < x / w) : 0 < value x := by
  obtain ⟨-, hnumber, hpos⟩ := lt_iff_value.mp h
  obtain ⟨hx, hw'⟩ := isNumber_of_div hnumber
  unfold IsUnsigned at hw
  cases hu : w.toModel.unpack with
  | notANumber => exact absurd hu hw'
  | infinity s => exact absurd h (not_pos_div_infinity hu)
  | zero s =>
    rw [hu] at hw
    obtain rfl : Sign.positive = s := zero.inj hw
    exact pos_of_div_zero_pos hu h
  | finite s m e hm =>
    rw [hu] at hw
    obtain ⟨rfl, -⟩ := finite.inj hw
    by_contra hle
    have hw' : 0 ≤ value w := by
      rw [value, hu]
      exact (unpackedValue_positive_pos e hm).le
    have hquotient : value x / value w ≤ 0 := by
      rw [← EReal.zero_div (a := value w)]
      exact EReal.div_le_div_right_of_nonneg hw' (not_lt.mp hle)
    rw [value_zero, (value_div hx hu).2] at hpos
    exact absurd ((round_mono hquotient).trans round_zero.le) hpos.not_ge

/-- **Division by a number without a minus sign keeps the order** as soon as the smaller one of the
quotients is positive. -/
theorem div_le_div_of_pos (hw : IsUnsigned w) (h : x ≤ y) (hpos : 0 < x / w) :
    x / w ≤ y / w := by
  obtain ⟨hx, hy, hle⟩ := le_iff_value.mp h
  obtain ⟨-, hnumber, -⟩ := lt_iff_value.mp hpos
  unfold IsUnsigned at hw
  cases hu : w.toModel.unpack with
  | notANumber => exact absurd hu (isNumber_of_div hnumber).2
  | infinity s => exact absurd hpos (not_pos_div_infinity hu)
  | zero s =>
    rw [hu] at hw
    obtain rfl : Sign.positive = s := zero.inj hw
    obtain ⟨hyw, htop⟩ := value_div_zero_of_pos hy ((pos_of_div_zero_pos hu hpos).trans_le hle) hu
    exact le_iff_value.mpr ⟨hnumber, hyw, by rw [htop]; exact le_top⟩
  | finite s m e hm =>
    rw [hu] at hw
    obtain ⟨rfl, -⟩ := finite.inj hw
    obtain ⟨hxw, hxw'⟩ := value_div hx hu
    obtain ⟨hyw, hyw'⟩ := value_div hy hu
    have hw' : 0 ≤ value w := by
      rw [value, hu]
      exact (unpackedValue_positive_pos e hm).le
    refine le_iff_value.mpr ⟨hxw, hyw, ?_⟩
    rw [hxw', hyw']
    exact round_mono (EReal.div_le_div_right_of_nonneg hw' hle)

end Division

end AgvDispatch.Double
