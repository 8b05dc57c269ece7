import AgvDispatch.Proofs.Scalar.Arithmetic
/-!
# The values of double precision numbers

What comparisons and operations on double precision numbers say about their values, which are
extended real numbers. Only the NaN is not a number and has no value of its own.

* Two numbers are compared like their values (`Double.lt_iff_value`, `Double.le_iff_value`,
  `Double.beq_iff_value`), and comparisons with the NaN are false.
* The value of a sum or of a difference that is a number is that of the values, rounded
  (`Double.value_add`, `Double.value_sub`), and likewise for products of finite numbers and for
  quotients by positive ones.
* Whole parts ascend from the first positive number on (`Double.floor_mono`).
-/

namespace AgvDispatch.Double

open Float.Model (UnpackedFloat)
open Float.Model.UnpackedFloat

/-! ### Comparisons -/

theorem unpackedValue_positive {m : ℕ} (e : ℤ) (hm : 0 < m) :
    unpackedValue (.finite .positive m e hm) = (m * 2 ^ e : ℝ) := by
  show ((((m : ℕ) : ℤ) : ℝ) * 2 ^ e : ℝ) = ((m * 2 ^ e : ℝ) : EReal)
  rw [Int.cast_natCast]

theorem unpackedValue_negative {m : ℕ} (e : ℤ) (hm : 0 < m) :
    unpackedValue (.finite .negative m e hm) = (-(m * 2 ^ e) : ℝ) := by
  show (((-((m : ℕ) : ℤ) : ℤ) : ℝ) * 2 ^ e : ℝ) = ((-(m * 2 ^ e) : ℝ) : EReal)
  rw [Int.cast_neg, Int.cast_natCast, neg_mul]

/-- A number with a smaller exponent is smaller. -/
theorem mul_two_zpow_lt_of_lt {m m' : ℕ} {e e' : ℤ} (h : IsCanonical m e) (h' : IsCanonical m' e')
    (he : e < e') : (m : ℝ) * 2 ^ e < m' * 2 ^ e' := by
  have hle := h.le_exponent
  have hm : (m : ℝ) < 2 ^ (53 : ℤ) := by exact_mod_cast h.mantissa_lt
  have hm' : (2 : ℝ) ^ (52 : ℤ) ≤ m' := by exact_mod_cast h'.full.resolve_right (by omega)
  calc (m : ℝ) * 2 ^ e < 2 ^ (53 : ℤ) * 2 ^ e := mul_lt_mul_of_pos_right hm (two_zpow_pos e)
    _ = 2 ^ (52 : ℤ) * 2 ^ (e + 1) := by
      rw [← zpow_add₀ two_ne_zero, ← zpow_add₀ two_ne_zero]
      congr 1
      omega
    _ ≤ m' * 2 ^ e' :=
      mul_le_mul hm' (zpow_le_zpow_right₀ one_le_two he) (two_zpow_pos _).le (Nat.cast_nonneg _)

/-- Numbers are compared by exponent and then by mantissa. -/
theorem compare_parts {m m' : ℕ} {e e' : ℤ} (h : IsCanonical m e) (h' : IsCanonical m' e') :
    (compare e e').then (compare m m') = cmp ((m : ℝ) * 2 ^ e) (m' * 2 ^ e') := by
  rcases lt_trichotomy e e' with he | rfl | he
  · rw [Int.compare_eq_lt.mpr he, (cmp_eq_lt_iff _ _).mpr (mul_two_zpow_lt_of_lt h h' he)]
    rfl
  · have hscale : StrictMono fun n : ℕ => (n : ℝ) * 2 ^ e := fun a b hab =>
      mul_lt_mul_of_pos_right (Nat.cast_lt.mpr hab) (two_zpow_pos e)
    rw [Int.compare_eq_eq.mpr rfl, ← cmp_eq_compare]
    exact (hscale.cmp_map_eq m m').symm
  · rw [Int.compare_eq_gt.mpr he, (cmp_eq_gt_iff _ _).mpr (mul_two_zpow_lt_of_lt h' h he)]
    rfl

theorem unpackedValue_positive_pos {m : ℕ} (e : ℤ) (hm : 0 < m) :
    0 < unpackedValue (.finite .positive m e hm) := by
  rw [unpackedValue_positive]
  exact EReal.coe_pos.mpr (mul_pos (Nat.cast_pos.mpr hm) (two_zpow_pos e))

theorem unpackedValue_negative_neg {m : ℕ} (e : ℤ) (hm : 0 < m) :
    unpackedValue (.finite .negative m e hm) < 0 := by
  rw [unpackedValue_negative]
  exact EReal.coe_neg'.mpr (neg_lt_zero.mpr (mul_pos (Nat.cast_pos.mpr hm) (two_zpow_pos e)))

theorem cmp_of_lt {x y : EReal} (h : x < y) : some Ordering.lt = some (cmp x y) :=
  congrArg some ((cmp_eq_lt_iff x y).mpr h).symm

theorem cmp_of_gt {x y : EReal} (h : y < x) : some Ordering.gt = some (cmp x y) :=
  congrArg some ((cmp_eq_gt_iff x y).mpr h).symm

theorem cmp_of_eq {x y : EReal} (h : x = y) : some Ordering.eq = some (cmp x y) :=
  congrArg some ((cmp_eq_eq_iff x y).mpr h).symm

/-- **Numbers are compared by value.** -/
theorem compare_eq {u v : UnpackedFloat} (hu : IsStored u) (hv : IsStored v)
    (hu' : u ≠ .notANumber) (hv' : v ≠ .notANumber) :
    u.compare v = some (cmp (unpackedValue u) (unpackedValue v)) := by
  cases u with
  | notANumber => exact absurd rfl hu'
  | infinity s =>
    cases v with
    | notANumber => exact absurd rfl hv'
    | infinity t =>
      cases s <;> cases t
      · exact cmp_of_eq rfl
      · exact cmp_of_lt bot_lt_top
      · exact cmp_of_gt bot_lt_top
      · exact cmp_of_eq rfl
    | zero t =>
      cases s
      · exact cmp_of_lt EReal.bot_lt_zero
      · exact cmp_of_gt EReal.zero_lt_top
    | finite t m' e' hm' =>
      cases s
      · exact cmp_of_lt (EReal.bot_lt_coe _)
      · exact cmp_of_gt (EReal.coe_lt_top _)
  | zero s =>
    cases v with
    | notANumber => exact absurd rfl hv'
    | infinity t =>
      cases t
      · exact cmp_of_gt EReal.bot_lt_zero
      · exact cmp_of_lt EReal.zero_lt_top
    | zero t => exact cmp_of_eq rfl
    | finite t m' e' hm' =>
      cases t
      · exact cmp_of_gt (unpackedValue_negative_neg e' hm')
      · exact cmp_of_lt (unpackedValue_positive_pos e' hm')
  | finite s m e hm =>
    cases v with
    | notANumber => exact absurd rfl hv'
    | infinity t =>
      cases s <;> cases t
      · exact cmp_of_gt (EReal.bot_lt_coe _)
      · exact cmp_of_lt (EReal.coe_lt_top _)
      · exact cmp_of_gt (EReal.bot_lt_coe _)
      · exact cmp_of_lt (EReal.coe_lt_top _)
    | zero t =>
      cases s
      · exact cmp_of_lt (unpackedValue_negative_neg e hm)
      · exact cmp_of_gt (unpackedValue_positive_pos e hm)
    | finite t m' e' hm' =>
      have hparts := compare_parts (hu s m e hm rfl).1 (hv t m' e' hm' rfl).1
      cases s <;> cases t
      · -- Of two negative numbers the one with the larger size is less.
        have hneg : StrictAnti fun x : ℝ => -x := fun _ _ hlt => neg_lt_neg hlt
        have hcmp := hneg.cmp_map_eq ((m : ℝ) * 2 ^ e) (m' * 2 ^ e')
        rw [unpackedValue_negative, unpackedValue_negative, EReal.coe_strictMono.cmp_map_eq, hcmp,
          ← cmp_swap, ← hparts]
        rfl
      · exact cmp_of_lt
          ((unpackedValue_negative_neg e hm).trans (unpackedValue_positive_pos e' hm'))
      · exact cmp_of_gt
          ((unpackedValue_negative_neg e' hm').trans (unpackedValue_positive_pos e hm))
      · rw [unpackedValue_positive, unpackedValue_positive, EReal.coe_strictMono.cmp_map_eq,
          ← hparts]
        rfl

/-! ### Double precision numbers -/

/-- Whether a double precision number is a number. -/
def IsNumber (x : Float) : Prop := x.toModel.unpack ≠ .notANumber

/-- The value of a double precision number, and zero for the NaN. -/
noncomputable def value (x : Float) : EReal := unpackedValue x.toModel.unpack

variable {x y : Float}

/-- What a comparison of two numbers says is said of their values. -/
theorem compare_unpack_eq_some {x y : Float} {o : Ordering} :
    x.toModel.unpack.compare y.toModel.unpack = some o
      ↔ IsNumber x ∧ IsNumber y ∧ cmp (value x) (value y) = o := by
  by_cases hx : x.toModel.unpack = .notANumber
  · rw [hx]
    exact ⟨fun h => (by cases h), fun h => absurd hx h.1⟩
  by_cases hy : y.toModel.unpack = .notANumber
  · have hnone : x.toModel.unpack.compare .notANumber = none := by
      cases x.toModel.unpack <;> rfl
    rw [hy, hnone]
    exact ⟨fun h => (by cases h), fun h => absurd hy h.2.1⟩
  rw [compare_eq (isStored_unpack x) (isStored_unpack y) hx hy, Option.some.injEq]
  exact ⟨fun h => ⟨hx, hy, h⟩, fun h => h.2.2⟩

theorem lt_iff_value : x < y ↔ IsNumber x ∧ IsNumber y ∧ value x < value y := by
  rw [lt_iff, UnpackedFloat.lt, beq_iff_eq, compare_unpack_eq_some, cmp_eq_lt_iff]

theorem beq_iff_value : (x == y) = true ↔ IsNumber x ∧ IsNumber y ∧ value x = value y := by
  have hbeq : (x == y) = x.toModel.unpack.beq y.toModel.unpack := rfl
  rw [hbeq, UnpackedFloat.beq, beq_iff_eq, compare_unpack_eq_some, cmp_eq_eq_iff]

theorem le_iff_value : x ≤ y ↔ IsNumber x ∧ IsNumber y ∧ value x ≤ value y := by
  have hle : x ≤ y ↔ x < y ∨ (x == y) = true := by
    have hbeq : (x == y) = x.toModel.unpack.beq y.toModel.unpack := rfl
    rw [le_iff, lt_iff, hbeq, UnpackedFloat.le, UnpackedFloat.lt, UnpackedFloat.beq]
    rcases x.toModel.unpack.compare y.toModel.unpack with _ | _ | _ | _ <;> decide
  rw [hle, lt_iff_value, beq_iff_value, le_iff_lt_or_eq, and_or_left, and_or_left]

/-- Rounding does not change a double precision number. -/
theorem round_value (x : Float) : round (value x) = value x :=
  round_unpackedValue (isStored_unpack x)

theorem isNumber_zero : IsNumber 0 := UnpackedFloat.noConfusion

@[simp] theorem value_zero : value 0 = 0 := rfl

theorem value_one : value 1 = 1 := by
  have hunpack : (1 : Float).toModel.unpack = .finite .positive (2 ^ 52) (-52) (by decide) := rfl
  rw [value, hunpack, unpackedValue_positive, ← EReal.coe_one]
  congr 1
  rw [Nat.cast_pow, Nat.cast_ofNat, ← zpow_natCast, ← zpow_add₀ two_ne_zero]
  rfl

theorem isFinite_iff : x.isFinite = true ↔ IsNumber x ∧ value x ≠ ⊥ ∧ value x ≠ ⊤ := by
  have hfinite : x.isFinite = x.toModel.unpack.isFinite := rfl
  unfold IsNumber value
  rw [hfinite]
  cases x.toModel.unpack with
  | notANumber => simp [UnpackedFloat.isFinite]
  | infinity s => cases s <;> simp [UnpackedFloat.isFinite, unpackedValue]
  | zero s => simp [UnpackedFloat.isFinite, unpackedValue]
  | finite s m e hm =>
    exact iff_of_true rfl ⟨UnpackedFloat.noConfusion, EReal.coe_ne_bot _, EReal.coe_ne_top _⟩

/-! ### Arithmetic -/

theorem unpack_add (x y : Float) : (x + y).toModel.unpack
    = store (x.toModel.unpack.add .binary64 y.toModel.unpack) := rfl

theorem unpack_sub (x y : Float) : (x - y).toModel.unpack
    = store (x.toModel.unpack.sub .binary64 y.toModel.unpack) := rfl

theorem unpack_mul (x y : Float) : (x * y).toModel.unpack
    = store (x.toModel.unpack.mul .binary64 y.toModel.unpack) := rfl

theorem unpack_div (x y : Float) : (x / y).toModel.unpack
    = store (x.toModel.unpack.div .binary64 y.toModel.unpack) := rfl

theorem store_eq_notANumber_of_eq {u : UnpackedFloat} (h : u = .notANumber) :
    store u = .notANumber := by
  rw [h, store_notANumber]

/-- Only infinities of opposite signs have no sum. -/
theorem add_ne_notANumber_iff {u v : UnpackedFloat} : u.add .binary64 v ≠ .notANumber
    ↔ (u ≠ .notANumber ∧ v ≠ .notANumber) ∧ (unpackedValue u ≠ ⊥ ∨ unpackedValue v ≠ ⊤)
      ∧ (unpackedValue u ≠ ⊤ ∨ unpackedValue v ≠ ⊥) := by
  cases u with
  | notANumber => exact iff_of_false (fun h => h rfl) (fun h => h.1.1 rfl)
  | infinity s =>
    cases v with
    | notANumber => exact iff_of_false (fun h => h rfl) (fun h => h.1.2 rfl)
    | infinity t => cases s <;> cases t <;> simp [add, unpackedValue]
    | zero t => simp [add, unpackedValue]
    | finite t m e hm =>
      refine iff_of_true UnpackedFloat.noConfusion
        ⟨⟨UnpackedFloat.noConfusion, UnpackedFloat.noConfusion⟩, Or.inr ?_, Or.inr ?_⟩
      · exact EReal.coe_ne_top _
      · exact EReal.coe_ne_bot _
  | zero s =>
    cases v with
    | notANumber => exact iff_of_false (fun h => h rfl) (fun h => h.1.2 rfl)
    | infinity t => simp [add, unpackedValue]
    | zero t => cases s <;> cases t <;> simp [add, unpackedValue]
    | finite t => simp [add, unpackedValue]
  | finite s m e hm =>
    have hfinite : unpackedValue (.finite s m e hm) ≠ ⊥ ∧ unpackedValue (.finite s m e hm) ≠ ⊤ :=
      ⟨EReal.coe_ne_bot _, EReal.coe_ne_top _⟩
    cases v with
    | notANumber => exact iff_of_false (fun h => h rfl) (fun h => h.1.2 rfl)
    | infinity t => simp [add, hfinite]
    | zero t => simp [add, hfinite]
    | finite t m' e' hm' =>
      have hnumber := (rounds_normalize (s.apply (m * 2 ^ (e - min e e').toNat : ℕ)
        + t.apply (m' * 2 ^ (e' - min e e').toNat : ℕ)) (min e e') .positive).ne_notANumber
      refine iff_of_true ?_ ⟨⟨UnpackedFloat.noConfusion, UnpackedFloat.noConfusion⟩,
        Or.inl hfinite.1, Or.inl hfinite.2⟩
      unfold add
      simp only [decreaseExponent_eq]
      exact mt store_eq_notANumber_of_eq hnumber

theorem isNumber_add_iff : IsNumber (x + y) ↔ (IsNumber x ∧ IsNumber y)
    ∧ (value x ≠ ⊥ ∨ value y ≠ ⊤) ∧ (value x ≠ ⊤ ∨ value y ≠ ⊥) := by
  unfold IsNumber value
  rw [← add_ne_notANumber_iff, unpack_add]
  exact ⟨mt store_eq_notANumber_of_eq,
    fun h => (rounds_add (isStored_unpack x) (isStored_unpack y) h).ne_notANumber⟩

/-- **Sums are rounded.** -/
theorem value_add (h : IsNumber (x + y)) : value (x + y) = round (value x + value y) :=
  (rounds_add (isStored_unpack x) (isStored_unpack y) (mt store_eq_notANumber_of_eq h)).value_eq

theorem isNumber_sub_iff : IsNumber (x - y) ↔ (IsNumber x ∧ IsNumber y)
    ∧ (value x ≠ ⊥ ∨ value y ≠ ⊥) ∧ (value x ≠ ⊤ ∨ value y ≠ ⊤) := by
  have hneg : y.toModel.unpack.neg ≠ .notANumber ↔ y.toModel.unpack ≠ .notANumber := by
    cases y.toModel.unpack <;> simp [UnpackedFloat.neg]
  have hadd := add_ne_notANumber_iff (u := x.toModel.unpack) (v := y.toModel.unpack.neg)
  rw [hneg, unpackedValue_neg, ne_eq (-_) ⊤, ne_eq (-_) ⊥, EReal.neg_eq_top_iff,
    EReal.neg_eq_bot_iff] at hadd
  unfold IsNumber value
  rw [unpack_sub, sub_eq_add]
  refine Iff.trans ?_ hadd
  exact ⟨mt store_eq_notANumber_of_eq,
    fun h => (rounds_add (isStored_unpack x) (isStored_unpack y).neg h).ne_notANumber⟩

/-- **Differences are rounded.** -/
theorem value_sub (h : IsNumber (x - y)) : value (x - y) = round (value x - value y) :=
  (rounds_sub (isStored_unpack x) (isStored_unpack y) (mt store_eq_notANumber_of_eq h)).value_eq

/-- **Products of finite numbers are rounded.** -/
theorem value_mul (hx : x.isFinite = true) (hy : y.isFinite = true) :
    IsNumber (x * y) ∧ value (x * y) = round (value x * value y) := by
  have h := rounds_mul (isStored_unpack x) (isStored_unpack y) hx hy
  exact ⟨h.ne_notANumber, h.value_eq⟩

theorem isNumber_of_div (h : IsNumber (x / y)) : IsNumber x ∧ IsNumber y := by
  unfold IsNumber at h ⊢
  rw [unpack_div] at h
  constructor
  · intro hx
    exact h (store_eq_notANumber_of_eq (by rw [hx]; rfl))
  · intro hy
    exact h (store_eq_notANumber_of_eq (by rw [hy]; cases x.toModel.unpack <;> rfl))

/-- **Quotients by a positive number are rounded.** -/
theorem value_div (hx : IsNumber x) {m : ℕ} {e : ℤ} {hm : 0 < m}
    (hy : y.toModel.unpack = .finite .positive m e hm) :
    IsNumber (x / y) ∧ value (x / y) = round (value x / value y) := by
  have h := rounds_div (isStored_unpack x) hx e hm
  have hvalue : value y = (m * 2 ^ e : ℝ) := by
    rw [value, hy, unpackedValue_positive]
  rw [← hy, ← hvalue] at h
  exact ⟨h.ne_notANumber, h.value_eq⟩

/-! ### Zeros -/

theorem exists_unpack_eq_zero (hx : IsNumber x) (h : value x = 0) :
    ∃ s, x.toModel.unpack = .zero s := by
  unfold IsNumber at hx
  unfold value at h
  cases hu : x.toModel.unpack with
  | notANumber => exact absurd hu hx
  | infinity s =>
    rw [hu] at h
    cases s
    · exact absurd h EReal.bot_lt_zero.ne
    · exact absurd h EReal.zero_lt_top.ne'
  | zero s => exact ⟨s, rfl⟩
  | finite s m e hm =>
    rw [hu] at h
    cases s
    · exact absurd h (unpackedValue_negative_neg e hm).ne
    · exact absurd h (unpackedValue_positive_pos e hm).ne'

/-- The product of a zero and anything is zero if it is a number. -/
theorem value_mul_of_value_eq_zero (h : value x = 0) (hxy : IsNumber (x * y)) :
    value (x * y) = 0 := by
  unfold IsNumber at hxy
  rw [unpack_mul] at hxy
  have hmul := mt store_eq_notANumber_of_eq hxy
  have hx : IsNumber x := fun hx => hmul (by rw [hx]; rfl)
  obtain ⟨s, hs⟩ := exists_unpack_eq_zero hx h
  rw [hs] at hmul
  rw [value, unpack_mul, hs]
  cases hy : y.toModel.unpack with
  | notANumber => exact absurd (by rw [hy]; rfl) hmul
  | infinity t => exact absurd (by rw [hy]; rfl) hmul
  | zero t => exact (rounds_zero _).value_eq.trans round_zero
  | finite t => exact (rounds_zero _).value_eq.trans round_zero

/-- A zero divided by anything but a zero is zero. -/
theorem value_div_of_value_eq_zero (hx : IsNumber x) (h : value x = 0) (hy : IsNumber y)
    (hy' : value y ≠ 0) : IsNumber (x / y) ∧ value (x / y) = 0 := by
  obtain ⟨s, hs⟩ := exists_unpack_eq_zero hx h
  obtain ⟨r, hr⟩ : ∃ r, x.toModel.unpack.div .binary64 y.toModel.unpack = .zero r := by
    unfold IsNumber at hy
    unfold value at hy'
    rw [hs]
    cases hu : y.toModel.unpack with
    | notANumber => exact absurd hu hy
    | infinity t => exact ⟨_, rfl⟩
    | zero t => exact absurd (by rw [hu]; rfl) hy'
    | finite t => exact ⟨_, rfl⟩
  unfold IsNumber value
  rw [unpack_div, hr]
  exact ⟨(rounds_zero r).ne_notANumber, (rounds_zero r).value_eq.trans round_zero⟩

theorem isFinite_of_value_eq_zero (hx : IsNumber x) (h : value x = 0) : x.isFinite = true := by
  rw [isFinite_iff, h]
  exact ⟨hx, EReal.bot_lt_zero.ne', EReal.zero_lt_top.ne⟩

theorem value_mul_eq_zero (hx : IsNumber x) (h : value x = 0) (hy : y.isFinite = true) :
    IsNumber (x * y) ∧ value (x * y) = 0 := by
  have hnumber := (value_mul (isFinite_of_value_eq_zero hx h) hy).1
  exact ⟨hnumber, value_mul_of_value_eq_zero h hnumber⟩

theorem value_sub_eq_zero (hx : x.isFinite = true) (h : (x == y) = true) :
    IsNumber (x - y) ∧ value (x - y) = 0 := by
  obtain ⟨hx', hy, heq⟩ := beq_iff_value.mp h
  obtain ⟨-, hbot, htop⟩ := isFinite_iff.mp hx
  have hnumber : IsNumber (x - y) := isNumber_sub_iff.mpr ⟨⟨hx', hy⟩, Or.inl hbot, Or.inl htop⟩
  refine ⟨hnumber, ?_⟩
  rw [value_sub hnumber, ← heq, EReal.sub_self htop hbot, round_zero]

theorem isNumber_add_of_value_eq_zero (hx : IsNumber x) (hy : IsNumber y) (h : value y = 0) :
    IsNumber (x + y) ∧ value (x + y) = value x := by
  have hnumber : IsNumber (x + y) := by
    rw [isNumber_add_iff, h]
    exact ⟨⟨hx, hy⟩, Or.inr EReal.zero_lt_top.ne, Or.inr EReal.bot_lt_zero.ne'⟩
  refine ⟨hnumber, ?_⟩
  rw [value_add hnumber, h, add_zero, round_value]

theorem value_add_zero_mul (h : IsNumber (x + 0 * y)) :
    IsNumber x ∧ value (x + 0 * y) = value x := by
  obtain ⟨⟨hx, hc⟩, -⟩ := isNumber_add_iff.mp h
  have hzero := value_mul_of_value_eq_zero value_zero hc
  exact ⟨hx, (isNumber_add_of_value_eq_zero hx hc hzero).2⟩

theorem value_one_mul (hx : x.isFinite = true) : value (1 * x) = value x := by
  have hone : (1 : Float).isFinite = true := rfl
  rw [(value_mul hone hx).2, value_one, one_mul, round_value]

/-- Nothing is added by a finite multiple of zero. -/
theorem beq_add_mul_of_value_eq_zero {x a t d : Float} (h : (x == a) = true) (ht : IsNumber t)
    (ht' : value t = 0) (hd : d.isFinite = true) : (x == a + t * d) = true := by
  obtain ⟨hx, ha, heq⟩ := beq_iff_value.mp h
  obtain ⟨hmul, hmul'⟩ := value_mul_eq_zero ht ht' hd
  obtain ⟨hadd, hadd'⟩ := isNumber_add_of_value_eq_zero ha hmul hmul'
  exact beq_iff_value.mpr ⟨hx, hadd, heq.trans hadd'.symm⟩

/-! ### The other operations -/

theorem isNaN_iff_not_isNumber : x.isNaN = true ↔ ¬IsNumber x := by
  have hnan : x.isNaN = x.toModel.unpack.isNaN := rfl
  rw [hnan, isNaN_iff, IsNumber, not_not]

/-- Of two numbers the minimum is the smaller one, and anything else gives way. -/
theorem minimum_le (x y : Float) :
    (IsNumber x → minimum x y ≤ x) ∧ (IsNumber y → minimum x y ≤ y) := by
  unfold minimum
  split
  · rename_i hlt
    obtain ⟨hx, hy, hle⟩ := lt_iff_value.mp hlt
    exact ⟨fun _ => le_iff_value.mpr ⟨hx, hx, le_rfl⟩, fun _ => le_iff_value.mpr ⟨hx, hy, hle.le⟩⟩
  · rename_i hlt
    split
    · rename_i hnan
      exact ⟨fun hx => le_iff_value.mpr ⟨hx, hx, le_rfl⟩,
        fun hy => absurd hy (isNaN_iff_not_isNumber.mp hnan)⟩
    · rename_i hnan
      have hy : IsNumber y := not_not.mp (mt isNaN_iff_not_isNumber.mpr hnan)
      refine ⟨fun hx => le_iff_value.mpr ⟨hy, hx, not_lt.mp fun hlt' => hlt ?_⟩,
        fun _ => le_iff_value.mpr ⟨hy, hy, le_rfl⟩⟩
      exact lt_iff_value.mpr ⟨hx, hy, hlt'⟩

/-- Of two numbers the maximum is the greater one. -/
theorem le_maximum (x y : Float) :
    (IsNumber x → x ≤ maximum x y) ∧ (IsNumber y → y ≤ maximum x y) := by
  unfold maximum
  split
  · rename_i hlt
    obtain ⟨hy, hx, hle⟩ := lt_iff_value.mp hlt
    exact ⟨fun _ => le_iff_value.mpr ⟨hx, hx, le_rfl⟩, fun _ => le_iff_value.mpr ⟨hy, hx, hle.le⟩⟩
  · rename_i hlt
    split
    · rename_i hnan
      exact ⟨fun hx => le_iff_value.mpr ⟨hx, hx, le_rfl⟩,
        fun hy => absurd hy (isNaN_iff_not_isNumber.mp hnan)⟩
    · rename_i hnan
      have hy : IsNumber y := not_not.mp (mt isNaN_iff_not_isNumber.mpr hnan)
      refine ⟨fun hx => le_iff_value.mpr ⟨hx, hy, not_lt.mp fun hlt' => hlt ?_⟩,
        fun _ => le_iff_value.mpr ⟨hy, hy, le_rfl⟩⟩
      exact lt_iff_value.mpr ⟨hy, hx, hlt'⟩

/-- The hypotenuse over two legs without extent has none. -/
theorem hypot_eq_zero (hx : IsNumber x) (hx' : value x = 0) (hy : IsNumber y)
    (hy' : value y = 0) : hypot x y = 0 := by
  have habs : ∀ z : Float, IsNumber z → value z = 0 → z.abs = 0 := by
    intro z hz hz'
    obtain ⟨s, hs⟩ := exists_unpack_eq_zero hz hz'
    show Float.ofModel (Float.Model.pack z.toModel.unpack.abs) = 0
    rw [hs]
    rfl
  unfold hypot
  rw [habs x hx hx', habs y hy hy']
  rfl

/-! ### Whole parts -/

/-- A number is cut off after its point. -/
theorem roundToInt_positive (m : ℕ) (e : ℤ) :
    roundToInt .positive m e = ⌊(m : ℝ) * 2 ^ e⌋₊ := by
  have hdescribes := (describes_exact (m * 2 ^ (e - 0).toNat)).shiftRight (0 - min e 0).toNat
  have hvalue : ((m * 2 ^ (e - 0).toNat : ℕ) : ℝ) / 2 ^ (0 - min e 0).toNat = m * 2 ^ e := by
    have hplace : (2 : ℝ) ^ (0 - min e 0).toNat = (2 ^ min e 0)⁻¹ := by
      have hexponent : ((0 - min e 0).toNat : ℤ) = -min e 0 := by omega
      rw [← zpow_natCast, hexponent, zpow_neg]
    rw [hplace, div_inv_eq_mul, Nat.cast_mul, Nat.cast_pow, Nat.cast_ofNat,
      mul_two_pow_mul_two_zpow]
  rw [hvalue] at hdescribes
  rw [hdescribes.floor_eq]
  unfold roundToInt shiftToExponent
  simp only [decreaseExponent_eq]
  rfl

theorem toNat_ofNatClamp (n : ℕ) : (UInt64.ofNatClamp n).toNat = min n (2 ^ 64 - 1) := by
  unfold UInt64.ofNatClamp
  split
  · rename_i h
    have hlt : n < 2 ^ 64 := h
    rw [UInt64.toNat_ofNatLT]
    omega
  · rename_i h
    have hle : ¬n < 2 ^ 64 := h
    have hmax : (UInt64.ofNatLT (UInt64.size - 1) (by decide)).toNat = 2 ^ 64 - 1 := rfl
    rw [hmax]
    omega

/-- The whole part of a positive number, as far as it can be counted. -/
noncomputable def whole (v : EReal) : ℕ :=
  if v = ⊤ then 2 ^ 64 - 1 else min ⌊v.toReal⌋₊ (2 ^ 64 - 1)

theorem whole_mono {v w : EReal} (hv : 0 < v) (h : v ≤ w) : whole v ≤ whole w := by
  unfold whole
  split_ifs with hv' hw hw
  · exact le_rfl
  · exact absurd (top_le_iff.mp (hv' ▸ h)) hw
  · exact min_le_right _ _
  · exact min_le_min (Nat.floor_mono (EReal.toReal_le_toReal h (bot_lt_of_lt hv).ne' hw)) le_rfl

theorem toNat_toUInt64 (x : Float) : x.toUInt64.toNat
    = min (x.toModel.unpack.toInt 0 (2 ^ 64 - 1)).toNat (2 ^ 64 - 1) :=
  toNat_ofNatClamp _

theorem floor_of_pos (h : 0 < x) : floor x = whole (value x) := by
  obtain ⟨-, hx, hpos⟩ := lt_iff_value.mp h
  have hnot : ¬x < 0 := fun hlt => lt_asymm hpos (lt_iff_value.mp hlt).2.2
  have hwhole : x.toUInt64.toNat = whole (value x) := by
    rw [toNat_toUInt64]
    unfold IsNumber at hx
    unfold value at hpos ⊢
    cases hu : x.toModel.unpack with
    | notANumber => exact absurd hu hx
    | infinity s =>
      rw [hu] at hpos
      cases s
      · exact absurd hpos EReal.bot_lt_zero.not_gt
      · exact (if_pos rfl).symm
    | zero s =>
      rw [hu] at hpos
      exact absurd hpos (lt_irrefl _)
    | finite s m e hm =>
      rw [hu] at hpos
      cases s with
      | negative => exact absurd hpos (unpackedValue_negative_neg e hm).not_gt
      | positive =>
        rw [whole, unpackedValue_positive, if_neg (EReal.coe_ne_top _), EReal.toReal_coe,
          ← Int.toNat_natCast ⌊(m : ℝ) * 2 ^ e⌋₊, ← roundToInt_positive]
        rfl
  unfold floor
  rw [if_neg hnot, hwhole]

/-- A number that is not positive has no positive part. -/
theorem floor_nonpos (h : ¬0 < x) : floor x ≤ 0 := by
  have hwhole : x.toUInt64.toNat = 0 := by
    have hpos : ¬(IsNumber x ∧ 0 < value x) := fun hx =>
      h (lt_iff_value.mpr ⟨isNumber_zero, hx⟩)
    rw [toNat_toUInt64]
    unfold IsNumber value at hpos
    cases hu : x.toModel.unpack with
    | notANumber => rfl
    | infinity s =>
      rw [hu] at hpos
      cases s
      · rfl
      · exact absurd ⟨UnpackedFloat.noConfusion, EReal.zero_lt_top⟩ hpos
    | zero s => rfl
    | finite s m e hm =>
      rw [hu] at hpos
      cases s with
      | negative =>
        have hcut : roundToInt .negative m e = -roundToInt .positive m e := rfl
        show min (roundToInt .negative m e).toNat _ = 0
        rw [hcut, roundToInt_positive]
        omega
      | positive =>
        exact absurd ⟨UnpackedFloat.noConfusion, unpackedValue_positive_pos e hm⟩ hpos
  unfold floor
  dsimp only
  rw [hwhole]
  split_ifs <;> omega

theorem floor_mono (hx : 0 < x) (h : x ≤ y) : floor x ≤ floor y := by
  obtain ⟨-, -, hle⟩ := le_iff_value.mp h
  obtain ⟨-, -, hpos⟩ := lt_iff_value.mp hx
  have hy : 0 < y :=
    lt_iff_value.mpr ⟨isNumber_zero, (le_iff_value.mp h).2.1, hpos.trans_le hle⟩
  rw [floor_of_pos hx, floor_of_pos hy]
  exact_mod_cast whole_mono hpos hle

end AgvDispatch.Double
