import AgvDispatch.Simulation.Run
import Mathlib.Tactic.Linarith
import Mathlib.Tactic.Ring
/-!
# There is a point for every vehicle

The lattice of a simulation has at least as many points as there are vehicles
(`le_gridSide_mul_gridSide`), as long as its side is not cut off. So the points on which the
vehicles start are different ones (`Simulation.startPoint_injective`), and they are points of the
lattice.

The root is taken of four times as many points as vehicles, which leaves room for the rounding of
double precision numbers.
-/

namespace AgvDispatch

/-! ### The side of the lattice -/

/-- The whole part of a root is not too small, if it has been given enough digits. -/
theorem lt_sqrtFloor_succ (bits n : ℕ) (h : n < 4 ^ (bits + 1)) :
    n < (sqrtFloor bits n + 1) * (sqrtFloor bits n + 1) := by
  induction bits generalizing n with
  | zero =>
    unfold sqrtFloor
    split <;> omega
  | succ bits ih =>
    have hquarter := ih (n / 4) (by rw [pow_succ] at h; omega)
    have hdiv : n < n / 4 * 4 + 4 := by omega
    unfold sqrtFloor
    simp only
    split
    · -- The root of the quarter is exact up to one, so twice its successor is too large.
      nlinarith
    · rename_i hsmall
      omega

/-- The whole part of a root has at least as many digits as it has been given, if the number has. -/
theorem two_pow_le_sqrtFloor (bits n : ℕ) (h : 4 ^ bits ≤ n) : 2 ^ bits ≤ sqrtFloor bits n := by
  induction bits generalizing n with
  | zero =>
    unfold sqrtFloor
    rw [if_neg (by rw [pow_zero] at h; omega)]
    rfl
  | succ bits ih =>
    have hquarter := ih (n / 4) (by rw [pow_succ] at h; omega)
    unfold sqrtFloor
    simp only [pow_succ]
    split <;> omega

/-- Rounding to double precision keeps at least half of a number. -/
theorem le_two_mul_toDoublePrecision (n : ℕ) : n ≤ 2 * toDoublePrecision n := by
  rcases Nat.eq_zero_or_pos n with rfl | hpos
  · exact Nat.zero_le _
  · have hunit : 2 ^ (n.log2 - 52) ≤ n :=
      (Nat.pow_le_pow_right (by decide) (Nat.sub_le _ _)).trans (Nat.log2_self_le hpos.ne')
    have hunitPos : 0 < 2 ^ (n.log2 - 52) := Nat.two_pow_pos _
    -- The whole units are kept.
    have hkept : n / 2 ^ (n.log2 - 52) * 2 ^ (n.log2 - 52) ≤ toDoublePrecision n := by
      unfold toDoublePrecision
      apply Nat.mul_le_mul_right
      simp only [Nat.pow_eq]
      split
      · exact Nat.le_succ _
      · exact le_rfl
    generalize 2 ^ (n.log2 - 52) = unit at hunit hunitPos hkept
    have hwhole : 1 ≤ n / unit := Nat.div_pos hunit hunitPos
    have hsplit : unit * (n / unit) + n % unit = n := Nat.div_add_mod n unit
    have hrest : n % unit < unit := Nat.mod_lt n hunitPos
    nlinarith

theorem sqrtFloor_le_sqrtCeil (n : ℕ) : sqrtFloor 64 n ≤ sqrtCeil n := by
  unfold sqrtCeil
  simp only
  split
  · exact le_rfl
  · split
    · exact le_rfl
    · exact Nat.le_succ _

/-- **There are as many points as vehicles**, if the number of points fits into 32 bits. -/
theorem le_gridSide_mul_gridSide {vehicles : ℕ}
    (h : gridSide vehicles * gridSide vehicles ≤ 2147483647) :
    vehicles ≤ gridSide vehicles * gridSide vehicles := by
  have hdouble := le_two_mul_toDoublePrecision vehicles
  have hceil := sqrtFloor_le_sqrtCeil (4 * toDoublePrecision vehicles)
  have hfour : 4 ≤ gridSide vehicles := le_max_left _ _
  have hroot : min (sqrtCeil (4 * toDoublePrecision vehicles)) 2147483647 ≤ gridSide vehicles :=
    le_max_right _ _
  -- The side is not cut off, or there would be too many points.
  have hside : sqrtFloor 64 (4 * toDoublePrecision vehicles) ≤ gridSide vehicles := by
    rcases le_total (sqrtCeil (4 * toDoublePrecision vehicles)) 2147483647 with hle | hle
    · rw [min_eq_left hle] at hroot
      exact hceil.trans hroot
    · rw [min_eq_right hle] at hroot
      nlinarith
  -- So the root has digits enough for the number under it.
  have hdigits : 4 * toDoublePrecision vehicles < 4 ^ (64 + 1) := by
    by_contra hlarge
    have hpow : 4 ^ 64 ≤ 4 * toDoublePrecision vehicles :=
      (Nat.pow_le_pow_right (by decide) (by decide)).trans (not_lt.mp hlarge)
    have hbound := (two_pow_le_sqrtFloor 64 _ hpow).trans hside
    have hlarge' : 2 ^ 64 = 18446744073709551616 := rfl
    nlinarith
  have hsucc := lt_sqrtFloor_succ 64 _ hdigits
  generalize sqrtFloor 64 (4 * toDoublePrecision vehicles) = root at hside hsucc
  nlinarith

namespace Simulation

/-! ### Where the vehicles start -/

theorem startPoint_succ_le {vehicles points : ℕ} (hpos : 0 < vehicles) (h : vehicles ≤ points)
    (i : ℕ) : i * points / vehicles + 1 ≤ (i + 1) * points / vehicles := by
  rw [← Nat.add_div_right _ hpos]
  apply Nat.div_le_div_right
  rw [Nat.succ_mul]
  omega

/-- The numbers of the points on which the vehicles start ascend. -/
theorem startPoint_lt {vehicles points : ℕ} (hpos : 0 < vehicles) (h : vehicles ≤ points) {i j : ℕ}
    (hij : i < j) : i * points / vehicles < j * points / vehicles := by
  induction j with
  | zero => omega
  | succ j ih =>
    have hstep := startPoint_succ_le hpos h j
    rcases Nat.lt_succ_iff_lt_or_eq.mp hij with hlt | rfl
    · have hbefore := ih hlt
      omega
    · omega

/-- **Different vehicles start on different points.** -/
theorem startPoint_injective {vehicles points : ℕ} (hpos : 0 < vehicles) (h : vehicles ≤ points) :
    Function.Injective (startPoint vehicles points) := by
  intro i j hij
  have hnumber : i * points / vehicles = j * points / vehicles := by
    have hid := congrArg Waypoint.id hij
    unfold startPoint waypoint at hid
    simp only at hid
    omega
  rcases Nat.lt_trichotomy i j with hlt | heq | hlt
  · exact absurd hnumber (startPoint_lt hpos h hlt).ne
  · exact heq
  · exact absurd hnumber (startPoint_lt hpos h hlt).ne'

/-- A vehicle starts on one of the points. -/
theorem startPoint_bound {vehicles points i : ℕ} (hpoints : 0 < points) (h : i < vehicles) :
    i * points / vehicles < points := by
  rw [Nat.div_lt_iff_lt_mul (by omega), Nat.mul_comm points]
  exact Nat.mul_lt_mul_of_pos_right h hpoints

end Simulation

end AgvDispatch
