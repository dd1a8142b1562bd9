import Mathlib.Algebra.BigOperators.Group.List.Basic
import Mathlib.Algebra.Order.BigOperators.Group.List
import Mathlib.Tactic.Linarith
import Mathlib.Tactic.Ring

/-
  Division rounded half up, and what the shares of a list
  add up to.

  Key definitions include:
    * `Rounding.share`
    * `Rounding.rest`

  Main results:
    * `Rounding.share_le_of_le_mul`
    * `Rounding.share_near_iff`
    * `Rounding.mul_sum_share`
    * `Rounding.rest_sum_le`
-/

namespace Rounding

variable {whole value : ℤ}

/- The quotient, rounded half up. -/
def share (whole value : ℤ) : ℤ :=
  (value + whole.tdiv 2).tdiv whole

/- What rounding leaves over; negative when it rounds up. -/
def rest (whole value : ℤ) : ℤ :=
  (value + whole / 2) % whole - whole / 2

theorem share_eq_ediv
    (hWhole : 0 < whole)
    (hValue : 0 ≤ value) :
    share whole value = (value + whole / 2) / whole := by
  have hHalf : whole.tdiv 2 = whole / 2 :=
    Int.tdiv_eq_ediv_of_nonneg hWhole.le
  have hSum : 0 ≤ value + whole / 2 := by omega
  unfold share
  rw [hHalf, Int.tdiv_eq_ediv_of_nonneg hSum]

theorem share_nonneg
    (hWhole : 0 < whole)
    (hValue : 0 ≤ value) :
    0 ≤ share whole value := by
  rw [share_eq_ediv hWhole hValue]
  exact Int.ediv_nonneg (by omega) hWhole.le

theorem share_le_of_le_mul
    {part : ℤ}
    (hWhole : 0 < whole)
    (hValue : 0 ≤ value)
    (hPart : value ≤ part * whole) :
    share whole value ≤ part := by
  rw [share_eq_ediv hWhole hValue]
  apply Int.le_of_lt_add_one
  apply Int.ediv_lt_of_lt_mul hWhole
  rw [Int.add_mul, Int.one_mul]
  omega

/- The share differs from a number by at most one. -/
theorem share_near_iff
    (hWhole : 0 < whole)
    (hValue : 0 ≤ value)
    (n : ℤ) :
    (share whole value - n).natAbs ≤ 1 ↔
      -whole ≤ value - n * whole + whole / 2 ∧
        value - n * whole + whole / 2 < 2 * whole := by
  have hLow :
      n - 1 ≤ share whole value ↔
        (n - 1) * whole ≤ value + whole / 2 := by
    rw [share_eq_ediv hWhole hValue]
    exact Int.le_ediv_iff_mul_le hWhole
  have hHigh :
      share whole value < n + 2 ↔
        value + whole / 2 < (n + 2) * whole := by
    rw [share_eq_ediv hWhole hValue]
    exact Int.ediv_lt_iff_lt_mul hWhole
  rw [Int.sub_mul] at hLow
  rw [Int.add_mul] at hHigh
  omega

theorem mul_share
    (hWhole : 0 < whole)
    (hValue : 0 ≤ value) :
    whole * share whole value = value - rest whole value := by
  have hSplit :=
    Int.mul_ediv_add_emod (value + whole / 2) whole
  rw [share_eq_ediv hWhole hValue]
  unfold rest
  omega

theorem two_mul_rest_lt (hWhole : 0 < whole) (value : ℤ) :
    2 * rest whole value < whole := by
  have hMod := Int.emod_lt_of_pos (value + whole / 2) hWhole
  unfold rest
  omega

/- A multiple of the whole is shared without a rest. -/
theorem rest_mul_self (hWhole : 0 < whole) (n : ℤ) :
    rest whole (n * whole) = 0 := by
  have hHalf : (whole / 2) % whole = whole / 2 :=
    Int.emod_eq_of_lt (by omega) (by omega)
  unfold rest
  rw [add_comm, Int.add_mul_emod_self_right, hHalf]
  omega

/- The whole itself is shared exactly. -/
theorem share_mul_self
    (hWhole : 0 < whole)
    {n : ℤ}
    (hNonneg : 0 ≤ n) :
    share whole (n * whole) = n := by
  have hMul := mul_share hWhole
    (mul_nonneg hNonneg hWhole.le)
  rw [rest_mul_self hWhole, sub_zero, mul_comm] at hMul
  exact mul_right_cancel₀ hWhole.ne' hMul

theorem share_mono
    (hWhole : 0 < whole)
    {value' : ℤ}
    (hValue : 0 ≤ value)
    (hLe : value ≤ value') :
    share whole value ≤ share whole value' := by
  have hHalf : 0 ≤ whole.tdiv 2 :=
    Int.tdiv_nonneg hWhole.le (by decide)
  unfold share
  generalize whole.tdiv 2 = half at hHalf
  rw [Int.tdiv_eq_ediv_of_nonneg (by omega),
    Int.tdiv_eq_ediv_of_nonneg (by omega)]
  exact Int.ediv_le_ediv hWhole (by omega)

/- The shares of a list, times the whole. -/
theorem mul_sum_share
    (hWhole : 0 < whole)
    {values : List ℤ}
    (hValues : ∀ v ∈ values, 0 ≤ v) :
    whole * (values.map (share whole)).sum =
      values.sum - (values.map (rest whole)).sum := by
  induction values with
  | nil => simp
  | cons v values ih =>
    have hHead := mul_share hWhole
      (hValues v List.mem_cons_self)
    have hTail := ih (fun u hu =>
      hValues u (List.mem_cons_of_mem _ hu))
    simp only [List.map_cons, List.sum_cons, mul_add,
      hHead, hTail]
    ring

/- Less than half of the whole is left per value. -/
theorem rest_sum_le (hWhole : 0 < whole) (values : List ℤ) :
    2 * (values.map (rest whole)).sum ≤
      whole * values.length := by
  induction values with
  | nil => simp
  | cons v values ih =>
    have hHead := two_mul_rest_lt hWhole v
    simp only [List.map_cons, List.sum_cons,
      List.length_cons, Nat.cast_add, Nat.cast_one, mul_add,
      mul_one]
    linarith

end Rounding
