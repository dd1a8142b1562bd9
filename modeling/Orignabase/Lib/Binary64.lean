import Mathlib.Data.Int.Log
import Mathlib.Data.Rat.Floor
import Mathlib.Tactic.Cases
import Mathlib.Tactic.NormNum
import Mathlib.Tactic.SplitIfs

/-
  Rounding of rational numbers to 64-bit floating point.

  The sign of zero is left out, and so are the infinities:
  a number that is too large is told by `isFinite`.

  Key definitions include:
    * `Binary64.nearest`
    * `Binary64.place`
    * `Binary64.round`

  Main results:
    * `Binary64.round_of_multiple`
    * `Binary64.round_intCast`
-/

namespace Binary64

/- The nearest integer; of two, the even one. -/
def nearest (x : ℚ) : ℤ :=
  if x - ⌊x⌋ < 1 / 2 then ⌊x⌋
  else if 1 / 2 < x - ⌊x⌋ then ⌊x⌋ + 1
  else if ⌊x⌋ % 2 = 0 then ⌊x⌋
  else ⌊x⌋ + 1

/- The exponent of the last of the 53 binary digits. -/
def place (x : ℚ) : ℤ :=
  max (Int.log 2 |x| - 52) (-1074)

def round (x : ℚ) : ℚ :=
  nearest (x / 2 ^ place x) * 2 ^ place x

/- The number does not round to an infinity. -/
def isFinite (x : ℚ) : Bool :=
  |round x| < 2 ^ 1024

theorem nearest_intCast (z : ℤ) : nearest (z : ℚ) = z := by
  unfold nearest
  rw [Int.floor_intCast, sub_self, if_pos (by norm_num)]

/- A multiple of its last place is left as it is. -/
theorem round_of_multiple
    {x : ℚ}
    {z : ℤ}
    (hMultiple : x = z * 2 ^ place x) :
    round x = x := by
  have hPos : (2 : ℚ) ^ place x ≠ 0 :=
    zpow_ne_zero _ two_ne_zero
  have hQuotient : x / 2 ^ place x = z := by
    rw [div_eq_iff hPos]
    exact hMultiple
  unfold round
  rw [hQuotient, nearest_intCast, ← hMultiple]

/- The last place of an integer. -/
theorem place_intCast (z : ℤ) :
    place (z : ℚ) =
      max ((Nat.log 2 z.natAbs : ℤ) - 52) (-1074) := by
  have hAbs : |(z : ℚ)| = (z.natAbs : ℚ) := by
    rw [← Int.cast_abs, Int.abs_eq_natAbs, Int.cast_natCast]
  unfold place
  rw [hAbs, Int.log_natCast]

/- Integers of at most 53 binary digits are exact. -/
theorem round_intCast
    {z : ℤ}
    (hSmall : z.natAbs ≤ 2 ^ 53) :
    round (z : ℚ) = z := by
  have hLog : Nat.log 2 z.natAbs ≤ 53 := by
    have hMono := Nat.log_mono_right (b := 2) hSmall
    rwa [Nat.log_pow (by norm_num)] at hMono
  by_cases hFits : Nat.log 2 z.natAbs ≤ 52
  · -- The last place is a unit or a part of one.
    obtain ⟨k, hk⟩ : ∃ k : ℕ, place (z : ℚ) = -(k : ℤ) := by
      refine ⟨(-place (z : ℚ)).toNat, ?_⟩
      rw [place_intCast]
      omega
    apply round_of_multiple (z := z * 2 ^ k)
    rw [hk, zpow_neg, zpow_natCast]
    push_cast
    rw [mul_assoc, mul_inv_cancel₀
      (pow_ne_zero k two_ne_zero), mul_one]
  · -- The integer is the power of two itself, or its negative.
    have hPlace : place (z : ℚ) = 1 := by
      rw [place_intCast]
      omega
    have hLarge : 2 ^ 53 ≤ z.natAbs := by
      have hNonzero : z.natAbs ≠ 0 := by
        intro hZero
        rw [hZero] at hFits
        simp at hFits
      have hPow := Nat.pow_log_le_self 2 hNonzero
      have hSame : Nat.log 2 z.natAbs = 53 := by omega
      rwa [hSame] at hPow
    have hHalf : z = z / 2 * 2 := by omega
    apply round_of_multiple (z := z / 2)
    rw [hPlace, zpow_one]
    exact_mod_cast hHalf

end Binary64
