import Orignabase.Core.Json
import Orignabase.Lib.Binary64

/-
  JSON numbers as they are held in memory: an integer of 64
  bits, or a 64-bit floating point number.

  Key definitions include:
    * `Stored`
    * `Number.stored`
    * `Floats.binary64`

  Main results:
    * `Number.toF64_of_holds`
    * `stored_readLiteral`
-/

--------
-- Numbers in Memory
--------

namespace Orignabase

/- The number as it is held, with its tag. -/
inductive Stored
  | integer (z : ℤ)
  | float (x : ℚ)
  deriving DecidableEq

/- `Number::as_f64` -/
def Stored.toF64 : Stored → ℚ
  | .integer z => Binary64.round z
  | .float x => x

namespace Number

def value (n : Number) : ℚ :=
  n.mantissa * 10 ^ n.exponent

/-
  Whole numbers without exponent are integers as far as they
  fit into 64 bits.  Minus zero is a float.
-/
def stored (n : Number) : Stored :=
  if n.frac = [] ∧ n.exp = none ∧
      (n.negative = true → n.int ≠ 0) ∧
      -2 ^ 63 ≤ n.mantissa ∧ n.mantissa < 2 ^ 64 then
    .integer n.mantissa
  else .float (Binary64.round n.value)

/- The number is `z`, whichever way it is held. -/
def Holds (n : Number) (z : ℤ) : Prop :=
  n.stored = .integer z ∨ n.stored = .float z

/- Small integers are the same floats both ways. -/
theorem toF64_of_holds
    {n : Number}
    {z : ℤ}
    (hHolds : n.Holds z)
    (hSmall : z.natAbs ≤ 2 ^ 53) :
    n.stored.toF64 = z := by
  rcases hHolds with hInteger | hFloat
  · rw [hInteger]
    exact Binary64.round_intCast hSmall
  · rw [hFloat]
    rfl

end Number

/-
  Numbers as the code compares them: equal with the same tag
  only, and ordered as floats.
-/
def Floats.binary64 : Floats where
  literal text :=
    if Binary64.isFinite (readLiteral text).value then
      some (readLiteral text)
    else none
  isZero n := n.stored.toF64 = 0
  eq m n := m.stored = n.stored
  lt m n := m.stored.toF64 < n.stored.toF64
  le m n := m.stored.toF64 ≤ n.stored.toF64

/- A literal of the rules is held as a float. -/
theorem stored_readLiteral (text : String) :
    (readLiteral text).stored =
      .float (Binary64.round (readLiteral text).value) := by
  have hFrac : (readLiteral text).frac ≠ [] := by
    unfold readLiteral
    dsimp only
    split_ifs with hEmpty
    · exact List.cons_ne_nil _ _
    · rwa [List.isEmpty_iff] at hEmpty
  unfold Number.stored
  exact if_neg fun hInteger => hFrac hInteger.1

end Orignabase
