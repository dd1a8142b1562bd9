import Mathlib.Algebra.BigOperators.Group.List.Basic
import Mathlib.Algebra.Order.Ring.Int
import Mathlib.Tactic.Cases

/-
  Arithmetic of signed numbers of 64 bits.

  An operation whose result does not fit ends the program in a
  build with overflow checks, and wraps in any other build.

  Key definitions include:
    * `I64.Fits`
    * `I64.result`
    * `I64.Exact`
    * `I64.addProduct`
    * `I64.addProducts`

  Main results:
    * `I64.result_eq_none_iff`
    * `I64.Exact.bind`
    * `I64.addProduct_of_lt`
    * `I64.addProduct_eq_none_iff`
    * `I64.addProducts_of_lt`
    * `I64.addProducts_eq_none_iff`
-/

--------
-- Results
--------

namespace I64

/- The number is one of 64 bits. -/
def Fits (n : ℤ) : Prop :=
  -2 ^ 63 ≤ n ∧ n < 2 ^ 63

instance (n : ℤ) : Decidable (Fits n) :=
  inferInstanceAs (Decidable (_ ∧ _))

theorem fits_iff_of_nonneg
    {n : ℤ}
    (hN : 0 ≤ n) :
    Fits n ↔ n < 2 ^ 63 := by
  rw [Fits]
  omega

/- The exact result of an operation, brought to 64 bits. -/
def result (checked : Bool) (n : ℤ) : Option ℤ :=
  if Fits n then some n
  else if checked then none
  else some (Int.bmod n (2 ^ 64))

theorem result_of_fits
    {n : ℤ}
    (hFits : Fits n)
    (checked : Bool) :
    result checked n = some n := by
  rw [result, if_pos hFits]

theorem result_eq_none_iff {n : ℤ} :
    result true n = none ↔ ¬ Fits n := by
  rw [result]
  split
  · rename_i hFits
    constructor
    · rintro ⟨⟩
    · intro hNot
      exact absurd hFits hNot
  · rename_i hNot
    exact ⟨fun _ => hNot, fun _ => rfl⟩

def add (checked : Bool) (a b : ℤ) : Option ℤ :=
  result checked (a + b)

def sub (checked : Bool) (a b : ℤ) : Option ℤ :=
  result checked (a - b)

def mul (checked : Bool) (a b : ℤ) : Option ℤ :=
  result checked (a * b)

--------
-- Builds
--------

variable {α β : Type}

/-
  Every build computes the same, unless an operation
  overflows.
-/
def Exact (run : Bool → Option α) (x : α) : Prop :=
  run true ≠ none → ∀ checked, run checked = some x

namespace Exact

theorem some (x : α) : Exact (fun _ => .some x) x :=
  fun _ _ => rfl

theorem bind
    {run : Bool → Option α}
    {x : α}
    {next : Bool → α → Option β}
    {y : β}
    (hRun : Exact run x)
    (hNext : Exact (fun checked => next checked x) y) :
    Exact (fun checked =>
      (run checked).bind (next checked)) y := by
  intro hEnds checked
  have hFirst : run true ≠ none := by
    intro hNone
    apply hEnds
    change (run true).bind (next true) = none
    rw [hNone, Option.bind_none]
  have hEnds' : next true x ≠ none := by
    intro hNone
    apply hEnds
    change (run true).bind (next true) = none
    rw [hRun hFirst true, Option.bind_some, hNone]
  change (run checked).bind (next checked) = .some y
  rw [hRun hFirst checked, Option.bind_some]
  exact hNext hEnds' checked

theorem result (n : ℤ) :
    Exact (fun checked => I64.result checked n) n := by
  intro hEnds checked
  by_cases hFits : Fits n
  · exact result_of_fits hFits checked
  · exact absurd (result_eq_none_iff.mpr hFits) hEnds

theorem add (a b : ℤ) :
    Exact (fun checked => I64.add checked a b) (a + b) :=
  result (a + b)

theorem sub (a b : ℤ) :
    Exact (fun checked => I64.sub checked a b) (a - b) :=
  result (a - b)

theorem mul (a b : ℤ) :
    Exact (fun checked => I64.mul checked a b) (a * b) :=
  result (a * b)

end Exact

end I64

--------
-- Sums of Products
--------

namespace I64

variable {acc a b : ℤ}

/- `acc += a * b` -/
def addProduct
    (checked : Bool)
    (acc a b : ℤ) : Option ℤ :=
  (mul checked a b).bind fun product =>
    add checked acc product

theorem addProduct_of_lt
    (hAcc : 0 ≤ acc)
    (hProduct : 0 ≤ a * b)
    (hLt : acc + a * b < 2 ^ 63)
    (checked : Bool) :
    addProduct checked acc a b = some (acc + a * b) := by
  have hMul : Fits (a * b) :=
    (fits_iff_of_nonneg hProduct).mpr (by omega)
  have hAdd : Fits (acc + a * b) :=
    (fits_iff_of_nonneg (by omega)).mpr hLt
  rw [addProduct, mul, result_of_fits hMul, Option.bind_some,
    add, result_of_fits hAdd]

/- Amounts overflow exactly when their sum does. -/
theorem addProduct_eq_none_iff
    (hAcc : 0 ≤ acc)
    (hProduct : 0 ≤ a * b) :
    addProduct true acc a b = none ↔
      2 ^ 63 ≤ acc + a * b := by
  constructor
  · intro hNone
    by_contra hLt
    rw [addProduct_of_lt hAcc hProduct (by omega)] at hNone
    cases hNone
  · intro hFar
    by_cases hMul : Fits (a * b)
    · rw [addProduct, mul, result_of_fits hMul,
        Option.bind_some, add, result_eq_none_iff,
        fits_iff_of_nonneg (by omega)]
      omega
    · rw [addProduct, mul, result_eq_none_iff.mpr hMul,
        Option.bind_none]

/- `acc += a * b` over a list of pairs. -/
def addProducts (checked : Bool) (acc : ℤ) :
    List (ℤ × ℤ) → Option ℤ
  | [] => some acc
  | p :: rest =>
    (addProduct checked acc p.1 p.2).bind fun next =>
      addProducts checked next rest

/- The sum of the products. -/
def products (ps : List (ℤ × ℤ)) : ℤ :=
  (ps.map (fun p => p.1 * p.2)).sum

variable {ps : List (ℤ × ℤ)}

theorem products_nonneg
    (hNonneg : ∀ p ∈ ps, 0 ≤ p.1 * p.2) :
    0 ≤ products ps := by
  induction ps with
  | nil => exact Int.le_refl 0
  | cons p rest ih =>
    have hHead := hNonneg p List.mem_cons_self
    have hRest := ih (fun q hQ =>
      hNonneg q (List.mem_cons_of_mem _ hQ))
    exact Int.add_nonneg hHead hRest

theorem addProducts_of_lt
    (hAcc : 0 ≤ acc)
    (hNonneg : ∀ p ∈ ps, 0 ≤ p.1 * p.2)
    (hLt : acc + products ps < 2 ^ 63)
    (checked : Bool) :
    addProducts checked acc ps = some (acc + products ps) := by
  induction ps generalizing acc with
  | nil => exact congrArg some (Int.add_zero acc).symm
  | cons p rest ih =>
    have hHead := hNonneg p List.mem_cons_self
    have hTail : ∀ q ∈ rest, 0 ≤ q.1 * q.2 :=
      fun q hQ => hNonneg q (List.mem_cons_of_mem _ hQ)
    have hRest := products_nonneg hTail
    have hSum :
        acc + products (p :: rest) =
          acc + p.1 * p.2 + products rest :=
      (Int.add_assoc _ _ _).symm
    rw [hSum] at hLt ⊢
    rw [addProducts,
      addProduct_of_lt hAcc hHead (by omega) checked,
      Option.bind_some]
    exact ih (Int.add_nonneg hAcc hHead) hTail hLt

theorem addProducts_eq_none_iff
    (hAcc : 0 ≤ acc)
    (hFits : acc < 2 ^ 63)
    (hNonneg : ∀ p ∈ ps, 0 ≤ p.1 * p.2) :
    addProducts true acc ps = none ↔
      2 ^ 63 ≤ acc + products ps := by
  constructor
  · intro hNone
    by_contra hLt
    rw [addProducts_of_lt hAcc hNonneg (by omega)] at hNone
    cases hNone
  · intro hFar
    induction ps generalizing acc with
    | nil =>
      change 2 ^ 63 ≤ acc + 0 at hFar
      omega
    | cons p rest ih =>
      have hHead := hNonneg p List.mem_cons_self
      have hSum :
          acc + products (p :: rest) =
            acc + p.1 * p.2 + products rest :=
        (Int.add_assoc _ _ _).symm
      rw [hSum] at hFar
      by_cases hLt : acc + p.1 * p.2 < 2 ^ 63
      · rw [addProducts, addProduct_of_lt hAcc hHead hLt,
          Option.bind_some]
        exact ih (Int.add_nonneg hAcc hHead) hLt
          (fun q hQ =>
            hNonneg q (List.mem_cons_of_mem _ hQ)) hFar
      · rw [addProducts,
          (addProduct_eq_none_iff hAcc hHead).mpr (by omega),
          Option.bind_none]

end I64
