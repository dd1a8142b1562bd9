import Mathlib.Algebra.GroupWithZero.Nat
import Mathlib.Algebra.Ring.Int.Defs
import Mathlib.Algebra.BigOperators.Group.List.Basic
import Mathlib.Order.Lattice

/-
  Timed entries with amounts, and the sum of the amounts in a
  half-open interval of time.

  Key definitions include:
    * `Windows.total`
    * `Windows.Bounded`

  Main results:
    * `Windows.bounded_iff`
    * `Windows.bounded_append_iff`
    * `Windows.bounded_snoc_iff`
-/

--------
-- Sums over Intervals
--------

namespace Windows

variable {α : Type} (time : α → ℤ) (amount : α → ℕ)

/- Whether the entry lies in `[a, a + w)`. -/
def inside
    (w : ℕ)
    (a : ℤ)
    (e : α) : Bool :=
  decide (a ≤ time e ∧ time e < a + w)

/- The amounts of the entries in `[a, a + w)` together. -/
def total
    (w : ℕ)
    (a : ℤ)
    (entries : List α) : ℕ :=
  ((entries.filter (inside time w a)).map amount).sum

/- No interval of length `w` holds more than `n`. -/
def Bounded
    (w n : ℕ)
    (entries : List α) : Prop :=
  ∀ a, total time amount w a entries ≤ n

variable {time amount} {w n : ℕ} {a b : ℤ} {e : α}
variable {entries front back : List α}

theorem inside_iff :
    inside time w a e = true ↔
      a ≤ time e ∧ time e < a + w := by
  rw [inside, decide_eq_true_iff]

@[simp] theorem total_nil :
    total time amount w a [] = 0 := rfl

theorem total_append :
    total time amount w a (front ++ back) =
      total time amount w a front +
        total time amount w a back := by
  rw [total, List.filter_append, List.map_append,
    List.sum_append, total, total]

theorem total_cons :
    total time amount w a (e :: entries) =
      (if inside time w a e = true then amount e else 0) +
        total time amount w a entries := by
  rw [total, List.filter_cons]
  split
  · rw [List.map_cons, List.sum_cons, total]
  · rw [Nat.zero_add, total]

/- Entries outside the interval do not count. -/
theorem total_eq_zero
    (hNone : ∀ e ∈ entries, ¬ (a ≤ time e ∧ time e < a + w)) :
    total time amount w a entries = 0 := by
  have hEmpty : entries.filter (inside time w a) = [] := by
    rw [List.filter_eq_nil_iff]
    intro e hMem hInside
    exact hNone e hMem (inside_iff.mp hInside)
  rw [total, hEmpty, List.map_nil, List.sum_nil]

/- An interval with all the entries of another sums to more. -/
theorem total_le_total
    (hSub : ∀ e ∈ entries, a ≤ time e ∧ time e < a + w →
        b ≤ time e ∧ time e < b + w) :
    total time amount w a entries ≤
      total time amount w b entries := by
  induction entries with
  | nil => exact Nat.le_refl 0
  | cons e rest ih =>
    rw [total_cons, total_cons]
    apply Nat.add_le_add
    · by_cases hInside : inside time w a e = true
      · have hOther : inside time w b e = true := by
          rw [inside_iff] at hInside ⊢
          exact hSub e List.mem_cons_self hInside
        rw [if_pos hInside, if_pos hOther]
      · rw [if_neg hInside]
        exact Nat.zero_le _
    · apply ih
      intro e' hMem
      exact hSub e' (List.mem_cons_of_mem e hMem)

/- Dropping entries keeps the sum at most as large. -/
theorem total_sublist
    (hSub : front.Sublist entries) :
    total time amount w a front ≤
      total time amount w a entries := by
  induction hSub with
  | slnil => exact Nat.le_refl 0
  | cons e _ ih =>
    rw [total_cons]
    exact Nat.le_trans ih (Nat.le_add_left _ _)
  | cons_cons e _ ih =>
    rw [total_cons, total_cons]
    exact Nat.add_le_add_left ih _

theorem Bounded.sublist
    (hBounded : Bounded time amount w n entries)
    (hSub : front.Sublist entries) :
    Bounded time amount w n front := by
  intro a
  exact Nat.le_trans (total_sublist hSub) (hBounded a)

/- Where every entry counts once, the sum is the number. -/
theorem total_one :
    total time (fun _ => 1) w a entries =
      entries.countP (inside time w a) := by
  rw [total, List.map_const', List.sum_replicate_nat,
    List.countP_eq_length_filter, Nat.mul_one]

end Windows

--------
-- Bounds on All Intervals
--------

namespace Windows

variable {α : Type} {time : α → ℤ} {amount : α → ℕ}
variable {w n : ℕ} {entries front back : List α}

/- Of some entries with a property one is the latest. -/
theorem exists_latest
    {P : α → Prop}
    (hSome : ∃ e ∈ entries, P e) :
    ∃ last ∈ entries, P last ∧
      ∀ e ∈ entries, P e → time e ≤ time last := by
  induction entries with
  | nil =>
    rcases hSome with ⟨_, hMem, _⟩
    cases hMem
  | cons x rest ih =>
    by_cases hRest : ∃ e ∈ rest, P e
    · rcases ih hRest with ⟨last, hMem, hP, hLast⟩
      by_cases hFirst : P x ∧ time last < time x
      · refine ⟨x, List.mem_cons_self, hFirst.1, ?_⟩
        intro e hE hPe
        rcases List.mem_cons.mp hE with rfl | hE
        · exact Int.le_refl _
        · exact Int.le_of_lt
            (Int.lt_of_le_of_lt (hLast e hE hPe) hFirst.2)
      · refine ⟨last, List.mem_cons_of_mem x hMem, hP, ?_⟩
        intro e hE hPe
        rcases List.mem_cons.mp hE with rfl | hE
        · by_contra hLater
          exact hFirst ⟨hPe, Int.not_le.mp hLater⟩
        · exact hLast e hE hPe
    · rcases hSome with ⟨e, hE, hPe⟩
      have hEq : e = x := by
        rcases List.mem_cons.mp hE with hEq | hE
        · exact hEq
        · exact absurd ⟨e, hE, hPe⟩ hRest
      subst hEq
      refine ⟨e, List.mem_cons_self, hPe, ?_⟩
      intro e' hE' hPe'
      rcases List.mem_cons.mp hE' with rfl | hE'
      · exact Int.le_refl _
      · exact absurd ⟨e', hE', hPe'⟩ hRest

/-
  It is enough to look at the intervals that end with an
  entry.
-/
theorem bounded_iff :
    Bounded time amount w n entries ↔ ∀ e ∈ entries,
        total time amount w (time e + 1 - w) entries ≤
          n := by
  constructor
  · intro hBounded e _
    exact hBounded _
  · intro hEnds a
    by_cases hSome : ∃ e ∈ entries,
        a ≤ time e ∧ time e < a + w
    · have hLatest : ∃ last ∈ entries,
          (a ≤ time last ∧ time last < a + w) ∧
            ∀ e ∈ entries, a ≤ time e ∧ time e < a + w →
              time e ≤ time last :=
        exists_latest hSome
      rcases hLatest with ⟨last, hMem, hIn, hLast⟩
      refine Nat.le_trans ?_ (hEnds last hMem)
      apply total_le_total
      intro e hE hInside
      have hBefore := hLast e hE hInside
      omega
    · rw [total_eq_zero]
      · exact Nat.zero_le n
      · intro e hE hInside
        exact hSome ⟨e, hE, hInside⟩

/-
  Where the entries at the back all come `w` or more after
  those at the front, no interval meets both.
-/
theorem bounded_append_iff
    {middle : List α}
    (hApart : ∀ e ∈ front, ∀ e' ∈ back,
      time e + w ≤ time e') :
    Bounded time amount w n (front ++ (middle ++ back)) ↔
      Bounded time amount w n (front ++ middle) ∧
        Bounded time amount w n (middle ++ back) := by
  constructor
  · intro hBounded
    constructor
    · apply hBounded.sublist
      rw [← List.append_assoc]
      exact List.sublist_append_left _ _
    · apply hBounded.sublist
      exact List.sublist_append_right _ _
  · rintro ⟨hFront, hBack⟩ a
    by_cases hSome : ∃ e ∈ front,
        a ≤ time e ∧ time e < a + w
    · rcases hSome with ⟨e, hE, hInside⟩
      have hNone : total time amount w a back = 0 := by
        apply total_eq_zero
        intro e' hE' hInside'
        have hLater := hApart e hE e' hE'
        omega
      have hLe := hFront a
      rw [total_append] at hLe ⊢
      rw [total_append, hNone, Nat.add_zero]
      exact hLe
    · have hNone : total time amount w a front = 0 := by
        apply total_eq_zero
        intro e hE hInside
        exact hSome ⟨e, hE, hInside⟩
      rw [total_append, hNone, Nat.zero_add]
      exact hBack a

/-
  An entry that comes last keeps the bound exactly when it
  fits into the interval that ends with it.
-/
theorem bounded_snoc_iff
    {last : α}
    (hLast : ∀ e ∈ entries, time e ≤ time last) :
    Bounded time amount w n (entries ++ [last]) ↔
      Bounded time amount w n entries ∧
        total time amount w (time last + 1 - w)
          (entries ++ [last]) ≤ n := by
  constructor
  · intro hBounded
    constructor
    · apply hBounded.sublist
      exact List.sublist_append_left _ _
    · exact hBounded _
  · rintro ⟨hEntries, hEnd⟩ a
    by_cases hInside : a ≤ time last ∧ time last < a + w
    · refine Nat.le_trans ?_ hEnd
      apply total_le_total
      intro e hE hIn
      have hBefore : time e ≤ time last := by
        rcases List.mem_append.mp hE with hE | hE
        · exact hLast e hE
        · rw [List.mem_singleton.mp hE]
      omega
    · have hNone : total time amount w a [last] = 0 := by
        apply total_eq_zero
        intro e hE
        rw [List.mem_singleton.mp hE]
        exact hInside
      rw [total_append, hNone, Nat.add_zero]
      exact hEntries a

end Windows
