import Mathlib.Data.List.Forall2
import Mathlib.Tactic.Cases

/-
  Computations that can fail: what is known of each part of
  one that succeeded.

  Main results:
    * `Fallible.of_bind_ok`
    * `Fallible.of_forM`
    * `Fallible.forall₂_of_mapM`
    * `Fallible.exists_of_mapM`
-/

--------
-- Steps
--------

namespace Fallible

variable {ε α β : Type}

/- The first of two steps that succeed. -/
theorem of_bind_ok
    {x : Except ε α}
    {f : α → Except ε β}
    {b : β}
    (hBind : (x >>= f) = .ok b) :
    ∃ a, x = .ok a ∧ f a = .ok b := by
  cases x with
  | error e => cases hBind
  | ok a => exact ⟨a, rfl, hBind⟩

end Fallible

--------
-- Lists
--------

namespace Fallible

variable {ε α β : Type}

variable {xs : List α}

/- The results of a list of checks that all passed. -/
theorem forall₂_of_mapM
    {f : α → Except ε β}
    {ys : List β}
    (hMap : xs.mapM f = .ok ys) :
    List.Forall₂ (fun x y => f x = .ok y) xs ys := by
  induction xs generalizing ys with
  | nil =>
    cases hMap
    exact List.Forall₂.nil
  | cons x xs ih =>
    rw [List.mapM_cons] at hMap
    rcases of_bind_ok hMap with ⟨y, hHead, hMap⟩
    rcases of_bind_ok hMap with ⟨rest, hTail, hMap⟩
    cases hMap
    exact List.Forall₂.cons hHead (ih hTail)

theorem exists_of_mapM
    {f : α → Except ε β}
    {ys : List β}
    (hMap : xs.mapM f = .ok ys)
    {x : α}
    (hMember : x ∈ xs) :
    ∃ y ∈ ys, f x = .ok y := by
  induction xs generalizing ys with
  | nil => cases hMember
  | cons head xs ih =>
    rw [List.mapM_cons] at hMap
    rcases of_bind_ok hMap with ⟨y, hHead, hMap⟩
    rcases of_bind_ok hMap with ⟨rest, hTail, hMap⟩
    cases hMap
    rcases List.mem_cons.mp hMember with rfl | hRest
    · exact ⟨y, List.mem_cons_self, hHead⟩
    · rcases ih hTail hRest with ⟨z, hz, hOk⟩
      exact ⟨z, List.mem_cons_of_mem _ hz, hOk⟩

theorem of_forM
    {f : α → Except ε Unit}
    {u : Unit}
    (hAll : xs.forM f = .ok u) :
    ∀ x ∈ xs, f x = .ok () := by
  induction xs with
  | nil => simp
  | cons x xs ih =>
    change (f x >>= fun _ => xs.forM f) = .ok u at hAll
    rcases of_bind_ok hAll with ⟨v, hHead, hTail⟩
    intro y hMem
    rcases List.mem_cons.mp hMem with rfl | hRest
    · exact hHead
    · exact ih hTail y hRest

end Fallible
