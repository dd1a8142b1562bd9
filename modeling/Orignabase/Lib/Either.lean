import Orignabase.Lib.Runs

/-
  Programs over two sets of operations that act on one world.

  Key definitions include:
    * `Either`
    * `Prog.left`, `Prog.right`
    * `Exec.either`

  Main results:
    * `Prog.Along.left`, `Prog.Along.right`
    * `rights_eq_nil`
-/

--------
-- Two Sets Of Operations
--------

namespace Conc

variable {Op₁ Op₂ : Type} {Res₁ : Op₁ → Type}
variable {Res₂ : Op₂ → Type} {Ans W α : Type}

/- The results of the operations of both sets. -/
def Either (Res₁ : Op₁ → Type) (Res₂ : Op₂ → Type) :
    Op₁ ⊕ Op₂ → Type
  | .inl o => Res₁ o
  | .inr o => Res₂ o

def Exec.either
    (exec₁ : Exec Res₁ Ans W)
    (exec₂ : Exec Res₂ Ans W) :
    Exec (Either Res₁ Res₂) Ans W
  | .inl o, a, w => exec₁ o a w
  | .inr o, a, w => exec₂ o a w

namespace Prog

/- A program that uses the operations of one set. -/
def left : Prog Res₁ α → Prog (Either Res₁ Res₂) α
  | .ret x => .ret x
  | .call o k => .call (.inl o) (fun r => (k r).left)

def right : Prog Res₂ α → Prog (Either Res₁ Res₂) α
  | .ret x => .ret x
  | .call o k => .call (.inr o) (fun r => (k r).right)

end Prog

/- The event, if it is one of the first set. -/
def Event.left? :
    Event (Either Res₁ Res₂) Ans → Option (Event Res₁ Ans)
  | ⟨.inl o, a, r⟩ => some ⟨o, a, r⟩
  | ⟨.inr _, _, _⟩ => none

def Event.right? :
    Event (Either Res₁ Res₂) Ans → Option (Event Res₂ Ans)
  | ⟨.inl _, _, _⟩ => none
  | ⟨.inr o, a, r⟩ => some ⟨o, a, r⟩

/- The events of one set in a past. -/
def lefts (tr : List (Event (Either Res₁ Res₂) Ans)) :
    List (Event Res₁ Ans) :=
  tr.filterMap Event.left?

def rights (tr : List (Event (Either Res₁ Res₂) Ans)) :
    List (Event Res₂ Ans) :=
  tr.filterMap Event.right?

/- An event that is valid in its own set. -/
def Valid
    (valid₁ : Event Res₁ Ans → Prop)
    (valid₂ : Event Res₂ Ans → Prop) :
    Event (Either Res₁ Res₂) Ans → Prop
  | ⟨.inl o, a, r⟩ => valid₁ ⟨o, a, r⟩
  | ⟨.inr o, a, r⟩ => valid₂ ⟨o, a, r⟩

/- A request that keeps to the operations of one set. -/
def CanLeft
    (can : List (Event Res₁ Ans) → Op₁ → Prop)
    (tr : List (Event (Either Res₁ Res₂) Ans)) :
    Op₁ ⊕ Op₂ → Prop
  | .inl o => can (lefts tr) o
  | .inr _ => False

def CanRight
    (can : List (Event Res₂ Ans) → Op₂ → Prop)
    (tr : List (Event (Either Res₁ Res₂) Ans)) :
    Op₁ ⊕ Op₂ → Prop
  | .inl _ => False
  | .inr o => can (rights tr) o

variable {valid₁ : Event Res₁ Ans → Prop}
variable {valid₂ : Event Res₂ Ans → Prop}

variable {tr : List (Event (Either Res₁ Res₂) Ans)}

theorem Prog.Along.left
    {can : List (Event Res₁ Ans) → Op₁ → Prop}
    {post : List (Event Res₁ Ans) → α → Prop}
    {p : Prog Res₁ α}
    (hAlong : p.Along valid₁ can post (lefts tr)) :
    p.left.Along (Valid valid₁ valid₂) (CanLeft can)
      (fun tr' x => post (lefts tr') x) tr := by
  induction p generalizing tr with
  | ret x => exact hAlong
  | call o k ih =>
    refine ⟨hAlong.1, fun a r hValid => ?_⟩
    exact ih r (hAlong.2 a r hValid)

theorem Prog.Along.right
    {can : List (Event Res₂ Ans) → Op₂ → Prop}
    {post : List (Event Res₂ Ans) → α → Prop}
    {p : Prog Res₂ α}
    (hAlong : p.Along valid₂ can post (rights tr)) :
    p.right.Along (Valid valid₁ valid₂) (CanRight can)
      (fun tr' x => post (rights tr') x) tr := by
  induction p generalizing tr with
  | ret x => exact hAlong
  | call o k ih =>
    refine ⟨hAlong.1, fun a r hValid => ?_⟩
    exact ih r (hAlong.2 a r hValid)

/- A past of one set only. -/
theorem rights_eq_nil
    {can : List (Event Res₁ Ans) → Op₁ → Prop}
    (hCould : Could (CanLeft can) tr) :
    rights tr = [] := by
  induction tr with
  | nil => rfl
  | cons e tr ih =>
    rcases e with ⟨o | o, a, r⟩
    · exact ih hCould.2
    · exact hCould.1.elim

end Conc
