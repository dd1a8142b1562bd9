import Orignabase.Lib.Runs

/-
  Programs that are run on their own to the end, and run
  again after an error.

  Key definitions include:
    * `Prog.Ends`
    * `Prog.Leads`
    * `Prog.settle`
    * `Sure`
    * `Atomic`
    * `Repeats`
    * `Series`

  Main results:
    * `Prog.Ends.bind_iff`
    * `Prog.Leads.of_ends`
    * `Repeats.once`
    * `Series.holds`
    * `InTurn.holds`
-/

--------
-- Complete Runs
--------

namespace Conc

variable {Op : Type} {Res : Op → Type} {Ans W α β : Type}

/-
  A run of a program to its end, by steps that meet `cond`:
  from a past and a world to a past, a world and a result.
-/
inductive Prog.Ends
    (exec : Exec Res Ans W)
    (cond : StepCond Res Ans W) :
    List (Event Res Ans) → W → Prog Res α →
      List (Event Res Ans) → W → α → Prop
  | ret
      (tr : List (Event Res Ans))
      (w : W)
      (r : α) :
      Ends exec cond tr w (.ret r) tr w r
  | call
      {tr tr' : List (Event Res Ans)}
      {w w' : W}
      {o : Op}
      {k : Res o → Prog Res α}
      {r : α}
      (a : Ans)
      (hCond : cond tr o a w)
      (hRest :
        Ends exec cond (⟨o, a, (exec o a w).1⟩ :: tr)
          (exec o a w).2 (k (exec o a w).1) tr' w' r) :
      Ends exec cond tr w (.call o k) tr' w' r

namespace Prog.Ends

variable {exec : Exec Res Ans W} {cond : StepCond Res Ans W}

variable {tr tr' : List (Event Res Ans)} {w w' : W} {r : α}
variable {tr₂ : List (Event Res Ans)} {w₂ : W}
variable {p : Prog Res α}

theorem ret_iff
    {r' : α} :
    Ends exec cond tr w (.ret r) tr' w' r' ↔
      tr' = tr ∧ w' = w ∧ r' = r := by
  constructor
  · intro hEnds
    cases hEnds
    exact ⟨rfl, rfl, rfl⟩
  · rintro ⟨rfl, rfl, rfl⟩
    exact Ends.ret ..

theorem call_iff
    {o : Op}
    {k : Res o → Prog Res α} :
    Ends exec cond tr w (.call o k) tr' w' r ↔
      ∃ a, cond tr o a w ∧
        Ends exec cond (⟨o, a, (exec o a w).1⟩ :: tr)
          (exec o a w).2 (k (exec o a w).1) tr' w' r := by
  constructor
  · intro hEnds
    cases hEnds with
    | call a hCond hRest => exact ⟨a, hCond, hRest⟩
  · rintro ⟨a, hCond, hRest⟩
    exact Ends.call a hCond hRest

theorem bind
    {tr₁ : List (Event Res Ans)}
    {w₁ : W}
    {f : α → Prog Res β}
    {s : β}
    (hFirst : Ends exec cond tr w p tr₁ w₁ r)
    (hRest : Ends exec cond tr₁ w₁ (f r) tr₂ w₂ s) :
    Ends exec cond tr w (p.bind f) tr₂ w₂ s := by
  induction hFirst with
  | ret => exact hRest
  | call a hCond _ ih => exact Ends.call a hCond (ih hRest)

/- A run of a sequence is a run of its parts. -/
theorem bind_iff
    {f : α → Prog Res β}
    {s : β} :
    Ends exec cond tr w (p.bind f) tr₂ w₂ s ↔ ∃ tr₁ w₁ r,
        Ends exec cond tr w p tr₁ w₁ r ∧
          Ends exec cond tr₁ w₁ (f r) tr₂ w₂ s := by
  constructor
  · intro hEnds
    induction p generalizing tr w with
    | ret r => exact ⟨tr, w, r, Ends.ret .., hEnds⟩
    | call o k ih =>
      rcases call_iff.mp hEnds with ⟨a, hCond, hRest⟩
      rcases ih _ hRest with ⟨tr₁, w₁, r, hFirst, hNext⟩
      exact ⟨tr₁, w₁, r, Ends.call a hCond hFirst, hNext⟩
  · rintro ⟨tr₁, w₁, r, hFirst, hRest⟩
    exact hFirst.bind hRest

/- A run whose steps meet more. -/
theorem of_cond
    {cond' : StepCond Res Ans W}
    (hCond :
      ∀ tr o a w, cond tr o a w → cond' tr o a w)
    (hEnds : Ends exec cond tr w p tr' w' r) :
    Ends exec cond' tr w p tr' w' r := by
  induction hEnds with
  | ret => exact Ends.ret ..
  | call a hStep _ ih =>
    exact Ends.call a (hCond _ _ _ _ hStep) ih

/- Where the past does not matter, it can be any. -/
theorem rebase
    (hCond :
      ∀ tr tr' o a w, cond tr o a w → cond tr' o a w)
    (hEnds : Ends exec cond tr w p tr' w' r)
    (past : List (Event Res Ans)) :
    ∃ past', Ends exec cond past w p past' w' r := by
  induction hEnds generalizing past with
  | ret => exact ⟨past, Ends.ret ..⟩
  | call a hStep _ ih =>
    rcases ih (⟨_, a, _⟩ :: past) with ⟨past', hRest⟩
    exact ⟨past', Ends.call a (hCond _ _ _ _ _ hStep) hRest⟩

/- What all operations preserve holds at the end. -/
theorem preserves
    {P : Op → Prop}
    {I : W → Prop}
    (hUses : p.Uses P)
    (hStep : ∀ o a w, P o → I w → I (exec o a w).2)
    (hEnds : Ends exec cond tr w p tr' w' r)
    (hInv : I w) :
    I w' := by
  induction hEnds with
  | ret => exact hInv
  | call a _ _ ih =>
    exact ih (hUses.2 _) (hStep _ a _ hUses.1 hInv)

/- Where the answers do not matter, all runs agree. -/
theorem unique
    {P : Op → Prop}
    (hUses : p.Uses P)
    (hSame :
      ∀ o tr tr' a a' w, P o →
        cond tr o a w → cond tr' o a' w →
          exec o a w = exec o a' w)
    {tr₁ tr₁' tr₂' : List (Event Res Ans)}
    {w₁ : W}
    {r₁ r₂ : α}
    (hFirst : Ends exec cond tr₁ w p tr₁' w₁ r₁)
    (hSecond : Ends exec cond tr₂ w p tr₂' w₂ r₂) :
    w₁ = w₂ ∧ r₁ = r₂ := by
  induction p generalizing w tr₁ tr₂ with
  | ret r =>
    rcases ret_iff.mp hFirst with ⟨_, rfl, rfl⟩
    rcases ret_iff.mp hSecond with ⟨_, rfl, rfl⟩
    exact ⟨rfl, rfl⟩
  | call o k ih =>
    rcases call_iff.mp hFirst with ⟨a, hCond, hFirst⟩
    rcases call_iff.mp hSecond with ⟨a', hCond', hSecond⟩
    have hExec :=
      hSame o tr₁ tr₂ a a' w hUses.1 hCond hCond'
    rw [hExec] at hFirst
    exact ih _ (hUses.2 _) hFirst hSecond

end Prog.Ends

/- Whatever the answers, the program ends in `post`. -/
def Prog.Leads
    (exec : Exec Res Ans W)
    (cond : StepCond Res Ans W)
    (post : W → α → Prop) :
    List (Event Res Ans) → W → Prog Res α → Prop
  | _, w, .ret r => post w r
  | tr, w, .call o k =>
    ∀ a, cond tr o a w →
      Leads exec cond post (⟨o, a, (exec o a w).1⟩ :: tr)
        (exec o a w).2 (k (exec o a w).1)

namespace Prog.Leads

variable {exec : Exec Res Ans W} {cond : StepCond Res Ans W}
variable {post : W → α → Prop}

variable {tr : List (Event Res Ans)} {w : W}
variable {p : Prog Res α}

/- What a program leads to holds after every run. -/
theorem of_ends
    {tr' : List (Event Res Ans)}
    {w' : W}
    {r : α}
    (hLeads : p.Leads exec cond post tr w)
    (hEnds : Ends exec cond tr w p tr' w' r) :
    post w' r := by
  induction hEnds with
  | ret => exact hLeads
  | call a hCond _ ih => exact ih (hLeads a hCond)

theorem bind
    {f : α → Prog Res β}
    {post' : W → β → Prop}
    (hFirst : p.Leads exec cond post tr w)
    (hNext :
      ∀ tr w r, post w r →
        (f r).Leads exec cond post' tr w) :
    (p.bind f).Leads exec cond post' tr w := by
  induction p generalizing tr w with
  | ret r => exact hNext tr w r hFirst
  | call o k ih =>
    intro a hCond
    exact ih _ (hFirst a hCond)

/- One operation with a known outcome in front. -/
theorem call
    {o : Op}
    {k : Res o → Prog Res α}
    {tr : List (Event Res Ans)}
    {w : W}
    (hNext :
      ∀ a, cond tr o a w → ∃ r w', exec o a w = (r, w') ∧
          (k r).Leads exec cond post (⟨o, a, r⟩ :: tr) w') :
    (Prog.call o k).Leads exec cond post tr w := by
  intro a hCond
  rcases hNext a hCond with ⟨r, w', hExec, hRest⟩
  rw [hExec]
  exact hRest

/- A program whose operations leave the world as it is. -/
theorem of_uses
    {P : Op → Prop}
    (hUses : p.Uses P)
    (hSame : ∀ o a, P o → (exec o a w).2 = w) :
    p.Leads exec cond (fun w' _ => w' = w) tr w := by
  induction p generalizing tr with
  | ret r => rfl
  | call o k ih =>
    intro a _
    rw [hSame o a hUses.1]
    exact ih _ (hUses.2 _)

/- An operation that leaves the world as it is. -/
theorem skip
    {o : Op}
    {k : Res o → Prog Res α}
    (hSame : ∀ a, (exec o a w).2 = w)
    (hNext : ∀ tr r, (k r).Leads exec cond post tr w) :
    (Prog.call o k).Leads exec cond post tr w := by
  intro a _
  rw [hSame a]
  exact hNext _ _

end Prog.Leads

/- The run of a program with the given answers. -/
def Prog.play
    (exec : Exec Res Ans W)
    (cond : StepCond Res Ans W)
    [∀ tr o a w, Decidable (cond tr o a w)] :
    List Ans → List (Event Res Ans) → W → Prog Res α →
      Option (W × α)
  | _, _, w, .ret r => some (w, r)
  | [], _, _, .call .. => none
  | a :: answers, tr, w, .call o k =>
    if cond tr o a w then
      Prog.play exec cond answers
        (⟨o, a, (exec o a w).1⟩ :: tr) (exec o a w).2
        (k (exec o a w).1)
    else none

theorem Prog.Ends.of_play
    {exec : Exec Res Ans W}
    {cond : StepCond Res Ans W}
    [∀ tr o a w, Decidable (cond tr o a w)]
    {answers : List Ans}
    {tr : List (Event Res Ans)}
    {w w' : W}
    {p : Prog Res α}
    {r : α}
    (hPlay :
      Prog.play exec cond answers tr w p = some (w', r)) :
    ∃ tr', Prog.Ends exec cond tr w p tr' w' r := by
  induction p generalizing answers tr w with
  | ret s =>
    cases answers <;>
    · simp only [Prog.play, Option.some.injEq,
        Prod.mk.injEq] at hPlay
      rcases hPlay with ⟨rfl, rfl⟩
      exact ⟨tr, Prog.Ends.ret ..⟩
  | call o k ih =>
    cases answers with
    | nil => cases hPlay
    | cons a answers =>
      simp only [Prog.play,
        Option.ite_none_right_eq_some] at hPlay
      rcases ih _ hPlay.2 with ⟨tr', hEnds⟩
      exact ⟨tr', Prog.Ends.call a hPlay.1 hEnds⟩

/- The run in which each operation has its own answer. -/
def Prog.settle
    (exec : Exec Res Ans W)
    (answer : Op → Ans) : W → Prog Res α → α × W
  | w, .ret r => (r, w)
  | w, .call o k =>
    Prog.settle exec answer (exec o (answer o) w).2
      (k (exec o (answer o) w).1)

theorem Prog.settle_bind
    (exec : Exec Res Ans W)
    (answer : Op → Ans)
    (w : W)
    (p : Prog Res α)
    (f : α → Prog Res β) :
    Prog.settle exec answer w (p.bind f) =
      Prog.settle exec answer
        (Prog.settle exec answer w p).2
        (f (Prog.settle exec answer w p).1) := by
  induction p generalizing w with
  | ret r => rfl
  | call o k ih => exact ih _ _

end Conc

--------
-- All Or Nothing
--------

namespace Conc

variable {Op : Type} {Res : Op → Type} {Ans W ε α β : Type}

section

variable (exec : Exec Res Ans W)
variable (cond free : StepCond Res Ans W)

/-
  A run by free steps does the same, whatever the past was.
-/
def Free
    (w : W)
    (p : Prog Res (Except ε α))
    (w' : W)
    (r : α) : Prop :=
  ∀ tr, ∃ tr', Prog.Ends exec free tr w p tr' w' (.ok r)

/- Every run succeeds, and a free run does the same. -/
def Sure
    (tr : List (Event Res Ans))
    (w : W)
    (p : Prog Res (Except ε α)) : Prop :=
  ∀ tr' w' r, Prog.Ends exec cond tr w p tr' w' r →
    ∃ x, r = .ok x ∧ Free exec free w p w' x

/-
  A run that ends in an error has changed nothing; after any
  other, a free run does the same.
-/
def Atomic
    (tr : List (Event Res Ans))
    (w : W)
    (p : Prog Res (Except ε α)) : Prop :=
  ∀ tr' w' r, Prog.Ends exec cond tr w p tr' w' r →
    (∃ e, r = .error e ∧ w' = w) ∨
      ∃ x, r = .ok x ∧ Free exec free w p w' x

end

variable {exec : Exec Res Ans W}
variable {cond free : StepCond Res Ans W}

/- Go on with the result, or end with the error. -/
def orElse (f : α → Prog Res (Except ε β)) :
    Except ε α → Prog Res (Except ε β)
  | .ok x => f x
  | .error e => .ret (.error e)

namespace Free

theorem ret (w : W) (x : α) :
    Free exec free w
      (.ret (.ok x) : Prog Res (Except ε α)) w x :=
  fun tr => ⟨tr, Prog.Ends.ret ..⟩

theorem bind
    {w w₁ w₂ : W}
    {p : Prog Res (Except ε α)}
    {f : α → Prog Res (Except ε β)}
    {x : α}
    {y : β}
    (hFirst : Free exec free w p w₁ x)
    (hRest : Free exec free w₁ (f x) w₂ y) :
    Free exec free w (p.bind (orElse f)) w₂ y := by
  intro tr
  rcases hFirst tr with ⟨tr₁, hFirst⟩
  rcases hRest tr₁ with ⟨tr₂, hRest⟩
  exact ⟨tr₂, hFirst.bind hRest⟩

/- One free step in front. -/
theorem call
    {w w' : W}
    {o : Op}
    {k : Res o → Prog Res (Except ε α)}
    {x : α}
    {a : Ans}
    (hFree : ∀ tr, free tr o a w)
    (hRest :
      Free exec free (exec o a w).2 (k (exec o a w).1) w'
        x) :
    Free exec free w (.call o k) w' x := by
  intro tr
  rcases hRest (⟨o, a, (exec o a w).1⟩ :: tr) with
    ⟨tr', hRest⟩
  exact ⟨tr', Prog.Ends.call a (hFree tr) hRest⟩

end Free

namespace Sure

variable {tr : List (Event Res Ans)} {w : W}

theorem ret
    (x : α) :
    Sure exec cond free tr w
      (.ret (.ok x) : Prog Res (Except ε α)) := by
  intro tr' w' r hEnds
  rcases Prog.Ends.ret_iff.mp hEnds with ⟨_, rfl, rfl⟩
  exact ⟨x, rfl, Free.ret _ x⟩

theorem atomic
    {p : Prog Res (Except ε α)}
    (hSure : Sure exec cond free tr w p) :
    Atomic exec cond free tr w p :=
  fun tr' w' r hEnds => Or.inr (hSure tr' w' r hEnds)

theorem bind
    {p : Prog Res (Except ε α)}
    {f : α → Prog Res (Except ε β)}
    (hFirst : Sure exec cond free tr w p)
    (hRest :
      ∀ tr' w' x,
        Prog.Ends exec cond tr w p tr' w' (.ok x) →
          Sure exec cond free tr' w' (f x)) :
    Sure exec cond free tr w (p.bind (orElse f)) := by
  intro tr₂ w₂ s hEnds
  rcases Prog.Ends.bind_iff.mp hEnds with
    ⟨tr₁, w₁, r, hRun, hNext⟩
  rcases hFirst tr₁ w₁ r hRun with ⟨x, rfl, hFree⟩
  rcases hRest tr₁ w₁ x hRun tr₂ w₂ s hNext with
    ⟨y, rfl, hFree'⟩
  exact ⟨y, rfl, hFree.bind hFree'⟩

end Sure

namespace Atomic

theorem fail
    {tr : List (Event Res Ans)}
    {w : W}
    (e : ε) :
    Atomic exec cond free tr w
      (.ret (.error e) : Prog Res (Except ε α)) := by
  intro tr' w' r hEnds
  rcases Prog.Ends.ret_iff.mp hEnds with ⟨_, rfl, rfl⟩
  exact Or.inl ⟨e, rfl, rfl⟩

/- Once the first part has had an effect, all is sure. -/
theorem bind
    {tr : List (Event Res Ans)}
    {w : W}
    {p : Prog Res (Except ε α)}
    {f : α → Prog Res (Except ε β)}
    (hFirst : Atomic exec cond free tr w p)
    (hRest :
      ∀ tr' w' x,
        Prog.Ends exec cond tr w p tr' w' (.ok x) →
          Sure exec cond free tr' w' (f x) ∨
            w' = w ∧ Atomic exec cond free tr' w (f x)) :
    Atomic exec cond free tr w (p.bind (orElse f)) := by
  intro tr₂ w₂ s hEnds
  rcases Prog.Ends.bind_iff.mp hEnds with
    ⟨tr₁, w₁, r, hRun, hNext⟩
  rcases hFirst tr₁ w₁ r hRun with
    ⟨e, rfl, rfl⟩ | ⟨x, rfl, hFree⟩
  · rcases Prog.Ends.ret_iff.mp hNext with ⟨_, rfl, rfl⟩
    exact Or.inl ⟨e, rfl, rfl⟩
  · rcases hRest tr₁ w₁ x hRun with hSure | ⟨rfl, hAtomic⟩
    · rcases hSure tr₂ w₂ s hNext with ⟨y, rfl, hFree'⟩
      exact Or.inr ⟨y, rfl, hFree.bind hFree'⟩
    · rcases hAtomic tr₂ w₂ s hNext with
        ⟨e, rfl, rfl⟩ | ⟨y, rfl, hFree'⟩
      · exact Or.inl ⟨e, rfl, rfl⟩
      · exact Or.inr ⟨y, rfl, hFree.bind hFree'⟩

end Atomic

end Conc

--------
-- Repeated Runs
--------

namespace Conc

variable {Op : Type} {Res : Op → Type} {Ans W ε α : Type}

/- Runs of one program, one after the other. -/
inductive Repeats
    (exec : Exec Res Ans W)
    (cond : StepCond Res Ans W)
    (p : Prog Res (Except ε α)) :
    W → List (Except ε α) → W → Prop
  | nil (w : W) : Repeats exec cond p w [] w
  | cons
      {w w₁ w' : W}
      {tr : List (Event Res Ans)}
      {r : Except ε α}
      {rs : List (Except ε α)}
      (hRun : Prog.Ends exec cond [] w p tr w₁ r)
      (hRest : Repeats exec cond p w₁ rs w') :
      Repeats exec cond p w (r :: rs) w'

section

variable {exec : Exec Res Ans W}
variable {cond free : StepCond Res Ans W}
variable {p : Prog Res (Except ε α)} {fresh : W → Prop}

variable {w w' : W} {rs : List (Except ε α)}

theorem Repeats.of_play
    [∀ tr o a w, Decidable (cond tr o a w)]
    {answers : List Ans}
    {w₁ : W}
    {r : Except ε α}
    (hPlay :
      Prog.play exec cond answers [] w p = some (w₁, r))
    (hRest : Repeats exec cond p w₁ rs w') :
    Repeats exec cond p w (r :: rs) w' := by
  rcases Prog.Ends.of_play hPlay with ⟨tr, hRun⟩
  exact Repeats.cons hRun hRest

/- Runs from a world that is not fresh change nothing. -/
theorem Repeats.eq_of_not_fresh
    (hDone :
      ∀ w tr w' r, ¬ fresh w →
        Prog.Ends exec cond [] w p tr w' r → w' = w)
    (hRuns : Repeats exec cond p w rs w')
    (hNot : ¬ fresh w) :
    w' = w := by
  induction hRuns with
  | nil => rfl
  | cons hRun _ ih =>
    cases hDone _ _ _ _ hNot hRun
    exact ih hNot

/-
  A program that is atomic in fresh worlds, leaves them by
  success and does nothing elsewhere: after any number of
  runs of which the last succeeds, the world is that of one
  free run.
-/
theorem Repeats.once
    (fresh : W → Prop)
    (hAtomic :
      ∀ w, fresh w → Atomic exec cond free [] w p)
    (hLeaves :
      ∀ w tr w' x, fresh w →
        Prog.Ends exec cond [] w p tr w' (.ok x) →
          ¬ fresh w')
    (hDone :
      ∀ w tr w' r, ¬ fresh w →
        Prog.Ends exec cond [] w p tr w' r → w' = w)
    {r : α}
    (hRuns : Repeats exec cond p w rs w')
    (hFresh : fresh w)
    (hLast : rs.getLast? = some (.ok r)) :
    ∃ x, Free exec free w p w' x := by
  induction hRuns with
  | nil => cases hLast
  | @cons w w₁ w' tr s rs hRun hRest ih =>
    rcases hAtomic w hFresh tr w₁ s hRun with
      ⟨e, rfl, rfl⟩ | ⟨x, rfl, hFree⟩
    · -- A failed run is forgotten.
      cases rs with
      | nil => cases hLast
      | cons s' rs' =>
        rw [List.getLast?_cons_cons] at hLast
        exact ih hFresh hLast
    · have hEnd : w' = w₁ :=
        Repeats.eq_of_not_fresh hDone hRest
          (hLeaves w tr w₁ x hFresh hRun)
      exact ⟨x, hEnd ▸ hFree⟩

end

end Conc

--------
-- Runs Of Several Programs
--------

namespace Conc

variable {Op : Type} {Res : Op → Type} {Ans W ι α : Type}

/- Runs of the programs of a list, one after the other. -/
inductive Series
    (exec : Exec Res Ans W)
    (cond : StepCond Res Ans W)
    (body : ι → Prog Res α) :
    W → List ι → W → Prop
  | nil (w : W) : Series exec cond body w [] w
  | cons
      {w w₁ w' : W}
      {x : ι}
      {xs : List ι}
      {tr : List (Event Res Ans)}
      {r : α}
      (hRun : Prog.Ends exec cond [] w (body x) tr w₁ r)
      (hRest : Series exec cond body w₁ xs w') :
      Series exec cond body w (x :: xs) w'

section

variable {exec : Exec Res Ans W} {cond : StepCond Res Ans W}
variable {body : ι → Prog Res α}

/- A program can be run when every call can be answered. -/
theorem Prog.Ends.exists
    (hAnswer : ∀ tr o w, ∃ a, cond tr o a w)
    (p : Prog Res α)
    (tr : List (Event Res Ans))
    (w : W) :
    ∃ tr' w' r, Prog.Ends exec cond tr w p tr' w' r := by
  induction p generalizing tr w with
  | ret r => exact ⟨tr, w, r, Prog.Ends.ret ..⟩
  | call o k ih =>
    rcases hAnswer tr o w with ⟨a, hCond⟩
    rcases ih (exec o a w).1 (⟨o, a, (exec o a w).1⟩ :: tr)
        (exec o a w).2 with
      ⟨tr', w', r, hRest⟩
    exact ⟨tr', w', r, Prog.Ends.call a hCond hRest⟩

theorem Series.exists
    (hAnswer : ∀ tr o w, ∃ a, cond tr o a w)
    (xs : List ι)
    (w : W) :
    ∃ w', Series exec cond body w xs w' := by
  induction xs generalizing w with
  | nil => exact ⟨w, Series.nil w⟩
  | cons x xs ih =>
    rcases Prog.Ends.exists hAnswer (body x) [] w with
      ⟨tr, w₁, r, hRun⟩
    rcases ih w₁ with ⟨w', hRest⟩
    exact ⟨w', Series.cons hRun hRest⟩

/-
  What every run of one program carries from the programs
  before it to the next holds after all of them.
-/
theorem Series.holds
    {P : List ι → W → Prop}
    {w w' : W}
    {xs : List ι}
    (hSeries : Series exec cond body w xs w')
    (hStart : P [] w)
    (hStep :
      ∀ done x, done ++ [x] <+: xs → ∀ w tr w' r, P done w →
          Prog.Ends exec cond [] w (body x) tr w' r →
            P (done ++ [x]) w') :
    P xs w' := by
  have hGeneral :
      ∀ done rest w, done ++ rest = xs → P done w →
        Series exec cond body w rest w' → P xs w' := by
    clear hSeries
    intro done rest w hAll hDone hRest
    induction hRest generalizing done with
    | nil =>
      rw [← hAll, List.append_nil]
      exact hDone
    | @cons w w₁ w' x rest tr r hRun _ ih =>
      have hNext : done ++ [x] ++ rest = xs := by
        simpa using hAll
      refine ih (done ++ [x]) hNext ?_
      exact hStep done x ⟨rest, hNext⟩ w tr w₁ r hDone hRun
  exact hGeneral [] xs w rfl hStart hSeries

/- The runs of a list of programs with the given answers. -/
def Series.play
    (exec : Exec Res Ans W)
    (cond : StepCond Res Ans W)
    [∀ tr o a w, Decidable (cond tr o a w)]
    (body : ι → Prog Res α)
    (answers : List Ans) :
    W → List ι → Option W
  | w, [] => some w
  | w, x :: xs =>
    (Prog.play exec cond answers [] w (body x)).bind
      (fun out =>
        Series.play exec cond body answers out.1 xs)

theorem Series.of_play
    [∀ tr o a w, Decidable (cond tr o a w)]
    {answers : List Ans}
    {w w' : W}
    {xs : List ι}
    (hPlay :
      Series.play exec cond body answers w xs = some w') :
    Series exec cond body w xs w' := by
  induction xs generalizing w with
  | nil =>
    cases hPlay
    exact Series.nil _
  | cons x xs ih =>
    rcases Option.bind_eq_some_iff.mp hPlay with
      ⟨⟨w₁, r⟩, hFirst, hRest⟩
    rcases Prog.Ends.of_play hFirst with ⟨tr, hRun⟩
    exact Series.cons hRun (ih hRest)

end

end Conc

--------
-- One Program At A Time
--------

namespace Conc

variable {Op : Type} {Res : Op → Type} {Ans W α : Type}

section

variable {exec : Exec Res Ans W} {cond : StepCond Res Ans W}
variable {ps : List (Prog Res α)}

/- A thread that has not begun is still its program. -/
theorem InTurn.prog_of_nil
    {w : W}
    {c : Config Res Ans W α}
    (hInTurn : InTurn exec cond (Config.start w ps) c) :
    ∀ (i : Nat) t, c.threads[i]? = some t → t.trace = [] →
      ps[i]? = some t.prog := by
  induction hInTurn with
  | refl =>
    intro i t hThread _
    simp only [Config.start, List.getElem?_map,
      Option.map_eq_some_iff] at hThread
    rcases hThread with ⟨p, hp, rfl⟩
    exact hp
  | @step c c' i a _ hStep _ _ ih =>
    rcases Config.step_eq_some_iff.mp hStep with
      ⟨tr, o, k, hGet, rfl⟩
    intro j t hThread hNil
    by_cases hSame : i = j
    · subst hSame
      have hLt := (List.getElem?_eq_some_iff.mp hGet).1
      rw [List.getElem?_set_self hLt] at hThread
      rw [← Option.some.inj hThread] at hNil
      cases hNil
    · rw [List.getElem?_set_ne hSame] at hThread
      exact ih j t hThread hNil

/- A program that has begun, in a world that was good. -/
def Config.Busy
    (exec : Exec Res Ans W)
    (cond : StepCond Res Ans W)
    (ps : List (Prog Res α))
    (P : W → Prop)
    (c : Config Res Ans W α) : Prop :=
  ∃ (i : Nat) (t : Thread Res Ans α) (p : Prog Res α)
    (w : W),
    c.threads[i]? = some t ∧ ps[i]? = some p ∧
      t.trace ≠ [] ∧ t.prog.isDone = false ∧ P w ∧
      ∀ tr' w' r,
        Prog.Ends exec cond t.trace c.world t.prog tr' w' r →
          Prog.Ends exec cond [] w p tr' w' r

/-
  With one program at a time, what every complete run of a
  program preserves holds whenever no program is running.
-/
theorem InTurn.holds
    {P : W → Prop}
    {w : W}
    {c : Config Res Ans W α}
    (hRun :
      ∀ p ∈ ps, ∀ w tr w' r, P w →
        Prog.Ends exec cond [] w p tr w' r → P w')
    (hStart : P w)
    (hInTurn : InTurn exec cond (Config.start w ps) c)
    (hIdle : c.Idle) :
    P c.world := by
  have hGeneral :
      (c.Idle ∧ P c.world) ∨
        Config.Busy exec cond ps P c := by
    clear hIdle
    induction hInTurn with
    | refl =>
      refine Or.inl ⟨?_, hStart⟩
      intro t hMem
      simp only [Config.start, List.mem_map] at hMem
      rcases hMem with ⟨p, _, rfl⟩
      exact Or.inl rfl
    | @step c c' i a hInTurn hStep hAllowed hAlone ih =>
      rcases Config.step_eq_some_iff.mp hStep with
        ⟨tr, o, k, hGet, rfl⟩
      have hCond : cond tr o a c.world := by
        simpa [Config.Allowed, hGet] using hAllowed
      have hLt := (List.getElem?_eq_some_iff.mp hGet).1
      -- The world in which the running program began.
      have hBegan :
          ∃ p w₀, ps[i]? = some p ∧ P w₀ ∧ ∀ tr' w' r,
              Prog.Ends exec cond tr c.world (.call o k)
                  tr' w' r →
                Prog.Ends exec cond [] w₀ p tr' w' r := by
        rcases ih with ⟨hIdle, hP⟩ | hBusy
        · rcases hIdle _ (List.mem_of_getElem? hGet) with
            hNil | hDone
          · have hNil : tr = [] := hNil
            subst hNil
            exact ⟨_, c.world,
              hInTurn.prog_of_nil i _ hGet rfl, hP,
              fun _ _ _ hEnds => hEnds⟩
          · cases hDone
        · rcases hBusy with
            ⟨j, t, p, w₀, ht, hp, hNe, hNot, hP, hEnds⟩
          by_cases hSame : j = i
          · subst hSame
            cases hGet.symm.trans ht
            exact ⟨p, w₀, hp, hP, hEnds⟩
          · rcases Config.alone_iff.mp hAlone j t ht with
              hEq | hNil | hDone
            · exact absurd hEq hSame
            · exact absurd hNil hNe
            · rw [hNot] at hDone
              cases hDone
      rcases hBegan with ⟨p, w₀, hp, hP, hEnds⟩
      have hNext :
          ∀ tr' w' r, Prog.Ends exec cond
                (⟨o, a, (exec o a c.world).1⟩ :: tr)
                (exec o a c.world).2
                (k (exec o a c.world).1) tr' w' r →
              Prog.Ends exec cond [] w₀ p tr' w' r :=
        fun tr' w' r hRest =>
          hEnds tr' w' r (Prog.Ends.call a hCond hRest)
      cases hDone :
          (k (exec o a c.world).1).isDone with
      | false =>
        right
        exact ⟨i, _, p, w₀, List.getElem?_set_self hLt,
          hp, List.cons_ne_nil _ _, hDone, hP, hNext⟩
      | true =>
        left
        constructor
        · intro t hMem
          rcases List.getElem?_of_mem hMem with ⟨j, ht⟩
          by_cases hSame : i = j
          · subst hSame
            rw [List.getElem?_set_self hLt] at ht
            rw [← Option.some.inj ht]
            exact Or.inr hDone
          · rw [List.getElem?_set_ne hSame] at ht
            rcases Config.alone_iff.mp hAlone j t ht with
              hEq | hIdle
            · exact absurd hEq.symm hSame
            · exact hIdle
        · rcases Prog.isDone_iff.mp hDone with ⟨r, hRet⟩
          have hEnd := hNext
            (⟨o, a, (exec o a c.world).1⟩ :: tr)
            (exec o a c.world).2 r
            (by rw [hRet]; exact Prog.Ends.ret ..)
          exact hRun p (List.mem_of_getElem? hp) _ _ _ _
            hP hEnd
  rcases hGeneral with ⟨_, hP⟩ | hBusy
  · exact hP
  · rcases hBusy with ⟨i, t, p, w₀, ht, _, hNe, hNot, _⟩
    rcases hIdle t (List.mem_of_getElem? ht) with
      hNil | hDone
    · exact absurd hNil hNe
    · rw [hNot] at hDone
      cases hDone

end

end Conc
