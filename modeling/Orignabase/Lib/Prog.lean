import Mathlib.Algebra.BigOperators.Group.List.Basic
import Mathlib.Data.List.Forall2
import Mathlib.Tactic.Cases

/-
  Programs that call the operations of a shared world, and
  their interleaved runs.

  A program is a tree of operation calls.  The world answers
  a call in one atomic step; what the world does not decide
  (a fault, a remote verdict, the time) is the answer of the
  environment at that step.

  Key definitions include:
    * `Prog`
    * `Config.step`
    * `Reach`
    * `Prog.Keeps`

  Main results:
    * `Prog.Keeps.bind`
    * `Reach.accounts`
-/

--------
-- Programs
--------

namespace Conc

/- A program over operations with the given results. -/
inductive Prog {Op : Type} (Res : Op → Type) (α : Type)
  | ret (a : α)
  | call (o : Op) (k : Res o → Prog Res α)

namespace Prog

variable {Op : Type} {Res : Op → Type} {α β : Type}

def bind : Prog Res α → (α → Prog Res β) → Prog Res β
  | .ret a, f => f a
  | .call o k, f => .call o (fun r => (k r).bind f)

def isDone : Prog Res α → Bool
  | .ret _ => true
  | .call .. => false

theorem isDone_iff {p : Prog Res α} :
    p.isDone = true ↔ ∃ a, p = .ret a := by
  cases p <;> simp [isDone]

/- The program that calls one operation. -/
def perform (o : Op) : Prog Res (Res o) :=
  .call o .ret

def map (f : α → β) (p : Prog Res α) : Prog Res β :=
  p.bind (fun a => .ret (f a))

@[simp] theorem bind_ret
    (a : α)
    (f : α → Prog Res β) :
    (Prog.ret a).bind f = f a := rfl

@[simp] theorem bind_call
    (o : Op)
    (k : Res o → Prog Res α)
    (f : α → Prog Res β) :
    (Prog.call o k).bind f =
      .call o (fun r => (k r).bind f) := rfl

@[simp] theorem perform_bind
    (o : Op)
    (f : Res o → Prog Res β) :
    (perform o).bind f = .call o f := rfl

end Prog

--------
-- Interleaved Runs
--------

section

variable {Op : Type} (Res : Op → Type) (Ans : Type)

/- An operation that was performed, with its result. -/
structure Event where
  op : Op
  ans : Ans
  res : Res op

/- A program part way through, with its past events. -/
structure Thread (α : Type) where
  trace : List (Event Res Ans)
  prog : Prog Res α

structure Config (W α : Type) where
  world : W
  threads : List (Thread Res Ans α)

end

section

variable {Op : Type} {Res : Op → Type} {Ans W α : Type}

/- The effect of every operation on the world. -/
abbrev Exec (Res : Op → Type) (Ans W : Type) :=
  (o : Op) → Ans → W → Res o × W

/- A condition on a step: the past of the thread, the
   operation, the answer and the world before it. -/
abbrev StepCond (Res : Op → Type) (Ans W : Type) :=
  List (Event Res Ans) → Op → Ans → W → Prop

namespace Config

def start (w : W) (ps : List (Prog Res α)) :
    Config Res Ans W α :=
  ⟨w, ps.map (fun p => ⟨[], p⟩)⟩

/- Thread `i` performs its next operation. -/
def step
    (exec : Exec Res Ans W)
    (c : Config Res Ans W α)
    (i : Nat)
    (a : Ans) : Option (Config Res Ans W α) :=
  match c.threads[i]? with
  | some ⟨tr, .call o k⟩ =>
    let out := exec o a c.world
    some ⟨out.2,
        c.threads.set i ⟨⟨o, a, out.1⟩ :: tr, k out.1⟩⟩
  | _ => none

/- A schedule of steps. -/
def run
    (exec : Exec Res Ans W) :
    Config Res Ans W α → List (Nat × Ans) →
      Option (Config Res Ans W α)
  | c, [] => some c
  | c, (i, a) :: rest =>
    (c.step exec i a).bind (fun c' => c'.run exec rest)

/- The next step of thread `i` meets the condition. -/
def Allowed
    (cond : StepCond Res Ans W)
    (c : Config Res Ans W α)
    (i : Nat)
    (a : Ans) : Prop :=
  match c.threads[i]? with
  | some ⟨tr, .call o _⟩ => cond tr o a c.world
  | _ => True

instance Allowed.decidable
    (cond : StepCond Res Ans W)
    [∀ tr o a w, Decidable (cond tr o a w)]
    (c : Config Res Ans W α)
    (i : Nat)
    (a : Ans) : Decidable (c.Allowed cond i a) := by
  unfold Allowed
  exact
    match c.threads[i]? with
    | some ⟨_, .call _ _⟩ => inferInstance
    | some ⟨_, .ret _⟩ => .isTrue trivial
    | none => .isTrue trivial

/- No thread is in progress. -/
def Idle (c : Config Res Ans W α) : Prop :=
  ∀ t ∈ c.threads, t.trace = [] ∨ t.prog.isDone = true

/- No thread has an operation left. -/
def Quiet (c : Config Res Ans W α) : Prop :=
  ∀ t ∈ c.threads, t.prog.isDone = true

instance (c : Config Res Ans W α) : Decidable c.Quiet :=
  inferInstanceAs (Decidable (∀ t ∈ c.threads, _))

theorem Quiet.idle
    {c : Config Res Ans W α}
    (hQuiet : c.Quiet) :
    c.Idle :=
  fun t hMem => Or.inr (hQuiet t hMem)

theorem step_eq_some_iff
    {exec : Exec Res Ans W}
    {c c' : Config Res Ans W α}
    {i : Nat}
    {a : Ans} :
    c.step exec i a = some c' ↔ ∃ tr o k,
        c.threads[i]? = some ⟨tr, .call o k⟩ ∧ c' =
            ⟨(exec o a c.world).2, c.threads.set i
                ⟨⟨o, a, (exec o a c.world).1⟩ :: tr,
                  k (exec o a c.world).1⟩⟩ := by
  constructor
  · intro hStep
    unfold step at hStep
    split at hStep
    · rename_i tr o k hThread
      exact ⟨tr, o, k, hThread,
        (Option.some.inj hStep).symm⟩
    · cases hStep
  · rintro ⟨tr, o, k, hThread, rfl⟩
    simp [step, hThread]

end Config

/- Configurations reached by steps that meet `cond`. -/
inductive Reach
    (exec : Exec Res Ans W)
    (cond : StepCond Res Ans W)
    (c₀ : Config Res Ans W α) :
    Config Res Ans W α → Prop
  | refl : Reach exec cond c₀ c₀
  | step
      {c c' : Config Res Ans W α}
      {i : Nat}
      {a : Ans}
      (hReach : Reach exec cond c₀ c)
      (hStep : c.step exec i a = some c')
      (hAllowed : c.Allowed cond i a) :
      Reach exec cond c₀ c'

namespace Reach

variable {exec : Exec Res Ans W} {cond : StepCond Res Ans W}

/- A schedule whose steps all meet the condition. -/
def Meets
    (exec : Exec Res Ans W)
    (cond : StepCond Res Ans W) :
    Config Res Ans W α → List (Nat × Ans) → Prop
  | _, [] => True
  | c, (i, a) :: rest =>
    match c.step exec i a with
    | none => True
    | some c' =>
      c.Allowed cond i a ∧ Meets exec cond c' rest

instance Meets.decidable
    (exec : Exec Res Ans W)
    (cond : StepCond Res Ans W)
    [∀ tr o a w, Decidable (cond tr o a w)] :
    (c : Config Res Ans W α) →
      (schedule : List (Nat × Ans)) →
        Decidable (Meets exec cond c schedule)
  | _, [] => .isTrue trivial
  | c, (i, a) :: rest => by
      unfold Meets
      exact
        match c.step exec i a with
        | none => .isTrue trivial
        | some c' =>
          have := Meets.decidable exec cond c' rest
          instDecidableAnd

/- A condition that every step meets. -/
theorem Meets.of_forall
    (hCond : ∀ tr o a w, cond tr o a w)
    (c : Config Res Ans W α)
    (schedule : List (Nat × Ans)) :
    Meets exec cond c schedule := by
  induction schedule generalizing c with
  | nil => trivial
  | cons turn rest ih =>
    unfold Meets
    split
    · trivial
    · refine ⟨?_, ih _⟩
      unfold Config.Allowed
      split
      · exact hCond _ _ _ _
      · trivial

theorem trans
    {c₀ c₁ c₂ : Config Res Ans W α}
    (hFirst : Reach exec cond c₀ c₁)
    (hSecond : Reach exec cond c₁ c₂) :
    Reach exec cond c₀ c₂ := by
  induction hSecond with
  | refl => exact hFirst
  | step _ hStep hAllowed ih =>
    exact Reach.step ih hStep hAllowed

theorem of_run
    {c c' : Config Res Ans W α}
    {schedule : List (Nat × Ans)}
    (hRun : c.run exec schedule = some c')
    (hMeets : Meets exec cond c schedule) :
    Reach exec cond c c' := by
  induction schedule generalizing c with
  | nil =>
    rw [← Option.some.inj hRun]
    exact Reach.refl
  | cons s rest ih =>
    rcases s with ⟨i, a⟩
    rcases Option.bind_eq_some_iff.mp hRun with
      ⟨d, hStep, hRest⟩
    simp only [Meets, hStep] at hMeets
    have hFirst : Reach exec cond c d :=
      Reach.step Reach.refl hStep hMeets.1
    exact hFirst.trans (ih hRest hMeets.2)

end Reach

end

--------
-- Accounts Kept By Every Thread
--------

namespace Prog

section

variable {Op : Type} {Res : Op → Type} {Ans W α β M : Type}
variable [AddCommMonoid M]

/-
  What a thread owes to the shared accounts.

  The invariant `inv` relates the world to the sum of the
  holdings of all threads.  A thread that holds `g` keeps it
  when each of its steps, from any world and any holdings `m`
  of the other threads, leads to new holdings of its own that
  restore the invariant.  `link` ties the holdings of a thread
  to its past, `post` to its past and its result.
-/
def Keeps
    (exec : Exec Res Ans W)
    (cond : StepCond Res Ans W)
    (inv : W → M → Prop)
    (link : List (Event Res Ans) → M → Prop)
    (post : List (Event Res Ans) → M → α → Prop) :
    List (Event Res Ans) → M → Prog Res α → Prop
  | tr, g, .ret a => link tr g ∧ post tr g a
  | tr, g, .call o k =>
    link tr g ∧ ∀ a w m, inv w (g + m) → cond tr o a w →
        ∃ g', inv (exec o a w).2 (g' + m) ∧
            Keeps exec cond inv link post
              (⟨o, a, (exec o a w).1⟩ :: tr) g'
              (k (exec o a w).1)

/- A thread that has not begun holds nothing. -/
def Begun
    (link : List (Event Res Ans) → M → Prop) :
    List (Event Res Ans) → M → Prop :=
  fun tr g => link tr g ∧ (tr = [] → g = 0)

namespace Keeps

variable {exec : Exec Res Ans W} {cond : StepCond Res Ans W}
variable {inv : W → M → Prop}
variable {link : List (Event Res Ans) → M → Prop}
variable {post : List (Event Res Ans) → M → α → Prop}

variable {tr : List (Event Res Ans)} {p : Prog Res α}

theorem link_of
    {g : M}
    (hKeeps : p.Keeps exec cond inv link post tr g) :
    link tr g := by
  cases p with
  | ret a => exact hKeeps.1
  | call o k => exact hKeeps.1

/- Sequential composition. -/
theorem bind
    {f : α → Prog Res β}
    {post' : List (Event Res Ans) → M → β → Prop}
    {g : M}
    (hFirst : p.Keeps exec cond inv link post tr g)
    (hNext :
      ∀ tr g a, post tr g a → link tr g →
        (f a).Keeps exec cond inv link post' tr g) :
    (p.bind f).Keeps exec cond inv link post' tr g := by
  induction p generalizing tr g with
  | ret a => exact hNext tr g a hFirst.2 hFirst.1
  | call o k ih =>
    refine ⟨hFirst.1, ?_⟩
    intro a w m hInv hCond
    rcases hFirst.2 a w m hInv hCond with ⟨g', hInv', hRest⟩
    exact ⟨g', hInv', ih _ hRest⟩

theorem mono
    {post' : List (Event Res Ans) → M → α → Prop}
    {g : M}
    (hKeeps : p.Keeps exec cond inv link post tr g)
    (hPost : ∀ tr g a, post tr g a → post' tr g a) :
    p.Keeps exec cond inv link post' tr g := by
  induction p generalizing tr g with
  | ret a => exact ⟨hKeeps.1, hPost tr g a hKeeps.2⟩
  | call o k ih =>
    refine ⟨hKeeps.1, ?_⟩
    intro a w m hInv hCond
    rcases hKeeps.2 a w m hInv hCond with ⟨g', hInv', hRest⟩
    exact ⟨g', hInv', ih _ hRest⟩

/- A thread that begins with nothing. -/
theorem from_nothing
    {g : M}
    (hKeeps : p.Keeps exec cond inv link post tr g)
    (hStart : tr = [] → g = 0) :
    p.Keeps exec cond inv (Begun link) post tr g := by
  induction p generalizing tr g with
  | ret a => exact ⟨⟨hKeeps.1, hStart⟩, hKeeps.2⟩
  | call o k ih =>
    refine ⟨⟨hKeeps.1, hStart⟩, ?_⟩
    intro a w m hInv hCond
    rcases hKeeps.2 a w m hInv hCond with ⟨g', hInv', hRest⟩
    exact ⟨g', hInv', ih _ hRest (fun h => nomatch h)⟩

end Keeps

/- The past grew by operations that satisfy `P`. -/
inductive Extends
    (P : Op → Prop)
    (tr : List (Event Res Ans)) :
    List (Event Res Ans) → Prop
  | refl : Extends P tr tr
  | cons
      {tr' : List (Event Res Ans)}
      {e : Event Res Ans}
      (hExtends : Extends P tr tr')
      (hOp : P e.op) : Extends P tr (e :: tr')

/- Every operation the program may call satisfies `P`. -/
def Uses (P : Op → Prop) : Prog Res α → Prop
  | .ret _ => True
  | .call o k => P o ∧ ∀ r, (k r).Uses P

namespace Uses

variable {P : Op → Prop}

variable {p : Prog Res α}

theorem bind
    {f : α → Prog Res β}
    (hFirst : p.Uses P)
    (hNext : ∀ a, (f a).Uses P) :
    (p.bind f).Uses P := by
  induction p with
  | ret a => exact hNext a
  | call o k ih =>
    exact ⟨hFirst.1, fun r => ih r (hFirst.2 r)⟩

theorem mono
    {Q : Op → Prop}
    (hUses : p.Uses P)
    (hOps : ∀ o, P o → Q o) :
    p.Uses Q := by
  induction p with
  | ret a => trivial
  | call o k ih =>
    exact ⟨hOps o hUses.1, fun r => ih r (hUses.2 r)⟩

/-
  A program whose operations all preserve the invariant
  keeps whatever it holds.
-/
theorem keeps
    {exec : Exec Res Ans W}
    {cond : StepCond Res Ans W}
    {inv : W → M → Prop}
    {link : List (Event Res Ans) → M → Prop}
    {g : M}
    (hUses : p.Uses P)
    (hStep :
      ∀ o a w m, P o → inv w (g + m) →
        inv (exec o a w).2 (g + m))
    (hLink : ∀ e tr, P e.op → link tr g → link (e :: tr) g)
    {tr : List (Event Res Ans)}
    (hStart : link tr g) :
    p.Keeps exec cond inv link
      (fun tr' g' _ => g' = g ∧ Extends P tr tr') tr g := by
  have hGeneral :
      ∀ tr', Extends P tr tr' → link tr' g →
        p.Keeps exec cond inv link
          (fun tr' g' _ => g' = g ∧ Extends P tr tr')
          tr' g := by
    induction p with
    | ret a =>
      intro tr' hExtends hTr'
      exact ⟨hTr', rfl, hExtends⟩
    | call o k ih =>
      intro tr' hExtends hTr'
      refine ⟨hTr', ?_⟩
      intro a w m hInv _
      refine ⟨g, hStep o a w m hUses.1 hInv, ?_⟩
      exact ih _ (hUses.2 _) _ (hExtends.cons hUses.1)
        (hLink _ _ hUses.1 hTr')
  exact hGeneral tr Extends.refl hStart

end Uses

end

end Prog

--------
-- The Accounts Of A Whole Run
--------

section

variable {Op : Type} {Res : Op → Type} {Ans W α M : Type}
variable [AddCommMonoid M]

/- Threads with holdings that add up to the accounts. -/
def Balanced
    (exec : Exec Res Ans W)
    (cond : StepCond Res Ans W)
    (inv : W → M → Prop)
    (link : List (Event Res Ans) → M → Prop)
    (post : List (Event Res Ans) → M → α → Prop)
    (c : Config Res Ans W α) : Prop :=
  ∃ gs : List M, inv c.world gs.sum ∧ List.Forall₂
        (fun g (t : Thread Res Ans α) =>
          t.prog.Keeps exec cond inv (Prog.Begun link) post
            t.trace g)
        gs c.threads

namespace Balanced

variable {exec : Exec Res Ans W} {cond : StepCond Res Ans W}
variable {inv : W → M → Prop}
variable {link : List (Event Res Ans) → M → Prop}
variable {post : List (Event Res Ans) → M → α → Prop}

/- Requests that hold nothing before they start. -/
theorem start
    {w : W}
    {ps : List (Prog Res α)}
    (hInv : inv w 0)
    (hKeeps :
      ∀ p ∈ ps, p.Keeps exec cond inv link post [] 0) :
    Balanced exec cond inv link post
      (Config.start w ps) := by
  refine ⟨ps.map (fun _ => 0), ?_, ?_⟩
  · have hSum : (ps.map (fun _ => (0 : M))).sum = 0 := by
      simp
    rw [hSum]
    exact hInv
  · unfold Config.start
    rw [List.forall₂_map_left_iff,
      List.forall₂_map_right_iff, List.forall₂_same]
    intro p hMem
    exact (hKeeps p hMem).from_nothing (fun _ => rfl)

/- One step of one thread. -/
theorem step
    {c c' : Config Res Ans W α}
    {i : Nat}
    {a : Ans}
    (hBalanced : Balanced exec cond inv link post c)
    (hStep : c.step exec i a = some c')
    (hAllowed : c.Allowed cond i a) :
    Balanced exec cond inv link post c' := by
  rcases Config.step_eq_some_iff.mp hStep with
    ⟨tr, o, k, hThread, rfl⟩
  rcases hBalanced with ⟨gs, hInv, hAll⟩
  have hCond : cond tr o a c.world := by
    simpa [Config.Allowed, hThread] using hAllowed
  rcases List.getElem?_eq_some_iff.mp hThread with
    ⟨hLt, hGet⟩
  have hSplit :
      c.threads = c.threads.take i ++
          ⟨tr, .call o k⟩ :: c.threads.drop (i + 1) := by
    rw [← hGet, List.getElem_cons_drop,
      List.take_append_drop]
  rw [hSplit] at hAll
  have hBefore := List.forall₂_take_append _ _ _ hAll
  have hRest := List.forall₂_drop_append _ _ _ hAll
  rw [← List.take_append_drop
    (c.threads.take i).length gs] at hInv
  generalize gs.take (c.threads.take i).length = before
    at hBefore hInv
  generalize gs.drop (c.threads.take i).length = rest
    at hRest hInv
  rcases List.forall₂_cons_right_iff.mp hRest with
    ⟨g, after, hThis, hAfter, rfl⟩
  have hSum :
      (before ++ g :: after).sum =
        g + (before.sum + after.sum) := by
    simp only [List.sum_append, List.sum_cons]
    exact add_left_comm _ _ _
  rw [hSum] at hInv
  rcases hThis.2 a c.world _ hInv hCond with
    ⟨g', hInv', hKeeps⟩
  refine ⟨before ++ g' :: after, ?_, ?_⟩
  · have hSum' :
        (before ++ g' :: after).sum =
          g' + (before.sum + after.sum) := by
      simp only [List.sum_append, List.sum_cons]
      exact add_left_comm _ _ _
    rw [hSum']
    exact hInv'
  · have hSet :
        c.threads.set i ⟨⟨o, a, (exec o a c.world).1⟩ :: tr,
              k (exec o a c.world).1⟩ =
          c.threads.take i ++
            ⟨⟨o, a, (exec o a c.world).1⟩ :: tr,
              k (exec o a c.world).1⟩ ::
              c.threads.drop (i + 1) :=
      List.set_eq_take_append_cons_drop.trans (if_pos hLt)
    simp only [hSet]
    exact List.rel_append hBefore
      (List.Forall₂.cons hKeeps hAfter)

/- A quantity that every thread can read off its past. -/
theorem map_sum
    {N : Type}
    [AddCommMonoid N]
    (f : M →+ N)
    (measure : List (Event Res Ans) → N)
    (hMeasure : ∀ tr g, link tr g → f g = measure tr)
    {gs : List M}
    {ts : List (Thread Res Ans α)}
    (hAll :
      List.Forall₂ (fun g (t : Thread Res Ans α) =>
          t.prog.Keeps exec cond inv (Prog.Begun link) post
            t.trace g)
        gs ts) :
    f gs.sum = (ts.map (fun t => measure t.trace)).sum := by
  induction hAll with
  | nil => simp
  | cons hKeeps _ ih =>
    rw [List.sum_cons, map_add, ih, List.map_cons,
      List.sum_cons, hMeasure _ _ hKeeps.link_of.1]

/- Threads that are not in progress hold nothing. -/
theorem idle_map_sum
    {N : Type}
    [AddCommMonoid N]
    (f : M →+ N)
    (hPost : ∀ tr g a, post tr g a → f g = 0)
    {gs : List M}
    {ts : List (Thread Res Ans α)}
    (hAll :
      List.Forall₂ (fun g (t : Thread Res Ans α) =>
          t.prog.Keeps exec cond inv (Prog.Begun link) post
            t.trace g)
        gs ts)
    (hIdle :
      ∀ t ∈ ts, t.trace = [] ∨ t.prog.isDone = true) :
    f gs.sum = 0 := by
  induction hAll with
  | nil => simp
  | @cons g t gs ts hKeeps _ ih =>
    have hTail := ih
      (fun t' ht' => hIdle t' (List.mem_cons_of_mem _ ht'))
    have hHead : f g = 0 := by
      rcases hIdle t List.mem_cons_self with hNew | hDone
      · rw [hKeeps.link_of.2 hNew, map_zero]
      · rcases Prog.isDone_iff.mp hDone with ⟨a, hRet⟩
        rw [hRet] at hKeeps
        exact hPost _ _ _ hKeeps.2
    rw [List.sum_cons, map_add, hTail, hHead, add_zero]

end Balanced

/- The accounts hold along every run. -/
theorem Reach.accounts
    {exec : Exec Res Ans W}
    {cond : StepCond Res Ans W}
    {inv : W → M → Prop}
    {link : List (Event Res Ans) → M → Prop}
    {post : List (Event Res Ans) → M → α → Prop}
    {c₀ c : Config Res Ans W α}
    (hStart : Balanced exec cond inv link post c₀)
    (hReach : Reach exec cond c₀ c) :
    Balanced exec cond inv link post c := by
  induction hReach with
  | refl => exact hStart
  | step _ hStep hAllowed ih =>
    exact ih.step hStep hAllowed

end

end Conc
