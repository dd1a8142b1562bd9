import Orignabase.Lib.Prog

/-
  Runs with a journal of their steps, and what the threads of
  a run can call.

  Key definitions include:
    * `Runs`
    * `InTurn`
    * `Prog.Along`

  Main results:
    * `Runs.trace_eq`
    * `Prog.Along.bind`
    * `Reach.along`
    * `Reach.shares`
    * `InTurn.shares`
-/

--------
-- Journals
--------

namespace Conc

section

variable {Op : Type} (Res : Op → Type) (Ans : Type)

/- One step of a run: the thread, its past and the event. -/
structure Entry where
  thread : Nat
  past : List (Event Res Ans)
  event : Event Res Ans

end

variable {i : Nat}

section

variable {Op : Type} {Res : Op → Type} {Ans W α : Type}

/- What a step of thread `i` adds to the journal. -/
def Config.entry
    (exec : Exec Res Ans W)
    (c : Config Res Ans W α)
    (i : Nat)
    (a : Ans) : Option (Entry Res Ans) :=
  match c.threads[i]? with
  | some ⟨tr, .call o _⟩ =>
    some ⟨i, tr, ⟨o, a, (exec o a c.world).1⟩⟩
  | _ => none

/-
  Configurations reached by steps that meet `cond`, with the
  journal of the steps, latest first.
-/
inductive Runs
    (exec : Exec Res Ans W)
    (cond : StepCond Res Ans W)
    (c₀ : Config Res Ans W α) :
    List (Entry Res Ans) → Config Res Ans W α → Prop
  | refl : Runs exec cond c₀ [] c₀
  | step
      {log : List (Entry Res Ans)}
      {c c' : Config Res Ans W α}
      {i : Nat}
      {a : Ans}
      {e : Entry Res Ans}
      (hRuns : Runs exec cond c₀ log c)
      (hEntry : c.entry exec i a = some e)
      (hStep : c.step exec i a = some c')
      (hAllowed : c.Allowed cond i a) :
      Runs exec cond c₀ (e :: log) c'

namespace Runs

variable {exec : Exec Res Ans W} {cond : StepCond Res Ans W}
variable {c₀ c : Config Res Ans W α}
variable {log : List (Entry Res Ans)}

theorem reach (hRuns : Runs exec cond c₀ log c) :
    Reach exec cond c₀ c := by
  induction hRuns with
  | refl => exact Reach.refl
  | step _ _ hStep hAllowed ih =>
    exact Reach.step ih hStep hAllowed

/- The journal holds the past of every thread. -/
theorem trace_eq
    {w : W}
    {ps : List (Prog Res α)}
    (hRuns : Runs exec cond (Config.start w ps) log c)
    {t : Thread Res Ans α}
    (hThread : c.threads[i]? = some t) :
    (log.filter (fun e => e.thread = i)).map Entry.event =
      t.trace := by
  induction hRuns generalizing t with
  | refl =>
    simp only [Config.start, List.getElem?_map,
      Option.map_eq_some_iff] at hThread
    rcases hThread with ⟨p, _, rfl⟩
    rfl
  | @step log c c' j a e hRuns hEntry hStep _ ih =>
    rcases Config.step_eq_some_iff.mp hStep with
      ⟨tr, o, k, hGet, rfl⟩
    simp only [Config.entry, hGet,
      Option.some.injEq] at hEntry
    subst hEntry
    by_cases hSame : j = i
    · subst hSame
      have hLt := (List.getElem?_eq_some_iff.mp hGet).1
      rw [List.getElem?_set_self hLt] at hThread
      rw [← Option.some.inj hThread]
      simp [ih hGet]
    · rw [List.getElem?_set_ne hSame] at hThread
      simp [hSame, ih hThread]

/- The world is what the journal makes of the first one. -/
theorem world_eq (hRuns : Runs exec cond c₀ log c) :
    c.world = log.foldr
        (fun e w => (exec e.event.op e.event.ans w).2)
        c₀.world := by
  induction hRuns with
  | refl => rfl
  | @step log c c' i a e hRuns hEntry hStep _ ih =>
    rcases Config.step_eq_some_iff.mp hStep with
      ⟨tr, o, k, hThread, rfl⟩
    simp only [Config.entry, hThread,
      Option.some.injEq] at hEntry
    subst hEntry
    rw [List.foldr_cons, ← ih]

end Runs

/- The journal of a schedule, in front of a given one. -/
def Config.journal
    (exec : Exec Res Ans W) :
    Config Res Ans W α → List (Nat × Ans) →
      List (Entry Res Ans) → List (Entry Res Ans)
  | _, [], log => log
  | c, (i, a) :: rest, log =>
    match c.entry exec i a, c.step exec i a with
    | some e, some c' => c'.journal exec rest (e :: log)
    | _, _ => log

theorem Config.entry_of_step
    {exec : Exec Res Ans W}
    {c c' : Config Res Ans W α}
    {a : Ans}
    (hStep : c.step exec i a = some c') :
    ∃ e, c.entry exec i a = some e := by
  rcases Config.step_eq_some_iff.mp hStep with
    ⟨tr, o, k, hThread, _⟩
  simp [Config.entry, hThread]

theorem Runs.of_run
    {exec : Exec Res Ans W}
    {cond : StepCond Res Ans W}
    {c₀ c c' : Config Res Ans W α}
    {log : List (Entry Res Ans)}
    {schedule : List (Nat × Ans)}
    (hRuns : Runs exec cond c₀ log c)
    (hRun : c.run exec schedule = some c')
    (hMeets : Reach.Meets exec cond c schedule) :
    Runs exec cond c₀ (c.journal exec schedule log) c' := by
  induction schedule generalizing c log with
  | nil =>
    rw [← Option.some.inj hRun]
    exact hRuns
  | cons s rest ih =>
    rcases s with ⟨i, a⟩
    rcases Option.bind_eq_some_iff.mp hRun with
      ⟨d, hStep, hRest⟩
    rcases Config.entry_of_step hStep with ⟨e, hEntry⟩
    simp only [Reach.Meets, hStep] at hMeets
    simp only [Config.journal, hEntry, hStep]
    exact ih (hRuns.step hEntry hStep hMeets.1) hRest
      hMeets.2

end

--------
-- One Program At A Time
--------

section

variable {Op : Type} {Res : Op → Type} {Ans W α : Type}

/- All other threads have not begun or have ended. -/
def Config.alone (c : Config Res Ans W α) (i : Nat) : Bool :=
  c.threads.zipIdx.all (fun entry =>
    entry.2 = i || entry.1.trace.isEmpty ||
      entry.1.prog.isDone)

theorem Config.alone_iff
    {c : Config Res Ans W α} :
    c.alone i = true ↔ ∀ j t, c.threads[j]? = some t →
        j = i ∨ t.trace = [] ∨ t.prog.isDone = true := by
  simp only [Config.alone, List.all_eq_true,
    List.mem_zipIdx_iff_getElem?, Bool.or_eq_true,
    decide_eq_true_eq, List.isEmpty_iff, or_assoc]
  constructor
  · intro hAll j t hThread
    exact hAll (t, j) hThread
  · intro hAll entry hEntry
    exact hAll entry.2 entry.1 hEntry

/- Configurations reached by one program at a time. -/
inductive InTurn
    (exec : Exec Res Ans W)
    (cond : StepCond Res Ans W)
    (c₀ : Config Res Ans W α) :
    Config Res Ans W α → Prop
  | refl : InTurn exec cond c₀ c₀
  | step
      {c c' : Config Res Ans W α}
      {i : Nat}
      {a : Ans}
      (hInTurn : InTurn exec cond c₀ c)
      (hStep : c.step exec i a = some c')
      (hAllowed : c.Allowed cond i a)
      (hAlone : c.alone i = true) :
      InTurn exec cond c₀ c'

namespace InTurn

variable {exec : Exec Res Ans W} {cond : StepCond Res Ans W}

theorem reach
    {c₀ c : Config Res Ans W α}
    (hInTurn : InTurn exec cond c₀ c) :
    Reach exec cond c₀ c := by
  induction hInTurn with
  | refl => exact Reach.refl
  | step _ hStep hAllowed _ ih =>
    exact Reach.step ih hStep hAllowed

/- A schedule that lets every program end. -/
def Meets
    (exec : Exec Res Ans W) :
    Config Res Ans W α → List (Nat × Ans) → Bool
  | _, [] => true
  | c, (i, a) :: rest =>
    match c.step exec i a with
    | none => true
    | some c' => c.alone i && Meets exec c' rest

theorem of_run
    {c₀ c c' : Config Res Ans W α}
    {schedule : List (Nat × Ans)}
    (hInTurn : InTurn exec cond c₀ c)
    (hRun : c.run exec schedule = some c')
    (hMeets : Reach.Meets exec cond c schedule)
    (hAlone : Meets exec c schedule = true) :
    InTurn exec cond c₀ c' := by
  induction schedule generalizing c with
  | nil =>
    rw [← Option.some.inj hRun]
    exact hInTurn
  | cons s rest ih =>
    rcases s with ⟨i, a⟩
    rcases Option.bind_eq_some_iff.mp hRun with
      ⟨d, hStep, hRest⟩
    simp only [Reach.Meets, hStep] at hMeets
    simp only [Meets, hStep, Bool.and_eq_true] at hAlone
    exact ih (hInTurn.step hStep hMeets.1 hAlone.1) hRest
      hMeets.2 hAlone.2

end InTurn

end

--------
-- What A Program Can Call
--------

section

variable {Op : Type} {Res : Op → Type} {Ans W α β : Type}

/-
  Every operation the program may call satisfies `can` with
  the past at that point, and every result satisfies `post`,
  as long as the events satisfy `valid`.
-/
def Prog.Along
    (valid : Event Res Ans → Prop)
    (can : List (Event Res Ans) → Op → Prop)
    (post : List (Event Res Ans) → α → Prop) :
    List (Event Res Ans) → Prog Res α → Prop
  | tr, .ret a => post tr a
  | tr, .call o k =>
    can tr o ∧ ∀ a r, valid ⟨o, a, r⟩ →
        (k r).Along valid can post (⟨o, a, r⟩ :: tr)

namespace Prog.Along

variable {valid : Event Res Ans → Prop}
variable {can : List (Event Res Ans) → Op → Prop}
variable {post : List (Event Res Ans) → α → Prop}

variable {p : Prog Res α} {tr : List (Event Res Ans)}

theorem bind
    {f : α → Prog Res β}
    {post' : List (Event Res Ans) → β → Prop}
    (hFirst : p.Along valid can post tr)
    (hNext :
      ∀ tr a, post tr a → (f a).Along valid can post' tr) :
    (p.bind f).Along valid can post' tr := by
  induction p generalizing tr with
  | ret a => exact hNext tr a hFirst
  | call o k ih =>
    refine ⟨hFirst.1, ?_⟩
    intro a r hValid
    exact ih r (hFirst.2 a r hValid)

theorem mono
    {can' : List (Event Res Ans) → Op → Prop}
    {post' : List (Event Res Ans) → α → Prop}
    (hAlong : p.Along valid can post tr)
    (hCan : ∀ tr o, can tr o → can' tr o)
    (hPost : ∀ tr a, post tr a → post' tr a) :
    p.Along valid can' post' tr := by
  induction p generalizing tr with
  | ret a => exact hPost tr a hAlong
  | call o k ih =>
    refine ⟨hCan tr o hAlong.1, ?_⟩
    intro a r hValid
    exact ih r (hAlong.2 a r hValid)

/- What two rules say of one program. -/
theorem both
    {valid' : Event Res Ans → Prop}
    {can' : List (Event Res Ans) → Op → Prop}
    {post' : List (Event Res Ans) → α → Prop}
    (hFirst : p.Along valid can post tr)
    (hSecond : p.Along valid' can' post' tr)
    (hValid : ∀ e, valid' e → valid e) :
    p.Along valid' (fun tr o => can tr o ∧ can' tr o)
      (fun tr a => post tr a ∧ post' tr a) tr := by
  induction p generalizing tr with
  | ret a => exact ⟨hFirst, hSecond⟩
  | call o k ih =>
    refine ⟨⟨hFirst.1, hSecond.1⟩, ?_⟩
    intro a r hEvent
    exact ih r (hFirst.2 a r (hValid _ hEvent))
      (hSecond.2 a r hEvent)

end Prog.Along

variable {valid : Event Res Ans → Prop}
variable {can : List (Event Res Ans) → Op → Prop}
variable {P : Op → Prop} {tr : List (Event Res Ans)}
variable {ι : Type} {exec : Exec Res Ans W}
variable {cond : StepCond Res Ans W}
variable {c₀ c : Config Res Ans W α} {w : W}
variable {inv : W → Prop} {ps : List (Prog Res α)}

/- Nothing is asked of the program. -/
theorem Prog.Along.any
    (p : Prog Res α)
    (tr : List (Event Res Ans)) :
    p.Along valid (fun _ _ => True) (fun _ _ => True) tr := by
  induction p generalizing tr with
  | ret a => trivial
  | call o k ih => exact ⟨trivial, fun a r _ => ih r _⟩

/- Operations that need no past. -/
theorem Prog.Uses.along
    {p : Prog Res α}
    (hUses : p.Uses P)
    (hCan :
      ∀ tr' o, Extends P tr tr' → P o → can tr' o) :
    p.Along valid can
      (fun tr' _ => Extends P tr tr') tr := by
  have hGeneral :
      ∀ tr', Extends P tr tr' → p.Along valid can
          (fun tr' _ => Extends P tr tr') tr' := by
    induction p with
    | ret a =>
      intro tr' hExtends
      exact hExtends
    | call o k ih =>
      intro tr' hExtends
      refine ⟨hCan tr' o hExtends hUses.1, ?_⟩
      intro a r _
      exact ih r (hUses.2 r) _ (hExtends.cons hUses.1)
  exact hGeneral tr Extends.refl

/- Every result the program may have satisfies `P`. -/
def Prog.Returns (P : α → Prop) : Prog Res α → Prop
  | .ret a => P a
  | .call _ k => ∀ r, (k r).Returns P

/- A program of operations that leave the past as it looks. -/
theorem Prog.Uses.along_returns
    {Q : α → Prop}
    {p : Prog Res α}
    (hUses : p.Uses P)
    (hReturns : p.Returns Q)
    (hCan : ∀ tr' o, P o → can tr' o) :
    p.Along valid can
      (fun tr' r => Extends P tr tr' ∧ Q r) tr := by
  have hGeneral :
      ∀ tr', Extends P tr tr' → p.Along valid can
          (fun tr' r => Extends P tr tr' ∧ Q r) tr' := by
    induction p with
    | ret a =>
      intro tr' hExtends
      exact ⟨hExtends, hReturns⟩
    | call o k ih =>
      intro tr' hExtends
      refine ⟨hCan tr' o hUses.1, ?_⟩
      intro a r _
      exact ih r (hUses.2 r) (hReturns r) _
        (hExtends.cons hUses.1)
  exact hGeneral tr Extends.refl

/- Every operation of a past could be called at its point. -/
def Could (can : List (Event Res Ans) → Op → Prop) :
    List (Event Res Ans) → Prop
  | [] => True
  | e :: tr => can tr e.op ∧ Could can tr

theorem Could.of_suffix
    {past : List (Event Res Ans)}
    {e : Event Res Ans}
    (hCould : Could can tr)
    (hSuffix : e :: past <:+ tr) :
    can past e.op := by
  induction tr with
  | nil => exact absurd hSuffix.length_le (by simp)
  | cons e' tr ih =>
    rcases List.suffix_cons_iff.mp hSuffix with hEq | hRest
    · cases hEq
      exact hCould.1
    · exact ih hCould.2 hRest

/- All threads stay within what their calls allow. -/
def Config.Within
    {ι : Type}
    (valid : Event Res Ans → Prop)
    (can : ι → List (Event Res Ans) → Op → Prop)
    (post : ι → List (Event Res Ans) → α → Prop)
    (calls : List ι)
    (c : Config Res Ans W α) : Prop :=
  ∀ (i : Nat) t, c.threads[i]? = some t →
    ∃ x, calls[i]? = some x ∧
      t.prog.Along valid (can x) (post x) t.trace

variable {post : ι → List (Event Res Ans) → α → Prop}
variable {body : ι → Prog Res α} {calls : List ι}

theorem Config.within_start
    {can : ι → List (Event Res Ans) → Op → Prop}
    (hAlong :
      ∀ x ∈ calls, (body x).Along valid (can x) (post x) [])
    (w : W) :
    (Config.start w (calls.map body)).Within valid can post
      calls := by
  intro i t hThread
  simp only [Config.start, List.map_map,
    List.getElem?_map, Option.map_eq_some_iff] at hThread
  rcases hThread with ⟨x, hx, rfl⟩
  exact ⟨x, hx, hAlong x (List.mem_of_getElem? hx)⟩

/- In a run, all threads stay within what they can call. -/
theorem Reach.within
    {can : ι → List (Event Res Ans) → Op → Prop}
    (hValid :
      ∀ tr o a w, cond tr o a w →
        valid ⟨o, a, (exec o a w).1⟩)
    (hWithin : c₀.Within valid can post calls)
    (hReach : Reach exec cond c₀ c) :
    c.Within valid can post calls := by
  induction hReach with
  | refl => exact hWithin
  | @step c c' j a _ hStep hAllowed ih =>
    rcases Config.step_eq_some_iff.mp hStep with
      ⟨tr, o, k, hThread, rfl⟩
    have hCond : cond tr o a c.world := by
      simpa [Config.Allowed, hThread] using hAllowed
    intro i t hGet
    by_cases hSame : j = i
    · subst hSame
      have hLt := (List.getElem?_eq_some_iff.mp hThread).1
      rw [List.getElem?_set_self hLt] at hGet
      rw [← Option.some.inj hGet]
      rcases ih j _ hThread with ⟨x, hx, hNow⟩
      exact ⟨x, hx, hNow.2 a _ (hValid _ _ _ _ hCond)⟩
    · rw [List.getElem?_set_ne hSame] at hGet
      exact ih i t hGet

theorem Reach.along
    {can : ι → List (Event Res Ans) → Op → Prop}
    (hValid :
      ∀ tr o a w, cond tr o a w →
        valid ⟨o, a, (exec o a w).1⟩)
    (hAlong :
      ∀ x ∈ calls, (body x).Along valid (can x) (post x) [])
    (hReach :
      Reach exec cond (Config.start w (calls.map body)) c) :
    ∀ (i : Nat) t, c.threads[i]? = some t →
      ∃ x, calls[i]? = some x ∧
        t.prog.Along valid (can x) (post x) t.trace :=
  hReach.within hValid (Config.within_start hAlong w)

/- In a run, all threads called only what they can. -/
theorem Reach.could
    {can : ι → List (Event Res Ans) → Op → Prop}
    (hValid :
      ∀ tr o a w, cond tr o a w →
        valid ⟨o, a, (exec o a w).1⟩)
    (hAlong :
      ∀ x ∈ calls, (body x).Along valid (can x) (post x) [])
    (hReach :
      Reach exec cond (Config.start w (calls.map body)) c) :
    ∀ (i : Nat) t, c.threads[i]? = some t →
      ∀ x, calls[i]? = some x → Could (can x) t.trace := by
  induction hReach with
  | refl =>
    intro i t hThread x _
    simp only [Config.start, List.map_map,
      List.getElem?_map, Option.map_eq_some_iff] at hThread
    rcases hThread with ⟨y, _, rfl⟩
    trivial
  | @step c c' j a hReach hStep hAllowed ih =>
    rcases Config.step_eq_some_iff.mp hStep with
      ⟨tr, o, k, hThread, rfl⟩
    intro i t hGet x hx
    by_cases hSame : j = i
    · subst hSame
      have hLt := (List.getElem?_eq_some_iff.mp hThread).1
      rw [List.getElem?_set_self hLt] at hGet
      rw [← Option.some.inj hGet]
      rcases hReach.along hValid hAlong j _ hThread with
        ⟨y, hy, hNow⟩
      cases hx.symm.trans hy
      exact ⟨hNow.1, ih j _ hThread x hx⟩
    · rw [List.getElem?_set_ne hSame] at hGet
      exact ih i t hGet x hx

/-
  What the threads of a run know of the world.  Thread `i`,
  which runs `x`, knows `own i x` of its past and the world:
  its own steps establish it, with the invariant, and the
  steps of the others leave it alone.
-/
theorem Reach.shares_from
    {can : ι → List (Event Res Ans) → Op → Prop}
    {own : Nat → ι → List (Event Res Ans) → W → Prop}
    (hValid :
      ∀ tr o a w, cond tr o a w →
        valid ⟨o, a, (exec o a w).1⟩)
    (hWithin : c₀.Within valid can post calls)
    (hOwn :
      ∀ i x tr o a w, calls[i]? = some x → can x tr o →
        cond tr o a w → inv w → own i x tr w →
          inv (exec o a w).2 ∧
            own i x (⟨o, a, (exec o a w).1⟩ :: tr)
              (exec o a w).2)
    (hOther :
      ∀ i x tr o a w j y tr', i ≠ j →
        calls[i]? = some x → calls[j]? = some y →
          can x tr o → cond tr o a w → inv w →
            own i x tr w → own j y tr' w →
              own j y tr' (exec o a w).2)
    (hStart : inv c₀.world)
    (hOwnStart :
      ∀ (i : Nat) t x, c₀.threads[i]? = some t →
        calls[i]? = some x → own i x t.trace c₀.world)
    (hReach : Reach exec cond c₀ c) :
    inv c.world ∧ ∀ (i : Nat) t x, c.threads[i]? = some t →
        calls[i]? = some x → own i x t.trace c.world := by
  induction hReach with
  | refl => exact ⟨hStart, hOwnStart⟩
  | @step c c' i a hReach hStep hAllowed ih =>
    rcases Config.step_eq_some_iff.mp hStep with
      ⟨tr, o, k, hThread, rfl⟩
    have hCond : cond tr o a c.world := by
      simpa [Config.Allowed, hThread] using hAllowed
    rcases hReach.within hValid hWithin i _ hThread with
      ⟨x, hx, hNow⟩
    have hMine := ih.2 i _ x hThread hx
    have hBoth :=
      hOwn i x tr o a c.world hx hNow.1 hCond ih.1 hMine
    refine ⟨hBoth.1, ?_⟩
    intro j t y hGet hy
    by_cases hSame : i = j
    · subst hSame
      have hLt := (List.getElem?_eq_some_iff.mp hThread).1
      rw [List.getElem?_set_self hLt] at hGet
      rw [← Option.some.inj hGet]
      cases hx.symm.trans hy
      exact hBoth.2
    · rw [List.getElem?_set_ne hSame] at hGet
      exact hOther i x tr o a c.world j y t.trace hSame hx
        hy hNow.1 hCond ih.1 hMine (ih.2 j t y hGet hy)

theorem Reach.shares
    {can : ι → List (Event Res Ans) → Op → Prop}
    {own : Nat → ι → List (Event Res Ans) → W → Prop}
    (hValid :
      ∀ tr o a w, cond tr o a w →
        valid ⟨o, a, (exec o a w).1⟩)
    (hAlong :
      ∀ x ∈ calls, (body x).Along valid (can x) (post x) [])
    (hOwn :
      ∀ i x tr o a w, calls[i]? = some x → can x tr o →
        cond tr o a w → inv w → own i x tr w →
          inv (exec o a w).2 ∧
            own i x (⟨o, a, (exec o a w).1⟩ :: tr)
              (exec o a w).2)
    (hOther :
      ∀ i x tr o a w j y tr', i ≠ j →
        calls[i]? = some x → calls[j]? = some y →
          can x tr o → cond tr o a w → inv w →
            own i x tr w → own j y tr' w →
              own j y tr' (exec o a w).2)
    (hStart : inv w)
    (hOwnStart :
      ∀ i x, calls[i]? = some x → own i x [] w)
    (hReach :
      Reach exec cond (Config.start w (calls.map body)) c) :
    inv c.world ∧ ∀ (i : Nat) t x, c.threads[i]? = some t →
        calls[i]? = some x → own i x t.trace c.world := by
  refine hReach.shares_from hValid
    (Config.within_start hAlong w) hOwn hOther hStart ?_
  intro i t x hThread hx
  simp only [Config.start, List.map_map,
    List.getElem?_map, Option.map_eq_some_iff] at hThread
  rcases hThread with ⟨y, _, rfl⟩
  exact hOwnStart i x hx

/-
  An invariant of the world that rests on what the pasts of
  the threads told, once told facts stay true.
-/
theorem Reach.holds_known
    {can : ι → List (Event Res Ans) → Op → Prop}
    {told : Event Res Ans → W → Prop}
    (hAlong :
      ∀ x ∈ calls,
        (body x).Along (fun _ => True) (can x) (post x) [])
    (hStep :
      ∀ x tr o a w, can x tr o → cond tr o a w → inv w →
        (∀ e ∈ tr, told e w) → inv (exec o a w).2)
    (hNew :
      ∀ x tr o a w, can x tr o → cond tr o a w → inv w →
        told ⟨o, a, (exec o a w).1⟩ (exec o a w).2)
    (hKeep :
      ∀ e o a w, told e w → told e (exec o a w).2)
    (hStart : inv w)
    (hReach :
      Reach exec cond (Config.start w (calls.map body)) c) :
    inv c.world := by
  have hOwn :
      ∀ (i : Nat) x tr o a w, calls[i]? = some x →
        can x tr o → cond tr o a w → inv w →
          (∀ e ∈ tr, told e w) → inv (exec o a w).2 ∧
              ∀ e ∈ ⟨o, a, (exec o a w).1⟩ :: tr,
                told e (exec o a w).2 := by
    intro i x tr o a w _ hCan hCond hInv hTold
    refine ⟨hStep x tr o a w hCan hCond hInv hTold, ?_⟩
    intro e hMem
    rcases List.mem_cons.mp hMem with rfl | hPast
    · exact hNew x tr o a w hCan hCond hInv
    · exact hKeep e o a w (hTold e hPast)
  refine (hReach.shares (fun _ _ _ _ _ => trivial) hAlong
    hOwn ?_ hStart ?_).1
  · intro i x tr o a w j y tr' _ _ _ _ _ _ _ hTold e hMem
    exact hKeep e o a w (hTold e hMem)
  · intro i x _ e hMem
    cases hMem

/- What the threads preserve, knowing only their pasts. -/
theorem Reach.holds_along
    {can : ι → List (Event Res Ans) → Op → Prop}
    (hValid :
      ∀ tr o a w, cond tr o a w →
        valid ⟨o, a, (exec o a w).1⟩)
    (hWithin : c₀.Within valid can post calls)
    (hStep :
      ∀ x tr o a w, can x tr o → cond tr o a w →
        inv w → inv (exec o a w).2)
    (hStart : inv c₀.world)
    (hReach : Reach exec cond c₀ c) :
    inv c.world := by
  induction hReach with
  | refl => exact hStart
  | @step c c' i a hReach hOne hAllowed ih =>
    rcases Config.step_eq_some_iff.mp hOne with
      ⟨tr, o, k, hThread, rfl⟩
    rcases hReach.within hValid hWithin i _ hThread with
      ⟨x, _, hNow⟩
    exact hStep x tr o a c.world hNow.1
      (by simpa [Config.Allowed, hThread] using hAllowed) ih

/-
  With one program at a time, what the running program knows
  cannot be changed by the others.
-/
theorem InTurn.shares
    {can : ι → List (Event Res Ans) → Op → Prop}
    {own : List (Event Res Ans) → W → Prop}
    (hValid :
      ∀ tr o a w, cond tr o a w →
        valid ⟨o, a, (exec o a w).1⟩)
    (hAlong :
      ∀ x ∈ calls, (body x).Along valid (can x) (post x) [])
    (hOwn :
      ∀ x tr o a w, can x tr o → cond tr o a w → inv w →
        own tr w → inv (exec o a w).2 ∧
            own (⟨o, a, (exec o a w).1⟩ :: tr)
              (exec o a w).2)
    (hStart : inv w)
    (hBegin : ∀ w, own [] w)
    (hInTurn :
      InTurn exec cond (Config.start w (calls.map body)) c) :
    inv c.world := by
  have hGeneral :
      inv c.world ∧ ∀ t ∈ c.threads, t.prog.isDone = false →
          t.trace ≠ [] → own t.trace c.world := by
    induction hInTurn with
    | refl =>
      refine ⟨hStart, ?_⟩
      intro t hMem _ hBegun
      simp only [Config.start, List.mem_map] at hMem
      rcases hMem with ⟨p, _, rfl⟩
      exact absurd rfl hBegun
    | @step c c' i a hInTurn hStep hAllowed hAlone ih =>
      rcases Config.step_eq_some_iff.mp hStep with
        ⟨tr, o, k, hThread, rfl⟩
      have hCond : cond tr o a c.world := by
        simpa [Config.Allowed, hThread] using hAllowed
      rcases hInTurn.reach.along hValid hAlong i _
          hThread with ⟨x, _, hNow⟩
      have hMine : own tr c.world := by
        by_cases hNil : tr = []
        · rw [hNil]
          exact hBegin _
        · exact ih.2 _ (List.mem_of_getElem? hThread) rfl
            hNil
      have hBoth := hOwn x tr o a c.world hNow.1 hCond
        ih.1 hMine
      refine ⟨hBoth.1, ?_⟩
      intro t hMem hRunning hBegun
      rcases List.getElem?_of_mem hMem with ⟨j, hGet⟩
      by_cases hSame : i = j
      · subst hSame
        have hLt := (List.getElem?_eq_some_iff.mp hThread).1
        rw [List.getElem?_set_self hLt] at hGet
        rw [← Option.some.inj hGet]
        exact hBoth.2
      · rw [List.getElem?_set_ne hSame] at hGet
        rcases Config.alone_iff.mp hAlone j t hGet with
          hEq | hNil | hDone
        · exact absurd hEq.symm hSame
        · exact absurd hNil hBegun
        · rw [hRunning] at hDone
          cases hDone
  exact hGeneral.1

/-
  A quantity of the world that threads take from: what is left
  and what the pasts of all threads have taken stay the same.
-/
theorem Reach.conserves
    {M : Type}
    [AddCommMonoid M]
    {can : ι → List (Event Res Ans) → Op → Prop}
    (left : W → M)
    (taken : List (Event Res Ans) → M)
    (hValid :
      ∀ tr o a w, cond tr o a w →
        valid ⟨o, a, (exec o a w).1⟩)
    (hWithin : c₀.Within valid can post calls)
    (hStep :
      ∀ x tr o a w, can x tr o → cond tr o a w →
        left (exec o a w).2 +
            taken (⟨o, a, (exec o a w).1⟩ :: tr) =
          left w + taken tr)
    (hReach : Reach exec cond c₀ c) :
    left c.world +
        (c.threads.map (fun t => taken t.trace)).sum =
      left c₀.world +
        (c₀.threads.map (fun t => taken t.trace)).sum := by
  induction hReach with
  | refl => rfl
  | @step c c' i a hReach hOne hAllowed ih =>
    rcases Config.step_eq_some_iff.mp hOne with
      ⟨tr, o, k, hThread, rfl⟩
    have hCond : cond tr o a c.world := by
      simpa [Config.Allowed, hThread] using hAllowed
    rcases hReach.within hValid hWithin i _ hThread with
      ⟨x, _, hNow⟩
    have hKept := hStep x tr o a c.world hNow.1 hCond
    rcases List.getElem?_eq_some_iff.mp hThread with
      ⟨hLt, hGet⟩
    have hSplit :
        c.threads = c.threads.take i ++
            ⟨tr, .call o k⟩ :: c.threads.drop (i + 1) := by
      rw [← hGet, List.getElem_cons_drop,
        List.take_append_drop]
    rw [← ih, List.set_eq_take_append_cons_drop, if_pos hLt]
    conv_rhs => rw [hSplit]
    simp only [List.map_append, List.map_cons,
      List.sum_append, List.sum_cons]
    rw [add_left_comm, ← add_assoc (left _) (taken _),
      hKept, add_assoc, add_left_comm]

/- What every step preserves holds in every state. -/
theorem Reach.holds
    (hStep :
      ∀ tr o a w, cond tr o a w → inv w →
        inv (exec o a w).2)
    (hStart : inv c₀.world)
    (hReach : Reach exec cond c₀ c) :
    inv c.world := by
  induction hReach with
  | refl => exact hStart
  | step _ hOne hAllowed ih =>
    rcases Config.step_eq_some_iff.mp hOne with
      ⟨tr, o, k, hThread, rfl⟩
    exact hStep tr o _ _
      (by simpa [Config.Allowed, hThread] using hAllowed) ih

/- A run may assume what all its steps preserve. -/
theorem Reach.assume
    (hStep :
      ∀ tr o a w, cond tr o a w → inv w →
        inv (exec o a w).2)
    (hStart : inv c₀.world)
    (hReach : Reach exec cond c₀ c) :
    Reach exec (fun tr o a w => cond tr o a w ∧ inv w) c₀
      c := by
  induction hReach with
  | refl => exact Reach.refl
  | @step c c' i a hReach hOne hAllowed ih =>
    refine ih.step hOne ?_
    rcases Config.step_eq_some_iff.mp hOne with
      ⟨tr, o, k, hThread, _⟩
    have hInv := hReach.holds hStep hStart
    simpa [Config.Allowed, hThread, hInv] using hAllowed

/- Every thread calls only what `P` allows. -/
def Config.Uses (P : Op → Prop) (c : Config Res Ans W α) :
    Prop :=
  ∀ t ∈ c.threads, t.prog.Uses P

theorem Config.uses_start
    (hUses : ∀ p ∈ ps, p.Uses P)
    (w : W) :
    (Config.start w ps : Config Res Ans W α).Uses P := by
  intro t hThread
  simp only [Config.start, List.mem_map] at hThread
  rcases hThread with ⟨p, hMem, rfl⟩
  exact hUses p hMem

theorem Reach.uses
    (hReach : Reach exec cond c₀ c)
    (hUses : c₀.Uses P) :
    c.Uses P := by
  induction hReach with
  | refl => exact hUses
  | @step c c' i a _ hStep _ ih =>
    rcases Config.step_eq_some_iff.mp hStep with
      ⟨tr, o, k, hThread, rfl⟩
    intro t hMem
    rcases List.mem_or_eq_of_mem_set hMem with hOld | rfl
    · exact ih t hOld
    · exact (ih _ (List.mem_of_getElem? hThread)).2 _

/- The journal holds allowed operations only. -/
theorem Runs.uses
    {log : List (Entry Res Ans)}
    (hRuns : Runs exec cond c₀ log c)
    (hUses : c₀.Uses P) :
    ∀ e ∈ log, P e.event.op := by
  induction hRuns with
  | refl =>
    intro e hEntry
    cases hEntry
  | @step log c c' i a e hRuns hEntry hStep _ ih =>
    rcases Config.step_eq_some_iff.mp hStep with
      ⟨tr, o, k, hThread, rfl⟩
    simp only [Config.entry, hThread,
      Option.some.injEq] at hEntry
    subst hEntry
    have hOp := hRuns.reach.uses hUses _
      (List.mem_of_getElem? hThread)
    exact List.forall_mem_cons.mpr ⟨hOp.1, ih⟩

/- What the operations of all threads preserve. -/
theorem Reach.holds_of_uses
    (hReach : Reach exec cond c₀ c)
    (hUses : c₀.Uses P)
    (hStep :
      ∀ tr o a w, P o → cond tr o a w → inv w →
        inv (exec o a w).2)
    (hStart : inv c₀.world) :
    inv c.world := by
  induction hReach with
  | refl => exact hStart
  | step hReach hOne hAllowed ih =>
    rcases Config.step_eq_some_iff.mp hOne with
      ⟨tr, o, k, hThread, rfl⟩
    have hOp :=
      hReach.uses hUses _ (List.mem_of_getElem? hThread)
    exact hStep tr o _ _ hOp.1
      (by simpa [Config.Allowed, hThread] using hAllowed) ih

/- The world remembers what every event of a run told. -/
theorem Reach.remembers
    {P : Event Res Ans → W → Prop}
    (hNew :
      ∀ tr o a w, cond tr o a w →
        P ⟨o, a, (exec o a w).1⟩ (exec o a w).2)
    (hKeep :
      ∀ e tr o a w, cond tr o a w → P e w →
        P e (exec o a w).2)
    (hReach : Reach exec cond (Config.start w ps) c) :
    ∀ t ∈ c.threads, ∀ e ∈ t.trace, P e c.world := by
  induction hReach with
  | refl =>
    intro t hThread e hMem
    simp only [Config.start, List.mem_map] at hThread
    rcases hThread with ⟨p, _, rfl⟩
    exact absurd hMem List.not_mem_nil
  | @step c c' i a _ hStep hAllowed ih =>
    rcases Config.step_eq_some_iff.mp hStep with
      ⟨tr, o, k, hThread, rfl⟩
    have hCond : cond tr o a c.world := by
      simpa [Config.Allowed, hThread] using hAllowed
    intro t hMem e hEventMem
    rcases List.mem_or_eq_of_mem_set hMem with hOld | rfl
    · exact hKeep e tr o a _ hCond (ih t hOld e hEventMem)
    · rcases List.mem_cons.mp hEventMem with rfl | hPast
      · exact hNew tr o a _ hCond
      · exact hKeep e tr o a _ hCond
          (ih _ (List.mem_of_getElem? hThread) e hPast)

/- Every event of a run satisfies what its step did. -/
theorem Reach.events
    {P : Event Res Ans → Prop}
    (hEvent :
      ∀ tr o a w, cond tr o a w → P ⟨o, a, (exec o a w).1⟩)
    (hReach : Reach exec cond (Config.start w ps) c) :
    ∀ t ∈ c.threads, ∀ e ∈ t.trace, P e :=
  hReach.remembers (P := fun e _ => P e) hEvent
    (fun _ _ _ _ _ _ h => h)

end

end Conc
