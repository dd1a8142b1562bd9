import Orignabase.Lib.Runs

/-
  Runs of requests, with the replies in the order in which
  they were given.

  A request is answered by the step that ends its program.

  Key definitions include:
    * `Reply`
    * `Serves`
    * `serve`
    * `Prog.alone`

  Main results:
    * `Serves.reach`
    * `Serves.holds`
    * `Serves.invariant`
    * `Serves.of_serve`
-/

--------
-- Replies
--------

namespace Conc

section

variable {Op : Type} {Res : Op → Type} {Ans W α ι : Type}

/-
  The result of a request, with all its events and the world
  in which it was given.
-/
structure Reply
    (ι : Type)
    (Res : Op → Type)
    (Ans W α : Type) where
  call : ι
  trace : List (Event Res Ans)
  result : α
  world : W

/- The reply of a thread, once its program has ended. -/
def answered (x : ι) (w : W) :
    Thread Res Ans α → List (Reply ι Res Ans W α)
  | ⟨tr, .ret r⟩ => [⟨x, tr, r, w⟩]
  | ⟨_, .call ..⟩ => []

/- Runs of requests; the latest reply comes first. -/
inductive Serves
    (exec : Exec Res Ans W)
    (cond : ι → StepCond Res Ans W)
    (body : ι → Prog Res α)
    (calls : List ι)
    (w : W) :
    List (Reply ι Res Ans W α) → Config Res Ans W α → Prop
  | start :
      Serves exec cond body calls w []
        (Config.start w (calls.map body))
  | step
      {rs : List (Reply ι Res Ans W α)}
      {c : Config Res Ans W α}
      {i : Nat}
      {x : ι}
      {tr : List (Event Res Ans)}
      {o : Op}
      {k : Res o → Prog Res α}
      {a : Ans}
      (hServes : Serves exec cond body calls w rs c)
      (hCall : calls[i]? = some x)
      (hThread : c.threads[i]? = some ⟨tr, .call o k⟩)
      (hCond : cond x tr o a c.world) :
      Serves exec cond body calls w
        (answered x (exec o a c.world).2
            ⟨⟨o, a, (exec o a c.world).1⟩ :: tr,
              k (exec o a c.world).1⟩ ++ rs)
        ⟨(exec o a c.world).2,
          c.threads.set i
            ⟨⟨o, a, (exec o a c.world).1⟩ :: tr,
              k (exec o a c.world).1⟩⟩

namespace Serves

variable {exec : Exec Res Ans W}
variable {cond : ι → StepCond Res Ans W}
variable {body : ι → Prog Res α} {calls : List ι} {w : W}
variable {rs : List (Reply ι Res Ans W α)}
variable {c : Config Res Ans W α}

theorem reach
    (hServes : Serves exec cond body calls w rs c) :
    Reach exec (fun _ _ _ _ => True)
      (Config.start w (calls.map body)) c := by
  induction hServes with
  | start => exact Reach.refl
  | step _ _ hThread _ ih =>
    refine ih.step (Config.step_eq_some_iff.mpr
        ⟨_, _, _, hThread, rfl⟩) ?_
    unfold Config.Allowed
    split <;> trivial

/-
  An invariant of the world and the replies, from what the
  programs may do and what their pasts told: one rule for a
  step that the program goes on from, one for a step that
  ends it.
-/
theorem holds
    {can : ι → List (Event Res Ans) → Op → Prop}
    {post : ι → List (Event Res Ans) → α → Prop}
    {told : Event Res Ans → W → Prop}
    {inv : W → List (Reply ι Res Ans W α) → Prop}
    (hAlong :
      ∀ x ∈ calls,
        (body x).Along (fun _ => True) (can x) (post x) [])
    (hNew :
      ∀ x ∈ calls, ∀ tr o a w rs, can x tr o → inv w rs →
          told ⟨o, a, (exec o a w).1⟩ (exec o a w).2)
    (hKeep :
      ∀ x ∈ calls, ∀ tr o a w e, can x tr o → told e w →
        told e (exec o a w).2)
    (hOn :
      ∀ x ∈ calls, ∀ tr o a w rs, can x tr o →
        cond x tr o a w → (∀ e ∈ tr, told e w) → inv w rs →
          (∃ o', can x (⟨o, a, (exec o a w).1⟩ :: tr) o') →
            inv (exec o a w).2 rs)
    (hDone :
      ∀ x ∈ calls, ∀ tr o a w rs r, can x tr o →
        cond x tr o a w → (∀ e ∈ tr, told e w) → inv w rs →
          post x (⟨o, a, (exec o a w).1⟩ :: tr) r →
            inv (exec o a w).2
              (⟨x, ⟨o, a, (exec o a w).1⟩ :: tr, r,
                (exec o a w).2⟩ :: rs))
    (hStart : inv w [])
    (hServes : Serves exec cond body calls w rs c) :
    inv c.world rs ∧
      ∀ t ∈ c.threads, ∀ e ∈ t.trace, told e c.world := by
  induction hServes with
  | start =>
    refine ⟨hStart, ?_⟩
    intro t hThread e hMem
    simp only [Config.start, List.mem_map] at hThread
    rcases hThread with ⟨p, _, rfl⟩
    exact absurd hMem List.not_mem_nil
  | @step rs c i x tr o k a hServes hCall hThread hCond ih =>
    rcases hServes.reach.within (fun _ _ _ _ _ => trivial)
      (Config.within_start hAlong w) i _ hThread with
      ⟨y, hy, hNow⟩
    cases hCall.symm.trans hy
    have hRest := hNow.2 a (exec o a c.world).1 trivial
    have hTold := ih.2 _ (List.mem_of_getElem? hThread)
    have hMem := List.mem_of_getElem? hCall
    constructor
    · cases hNext : k (exec o a c.world).1 with
      | ret r =>
        rw [hNext] at hRest
        exact hDone x hMem tr o a c.world rs r hNow.1
          hCond hTold ih.1 hRest
      | call o' k' =>
        rw [hNext] at hRest
        exact hOn x hMem tr o a c.world rs hNow.1
          hCond hTold ih.1 ⟨o', hRest.1⟩
    · intro t hThreadMem e hEvent
      rcases List.mem_or_eq_of_mem_set hThreadMem with
        hOld | rfl
      · exact hKeep x hMem tr o a _ e hNow.1
          (ih.2 t hOld e hEvent)
      · rcases List.mem_cons.mp hEvent with rfl | hPast
        · exact hNew x hMem tr o a _ rs hNow.1 ih.1
        · exact hKeep x hMem tr o a _ e hNow.1
            (hTold e hPast)

/- The same, where the pasts need not be remembered. -/
theorem invariant
    {can : ι → List (Event Res Ans) → Op → Prop}
    {post : ι → List (Event Res Ans) → α → Prop}
    {inv : W → List (Reply ι Res Ans W α) → Prop}
    (hAlong :
      ∀ x ∈ calls,
        (body x).Along (fun _ => True) (can x) (post x) [])
    (hOn :
      ∀ x ∈ calls, ∀ tr o a w rs, can x tr o →
        cond x tr o a w → inv w rs → inv (exec o a w).2 rs)
    (hDone :
      ∀ x ∈ calls, ∀ tr o a w rs r, can x tr o →
        cond x tr o a w → inv w rs →
          post x (⟨o, a, (exec o a w).1⟩ :: tr) r →
            inv (exec o a w).2
              (⟨x, ⟨o, a, (exec o a w).1⟩ :: tr, r,
                (exec o a w).2⟩ :: rs))
    (hStart : inv w [])
    (hServes : Serves exec cond body calls w rs c) :
    inv c.world rs := by
  let told : Event Res Ans → W → Prop := fun _ _ => True
  have hNew :
      ∀ x ∈ calls, ∀ tr o a w rs, can x tr o → inv w rs →
          told ⟨o, a, (exec o a w).1⟩ (exec o a w).2 := by
    intros
    trivial
  refine (hServes.holds hAlong hNew ?_ ?_ ?_ hStart).1
  · intros
    trivial
  · intro x hMem tr o a w rs hCan hCond _ hInv _
    exact hOn x hMem tr o a w rs hCan hCond hInv
  · intro x hMem tr o a w rs r hCan hCond _ hInv hPost
    exact hDone x hMem tr o a w rs r hCan hCond hInv hPost

end Serves

end

--------
-- Schedules
--------

section

variable {Op : Type} {Res : Op → Type} {Ans W α ι : Type}

/- A schedule of steps, with the replies given so far. -/
def serve
    (exec : Exec Res Ans W)
    (calls : List ι) :
    Config Res Ans W α → List (Reply ι Res Ans W α) →
      List (Nat × Ans) → Option
          (Config Res Ans W α × List (Reply ι Res Ans W α))
  | c, rs, [] => some (c, rs)
  | c, rs, (i, a) :: rest =>
    match calls[i]?, c.threads[i]? with
    | some x, some ⟨tr, .call o k⟩ =>
      let out := exec o a c.world
      let t : Thread Res Ans α :=
        ⟨⟨o, a, out.1⟩ :: tr, k out.1⟩
      serve exec calls ⟨out.2, c.threads.set i t⟩
        (answered x out.2 t ++ rs) rest
    | _, _ => none

namespace Serves

/- A schedule whose steps all meet the condition. -/
def Meets
    (exec : Exec Res Ans W)
    (cond : ι → StepCond Res Ans W)
    (calls : List ι) :
    Config Res Ans W α → List (Nat × Ans) → Prop
  | _, [] => True
  | c, (i, a) :: rest =>
    match calls[i]?, c.threads[i]? with
    | some x, some ⟨tr, .call o k⟩ =>
      cond x tr o a c.world ∧ Meets exec cond calls
          ⟨(exec o a c.world).2, c.threads.set i
              ⟨⟨o, a, (exec o a c.world).1⟩ :: tr,
                k (exec o a c.world).1⟩⟩ rest
    | _, _ => True

instance Meets.decidable
    (exec : Exec Res Ans W)
    (cond : ι → StepCond Res Ans W)
    [∀ x tr o a w, Decidable (cond x tr o a w)]
    (calls : List ι) :
    (c : Config Res Ans W α) →
      (schedule : List (Nat × Ans)) →
        Decidable (Meets exec cond calls c schedule)
  | _, [] => .isTrue trivial
  | c, (i, a) :: rest => by
      unfold Meets
      exact
        match calls[i]?, c.threads[i]? with
        | some x, some ⟨tr, .call o k⟩ =>
          have := Meets.decidable exec cond calls
            ⟨(exec o a c.world).2, c.threads.set i
                ⟨⟨o, a, (exec o a c.world).1⟩ :: tr,
                  k (exec o a c.world).1⟩⟩ rest
          instDecidableAnd
        | some _, some ⟨_, .ret _⟩ => .isTrue trivial
        | some _, none => .isTrue trivial
        | none, some _ => .isTrue trivial
        | none, none => .isTrue trivial

variable {exec : Exec Res Ans W}
variable {cond : ι → StepCond Res Ans W}
variable {body : ι → Prog Res α} {calls : List ι} {w : W}

theorem of_serve_from
    {c c' : Config Res Ans W α}
    {rs rs' : List (Reply ι Res Ans W α)}
    {schedule : List (Nat × Ans)}
    (hServes : Serves exec cond body calls w rs c)
    (hRun : serve exec calls c rs schedule = some (c', rs'))
    (hMeets : Meets exec cond calls c schedule) :
    Serves exec cond body calls w rs' c' := by
  induction schedule generalizing c rs with
  | nil =>
    cases hRun
    exact hServes
  | cons turn rest ih =>
    rcases turn with ⟨i, a⟩
    unfold serve at hRun
    unfold Meets at hMeets
    split at hRun
    · rename_i x tr o k hCall hThread
      simp only [hCall, hThread] at hMeets
      exact ih
        (hServes.step hCall hThread hMeets.1) hRun hMeets.2
    · cases hRun

theorem of_serve
    {c : Config Res Ans W α}
    {rs : List (Reply ι Res Ans W α)}
    {schedule : List (Nat × Ans)}
    (hRun :
      serve exec calls (Config.start w (calls.map body)) []
        schedule = some (c, rs))
    (hMeets :
      Meets exec cond calls
        (Config.start w (calls.map body)) schedule) :
    Serves exec cond body calls w rs c :=
  of_serve_from Serves.start hRun hMeets

/- A condition that every step meets. -/
theorem Meets.of_forall
    (hCond : ∀ x tr o a w, cond x tr o a w)
    (c : Config Res Ans W α)
    (schedule : List (Nat × Ans)) :
    Meets exec cond calls c schedule := by
  induction schedule generalizing c with
  | nil => trivial
  | cons turn rest ih =>
    unfold Meets
    split
    · exact ⟨hCond _ _ _ _ _, ih _⟩
    · trivial

end Serves

end

--------
-- One Program Alone
--------

namespace Prog

variable {Op : Type} {Res : Op → Type} {Ans W α β : Type}
variable {exec : Exec Res Ans W} {env : ℕ → Ans}

/-
  A program run alone to its end, with the answers of the
  environment from the `n`-th on: its result, the number of
  the next answer and the world.
-/
def alone
    (exec : Exec Res Ans W)
    (env : ℕ → Ans) :
    Prog Res α → ℕ → W → α × ℕ × W
  | .ret a, n, w => (a, n, w)
  | .call o k, n, w =>
    (k (exec o (env n) w).1).alone exec env (n + 1)
      (exec o (env n) w).2

@[simp] theorem alone_ret
    (a : α)
    (n : ℕ)
    (w : W) :
    (Prog.ret a : Prog Res α).alone exec env n w =
      (a, n, w) := rfl

@[simp] theorem alone_call
    (o : Op)
    (k : Res o → Prog Res α)
    (n : ℕ)
    (w : W) :
    (Prog.call o k).alone exec env n w =
      (k (exec o (env n) w).1).alone exec env (n + 1)
        (exec o (env n) w).2 := rfl

theorem alone_bind
    (p : Prog Res α)
    (f : α → Prog Res β)
    (n : ℕ)
    (w : W) :
    (p.bind f).alone exec env n w =
      (f (p.alone exec env n w).1).alone exec env
        (p.alone exec env n w).2.1
        (p.alone exec env n w).2.2 := by
  induction p generalizing n w with
  | ret a => rfl
  | call o k ih =>
    exact ih (exec o (env n) w).1 (n + 1)
      (exec o (env n) w).2

end Prog

end Conc
