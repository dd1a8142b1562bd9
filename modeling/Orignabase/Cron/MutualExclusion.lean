import Orignabase.Cron.Lock
import Orignabase.Lib.Runs

/-
  When the lock of a job keeps the nodes apart.

  The lock is read and written in separate steps, and the
  release does not ask whose lock it is.  Both are harmless
  as long as no node writes over a lock that is held at its
  own reading of the clock, and every node releases its lock
  in time.

  Key definitions include:
    * `holding`
    * `Careful`
    * `Exclusive`

  Main results:
    * `exclusive_of_careful`
-/

--------
-- Runs Of Jobs
--------

namespace Orignabase.Cron

open Conc

section

variable {B V R : Type}

abbrev Trace (B V : Type) :=
  List (Event (Op.Res (B := B) V) Answer)

abbrev Nodes (B V R : Type) :=
  Config (Op.Res (B := B) V) Answer (World R) Outcome

/- The time of the acquire, from it to the own release. -/
def holding : Trace B V → Option Int
  | [] => none
  | ⟨.upsertLock _ _ t, _, r⟩ :: tr =>
    if Except.isOk r then some t else holding tr
  | ⟨.completeLock .., _, _⟩ :: _ => none
  | _ :: tr => holding tr

/- The lock was acquired at some point. -/
def hasAcquired (tr : Trace B V) : Bool :=
  tr.any (fun e =>
    match e with
    | ⟨.upsertLock .., _, r⟩ => Except.isOk r
    | _ => false)

/- The lock was released at some point. -/
def hasReleased (tr : Trace B V) : Bool :=
  tr.any (fun e =>
    match e with
    | ⟨.completeLock .., _, r⟩ => Except.isOk r
    | _ => false)

/- The runs of jobs, each on a node of its own. -/
def jobs
    (ttl : String → Int)
    (runs : List (JobRun B V)) : List (Job B V Outcome) :=
  runs.zipIdx.map (fun x => runJob ttl x.2 x.1)

def lifetime (ttl : String → Int) (job : String) : Int :=
  ttl job * nanosPerMinute

/-
  At most one node holds the lock of a job in its time, no
  node frees the lock of another, and every node that has
  acquired a lock ends by releasing it.
-/
structure Exclusive
    (ttl : String → Int)
    (runs : List (JobRun B V))
    (c : Nodes B V R) : Prop where
  alone :
    ∀ (i j : ℕ) x y t u s s', i ≠ j →
      runs[i]? = some x → runs[j]? = some y →
      x.job = y.job →
      c.threads[i]? = some t → c.threads[j]? = some u →
      holding t.trace = some s → holding u.trace = some s' →
        ¬ (c.world.now < s + lifetime ttl x.job ∧
          c.world.now < s' + lifetime ttl y.job)
  freed : ∀ p ∈ c.world.freed, p.1 = p.2
  ends :
    ∀ t ∈ c.threads, t.prog.isDone = true →
      hasAcquired t.trace = true →
        hasReleased t.trace = true

/-
  A lock is not written while it is held at the time the
  writer has read; a release does not fail and comes in time,
  unless no other node has the lock.
-/
def Careful (ttl : String → Int) :
    StepCond (Op.Res (B := B) V) Answer (World R)
  | _, .upsertLock _ job t, a, w =>
    a.fault = true ∨ ∀ lock, w.locks.get job = some lock →
        lock.isHeld (t - lifetime ttl job) = false
  | tr, .completeLock node job, a, w =>
    a.fault = false ∧
      ((∃ t, holding tr = some t ∧
          (w.tick a).now < t + lifetime ttl job) ∨
        ∀ lock, w.locks.get job = some lock →
          lock.isRunning = true → lock.owner = node)
  | _, _, _, _ => True

def Op.isWork : Op B → Bool
  | .work _ => true
  | _ => false

/- A text that can be stored as the message of a failure. -/
def isStorable (message : String) : Bool :=
  isCharBoundary message.toList (cutAt message)

/- A body that works, and fails with texts that are stored. -/
structure Tame (x : JobRun B V) : Prop where
  works : x.body.Uses (fun o => o.isWork = true)
  fails :
    x.body.Returns (fun r =>
      ∀ e, r = .error e → isStorable e = true)

end

--------
-- What A Job Calls
--------

section

variable {B V : Type}

/- When a run of a job writes its lock. -/
def mayCall
    (x : JobRun B V × ℕ)
    (tr : Trace B V) : Op B → Prop
  | .upsertLock node job t =>
    node = x.2 ∧ job = x.1.job ∧ holding tr = none ∧
      ∃ a, ⟨.utcNow, a, t⟩ ∈ tr
  | .completeLock node job =>
    node = x.2 ∧ job = x.1.job ∧
      (holding tr).isSome = true
  | _ => True

theorem holding_extends
    {tr tr' : Trace B V}
    (hExtends :
      Prog.Extends (fun o : Op B => o.isWork = true) tr
        tr') :
    holding tr' = holding tr ∧
      hasAcquired tr' = hasAcquired tr := by
  induction hExtends with
  | refl => exact ⟨rfl, rfl⟩
  | @cons tr' e _ hWork ih =>
    rcases e with ⟨o, a, r⟩
    cases o with
    | work b =>
      exact ⟨ih.1, ih.2⟩
    | utcNow => cases hWork
    | getLock job => cases hWork
    | upsertLock node job t => cases hWork
    | completeLock node job => cases hWork
    | createFailure job message => cases hWork

theorem along_acquire
    {valid : Event (Op.Res (B := B) V) Answer → Prop}
    (x : JobRun B V × ℕ)
    (ttl : Int) :
    (acquireCronLock x.2 x.1.job ttl).Along valid
      (mayCall x)
      (fun tr acquired =>
        if acquired then (holding tr).isSome = true
        else hasAcquired tr = false) [] := by
  refine ⟨trivial, fun a (now : Int) _ => ?_⟩
  refine ⟨trivial, fun b (read : Except Error Lock) _ => ?_⟩
  change (if read.toOption.any
        (·.isHeld (now - ttl * nanosPerMinute)) then
      Prog.ret false
    else _ : Job B V Bool).Along valid _ _ _
  split_ifs
  · rfl
  · refine ⟨⟨rfl, rfl, rfl, a, by simp⟩, ?_⟩
    intro d (r : Except Error Unit) _
    cases r with
    | ok _ => rfl
    | error e => rfl

theorem along_alert
    {valid : Event (Op.Res (B := B) V) Answer → Prop}
    {tr : Trace B V}
    {message : String}
    (x : JobRun B V × ℕ)
    (hStorable : isStorable message = true) :
    (alertCronFailure x.1.job message).Along valid
      (mayCall x)
      (fun tr' alerted =>
        alerted = true ∧ holding tr' = holding tr) tr := by
  have hBoundary :
      isCharBoundary message.toList (cutAt message) = true :=
    hStorable
  unfold alertCronFailure
  rw [if_pos hBoundary]
  exact ⟨trivial, fun _ _ _ =>
    ⟨trivial, fun _ _ _ => ⟨rfl, rfl⟩⟩⟩

theorem along_release
    {valid : Event (Op.Res (B := B) V) Answer → Prop}
    {tr : Trace B V}
    (x : JobRun B V × ℕ)
    (hHolding : (holding tr).isSome = true) :
    ((releaseCronLock x.2 x.1.job).bind fun _ =>
      Prog.ret Outcome.released).Along valid (mayCall x)
      (fun tr _ =>
        hasAcquired tr = true →
          ∃ e ∈ tr, ∃ node job, e.op = .completeLock node job)
      tr := by
  refine ⟨trivial, fun _ _ _ => ?_⟩
  refine ⟨⟨rfl, rfl, hHolding⟩, fun _ _ _ => ?_⟩
  intro _
  exact ⟨_, List.mem_cons_self, _, _, rfl⟩

/- A tame job that has acquired its lock releases it. -/
theorem along_runJob
    {valid : Event (Op.Res (B := B) V) Answer → Prop}
    {ttl : String → Int}
    (x : JobRun B V × ℕ)
    (hTame : Tame x.1) :
    (runJob ttl x.2 x.1).Along valid (mayCall x)
      (fun tr _ =>
        hasAcquired tr = true →
          ∃ e ∈ tr, ∃ node job, e.op = .completeLock node job)
      [] := by
  refine Prog.Along.bind (along_acquire x _) ?_
  intro tr acquired hFree
  cases acquired with
  | false =>
    intro hYes
    exact absurd (Eq.trans (Eq.symm hFree) hYes)
      Bool.false_ne_true
  | true =>
    refine Prog.Along.bind
      (hTame.works.along_returns hTame.fails ?_) ?_
    · intro tr' o hWork
      cases o with
      | work b => trivial
      | utcNow => cases hWork
      | getLock job => cases hWork
      | upsertLock node job t => cases hWork
      | completeLock node job => cases hWork
      | createFailure job message => cases hWork
    · rintro tr' result ⟨hExtends, hStorable⟩
      have hHolding : (holding tr').isSome = true := by
        rw [(holding_extends hExtends).1]
        exact hFree
      cases result with
      | ok _ => exact along_release x hHolding
      | error e =>
        refine Prog.Along.bind
          (along_alert x (hStorable e rfl)) ?_
        rintro tr'' alerted ⟨rfl, hSame⟩
        refine along_release x ?_
        rw [hSame]
        exact hHolding

end

--------
-- What A Node Knows
--------

section

variable {B V R : Type} {work : Work B V R}
variable {ttl : String → Int}

/-
  The clock is not behind what the node has read; a lock that
  it holds in time is the one that is stored; its releases
  have succeeded.
-/
structure Own
    (ttl : String → Int)
    (i : ℕ)
    (x : JobRun B V × ℕ)
    (tr : Trace B V)
    (w : World R) : Prop where
  clock : ∀ a t, ⟨.utcNow, a, t⟩ ∈ tr → t ≤ w.now
  stored :
    ∀ t, holding tr = some t →
      (w.locks.get x.1.job).isSome = true ∧
        (w.now < t + lifetime ttl x.1.job →
          w.locks.get x.1.job =
            some
              { lockedAt := some t
                status := some "running"
                owner := i })
  began : ∀ t, holding tr = some t → t ≤ w.now
  released :
    ∀ node job a r, ⟨.completeLock node job, a, r⟩ ∈ tr →
      r = .ok ()

/- An operation that leaves the locks alone. -/
def Op.isAside : Op B → Bool
  | .upsertLock .. => false
  | .completeLock .. => false
  | _ => true

variable {o : Op B} {i : ℕ} {x : JobRun B V × ℕ}
variable {tr : Trace B V} {w : World R} {node : ℕ}
variable {job : String} {t : Int} {a : Answer} {lock : Lock}

theorem exec_aside
    (hAside : o.isAside = true)
    (a : Answer)
    (w : World R) :
    (exec work o a w).2.locks = w.locks ∧
      (exec work o a w).2.freed = w.freed := by
  cases o <;> first | exact ⟨rfl, rfl⟩ | cases hAside

theorem now_exec (o : Op B) (a : Answer) (w : World R) :
    (exec work o a w).2.now = max w.now a.now := by
  cases o with
  | utcNow => rfl
  | getLock job => rfl
  | createFailure job message => rfl
  | work b => rfl
  | upsertLock node job t =>
    simp only [exec]
    split_ifs <;> rfl
  | completeLock node job =>
    simp only [exec]
    split_ifs
    · rfl
    · split <;> rfl

/- A lock stays what it is while the node holds it. -/
theorem Own.later
    {w' : World R}
    (hOwn : Own ttl i x tr w)
    (hLocks : w'.locks.get x.1.job = w.locks.get x.1.job)
    (hLater : w.now ≤ w'.now) :
    Own ttl i x tr w' where
  clock := by
    intro a t hMem
    have hRead := hOwn.clock a t hMem
    exact Int.le_trans hRead hLater
  stored := by
    intro t hHolding
    rw [hLocks]
    refine ⟨(hOwn.stored t hHolding).1, ?_⟩
    intro hTime
    exact (hOwn.stored t hHolding).2
      (Int.lt_of_le_of_lt hLater hTime)
  began := by
    intro t hHolding
    exact Int.le_trans (hOwn.began t hHolding) hLater
  released := hOwn.released

/- A lock can be taken once its time is over. -/
theorem Own.retake
    {w' : World R}
    (hOwn : Own ttl i x tr w)
    (hSome : (w'.locks.get x.1.job).isSome = true)
    (hOver :
      ∀ t, holding tr = some t →
        ¬ w.now < t + lifetime ttl x.1.job)
    (hLater : w.now ≤ w'.now) :
    Own ttl i x tr w' where
  clock := by
    intro a t hMem
    exact Int.le_trans (hOwn.clock a t hMem) hLater
  stored := by
    intro t hHolding
    refine ⟨hSome, ?_⟩
    intro hTime
    exact absurd (Int.lt_of_le_of_lt hLater hTime)
      (hOver t hHolding)
  began := by
    intro t hHolding
    exact Int.le_trans (hOwn.began t hHolding) hLater
  released := hOwn.released

theorem le_now_exec
    (o : Op B)
    (a : Answer)
    (w : World R) :
    w.now ≤ (exec work o a w).2.now := by
  rw [now_exec]
  exact Int.le_max_left _ _

/- A step that leaves the locks alone. -/
theorem Own.aside
    (hOwn : Own ttl i x tr w)
    (hAside : o.isAside = true)
    (a : Answer) :
    Own ttl i x (⟨o, a, (exec work o a w).1⟩ :: tr)
      (exec work o a w).2 := by
  have hSame : (exec work o a w).2.locks = w.locks :=
    (exec_aside hAside a w).1
  have hLater : Own ttl i x tr (exec work o a w).2 :=
    hOwn.later (by rw [hSame]) (le_now_exec o a w)
  have hHolding :
      holding (⟨o, a, (exec work o a w).1⟩ :: tr) =
        holding tr := by
    cases o <;> first | rfl | cases hAside
  constructor
  · intro b t hMem
    rcases List.mem_cons.mp hMem with hNew | hOld
    · injection hNew with hOp _ hRes
      subst hOp
      rw [eq_of_heq hRes, now_exec]
      exact Int.le_refl _
    · exact hLater.clock b t hOld
  · rw [hHolding]
    exact hLater.stored
  · rw [hHolding]
    exact hLater.began
  · intro node job b r hMem
    rcases List.mem_cons.mp hMem with hNew | hOld
    · injection hNew with hOp _ _
      subst hOp
      cases hAside
    · exact hLater.released node job b r hOld

theorem exec_upsert
    (hFault : a.fault = false)
    (w : World R) :
    exec work (.upsertLock node job t) a w =
      (.ok (),
        { w.tick a with
          locks := w.locks.upsert job
              { lockedAt := some t
                status := some "running"
                owner := node } }) := by
  simp [exec, hFault]

theorem exec_upsert_fault
    (hFault : a.fault = true)
    (w : World R) :
    exec work (.upsertLock node job t) a w =
      (.error queryFailed, w.tick a) := by
  simp [exec, hFault]

/- The node acquires the lock, or fails to. -/
theorem Own.upsert
    (hOwn : Own ttl i x tr w)
    (hRead : ∃ a, ⟨.utcNow, a, t⟩ ∈ tr)
    (a : Answer) :
    Own ttl i x
      (⟨.upsertLock i x.1.job t, a,
        (exec work (.upsertLock i x.1.job t) a w).1⟩ :: tr)
      (exec work (.upsertLock i x.1.job t) a w).2 := by
  cases hFault : a.fault with
  | true =>
    rw [exec_upsert_fault hFault]
    have hLater : Own ttl i x tr (w.tick a) :=
      hOwn.later rfl (Int.le_max_left _ _)
    constructor
    · intro b t' hMem
      rcases List.mem_cons.mp hMem with hNew | hOld
      · cases hNew
      · exact hLater.clock b t' hOld
    · exact hLater.stored
    · exact hLater.began
    · intro node job b r hMem
      rcases List.mem_cons.mp hMem with hNew | hOld
      · cases hNew
      · exact hLater.released node job b r hOld
  | false =>
    rw [exec_upsert hFault]
    have hClock : w.now ≤ (w.tick a).now :=
      Int.le_max_left _ _
    constructor
    · intro b t' hMem
      rcases List.mem_cons.mp hMem with hNew | hOld
      · cases hNew
      · exact Int.le_trans (hOwn.clock b t' hOld) hClock
    · intro t' hHolding
      have hTime : t = t' := Option.some.inj hHolding
      subst hTime
      rw [Table.get_upsert, if_pos rfl]
      exact ⟨rfl, fun _ => rfl⟩
    · intro t' hHolding
      have hTime : t = t' := Option.some.inj hHolding
      subst hTime
      rcases hRead with ⟨b, hMem⟩
      exact Int.le_trans (hOwn.clock b t hMem) hClock
    · intro node job b r hMem
      rcases List.mem_cons.mp hMem with hNew | hOld
      · cases hNew
      · exact hOwn.released node job b r hOld

theorem exec_complete
    (hFault : a.fault = false)
    (hGet : w.locks.get job = some lock) :
    exec work (.completeLock node job) a w =
      (.ok (),
        { w.tick a with
          locks := w.locks.modify job (fun lock =>
              { lock with status := some "completed" })
          freed :=
            if lock.isRunning then
              (node, lock.owner) :: w.freed
            else w.freed }) := by
  simp [exec, hFault, hGet]

/- A release in time is a release of the own lock. -/
theorem Own.owner
    (hOwn : Own ttl i x tr w)
    (hCareful :
      (∃ t, holding tr = some t ∧
          (w.tick a).now < t + lifetime ttl x.1.job) ∨
        ∀ lock, w.locks.get x.1.job = some lock →
          lock.isRunning = true → lock.owner = i)
    (hGet : w.locks.get x.1.job = some lock)
    (hRunning : lock.isRunning = true) :
    lock.owner = i := by
  rcases hCareful with ⟨t, hHolding, hTime⟩ | hOwner
  · have hBefore : w.now < t + lifetime ttl x.1.job :=
      Int.lt_of_le_of_lt (Int.le_max_left _ _) hTime
    have hStored := (hOwn.stored t hHolding).2 hBefore
    rw [hStored] at hGet
    rw [← Option.some.inj hGet]
  · exact hOwner lock hGet hRunning

/- The node releases the lock that it holds. -/
theorem Own.complete
    (hOwn : Own ttl i x tr w)
    (hFault : a.fault = false)
    (hGet : w.locks.get x.1.job = some lock) :
    Own ttl i x
      (⟨.completeLock i x.1.job, a,
        (exec work (.completeLock i x.1.job) a w).1⟩ :: tr)
      (exec work (.completeLock i x.1.job) a w).2 := by
  rw [exec_complete hFault hGet]
  constructor
  · intro b t hMem
    rcases List.mem_cons.mp hMem with hNew | hOld
    · cases hNew
    · exact Int.le_trans (hOwn.clock b t hOld)
        (Int.le_max_left _ _)
  · intro t hHolding
    cases hHolding
  · intro t hHolding
    cases hHolding
  · intro node job b r hMem
    rcases List.mem_cons.mp hMem with hNew | hOld
    · cases hNew
      rfl
    · exact hOwn.released node job b r hOld

/- The steps of a node establish what it knows. -/
theorem own_step
    (hIndex : x.2 = i)
    (hCall : mayCall x tr o)
    (hCareful : Careful ttl tr o a w)
    (hFreed : ∀ p ∈ w.freed, p.1 = p.2)
    (hOwn : Own ttl i x tr w) :
    (∀ p ∈ (exec work o a w).2.freed, p.1 = p.2) ∧
      Own ttl i x (⟨o, a, (exec work o a w).1⟩ :: tr)
        (exec work o a w).2 := by
  by_cases hAside : o.isAside = true
  · rw [(exec_aside hAside a w).2]
    exact ⟨hFreed, hOwn.aside hAside a⟩
  · cases o with
    | utcNow => exact absurd rfl hAside
    | getLock job => exact absurd rfl hAside
    | createFailure job message => exact absurd rfl hAside
    | work b => exact absurd rfl hAside
    | upsertLock node job t =>
      rcases hCall with ⟨hNode, rfl, _, hRead⟩
      rw [hNode, hIndex]
      refine ⟨?_, hOwn.upsert hRead a⟩
      cases hFault : a.fault with
      | true =>
        rw [exec_upsert_fault hFault]
        exact hFreed
      | false =>
        rw [exec_upsert hFault]
        exact hFreed
    | completeLock node job =>
      rcases hCall with ⟨hNode, rfl, hHolding⟩
      rw [hIndex] at hNode
      subst hNode
      rcases Option.isSome_iff_exists.mp hHolding with
        ⟨t, hTime⟩
      rcases Option.isSome_iff_exists.mp
          (hOwn.stored t hTime).1 with ⟨lock, hGet⟩
      refine ⟨?_, hOwn.complete hCareful.1 hGet⟩
      rw [exec_complete hCareful.1 hGet]
      intro p hMem
      simp only at hMem
      split_ifs at hMem with hRunning
      · rcases List.mem_cons.mp hMem with rfl | hOld
        · exact (hOwn.owner hCareful.2 hGet hRunning).symm
        · exact hFreed p hOld
      · exact hFreed p hMem

/- A lock that a node holds in time is held for the others. -/
theorem isHeld_of_time
    {t' life : Int}
    (hTime : t < t' + life) :
    Lock.isHeld
      { lockedAt := some t'
        status := some "running"
        owner := i } (t - life) = true := by
  have hLt : t - life < t' := by omega
  simp [Lock.isHeld, Lock.isRunning, hLt]

/- The steps of the other nodes leave it alone. -/
theorem own_other
    {j : ℕ}
    {y : JobRun B V × ℕ}
    {tr' : Trace B V}
    (hNe : i ≠ j)
    (hIndex : x.2 = i)
    (hCall : mayCall x tr o)
    (hCareful : Careful ttl tr o a w)
    (hOwn : Own ttl i x tr w)
    (hOther : Own ttl j y tr' w) :
    Own ttl j y tr' (exec work o a w).2 := by
  by_cases hAside : o.isAside = true
  · exact hOther.later (by rw [(exec_aside hAside a w).1])
      (le_now_exec o a w)
  · cases o with
    | utcNow => exact absurd rfl hAside
    | getLock job => exact absurd rfl hAside
    | createFailure job message => exact absurd rfl hAside
    | work b => exact absurd rfl hAside
    | upsertLock node job t =>
      rcases hCall with ⟨hNode, rfl, _, b, hRead⟩
      cases hFault : a.fault with
      | true =>
        rw [exec_upsert_fault hFault]
        exact hOther.later rfl (Int.le_max_left _ _)
      | false =>
        rw [exec_upsert hFault]
        by_cases hJob : y.1.job = x.1.job
        · refine hOther.retake ?_ ?_ (Int.le_max_left _ _)
          · change ((w.locks.upsert x.1.job _).get
                y.1.job).isSome = true
            rw [hJob, Table.get_upsert, if_pos rfl]
            rfl
          · -- The writer would have found it held.
            intro t' hHolding hTime
            have hStored :=
              (hOther.stored t' hHolding).2 hTime
            rw [hJob] at hStored hTime
            have hClock := hOwn.clock b t hRead
            have hHeld :=
              isHeld_of_time (i := j)
                (Int.lt_of_le_of_lt hClock hTime)
            rcases hCareful with hYes | hFree
            · exact absurd (hFault.symm.trans hYes)
                Bool.false_ne_true
            · exact absurd
                ((hFree _ hStored).symm.trans hHeld)
                Bool.false_ne_true
        · refine hOther.later ?_ (Int.le_max_left _ _)
          change (w.locks.upsert x.1.job _).get y.1.job = _
          rw [Table.get_upsert, if_neg hJob]
    | completeLock node job =>
      rcases hCall with ⟨hNode, rfl, hHolding⟩
      rw [hIndex] at hNode
      subst hNode
      rcases Option.isSome_iff_exists.mp hHolding with
        ⟨t, hTime⟩
      rcases Option.isSome_iff_exists.mp
          (hOwn.stored t hTime).1 with ⟨lock, hGet⟩
      rw [exec_complete hCareful.1 hGet]
      by_cases hJob : y.1.job = x.1.job
      · refine hOther.retake ?_ ?_ (Int.le_max_left _ _)
        · change ((w.locks.modify x.1.job _).get
              y.1.job).isSome = true
          rw [hJob, Table.get_modify_self, hGet]
          rfl
        · -- The lock would be that of the other node.
          intro t' hHolding' hTime'
          have hStored :=
            (hOther.stored t' hHolding').2 hTime'
          rw [hJob] at hStored
          exact hNe (hOwn.owner hCareful.2 hStored rfl).symm
      · refine hOther.later ?_ (Int.le_max_left _ _)
        change (w.locks.modify x.1.job _).get y.1.job = _
        rw [Table.get_modify_of_ne _ hJob]

end

--------
-- Whole Runs
--------

section

variable {B V R : Type} {work : Work B V R}
variable {ttl : String → Int}

theorem zipIdx_getElem?
    {α : Type}
    {xs : List α}
    {i : ℕ}
    {x : α × ℕ}
    (hx : xs.zipIdx[i]? = some x) :
    xs[i]? = some x.1 ∧ x.2 = i := by
  simp only [List.getElem?_zipIdx, Nat.zero_add,
    Option.map_eq_some_iff] at hx
  rcases hx with ⟨y, hy, rfl⟩
  exact ⟨hy, rfl⟩

/-
  Tame jobs, run by any number of nodes in any order of steps
  that are careful, exclude each other and release their
  locks.
-/
theorem exclusive_of_careful
    {runs : List (JobRun B V)}
    {w : World R}
    {c : Nodes B V R}
    (hTame : ∀ x ∈ runs, Tame x)
    (hStart : w.freed = [])
    (hReach :
      Reach (exec work) (Careful ttl)
        (Config.start w (jobs ttl runs)) c) :
    Exclusive ttl runs c := by
  have hAlong :
      ∀ x ∈ runs.zipIdx,
        (runJob ttl x.2 x.1).Along (fun _ => True)
          (mayCall x)
          (fun tr _ =>
            hasAcquired tr = true → ∃ e ∈ tr, ∃ node job,
                e.op = .completeLock node job) [] := by
    intro x hMem
    refine along_runJob x (hTame x.1 ?_)
    exact List.fst_mem_of_mem_zipIdx hMem
  have hOwnStep :
      ∀ i x tr o a (w : World R),
        runs.zipIdx[i]? = some x → mayCall x tr o →
          Careful ttl tr o a w →
            (∀ p ∈ w.freed, p.1 = p.2) → Own ttl i x tr w →
                (∀ p ∈ (exec work o a w).2.freed,
                  p.1 = p.2) ∧
                  Own ttl i x
                    (⟨o, a, (exec work o a w).1⟩ :: tr)
                    (exec work o a w).2 := by
    intro i x tr o a w hx hCall hCond hInv hOwn
    exact own_step (zipIdx_getElem? hx).2 hCall hCond hInv
      hOwn
  have hShares :=
    hReach.shares (fun _ _ _ _ _ => trivial) hAlong hOwnStep
      (by
        intro i x tr o a w j y tr' hNe hx _ hCall hCond _
          hOwn hOther
        exact own_other hNe (zipIdx_getElem? hx).2 hCall
          hCond hOwn hOther)
      (by
        intro p hMem
        rw [hStart] at hMem
        cases hMem)
      (by
        intro i x _
        constructor <;> simp [holding])
  constructor
  · intro i j x y t u s s' hNe hx hy hJob ht hu hs hs' hTime
    have hx' : runs.zipIdx[i]? = some (x, i) := by
      simp [List.getElem?_zipIdx, hx]
    have hy' : runs.zipIdx[j]? = some (y, j) := by
      simp [List.getElem?_zipIdx, hy]
    have hFirst :=
      ((hShares.2 i t _ ht hx').stored s hs).2 hTime.1
    have hSecond :=
      ((hShares.2 j u _ hu hy').stored s' hs').2 hTime.2
    simp only [hJob] at hFirst hSecond
    rw [hFirst] at hSecond
    exact hNe (congrArg Lock.owner (Option.some.inj hSecond))
  · exact hShares.1
  · intro t hMem hDone hAcquired
    rcases List.getElem?_of_mem hMem with ⟨i, ht⟩
    rcases hReach.along (fun _ _ _ _ _ => trivial) hAlong i t
        ht with ⟨x, hx, hPost⟩
    rcases Prog.isDone_iff.mp hDone with ⟨r, hRet⟩
    rw [hRet] at hPost
    rcases hPost hAcquired with
      ⟨⟨o, a, r'⟩, hEvent, node, job, hOp⟩
    simp only at hOp
    subst hOp
    have hOk :=
      (hShares.2 i t x ht hx).released node job a r' hEvent
    subst hOk
    exact List.any_eq_true.mpr ⟨_, hEvent, rfl⟩

end

instance Careful.decidable
    {B V R : Type}
    (ttl : String → Int)
    (tr : Trace B V) :
    (o : Op B) →
      (a : Answer) →
        (w : World R) → Decidable (Careful ttl tr o a w)
  | .upsertLock _ job t, a, w =>
    inferInstanceAs
      (Decidable (a.fault = true ∨ ∀ lock ∈ w.locks.get job,
            lock.isHeld (t - lifetime ttl job) = false))
  | .completeLock node job, a, w =>
    inferInstanceAs
      (Decidable (a.fault = false ∧ ((∃ t ∈ holding tr,
              (w.tick a).now < t + lifetime ttl job) ∨
            ∀ lock ∈ w.locks.get job,
              lock.isRunning = true → lock.owner = node)))
  | .utcNow, _, _ => .isTrue trivial
  | .getLock _, _, _ => .isTrue trivial
  | .createFailure .., _, _ => .isTrue trivial
  | .work _, _, _ => .isTrue trivial

/- One step of work, and then an error. -/
def payouts : JobRun Unit Unit where
  job := "auto_capture_confirmed_receipts"
  body :=
    .call (.work ()) (fun _ => .ret (.error "timeout"))

def noWork : Work Unit Unit Unit := fun _ _ => ((), ())

def halfHour : String → Int := fun _ => 30

def noon : World Unit where
  now := 1760000000000000000
  rest := ()

/- Steps of the given nodes, at noon and without faults. -/
def turns (nodes : List ℕ) : List (ℕ × Answer) :=
  nodes.map (fun node => (node, {}))

/- A second node comes while the first one works. -/
theorem exclusive_of_careful_skipped :
    ∃ c, Reach (exec noWork) (Careful halfHour)
        (Config.start noon
          (jobs halfHour [payouts, payouts])) c ∧
        c.Quiet ∧
        Exclusive halfHour [payouts, payouts] c := by
  have hRun :
      ((Config.start noon
          (jobs halfHour [payouts, payouts])).run
        (exec noWork)
        (turns [0, 0, 0, 0, 1, 1, 0, 0, 0, 0])).any
          (fun c => decide c.Quiet) = true := by decide
  rcases (Option.any_eq_true _ _).mp hRun with
    ⟨c, hRun, hEnd⟩
  have hReach : Reach (exec noWork) (Careful halfHour) _ c :=
    Reach.of_run hRun (by decide)
  refine ⟨c, hReach, of_decide_eq_true hEnd, ?_⟩
  refine exclusive_of_careful ?_ rfl hReach
  intro x hMem
  have hx : x = payouts := by simpa using hMem
  subst hx
  constructor
  · exact ⟨rfl, fun _ => trivial⟩
  · intro _ e hError
    cases hError
    decide

/- Both nodes read the lock before either writes it. -/
/- Both threads hold the lock at the same time. -/
def bothHold (c : Nodes Unit Unit Unit) : Bool :=
  match c.threads with
  | [t, u] =>
    decide (holding t.trace = some noon.now) &&
      decide (holding u.trace = some noon.now) &&
      decide (c.world.now = noon.now)
  | _ => false

theorem not_exclusive_both_read :
    ¬ ∀ (ttl : String → Int) (runs : List (JobRun Unit Unit))
        (c : Nodes Unit Unit Unit),
      (∀ x ∈ runs, x.body.Uses (fun o => o.isWork = true)) →
      Reach (exec noWork) (fun _ _ a _ => a.fault = false)
        (Config.start noon (jobs ttl runs)) c →
        Exclusive ttl runs c := by
  intro hAll
  have hRun :
      ((Config.start noon
          (jobs halfHour [payouts, payouts])).run
        (exec noWork)
        (turns [0, 0, 1, 1, 0, 1])).any bothHold = true := by
    decide
  rcases (Option.any_eq_true _ _).mp hRun with
    ⟨c, hRun, hEnd⟩
  have hReach :
      Reach (exec noWork) (fun _ _ a _ => a.fault = false) _
        c :=
    Reach.of_run hRun (by decide)
  have hExclusive := hAll halfHour [payouts, payouts] c (by
        intro x hMem
        have hx : x = payouts := by simpa using hMem
        subst hx
        exact ⟨rfl, fun _ => trivial⟩) hReach
  unfold bothHold at hEnd
  split at hEnd
  · rename_i t u hThreads
    simp only [Bool.and_eq_true, decide_eq_true_eq] at hEnd
    refine hExclusive.alone 0 1 payouts payouts t u _ _
      (by decide) rfl rfl rfl (by rw [hThreads]; rfl)
      (by rw [hThreads]; rfl) hEnd.1.1 hEnd.1.2 ?_
    rw [hEnd.2]
    decide
  · cases hEnd

end Orignabase.Cron
