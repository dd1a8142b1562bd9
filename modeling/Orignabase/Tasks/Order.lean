import Mathlib.Data.List.MinMax
import Mathlib.Order.Lattice
import Orignabase.Tasks.Backoff
import Orignabase.Tasks.Finished

/-
  Which task a worker is given.

  The priority of a request is written nowhere: the statement
  that inserts a task leaves it out, and a row is read with
  priority zero.  Here a function of the ids holds the
  priorities with which the tasks were enqueued.

  Key definitions include:
    * `Turns`
    * `claimedId`
    * `Logged`
    * `World.InOrder`

  Main results:
    * `logged_claims`
    * `in_order_iff`
    * `claims_iff`
-/

--------
-- Transitions
--------

namespace Orignabase.Tasks

open Conc

/- The task goes from pending to running. -/
def Turns (id : ℕ) (w w' : World) : Prop :=
  (∃ row, w.rows id = some row ∧ row.status = .pending) ∧
    ∃ row, w'.rows id = some row ∧ row.status = .running

/- The task that a step took for its caller. -/
def claimedId : Event Res Answer → Option ℕ
  | ⟨.claim id _, _, .ok (some _)⟩ => some id
  | _ => none

/- The task that a caller was given. -/
def givenId :
    Option (Except Error (Option (ℕ × Task))) → Option ℕ
  | some (.ok (some (id, _))) => some id
  | _ => none

/- Changes after which no row that changed is running. -/
theorem not_turns_update
    {w : World}
    {change : Row → Row}
    (hChange : ∀ row, (change row).status ≠ .running)
    (matching : ℕ → Row → Bool)
    (id : ℕ) :
    ¬ Turns id w (w.update matching change) := by
  rintro ⟨⟨row, hRow, hPending⟩, row', hRow', hRunning⟩
  change (w.rows id).map _ = some row' at hRow'
  rw [hRow, Option.map_some, Option.some.injEq] at hRow'
  split_ifs at hRow' with hMatching
  · rw [← hRow'] at hRunning
    exact hChange row hRunning
  · rw [← hRow', hPending] at hRunning
    cases hRunning

theorem not_turns_self (id : ℕ) (w : World) :
    ¬ Turns id w w := by
  rintro ⟨⟨row, hRow, hPending⟩, row', hRow', hRunning⟩
  cases hRow.symm.trans hRow'
  rw [hPending] at hRunning
  cases hRunning

variable {row : Row} {env : ℕ → Answer} {n : ℕ}

theorem turns_claimed_iff
    {w : World}
    {id : ℕ}
    (hRow : w.rows id = some row)
    (hPending : row.status = .pending)
    (now : Int)
    (other : ℕ) :
    Turns other w
        { w.modify id (fun row => row.claimed now) with
          started := id :: w.started } ↔
      other = id := by
  constructor
  · rintro ⟨⟨old, hOld, hOther⟩, row', hRow', hRunning⟩
    by_contra hNe
    change (w.rows other).map _ = some row' at hRow'
    rw [hOld, Option.map_some, Option.some.injEq,
      if_neg (by simpa using hNe)] at hRow'
    rw [← hRow', hOther] at hRunning
    cases hRunning
  · rintro rfl
    exact ⟨⟨row, hRow, hPending⟩, row.claimed now,
      modify_self hRow _, rfl⟩

/- What a step writes into `started`, and when. -/
def Records (w w' : World) : Prop :=
  (∃ id, w'.started = id :: w.started ∧
      ∀ other, Turns other w w' ↔ other = id) ∨
    w'.started = w.started ∧ ∀ other, ¬ Turns other w w'

theorem records_exec
    {w : World}
    (hNumbered : Numbered w)
    (o : Op)
    (a : Answer) :
    Records w (exec o a w).2 := by
  have hTick : Numbered (w.tick a) := hNumbered
  have hChanges := changes_exec o a w
  change Records (w.tick a) (exec o a w).2
  generalize (exec o a w).2 = w' at hChanges ⊢
  generalize w.tick a = v at hChanges hTick ⊢
  cases hChanges with
  | none => exact Or.inr ⟨rfl, fun id => not_turns_self id _⟩
  | inserted =>
    refine Or.inr ⟨rfl, ?_⟩
    rintro id ⟨⟨row, hRow, hPending⟩, row', hRow', hRunning⟩
    have hNe := Nat.ne_of_lt (hTick id row hRow)
    have hSame : v.rows id = some row' :=
      (if_neg hNe).symm.trans hRow'
    exact not_turns_self id v
      ⟨⟨row, hRow, hPending⟩, row', hSame, hRunning⟩
  | claimed hRow hStatus hCount =>
    exact Or.inl ⟨_, rfl, turns_claimed_iff hRow hStatus _⟩
  | completed =>
    exact Or.inr ⟨rfl, not_turns_update
      (fun row hStatus => by cases hStatus) _⟩
  | deadLettered =>
    exact Or.inr ⟨rfl, not_turns_update
      (fun row hStatus => by cases hStatus) _⟩
  | requeued =>
    exact Or.inr ⟨rfl, not_turns_update
      (fun row hStatus => by cases hStatus) _⟩
  | reclaimed =>
    exact Or.inr ⟨rfl, not_turns_update
      (fun row hStatus => by cases hStatus) _⟩
  | purged =>
    refine Or.inr ⟨rfl, ?_⟩
    rintro id ⟨hOld, row', hRow', hRunning⟩
    have hKept := (Option.filter_eq_some_iff.mp hRow').1
    exact not_turns_self id v ⟨hOld, row', hKept, hRunning⟩
  | reset =>
    exact Or.inr ⟨rfl, not_turns_update
      (fun row hStatus => by cases hStatus) _⟩

--------
-- Runs of Claims
--------

theorem started_exec (o : Op) (a : Answer) (w : World) :
    (exec o a w).2.started =
      (claimedId ⟨o, a, (exec o a w).1⟩).toList ++
        w.started := by
  cases hFault : a.fault with
  | some e =>
    cases o <;> simp [exec, statement, hFault, claimedId,
      World.tick]
  | none =>
    cases o with
    | claim id now =>
      simp only [exec, statement, hFault, claimRow]
      split
      · rfl
      · split_ifs <;> rfl
    | _ => simp [exec, statement, hFault, claimedId,
      World.tick, insertRow, World.modify, World.update,
      reclaimRows, purgeRows]

/- A claim is the last step of its program. -/
def Unclaimed (tr : List (Event Res Answer)) : Prop :=
  ∀ e ∈ tr, claimedId e = none

theorem Unclaimed.cons
    {e : Event Res Answer}
    {tr : List (Event Res Answer)}
    (hUnclaimed : Unclaimed tr)
    (hNone : claimedId e = none) :
    Unclaimed (e :: tr) :=
  List.forall_mem_cons.mpr ⟨hNone, hUnclaimed⟩

/- The reply tells what the last step took. -/
def Tells
    (tr : List (Event Res Answer))
    (r : Option (Except Error (Option (ℕ × Task)))) : Prop :=
  ∃ e past, tr = e :: past ∧ givenId r = claimedId e

theorem along_claimNext (queue : String) :
    (claimNext queue).Along (fun _ => True)
      (fun tr _ => Unclaimed tr) Tells [] := by
  have hStart : Unclaimed [] := fun _ hMem => by cases hMem
  refine ⟨hStart, fun a created _ => ?_⟩
  cases created with
  | error message => exact ⟨_, _, rfl, rfl⟩
  | ok _ =>
    have hCreated := hStart.cons
      (e := ⟨.createTable, a, .ok ()⟩) rfl
    refine ⟨hCreated, fun b added _ => ?_⟩
    cases added with
    | error message => exact ⟨_, _, rfl, rfl⟩
    | ok _ =>
      have hAdded := hCreated.cons
        (e := ⟨.addColumn, b, .ok ()⟩) rfl
      refine ⟨hAdded, fun c now _ => ?_⟩
      have hClock := hAdded.cons
        (e := ⟨.utcNow, c, now⟩) rfl
      refine ⟨hClock, fun d found _ => ?_⟩
      have hSelected := hClock.cons
        (e := ⟨.selectNext queue now, d, found⟩) rfl
      cases found with
      | error message => exact ⟨_, _, rfl, rfl⟩
      | ok candidate =>
        cases candidate with
        | none => exact ⟨_, _, rfl, rfl⟩
        | some id =>
          refine ⟨hSelected, fun f updated _ => ?_⟩
          cases updated with
          | error message => exact ⟨_, _, rfl, rfl⟩
          | ok row =>
            cases row with
            | none => exact ⟨_, _, rfl, rfl⟩
            | some row => exact ⟨_, _, rfl, rfl⟩

/- What a call of `claim_next` ends with. -/
abbrev Claimed :=
  Option (Except Error (Option (ℕ × Task)))

/-
  The tasks that were started are those that the callers were
  given, in the order of the replies.
-/
structure Logged
    (before : List ℕ)
    (w : World)
    (rs : List (Reply String Res Answer World Claimed)) :
    Prop where
  numbered : Numbered w
  started :
    w.started =
      rs.filterMap (fun reply => givenId reply.result) ++
        before

/- Whatever workers claim tasks, in whatever order. -/
theorem logged_claims
    {queues : List String}
    {w : World}
    {rs : List (Reply String Res Answer World Claimed)}
    {c : Config Res Answer World Claimed}
    (hNumbered : Numbered w)
    (hServes :
      Serves exec (fun _ _ _ _ _ => True) claimNext queues w
        rs c) :
    Logged w.started c.world rs := by
  let told : Event Res Answer → World → Prop :=
    fun _ _ => True
  have hNew :
      ∀ x ∈ queues, ∀ tr o a v rs, Unclaimed tr →
        Logged w.started v rs →
          told ⟨o, a, (exec o a v).1⟩ (exec o a v).2 := by
    intros
    trivial
  have hKeep :
      ∀ x ∈ queues, ∀ tr o a v e, Unclaimed tr →
        told e v → told e (exec o a v).2 := by
    intros
    trivial
  refine (hServes.holds
    (fun queue _ => along_claimNext queue) hNew hKeep ?_ ?_
    ⟨hNumbered, rfl⟩).1
  · -- The program goes on, so this was no claim.
    intro queue _ tr o a v rs _ _ _ hLogged hNext
    rcases hNext with ⟨_, hUnclaimed⟩
    refine ⟨numbered_exec hLogged.numbered o a, ?_⟩
    rw [started_exec, hUnclaimed _ List.mem_cons_self]
    exact hLogged.started
  · intro queue _ tr o a v rs r _ _ _ hLogged hTells
    rcases hTells with ⟨e, past, hSame, hGiven⟩
    cases hSame
    refine ⟨numbered_exec hLogged.numbered o a, ?_⟩
    rw [started_exec, hLogged.started, List.filterMap_cons,
      hGiven]
    cases claimedId ⟨o, a, (exec o a v).1⟩ <;> rfl

--------
-- The Order of Claims
--------

/- A task of the queue that may be run now. -/
def World.Eligible
    (w : World)
    (queue : String)
    (now : Int)
    (id : ℕ)
    (row : Row) : Prop :=
  w.rows id = some row ∧ row.eligible queue now = true

/- No task of the queue that may be run now is older. -/
def World.Oldest
    (w : World)
    (queue : String)
    (now : Int)
    (id : ℕ)
    (row : Row) : Prop :=
  w.Eligible queue now id row ∧
    ∀ other row', w.Eligible queue now other row' →
      row.createdAt ≤ row'.createdAt

/-
  The task that a claim returns has the smallest priority of
  those that may be run, and among these it is the oldest.
-/
def World.InOrder
    (w : World)
    (priority : ℕ → Int)
    (queue : String)
    (now : Int) : Option (ℕ × Task) → Prop
  | none => ∀ id row, ¬ w.Eligible queue now id row
  | some (id, task) =>
    ∃ row, w.Eligible queue now id row ∧
      task = rowToTask (row.claimed now) ∧
      ∀ other row', w.Eligible queue now other row' →
        priority id < priority other ∨
          priority id = priority other ∧
            row.createdAt ≤ row'.createdAt

variable {w : World} {queue : String} {now : Int}

/- The tasks of the queue that may be run now. -/
def World.found (w : World) (queue : String) (now : Int) :
    List (ℕ × Row) :=
  (List.range w.issued).filterMap (fun id =>
    (w.rows id).bind (fun row =>
      if row.eligible queue now then some (id, row)
      else none))

theorem mem_found_iff
    (hNumbered : Numbered w)
    (entry : ℕ × Row) :
    entry ∈ w.found queue now ↔
      w.Eligible queue now entry.1 entry.2 := by
  unfold World.found World.Eligible
  rw [List.mem_filterMap]
  constructor
  · rintro ⟨id, _, hBind⟩
    rcases Option.bind_eq_some_iff.mp hBind with
      ⟨row, hRow, hIf⟩
    split_ifs at hIf with hEligible
    cases hIf
    exact ⟨hRow, hEligible⟩
  · rintro ⟨hRow, hEligible⟩
    refine ⟨entry.1,
      List.mem_range.mpr (hNumbered _ _ hRow), ?_⟩
    rw [hRow, Option.bind_some, if_pos hEligible]

theorem mem_oldest_iff
    (hNumbered : Numbered w)
    (id : ℕ) :
    id ∈ w.oldest queue now ↔
      ∃ row, w.Oldest queue now id row := by
  change id ∈ ((w.found queue now).filter (fun entry =>
    (w.found queue now).all (fun other =>
      entry.2.createdAt ≤ other.2.createdAt))).map
        Prod.fst ↔ _
  simp only [List.mem_map, List.mem_filter,
    mem_found_iff hNumbered, List.all_eq_true,
    decide_eq_true_eq]
  constructor
  · rintro ⟨⟨_, row⟩, ⟨hEligible, hAll⟩, rfl⟩
    exact ⟨row, hEligible, fun other row' hOther =>
      hAll (other, row') hOther⟩
  · rintro ⟨row, hEligible, hAll⟩
    exact ⟨(id, row), ⟨hEligible, fun other hOther =>
      hAll other.1 other.2 hOther⟩, rfl⟩

/- Where a task may be run, there is an oldest one. -/
theorem exists_oldest
    (hNumbered : Numbered w)
    {id : ℕ}
    (hEligible : w.Eligible queue now id row) :
    ∃ first, first ∈ w.oldest queue now := by
  have hMem :=
    (mem_found_iff hNumbered (id, row)).mpr hEligible
  cases hFirst : (w.found queue now).argmin
      (fun entry => entry.2.createdAt) with
  | none =>
    rw [List.argmin_eq_none.mp hFirst] at hMem
    cases hMem
  | some first =>
    have hFound := (mem_found_iff hNumbered first).mp
      (List.argmin_mem hFirst)
    refine ⟨first.1, (mem_oldest_iff hNumbered _).mpr
      ⟨first.2, hFound, fun other row' hOther => ?_⟩⟩
    exact List.le_of_mem_argmin
      (f := fun entry : ℕ × Row => entry.2.createdAt)
      ((mem_found_iff hNumbered (other, row')).mpr hOther)
      hFirst

def claimAt (queue : String) (now : Int) :
    Prog Res (Option (Except Error (Option (ℕ × Task)))) :=
  .call (.selectNext queue now) (fun found =>
    check "Claim select failed: " found (claimFound now))
where
  claimFound (now : Int) :
      Option ℕ → Prog Res
        (Option (Except Error (Option (ℕ × Task))))
    | none => done none
    | some id =>
      .call (.claim id now) (fun updated =>
        check "Claim update failed: " updated (fun row =>
            done (row.map (fun row => (id, rowToTask row)))))

theorem claimNext_eq (queue : String) :
    claimNext queue =
      ensureSchema (.call .utcNow (claimAt queue)) := rfl

/- The task that a claim finds, if there is one. -/
def World.picked
    (w : World)
    (queue : String)
    (now : Int)
    (a : Answer) : Option ℕ :=
  (w.oldest queue now)[a.pick %
    (w.oldest queue now).length]?

theorem claimAt_alone
    (hSelect : (env n).fault = none) :
    (claimAt queue now).alone exec env n w =
      (claimAt.claimFound now
        (w.picked queue now (env n))).alone exec env (n + 1)
          (w.tick (env n)) := by
  simp only [claimAt, Prog.alone_call, exec, check,
    statement_calm hSelect]
  rfl

theorem claimFound_alone
    {id : ℕ}
    (w : World)
    (now : Int)
    (hUpdate : (env n).fault = none)
    (hRow : w.rows id = some row)
    (hPending : row.status = .pending) :
    ((claimAt.claimFound now (some id)).alone exec env n
        w).1 =
      if row.retryCount < maxCount then
        some (.ok (some (id, rowToTask (row.claimed now))))
      else
        some (.error (.database ("Claim update failed: " ++
            "integer out of range"))) := by
  have hSame : (w.tick (env n)).rows id = some row := hRow
  simp only [claimAt.claimFound, Prog.alone_call, exec,
    statement_calm hUpdate, claimRow, hSame, hPending]
  by_cases hCount : row.retryCount < maxCount
  · rw [if_pos hCount, if_neg (not_not.mpr rfl),
      if_neg (Int.not_le.mpr hCount)]
    rfl
  · rw [if_neg hCount, if_neg (not_not.mpr rfl),
      if_pos (Int.not_lt.mp hCount)]
    rfl

/-
  A claim that nobody disturbs, at this time, returns what
  `InOrder` says, whichever of the oldest tasks it is given.
-/
def ClaimsInOrder
    (w : World)
    (priority : ℕ → Int)
    (queue : String)
    (now : Int) : Prop :=
  ∀ (env : ℕ → Answer) (n : ℕ),
    Calm env [n, n + 1, n + 3, n + 4] →
    readAt env n w = now → ∃ claimed,
        ((claimNext queue).alone exec env n w).1 =
            some (.ok claimed) ∧
          w.InOrder priority queue now claimed

/-
  No task that may be run has a smaller priority than one of
  the oldest, and the oldest can be counted once more.
-/
def OldestFirst
    (w : World)
    (priority : ℕ → Int)
    (queue : String)
    (now : Int) : Prop :=
  ∀ id row, w.Oldest queue now id row →
    row.retryCount < maxCount ∧
      ∀ other row', w.Eligible queue now other row' →
        priority id ≤ priority other

theorem claimNext_alone
    (hCalm : Calm env [n, n + 1, n + 3, n + 4])
    (hTime : readAt env n w = now) :
    ((claimNext queue).alone exec env n w).1 =
      ((claimAt.claimFound now
        (w.picked queue now (env (n + 3)))).alone exec env
          (n + 4)
          ((((w.tick (env n)).tick (env (n + 1))).tick
            (env (n + 2))).tick (env (n + 3)))).1 := by
  have hSplit := (calm_schema_iff [n + 3, n + 4]).mp hCalm
  have hSelect := hSplit.2 (n + 3) (by simp)
  rw [claimNext_eq, ensureSchema_calm hSplit.1]
  change ((claimAt queue (readAt env n w)).alone exec env
    (n + 3) _).1 = _
  rw [hTime]
  exact congrArg Prod.fst (claimAt_alone hSelect)

theorem pending_of_eligible
    {id : ℕ}
    (hEligible : w.Eligible queue now id row) :
    row.status = .pending :=
  (of_decide_eq_true hEligible.2).2.1

theorem in_order_iff
    (hNumbered : Numbered w)
    (hNow : w.now ≤ now)
    (priority : ℕ → Int) :
    ClaimsInOrder w priority queue now ↔
      OldestFirst w priority queue now := by
  constructor
  · intro hClaims id row hOldest
    rcases List.mem_iff_getElem?.mp
      ((mem_oldest_iff hNumbered id).mpr ⟨row, hOldest⟩) with
      ⟨k, hPick⟩
    have hLt := (List.getElem?_eq_some_iff.mp hPick).1
    let env : ℕ → Answer := fun _ => { now := now, pick := k }
    have hCalm : Calm env [0, 1, 3, 4] := fun _ _ => rfl
    have hTime : readAt env 0 w = now := by
      change max (max (max w.now now) now) now = now
      rw [max_eq_right hNow, max_self, max_self]
    have hPicked :
        w.picked queue now (env 3) = some id := by
      unfold World.picked
      rw [Nat.mod_eq_of_lt hLt]
      exact hPick
    rcases hClaims env 0 hCalm hTime with
      ⟨claimed, hResult, hOrder⟩
    rw [claimNext_alone hCalm hTime, hPicked] at hResult
    let v :=
      (((w.tick (env 0)).tick (env 1)).tick (env 2)).tick
        (env 3)
    have hAlone := claimFound_alone v now
      (hCalm 4 (by simp)) hOldest.1.1
      (pending_of_eligible hOldest.1)
    have hClaim := hAlone.symm.trans hResult
    split_ifs at hClaim with hCount
    · cases hClaim
      rcases hOrder with ⟨row', _, _, hAll⟩
      refine ⟨hCount, fun other found hOther => ?_⟩
      rcases hAll other found hOther with hLess | hSame
      · exact Int.le_of_lt hLess
      · exact Int.le_of_eq hSame.1
    · cases hClaim
  · intro hFirst env n hCalm hTime
    have hUpdate := hCalm (n + 4) (by simp)
    rw [claimNext_alone hCalm hTime]
    cases hPicked : w.picked queue now (env (n + 3)) with
    | none =>
      refine ⟨none, rfl, fun id row hEligible => ?_⟩
      rcases exists_oldest hNumbered hEligible with
        ⟨first, hMem⟩
      have hLength := List.length_pos_of_mem hMem
      have hOut := List.getElem?_eq_none_iff.mp hPicked
      exact absurd (Nat.mod_lt _ hLength)
        (Nat.not_lt.mpr hOut)
    | some id =>
      rcases (mem_oldest_iff hNumbered id).mp
        (List.mem_of_getElem? hPicked) with ⟨row, hOldest⟩
      rcases hFirst id row hOldest with ⟨hCount, hLeast⟩
      refine ⟨some (id, rowToTask (row.claimed now)), ?_,
        row, hOldest.1, rfl, fun other row' hOther => ?_⟩
      · let v := (((w.tick (env n)).tick (env (n + 1))).tick
            (env (n + 2))).tick (env (n + 3))
        have hAlone := claimFound_alone v now hUpdate
          hOldest.1.1 (pending_of_eligible hOldest.1)
        exact hAlone.trans (if_pos hCount)
      · rcases Int.lt_or_eq_of_le
          (hLeast other row' hOther) with hLess | hSame
        · exact Or.inl hLess
        · exact Or.inr ⟨hSame, hOldest.2 other row' hOther⟩

/-
  In every run of claims each transition of a task to running
  is returned to one caller, and a claim that nobody disturbs
  returns the first task in the order of the priorities
  exactly where the oldest tasks have the smallest priority.
-/
theorem claims_iff
    (w : World)
    (hNumbered : Numbered w)
    (priority : ℕ → Int)
    (queue : String)
    (now : Int)
    (hNow : w.now ≤ now) :
    (∀ (queues : List String)
        (rs : List (Reply String Res Answer World Claimed))
        (c : Config Res Answer World Claimed),
      Serves exec (fun _ _ _ _ _ => True) claimNext queues w
        rs c →
          Logged w.started c.world rs ∧
            ∀ o a, Records c.world (exec o a c.world).2) ∧
      (ClaimsInOrder w priority queue now ↔
        OldestFirst w priority queue now) := by
  refine ⟨fun queues rs c hServes => ?_,
    in_order_iff hNumbered hNow priority⟩
  have hLogged := logged_claims hNumbered hServes
  exact ⟨hLogged, records_exec hLogged.numbered⟩

/- Two tasks; the second has the smaller number. -/
def twoPriorities : World :=
  ((enqueue { priority := -1 }).alone exec
    (fun _ => { now := 2 * nanos }) 0
    ((enqueue { priority := 5 }).alone exec
      (fun _ => { now := nanos }) 0 World.empty).2.2).2.2

theorem rows_twoPriorities :
    twoPriorities.rows = fun id =>
      if id = 1 then
        some (enqueuedRow { priority := -1 } none (2 * nanos))
      else if id = 0 then
        some (enqueuedRow { priority := 5 } none nanos)
      else none := rfl

theorem numbered_twoPriorities : Numbered twoPriorities := by
  intro id row hRow
  change id < 2
  rw [rows_twoPriorities] at hRow
  dsimp only at hRow
  split_ifs at hRow <;> omega

theorem claims_in_order_alone :
    ClaimsInOrder twoPriorities (fun _ => 0) "default"
      (3 * nanos) := by
  refine (claims_iff twoPriorities numbered_twoPriorities
    (fun _ => 0) "default" (3 * nanos) (by decide)).2.mpr ?_
  intro id row hOldest
  refine ⟨?_, fun _ _ _ => le_refl 0⟩
  have hRow := hOldest.1.1
  rw [rows_twoPriorities] at hRow
  dsimp only at hRow
  split_ifs at hRow
  · rw [← Option.some.inj hRow]
    decide
  · rw [← Option.some.inj hRow]
    decide

/- The first is returned, though its number is larger. -/
theorem larger_priority_first :
    ¬ ClaimsInOrder twoPriorities
      (fun id => if id = 0 then 5 else -1) "default"
      (3 * nanos) := by
  intro hClaims
  have hFirst := (in_order_iff numbered_twoPriorities
    (by decide) _).mp hClaims
  have hZero : twoPriorities.Eligible "default" (3 * nanos) 0
      (enqueuedRow { priority := 5 } none nanos) :=
    ⟨rfl, by decide⟩
  have hOne : twoPriorities.Eligible "default" (3 * nanos) 1
      (enqueuedRow { priority := -1 } none (2 * nanos)) :=
    ⟨rfl, by decide⟩
  have hOldest : twoPriorities.Oldest "default" (3 * nanos) 0
      (enqueuedRow { priority := 5 } none nanos) := by
    refine ⟨hZero, fun other row hOther => ?_⟩
    have hRow := hOther.1
    rw [rows_twoPriorities] at hRow
    dsimp only at hRow
    split_ifs at hRow
    · rw [← Option.some.inj hRow]
      decide
    · rw [← Option.some.inj hRow]
  have hLeast := (hFirst 0 _ hOldest).2 1 _ hOne
  exact absurd hLeast (by decide)

end Orignabase.Tasks
