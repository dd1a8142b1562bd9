import Orignabase.Lib.Replies
import Orignabase.Tasks.Queue

/-
  The numbers and the times that are computed for retries.

  A request holds a limit of 32 bits without a sign and a
  delay of 64; the table has a signed limit of 32 bits, and a
  duration and the calendar end earlier than the delays.

  Key definitions include:
    * `readAt`
    * `StoredRight`
    * `RetriedRight`

  Main results:
    * `stored_right_iff`
    * `retried_right_iff`
    * `retries_right_iff`
-/

--------
-- Right Numbers
--------

namespace Orignabase.Tasks

open Conc

/- These statements do not fail. -/
def Calm (env : ℕ → Answer) (calls : List ℕ) : Prop :=
  ∀ i ∈ calls, (env i).fault = none

/- The clock after the schema has been ensured. -/
def readAt (env : ℕ → Answer) (n : ℕ) (w : World) : Int :=
  (((w.tick (env n)).tick (env (n + 1))).tick
    (env (n + 2))).now

/- A time of the calendar. -/
def InCalendar (time : Int) : Prop :=
  minUtc * nanos ≤ time ∧ time < (maxUtc + 1) * nanos

/-
  The task is in the table with the limit of the request, and
  as much later as the request says.
-/
def StoredRight
    (req : EnqueueRequest)
    (env : ℕ → Answer)
    (n : ℕ)
    (w : World) : Prop :=
  ∃ row, ((enqueue req).alone exec env n w).1 =
      some (.ok (rowToTask row)) ∧
    ((enqueue req).alone exec env n w).2.2.rows w.issued =
      some row ∧
    row.maxRetries = req.maxRetries.toNat ∧
    row.scheduledAt =
      if req.delaySecs > 0 then
        some (readAt env n w + req.delaySecs.toNat * nanos)
      else none

/-
  A failed task is pending with a later time, or it is a dead
  letter after as many claims as its limit says.
-/
def RetriedRight
    (checked : Bool)
    (id limit : ℕ)
    (message : String)
    (env : ℕ → Answer)
    (n : ℕ)
    (w : World) : Prop :=
  ((fail checked id message).alone exec env n w).1 =
      some (.ok ()) ∧
    ∃ row, ((fail checked id message).alone exec env n
        w).2.2.rows id = some row ∧
      (row.status = .pending ∧ row.retryCount < limit ∧
          (∃ time ∈ row.scheduledAt,
            readAt env n w < time) ∨
        row.status = .deadLetter ∧ row.retryCount = limit)

--------
-- Conversions
--------

/- An unsigned number of 32 bits read as a signed one. -/
theorem toInt32_toInt (n : UInt32) :
    n.toInt32.toInt =
      if n.toNat < 2 ^ 31 then (n.toNat : Int)
      else n.toNat - 2 ^ 32 := by
  change n.toBitVec.toInt = _
  have hLt : n.toNat < 2 ^ 32 := n.toNat_lt
  rw [BitVec.toInt_eq_toNat_cond, UInt32.toNat_toBitVec]
  split_ifs <;> omega

theorem toInt64_toInt (n : UInt64) :
    n.toInt64.toInt =
      if n.toNat < 2 ^ 63 then (n.toNat : Int)
      else n.toNat - 2 ^ 64 := by
  change n.toBitVec.toInt = _
  have hLt : n.toNat < 2 ^ 64 := n.toNat_lt
  rw [BitVec.toInt_eq_toNat_cond, UInt64.toNat_toBitVec]
  split_ifs <;> omega

theorem limit_right_iff (n : UInt32) :
    n.toInt32.toInt = n.toNat ↔ n.toNat < 2 ^ 31 := by
  rw [toInt32_toInt]
  split_ifs with hSmall
  · exact iff_of_true rfl hSmall
  · constructor
    · intro hSame
      omega
    · exact fun h => absurd h hSmall

/- A delay is added to a time of the calendar. -/
theorem addSeconds_delay_iff
    {time : Int}
    (hTime : InCalendar time)
    (n : UInt64) :
    addSeconds time n.toInt64.toInt =
        some (time + n.toNat * nanos) ↔
      InCalendar (time + n.toNat * nanos) := by
  have hSum : time + (n.toNat : Int) * nanos ≥ time := by
    unfold nanos
    omega
  unfold addSeconds
  dsimp only
  rw [toInt64_toInt]
  unfold InCalendar at hTime ⊢
  unfold maxSeconds minUtc maxUtc nanos at *
  split_ifs with hSmall hIn hIn
  · exact iff_of_true rfl ⟨by omega, by omega⟩
  · constructor
    · intro hNone
      cases hNone
    · intro hBounds
      exact absurd ⟨by omega, by omega, by omega⟩ hIn
  · constructor
    · intro hSome
      have hSame := Option.some.inj hSome
      omega
    · intro hBounds
      omega
  · constructor
    · intro hNone
      cases hNone
    · intro hBounds
      omega

/- The time of a retry, if it can be computed. -/
theorem powTwo_later_iff
    {time : Int}
    (hTime : InCalendar time)
    (checked : Bool)
    (k : ℕ) :
    (∃ retryAt ∈ (powTwo checked k).bind (addSeconds time),
        time < retryAt) ↔
      InCalendar (time + 2 ^ k * nanos) := by
  unfold InCalendar at *
  by_cases hSmall : k < 63
  · have hPos : (0 : Int) < 2 ^ k := Int.pow_pos (by decide)
    have hBound : (2 : Int) ^ k ≤ 2 ^ 62 := by
      exact_mod_cast Nat.pow_le_pow_right (by decide)
          (Nat.le_of_lt_succ hSmall)
    unfold powTwo
    rw [if_pos hSmall, Option.bind_some]
    generalize (2 : Int) ^ k = p at *
    unfold addSeconds
    dsimp only
    unfold maxSeconds minUtc maxUtc nanos at *
    split_ifs with hIn
    · refine iff_of_true ⟨_, rfl, by omega⟩
        ⟨by omega, by omega⟩
    · constructor
      · rintro ⟨retryAt, hMem, _⟩
        cases hMem
      · intro hBounds
        exact absurd ⟨by omega, by omega, by omega⟩ hIn
  · have hLarge : (2 : Int) ^ 63 ≤ 2 ^ k := by
      exact_mod_cast
        Nat.pow_le_pow_right (by decide) (Nat.le_of_not_lt hSmall)
    have hOut :
        ¬ (time + 2 ^ k * nanos < (maxUtc + 1) * nanos) := by
      generalize (2 : Int) ^ k = p at *
      unfold minUtc maxUtc nanos at *
      omega
    refine iff_of_false ?_ (fun h => hOut h.2)
    rintro ⟨retryAt, hMem, hLater⟩
    unfold powTwo at hMem
    rw [if_neg hSmall] at hMem
    split_ifs at hMem with hChecked hEdge
    · cases hMem
    · -- The power is negative, and too large for a duration.
      rw [Option.bind_some] at hMem
      have hNone : addSeconds time (-2 ^ 63) = none := by
        unfold addSeconds maxSeconds
        rw [if_neg]
        omega
      rw [hNone] at hMem
      cases hMem
    · rw [Option.bind_some] at hMem
      unfold addSeconds at hMem
      dsimp only at hMem
      split_ifs at hMem with hIn
      · rw [Option.mem_def, Option.some.injEq] at hMem
        omega
      · cases hMem

--------
-- Operations Run Alone
--------

variable {env : ℕ → Answer} {n : ℕ} {w : World}

variable {a : Answer} {now : Int} {row : Row} {k : ℕ}

theorem statement_calm
    {α : Type}
    (hCalm : a.fault = none)
    (w : World)
    (body : World → Except String α × World) :
    statement a w body = body (w.tick a) := by
  unfold statement
  rw [hCalm]

theorem statement_failed
    {α : Type}
    (hFailed : a.fault ≠ none)
    (w : World)
    (body : World → Except String α × World) :
    ∃ e, statement a w body = (.error e, w.tick a) := by
  rcases Option.ne_none_iff_exists'.mp hFailed with
    ⟨e, hFault⟩
  unfold statement
  rw [hFault]
  exact ⟨e, rfl⟩

theorem ensureSchema_calm
    {β : Type}
    (hCalm : Calm env [n, n + 1])
    (next : Prog Res (Option (Except Error β)))
    (w : World) :
    (ensureSchema next).alone exec env n w =
      next.alone exec env (n + 2)
        ((w.tick (env n)).tick (env (n + 1))) := by
  have hCreated := hCalm n (by simp)
  have hAdded := hCalm (n + 1) (by simp)
  simp only [ensureSchema, Prog.alone_call, exec, check,
    statement_calm hCreated, statement_calm hAdded]

theorem calm_of_ensureSchema
    {β : Type}
    {next : Prog Res (Option (Except Error β))}
    {b : β}
    (hDone :
      ((ensureSchema next).alone exec env n w).1 =
        some (.ok b)) :
    Calm env [n, n + 1] := by
  have hCreated : (env n).fault = none := by
    by_contra hFailed
    rcases statement_failed hFailed w
      (fun w => (.ok (), w)) with ⟨e, hResult⟩
    simp only [ensureSchema, Prog.alone_call, exec, hResult,
      check, Prog.alone_ret] at hDone
    cases hDone
  have hAdded : (env (n + 1)).fault = none := by
    by_contra hFailed
    rcases statement_failed hFailed (w.tick (env n))
      (fun w => (.ok (), w)) with ⟨e, hResult⟩
    simp only [ensureSchema, Prog.alone_call, exec, hResult,
      check, statement_calm hCreated, Prog.alone_ret] at hDone
    cases hDone
  intro i hMem
  rcases List.mem_pair.mp hMem with rfl | rfl
  · exact hCreated
  · exact hAdded

theorem calm_cons (i : ℕ) (calls : List ℕ) :
    Calm env (i :: calls) ↔
      (env i).fault = none ∧ Calm env calls :=
  List.forall_mem_cons

theorem calm_append (calls calls' : List ℕ) :
    Calm env (calls ++ calls') ↔
      Calm env calls ∧ Calm env calls' :=
  List.forall_mem_append

--------
-- Enqueued Tasks
--------

def enqueuedRow
    (req : EnqueueRequest)
    (scheduledAt : Option Int)
    (createdAt : Int) : Row where
  jobName := req.taskType
  queue := req.queue
  status := .pending
  payload := req.payload
  scheduledAt := scheduledAt
  lockedAt := none
  completedAt := none
  createdAt := createdAt
  retryCount := 0
  maxRetries := req.maxRetries.toInt32.toInt
  errorMessage := none

def insertAt
    (req : EnqueueRequest)
    (scheduledAt : Option Int) :
    Prog Res (Option (Except Error Task)) :=
  .call (.insert (enqueuedRow req scheduledAt)) (fun row =>
    check "Enqueue failed: " row
      (fun row => done (rowToTask row)))

/- A task is in the table with this limit and time. -/
def Stored
    (limit : ℕ)
    (scheduledAt : Option Int)
    (id : ℕ)
    (out : Option (Except Error Task) × ℕ × World) : Prop :=
  ∃ row, out.1 = some (.ok (rowToTask row)) ∧
    out.2.2.rows id = some row ∧
    row.maxRetries = limit ∧
    row.scheduledAt = scheduledAt

theorem stored_insertAt_iff
    (req : EnqueueRequest)
    (scheduledAt expected : Option Int)
    (w : World) :
    Stored req.maxRetries.toNat expected w.issued
        ((insertAt req scheduledAt).alone exec env n w) ↔
      (env n).fault = none ∧ req.maxRetries.toNat < 2 ^ 31 ∧
        scheduledAt = expected := by
  by_cases hCalm : (env n).fault = none
  · have hAlone :
        (insertAt req scheduledAt).alone exec env n w =
          (some (.ok (rowToTask (enqueuedRow req scheduledAt
                (w.tick (env n)).now))),
            n + 1,
            (insertRow (enqueuedRow req scheduledAt)
              (w.tick (env n))).2) := by
      simp only [insertAt, Prog.alone_call, exec,
        statement_calm hCalm, insertRow, check, done,
        Prog.alone_ret]
    have hRow :
        ((insertRow (enqueuedRow req scheduledAt)
          (w.tick (env n))).2).rows w.issued =
          some (enqueuedRow req scheduledAt
            (w.tick (env n)).now) :=
      if_pos rfl
    rw [hAlone, and_iff_right hCalm,
      ← limit_right_iff req.maxRetries]
    constructor
    · rintro ⟨row, _, hFound, hLimit, hTime⟩
      cases hRow.symm.trans hFound
      exact ⟨hLimit, hTime⟩
    · rintro ⟨hLimit, hTime⟩
      exact ⟨_, rfl, hRow, hLimit, hTime⟩
  · refine iff_of_false ?_ (fun h => hCalm h.1)
    rintro ⟨row, hResult, _⟩
    rcases statement_failed hCalm w
      (insertRow (enqueuedRow req scheduledAt)) with
      ⟨e, hFailed⟩
    simp only [insertAt, Prog.alone_call, exec, hFailed,
      check, Prog.alone_ret] at hResult
    cases hResult

def enqueueAt (req : EnqueueRequest) (now : Int) :
    Prog Res (Option (Except Error Task)) :=
  if req.delaySecs > 0 then
    within (addSeconds now req.delaySecs.toInt64.toInt)
      (fun time => insertAt req (some time))
  else insertAt req none

theorem enqueue_eq (req : EnqueueRequest) :
    enqueue req =
      ensureSchema (.call .utcNow (enqueueAt req)) := rfl

theorem stored_enqueueAt_iff
    (req : EnqueueRequest)
    (hNow : InCalendar now)
    (w : World) :
    Stored req.maxRetries.toNat
        (if req.delaySecs > 0 then
          some (now + req.delaySecs.toNat * nanos)
        else none)
        w.issued
        ((enqueueAt req now).alone exec env n w) ↔
      (env n).fault = none ∧ req.maxRetries.toNat < 2 ^ 31 ∧
        (req.delaySecs > 0 →
          InCalendar (now + req.delaySecs.toNat * nanos)) := by
  unfold enqueueAt
  by_cases hDelay : req.delaySecs > 0
  · have hLater := addSeconds_delay_iff hNow req.delaySecs
    rw [if_pos hDelay, if_pos hDelay, ← hLater]
    cases hTime :
        addSeconds now req.delaySecs.toInt64.toInt with
    | none =>
      refine iff_of_false ?_ ?_
      · rintro ⟨row, hResult, _⟩
        cases hResult
      · rintro ⟨_, _, hSome⟩
        cases hSome hDelay
    | some time =>
      change Stored _ _ _
        ((insertAt req (some time)).alone exec env n w) ↔ _
      rw [stored_insertAt_iff, forall_prop_of_true hDelay]
  · rw [if_neg hDelay, if_neg hDelay, stored_insertAt_iff]
    exact and_congr_right (fun _ => and_congr_right
      (fun _ => iff_of_true rfl (fun h => absurd h hDelay)))

theorem calm_schema_iff (calls : List ℕ) :
    Calm env (n :: (n + 1) :: calls) ↔
      Calm env [n, n + 1] ∧ Calm env calls :=
  calm_append [n, n + 1] calls

/- When a task is stored as the request says. -/
theorem stored_right_iff
    (req : EnqueueRequest)
    (hNow : InCalendar (readAt env n w)) :
    StoredRight req env n w ↔ Calm env [n, n + 1, n + 3] ∧
        req.maxRetries.toNat < 2 ^ 31 ∧
        (req.delaySecs > 0 → InCalendar (readAt env n w +
              req.delaySecs.toNat * nanos)) := by
  change Stored _ _ w.issued
    ((enqueue req).alone exec env n w) ↔ _
  rw [calm_schema_iff, enqueue_eq]
  by_cases hSchema : Calm env [n, n + 1]
  · rw [ensureSchema_calm hSchema, and_iff_right hSchema]
    have hCalm :
        Calm env [n + 3] ↔ (env (n + 3)).fault = none :=
      List.forall_mem_singleton
    rw [hCalm]
    exact stored_enqueueAt_iff req hNow
      (((w.tick (env n)).tick (env (n + 1))).tick
        (env (n + 2)))
  · refine iff_of_false ?_ (fun h => hSchema h.1.1)
    rintro ⟨row, hResult, _⟩
    exact hSchema (calm_of_ensureSchema hResult)

--------
-- Failed Tasks
--------

def failRow
    (checked : Bool)
    (id : ℕ)
    (message : String)
    (now : Int)
    (row : Row) : Prog Res (Option (Except Error Unit)) :=
  if row.retryCount ≥ row.maxRetries then
    .call (.deadLetter id now message) (fun result =>
      check "Dead-letter failed: " result
        (fun _ => done ()))
  else
    within ((powTwo checked (asU32 row.retryCount)).bind
        (addSeconds now))
      (fun retryAt =>
        .call (.requeue id retryAt message) (fun result =>
          check "Retry update failed: " result
            (fun _ => done ())))

def failFound
    (checked : Bool)
    (id : ℕ)
    (message : String)
    (now : Int) :
    Option Row → Prog Res (Option (Except Error Unit))
  | none => done ()
  | some row => failRow checked id message now row

def failAt
    (checked : Bool)
    (id : ℕ)
    (message : String)
    (now : Int) : Prog Res (Option (Except Error Unit)) :=
  .call (.select id) (fun found =>
    check "Fail select failed: " found
      (failFound checked id message now))

theorem fail_eq
    (checked : Bool)
    (id : ℕ)
    (message : String) :
    fail checked id message = ensureSchema
        (.call .utcNow (failAt checked id message)) := rfl

def Row.Settled (row : Row) (limit : ℕ) (now : Int) : Prop :=
  row.status = .pending ∧ row.retryCount < limit ∧
      (∃ time ∈ row.scheduledAt, now < time) ∨
    row.status = .deadLetter ∧ row.retryCount = limit

/- The task is in the table in one of the two right ways. -/
def Settled
    (id limit : ℕ)
    (now : Int)
    (out : Option (Except Error Unit) × ℕ × World) : Prop :=
  out.1 = some (.ok ()) ∧
    ∃ row, out.2.2.rows id = some row ∧ row.Settled limit now

theorem modify_self
    {id : ℕ}
    (hRow : w.rows id = some row)
    (change : Row → Row) :
    (w.modify id change).rows id = some (change row) := by
  change (w.rows id).map _ = _
  rw [hRow, Option.map_some]
  exact congrArg some (if_pos (decide_eq_true rfl))

/- A statement on the row of the task ends the program. -/
theorem settled_statement_iff
    {id : ℕ}
    (hRow : w.rows id = some row)
    (change : Row → Row)
    (message : String)
    (limit : ℕ)
    (now : Int) :
    Settled id limit now
        ((check message (statement a w (fun w =>
            (.ok (), w.modify id change))).1
          (fun _ => done ())).alone exec env n
            (statement a w (fun w =>
              (.ok (), w.modify id change))).2) ↔
      a.fault = none ∧ (change row).Settled limit now := by
  by_cases hCalm : a.fault = none
  · have hAfter :
        ((w.tick a).modify id change).rows id =
          some (change row) :=
      modify_self hRow change
    rw [statement_calm hCalm, and_iff_right hCalm]
    constructor
    · rintro ⟨_, found, hFound, hSettled⟩
      cases hAfter.symm.trans hFound
      exact hSettled
    · intro hSettled
      exact ⟨rfl, _, hAfter, hSettled⟩
  · rcases statement_failed hCalm w
      (fun w => (.ok (), w.modify id change)) with
      ⟨e, hFailed⟩
    rw [hFailed]
    refine iff_of_false ?_ (fun h => hCalm h.1)
    rintro ⟨hResult, _⟩
    cases hResult

theorem asU32_of_count
    (hCount : (k : Int) ≤ maxCount) :
    asU32 k = k := by
  unfold asU32
  unfold maxCount at hCount
  omega

theorem settled_deadLettered_iff
    (row : Row)
    (now : Int)
    (message : String)
    (limit : ℕ) :
    (row.deadLettered now message).Settled limit now ↔
      row.retryCount = limit := by
  unfold Row.Settled Row.deadLettered
  simp

theorem settled_requeued_iff
    (row : Row)
    (now retryAt : Int)
    (message : String)
    (limit : ℕ) :
    (row.requeued retryAt message).Settled limit now ↔
      row.retryCount < limit ∧ now < retryAt := by
  unfold Row.Settled Row.requeued
  simp

theorem settled_failRow_iff
    {id : ℕ}
    {limit : UInt32}
    (hNow : InCalendar now)
    (hRow : w.rows id = some row)
    (hLimit : row.maxRetries = limit.toInt32.toInt)
    (hCount : row.retryCount = k)
    (hBound : (k : Int) ≤ maxCount)
    (checked : Bool)
    (message : String) :
    Settled id limit.toNat now
        ((failRow checked id message now row).alone exec env
          n w) ↔
      (env n).fault = none ∧ limit.toNat < 2 ^ 31 ∧
        k ≤ limit.toNat ∧
        (k < limit.toNat →
          InCalendar (now + 2 ^ k * nanos)) := by
  unfold failRow
  by_cases hLast : row.retryCount ≥ row.maxRetries
  · rw [if_pos hLast]
    refine (settled_statement_iff hRow _ _ _ _).trans
      (and_congr_right (fun _ => ?_))
    rw [settled_deadLettered_iff]
    rw [hLimit, hCount, toInt32_toInt] at hLast
    rw [hCount]
    unfold maxCount at hBound
    have hWidth : limit.toNat < 2 ^ 32 := limit.toNat_lt
    split_ifs at hLast with hSmall <;> omega
  · rw [if_neg hLast, hCount, asU32_of_count hBound]
    have hLater := powTwo_later_iff hNow checked k
    rw [hLimit, hCount, toInt32_toInt] at hLast
    have hLess : k < limit.toNat ∧ limit.toNat < 2 ^ 31 := by
      have hWidth : limit.toNat < 2 ^ 32 := limit.toNat_lt
      split_ifs at hLast with hSmall <;> omega
    have hRight :
        (limit.toNat < 2 ^ 31 ∧ k ≤ limit.toNat ∧
          (k < limit.toNat →
            InCalendar (now + 2 ^ k * nanos))) ↔
          InCalendar (now + 2 ^ k * nanos) := by
      rw [and_iff_right hLess.2,
        and_iff_right (Nat.le_of_lt hLess.1),
        forall_prop_of_true hLess.1]
    rw [hRight, ← hLater]
    cases hTime :
        (powTwo checked k).bind (addSeconds now) with
    | none =>
      refine iff_of_false ?_ ?_
      · rintro ⟨hResult, _⟩
        cases hResult
      · rintro ⟨_, time, hMem, _⟩
        cases hMem
    | some retryAt =>
      refine (settled_statement_iff hRow _ _ _ _).trans
        (and_congr_right (fun _ => ?_))
      rw [settled_requeued_iff, hCount]
      constructor
      · intro hBoth
        exact ⟨retryAt, rfl, hBoth.2⟩
      · rintro ⟨time, hMem, hBefore⟩
        cases hMem
        exact ⟨by exact_mod_cast hLess.1, hBefore⟩

theorem settled_failAt_iff
    {id : ℕ}
    {limit : UInt32}
    (hNow : InCalendar now)
    (hRow : w.rows id = some row)
    (hLimit : row.maxRetries = limit.toInt32.toInt)
    (hCount : row.retryCount = k)
    (hBound : (k : Int) ≤ maxCount)
    (checked : Bool)
    (message : String) :
    Settled id limit.toNat now
        ((failAt checked id message now).alone exec env
          n w) ↔
      Calm env [n, n + 1] ∧ limit.toNat < 2 ^ 31 ∧
        k ≤ limit.toNat ∧
        (k < limit.toNat →
          InCalendar (now + 2 ^ k * nanos)) := by
  have hSame : (w.tick (env n)).rows id = some row := hRow
  have hCalm :
      Calm env [n + 1] ↔ (env (n + 1)).fault = none :=
    List.forall_mem_singleton
  rw [calm_cons, hCalm, and_assoc]
  by_cases hSelect : (env n).fault = none
  · rw [and_iff_right hSelect]
    simp only [failAt, Prog.alone_call, exec, check,
      statement_calm hSelect, hSame, failFound]
    exact settled_failRow_iff hNow hSame hLimit hCount hBound
      checked message
  · rcases statement_failed hSelect w
      (fun w => (.ok (w.rows id), w)) with ⟨e, hFailed⟩
    refine iff_of_false ?_ (fun h => hSelect h.1)
    rintro ⟨hResult, _⟩
    simp only [failAt, Prog.alone_call, exec, check, hFailed,
      Prog.alone_ret] at hResult
    cases hResult

/- When a failed task is settled as its limit says. -/
theorem retried_right_iff
    {id : ℕ}
    (limit : UInt32)
    (hNow : InCalendar (readAt env n w))
    (hRow : w.rows id = some row)
    (hLimit : row.maxRetries = limit.toInt32.toInt)
    (hCount : row.retryCount = k)
    (hBound : (k : Int) ≤ maxCount)
    (checked : Bool)
    (message : String) :
    RetriedRight checked id limit.toNat message env n w ↔
      Calm env [n, n + 1, n + 3, n + 4] ∧
        limit.toNat < 2 ^ 31 ∧ k ≤ limit.toNat ∧
        (k < limit.toNat →
          InCalendar (readAt env n w + 2 ^ k * nanos)) := by
  change Settled id limit.toNat (readAt env n w)
    ((fail checked id message).alone exec env n w) ↔ _
  rw [calm_schema_iff, fail_eq]
  by_cases hSchema : Calm env [n, n + 1]
  · rw [ensureSchema_calm hSchema, and_iff_right hSchema]
    exact settled_failAt_iff
      (w := ((w.tick (env n)).tick (env (n + 1))).tick
        (env (n + 2)))
      hNow hRow hLimit hCount hBound checked message
  · refine iff_of_false ?_ (fun h => hSchema h.1.1)
    rintro ⟨hResult, _⟩
    exact hSchema (calm_of_ensureSchema hResult)

/-
  What is computed for retries is right, whatever a request
  holds and however often a task was claimed: exactly where
  the limit has 31 bits, the times are in the calendar and
  the task was not claimed more often than its limit says.
-/
theorem retries_right_iff
    (req : EnqueueRequest)
    (env : ℕ → Answer)
    (n : ℕ)
    (w : World)
    (hNow : InCalendar (readAt env n w)) :
    (StoredRight req env n w ↔ Calm env [n, n + 1, n + 3] ∧
          req.maxRetries.toNat < 2 ^ 31 ∧
          (req.delaySecs > 0 → InCalendar (readAt env n w +
                req.delaySecs.toNat * nanos))) ∧
      ∀ (checked : Bool) (id k : ℕ) (message : String)
          (row : Row),
        w.rows id = some row →
        row.maxRetries = req.maxRetries.toInt32.toInt →
        row.retryCount = k → (k : Int) ≤ maxCount →
          (RetriedRight checked id req.maxRetries.toNat
              message env n w ↔
            Calm env [n, n + 1, n + 3, n + 4] ∧
              req.maxRetries.toNat < 2 ^ 31 ∧
              k ≤ req.maxRetries.toNat ∧
              (k < req.maxRetries.toNat → InCalendar
                  (readAt env n w + 2 ^ k * nanos))) := by
  refine ⟨stored_right_iff req hNow, ?_⟩
  intro checked id k message row hRow hLimit hCount hBound
  exact retried_right_iff req.maxRetries hNow hRow hLimit
    hCount hBound checked message

/- A world with one task, claimed once by a worker. -/
def claimedOnce (req : EnqueueRequest) : World :=
  { World.empty with
    rows := fun id =>
      if id = 0 then
        some ((enqueuedRow req none 0).claimed 0)
      else none
    issued := 1
    started := [0] }

theorem retries_right_three :
    StoredRight {} (fun _ => {}) 0 (claimedOnce {}) ∧
      RetriedRight false 0 3 "timeout" (fun _ => {}) 0
        (claimedOnce {}) := by
  have hRight :=
    retries_right_iff {} (fun _ => {}) 0 (claimedOnce {})
      ⟨by decide, by decide⟩
  refine ⟨hRight.1.mpr ⟨fun _ _ => rfl, by decide, ?_⟩, ?_⟩
  · intro hDelay
    cases hDelay
  · refine (hRight.2 false 0 1 "timeout" _ rfl rfl rfl
      (by decide)).mpr
      ⟨fun _ _ => rfl, by decide, by decide, ?_⟩
    intro _
    exact ⟨by decide, by decide⟩

/-
  A limit of 2³¹ is stored as a negative number, so that the
  task is given up after one claim, and a delay of 2⁶⁴ − 1
  seconds is one of minus one second.
-/
theorem retries_not_right :
    ¬ StoredRight { maxRetries := 2147483648 } (fun _ => {}) 0
        World.empty ∧
      ¬ RetriedRight false 0 2147483648 "timeout"
        (fun _ => {}) 0
        (claimedOnce { maxRetries := 2147483648 }) ∧
      ¬ StoredRight { delaySecs := 18446744073709551615 }
        (fun _ => {}) 0 World.empty := by
  have hNow (w : World) (hStart : w.now = 0) :
      InCalendar (readAt (fun _ => {}) 0 w) := by
    change InCalendar (max (max (max w.now 0) 0) 0)
    rw [hStart]
    exact ⟨by decide, by decide⟩
  refine ⟨?_, ?_, ?_⟩
  · intro hRight
    have hLimit :=
      ((stored_right_iff _ (hNow _ rfl)).mp hRight).2.1
    exact absurd hLimit (by decide)
  · intro hRight
    have hLimit :=
      ((retried_right_iff (k := 1) 2147483648 (hNow _ rfl)
        rfl rfl rfl (by decide) false "timeout").mp
          hRight).2.1
    exact absurd hLimit (by decide)
  · intro hRight
    have hTime :=
      ((stored_right_iff _ (hNow _ rfl)).mp hRight).2.2
        (by decide)
    exact absurd hTime.2 (by decide)

end Orignabase.Tasks
