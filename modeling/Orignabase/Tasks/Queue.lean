import Orignabase.Core.Json
import Orignabase.Core.Validate
import Orignabase.Lib.Runs

/-
  The queue of background tasks and its workers
  (`ob-database/src/task_queue.rs`).

  Every SQL statement is one step.  Times are instants in
  nanoseconds.  The id of a task is never given out twice,
  and its text is read back as the id.  A computation of a
  time that is out of range ends the program.

  Key definitions include:
    * `Row`, `Task`
    * `exec`
    * `Changes`
    * `enqueue`, `claimNext`, `complete`, `fail`
    * `runWorker`
    * `Call.body`

  Main results:
    * `changes_exec`
-/

--------
-- Tasks
--------

namespace Orignabase.Tasks

open Conc

inductive TaskStatus
  | pending
  | running
  | completed
  | failed
  | deadLetter
  deriving DecidableEq, Repr

/- A row of the table of tasks. -/
structure Row where
  jobName : String
  queue : String
  status : TaskStatus
  payload : Value
  scheduledAt : Option Int
  lockedAt : Option Int
  completedAt : Option Int
  createdAt : Int
  retryCount : Int
  maxRetries : Int
  errorMessage : Option String
  deriving Repr

/- What the handler of a task is given. -/
structure Task where
  taskType : String
  payload : Value
  status : TaskStatus
  queue : String
  attempts : Nat
  maxRetries : Nat
  scheduledAt : Option Int
  createdAt : Int
  startedAt : Option Int
  finishedAt : Option Int
  lastError : Option String
  priority : Int
  deriving Repr

/- A signed number of 32 bits read as an unsigned one. -/
def asU32 (n : Int) : Nat :=
  (n % 2 ^ 32).toNat

def rowToTask (row : Row) : Task where
  taskType := row.jobName
  payload := row.payload
  status := row.status
  queue := row.queue
  attempts := asU32 row.retryCount
  maxRetries := asU32 row.maxRetries
  scheduledAt := row.scheduledAt
  createdAt := row.createdAt
  startedAt := row.lockedAt
  finishedAt := row.completedAt
  lastError := row.errorMessage
  priority := 0

structure EnqueueRequest where
  taskType : String := ""
  payload : Value := .null
  queue : String := "default"
  maxRetries : UInt32 := 3
  delaySecs : UInt64 := 0
  priority : Int := 0

--------
-- Times
--------

/- The seconds a duration can hold. -/
def maxSeconds : Int :=
  (2 ^ 63 - 1) / 1000

/- The first and the last second of the calendar. -/
def minUtc : Int :=
  -8334601228800

def maxUtc : Int :=
  8210266876799

def nanos : Int :=
  1000000000

/- A time some seconds later, if there is one. -/
def addSeconds (time seconds : Int) : Option Int :=
  let result := time + seconds * nanos
  if seconds.natAbs ≤ maxSeconds ∧ minUtc * nanos ≤ result ∧
      result < (maxUtc + 1) * nanos then
    some result
  else none

/-
  A power of two in 64 bits.  Past them a checked build stops
  and others wrap around.
-/
def powTwo (checked : Bool) (n : Nat) : Option Int :=
  if n < 63 then some (2 ^ n)
  else if checked then none
  else if n = 63 then some (-2 ^ 63)
  else some 0

--------
-- Statements
--------

/-
  The rows by id; ids below `issued` have been given out.
  `started` are the tasks that were handed to a handler,
  latest first, which the database does not keep.
-/
structure World where
  rows : Nat → Option Row
  issued : Nat
  now : Int
  started : List Nat

def World.empty : World :=
  ⟨fun _ => none, 0, 0, []⟩

inductive Op
  | utcNow
  | createTable
  | addColumn
  | insert (row : Int → Row)
  | selectNext (queue : String) (now : Int)
  | claim (id : Nat) (now : Int)
  | complete (id : Nat) (now : Int)
  | select (id : Nat)
  | deadLetter (id : Nat) (now : Int) (message : String)
  | requeue (id : Nat) (retryAt : Int) (message : String)
  | reclaim (queue : Option String) (cutoff : Int)
  | purge (cutoff : Int)
  | reset (id : Nat)
  | staleCheckDue
  | handle (id : Nat) (task : Task)

abbrev Res : Op → Type
  | .utcNow => Int
  | .insert _ => Except String Row
  | .selectNext .. => Except String (Option Nat)
  | .claim .. => Except String (Option Row)
  | .select _ => Except String (Option Row)
  | .reclaim .. => Except String Nat
  | .purge _ => Except String Nat
  | .staleCheckDue => Bool
  | .handle .. => Except Error Unit
  | _ => Except String Unit

/-
  The error of a statement that fails, the time, which of
  several oldest tasks is found, whether a minute has passed
  since a worker last looked for stale tasks, and what a
  handler returns.
-/
structure Answer where
  fault : Option String := none
  now : Int := 0
  pick : Nat := 0
  due : Bool := false
  verdict : Except Error Unit := .ok ()

def World.tick (w : World) (a : Answer) : World :=
  { w with now := max w.now a.now }

/- Change the rows that meet a condition. -/
def World.update
    (w : World)
    (matching : Nat → Row → Bool)
    (change : Row → Row) : World :=
  { w with
    rows := fun id =>
      (w.rows id).map (fun row =>
        if matching id row then change row else row) }

/- Change the row of an id. -/
def World.modify
    (w : World)
    (id : Nat)
    (change : Row → Row) : World :=
  w.update (fun i _ => i = id) change

/- How many rows meet a condition. -/
def World.count
    (w : World)
    (matching : Nat → Row → Bool) : Nat :=
  ((List.range w.issued).filter (fun id =>
    (w.rows id).any (matching id))).length

/- The task may be run now. -/
def Row.eligible (row : Row) (queue : String) (now : Int) :
    Bool :=
  row.queue = queue ∧ row.status = .pending ∧
    row.scheduledAt.all (fun time => time ≤ now)

/- The oldest of the tasks that may be run. -/
def World.oldest (w : World) (queue : String) (now : Int) :
    List Nat :=
  let found := (List.range w.issued).filterMap (fun id =>
      (w.rows id).bind (fun row =>
        if row.eligible queue now then some (id, row)
        else none))
  (found.filter (fun entry =>
    found.all (fun other =>
      entry.2.createdAt ≤ other.2.createdAt))).map Prod.fst

/- A running task that was locked before a time. -/
def Row.stale
    (row : Row)
    (queue : Option String)
    (cutoff : Int) : Bool :=
  queue.all (fun name => row.queue = name) ∧
    row.status = .running ∧
    row.lockedAt.any (fun time => time < cutoff)

def Row.purgeable (row : Row) (cutoff : Int) : Bool :=
  row.status = .completed ∧
    row.completedAt.any (fun time => time < cutoff)

/- The counter of attempts has 32 bits. -/
def maxCount : Int :=
  2 ^ 31 - 1

def Row.claimed (row : Row) (now : Int) : Row :=
  { row with
    status := .running
    lockedAt := some now
    retryCount := row.retryCount + 1 }

def Row.completed (row : Row) (now : Int) : Row :=
  { row with
    status := .completed
    completedAt := some now }

def Row.deadLettered
    (row : Row)
    (now : Int)
    (message : String) : Row :=
  { row with
    status := .deadLetter
    completedAt := some now
    errorMessage := some message }

def Row.requeued
    (row : Row)
    (retryAt : Int)
    (message : String) : Row :=
  { row with
    status := .pending
    scheduledAt := some retryAt
    errorMessage := some message
    lockedAt := none }

def Row.reclaimed (row : Row) : Row :=
  { row with
    status := .pending
    lockedAt := none }

def Row.reset (row : Row) : Row :=
  { row with
    status := .pending
    retryCount := 0
    lockedAt := none
    completedAt := none
    errorMessage := none
    scheduledAt := none }

/- A statement takes effect at once or fails without one. -/
def statement {α : Type}
    (a : Answer)
    (w : World)
    (body : World → Except String α × World) :
    Except String α × World :=
  match a.fault with
  | some e => (.error e, w.tick a)
  | none => body (w.tick a)

def insertRow (row : Int → Row) (w : World) :
    Except String Row × World :=
  (.ok (row w.now),
    { w with
      rows := fun id =>
        if id = w.issued then some (row w.now) else w.rows id
      issued := w.issued + 1 })

def claimRow (id : Nat) (now : Int) (w : World) :
    Except String (Option Row) × World :=
  match w.rows id with
  | none => (.ok none, w)
  | some row =>
    if row.status ≠ .pending then (.ok none, w)
    else if row.retryCount ≥ maxCount then
      (.error "integer out of range", w)
    else
      (.ok (some (row.claimed now)),
        { w.modify id (fun row => row.claimed now) with
          started := id :: w.started })

def reclaimRows
    (queue : Option String)
    (cutoff : Int)
    (w : World) : Except String Nat × World :=
  (.ok (w.count (fun _ row => row.stale queue cutoff)),
    w.update (fun _ row => row.stale queue cutoff)
      Row.reclaimed)

def purgeRows (cutoff : Int) (w : World) :
    Except String Nat × World :=
  (.ok (w.count (fun _ row => row.purgeable cutoff)),
    { w with
      rows := fun id =>
        (w.rows id).filter
          (fun row => ! row.purgeable cutoff) })

def exec : Exec Res Answer World
  | .utcNow, a, w => ((w.tick a).now, w.tick a)
  | .createTable, a, w =>
    statement a w (fun w => (.ok (), w))
  | .addColumn, a, w =>
    statement a w (fun w => (.ok (), w))
  | .insert row, a, w => statement a w (insertRow row)
  | .selectNext queue now, a, w =>
    statement a w (fun w =>
      let found := w.oldest queue now
      (.ok found[a.pick % found.length]?, w))
  | .claim id now, a, w => statement a w (claimRow id now)
  | .complete id now, a, w =>
    statement a w (fun w =>
      (.ok (), w.modify id (fun row => row.completed now)))
  | .select id, a, w =>
    statement a w (fun w => (.ok (w.rows id), w))
  | .deadLetter id now message, a, w =>
    statement a w (fun w =>
      (.ok (), w.modify id (fun row =>
        row.deadLettered now message)))
  | .requeue id retryAt message, a, w =>
    statement a w (fun w =>
      (.ok (), w.modify id (fun row =>
        row.requeued retryAt message)))
  | .reclaim queue cutoff, a, w =>
    statement a w (reclaimRows queue cutoff)
  | .purge cutoff, a, w => statement a w (purgeRows cutoff)
  | .reset id, a, w =>
    statement a w (fun w =>
      (.ok (), w.modify id Row.reset))
  | .staleCheckDue, a, w => (a.due, w.tick a)
  | .handle .., a, w => (a.verdict, w.tick a)

--------
-- Changes
--------

/- What a statement may do to the world. -/
inductive Changes : Op → Answer → World → World → Prop
  | none {o : Op} {a : Answer} {w : World} :
      Changes o a w w
  | inserted {row : Int → Row} {a : Answer} {w : World} :
      Changes (.insert row) a w (insertRow row w).2
  | claimed
      {id : Nat} {now : Int} {row : Row} {a : Answer}
      {w : World}
      (hRow : w.rows id = some row)
      (hStatus : row.status = .pending)
      (hCount : row.retryCount < maxCount) :
      Changes (.claim id now) a w
        { w.modify id (fun row => row.claimed now) with
          started := id :: w.started }
  | completed
      {id : Nat} {now : Int} {a : Answer} {w : World} :
      Changes (.complete id now) a w
        (w.modify id (fun row => row.completed now))
  | deadLettered
      {id : Nat} {now : Int} {message : String} {a : Answer}
      {w : World} :
      Changes (.deadLetter id now message) a w
        (w.modify id (fun row =>
          row.deadLettered now message))
  | requeued
      {id : Nat} {retryAt : Int} {message : String}
      {a : Answer} {w : World}
      (hFine : a.fault = .none) :
      Changes (.requeue id retryAt message) a w
        (w.modify id (fun row =>
          row.requeued retryAt message))
  | reclaimed
      {queue : Option String} {cutoff : Int} {a : Answer}
      {w : World} :
      Changes (.reclaim queue cutoff) a w
        (reclaimRows queue cutoff w).2
  | purged {cutoff : Int} {a : Answer} {w : World} :
      Changes (.purge cutoff) a w (purgeRows cutoff w).2
  | reset {id : Nat} {a : Answer} {w : World} :
      Changes (.reset id) a w (w.modify id Row.reset)

theorem Changes.of_statement
    {α : Type}
    {o : Op}
    {a : Answer}
    {w : World}
    {body : World → Except String α × World}
    (hBody :
      a.fault = .none →
        Changes o a (w.tick a) (body (w.tick a)).2) :
    Changes o a (w.tick a) (statement a w body).2 := by
  unfold statement
  split
  · exact .none
  · rename_i hFine
    exact hBody hFine

theorem changes_claimRow
    (id : Nat)
    (now : Int)
    (a : Answer)
    (w : World) :
    Changes (.claim id now) a w (claimRow id now w).2 := by
  unfold claimRow
  split
  · exact .none
  · rename_i row hRow
    split_ifs with hStatus hCount
    · exact .none
    · exact .none
    · exact .claimed hRow (not_not.mp hStatus)
        (Int.not_le.mp hCount)

theorem changes_exec (o : Op) (a : Answer) (w : World) :
    Changes o a (w.tick a) (exec o a w).2 := by
  cases o with
  | utcNow => exact .none
  | createTable => exact .of_statement (fun _ => .none)
  | addColumn => exact .of_statement (fun _ => .none)
  | insert row => exact .of_statement (fun _ => .inserted)
  | selectNext queue now =>
    exact .of_statement (fun _ => .none)
  | claim id now =>
    exact .of_statement (fun _ => changes_claimRow _ _ _ _)
  | complete id now =>
    exact .of_statement (fun _ => .completed)
  | select id => exact .of_statement (fun _ => .none)
  | deadLetter id now message =>
    exact .of_statement (fun _ => .deadLettered)
  | requeue id retryAt message =>
    exact .of_statement .requeued
  | reclaim queue cutoff =>
    exact .of_statement (fun _ => .reclaimed)
  | purge cutoff => exact .of_statement (fun _ => .purged)
  | reset id => exact .of_statement (fun _ => .reset)
  | staleCheckDue => exact .none
  | handle id task => exact .none

--------
-- Operations of the Queue
--------

/-
  Use the result of a statement that did not fail.  `none`
  is a program that was stopped.
-/
def check {α β : Type}
    (message : String)
    (result : Except String α)
    (next : α → Prog Res (Option (Except Error β))) :
    Prog Res (Option (Except Error β)) :=
  match result with
  | .error e =>
    .ret (some (.error (.database (message ++ e))))
  | .ok a => next a

/- Use a time, if it can be computed. -/
def within {β : Type}
    (time : Option Int)
    (next : Int → Prog Res (Option (Except Error β))) :
    Prog Res (Option (Except Error β)) :=
  match time with
  | none => .ret none
  | some t => next t

def done {β : Type} (b : β) :
    Prog Res (Option (Except Error β)) :=
  .ret (some (.ok b))

def ensureSchema {β : Type}
    (next : Prog Res (Option (Except Error β))) :
    Prog Res (Option (Except Error β)) :=
  .call .createTable (fun created =>
    check "Failed to create _task_queue table: " created
      (fun _ =>
        .call .addColumn (fun added =>
          check "Schema migration failed: " added
            (fun _ => next))))

def enqueue (req : EnqueueRequest) :
    Prog Res (Option (Except Error Task)) :=
  ensureSchema (.call .utcNow (fun now =>
      let insertAt := fun (scheduledAt : Option Int) =>
        Prog.call (.insert (fun createdAt =>
          { jobName := req.taskType
            queue := req.queue
            status := .pending
            payload := req.payload
            scheduledAt := scheduledAt
            lockedAt := none
            completedAt := none
            createdAt := createdAt
            retryCount := 0
            maxRetries := req.maxRetries.toInt32.toInt
            errorMessage := none }))
          (fun (row : Except String Row) =>
            check "Enqueue failed: " row
              (fun row => done (rowToTask row)))
      if req.delaySecs > 0 then
        within (addSeconds now req.delaySecs.toInt64.toInt)
          (fun time => insertAt (some time))
      else insertAt none))

/- Find the next task, then take it if it is still there. -/
def claimNext (queue : String) :
    Prog Res (Option (Except Error (Option (Nat × Task)))) :=
  ensureSchema (.call .utcNow (fun now =>
      .call (.selectNext queue now) (fun found =>
        check "Claim select failed: " found (fun candidate =>
          match candidate with
          | none => done none
          | some id =>
            .call (.claim id now) (fun updated =>
              check "Claim update failed: " updated
                (fun row =>
                  done (row.map (fun row =>
                    (id, rowToTask row)))))))))

def complete (id : Nat) :
    Prog Res (Option (Except Error Unit)) :=
  .call .utcNow (fun now =>
    .call (.complete id now) (fun result =>
      check "Complete failed: " result (fun _ => done ())))

/- A task with attempts left is put back into the queue. -/
def fail (checked : Bool) (id : Nat) (message : String) :
    Prog Res (Option (Except Error Unit)) :=
  ensureSchema (.call .utcNow (fun now =>
      .call (.select id) (fun found =>
        check "Fail select failed: " found (fun row =>
          match row with
          | none => done ()
          | some row =>
            if row.retryCount ≥ row.maxRetries then
              .call (.deadLetter id now message)
                (fun result =>
                  check "Dead-letter failed: " result
                    (fun _ => done ()))
            else
              within ((powTwo checked
                  (asU32 row.retryCount)).bind
                    (addSeconds now))
                (fun retryAt =>
                  .call (.requeue id retryAt message)
                    (fun result =>
                      check "Retry update failed: " result
                        (fun _ => done ())))))))

/- Put tasks back that nobody has finished in time. -/
def reclaim (queue : Option String) (timeoutSecs : UInt64) :
    Prog Res (Option (Except Error Nat)) :=
  ensureSchema (.call .utcNow (fun now =>
      within (addSeconds now (-timeoutSecs.toInt64.toInt))
        (fun cutoff =>
          .call (.reclaim queue cutoff) (fun result =>
            check "Reclaim failed: " result done))))

def reclaimStale (timeoutSecs : UInt64) :
    Prog Res (Option (Except Error Nat)) :=
  reclaim none timeoutSecs

def reclaimStaleForQueue
    (queue : String)
    (timeoutSecs : UInt64) :
    Prog Res (Option (Except Error Nat)) :=
  reclaim (some queue) timeoutSecs

def purgeCompleted (olderThanSecs : UInt64) :
    Prog Res (Option (Except Error Nat)) :=
  ensureSchema (.call .utcNow (fun now =>
      within (addSeconds now (-olderThanSecs.toInt64.toInt))
        (fun cutoff =>
          .call (.purge cutoff) (fun result =>
            check "Purge failed: " result done))))

def retryDeadLetter (id : Nat) :
    Prog Res (Option (Except Error Unit)) :=
  ensureSchema (.call (.reset id) (fun result =>
      check "Retry dead-letter failed: " result
        (fun _ => done ())))

--------
-- Workers
--------

/- Go on whatever was returned, unless the worker stopped. -/
def andThen {β : Type}
    (p : Prog Res (Option β))
    (next : β → Prog Res Unit) : Prog Res Unit :=
  p.bind (fun result =>
    match result with
    | none => .ret ()
    | some b => next b)

/- The loop of a worker, for a number of rounds. -/
def runWorker (checked : Bool) (queue : String) :
    Nat → Prog Res Unit
  | 0 => .ret ()
  | rounds + 1 =>
    let poll := andThen (claimNext queue) (fun claimed =>
        match claimed with
        | .ok (some (id, task)) =>
          .call (.handle id task) (fun result =>
            match result with
            | .ok _ =>
              andThen (complete id) (fun _ =>
                runWorker checked queue rounds)
            | .error e =>
              andThen (fail checked id e.display) (fun _ =>
                  runWorker checked queue rounds))
        | _ => runWorker checked queue rounds)
    .call .staleCheckDue (fun due =>
      if due then
        andThen (reclaimStale 300) (fun _ => poll)
      else poll)

/- What is done with the queue. -/
inductive Call
  | worker (queue : String) (rounds : Nat)
  | enqueue (req : EnqueueRequest)
  | enqueueBatch (reqs : List EnqueueRequest)
  | reclaimStale (timeoutSecs : UInt64)
  | reclaimStaleForQueue (queue : String)
      (timeoutSecs : UInt64)
  | purgeCompleted (olderThanSecs : UInt64)
  | retryDeadLetter (id : Nat)

/- The first error ends a batch. -/
def enqueueBatch : List EnqueueRequest → Prog Res Unit
  | [] => .ret ()
  | req :: reqs =>
    andThen (enqueue req) (fun result =>
      match result with
      | .error _ => .ret ()
      | .ok _ => enqueueBatch reqs)

def Call.body (checked : Bool) : Call → Prog Res Unit
  | .worker queue rounds => runWorker checked queue rounds
  | .enqueue req => andThen (Tasks.enqueue req) fun _ => .ret ()
  | .enqueueBatch reqs => Tasks.enqueueBatch reqs
  | .reclaimStale secs =>
    andThen (Tasks.reclaimStale secs) fun _ => .ret ()
  | .reclaimStaleForQueue queue secs =>
    andThen (Tasks.reclaimStaleForQueue queue secs)
      fun _ => .ret ()
  | .purgeCompleted secs =>
    andThen (Tasks.purgeCompleted secs) fun _ => .ret ()
  | .retryDeadLetter id =>
    andThen (Tasks.retryDeadLetter id) fun _ => .ret ()

end Orignabase.Tasks
