import Orignabase.Core.Validate
import Orignabase.Lib.Prog
import Orignabase.Lib.Table

/-
  The lock of the scheduled jobs
  (`ob-handlers/src/cron/mod.rs`).

  Nodes read and write one document for each job.  What a job
  does under its lock is left open.  Times are instants in
  nanoseconds; the text of an instant is read back as the
  same instant.

  Key definitions include:
    * `acquireCronLock`
    * `releaseCronLock`
    * `alertCronFailure`
    * `runJob`
-/

--------
-- Documents
--------

namespace Orignabase.Cron

open Conc

/-
  The document of a lock.  `owner` is the node that wrote it,
  which the document itself does not tell.
-/
structure Lock where
  lockedAt : Option Int := none
  status : Option String := none
  owner : ℕ
  deriving DecidableEq, Repr

/-
  The documents and the clock; `freed` are the releases of
  running locks, each with the node that released and the
  owner.
-/
structure World (R : Type) where
  locks : Table Lock := ⟨[]⟩
  now : Int := 0
  freed : List (ℕ × ℕ) := []
  rest : R

inductive Op (B : Type)
  | utcNow
  | getLock (job : String)
  | upsertLock (node : ℕ) (job : String) (lockedAt : Int)
  | completeLock (node : ℕ) (job : String)
  | createFailure (job message : String)
  | work (b : B)

/- Whether a statement fails, and the time at the step. -/
structure Answer where
  fault : Bool := false
  now : Int := 0
  deriving DecidableEq, Repr

def Op.Res {B : Type} (V : Type) : Op B → Type
  | .utcNow => Int
  | .getLock _ => Except Error Lock
  | .upsertLock .. => Except Error Unit
  | .completeLock .. => Except Error Unit
  | .createFailure .. => Except Error Unit
  | .work _ => V

section

variable {B V R : Type}

/- The clock does not go back. -/
def World.tick (w : World R) (a : Answer) : World R :=
  { w with now := max w.now a.now }

def queryFailed : Error := .database "Query failed"

def Lock.isRunning (lock : Lock) : Bool :=
  lock.status = some "running"

/- Steps of a job, with an effect of their own. -/
abbrev Work (B V R : Type) := B → R → V × R

def exec (work : Work B V R) :
    Exec (Op.Res (B := B) V) Answer (World R)
  | .utcNow, a, w => ((w.tick a).now, w.tick a)
  | .getLock job, a, w =>
    (if a.fault then .error queryFailed
      else
        match w.locks.get job with
        | some lock => .ok lock
        | none => .error (.notFound "not found"),
      w.tick a)
  | .upsertLock node job lockedAt, a, w =>
    if a.fault then (.error queryFailed, w.tick a)
    else
      (.ok (),
        { w.tick a with
          locks := w.locks.upsert job
              { lockedAt := some lockedAt
                status := some "running"
                owner := node } })
  | .completeLock node job, a, w =>
    if a.fault then (.error queryFailed, w.tick a)
    else
      match w.locks.get job with
      | none =>
        (.error (.notFound "not found"), w.tick a)
      | some lock =>
        (.ok (),
          { w.tick a with
            locks := w.locks.modify job (fun lock =>
                { lock with status := some "completed" })
            freed :=
              if lock.isRunning then
                (node, lock.owner) :: w.freed
              else w.freed })
  | .createFailure .., a, w =>
    (if a.fault then .error queryFailed else .ok (),
      w.tick a)
  | .work b, a, w =>
    ((work b w.rest).1,
      { w.tick a with rest := (work b w.rest).2 })

end

--------
-- Jobs
--------

section

variable {B V : Type}

abbrev Job (B V α : Type) := Prog (Op.Res (B := B) V) α

/- The operations as steps of a job. -/
namespace Db

abbrev utcNow : Job B V Int :=
  Prog.perform Op.utcNow

abbrev getLock (job : String) :
    Job B V (Except Error Lock) :=
  Prog.perform (Op.getLock job)

abbrev upsertLock
    (node : ℕ)
    (job : String)
    (lockedAt : Int) : Job B V (Except Error Unit) :=
  Prog.perform (Op.upsertLock node job lockedAt)

abbrev completeLock (node : ℕ) (job : String) :
    Job B V (Except Error Unit) :=
  Prog.perform (Op.completeLock node job)

abbrev createFailure (job message : String) :
    Job B V (Except Error Unit) :=
  Prog.perform (Op.createFailure job message)

end Db

def nanosPerMinute : Int := 60 * 1000000000

/- The lock is running and younger than the cutoff. -/
def Lock.isHeld (lock : Lock) (cutoff : Int) : Bool :=
  lock.lockedAt.any (cutoff < ·) && lock.isRunning

/- A lock that cannot be read counts as free. -/
def acquireCronLock
    (node : ℕ)
    (job : String)
    (ttlMinutes : Int) : Job B V Bool :=
  Db.utcNow.bind fun now =>
  let cutoff := now - ttlMinutes * nanosPerMinute
  (Db.getLock job).bind fun read =>
  if read.toOption.any (·.isHeld cutoff) then .ret false
  else
    (Db.upsertLock node job now).bind fun r =>
    .ret r.isOk

def releaseCronLock (node : ℕ) (job : String) :
    Job B V Unit :=
  Db.utcNow.bind fun _ =>
  (Db.completeLock node job).bind fun _ => .ret ()

/- The byte offsets at which a text can be cut. -/
def isCharBoundary : List Char → ℕ → Bool
  | _, 0 => true
  | [], _ + 1 => false
  | c :: cs, n + 1 =>
    c.utf8Size ≤ n + 1 &&
      isCharBoundary cs (n + 1 - c.utf8Size)

/- The first bytes of a text, up to a character boundary. -/
def sliceTo : List Char → ℕ → List Char
  | [], _ => []
  | c :: cs, n =>
    if c.utf8Size ≤ n then
      c :: sliceTo cs (n - c.utf8Size)
    else []

/- Where the message of a failure is cut. -/
def cutAt (message : String) : ℕ :=
  min message.utf8ByteSize 2000

/- Cutting within a character ends the whole job. -/
def alertCronFailure (job message : String) :
    Job B V Bool :=
  if isCharBoundary message.toList (cutAt message) then
    Db.utcNow.bind fun _ =>
    (Db.createFailure job (String.ofList
        (sliceTo message.toList (cutAt message)))).bind
      fun _ => .ret true
  else .ret false

inductive Outcome
  | skipped
  | panicked
  | released
  deriving DecidableEq, Repr

/- A run of a job on a node. -/
structure JobRun (B V : Type) where
  job : String
  body : Job B V (Except String Unit)

/- A job under its lock. -/
def runJob
    (ttl : String → Int)
    (node : ℕ)
    (x : JobRun B V) : Job B V Outcome :=
  (acquireCronLock node x.job (ttl x.job)).bind
    fun acquired =>
  if acquired then
    x.body.bind fun result =>
    (match result with
      | .ok _ => Prog.ret true
      | .error e => alertCronFailure x.job e).bind
      fun alerted =>
    if alerted then
      (releaseCronLock node x.job).bind fun _ =>
      .ret .released
    else .ret .panicked
  else .ret .skipped

end

end Orignabase.Cron
