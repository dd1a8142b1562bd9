import Orignabase.Tasks.Queue

/-
  Tasks that are finished, and whether they are run again.

  Key definitions include:
    * `Finished`
    * `RequeuesUnfinished`

  Main results:
    * `finished_exec`
    * `finished_never_runs_again`
    * `keepsTasks_of_reach`
-/

--------
-- What Workers Call
--------

namespace Orignabase.Tasks

open Conc

/- The statement that gives a task another chance. -/
def Op.isReset : Op → Bool
  | .reset _ => true
  | _ => false

/- An operation that resets no task. -/
def NoReset (o : Op) : Prop :=
  o.isReset = false

/-
  No task is reset, and a new one is pending and has not been
  tried.
-/
def Lawful : Op → Prop
  | .insert row =>
    ∀ createdAt,
      (row createdAt).status = .pending ∧
        (row createdAt).retryCount = 0
  | .reset _ => False
  | _ => True

theorem noReset_of_lawful
    {o : Op}
    (hLawful : Lawful o) :
    NoReset o := by
  cases o with
  | reset id => exact hLawful.elim
  | _ => rfl

variable {β : Type} {w : World}

theorem uses_check
    {α : Type}
    {message : String}
    {next : α → Prog Res (Option (Except Error β))}
    (hNext : ∀ a, (next a).Uses Lawful)
    (result : Except String α) :
    (check message result next).Uses Lawful := by
  cases result with
  | error e => trivial
  | ok a => exact hNext a

theorem uses_within
    {next : Int → Prog Res (Option (Except Error β))}
    (hNext : ∀ t, (next t).Uses Lawful)
    (time : Option Int) :
    (within time next).Uses Lawful := by
  cases time with
  | none => trivial
  | some t => exact hNext t

theorem uses_ensureSchema
    {next : Prog Res (Option (Except Error β))}
    (hNext : next.Uses Lawful) :
    (ensureSchema next).Uses Lawful := by
  refine ⟨trivial, uses_check ?_⟩
  intro _
  exact ⟨trivial, uses_check (fun _ => hNext)⟩

theorem uses_andThen
    {p : Prog Res (Option β)}
    {next : β → Prog Res Unit}
    (hFirst : p.Uses Lawful)
    (hNext : ∀ b, (next b).Uses Lawful) :
    (andThen p next).Uses Lawful := by
  apply hFirst.bind
  intro result
  cases result with
  | none => trivial
  | some b => exact hNext b

theorem uses_enqueue (req : EnqueueRequest) :
    (enqueue req).Uses Lawful := by
  refine uses_ensureSchema ⟨trivial, fun now => ?_⟩
  dsimp only
  split
  · apply uses_within
    intro time
    exact ⟨fun _ => ⟨rfl, rfl⟩, uses_check (fun _ => trivial)⟩
  · exact ⟨fun _ => ⟨rfl, rfl⟩, uses_check (fun _ => trivial)⟩

theorem uses_claimNext (queue : String) :
    (claimNext queue).Uses Lawful := by
  refine uses_ensureSchema ⟨trivial, fun now =>
    ⟨trivial, uses_check ?_⟩⟩
  intro candidate
  cases candidate with
  | none => trivial
  | some id => exact ⟨trivial, uses_check (fun _ => trivial)⟩

theorem uses_complete (id : Nat) :
    (complete id).Uses Lawful :=
  ⟨trivial, fun _ => ⟨trivial, uses_check (fun _ => trivial)⟩⟩

theorem uses_fail
    (checked : Bool)
    (id : Nat)
    (message : String) :
    (fail checked id message).Uses Lawful := by
  refine uses_ensureSchema ⟨trivial, fun now =>
    ⟨trivial, uses_check ?_⟩⟩
  intro found
  cases found with
  | none => trivial
  | some row =>
    dsimp only
    split
    · exact ⟨trivial, uses_check (fun _ => trivial)⟩
    · apply uses_within
      intro retryAt
      exact ⟨trivial, uses_check (fun _ => trivial)⟩

theorem uses_reclaim
    (queue : Option String)
    (timeoutSecs : UInt64) :
    (reclaim queue timeoutSecs).Uses Lawful := by
  refine uses_ensureSchema ⟨trivial, fun now => ?_⟩
  apply uses_within
  intro cutoff
  exact ⟨trivial, uses_check (fun _ => trivial)⟩

theorem uses_purgeCompleted (olderThanSecs : UInt64) :
    (purgeCompleted olderThanSecs).Uses Lawful := by
  refine uses_ensureSchema ⟨trivial, fun now => ?_⟩
  apply uses_within
  intro cutoff
  exact ⟨trivial, uses_check (fun _ => trivial)⟩

/- A round of a worker after it looked for lost tasks. -/
theorem uses_poll
    (checked : Bool)
    (queue : String)
    {next : Prog Res Unit}
    (hNext : next.Uses Lawful) :
    (andThen (claimNext queue) (fun claimed =>
      match claimed with
      | .ok (some (id, task)) =>
        .call (.handle id task) (fun result =>
          match result with
          | .ok _ => andThen (complete id) (fun _ => next)
          | .error e =>
            andThen (fail checked id e.display)
              (fun _ => next))
      | _ => next)).Uses Lawful := by
  apply uses_andThen (uses_claimNext queue)
  intro claimed
  split
  · refine ⟨trivial, fun result => ?_⟩
    cases result with
    | ok _ =>
      exact uses_andThen (uses_complete _) (fun _ => hNext)
    | error e =>
      exact uses_andThen (uses_fail _ _ _) (fun _ => hNext)
  · exact hNext

theorem uses_runWorker
    (checked : Bool)
    (queue : String)
    (rounds : Nat) :
    (runWorker checked queue rounds).Uses Lawful := by
  induction rounds with
  | zero => trivial
  | succ rounds ih =>
    have hPoll := uses_poll checked queue ih
    refine ⟨trivial, fun due => ?_⟩
    dsimp only
    split
    · exact uses_andThen (uses_reclaim _ _) (fun _ => hPoll)
    · exact hPoll

theorem uses_enqueueBatch (reqs : List EnqueueRequest) :
    (enqueueBatch reqs).Uses Lawful := by
  induction reqs with
  | nil => trivial
  | cons req reqs ih =>
    apply uses_andThen (uses_enqueue req)
    intro result
    cases result with
    | error e => trivial
    | ok task => exact ih

/- Nobody asks for another chance of a task. -/
def Call.retries : Call → Bool
  | .retryDeadLetter _ => true
  | _ => false

theorem uses_body
    {call : Call}
    (hNoRetry : call.retries = false)
    (checked : Bool) :
    (call.body checked).Uses Lawful := by
  cases call with
  | worker queue rounds =>
    exact uses_runWorker checked queue rounds
  | enqueue req =>
    exact uses_andThen (uses_enqueue req) (fun _ => trivial)
  | enqueueBatch reqs => exact uses_enqueueBatch reqs
  | reclaimStale secs =>
    exact uses_andThen (uses_reclaim _ _) (fun _ => trivial)
  | reclaimStaleForQueue queue secs =>
    exact uses_andThen (uses_reclaim _ _) (fun _ => trivial)
  | purgeCompleted secs =>
    exact uses_andThen (uses_purgeCompleted _)
      (fun _ => trivial)
  | retryDeadLetter id => cases hNoRetry

--------
-- Finished Tasks
--------

def TaskStatus.finished (status : TaskStatus) : Bool :=
  status = .completed ∨ status = .deadLetter

/- The task has been given out and is not to be run. -/
def Finished (id : Nat) (w : World) : Prop :=
  id < w.issued ∧
    ∀ row, w.rows id = some row → row.status.finished = true

/-
  When a failed attempt puts its task back, nobody else has
  finished the task in the meantime.
-/
def RequeuesUnfinished : StepCond Res Answer World :=
  fun _ o a w =>
    match o with
    | .requeue id _ _ =>
      a.fault = none →
        ∀ row ∈ w.rows id, row.status.finished = false
    | _ => True

instance (tr : List (Event Res Answer)) (o : Op)
    (a : Answer) (w : World) :
    Decidable (RequeuesUnfinished tr o a w) := by
  cases o <;> dsimp only [RequeuesUnfinished] <;>
    infer_instance

/- Ids are given out in order. -/
def Numbered (w : World) : Prop :=
  ∀ id row, w.rows id = some row → id < w.issued

theorem Numbered.update
    (hNumbered : Numbered w)
    (matching : Nat → Row → Bool)
    (change : Row → Row) :
    Numbered (w.update matching change) := by
  intro id row hRow
  rcases Option.map_eq_some_iff.mp hRow with ⟨old, hOld, _⟩
  exact hNumbered id old hOld

theorem numbered_exec
    (hNumbered : Numbered w)
    (o : Op)
    (a : Answer) :
    Numbered (exec o a w).2 := by
  have hTick : Numbered (w.tick a) := hNumbered
  have hChanges := changes_exec o a w
  generalize (exec o a w).2 = w' at hChanges ⊢
  generalize w.tick a = v at hChanges hTick
  cases hChanges with
  | none => exact hTick
  | inserted =>
    intro id found hFound
    simp only [insertRow] at hFound ⊢
    split at hFound
    · omega
    · have hLt := hTick id found hFound
      omega
  | claimed => exact hTick.update _ _
  | completed => exact hTick.update _ _
  | deadLettered => exact hTick.update _ _
  | requeued => exact hTick.update _ _
  | reclaimed => exact hTick.update _ _
  | purged =>
    intro id row hRow
    rcases Option.filter_eq_some_iff.mp hRow with ⟨hOld, _⟩
    exact hTick id row hOld
  | reset => exact hTick.update _ _

/- A change of rows that leaves finished ones finished. -/
theorem Finished.update
    {id : Nat}
    (hFinished : Finished id w)
    {matching : Nat → Row → Bool}
    {change : Row → Row}
    (hChange :
      ∀ row, w.rows id = some row → matching id row = true →
        (change row).status.finished = true) :
    Finished id (w.update matching change) := by
  refine ⟨hFinished.1, ?_⟩
  intro row hRow
  rcases Option.map_eq_some_iff.mp hRow with
    ⟨old, hOld, rfl⟩
  split
  · rename_i hMatch
    exact hChange old hOld hMatch
  · exact hFinished.2 old hOld

/-
  A finished task stays finished and is not handed out, if
  it is not put back.
-/
theorem finished_exec
    {id starts : Nat}
    {tr : List (Event Res Answer)}
    {o : Op}
    {a : Answer}
    (hReset : NoReset o)
    (hCond : RequeuesUnfinished tr o a w)
    (hInv : Finished id w ∧ w.started.count id = starts) :
    Finished id (exec o a w).2 ∧
      (exec o a w).2.started.count id = starts := by
  rcases hInv with ⟨hFinished, hStarts⟩
  have hTick : Finished id (w.tick a) := hFinished
  have hStarts' : (w.tick a).started.count id = starts :=
    hStarts
  have hRows : (w.tick a).rows = w.rows := rfl
  have hChanges := changes_exec o a w
  generalize (exec o a w).2 = w' at hChanges ⊢
  generalize w.tick a = v at hChanges hTick hStarts' hRows
  cases hChanges with
  | none => exact ⟨hTick, hStarts'⟩
  | inserted =>
    refine ⟨⟨Nat.lt_succ_of_lt hTick.1, ?_⟩, hStarts'⟩
    intro found hFound
    simp only [insertRow] at hFound
    rw [if_neg (Nat.ne_of_lt hTick.1)] at hFound
    exact hTick.2 found hFound
  | @claimed other now row _ _ hRow hStatus hCount =>
    -- Only a pending task can be claimed.
    have hOther : other ≠ id := by
      rintro rfl
      have hDone := hTick.2 row hRow
      rw [hStatus] at hDone
      cases hDone
    have hModified :
        Finished id
          (v.modify other (fun row => row.claimed now)) := by
      apply hTick.update
      intro old _ hMatch
      exact absurd (of_decide_eq_true hMatch).symm hOther
    refine ⟨hModified, ?_⟩
    rw [← hStarts']
    exact List.count_cons_of_ne hOther
  | completed =>
    exact ⟨hTick.update (fun _ _ _ => rfl), hStarts'⟩
  | deadLettered =>
    exact ⟨hTick.update (fun _ _ _ => rfl), hStarts'⟩
  | @requeued other retryAt message _ _ hFine =>
    refine ⟨hTick.update ?_, hStarts'⟩
    intro old hOld hMatch
    have hHere : id = other := of_decide_eq_true hMatch
    subst hHere
    rw [hRows] at hOld
    have hNot := hCond hFine old hOld
    have hDone := hFinished.2 old hOld
    rw [hNot] at hDone
    cases hDone
  | reclaimed =>
    refine ⟨hTick.update ?_, hStarts'⟩
    intro old hOld hMatch
    have hDone := hTick.2 old hOld
    have hRunning : old.status = .running :=
      (of_decide_eq_true hMatch).2.1
    rw [hRunning] at hDone
    cases hDone
  | purged =>
    refine ⟨⟨hTick.1, ?_⟩, hStarts'⟩
    intro row hRow
    rcases Option.filter_eq_some_iff.mp hRow with ⟨hOld, _⟩
    exact hTick.2 row hOld
  | reset => cases hReset

--------
-- Runs
--------

variable {checked : Bool} {calls : List Call}
variable {c c' : Config Res Answer World Unit}

/-
  A task that is completed in some state of a run is neither
  pending nor running in any later state, and no handler is
  given the task in between.
-/
theorem finished_never_runs_again
    (hNoRetry : ∀ call ∈ calls, call.retries = false)
    (hReach :
      Reach exec RequeuesUnfinished
        (Config.start World.empty
          (calls.map (Call.body checked))) c)
    (hAfter : Reach exec RequeuesUnfinished c c')
    {id : Nat}
    {row : Row}
    (hRow : c.world.rows id = some row)
    (hCompleted : row.status = .completed) :
    (∀ later, c'.world.rows id = some later →
      later.status ≠ .pending ∧ later.status ≠ .running) ∧
    c'.world.started.count id =
      c.world.started.count id := by
  have hUses :
      (Config.start World.empty
        (calls.map (Call.body checked)) :
          Config Res Answer World Unit).Uses NoReset := by
    apply Config.uses_start
    intro p hMem
    rcases List.mem_map.mp hMem with ⟨call, hCall, rfl⟩
    exact (uses_body (hNoRetry call hCall) checked).mono
      (fun _ => noReset_of_lawful)
  have hNumbered : Numbered c.world := by
    have hKeeps :
        ∀ tr o a w, RequeuesUnfinished tr o a w →
          Numbered w → Numbered (exec o a w).2 :=
      fun _ o a _ _ h => numbered_exec h o a
    have hEmpty : Numbered World.empty :=
      fun _ _ h => nomatch h
    exact Reach.holds hKeeps hEmpty hReach
  have hFinished : Finished id c.world := by
    refine ⟨hNumbered id row hRow, ?_⟩
    intro found hFound
    rw [hRow] at hFound
    cases hFound
    rw [hCompleted]
    rfl
  have hKeeps :
      ∀ tr o a w, NoReset o → RequeuesUnfinished tr o a w →
        (Finished id w ∧ w.started.count id =
            c.world.started.count id) →
        (Finished id (exec o a w).2 ∧
          (exec o a w).2.started.count id =
            c.world.started.count id) :=
    fun _ _ _ _ hReset hCond hInv =>
      finished_exec hReset hCond hInv
  have hEnd := hAfter.holds_of_uses (hReach.uses hUses)
    hKeeps ⟨hFinished, rfl⟩
  refine ⟨?_, hEnd.2⟩
  intro later hLater
  have hDone := hEnd.1.2 later hLater
  constructor
  · intro hStatus
    rw [hStatus] at hDone
    cases hDone
  · intro hStatus
    rw [hStatus] at hDone
    cases hDone

/- One task is enqueued, and two workers wait for tasks. -/
def mailCalls : List Call :=
  [.enqueue { taskType := "send_email" },
    .worker "default" 2, .worker "default" 2]

def stepsOf (thread : Nat) (answers : List Answer) :
    List (Nat × Answer) :=
  answers.map (fun a => (thread, a))

/- Statements that succeed at some second. -/
def calm (second : Int) (count : Nat) : List Answer :=
  List.replicate count { now := second * nanos }

/-
  The first worker runs the task at once, then looks for
  stale tasks and finds nothing to do.
-/
def promptRun : List (Nat × Answer) :=
  stepsOf 0 (calm 1 4) ++ stepsOf 1 (calm 2 9)

def laterRun : List (Nat × Answer) :=
  stepsOf 1 ({ now := 400 * nanos, due := true } ::
    calm 400 8)

theorem prompt_task_runs_once :
    ∃ c c' : Config Res Answer World Unit,
      Reach exec RequeuesUnfinished
        (Config.start World.empty
          (mailCalls.map (Call.body false))) c ∧
      Reach exec RequeuesUnfinished c c' ∧
      (∃ row, c.world.rows 0 = some row ∧
        row.status = .completed) ∧
      (∀ later, c'.world.rows 0 = some later →
        later.status ≠ .pending ∧ later.status ≠ .running) ∧
      c'.world.started.count 0 =
        c.world.started.count 0 := by
  have hRun :
      ((Config.start World.empty
        (mailCalls.map (Call.body false))).run exec
          promptRun).any (fun c =>
            decide (Reach.Meets exec RequeuesUnfinished c
              laterRun) &&
            (c.run exec laterRun).isSome &&
            (c.world.rows 0).any (fun row =>
              row.status = .completed)) = true := by
    decide
  rcases (Option.any_eq_true _ _).mp hRun with
    ⟨c, hRun, hEnd⟩
  simp only [Bool.and_eq_true] at hEnd
  rcases hEnd with ⟨⟨hMeets, hLater⟩, hRow⟩
  rcases Option.isSome_iff_exists.mp hLater with ⟨c', hLater⟩
  rcases (Option.any_eq_true _ _).mp hRow with
    ⟨row, hRow, hStatus⟩
  have hReach :
      Reach exec RequeuesUnfinished
        (Config.start World.empty
          (mailCalls.map (Call.body false))) c :=
    Reach.of_run hRun (by decide)
  have hAfter : Reach exec RequeuesUnfinished c c' :=
    Reach.of_run hLater (of_decide_eq_true hMeets)
  exact ⟨c, c', hReach, hAfter,
    ⟨row, hRow, of_decide_eq_true hStatus⟩,
    finished_never_runs_again (by decide) hReach hAfter hRow
      (of_decide_eq_true hStatus)⟩

/-
  The handler of the first worker takes longer than the
  timeout, so a second worker is given the task.  The first
  worker completes the task.
-/
def slowRun : List (Nat × Answer) :=
  stepsOf 0 (calm 1 4) ++ stepsOf 1 (calm 2 6) ++
    stepsOf 2 ({ now := 400 * nanos, due := true } ::
      calm 400 9) ++
    stepsOf 1 (calm 410 3)

/- Then the handler of the second worker fails. -/
def failingRun : List (Nat × Answer) :=
  stepsOf 2
    ({ now := 420 * nanos
       verdict := .error (.internal "smtp timeout") } ::
      calm 420 5)

theorem completed_task_is_pending_again :
    ∃ c c' : Config Res Answer World Unit,
      Reach exec (fun _ _ _ _ => True)
        (Config.start World.empty
          (mailCalls.map (Call.body false))) c ∧
      Reach exec (fun _ _ _ _ => True) c c' ∧
      (∃ row, c.world.rows 0 = some row ∧
        row.status = .completed) ∧
      ∃ later, c'.world.rows 0 = some later ∧
        later.status = .pending := by
  have hRun :
      ((Config.start World.empty
        (mailCalls.map (Call.body false))).run exec
          slowRun).any (fun c =>
            (c.world.rows 0).any (fun row =>
              row.status = .completed) &&
            (c.run exec failingRun).any (fun c' =>
              (c'.world.rows 0).any (fun row =>
                row.status = .pending))) = true := by
    decide
  rcases (Option.any_eq_true _ _).mp hRun with
    ⟨c, hRun, hEnd⟩
  rcases Bool.and_eq_true_iff.mp hEnd with ⟨hRow, hLater⟩
  rcases (Option.any_eq_true _ _).mp hRow with
    ⟨row, hRow, hStatus⟩
  rcases (Option.any_eq_true _ _).mp hLater with
    ⟨c', hLater, hPending⟩
  rcases (Option.any_eq_true _ _).mp hPending with
    ⟨later, hLaterRow, hPending⟩
  exact ⟨c, c', Reach.of_run hRun
      (Reach.Meets.of_forall (fun _ _ _ _ => trivial) _ _),
    Reach.of_run hLater
      (Reach.Meets.of_forall (fun _ _ _ _ => trivial) _ _),
    ⟨row, hRow, of_decide_eq_true hStatus⟩,
    later, hLaterRow, of_decide_eq_true hPending⟩

--------
-- What A Task Is To Do
--------

variable {w w' w'' : World}

/- What was asked for, and when it was created. -/
def Row.request (row : Row) :
    String × String × Value × Int × Int :=
  (row.jobName, row.queue, row.payload, row.createdAt,
    row.maxRetries)

/- Ids are not given out again, and no task is altered. -/
structure KeepsTasks (w w' : World) : Prop where
  issued : w.issued ≤ w'.issued
  rows :
    ∀ id row', id < w.issued → w'.rows id = some row' →
      ∃ row, w.rows id = some row ∧
        row'.request = row.request

theorem KeepsTasks.trans
    (hFirst : KeepsTasks w w')
    (hSecond : KeepsTasks w' w'') :
    KeepsTasks w w'' where
  issued := hFirst.issued.trans hSecond.issued
  rows id row'' hOld hRow'' := by
    rcases hSecond.rows id row''
      (Nat.lt_of_lt_of_le hOld hFirst.issued) hRow'' with
      ⟨row', hRow', hSame'⟩
    rcases hFirst.rows id row' hOld hRow' with
      ⟨row, hRow, hSame⟩
    exact ⟨row, hRow, hSame'.trans hSame⟩

theorem keepsTasks_update
    (matching : Nat → Row → Bool)
    {change : Row → Row}
    (hChange : ∀ row, (change row).request = row.request) :
    KeepsTasks w (w.update matching change) where
  issued := Nat.le_refl _
  rows id row' _ hRow' := by
    rcases Option.map_eq_some_iff.mp hRow' with
      ⟨row, hRow, rfl⟩
    refine ⟨row, hRow, ?_⟩
    split_ifs
    · exact hChange row
    · rfl

theorem keepsTasks_exec (o : Op) (a : Answer) (w : World) :
    KeepsTasks w (exec o a w).2 := by
  have hChanges := changes_exec o a w
  have hTick : KeepsTasks w (w.tick a) :=
    ⟨Nat.le_refl _, fun _ row _ hRow => ⟨row, hRow, rfl⟩⟩
  refine hTick.trans ?_
  generalize (exec o a w).2 = w' at hChanges ⊢
  generalize w.tick a = v at hChanges
  cases hChanges with
  | none =>
    exact ⟨Nat.le_refl _, fun _ row _ hRow =>
      ⟨row, hRow, rfl⟩⟩
  | inserted =>
    refine ⟨Nat.le_succ _, ?_⟩
    intro id row hOld hRow
    refine ⟨row, ?_, rfl⟩
    simpa [insertRow, Nat.ne_of_lt hOld] using hRow
  | @claimed id now =>
    have hUpdate :
        KeepsTasks v (v.modify id (fun row =>
          row.claimed now)) :=
      keepsTasks_update _ (fun _ => rfl)
    exact ⟨hUpdate.issued, hUpdate.rows⟩
  | purged =>
    refine ⟨Nat.le_refl _, ?_⟩
    intro id row _ hRow
    exact ⟨row, (Option.filter_eq_some_iff.mp hRow).1, rfl⟩
  | _ => exact keepsTasks_update _ (fun _ => rfl)

/-
  Whatever is done with the queue, tasks keep what they are
  to do, and those that were removed do not come back.
-/
theorem keepsTasks_of_reach
    {β : Type}
    {cond : StepCond Res Answer World}
    {c c' : Config Res Answer World β}
    (hReach : Reach exec cond c c') :
    KeepsTasks c.world c'.world := by
  have hStep :
      ∀ tr o a w, cond tr o a w →
        KeepsTasks c.world w →
          KeepsTasks c.world (exec o a w).2 :=
    fun _ o a w _ hKept => hKept.trans (keepsTasks_exec o a w)
  have hStart : KeepsTasks c.world c.world :=
    ⟨Nat.le_refl _, fun _ row _ hRow => ⟨row, hRow, rfl⟩⟩
  exact hReach.holds hStep hStart

theorem mail_task_kept :
    ∃ c c' : Config Res Answer World Unit,
      Reach exec (fun _ _ _ _ => True) c c' ∧
      (c.world.rows 0).isSome = true ∧
      c'.world.started = [0] ∧
      KeepsTasks c.world c'.world := by
  have hRun :
      ((Config.start World.empty
        (mailCalls.map (Call.body false))).run exec
          (stepsOf 0 (calm 1 4))).any (fun c =>
            (c.world.rows 0).isSome &&
              (c.run exec (stepsOf 1 (calm 2 9))).any
                (fun c' => c'.world.started = [0])) =
        true := by
    decide
  rcases (Option.any_eq_true _ _).mp hRun with ⟨c, _, hEnd⟩
  rw [Bool.and_eq_true] at hEnd
  rcases (Option.any_eq_true _ _).mp hEnd.2 with
    ⟨c', hLater, hStarted⟩
  have hReach : Reach exec (fun _ _ _ _ => True) c c' :=
    Reach.of_run hLater
      (Reach.Meets.of_forall (fun _ _ _ _ => trivial) _ _)
  exact ⟨c, c', hReach, hEnd.1, of_decide_eq_true hStarted,
    keepsTasks_of_reach hReach⟩

end Orignabase.Tasks
