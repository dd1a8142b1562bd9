import Orignabase.Tasks.Finished

/-
  How often a task is claimed.

  The counter of a task is raised by a claim.  A failure
  compares it with the limit of the task, and so bounds the
  claims; a reclaim does not.

  Key definitions include:
    * `allowance`
    * `RequeuesWithAttemptsLeft`
    * `Counted`

  Main results:
    * `counted_exec`
    * `bounded_attempts`
-/

--------
-- Counted Claims
--------

namespace Orignabase.Tasks

open Conc

/- A task is run once whatever its limit is. -/
def allowance (maxRetries : Nat) : Nat :=
  max 1 maxRetries

def Row.allowance (row : Row) : Nat :=
  Tasks.allowance (asU32 row.maxRetries)

/- The task may be claimed once more. -/
def Row.attemptsLeft (row : Row) : Bool :=
  row.retryCount < row.allowance

/-
  A task that is put back into the queue, after a failure or
  because nobody has finished it in time, may be claimed once
  more.
-/
def RequeuesWithAttemptsLeft : StepCond Res Answer World :=
  fun _ o a w =>
    match o with
    | .requeue id _ _ =>
      a.fault = none →
        ∀ row ∈ w.rows id, row.attemptsLeft = true
    | .reclaim queue cutoff =>
      a.fault = none → ∀ id < w.issued, ∀ row ∈ w.rows id,
          row.stale queue cutoff = true →
            row.attemptsLeft = true
    | _ => True

instance (tr : List (Event Res Answer)) (o : Op)
    (a : Answer) (w : World) :
    Decidable (RequeuesWithAttemptsLeft tr o a w) := by
  apply Op.casesOn (motive := fun o =>
      Decidable (RequeuesWithAttemptsLeft tr o a w)) o <;>
  intros <;> dsimp only [RequeuesWithAttemptsLeft] <;>
    infer_instance

/- What a row tells about how often its task was claimed. -/
structure Row.Fits (row : Row) (claims : Nat) : Prop where
  counter : row.retryCount = claims
  bounded : claims ≤ row.allowance
  pending :
    row.status = .pending → claims < row.allowance
  known : row.status ≠ .failed

/- The rows count the claims of their tasks. -/
structure Counted (w : World) : Prop where
  numbered : Numbered w
  fresh :
    ∀ id, w.issued ≤ id → w.started.count id = 0
  rows :
    ∀ id row, w.rows id = some row →
      row.Fits (w.started.count id)

theorem Counted.empty : Counted World.empty where
  numbered := fun _ _ h => nomatch h
  fresh := fun _ _ => rfl
  rows := fun _ _ h => nomatch h

variable {row : Row} {w : World}

theorem Row.Fits.ended
    {row' : Row}
    {claims : Nat}
    (hFits : row.Fits claims)
    (hCounter : row'.retryCount = row.retryCount)
    (hLimit : row'.maxRetries = row.maxRetries)
    (hStatus : row'.status.finished = true) :
    row'.Fits claims where
  counter := hCounter.trans hFits.counter
  bounded := by
    rw [allowance, hLimit]
    exact hFits.bounded
  pending := by
    intro hPending
    rw [hPending] at hStatus
    cases hStatus
  known := by
    intro hFailed
    rw [hFailed] at hStatus
    cases hStatus

/- A task with attempts left is put back. -/
theorem Row.Fits.again
    {row' : Row}
    {claims : Nat}
    (hFits : row.Fits claims)
    (hCounter : row'.retryCount = row.retryCount)
    (hLimit : row'.maxRetries = row.maxRetries)
    (hStatus : row'.status = .pending)
    (hLeft : row.attemptsLeft = true) :
    row'.Fits claims where
  counter := hCounter.trans hFits.counter
  bounded := by
    rw [allowance, hLimit]
    exact hFits.bounded
  pending := by
    intro _
    have hLt := of_decide_eq_true hLeft
    rw [hFits.counter] at hLt
    rw [allowance, hLimit]
    exact Int.ofNat_lt.mp hLt
  known := by
    rw [hStatus]
    decide

/- A change of rows without a claim. -/
theorem Counted.update
    (hCounted : Counted w)
    {matching : Nat → Row → Bool}
    {change : Row → Row}
    (hChange :
      ∀ id row, w.rows id = some row →
        matching id row = true →
        row.Fits (w.started.count id) →
        (change row).Fits (w.started.count id)) :
    Counted (w.update matching change) where
  numbered := hCounted.numbered.update _ _
  fresh := hCounted.fresh
  rows := by
    intro id row hRow
    rcases Option.map_eq_some_iff.mp hRow with
      ⟨old, hOld, rfl⟩
    split
    · rename_i hMatch
      exact hChange id old hOld hMatch
        (hCounted.rows id old hOld)
    · exact hCounted.rows id old hOld

theorem Counted.inserted
    {w : World}
    (hCounted : Counted w)
    {row : Int → Row}
    (hNew :
      (row w.now).status = .pending ∧
        (row w.now).retryCount = 0) :
    Counted (insertRow row w).2 where
  numbered := by
    intro id found hFound
    simp only [insertRow] at hFound ⊢
    split at hFound
    · omega
    · have hLt := hCounted.numbered id found hFound
      omega
  fresh := by
    intro id hLe
    exact hCounted.fresh id (Nat.le_of_succ_le hLe)
  rows := by
    intro id found hFound
    simp only [insertRow] at hFound ⊢
    split at hFound
    · rename_i hHere
      cases hFound
      rw [hHere, hCounted.fresh _ (Nat.le_refl _)]
      have hPos : 0 < (row w.now).allowance :=
        Nat.lt_of_lt_of_le Nat.zero_lt_one
          (Nat.le_max_left _ _)
      exact ⟨hNew.2, Nat.zero_le _, fun _ => hPos,
        by rw [hNew.1]; decide⟩
    · exact hCounted.rows id found hFound

/- A claim is counted by the row. -/
theorem Counted.claimed
    {w : World}
    (hCounted : Counted w)
    {id : Nat}
    {now : Int}
    {row : Row}
    (hRow : w.rows id = some row)
    (hStatus : row.status = .pending) :
    Counted
      { w.modify id (fun row => row.claimed now) with
        started := id :: w.started } where
  numbered := hCounted.numbered.update _ _
  fresh := by
    intro other hLe
    have hLt := hCounted.numbered id row hRow
    have hNe : id ≠ other := by
      rintro rfl
      exact Nat.not_le.mpr hLt hLe
    exact (List.count_cons_of_ne hNe).trans
      (hCounted.fresh other hLe)
  rows := by
    intro other found hFound
    rcases Option.map_eq_some_iff.mp hFound with
      ⟨old, hOld, rfl⟩
    have hFits := hCounted.rows other old hOld
    split
    · rename_i hMatch
      have hHere : other = id := of_decide_eq_true hMatch
      subst hHere
      rw [hRow] at hOld
      cases hOld
      rw [List.count_cons_self]
      refine ⟨?_, hFits.pending hStatus,
        (fun h => nomatch h), (fun h => nomatch h)⟩
      change row.retryCount + 1 = _
      rw [hFits.counter]
      rfl
    · rename_i hMatch
      have hNe : id ≠ other := by
        rintro rfl
        exact hMatch (decide_eq_true rfl)
      rw [List.count_cons_of_ne hNe]
      exact hFits

/- Tasks that nobody has finished in time are put back. -/
theorem Counted.reclaimed
    (hCounted : Counted w)
    {queue : Option String}
    {cutoff : Int}
    (hLeft :
      ∀ id < w.issued, ∀ row ∈ w.rows id,
        row.stale queue cutoff = true →
          row.attemptsLeft = true) :
    Counted (reclaimRows queue cutoff w).2 := by
  refine hCounted.update ?_
  intro id row hRow hStale hFits
  exact hFits.again rfl rfl rfl
    (hLeft id (hCounted.numbered id row hRow) row hRow
      hStale)

theorem exec_reclaim
    (queue : Option String)
    (cutoff : Int)
    (a : Answer)
    (w : World) :
    (exec (.reclaim queue cutoff) a w).2 = w.tick a ∨
      a.fault = none ∧
        (exec (.reclaim queue cutoff) a w).2 =
          (reclaimRows queue cutoff (w.tick a)).2 := by
  simp only [exec, statement]
  split
  · exact Or.inl rfl
  · rename_i hFine
    exact Or.inr ⟨hFine, rfl⟩

/- What one step does to the counters. -/
theorem counted_exec
    {tr : List (Event Res Answer)}
    {o : Op}
    {a : Answer}
    (hLawful : Lawful o)
    (hCond : RequeuesWithAttemptsLeft tr o a w)
    (hCounted : Counted w) :
    Counted (exec o a w).2 := by
  have hTick : Counted (w.tick a) :=
    ⟨hCounted.numbered, hCounted.fresh, hCounted.rows⟩
  by_cases hReclaim : ∃ queue cutoff, o = .reclaim queue cutoff
  · rcases hReclaim with ⟨queue, cutoff, rfl⟩
    rcases exec_reclaim queue cutoff a w with
      hSame | ⟨hFine, hDone⟩
    · rw [hSame]
      exact hTick
    · rw [hDone]
      exact hTick.reclaimed (hCond hFine)
  have hRows : (w.tick a).rows = w.rows := rfl
  have hChanges := changes_exec o a w
  generalize (exec o a w).2 = w' at hChanges ⊢
  generalize w.tick a = v at hChanges hTick hRows
  cases hChanges with
  | none => exact hTick
  | inserted => exact hTick.inserted (hLawful _)
  | claimed hRow hStatus _ =>
    exact hTick.claimed hRow hStatus
  | completed =>
    refine hTick.update ?_
    intro id row _ _ hFits
    exact hFits.ended rfl rfl rfl
  | deadLettered =>
    refine hTick.update ?_
    intro id row _ _ hFits
    exact hFits.ended rfl rfl rfl
  | @requeued other retryAt message _ _ hFine =>
    refine hTick.update ?_
    intro id row hRow hMatch hFits
    have hHere : id = other := of_decide_eq_true hMatch
    subst hHere
    rw [hRows] at hRow
    exact hFits.again rfl rfl rfl (hCond hFine row hRow)
  | reclaimed => exact absurd ⟨_, _, rfl⟩ hReclaim
  | purged =>
    refine ⟨?_, hTick.fresh, ?_⟩
    · intro id row hRow
      rcases Option.filter_eq_some_iff.mp hRow with
        ⟨hOld, _⟩
      exact hTick.numbered id row hOld
    · intro id row hRow
      rcases Option.filter_eq_some_iff.mp hRow with
        ⟨hOld, _⟩
      exact hTick.rows id row hOld
  | reset => exact hLawful.elim

--------
-- One Task
--------

/- A task that was claimed some times, and its limit. -/
structure Tried (id limit : Nat) (w : World) : Prop where
  issued : id < w.issued
  bounded : w.started.count id ≤ Tasks.allowance limit
  limit :
    ∀ row, w.rows id = some row →
      asU32 row.maxRetries = limit

theorem Tried.of_row
    (hCounted : Counted w)
    {id : Nat}
    (hRow : w.rows id = some row) :
    Tried id (asU32 row.maxRetries) w where
  issued := hCounted.numbered id row hRow
  bounded := (hCounted.rows id row hRow).bounded
  limit := by
    intro found hFound
    rw [hRow] at hFound
    cases hFound
    rfl

/- A change of rows that leaves their limits. -/
theorem Tried.update
    {id limit : Nat}
    (hTried : Tried id limit w)
    (matching : Nat → Row → Bool)
    {change : Row → Row}
    (hChange :
      ∀ row, (change row).maxRetries = row.maxRetries) :
    Tried id limit (w.update matching change) where
  issued := hTried.issued
  bounded := hTried.bounded
  limit := by
    intro row hRow
    rcases Option.map_eq_some_iff.mp hRow with
      ⟨old, hOld, rfl⟩
    split
    · rw [hChange]
      exact hTried.limit old hOld
    · exact hTried.limit old hOld

theorem tried_exec
    {id limit : Nat}
    {o : Op}
    {a : Answer}
    (hLawful : Lawful o)
    (hCounted : Counted w)
    (hTried : Tried id limit w) :
    Tried id limit (exec o a w).2 := by
  have hTick : Tried id limit (w.tick a) :=
    ⟨hTried.issued, hTried.bounded, hTried.limit⟩
  have hRows : (w.tick a).rows = w.rows := rfl
  have hStarted : (w.tick a).started = w.started := rfl
  have hChanges := changes_exec o a w
  generalize (exec o a w).2 = w' at hChanges ⊢
  generalize w.tick a = v at hChanges hTick hRows hStarted
  cases hChanges with
  | none => exact hTick
  | inserted =>
    refine ⟨Nat.lt_succ_of_lt hTick.issued, hTick.bounded,
      ?_⟩
    intro found hFound
    simp only [insertRow] at hFound
    rw [if_neg (Nat.ne_of_lt hTick.issued)] at hFound
    exact hTick.limit found hFound
  | @claimed other now row _ _ hRow hStatus hCount =>
    have hModified :
        Tried id limit
          (v.modify other (fun row => row.claimed now)) :=
      hTick.update _ (fun _ => rfl)
    refine ⟨hModified.issued, ?_, hModified.limit⟩
    by_cases hHere : other = id
    · subst hHere
      rw [hRows] at hRow
      have hLt :=
        (hCounted.rows other row hRow).pending hStatus
      rw [Row.allowance, hTried.limit row hRow] at hLt
      rw [List.count_cons_self, hStarted]
      exact hLt
    · rw [List.count_cons_of_ne hHere]
      exact hTick.bounded
  | completed => exact hTick.update _ (fun _ => rfl)
  | deadLettered => exact hTick.update _ (fun _ => rfl)
  | requeued => exact hTick.update _ (fun _ => rfl)
  | reclaimed => exact hTick.update _ (fun _ => rfl)
  | purged =>
    refine ⟨hTick.issued, hTick.bounded, ?_⟩
    intro row hRow
    rcases Option.filter_eq_some_iff.mp hRow with ⟨hOld, _⟩
    exact hTick.limit row hOld
  | reset => exact hLawful.elim

--------
-- Runs
--------

variable {checked : Bool} {calls : List Call}
variable {c c' : Config Res Answer World Unit}

/- The number in a request, as the table keeps it. -/
theorem asU32_toInt32 (n : UInt32) :
    asU32 n.toInt32.toInt = n.toNat := by
  have hLt : n.toNat < 2 ^ 32 := n.toNat_lt
  change ((n.toBitVec.toInt % 2 ^ 32 : Int)).toNat = _
  rw [BitVec.toInt_eq_toNat_bmod, UInt32.toNat_toBitVec]
  have hMod :
      (n.toNat : Int).bmod (2 ^ 32) % 2 ^ 32 =
        (n.toNat : Int) % 2 ^ 32 :=
    Int.bmod_emod
  rw [hMod]
  omega

/-
  A task with a limit of retries that is in the table in some
  state of a run is claimed as often as that at most, and
  once in any case.  After as many claims it is running for
  the last time, completed or in the dead letters.
-/
theorem bounded_attempts
    (hNoRetry : ∀ call ∈ calls, call.retries = false)
    (hReach :
      Reach exec RequeuesWithAttemptsLeft
        (Config.start World.empty
          (calls.map (Call.body checked))) c)
    (hAfter : Reach exec RequeuesWithAttemptsLeft c c')
    {id : Nat}
    {row : Row}
    (hRow : c.world.rows id = some row)
    {maxRetries : UInt32}
    (hLimit : row.maxRetries = maxRetries.toInt32.toInt) :
    c'.world.started.count id ≤ allowance maxRetries.toNat ∧
      (c'.world.started.count id =
          allowance maxRetries.toNat →
        ∀ later, c'.world.rows id = some later →
          later.status = .running ∨
            later.status = .completed ∨
            later.status = .deadLetter) := by
  have hUses :
      (Config.start World.empty
        (calls.map (Call.body checked)) :
          Config Res Answer World Unit).Uses Lawful := by
    apply Config.uses_start
    intro p hMem
    rcases List.mem_map.mp hMem with ⟨call, hCall, rfl⟩
    exact uses_body (hNoRetry call hCall) checked
  have hCounted : Counted c.world :=
    hReach.holds_of_uses hUses
      (fun _ _ _ _ hLawful hCond hNow =>
        counted_exec hLawful hCond hNow) Counted.empty
  have hTried : Tried id maxRetries.toNat c.world := by
    rw [← asU32_toInt32, ← hLimit]
    exact Tried.of_row hCounted hRow
  have hKeeps :
      ∀ tr o a w, Lawful o →
        RequeuesWithAttemptsLeft tr o a w →
        (Counted w ∧ Tried id maxRetries.toNat w) →
        (Counted (exec o a w).2 ∧
          Tried id maxRetries.toNat (exec o a w).2) :=
    fun _ _ _ _ hLawful hCond hNow =>
      ⟨counted_exec hLawful hCond hNow.1,
        tried_exec hLawful hNow.1 hNow.2⟩
  have hEnd := hAfter.holds_of_uses (hReach.uses hUses)
    hKeeps ⟨hCounted, hTried⟩
  refine ⟨hEnd.2.bounded, ?_⟩
  intro hAll later hLater
  have hFits := hEnd.1.rows id later hLater
  have hSame := hEnd.2.limit later hLater
  cases hStatus : later.status with
  | pending =>
    have hLt := hFits.pending hStatus
    rw [Row.allowance, hSame, hAll] at hLt
    exact absurd hLt (Nat.lt_irrefl _)
  | running => exact Or.inl rfl
  | completed => exact Or.inr (Or.inl rfl)
  | deadLetter => exact Or.inr (Or.inr rfl)
  | failed => exact absurd hStatus hFits.known

/- One task that may be tried twice, and two workers. -/
def retriedCalls (maxRetries : UInt32) : List Call :=
  [.enqueue
      { taskType := "send_email"
        maxRetries := maxRetries },
    .worker "default" 2, .worker "default" 2]

/- The handler fails at some second. -/
def failingAt (second : Int) : List Answer :=
  [{ now := second * nanos
     verdict := .error (.internal "smtp timeout") }]

/-
  The task is found and handed to the worker, and the worker
  records how the handler ended.
-/
def failedTwice : List (Nat × Answer) :=
  stepsOf 1 (calm 2 6 ++ failingAt 3 ++ calm 3 5) ++
    stepsOf 2 (calm 10 6 ++ failingAt 11 ++ calm 11 5)

theorem two_attempts_then_dead_letter :
    ∃ c c' : Config Res Answer World Unit,
      Reach exec RequeuesWithAttemptsLeft
        (Config.start World.empty
          ((retriedCalls 2).map (Call.body false))) c ∧
      Reach exec RequeuesWithAttemptsLeft c c' ∧
      c'.world.started.count 0 = allowance 2 ∧
      ∀ later, c'.world.rows 0 = some later →
        later.status = .running ∨
          later.status = .completed ∨
          later.status = .deadLetter := by
  have hRun :
      ((Config.start World.empty
        ((retriedCalls 2).map (Call.body false))).run exec
          (stepsOf 0 (calm 1 4))).any (fun c =>
            decide
              (Reach.Meets exec RequeuesWithAttemptsLeft c
                failedTwice) &&
            (c.run exec failedTwice).any (fun c' =>
              c'.world.started.count 0 = allowance 2) &&
            (c.world.rows 0).any (fun row =>
              row.maxRetries = (2 : UInt32).toInt32.toInt)) =
        true := by
    decide
  rcases (Option.any_eq_true _ _).mp hRun with
    ⟨c, hRun, hEnd⟩
  simp only [Bool.and_eq_true] at hEnd
  rcases hEnd with ⟨⟨hMeets, hLater⟩, hRow⟩
  rcases (Option.any_eq_true _ _).mp hLater with
    ⟨c', hLater, hCount⟩
  rcases (Option.any_eq_true _ _).mp hRow with
    ⟨row, hRow, hLimit⟩
  have hReach :
      Reach exec RequeuesWithAttemptsLeft
        (Config.start World.empty
          ((retriedCalls 2).map (Call.body false))) c :=
    Reach.of_run hRun (by decide)
  have hAfter : Reach exec RequeuesWithAttemptsLeft c c' :=
    Reach.of_run hLater (of_decide_eq_true hMeets)
  have hBounded :=
    bounded_attempts (by decide) hReach hAfter hRow
      (of_decide_eq_true hLimit)
  exact ⟨c, c', hReach, hAfter, of_decide_eq_true hCount,
    hBounded.2 (of_decide_eq_true hCount)⟩

/-
  The task may be tried once.  The first worker crashes while
  it runs the task, and the second worker reclaims the task
  and runs it again.
-/
def crashedOnce : List (Nat × Answer) :=
  stepsOf 0 (calm 1 4) ++ stepsOf 1 (calm 2 6) ++
    stepsOf 2 ({ now := 400 * nanos, due := true } ::
      calm 400 9)

theorem crashed_task_claimed_again :
    ∃ (c : Config Res Answer World Unit) (row : Row),
      Reach exec (fun _ _ _ _ => True)
        (Config.start World.empty
          ((retriedCalls 1).map (Call.body false))) c ∧
      c.world.rows 0 = some row ∧
      row.maxRetries = (1 : UInt32).toInt32.toInt ∧
      allowance 1 < c.world.started.count 0 := by
  have hRun :
      ((Config.start World.empty
        ((retriedCalls 1).map (Call.body false))).run exec
          crashedOnce).any (fun c =>
            decide
              (allowance 1 < c.world.started.count 0) &&
            (c.world.rows 0).any (fun row =>
              row.maxRetries = (1 : UInt32).toInt32.toInt)) =
        true := by
    decide
  rcases (Option.any_eq_true _ _).mp hRun with
    ⟨c, hRun, hEnd⟩
  rcases Bool.and_eq_true_iff.mp hEnd with ⟨hCount, hRow⟩
  rcases (Option.any_eq_true _ _).mp hRow with
    ⟨row, hRow, hLimit⟩
  exact ⟨c, row, Reach.of_run hRun
      (Reach.Meets.of_forall (fun _ _ _ _ => trivial) _ _),
    hRow, of_decide_eq_true hLimit, of_decide_eq_true hCount⟩

end Orignabase.Tasks
