import Mathlib.Data.List.Basic
import Mathlib.Data.List.Infix
import Orignabase.Lib.Table

/-
  Notifications that are sent once, and their pushes
  (`ob-handlers/src/native_triggers.rs`,
  `create_notification_once` and `dispatch_push`).

  What the store refuses, the devices of a user and the
  outcomes of pushes come from the environment, the hash of
  long ids is a parameter, and a day is any part of the time.

  Key definitions include:
    * `World`
    * `dispatchPush`
    * `createNotificationOnce`
    * `Limited`
    * `Within`

  Main results:
    * `daily_limit_iff`
-/

--------
-- Ids
--------

namespace Orignabase.Notifications

/- One underscore for each run of them. -/
def collapse : List Char → List Char
  | [] => []
  | c :: rest =>
    if c = '_' ∧ rest.head? = some '_' then collapse rest
    else c :: collapse rest

def sanitizeIdComponent (value : String) : String :=
  let out := collapse (value.toList.map (fun ch =>
    if ch.isAlphanum then ch.toLower else '_'))
  String.ofList
    (((out.dropWhile (· = '_')).reverse.dropWhile
      (· = '_')).reverse)

section

variable (stableHash : String → String)

def claimKey (head : String) (parts : List String) : String :=
  let key := parts.foldl
    (fun key part => key ++ "_" ++ sanitizeIdComponent part)
    (sanitizeIdComponent head)
  if 120 < key.utf8ByteSize then
    sanitizeIdComponent head ++ "_" ++ stableHash key
  else key

def notificationRecordId (claimId : String) : String :=
  claimKey stableHash "notification" [claimId]

def pendingPushRecordId
    (notificationId token : String) : String :=
  claimKey stableHash "pending_push" [notificationId, token]

end

/- The ids of the records of pushes. -/
def IsPushId (id : String) : Prop :=
  "pending_push_".toList <+: id.toList

theorem isPushId_append (rest : String) :
    IsPushId ("pending_push" ++ "_" ++ rest) := by
  have hHead : "pending_push_" = "pending_push" ++ "_" := by
    decide
  rw [IsPushId, hHead]
  exact ⟨rest.toList, String.toList_append.symm⟩

theorem isPushId_record
    (stableHash : String → String)
    (notificationId token : String) :
    IsPushId
      (pendingPushRecordId stableHash notificationId
        token) := by
  have hHead :
      sanitizeIdComponent "pending_push" = "pending_push" := by
    decide
  rw [pendingPushRecordId, claimKey, hHead]
  split
  · exact isPushId_append _
  · rw [List.foldl_cons, List.foldl_cons, List.foldl_nil,
      String.append_assoc, String.append_assoc]
    exact isPushId_append _

--------
-- Records
--------

/- A row of `_pending_notifications`. -/
structure PendingPush where
  userId : Option String
  notificationId : Option String
  token : String
  title : String
  body : String
  sent : Bool
  deriving DecidableEq, Repr

/-
  The ids in `notifications`, of records and of claims, and
  the pushes.  Only `dispatch_push` writes rows under the ids
  of its pushes, and it writes no user in them.
-/
structure World where
  notifications : List String
  pending : Table PendingPush
  own :
    ∀ row ∈ pending.rows, IsPushId row.1 →
      row.2.userId = none

/- `count_where` on the user of a row. -/
def rowsOf (pending : Table PendingPush) (userId : String) :
    Nat :=
  pending.rows.countP (fun row =>
    row.2.userId = some userId)

/- What the pushes of one dispatch leave of the table. -/
structure OwnChange
    (before after : Table PendingPush) : Prop where
  own :
    (∀ row ∈ before.rows, IsPushId row.1 →
      row.2.userId = none) →
      ∀ row ∈ after.rows, IsPushId row.1 →
        row.2.userId = none
  rows :
    (∀ row ∈ before.rows, IsPushId row.1 →
      row.2.userId = none) →
      ∀ userId, rowsOf after userId = rowsOf before userId

namespace OwnChange

variable {t t' t'' : Table PendingPush}

theorem refl (t : Table PendingPush) : OwnChange t t :=
  ⟨fun hOwn => hOwn, fun _ _ => rfl⟩

theorem trans
    (hFirst : OwnChange t t')
    (hNext : OwnChange t' t'') :
    OwnChange t t'' where
  own := fun hOwn => hNext.own (hFirst.own hOwn)
  rows := fun hOwn userId => by
    rw [hNext.rows (hFirst.own hOwn) userId,
      hFirst.rows hOwn userId]

/- A change of the row of a push that keeps it without user. -/
theorem modify
    {key : String}
    {f : PendingPush → PendingPush}
    (hKey : IsPushId key)
    (hUser :
      ∀ row, row.userId = none → (f row).userId = none) :
    OwnChange t (t.modify key f) where
  own := by
    intro hOwn row hMem hId
    rcases Table.mem_modify hMem with
      hOld | ⟨old, hOld, rfl⟩
    · exact hOwn row hOld hId
    · exact hUser old (hOwn _ hOld hKey)
  rows := by
    intro hOwn userId
    rw [rowsOf, rowsOf, Table.modify, List.countP_map]
    refine List.countP_congr ?_
    intro row hMem
    simp only [Function.comp_apply]
    by_cases hRow : row.1 = key
    · have hNone := hOwn row hMem (hRow ▸ hKey)
      rw [if_pos hRow, hNone, hUser row.2 hNone]
    · rw [if_neg hRow]

theorem upsert
    {key : String}
    {row : PendingPush}
    (hKey : IsPushId key)
    (hUser : row.userId = none) :
    OwnChange t (t.upsert key row) := by
  rw [Table.upsert]
  split
  · exact modify hKey (fun _ _ => hUser)
  · refine ⟨?_, ?_⟩
    · intro hOwn other hMem hId
      rcases List.mem_append.mp hMem with hOld | hNew
      · exact hOwn other hOld hId
      · rw [List.mem_singleton.mp hNew]
        exact hUser
    · intro _ userId
      rw [rowsOf, rowsOf, Table.insert, List.countP_append,
        List.countP_singleton, hUser]
      rfl

end OwnChange

--------
-- Dispatches
--------

def maxPushPerDay : Nat := 20

def checkDailyLimit (pushCountToday : Nat) : Bool :=
  pushCountToday < maxPushPerDay

/-
  One notification with the answers it gets: which requests to
  the store fail, the tokens of the user's devices, and the
  pushes that are delivered.
-/
structure Dispatch where
  time : Nat
  claimId : String
  userId : String
  title : String
  body : String
  insertFails : Bool := false
  getFails : Bool := false
  claimFails : Bool := false
  tokens : List (Option String)
  countFails : Bool := false
  configured : Bool := true
  upsertFails : String → Bool := fun _ => false
  updateFails : String → Bool := fun _ => false
  delivers : String → Bool

inductive Outcome
  | failed
  | claimed
  | noDevice
  | refused
  | sent (received : Bool)
  deriving DecidableEq, Repr

namespace Dispatch

/- A push to a device that is delivered. -/
def reaches (d : Dispatch) (token : String) : Bool :=
  d.configured && d.delivers token

/- Whether a device gets the notification. -/
def received (d : Dispatch) : Bool :=
  d.tokens.any (fun token => token.any d.reaches)

end Dispatch

section

variable (stableHash : String → String)

/- The record of one push, and what became of it. -/
def sendPush
    (d : Dispatch)
    (notificationId token : String)
    (pending : Table PendingPush) : Table PendingPush :=
  let pendingId :=
    pendingPushRecordId stableHash notificationId token
  let stored :=
    if d.upsertFails token then pending
    else
      pending.upsert pendingId
        ⟨none, some notificationId, token, d.title, d.body,
          false⟩
  if d.updateFails token then stored
  else
    stored.modify pendingId (fun row =>
      { row with sent := d.reaches token })

def sendPushes
    (d : Dispatch)
    (notificationId : String)
    (pending : Table PendingPush) : Table PendingPush :=
  d.tokens.foldl (fun pending token =>
      match token with
      | none => pending
      | some token =>
        sendPush stableHash d notificationId token pending)
    pending

/- What is counted, nothing if the count fails. -/
def pushCount
    (d : Dispatch)
    (pending : Table PendingPush) : Nat :=
  if d.countFails then 0
  else rowsOf pending d.userId % 2 ^ 32

def dispatchPush
    (d : Dispatch)
    (notificationId : String)
    (pending : Table PendingPush) :
    Table PendingPush × Outcome :=
  if d.tokens = [] then (pending, .noDevice)
  else if checkDailyLimit (pushCount d pending) then
    (sendPushes stableHash d notificationId pending,
      .sent d.received)
  else (pending, .refused)

/- The record of a notification, none if there is none. -/
def createNotificationRecordOnce
    (d : Dispatch)
    (ids : List String) : Option (List String) :=
  let id := notificationRecordId stableHash d.claimId
  if d.insertFails = false ∧ id ∉ ids then some (id :: ids)
  else if d.getFails = false ∧ id ∈ ids then some ids
  else none

def claimNotificationOnce
    (d : Dispatch)
    (ids : List String) : Option (List String) :=
  if d.claimFails = false ∧ d.claimId ∉ ids then
    some (d.claimId :: ids)
  else none

/- The ids after a notification, and whether it is the first. -/
def claim
    (d : Dispatch)
    (ids : List String) : List String × Option Outcome :=
  match createNotificationRecordOnce stableHash d ids with
  | none => (ids, some .failed)
  | some ids =>
    match claimNotificationOnce d ids with
    | none => (ids, some .claimed)
    | some ids => (ids, none)

theorem ownChange_sendPush
    (d : Dispatch)
    (notificationId token : String)
    (pending : Table PendingPush) :
    OwnChange pending
      (sendPush stableHash d notificationId token pending) := by
  have hKey :=
    isPushId_record stableHash notificationId token
  have hStored :
      OwnChange pending (if d.upsertFails token then pending
        else
          pending.upsert
            (pendingPushRecordId stableHash notificationId
              token)
            ⟨none, some notificationId, token, d.title,
              d.body, false⟩) := by
    split
    · exact .refl pending
    · exact .upsert hKey rfl
  rw [sendPush]
  split
  · exact hStored
  · exact hStored.trans
      (.modify hKey (fun _ hUser => hUser))

theorem ownChange_sendPushes
    (d : Dispatch)
    (notificationId : String)
    (pending : Table PendingPush) :
    OwnChange pending
      (sendPushes stableHash d notificationId pending) := by
  rw [sendPushes]
  generalize d.tokens = tokens
  induction tokens generalizing pending with
  | nil => exact .refl pending
  | cons token rest ih =>
    rw [List.foldl_cons]
    cases token with
    | none => exact ih pending
    | some token =>
      exact (ownChange_sendPush stableHash d
        notificationId token pending).trans (ih _)

theorem ownChange_dispatchPush
    (d : Dispatch)
    (notificationId : String)
    (pending : Table PendingPush) :
    OwnChange pending
      (dispatchPush stableHash d notificationId
        pending).1 := by
  rw [dispatchPush]
  split
  · exact .refl pending
  split
  · exact ownChange_sendPushes stableHash d notificationId
      pending
  · exact .refl pending

/- A notification, sent at most once. -/
def createNotificationOnce
    (d : Dispatch)
    (w : World) : World × Outcome :=
  match claim stableHash d w.notifications with
  | (ids, some outcome) =>
    (⟨ids, w.pending, w.own⟩, outcome)
  | (ids, none) =>
    let pushed := dispatchPush stableHash d
      (notificationRecordId stableHash d.claimId) w.pending
    (⟨ids, pushed.1,
      (ownChange_dispatchPush stableHash d _ _).own w.own⟩,
      pushed.2)

/- Notifications one after the other, with their outcomes. -/
def run (w : World) : List Dispatch → List (Dispatch × Outcome)
  | [] => []
  | d :: rest =>
    let done := createNotificationOnce stableHash d w
    (d, done.2) :: run done.1 rest

end

--------
-- Limits
--------

/-
  Each member of a list of the one kind comes after a member
  that it is related to; `seen` is what came before the list.
-/
def Preceded
    {α : Type}
    (kind : α → Prop)
    (related : α → α → Prop)
    (seen : List α) : List α → Prop
  | [] => True
  | x :: rest =>
    (kind x → ∃ y ∈ seen, related y x) ∧
      Preceded kind related (x :: seen) rest

section

variable {δ : Type} [DecidableEq δ] (day : Nat → δ)

/- Two dispatches to one user on one day. -/
def SameDay (d e : Dispatch) : Prop :=
  d.userId = e.userId ∧ day d.time = day e.time

instance (d e : Dispatch) : Decidable (SameDay day d e) :=
  inferInstanceAs (Decidable (_ ∧ _))

/-
  Nobody receives more than the limit on one day, and only one
  who received something that day is refused.
-/
structure Limited
    (outcomes : List (Dispatch × Outcome)) : Prop where
  bounded :
    ∀ d, outcomes.countP (fun x =>
      SameDay day x.1 d ∧ x.2 = .sent true) ≤ maxPushPerDay
  fresh :
    Preceded (fun x => x.2 = .refused)
      (fun y x => SameDay day y.1 x.1 ∧ y.2 = .sent true)
      [] outcomes

/-
  The notifications that are the first with their claim and
  whose user has a device.
-/
def arrivals
    (stableHash : String → String)
    (ids : List String) : List Dispatch → List Dispatch
  | [] => []
  | d :: rest =>
    match claim stableHash d ids with
    | (ids, some _) => arrivals stableHash ids rest
    | (ids, none) =>
      if d.tokens = [] then arrivals stableHash ids rest
      else d :: arrivals stableHash ids rest

/- The rows of other writers, which no push adds to. -/
def Crowded (w : World) (d : Dispatch) : Prop :=
  d.countFails = false ∧
    maxPushPerDay ≤ rowsOf w.pending d.userId % 2 ^ 32

instance (w : World) (d : Dispatch) :
    Decidable (Crowded w d) :=
  inferInstanceAs (Decidable (_ ∧ _))

/- A notification that would be received. -/
def Wanted (w : World) (d : Dispatch) : Prop :=
  ¬ Crowded w d ∧ d.received = true

instance (w : World) (d : Dispatch) :
    Decidable (Wanted w d) :=
  inferInstanceAs (Decidable (_ ∧ _))

/-
  Nobody is sent more notifications than the limit on one day,
  and nobody for whom other writers have left as many rows is
  sent one, except after one that was not counted.
-/
structure Within
    (stableHash : String → String)
    (w : World)
    (ds : List Dispatch) : Prop where
  bounded :
    ∀ d, (arrivals stableHash w.notifications ds).countP
      (fun x => SameDay day x d ∧ Wanted w x) ≤ maxPushPerDay
  fresh :
    Preceded (Crowded w)
      (fun y x => SameDay day y x ∧ Wanted w y)
      [] (arrivals stableHash w.notifications ds)

end

--------
-- Runs
--------

/- The same numbers of rows of each user. -/
def SameRows (w w' : World) : Prop :=
  ∀ userId, rowsOf w'.pending userId = rowsOf w.pending userId

variable {w : World}

theorem crowded_congr
    {w' : World}
    (hSame : SameRows w w')
    (d : Dispatch) :
    Crowded w' d ↔ Crowded w d := by
  rw [Crowded, Crowded, hSame d.userId]

theorem wanted_congr
    {w' : World}
    (hSame : SameRows w w')
    (d : Dispatch) :
    Wanted w' d ↔ Wanted w d := by
  rw [Wanted, Wanted, crowded_congr hSame]

/- The limit refuses where other writers left many rows. -/
theorem checkDailyLimit_iff
    (w : World)
    (d : Dispatch) :
    checkDailyLimit (pushCount d w.pending) = true ↔
      ¬ Crowded w d := by
  rw [checkDailyLimit, decide_eq_true_iff, pushCount,
    Crowded]
  cases d.countFails with
  | true =>
    rw [if_pos rfl]
    exact ⟨fun _ hCrowded => Bool.noConfusion hCrowded.1,
      fun _ => by decide⟩
  | false =>
    rw [if_neg Bool.false_ne_true]
    constructor
    · intro hLess hCrowded
      exact absurd hCrowded.2 (Nat.not_le.mpr hLess)
    · intro hNot
      exact Nat.not_le.mp (fun hMany => hNot ⟨rfl, hMany⟩)

/- What one notification does, by whether it arrives. -/
structure Idle
    (stableHash : String → String)
    (w : World)
    (d : Dispatch)
    (rest : List Dispatch) : Prop where
  arrivals_eq :
    arrivals stableHash w.notifications (d :: rest) =
      arrivals stableHash
        (createNotificationOnce stableHash d
          w).1.notifications rest
  not_refused :
    (createNotificationOnce stableHash d w).2 ≠ .refused
  not_sent :
    (createNotificationOnce stableHash d w).2 ≠ .sent true

structure Arrives
    (stableHash : String → String)
    (w : World)
    (d : Dispatch)
    (rest : List Dispatch) : Prop where
  arrivals_eq :
    arrivals stableHash w.notifications (d :: rest) =
      d :: arrivals stableHash
        (createNotificationOnce stableHash d
          w).1.notifications rest
  refused_iff :
    (createNotificationOnce stableHash d w).2 = .refused ↔
      Crowded w d
  sent_iff :
    (createNotificationOnce stableHash d w).2 = .sent true ↔
      Wanted w d

section

variable (stableHash : String → String)

theorem claim_outcome
    (d : Dispatch)
    (ids : List String)
    {outcome : Outcome}
    (hClaim : (claim stableHash d ids).2 = some outcome) :
    outcome = .failed ∨ outcome = .claimed := by
  rw [claim] at hClaim
  split at hClaim
  · cases hClaim
    exact .inl rfl
  split at hClaim
  · cases hClaim
    exact .inr rfl
  · cases hClaim

theorem sameRows_step
    (w : World)
    (d : Dispatch) :
    SameRows w (createNotificationOnce stableHash d w).1 := by
  intro userId
  rw [createNotificationOnce]
  split
  · rfl
  · exact (ownChange_dispatchPush stableHash d _ _).rows
      w.own userId

theorem idle_or_arrives
    (w : World)
    (d : Dispatch)
    (rest : List Dispatch) :
    Idle stableHash w d rest ∨
      Arrives stableHash w d rest := by
  rcases hClaim : claim stableHash d w.notifications with
    ⟨ids, outcome?⟩
  cases outcome? with
  | some outcome =>
    have hKind := claim_outcome stableHash d w.notifications
      (congrArg Prod.snd hClaim)
    have hStep :
        createNotificationOnce stableHash d w =
          (⟨ids, w.pending, w.own⟩, outcome) := by
      simp only [createNotificationOnce, hClaim]
    refine .inl ⟨?_, ?_, ?_⟩
    · rw [hStep]
      simp only [arrivals, hClaim]
    · rw [hStep]
      rcases hKind with rfl | rfl
      · exact Outcome.noConfusion
      · exact Outcome.noConfusion
    · rw [hStep]
      rcases hKind with rfl | rfl
      · exact Outcome.noConfusion
      · exact Outcome.noConfusion
  | none =>
    have hIds :
        (createNotificationOnce stableHash d
          w).1.notifications = ids := by
      simp only [createNotificationOnce, hClaim]
    have hOutcome :
        (createNotificationOnce stableHash d w).2 =
          (dispatchPush stableHash d
            (notificationRecordId stableHash d.claimId)
            w.pending).2 := by
      simp only [createNotificationOnce, hClaim]
    by_cases hTokens : d.tokens = []
    · rw [dispatchPush, if_pos hTokens] at hOutcome
      refine .inl ⟨?_, ?_, ?_⟩
      · rw [hIds]
        simp only [arrivals, hClaim, if_pos hTokens]
      · rw [hOutcome]
        exact Outcome.noConfusion
      · rw [hOutcome]
        exact Outcome.noConfusion
    · rw [dispatchPush, if_neg hTokens] at hOutcome
      refine .inr ⟨?_, ?_, ?_⟩
      · rw [hIds]
        simp only [arrivals, hClaim, if_neg hTokens]
      · rw [hOutcome]
        by_cases hCrowded : Crowded w d
        · rw [if_neg (fun hLess =>
            (checkDailyLimit_iff w d).mp hLess hCrowded)]
          exact ⟨fun _ => hCrowded, fun _ => rfl⟩
        · rw [if_pos
            ((checkDailyLimit_iff w d).mpr hCrowded)]
          exact ⟨Outcome.noConfusion,
            fun hSome => absurd hSome hCrowded⟩
      · rw [hOutcome, Wanted]
        by_cases hCrowded : Crowded w d
        · rw [if_neg (fun hLess =>
            (checkDailyLimit_iff w d).mp hLess hCrowded)]
          exact ⟨Outcome.noConfusion,
            fun hSome => absurd hCrowded hSome.1⟩
        · rw [if_pos
            ((checkDailyLimit_iff w d).mpr hCrowded)]
          constructor
          · intro hSent
            exact ⟨hCrowded, Outcome.sent.inj hSent⟩
          · intro hSome
            exact congrArg Outcome.sent hSome.2

variable {δ : Type} [DecidableEq δ] (day : Nat → δ)

/- The notifications received are the ones wanted. -/
theorem countP_run
    (ds : List Dispatch)
    {w₀ : World}
    (hSame : SameRows w₀ w)
    (e : Dispatch) :
    (run stableHash w ds).countP
        (fun x => SameDay day x.1 e ∧ x.2 = .sent true) =
      (arrivals stableHash w.notifications ds).countP
        (fun x => SameDay day x e ∧ Wanted w₀ x) := by
  induction ds generalizing w with
  | nil => rfl
  | cons d rest ih =>
    have hRest := ih (fun userId =>
      (sameRows_step stableHash w d userId).trans
        (hSame userId))
    rw [run, List.countP_cons, hRest]
    rcases idle_or_arrives stableHash w d rest with
      hIdle | hArrives
    · rw [hIdle.arrivals_eq, if_neg, Nat.add_zero]
      rw [decide_eq_true_iff]
      intro hBoth
      exact hIdle.not_sent hBoth.2
    · rw [hArrives.arrivals_eq, List.countP_cons]
      simp only [hArrives.sent_iff, wanted_congr hSame]

omit [DecidableEq δ] in
/- The refused ones are the ones that find many rows. -/
theorem preceded_run
    (ds : List Dispatch)
    {w₀ : World}
    (hSame : SameRows w₀ w)
    {seen : List (Dispatch × Outcome)}
    {seen' : List Dispatch}
    (hSeen :
      ∀ x, (∃ y ∈ seen,
          SameDay day y.1 x ∧ y.2 = .sent true) ↔
        ∃ y ∈ seen', SameDay day y x ∧ Wanted w₀ y) :
    Preceded (fun x => x.2 = .refused)
        (fun y x => SameDay day y.1 x.1 ∧ y.2 = .sent true)
        seen (run stableHash w ds) ↔
      Preceded (Crowded w₀)
        (fun y x => SameDay day y x ∧ Wanted w₀ y)
        seen' (arrivals stableHash w.notifications ds) := by
  induction ds generalizing w seen seen' with
  | nil => exact Iff.rfl
  | cons d rest ih =>
    have hNext := fun userId =>
        (sameRows_step stableHash w d userId).trans
          (hSame userId)
    rw [run, Preceded]
    rcases idle_or_arrives stableHash w d rest with
      hIdle | hArrives
    · rw [hIdle.arrivals_eq]
      have hSeen' :
          ∀ x, (∃ y ∈ (d, (createNotificationOnce
              stableHash d w).2) :: seen,
              SameDay day y.1 x ∧ y.2 = .sent true) ↔
            ∃ y ∈ seen', SameDay day y x ∧
              Wanted w₀ y := by
        intro x
        rw [List.exists_mem_cons_iff, hSeen x]
        exact or_iff_right (fun hBoth =>
          hIdle.not_sent hBoth.2)
      rw [← ih hNext hSeen']
      exact and_iff_right (fun hRefused =>
        absurd hRefused hIdle.not_refused)
    · rw [hArrives.arrivals_eq, Preceded]
      have hSeen' :
          ∀ x, (∃ y ∈ (d, (createNotificationOnce
              stableHash d w).2) :: seen,
              SameDay day y.1 x ∧ y.2 = .sent true) ↔
            ∃ y ∈ d :: seen', SameDay day y x ∧
              Wanted w₀ y := by
        intro x
        rw [List.exists_mem_cons_iff,
          List.exists_mem_cons_iff, hSeen x,
          hArrives.sent_iff, wanted_congr hSame]
      rw [ih hNext hSeen', hSeen d]
      refine and_congr_left (fun _ => ?_)
      rw [← crowded_congr hSame, ← hArrives.refused_iff]

end

/-
  A run keeps the limit if and only if no user is sent more
  than that.
-/
theorem daily_limit_iff
    {δ : Type} [DecidableEq δ]
    (day : Nat → δ)
    (stableHash : String → String)
    (w : World)
    (ds : List Dispatch) :
    Limited day (run stableHash w ds) ↔
      Within day stableHash w ds := by
  have hSame : SameRows w w := fun _ => rfl
  have hNone :
      ∀ x, (∃ y ∈ ([] : List (Dispatch × Outcome)),
          SameDay day y.1 x ∧ y.2 = .sent true) ↔
        ∃ y ∈ ([] : List Dispatch),
          SameDay day y x ∧ Wanted w y := by
    intro x
    simp only [List.not_mem_nil, false_and, exists_false]
  have hFresh := preceded_run stableHash day ds hSame hNone
  constructor
  · intro hLimited
    refine ⟨?_, hFresh.mp hLimited.fresh⟩
    intro d
    rw [← countP_run stableHash day ds hSame]
    exact hLimited.bounded d
  · intro hWithin
    refine ⟨?_, hFresh.mpr hWithin.fresh⟩
    intro d
    rw [countP_run stableHash day ds hSame]
    exact hWithin.bounded d

/- A dispatch to a user with one device. -/
def greeting (claimId : String) : Dispatch where
  time := 0
  claimId := claimId
  userId := "ann"
  title := "Hello"
  body := ""
  tokens := [some "phone"]
  delivers := fun _ => true

/- A greeting with new ids is received. -/
theorem createNotificationOnce_greeting
    {claimId : String}
    {w : World}
    (hFew : ∀ d, ¬ Crowded w d)
    (hId :
      notificationRecordId id claimId ∉ w.notifications)
    (hClaim :
      claimId ∉ notificationRecordId id claimId ::
        w.notifications) :
    (createNotificationOnce id (greeting claimId)
        w).1.notifications =
        claimId :: notificationRecordId id claimId ::
          w.notifications ∧
      (createNotificationOnce id (greeting claimId) w).2 =
        .sent true := by
  have hRecord :
      createNotificationRecordOnce id (greeting claimId)
          w.notifications =
        some (notificationRecordId id claimId ::
          w.notifications) :=
    if_pos ⟨rfl, hId⟩
  have hOnce :
      claimNotificationOnce (greeting claimId)
          (notificationRecordId id claimId ::
            w.notifications) =
        some (claimId :: notificationRecordId id claimId ::
          w.notifications) :=
    if_pos ⟨rfl, hClaim⟩
  have hLimit :=
    (checkDailyLimit_iff w (greeting claimId)).mpr (hFew _)
  simp only [createNotificationOnce, claim, hRecord, hOnce,
    dispatchPush, hLimit, true_and]
  rfl

/- Greetings whose ids are all different are all received. -/
theorem run_greetings
    (claims : List String)
    {w : World}
    (hFew : ∀ d, ¬ Crowded w d)
    (hNew :
      (claims.flatMap (fun claimId =>
        [claimId, notificationRecordId id claimId]) ++
        w.notifications).Nodup) :
    run id w (claims.map greeting) =
      claims.map (fun claimId =>
        (greeting claimId, .sent true)) := by
  induction claims generalizing w with
  | nil => rfl
  | cons claimId rest ih =>
    simp only [List.flatMap_cons, List.cons_append,
      List.nil_append, List.nodup_cons, List.mem_cons,
      List.mem_append, not_or] at hNew
    obtain ⟨⟨hOther, hLater, hClaim⟩, ⟨hLater', hId⟩,
      hRest⟩ := hNew
    obtain ⟨hIds, hSent⟩ :=
      createNotificationOnce_greeting hFew hId
        (List.not_mem_cons_of_ne_of_not_mem hOther hClaim)
    rw [List.map_cons, run, hSent, List.map_cons, ih]
    · intro d
      rw [crowded_congr (sameRows_step id w _)]
      exact hFew d
    · rw [hIds]
      simp only [List.nodup_middle, List.nodup_cons,
        List.mem_cons, List.mem_append, not_or]
      exact ⟨⟨hLater, hOther, hClaim⟩, ⟨hLater', hId⟩, hRest⟩

def emptyWorld : World where
  notifications := []
  pending := ⟨[]⟩
  own := fun _ hMem => absurd hMem List.not_mem_nil

/- The claims of one more greeting than the limit. -/
def greetings : List Dispatch :=
  ["a", "b", "c", "d", "e", "f", "g", "h", "i", "j", "k",
    "l", "m", "n", "o", "p", "q", "r", "s", "t", "u"].map
    greeting

/- All of them are received on one day. -/
theorem greetings_not_limited :
    (run id emptyWorld greetings).map (·.2) =
        List.replicate 21 (.sent true) ∧
      ¬ Limited (fun time => time / 86400)
        (run id emptyWorld greetings) := by
  have hFew : ∀ d, ¬ Crowded emptyWorld d :=
    fun _ hCrowded => Nat.not_succ_le_zero 19 hCrowded.2
  rw [greetings, run_greetings _ hFew (by decide +kernel)]
  refine ⟨rfl, ?_⟩
  intro hLimited
  exact absurd (hLimited.bounded (greeting "a")) (by decide)

end Orignabase.Notifications
