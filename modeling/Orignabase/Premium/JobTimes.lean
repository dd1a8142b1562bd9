import Orignabase.Lib.Retry
import Orignabase.Premium.Jobs
import Orignabase.Store.Rules

/-
  What the jobs that act on times do before their time.

  Both jobs compare the decimal text of a second with the
  text of an instant, and so the first digits of the one with
  the year of the other.

  Key definitions include:
    * `JobRun`
    * `ExpiresInTime`
    * `KeptForRetention`

  Main results:
    * `jobs_in_time_iff`
-/

--------
-- Runs Of A Job
--------

namespace Orignabase.Premium

open Conc Handler Timestamp

abbrev Trace := List (Event Op.Res Answer)

/- The clock shows the given time. -/
def AtTime (t : Int) : StepCond Op.Res Answer Store :=
  fun _ o a _ => o = .utcNow → a.now = t

/- A run of the job at a time, whatever fails in it. -/
def JobRun
    (job : Handler Unit)
    (t : Int)
    (w w' : Store) : Prop :=
  ∃ tr r, Prog.Ends exec (AtTime t) [] w job tr w' r

variable {job : String} {r : Except Error Unit}

section

variable {cond : StepCond Op.Res Answer Store}
variable {tr tr' : Trace} {w w' : Store}

/- What is done under the lock is done by the body. -/
theorem ends_underCronLock
    {body : Handler Unit}
    (hEnds :
      Prog.Ends exec cond tr w (underCronLock job body) tr'
        w' r) :
    w' = w ∨ ∃ tr₁ tr₂ r₁,
        Prog.Ends exec cond tr₁ w body tr₂ w' r₁ := by
  rcases Prog.Ends.call_iff.mp hEnds with ⟨a, _, hEnds⟩
  rw [exec_quiet rfl] at hEnds
  change Prog.Ends exec cond _ w
      (if a.allowed = true then _ else ok ()) tr' w' r
    at hEnds
  split_ifs at hEnds
  · rcases Prog.Ends.bind_iff.mp hEnds with
      ⟨tr₁, w₁, r₁, hBody, hRest⟩
    rcases Prog.Ends.bind_iff.mp hRest with
      ⟨tr₂, w₂, r₂, hAlert, hRelease⟩
    have hSame : w₂ = w₁ := by
      cases r₁ with
      | ok _ => exact (Prog.Ends.ret_iff.mp hAlert).2.1
      | error _ =>
        rcases Prog.Ends.call_iff.mp hAlert with
          ⟨a', _, hAlert⟩
        rw [(Prog.Ends.ret_iff.mp hAlert).2.1,
          exec_quiet rfl]
    rcases Prog.Ends.call_iff.mp hRelease with
      ⟨a', _, hRelease⟩
    rw [(Prog.Ends.ret_iff.mp hRelease).2.1, exec_quiet rfl,
      hSame]
    exact Or.inr ⟨_, _, _, hBody⟩
  · exact Or.inl (Prog.Ends.ret_iff.mp hEnds).2.1

end

section

variable {t : Int} {β : Type} {tr tr' : Trace}
variable {w w' : Store}

/- The end of a job can be run after its body. -/
theorem closing_ends
    (r₁ : Except Error Unit)
    (job : String)
    (tr₁ : Trace) :
    ∃ (tr' : Trace) (r : Except Error Unit),
      Prog.Ends exec (AtTime t) tr₁ w'
        ((match r₁ with
          | .ok _ => ok ()
          | .error _ => Db.alertCronFailure job).bind
          fun _ =>
        (Db.releaseCronLock job).bind fun _ => ok ())
        tr' w' r := by
  cases r₁ with
  | ok _ =>
    exact ⟨_, _, Prog.Ends.call {} (by rintro ⟨⟩)
      (Prog.Ends.ret ..)⟩
  | error _ =>
    exact ⟨_, _, Prog.Ends.call {} (by rintro ⟨⟩)
      (Prog.Ends.call {} (by rintro ⟨⟩) (Prog.Ends.ret ..))⟩

/- A body that can be run is run under the lock. -/
theorem underCronLock_ends
    {body : Handler Unit}
    (r₁ : Except Error Unit)
    (job : String)
    (hBody :
      ∀ tr, ∃ tr',
        Prog.Ends exec (AtTime t) tr w body tr' w' r₁) :
    ∃ tr' r, Prog.Ends exec (AtTime t) tr w
        (underCronLock job body) tr' w' r := by
  rcases hBody (⟨.acquireCronLock job, {}, true⟩ :: tr) with
    ⟨tr₁, hBody⟩
  rcases closing_ends r₁ job tr₁ with ⟨tr', r, hRest⟩
  exact ⟨tr', r, Prog.Ends.call {} (by rintro ⟨⟩)
    (hBody.bind hRest)⟩

/- A job that reads at its time and acts on what it read. -/
def timedJob
    (job : String)
    (o : Int → Op)
    (rows : ∀ now, (o now).Res → Except Error β)
    (next : β → Handler Unit) : Handler Unit :=
  underCronLock job <|
  Db.utcNow.bind fun now =>
  (Prog.perform (o now)).bind fun r =>
  match rows now r with
  | .ok b => next b
  | .error e => fail e

theorem ends_timedJob
    {o : Int → Op}
    {rows : ∀ now, (o now).Res → Except Error β}
    {next : β → Handler Unit}
    (hQuiet : ∀ now, (o now).isQuiet = true)
    (hEnds :
      Prog.Ends exec (AtTime t) tr w
        (timedJob job o rows next) tr' w' r) :
    w' = w ∨ ∃ a b tr₁ tr₂ r₁,
        rows t (exec (o t) a w).1 = .ok b ∧
          Prog.Ends exec (AtTime t) tr₁ w (next b) tr₂ w'
            r₁ := by
  rcases ends_underCronLock hEnds with
    hSame | ⟨tr₁, tr₂, r₁, hBody⟩
  · exact Or.inl hSame
  · rcases Prog.Ends.call_iff.mp hBody with
      ⟨a, hTime, hBody⟩
    have hNow : a.now = t := hTime rfl
    rcases Prog.Ends.call_iff.mp hBody with ⟨a', _, hBody⟩
    change
      Prog.Ends exec (AtTime t) _ (exec (o a.now) a' w).2
        (match rows a.now (exec (o a.now) a' w).1 with
        | .ok b => next b
        | .error e => fail e) tr₂ w' r₁ at hBody
    rw [exec_quiet (hQuiet _), hNow] at hBody
    cases hRows : rows t (exec (o t) a' w).1 with
    | error e =>
      rw [hRows] at hBody
      exact Or.inl (Prog.Ends.ret_iff.mp hBody).2.1
    | ok b =>
      rw [hRows] at hBody
      exact Or.inr ⟨a', b, _, _, _, hRows, hBody⟩

theorem timedJob_ends
    {o : Int → Op}
    {rows : ∀ now, (o now).Res → Except Error β}
    {next : β → Handler Unit}
    {a : Answer}
    {b : β}
    (r₁ : Except Error Unit)
    (hQuiet : ∀ now, (o now).isQuiet = true)
    (hNotClock : o t ≠ .utcNow)
    (hRows : rows t (exec (o t) a w).1 = .ok b)
    (hNext :
      ∀ tr, ∃ tr',
        Prog.Ends exec (AtTime t) tr w (next b) tr' w' r₁) :
    JobRun (timedJob job o rows next) t w w' := by
  apply underCronLock_ends r₁
  intro tr
  rcases hNext (⟨o t, a, (exec (o t) a w).1⟩ ::
        ⟨.utcNow, { now := t }, t⟩ :: tr) with
    ⟨tr', hNext⟩
  refine ⟨tr', Prog.Ends.call { now := t } (fun _ => rfl)
    (Prog.Ends.call a (fun h => absurd h hNotClock) ?_)⟩
  change Prog.Ends exec (AtTime t) _ (exec (o t) a w).2
      (match rows t (exec (o t) a w).1 with
      | .ok b => next b
      | .error e => fail e) tr' w' r₁
  rw [exec_quiet (hQuiet _), hRows]
  exact hNext

theorem syncExpiredSubscriptions_eq :
    syncExpiredSubscriptions =
      timedJob "sync_expired_subscriptions"
        (fun now => .expiredSubscriptions (toRfc3339 now))
        (fun _ r => r) expireAll :=
  rfl

theorem cleanupStaleWebhookEvents_eq :
    cleanupStaleWebhookEvents =
      timedJob "cleanup_stale_webhook_events"
        (fun now =>
          .staleWebhookEvents (toRfc3339 (now - retention)))
        (fun _ r => r) deleteAll :=
  rfl

end

--------
-- Ids
--------

/- The id of a user: not blank and without a colon. -/
def IsPlain (id : String) : Prop :=
  id ≠ "" ∧ ':' ∉ id.toList

instance (id : String) : Decidable (IsPlain id) :=
  inferInstanceAs (Decidable (_ ∧ _))

theorem IsPlain.normalizeRecordId
    {id : String}
    (hPlain : IsPlain id) :
    normalizeRecordId id = id := by
  unfold Premium.normalizeRecordId
  rw [if_neg]
  simpa using hPlain.2

theorem IsPlain.docId
    {id : String}
    (hPlain : IsPlain id)
    (collection : String) :
    docId collection id = id := by
  unfold Orignabase.docId Text.stripPrefix
  rw [if_neg]
  · rfl
  · intro hHead
    apply hPlain.2
    apply (List.isPrefixOf_iff_prefix.mp hHead).subset
    simp

--------
-- Expired Subscriptions
--------

/- The documents of a user are as they were. -/
def Unchanged (w w' : Store) (uid : String) : Prop :=
  w'.subscriptions.get uid = w.subscriptions.get uid ∧
    w'.users.get uid = w.users.get uid

/- An operation on the documents of other users only. -/
def Op.Avoids (uid : String) : Op → Prop
  | .updateUser id _ => docId "users" id ≠ uid
  | .updateSubscription id _ =>
    docId "subscriptions" id ≠ uid
  | o => o.isQuiet = true

variable {o : Op} {uid : String} {w : Store} {t : Int}

theorem unchanged_exec
    (hAvoids : o.Avoids uid)
    (a : Answer)
    (w : Store) :
    Unchanged w (exec o a w).2 uid := by
  cases o with
  | updateUser id patch =>
    simp only [exec, Answer.guard]
    split_ifs
    · exact ⟨rfl, rfl⟩
    · exact ⟨rfl,
        Table.get_modify_of_ne _ (Ne.symm hAvoids) _⟩
    · exact ⟨rfl, rfl⟩
  | updateSubscription id patch =>
    simp only [exec, Answer.guard]
    split_ifs
    · exact ⟨rfl, rfl⟩
    · exact ⟨Table.get_modify_of_ne _ (Ne.symm hAvoids) _,
        rfl⟩
    · exact ⟨rfl, rfl⟩
  | _ =>
    rw [exec_quiet hAvoids]
    exact ⟨rfl, rfl⟩

theorem avoids_expireAll
    {rows : List (String × Subscription)}
    (hRows : ∀ row ∈ rows, IsPlain row.1 ∧ row.1 ≠ uid) :
    (expireAll rows).Uses (Op.Avoids uid) := by
  induction rows with
  | nil => trivial
  | cons row rest ih =>
    rcases hRows row List.mem_cons_self with
      ⟨hPlain, hOther⟩
    have hRest := ih (fun r hMem =>
      hRows r (List.mem_cons_of_mem _ hMem))
    unfold expireAll
    simp only [hPlain.normalizeRecordId, hPlain.1, if_false]
    refine ⟨?_, fun _ => ⟨?_, fun _ => hRest⟩⟩
    · simp only [Op.Avoids, hPlain.docId]
      exact hOther
    · simp only [Op.Avoids, hPlain.docId]
      exact hOther

/- The subscription of the user is marked as expired. -/
def IsMarked (w : Store) (uid : String) : Prop :=
  ∃ doc, w.subscriptions.get uid = some doc ∧
    doc.status = some Status.expired.asStr

/- An operation of the job on expired subscriptions. -/
def Op.expires : Op → Prop
  | .updateSubscription _ patch => patch = expirePatch
  | .updateUser .. => True
  | _ => False

theorem expires_expireAll
    (rows : List (String × Subscription)) :
    (expireAll rows).Uses Op.expires := by
  induction rows with
  | nil => trivial
  | cons row rest ih =>
    unfold expireAll
    simp only
    split_ifs
    · exact ih
    · exact ⟨rfl, fun _ => ⟨trivial, fun _ => ih⟩⟩

theorem isMarked_exec
    (hOp : o.expires)
    (a : Answer)
    (hMarked : IsMarked w uid) :
    IsMarked (exec o a w).2 uid := by
  cases o with
  | updateUser id patch =>
    simp only [exec, Answer.guard]
    split_ifs
    · exact hMarked
    · exact hMarked
    · exact hMarked
  | updateSubscription id patch =>
    cases hOp
    simp only [exec, Answer.guard]
    split_ifs
    · exact hMarked
    · rcases hMarked with ⟨doc, hGet, hStatus⟩
      unfold IsMarked
      simp only [Table.get_modify, hGet, Option.map_some]
      split_ifs
      · exact ⟨_, rfl, rfl⟩
      · exact ⟨doc, rfl, hStatus⟩
    · exact hMarked
  | _ => exact absurd hOp id

theorem isSome_exec
    (hOp : o.expires)
    (a : Answer)
    (w : Store)
    (uid : String) :
    ((exec o a w).2.subscriptions.get uid).isSome =
      (w.subscriptions.get uid).isSome := by
  cases o with
  | updateUser id patch =>
    simp only [exec, Answer.guard]
    split_ifs <;> rfl
  | updateSubscription id patch =>
    simp only [exec, Answer.guard]
    split_ifs
    · rfl
    · rw [Table.get_modify]
      split_ifs
      · rw [Option.isSome_map]
      · rfl
    · rfl
  | _ => exact absurd hOp id

/- The clock shows the time, and no statement fails. -/
def Smooth (t : Int) : StepCond Op.Res Answer Store :=
  fun tr o a w => AtTime t tr o a w ∧ a.fault = false

theorem smooth_ends
    {α : Type}
    (t : Int)
    (p : Prog Op.Res α)
    (w : Store) :
    ∃ tr' w' r, Prog.Ends exec (Smooth t) [] w p tr' w' r :=
  Prog.Ends.exists
    (fun _ _ _ => ⟨{ now := t }, fun _ => rfl, rfl⟩) p [] w

/- Without failures, every listed subscription is marked. -/
theorem isMarked_expireAll
    {rows : List (String × Subscription)}
    {tr tr' : Trace}
    {w' : Store}
    (hPlain : IsPlain uid)
    (hMem : uid ∈ rows.map Prod.fst)
    (hStored : (w.subscriptions.get uid).isSome = true)
    (hEnds :
      Prog.Ends exec (Smooth t) tr w (expireAll rows) tr' w'
        r) :
    IsMarked w' uid := by
  induction rows generalizing tr w with
  | nil => exact absurd hMem List.not_mem_nil
  | cons row rest ih =>
    unfold expireAll at hEnds
    simp only at hEnds
    by_cases hHead : row.1 = uid
    · rw [hHead, hPlain.normalizeRecordId,
        if_neg hPlain.1] at hEnds
      rcases Prog.Ends.call_iff.mp hEnds with
        ⟨a, hAns, hEnds⟩
      have hMarked :
          IsMarked
            (exec (.updateSubscription uid expirePatch) a
              w).2 uid := by
        rcases Option.isSome_iff_exists.mp hStored with
          ⟨doc, hDoc⟩
        refine ⟨expirePatch.apply doc, ?_, rfl⟩
        simp [exec, Answer.guard, hAns.2, hPlain.docId,
          hDoc]
      rcases Prog.Ends.call_iff.mp hEnds with ⟨a', _, hEnds⟩
      exact Prog.Ends.preserves (I := (IsMarked · uid))
        (expires_expireAll rest)
        (fun o a w hOp => isMarked_exec hOp a) hEnds
        (isMarked_exec (o := .updateUser uid revokePatch)
          trivial a' hMarked)
    · have hRest : uid ∈ rest.map Prod.fst := by
        simpa [Ne.symm hHead] using hMem
      split_ifs at hEnds with hBlank
      · exact ih hRest hStored hEnds
      · rcases Prog.Ends.call_iff.mp hEnds with
          ⟨a, _, hEnds⟩
        rcases Prog.Ends.call_iff.mp hEnds with
          ⟨a', _, hEnds⟩
        refine ih hRest ?_ hEnds
        rw [isSome_exec (o := .updateUser ..) trivial,
          isSome_exec (o := .updateSubscription ..) rfl]
        exact hStored

/- The subscription of a user, with plain ids throughout. -/
structure IsSubscription
    (w : Store)
    (uid : String)
    (doc : Subscription)
    (periodEnd : ℕ) : Prop where
  stored : w.subscriptions.get uid = some doc
  period : doc.currentPeriodEnd = some (periodEnd : Int)
  keys : w.subscriptions.keys.Nodup
  plain : ∀ row ∈ w.subscriptions.rows, IsPlain row.1

namespace IsSubscription

variable {w : Store} {uid : String} {doc : Subscription}
variable {periodEnd : ℕ}

theorem isPlain
    (h : IsSubscription w uid doc periodEnd) :
    IsPlain uid :=
  h.plain _ (Table.mem_of_get h.stored)

end IsSubscription

theorem mem_limited
    {V : Type}
    {n : ℕ}
    {first : List String}
    {rows : List (String × V)}
    {row : String × V}
    (hMem : row ∈ limited n first rows) :
    row ∈ rows := by
  have hEither := List.mem_of_mem_take hMem
  rcases List.mem_append.mp hEither with hIn | hIn
  · exact (List.mem_filter.mp hIn).1
  · exact (List.mem_filter.mp hIn).1

/- A row can come first. -/
theorem mem_limited_first
    {V : Type}
    {n : ℕ}
    {rows : List (String × V)}
    {row : String × V}
    (hMem : row ∈ rows) :
    row.1 ∈ (limited (n + 1) [row.1] rows).map Prod.fst := by
  have hIn :
      row ∈ rows.filter (fun r => [row.1].contains r.1) :=
    List.mem_filter.mpr ⟨hMem, by simp⟩
  unfold limited
  cases hHead :
      rows.filter (fun r => [row.1].contains r.1) with
  | nil =>
    rw [hHead] at hIn
    exact absurd hIn List.not_mem_nil
  | cons found rest =>
    have hFound :
        found ∈
          rows.filter (fun r => [row.1].contains r.1) := by
      rw [hHead]
      exact List.mem_cons_self
    have hSame : found.1 = row.1 := by
      simpa using (List.mem_filter.mp hFound).2
    rw [List.cons_append, List.take_succ_cons,
      List.map_cons, hSame]
    exact List.mem_cons_self

/-
  A run at a time leaves a subscription alone unless its
  period is over by the comparison of texts.
-/
theorem unchanged_of_not_isExpired
    {w' : Store}
    {doc : Subscription}
    {periodEnd : ℕ}
    (hDoc : IsSubscription w uid doc periodEnd)
    (hNot : doc.isExpired (toRfc3339 t) = false)
    (hRun : JobRun syncExpiredSubscriptions t w w') :
    Unchanged w w' uid := by
  rcases hRun with ⟨tr, r, hEnds⟩
  rw [syncExpiredSubscriptions_eq] at hEnds
  rcases ends_timedJob (fun _ => rfl) hEnds with
    rfl | ⟨a, rows, tr₁, tr₂, r₁, hRows, hEnds⟩
  · exact ⟨rfl, rfl⟩
  · have hOthers :
        ∀ row ∈ rows, IsPlain row.1 ∧ row.1 ≠ uid := by
      intro row hMem
      simp only [exec, Answer.guard] at hRows
      split_ifs at hRows
      cases hRows
      rcases List.mem_filter.mp (mem_limited hMem) with
        ⟨hRow, hExpired⟩
      refine ⟨hDoc.plain row hRow, ?_⟩
      rintro rfl
      have hGet := Table.get_of_mem hDoc.keys hRow
      rw [hDoc.stored, Option.some.injEq] at hGet
      rw [hGet, hExpired] at hNot
      cases hNot
    exact Prog.Ends.preserves (I := (Unchanged w · uid))
      (avoids_expireAll hOthers)
      (fun o a w₁ hOp hSame => by
        have hNext := unchanged_exec hOp a w₁
        exact ⟨hNext.1.trans hSame.1,
          hNext.2.trans hSame.2⟩) hEnds ⟨rfl, rfl⟩

/- Otherwise some run marks it. -/
theorem isMarked_of_isExpired
    {doc : Subscription}
    {periodEnd : ℕ}
    (hDoc : IsSubscription w uid doc periodEnd)
    (hExpired : doc.isExpired (toRfc3339 t) = true) :
    ∃ w', JobRun syncExpiredSubscriptions t w w' ∧
        IsMarked w' uid := by
  have hMem :
      (uid, doc) ∈ w.subscriptions.rows.filter (fun row =>
          row.2.isExpired (toRfc3339 t)) :=
    List.mem_filter.mpr
      ⟨Table.mem_of_get hDoc.stored, hExpired⟩
  have hListed := mem_limited_first (n := 49) hMem
  rcases smooth_ends t (expireAll (limited 50 [uid]
          (w.subscriptions.rows.filter (fun row =>
            row.2.isExpired (toRfc3339 t))))) w with
    ⟨tr', w', r, hEnds⟩
  refine ⟨w', ?_, isMarked_expireAll hDoc.isPlain hListed
    (by rw [hDoc.stored]; rfl) hEnds⟩
  rw [syncExpiredSubscriptions_eq]
  refine timedJob_ends (a := { first := [uid] }) r
    (fun _ => rfl) (fun h => nomatch h) rfl ?_
  intro tr
  exact (hEnds.of_cond (fun _ _ _ _ h => h.1)).rebase
    (fun _ _ _ _ _ h => h) tr

/-
  No run up to the end of the period changes the documents of
  the user, and some run after it marks the subscription.
-/
structure ExpiresInTime
    (w : Store)
    (uid : String)
    (periodEnd : ℕ) : Prop where
  before :
    ∀ t w', t ≤ periodEnd * nanosPerSecond →
      JobRun syncExpiredSubscriptions t w w' →
        Unchanged w w' uid
  after :
    ∃ t w', periodEnd * nanosPerSecond < t ∧
      JobRun syncExpiredSubscriptions t w w' ∧
      IsMarked w' uid

/- The status that the job looks for. -/
def Subscription.isOpen (doc : Subscription) : Bool :=
  doc.status.any (["active", "past_due"].contains ·)

section

variable {w : Store} {uid : String} {doc : Subscription}
variable {periodEnd : ℕ}

theorem isExpired_iff
    (hPeriod : doc.currentPeriodEnd = some (periodEnd : Int))
    (t : Int) :
    doc.isExpired (toRfc3339 t) = true ↔
      Text.lt (toString periodEnd) (toRfc3339 t) = true ∧
        doc.isOpen = true := by
  unfold Subscription.isExpired fieldText
  rw [hPeriod, Option.map_some, Option.any_some,
    Bool.and_eq_true]
  rfl

theorem Unchanged.status
    {w' : Store}
    (hStored : w.subscriptions.get uid = some doc)
    (hSame : Unchanged w w' uid)
    (hMarked : IsMarked w' uid) :
    doc.status = some Status.expired.asStr := by
  rcases hMarked with ⟨doc', hGet, hStatus⟩
  rw [hSame.1, hStored, Option.some.injEq] at hGet
  rw [hGet]
  exact hStatus

theorem not_isOpen_of_expired
    (hStatus : doc.status = some Status.expired.asStr) :
    doc.isOpen = false := by
  unfold Subscription.isOpen
  rw [hStatus]
  decide

theorem expiresInTime_iff
    (hDoc : IsSubscription w uid doc periodEnd) :
    ExpiresInTime w uid periodEnd ↔
      doc.status = some Status.expired.asStr ∨
        doc.isOpen = true ∧
          yearOf (periodEnd * nanosPerSecond) <
            leadYear periodEnd ∧
          leadYear periodEnd ≤ 9999 := by
  have hExpired := isExpired_iff hDoc.period
  constructor
  · intro hInTime
    by_cases hStatus :
        doc.status = some Status.expired.asStr
    · exact Or.inl hStatus
    right
    rcases hInTime.after with ⟨t, w', _, hRun, hMarked⟩
    have hDue : doc.isExpired (toRfc3339 t) = true := by
      by_contra hNot
      apply hStatus
      exact Unchanged.status hDoc.stored
        (unchanged_of_not_isExpired hDoc (by simpa using hNot)
          hRun) hMarked
    rcases (hExpired t).mp hDue with ⟨hBefore, hOpen⟩
    have hFour := (decimal_lt_rfc3339_iff _ _).mp hBefore
    have hNever :
        ∀ t' ≤ (periodEnd : Int) * nanosPerSecond,
          ¬ Text.lt (toString periodEnd) (toRfc3339 t') =
            true := by
      intro t' hLe hEarly
      rcases isMarked_of_isExpired hDoc
          ((hExpired t').mpr ⟨hEarly, hOpen⟩) with
        ⟨w'', hRun', hMarked'⟩
      exact hStatus (Unchanged.status hDoc.stored
        (hInTime.before t' w'' hLe hRun') hMarked')
    rw [never_before_iff] at hNever
    exact ⟨hOpen, by omega, by omega⟩
  · rintro (hStatus | ⟨hOpen, hYear, hFour⟩)
    · have hNot :
          ∀ t, doc.isExpired (toRfc3339 t) = false := by
        intro t
        rw [← Bool.not_eq_true, hExpired,
          not_isOpen_of_expired hStatus]
        simp
      constructor
      · intro t w' _ hRun
        exact unchanged_of_not_isExpired hDoc (hNot t) hRun
      · rcases smooth_ends (periodEnd * nanosPerSecond + 1)
            syncExpiredSubscriptions w with
          ⟨tr, w', r, hEnds⟩
        have hRun :
            JobRun syncExpiredSubscriptions
              (periodEnd * nanosPerSecond + 1) w w' :=
          ⟨tr, r, hEnds.of_cond (fun _ _ _ _ h => h.1)⟩
        have hSame :=
          unchanged_of_not_isExpired hDoc (hNot _) hRun
        exact ⟨_, w', by omega, hRun, doc,
          by rw [hSame.1, hDoc.stored], hStatus⟩
    · constructor
      · intro t w' hLe hRun
        apply unchanged_of_not_isExpired hDoc _ hRun
        rw [← Bool.not_eq_true, hExpired]
        exact fun h =>
          (never_before_iff _ _).mpr (Or.inl hYear) t hLe h.1
      · rcases once_before hYear hFour with
          ⟨hLater, hBefore⟩
        rcases isMarked_of_isExpired hDoc
            ((hExpired _).mpr ⟨hBefore, hOpen⟩) with
          ⟨w', hRun, hMarked⟩
        exact ⟨lastInstant, w', hLater, hRun, hMarked⟩

end

--------
-- Webhook Events
--------

/- An event that was stored at an instant. -/
structure IsStored
    (w : Store)
    (id : String)
    (stored : ℕ) : Prop where
  record :
    w.webhookEvents.get id = some ⟨secondOf stored⟩
  keys : w.webhookEvents.keys.Nodup
  bareKeys :
    ∀ row ∈ w.webhookEvents.rows,
      docId "webhook_events" row.1 = row.1
  size : id ≠ "" ∧ id.utf8ByteSize ≤ 512

/- A delivery without failures is taken for a duplicate. -/
def IsDuplicate (w : Store) (id : String) : Prop :=
  ∀ t tr w' r, Prog.Ends exec (Smooth t) [] w
        (tryStoreWebhookEventAtomic id) tr w' r →
      r = .ok false

/-
  Every run before the end of the retention period keeps the
  event, so that a delivery after it is a duplicate.
-/
def KeptForRetention
    (w : Store)
    (id : String)
    (stored : ℕ) : Prop :=
  ∀ t w', t < stored + retention →
    JobRun cleanupStaleWebhookEvents t w w' →
      w'.webhookEvents.get id = w.webhookEvents.get id ∧
        IsDuplicate w' id

section

variable {w w' : Store} {id : String} {stored : ℕ}

theorem exec_createWebhookEvent
    {a : Answer}
    (hAns : a.fault = false)
    (timestamp : Int) :
    exec (.createWebhookEvent id timestamp) a w =
      if (w.webhookEvents.get id).isSome then (.ok false, w)
      else
        (.ok true,
          { w with
            webhookEvents :=
              w.webhookEvents.insert id ⟨timestamp⟩ }) := by
  simp only [exec, Answer.guard, hAns, Bool.false_eq_true,
    if_false]
  rfl

variable {tr : Trace} {t : Int}

/- A delivery of a valid id ends with one statement. -/
theorem ends_tryStore
    {cond : StepCond Op.Res Answer Store}
    {tr' : Trace}
    {r : Except Error Bool}
    (hSize : id ≠ "" ∧ id.utf8ByteSize ≤ 512)
    (hEnds :
      Prog.Ends exec cond tr w
        (tryStoreWebhookEventAtomic id) tr' w' r) :
    ∃ a₀ a tr₁, cond tr .utcNow a₀ w ∧ cond tr₁
          (.createWebhookEvent id (secondOf a₀.now)) a w ∧
        (r, w') =
          exec (.createWebhookEvent id (secondOf a₀.now)) a
            w := by
  rcases Prog.Ends.call_iff.mp hEnds with ⟨a, hNow, hEnds⟩
  have hCheck :
      (decide (id ≠ "") && decide (id.utf8ByteSize ≤ 512)) =
        true := by
    simp [hSize.1, hSize.2]
  change Prog.Ends exec cond _ w (require
        (decide (id ≠ "") && decide (id.utf8ByteSize ≤ 512))
        _ (Db.createWebhookEvent id (secondOf a.now))) tr' w'
      r at hEnds
  rw [hCheck] at hEnds
  rcases Prog.Ends.call_iff.mp hEnds with ⟨a', hAns, hEnds⟩
  rcases Prog.Ends.ret_iff.mp hEnds with ⟨_, rfl, rfl⟩
  exact ⟨a, a', _, hNow, hAns, rfl⟩

/- An event is a duplicate exactly if it is stored. -/
theorem isDuplicate_iff
    (hSize : id ≠ "" ∧ id.utf8ByteSize ≤ 512) :
    IsDuplicate w id ↔
      (w.webhookEvents.get id).isSome = true := by
  constructor
  · intro hDuplicate
    rcases smooth_ends 0 (tryStoreWebhookEventAtomic id) w
      with ⟨tr, w', r, hEnds⟩
    have hFalse := hDuplicate 0 tr w' r hEnds
    rcases ends_tryStore hSize hEnds with
      ⟨a₀, a, tr₁, _, hAns, hOut⟩
    rw [exec_createWebhookEvent hAns.2] at hOut
    by_contra hNone
    rw [if_neg hNone, hFalse] at hOut
    cases hOut
  · intro hSome t tr w' r hEnds
    rcases ends_tryStore hSize hEnds with
      ⟨a₀, a, tr₁, _, hAns, hOut⟩
    rw [exec_createWebhookEvent hAns.2, if_pos hSome] at hOut
    exact congrArg Prod.fst hOut

/- An operation on other events only. -/
def Op.Spares (id : String) : Op → Prop
  | .deleteWebhookEvent other =>
    docId "webhook_events" other ≠ id
  | o => o.isQuiet = true

theorem webhookEvents_exec
    {o : Op}
    (hSpares : o.Spares id)
    (a : Answer)
    (w : Store) :
    (exec o a w).2.webhookEvents.get id =
      w.webhookEvents.get id := by
  cases o with
  | deleteWebhookEvent other =>
    simp only [exec, Answer.guard]
    split_ifs
    · rfl
    · rw [Table.get_erase, if_neg (Ne.symm hSpares)]
    · rfl
  | _ => rw [exec_quiet hSpares]

theorem spares_deleteAll
    {ids : List String}
    (hIds :
      ∀ other ∈ ids, docId "webhook_events" other ≠ id) :
    (deleteAll ids).Uses (Op.Spares id) := by
  induction ids with
  | nil => trivial
  | cons other rest ih =>
    have hRest := ih (fun x hMem =>
      hIds x (List.mem_cons_of_mem _ hMem))
    unfold deleteAll
    split_ifs
    · exact hRest
    · exact ⟨hIds other List.mem_cons_self, fun _ => hRest⟩

/- A run keeps an event that is not stale by its texts. -/
theorem kept_of_not_isStale
    (hEvent : IsStored w id stored)
    (hNot :
      StoredEvent.isStale ⟨secondOf stored⟩
        (toRfc3339 (t - retention)) = false)
    (hRun : JobRun cleanupStaleWebhookEvents t w w') :
    w'.webhookEvents.get id = w.webhookEvents.get id := by
  rcases hRun with ⟨tr, r, hEnds⟩
  rw [cleanupStaleWebhookEvents_eq] at hEnds
  rcases ends_timedJob (fun _ => rfl) hEnds with
    rfl | ⟨a, ids, tr₁, tr₂, r₁, hIds, hEnds⟩
  · rfl
  · have hOthers :
        ∀ other ∈ ids,
          docId "webhook_events" other ≠ id := by
      intro other hMem
      simp only [exec, Answer.guard] at hIds
      split_ifs at hIds
      cases hIds
      rcases List.mem_map.mp hMem with ⟨row, hRow, rfl⟩
      rcases List.mem_filter.mp (mem_limited hRow) with
        ⟨hRow, hStale⟩
      rw [hEvent.bareKeys row hRow]
      rintro rfl
      have hGet := Table.get_of_mem hEvent.keys hRow
      rw [hEvent.record, Option.some.injEq] at hGet
      rw [hGet, hStale] at hNot
      cases hNot
    exact Prog.Ends.preserves (I := fun x =>
        x.webhookEvents.get id = w.webhookEvents.get id)
      (spares_deleteAll hOthers)
      (fun o a w₁ hOp hSame =>
        (webhookEvents_exec hOp a w₁).trans hSame) hEnds rfl

/- Without failures, every listed event is removed. -/
theorem removed_deleteAll
    {ids : List String}
    {tr' : Trace}
    {r : Except Error Unit}
    (hBlank : id ≠ "")
    (hBare : docId "webhook_events" id = id)
    (hMem : id ∈ ids ∨ w.webhookEvents.get id = none)
    (hEnds :
      Prog.Ends exec (Smooth t) tr w (deleteAll ids) tr' w'
        r) :
    w'.webhookEvents.get id = none := by
  induction ids generalizing tr w with
  | nil =>
    rw [(Prog.Ends.ret_iff.mp hEnds).2.1]
    exact hMem.resolve_left List.not_mem_nil
  | cons other rest ih =>
    unfold deleteAll at hEnds
    split_ifs at hEnds with hEmpty
    · apply ih _ hEnds
      rcases hMem with hMem | hNone
      · left
        rcases List.mem_cons.mp hMem with rfl | hRest
        · exact absurd hEmpty hBlank
        · exact hRest
      · exact Or.inr hNone
    · rcases Prog.Ends.call_iff.mp hEnds with
        ⟨a, hAns, hEnds⟩
      apply ih _ hEnds
      by_cases hSame : docId "webhook_events" other = id
      · right
        simp only [exec, Answer.guard, hAns.2,
          Bool.false_eq_true, if_false, hSame]
        split_ifs with hSome
        · rw [Table.get_erase, if_pos rfl]
        · simpa using hSome
      · rcases hMem with hMem | hNone
        · left
          rcases List.mem_cons.mp hMem with rfl | hRest
          · exact absurd hBare hSame
          · exact hRest
        · right
          rw [webhookEvents_exec
            (o := .deleteWebhookEvent other) hSame]
          exact hNone

/- Otherwise some run removes it. -/
theorem removed_of_isStale
    (hEvent : IsStored w id stored)
    (hStale :
      StoredEvent.isStale ⟨secondOf stored⟩
        (toRfc3339 (t - retention)) = true) :
    ∃ w', JobRun cleanupStaleWebhookEvents t w w' ∧
        w'.webhookEvents.get id = none := by
  have hRow := Table.mem_of_get hEvent.record
  have hMem :
      (id, StoredEvent.mk (secondOf stored)) ∈
        w.webhookEvents.rows.filter (fun row =>
          row.2.isStale (toRfc3339 (t - retention))) :=
    List.mem_filter.mpr ⟨hRow, hStale⟩
  have hListed := mem_limited_first (n := 499) hMem
  rcases smooth_ends t (deleteAll ((limited 500 [id]
          (w.webhookEvents.rows.filter (fun row =>
            row.2.isStale
              (toRfc3339 (t - retention))))).map (·.1))) w
    with ⟨tr', w', r, hEnds⟩
  refine ⟨w', ?_, removed_deleteAll hEvent.size.1
    (hEvent.bareKeys _ hRow) (Or.inl hListed) hEnds⟩
  rw [cleanupStaleWebhookEvents_eq]
  refine timedJob_ends (a := { first := [id] }) r
    (fun _ => rfl) (fun h => nomatch h) rfl ?_
  intro tr
  exact (hEnds.of_cond (fun _ _ _ _ h => h.1)).rebase
    (fun _ _ _ _ _ h => h) tr

theorem isStale_iff (stored : ℕ) (cutoff : Int) :
    StoredEvent.isStale ⟨secondOf stored⟩
        (toRfc3339 cutoff) = true ↔
      Text.lt (toString (stored / 1000000000))
        (toRfc3339 cutoff) = true := by
  rw [← decimal_le_rfc3339]
  have hSecond :
      secondOf stored = ((stored / 1000000000 : ℕ) : Int) := by
    simp [secondOf, nanosPerSecond]
  unfold StoredEvent.isStale
  rw [hSecond]
  rfl

theorem keptForRetention_iff
    (hEvent : IsStored w id stored) :
    KeptForRetention w id stored ↔ yearOf (stored - 1) <
          leadYear (stored / 1000000000) ∨
        9999 < leadYear (stored / 1000000000) := by
  rw [← never_before_iff]
  constructor
  · intro hKept cutoff hLe hBefore
    have hShift : cutoff + retention - retention = cutoff := by
      omega
    rcases removed_of_isStale (t := cutoff + retention)
        hEvent (by rw [hShift, isStale_iff]; exact hBefore)
      with ⟨w', hRun, hNone⟩
    have hSame :=
      (hKept (cutoff + retention) w' (by omega) hRun).1
    rw [hNone, hEvent.record] at hSame
    cases hSame
  · intro hNever t w' hEarly hRun
    have hNot :
        StoredEvent.isStale ⟨secondOf stored⟩
          (toRfc3339 (t - retention)) = false := by
      rw [← Bool.not_eq_true, isStale_iff]
      exact hNever (t - retention) (by omega)
    have hSame := kept_of_not_isStale hEvent hNot hRun
    refine ⟨hSame, (isDuplicate_iff hEvent.size).mpr ?_⟩
    rw [hSame, hEvent.record]
    rfl

/- What the first delivery at an instant stores. -/
theorem isStored_of_tryStore
    (hKeys : w.webhookEvents.keys.Nodup)
    (hBare :
      ∀ row ∈ w.webhookEvents.rows,
        docId "webhook_events" row.1 = row.1)
    (hId : docId "webhook_events" id = id)
    (hSize : id ≠ "" ∧ id.utf8ByteSize ≤ 512)
    (hEnds :
      Prog.Ends exec (Smooth stored) [] w
        (tryStoreWebhookEventAtomic id) tr w' (.ok true)) :
    IsStored w' id stored := by
  rcases ends_tryStore hSize hEnds with
    ⟨a₀, a, tr₁, hNow, hAns, hOut⟩
  rw [exec_createWebhookEvent hAns.2, hNow.1 rfl] at hOut
  split_ifs at hOut with hSome
  · cases hOut
  · have hNone : w.webhookEvents.get id = none := by
      simpa using hSome
    have hWorld := congrArg Prod.snd hOut
    simp only at hWorld
    subst hWorld
    have hKeys' :
        (w.webhookEvents.keys ++ [id]).Nodup := by
      rw [← List.concat_eq_append]
      exact hKeys.concat
        (Table.not_mem_keys_of_get_eq_none hNone)
    constructor
    · rw [Table.get_insert, hNone, if_pos rfl]
      rfl
    · simpa [Table.keys, Table.insert] using hKeys'
    · intro row hRow
      rcases List.mem_append.mp hRow with hOld | hNew
      · exact hBare row hOld
      · rw [List.mem_singleton.mp hNew]
        exact hId
    · exact hSize

end

--------
-- Both Jobs
--------

/-
  The jobs act in time exactly if the first digits of the
  stored second are late enough for the years of the runs;
  and a delivery stores the second of its instant.
-/
theorem jobs_in_time_iff
    (w : Store)
    (uid : String)
    (doc : Subscription)
    (periodEnd : ℕ)
    (id : String)
    (stored : ℕ)
    (hDoc : IsSubscription w uid doc periodEnd)
    (hEvent : IsStored w id stored) :
    (ExpiresInTime w uid periodEnd ↔
      doc.status = some Status.expired.asStr ∨
        doc.isOpen = true ∧
          yearOf (periodEnd * nanosPerSecond) <
            leadYear periodEnd ∧
          leadYear periodEnd ≤ 9999) ∧
    (KeptForRetention w id stored ↔
      yearOf (stored - 1) < leadYear (stored / 1000000000) ∨
        9999 < leadYear (stored / 1000000000)) ∧
    ∀ (v v' : Store) (new : String) (time : ℕ) (tr : Trace),
      v.webhookEvents.keys.Nodup →
      (∀ row ∈ v.webhookEvents.rows,
        docId "webhook_events" row.1 = row.1) →
      docId "webhook_events" new = new →
      new ≠ "" ∧ new.utf8ByteSize ≤ 512 →
      Prog.Ends exec (Smooth time) [] v
        (tryStoreWebhookEventAtomic new) tr v' (.ok true) →
      IsStored v' new time := by
  refine ⟨expiresInTime_iff hDoc, keptForRetention_iff hEvent,
    ?_⟩
  intro v v' new time tr hKeys hBare hNew hSize hEnds
  exact isStored_of_tryStore hKeys hBare hNew hSize hEnds

/- A period until 2036, and an event of that time. -/
def lateStore : Store where
  users := ⟨[("u1", { isPremium := true })]⟩
  subscriptions := ⟨[("u1",
      { buyerId := "u1"
        status := some "active"
        currentPeriodEnd := some 2100000000 })]⟩
  webhookEvents := ⟨[("evt_1", ⟨2100000000⟩)]⟩

theorem jobs_in_time_late :
    ExpiresInTime lateStore "u1" 2100000000 ∧
      KeptForRetention lateStore "evt_1"
        2100000000000000000 := by
  have hInTime :=
    jobs_in_time_iff lateStore "u1" _ 2100000000 "evt_1"
      2100000000000000000 ⟨rfl, rfl, by decide, by decide⟩
      ⟨by decide +kernel, by decide, by decide +kernel,
        by decide +kernel⟩
  constructor
  · refine hInTime.1.mpr ?_
    exact Or.inr ⟨by decide, by decide +kernel,
      by decide +kernel⟩
  · refine hInTime.2.1.mpr ?_
    exact Or.inl (by decide +kernel)

/- A period until 2030, and an event of 2025. -/
def presentStore : Store where
  users := ⟨[("u1", { isPremium := true })]⟩
  subscriptions := ⟨[("u1",
      { buyerId := "u1"
        status := some "active"
        currentPeriodEnd := some 1900000000 })]⟩
  webhookEvents := ⟨[("evt_1", ⟨1760000000⟩)]⟩

theorem jobs_act_early :
    IsSubscription presentStore "u1"
        { buyerId := "u1"
          status := some "active"
          currentPeriodEnd := some 1900000000 } 1900000000 ∧
      ¬ ExpiresInTime presentStore "u1" 1900000000 ∧
      IsStored presentStore "evt_1" 1760000000000000000 ∧
      ¬ KeptForRetention presentStore "evt_1"
        1760000000000000000 := by
  have hDoc :
      IsSubscription presentStore "u1"
        { buyerId := "u1"
          status := some "active"
          currentPeriodEnd := some 1900000000 } 1900000000 :=
    ⟨rfl, rfl, by decide, by decide⟩
  have hEvent :
      IsStored presentStore "evt_1" 1760000000000000000 :=
    ⟨by decide +kernel, by decide, by decide +kernel,
      by decide +kernel⟩
  refine ⟨hDoc, ?_, hEvent, ?_⟩
  · rw [expiresInTime_iff hDoc]
    decide +kernel
  · rw [keptForRetention_iff hEvent]
    decide +kernel

end Orignabase.Premium
