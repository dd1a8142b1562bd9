import Orignabase.Graphql.Batches

/-
  Batches of updates, and the three kinds of batches
  together.

  A batch of updates checks, writes and announces one entry
  after the other.  Its events always name what it changed;
  it is not undone when a later entry fails.

  Key definitions include:
    * `Timed`
    * `Updatable`
    * `UpdatesTogether`

  Main results:
    * `timed_of_reach`
    * `updateEach_outcome`
    * `batchUpdate_iff`
    * `batch_allOrNothing_iff`
-/

--------
-- Times of Updates
--------

namespace Orignabase.Graphql

open Conc Security

/- No document was changed later than now. -/
def Timed (w : World) : Prop :=
  ∀ collection id row,
    w.rows collection id = some row → row.updatedAt ≤ w.clock

variable {w : World} {entry : Value}

theorem Timed.write
    {change : Write}
    {row : Option Row}
    (hTimed : Timed w)
    (hRow : ∀ new, row = some new →
      new.updatedAt ≤ w.clock + 1) :
    Timed (w.write change row) := by
  intro collection id found hFound
  simp only [World.write] at hFound ⊢
  split at hFound
  · exact hRow found hFound
  · exact Nat.le_succ_of_le (hTimed collection id found hFound)

theorem Timed.exec
    {server : Server}
    (hTimed : Timed w)
    (o : Op)
    (a : Answer) :
    Timed (exec server o a w).2 := by
  have hNow :
      ∀ {row new : Row},
        row.updatedAt = w.clock + 1 → some row = some new →
          new.updatedAt ≤ w.clock + 1 := by
    intro row new hTime hSame
    cases hSame
    exact Nat.le_of_eq hTime
  have hChanges := changes_exec server o a w
  generalize (Graphql.exec server o a w).2 = w' at hChanges ⊢
  cases hChanges with
  | none => exact hTimed
  | sent => exact hTimed
  | created hFree => exact hTimed.write (fun _ => hNow rfl)
  | inserted hFree => exact hTimed.write (fun _ => hNow rfl)
  | updated hRow => exact hTimed.write (fun _ => hNow rfl)
  | merged hRow => exact hTimed.write (fun _ => hNow rfl)
  | deleted hRow =>
    exact hTimed.write (fun _ h => nomatch h)

/- Whatever requests are served, times are in the past. -/
theorem timed_of_reach
    {server : Server}
    {cond : StepCond Res Answer World}
    {requests : List (Prog Res Reply)}
    {c : Config Res Answer World Reply}
    (hReach :
      Reach (exec server) cond
        (Config.start World.empty requests) c) :
    Timed c.world := by
  have hKeeps :
      ∀ tr o a w, cond tr o a w → Timed w →
        Timed (exec server o a w).2 :=
    fun _ o a _ _ hTimed => hTimed.exec o a
  have hEmpty : Timed World.empty := by
    intro collection id row hRow
    cases hRow
  exact Reach.holds hKeeps hEmpty hReach

--------
-- One Entry
--------

variable (server : Server) (answers : Nat → Answer)
variable (auth : AuthContext) (collection : String)

/-
  An entry is well formed, its document is found by call
  `n`, the rules allow the update, and call `n + 1` can
  write it.
-/
def Updatable (w : World) (n : Nat) (entry : Value) : Prop :=
  ∃ id data, updateEntry entry = .ok (id, data) ∧
    Permitted server answers auth collection w "update" id
      (some data) n ∧
    Works collection (answers (n + 1))

/- The document an entry updates. -/
def updatedId (entry : Value) : String :=
  match updateEntry entry with
  | .ok (id, _) => bareId collection id
  | .error _ => ""

/- One document is replaced by one with the present time. -/
def Touches (w w' : World) (id : String) : Prop :=
  w'.clock = w.clock + 1 ∧
    (∃ row, w'.rows collection id = some row ∧
      row.updatedAt = w.clock + 1) ∧
    ∀ key : String × String, key ≠ (collection, id) →
      w'.rows key.1 key.2 = w.rows key.1 key.2

/- Write an entry that was read and checked, and go on. -/
def writeThen
    (results entries : List Value)
    (id : String)
    (data existing : Value) : Prog Res Reply :=
  .call (.updateDocument auth collection id data)
    (fun result => onSuccess result (fun doc =>
      sendThen (updateEvent collection id existing doc)
        (updateEach server auth collection
          (results ++ [doc]) entries)))

theorem updateEach_cons
    {id : String}
    {data : Value}
    (hEntry : updateEntry entry = .ok (id, data))
    (results entries : List Value) :
    updateEach server auth collection results
        (entry :: entries) =
      .call (.getDocument collection id) (fun found =>
        onSuccess found (fun existing =>
          permit server collection "update"
            (securityContext auth (some existing)
              (some data))
            (deniedFor id)
            (writeThen server auth collection results
              entries id data existing))) := by
  rw [updateEach, hEntry]
  rfl

/- An entry that can be updated is updated and announced. -/
theorem updateEach_step
    {n : Nat}
    (hUpdatable :
      Updatable server answers auth collection w n entry)
    (results entries : List Value) :
    ∃ doc event w',
      (updateEach server auth collection results
          (entry :: entries)).outcome (exec server) answers
          n w =
        (updateEach server auth collection
          (results ++ [doc]) entries).outcome (exec server)
          answers (n + 3) w' ∧
      w'.sent = event :: w.sent ∧
      subject event =
        (collection, updatedId collection entry) ∧
      Touches collection w w'
        (updatedId collection entry) := by
  rcases hUpdatable with
    ⟨id, data, hEntry, hPermitted, hWorks⟩
  have hId : updatedId collection entry =
      bareId collection id := by
    unfold updatedId
    rw [hEntry]
  rcases outcome_checked server answers auth collection
      "update" id (some data) (deniedFor id) _ n w
      (updateEach_cons server auth collection hEntry results
        entries) with
    ⟨_, existing, hRead, hRun⟩ | ⟨hNot, _⟩
  swap
  · exact absurd hPermitted hNot
  rcases Option.map_eq_some_iff.mp hRead with ⟨row, hRow, _⟩
  have hExec :
      exec server (.updateDocument auth collection id data)
          (answers (n + 1)) w =
        mergeRow server auth collection
          (bareId collection id) data row w := by
    change statement collection (answers (n + 1)) w _ = _
    rw [statement_of_works hWorks]
    unfold updateDocument
    rw [hRow]
  rw [hRun, hId]
  simp only [writeThen, Prog.outcome, hExec]
  refine ⟨_, _, _, rfl, rfl, rfl, rfl, ?_, ?_⟩
  · simp [exec, mergeRow, World.write]
  · intro key hKey
    simp only [exec, mergeRow, World.write]
    rw [if_neg]
    rintro ⟨hCollection, hSame⟩
    exact hKey (Prod.ext hCollection hSame)

/- An entry that cannot be updated ends the batch. -/
theorem updateEach_stop
    {n : Nat}
    (hNot :
      ¬ Updatable server answers auth collection w n entry)
    (results entries : List Value) :
    ∃ message,
      (updateEach server auth collection results
          (entry :: entries)).outcome (exec server) answers
          n w =
        (.error message, w) := by
  cases hEntry : updateEntry entry with
  | error message =>
    refine ⟨message, ?_⟩
    rw [updateEach, hEntry]
    rfl
  | ok pair =>
    rcases pair with ⟨id, data⟩
    rcases outcome_checked server answers auth collection
        "update" id (some data) (deniedFor id) _ n w
        (updateEach_cons server auth collection hEntry
          results entries) with
      ⟨hPermitted, existing, _, hRun⟩ | ⟨_, message, hRun⟩
    · have hFails : ¬ Works collection (answers (n + 1)) :=
        fun h => hNot ⟨id, data, hEntry, hPermitted, h⟩
      rcases statement_of_not_works hFails w
          (updateDocument server auth collection id data
            w) with
        ⟨e, hExec⟩
      refine ⟨internalError, ?_⟩
      rw [hRun]
      simp only [writeThen, Prog.outcome, exec, hExec]
      rfl
    · exact ⟨message, hRun⟩

--------
-- All Entries
--------

/- The events since a world name what has changed since. -/
structure Announces
    (w w' : World)
    (events : List Realtime.ChangeEvent) : Prop where
  sent : w'.sent = events ++ w.sent
  clock : w.clock ≤ w'.clock
  later :
    ∀ key ∈ events.map subject,
      ∃ row, w'.rows key.1 key.2 = some row ∧
        w.clock < row.updatedAt
  same :
    ∀ key, key ∉ events.map subject →
      w'.rows key.1 key.2 = w.rows key.1 key.2

theorem Announces.refl (w : World) : Announces w w [] where
  sent := rfl
  clock := Nat.le_refl _
  later := fun _ hMem => nomatch hMem
  same := fun _ _ => rfl

variable {w w' : World} {events : List Realtime.ChangeEvent}

theorem Announces.changed
    (hAnnounces : Announces w w' events)
    (hTimed : Timed w)
    (key : String × String) :
    key ∈ events.map subject ↔ Changed w w' key := by
  constructor
  · intro hMem hSame
    rcases hAnnounces.later key hMem with ⟨row, hRow, hTime⟩
    rw [hRow] at hSame
    have hPast := hTimed key.1 key.2 row hSame.symm
    omega
  · intro hChanged
    by_contra hNot
    exact hChanged (hAnnounces.same key hNot)

/- One update before the others. -/
theorem Announces.after
    {collection : String}
    {w₁ : World}
    {id : String}
    {event : Realtime.ChangeEvent}
    (hTouches : Touches collection w w₁ id)
    (hSent : w₁.sent = event :: w.sent)
    (hSubject : subject event = (collection, id))
    (hRest : Announces w₁ w' events) :
    Announces w w' (events ++ [event]) := by
  rcases hTouches with ⟨hClock, ⟨row, hRow, hTime⟩, hOther⟩
  have hLate := hRest.clock
  refine ⟨?_, by omega, ?_, ?_⟩
  · rw [hRest.sent, hSent]
    simp
  · intro key hMem
    by_cases hAgain : key ∈ events.map subject
    · rcases hRest.later key hAgain with
        ⟨last, hLast, hAfter⟩
      exact ⟨last, hLast, by omega⟩
    · have hKey : key = (collection, id) := by
        simpa [hSubject, hAgain] using hMem
      rw [hRest.same key hAgain, hKey]
      exact ⟨row, hRow, by omega⟩
  · intro key hNot
    rw [List.map_append, List.mem_append, not_or] at hNot
    rw [hRest.same key hNot.1]
    apply hOther
    simpa [hSubject] using hNot.2

/- Whatever a batch of updates did, it has announced. -/
theorem updateEach_outcome
    (server : Server)
    (answers : Nat → Answer)
    (auth : AuthContext)
    (collection : String)
    (entries : List Value) :
    ∀ n w results, ∃ reply w' events,
        (updateEach server auth collection results
            entries).outcome (exec server) answers n w =
          (reply, w') ∧
        Announces w w' events ∧
        ∀ docs, reply = .ok docs → events.map subject =
            (entries.map (fun entry =>
              (collection,
                updatedId collection entry))).reverse := by
  induction entries with
  | nil =>
    intro n w results
    exact ⟨.ok results, w, [], rfl, Announces.refl w,
      fun _ _ => rfl⟩
  | cons entry entries ih =>
    intro n w results
    by_cases hFirst :
        Updatable server answers auth collection w n entry
    · rcases updateEach_step server answers auth collection
          hFirst results entries with
        ⟨doc, event, w₁, hStep, hSent, hSubject, hTouches⟩
      rcases ih (n + 3) w₁ (results ++ [doc]) with
        ⟨reply, w', events, hRest, hAnnounces, hOk⟩
      refine ⟨reply, w', events ++ [event],
        hStep.trans hRest,
        hAnnounces.after hTouches hSent hSubject, ?_⟩
      intro docs hReply
      rw [List.map_append, hOk docs hReply]
      simp [hSubject]
    · rcases updateEach_stop server answers auth collection
          hFirst results entries with
        ⟨message, hStop⟩
      exact ⟨.error message, w, [], hStop,
        Announces.refl w, fun _ h => nomatch h⟩

variable {server : Server} {answers : Nat → Answer}
variable {auth : AuthContext} {collection : String}

theorem Updatable.congr
    {n : Nat}
    {entry : Value}
    (hSame :
      w'.rows collection (updatedId collection entry) =
        w.rows collection (updatedId collection entry))
    (hUpdatable :
      Updatable server answers auth collection w n entry) :
    Updatable server answers auth collection w' n entry := by
  rcases hUpdatable with
    ⟨id, data, hEntry, ⟨hFound, doc, hRead, hAllowed⟩,
      hWorks⟩
  refine ⟨id, data, hEntry, ⟨hFound, doc, ?_, hAllowed⟩,
    hWorks⟩
  simp only [updatedId, hEntry] at hSame
  rw [← hRead, World.read, World.read, hSame]

/-
  Entries for different documents do not get into each
  other's way.
-/
theorem updateEach_ok_iff
    {entries : List Value} :
    ∀ {n w results},
      (entries.map (updatedId collection)).Nodup →
        ((∃ docs w',
          (updateEach server auth collection results
              entries).outcome (exec server) answers n w =
            (.ok docs, w')) ↔
          ∀ i entry, entries[i]? = some entry →
            Updatable server answers auth collection w
              (n + 3 * i) entry) := by
  induction entries with
  | nil =>
    intro n w results _
    refine iff_of_true ⟨results, w, rfl⟩ ?_
    intro i entry hGet
    cases hGet
  | cons entry entries ih =>
    intro n w results hNodup
    rw [List.map_cons, List.nodup_cons] at hNodup
    by_cases hFirst :
        Updatable server answers auth collection w n entry
    · rcases updateEach_step server answers auth collection
          hFirst results entries with
        ⟨doc, event, w₁, hStep, _, _, _, _, hOther⟩
      have hSame :
          ∀ (i : Nat) x, entries[i]? = some x →
            w₁.rows collection (updatedId collection x) =
              w.rows collection
                (updatedId collection x) := by
        intro i x hGet
        apply hOther (collection, updatedId collection x)
        intro hKey
        apply hNodup.1
        rw [← (Prod.mk.inj hKey).2]
        exact List.mem_map_of_mem
          (List.mem_of_getElem? hGet)
      rw [hStep, ih hNodup.2]
      constructor
      · intro hAll i x hGet
        cases i with
        | zero =>
          cases hGet
          exact hFirst
        | succ i =>
          have hRest : entries[i]? = some x := by
            simpa using hGet
          have hNext := (hAll i x hRest).congr
            (hSame i x hRest).symm
          rwa [show n + 3 + 3 * i = n + 3 * (i + 1) by
            omega] at hNext
      · intro hAll i x hGet
        have hNext := hAll (i + 1) x (by simpa using hGet)
        rw [show n + 3 * (i + 1) = n + 3 + 3 * i by omega]
          at hNext
        exact hNext.congr (hSame i x hGet)
    · refine iff_of_false ?_ ?_
      · rintro ⟨docs, w', hOk⟩
        rcases updateEach_stop server answers auth
            collection hFirst results entries with
          ⟨message, hStop⟩
        rw [hStop] at hOk
        cases hOk
      · intro hAll
        exact hFirst (hAll 0 entry rfl)

/-
  The call is refused as a whole, or its first entry fails,
  or all entries can be updated and are for documents of
  their own.
-/
def UpdatesTogether
    (server : Server)
    (answers : Nat → Answer)
    (auth : AuthContext)
    (collection : String)
    (w : World)
    (updates : Value) : Prop :=
  ∀ entries, normalizeData server updates = .array entries →
    entries.length > 500 ∨
      (∃ entry rest, entries = entry :: rest ∧
        ¬ Updatable server answers auth collection w 0
          entry) ∨
      ((∀ i entry, entries[i]? = some entry →
          Updatable server answers auth collection w (3 * i)
            entry) ∧
        (entries.map (updatedId collection)).Nodup)

theorem Announces.ok_iff
    {docs : List Value}
    (hAnnounces : Announces w w' events)
    (hTimed : Timed w) :
    AllOrNothing w (.ok docs, w') ↔
      (events.map subject).Nodup := by
  constructor
  · intro hWhole
    by_contra hTwice
    exact not_allOrNothing_of_events hAnnounces.sent
      (Or.inl hTwice) hWhole
  · intro hNodup
    exact allOrNothing_of_success hAnnounces.sent hNodup
      (hAnnounces.changed hTimed)

theorem Announces.error_iff
    {message : String}
    (hAnnounces : Announces w w' events)
    (hTimed : Timed w)
    (hSome : events ≠ []) :
    ¬ AllOrNothing w (.error message, w') := by
  rcases List.exists_cons_of_ne_nil hSome with
    ⟨event, rest, rfl⟩
  exact not_allOrNothing_of_error
    ((hAnnounces.changed hTimed (subject event)).mp (by simp))

/- A batch after an entry that could be updated. -/
theorem updateEach_cons_iff
    {entry : Value}
    {entries : List Value}
    (hTimed : Timed w)
    (hFirst :
      Updatable server answers auth collection w 0 entry) :
    AllOrNothing w
        ((updateEach server auth collection []
          (entry :: entries)).outcome (exec server) answers
          0 w) ↔
      (∃ docs w', (updateEach server auth collection []
            (entry :: entries)).outcome (exec server)
            answers 0 w = (.ok docs, w')) ∧
      ((entry :: entries).map
        (updatedId collection)).Nodup := by
  rcases updateEach_step server answers auth collection
      hFirst [] entries with
    ⟨doc, event, w₁, hStep, hSent, hSubject, hTouches⟩
  rcases updateEach_outcome server answers auth collection
      entries (0 + 3) w₁ ([] ++ [doc]) with
    ⟨reply, w', events, hRest, hAnnounces, hOk⟩
  have hAll := hAnnounces.after hTouches hSent hSubject
  rw [hStep, hRest]
  cases reply with
  | error message =>
    refine iff_of_false (hAll.error_iff hTimed (by simp)) ?_
    rintro ⟨⟨docs, other, hReply⟩, _⟩
    cases hReply
  | ok docs =>
    have hSubjects :
        (events ++ [event]).map subject =
          (((entry :: entries).map
            (updatedId collection)).map
              (fun id => (collection, id))).reverse := by
      rw [List.map_append, hOk docs rfl]
      simp [hSubject]
    rw [hAll.ok_iff hTimed, hSubjects, List.nodup_reverse,
      List.nodup_map_iff (fun _ _ h => (Prod.mk.inj h).2)]
    constructor
    · exact fun hNodup => ⟨⟨docs, w', rfl⟩, hNodup⟩
    · exact fun h => h.2

/- A batch that went through changed its documents once. -/
theorem updateEach_iff
    (hTimed : Timed w)
    (entries : List Value) :
    AllOrNothing w
        ((updateEach server auth collection []
          entries).outcome (exec server) answers 0 w) ↔
      (∃ entry rest, entries = entry :: rest ∧
        ¬ Updatable server answers auth collection w 0
          entry) ∨
      ((∀ i entry, entries[i]? = some entry →
          Updatable server answers auth collection w (3 * i)
            entry) ∧
        (entries.map (updatedId collection)).Nodup) := by
  cases entries with
  | nil =>
    refine iff_of_true ?_
      (Or.inr ⟨fun _ _ hGet => (nomatch hGet), by simp⟩)
    exact ((Announces.refl w).ok_iff hTimed).mpr (by simp)
  | cons entry entries =>
    by_cases hFirst :
        Updatable server answers auth collection w 0 entry
    · have hNot :
          ¬ ∃ x rest, entry :: entries = x :: rest ∧
            ¬ Updatable server answers auth collection w 0
              x := by
        rintro ⟨x, rest, hEq, hFails⟩
        cases hEq
        exact hFails hFirst
      rw [updateEach_cons_iff hTimed hFirst,
        or_iff_right hNot]
      refine and_congr_left ?_
      intro hNodup
      have hOk := @updateEach_ok_iff server answers auth
        collection _ 0 w [] hNodup
      simpa only [Nat.zero_add] using hOk
    · rcases updateEach_stop server answers auth collection
          hFirst [] entries with
        ⟨message, hStop⟩
      rw [hStop]
      exact iff_of_true allOrNothing_of_same
        (Or.inl ⟨entry, entries, rfl, hFirst⟩)

theorem batchUpdate_iff
    (hTimed : Timed w)
    (updates : Value) :
    AllOrNothing w
        ((batchUpdate server auth collection updates).outcome
          (exec server) answers 0 w) ↔
      UpdatesTogether server answers auth collection w
        updates := by
  unfold batchUpdate UpdatesTogether
  split
  · rename_i entries hEntries
    rw [hEntries]
    simp only [Value.array.injEq, forall_eq']
    split
    · rename_i hLong
      exact iff_of_true allOrNothing_of_same (Or.inl hLong)
    · rename_i hLong
      rw [or_iff_right hLong]
      exact updateEach_iff hTimed entries
  · rename_i hNot
    refine iff_of_true allOrNothing_of_same ?_
    intro entries hEntries
    exact absurd hEntries (hNot entries)

--------
-- The Three Kinds of Batches
--------

inductive Batch
  | create (docs : List Value)
  | delete (ids : List String)
  | update (updates : Value)

def Batch.mutation (collection : String) : Batch → Mutation
  | .create docs => .batchCreate collection docs
  | .delete ids => .batchDelete collection ids
  | .update updates => .batchUpdate collection updates

/- What happens when a batch is run by itself. -/
def Batch.outcome
    (server : Server)
    (answers : Nat → Answer)
    (auth : AuthContext)
    (collection : String)
    (batch : Batch)
    (w : World) : Reply × World :=
  (Request.body server
    ⟨auth, batch.mutation collection⟩).outcome (exec server)
      answers 0 w

/- The batch cannot fail after it has written something. -/
def Batch.Together
    (server : Server)
    (answers : Nat → Answer)
    (auth : AuthContext)
    (collection : String)
    (w : World) : Batch → Prop
  | .create docs =>
    CreatesTogether server answers auth collection w
      (flattenDocs server docs)
  | .delete ids =>
    DeletesTogether server answers auth collection w ids
  | .update updates =>
    UpdatesTogether server answers auth collection w updates

/-
  A batch is stored as a whole, with an event for each of
  its documents, exactly if its entries get along.
-/
theorem batch_allOrNothing_iff
    (server : Server)
    (answers : Nat → Answer)
    (auth : AuthContext)
    (collection : String)
    (batch : Batch)
    (w : World)
    (hTimed : Timed w) :
    AllOrNothing w
        (batch.outcome server answers auth collection w) ↔
      batch.Together server answers auth collection w := by
  cases batch with
  | create docs =>
    exact batchCreate_iff server answers auth collection
      docs w
  | delete ids =>
    exact batchDelete_iff server answers auth collection
      ids w
  | update updates =>
    exact batchUpdate_iff hTimed updates

/- A cart of one client, under an id of its choice. -/
def cartWithId (id : String) : Value :=
  .object [("id", .string id), ("userId", .string "alice")]

theorem two_carts_together :
    Timed World.empty ∧ AllOrNothing World.empty
        ((Batch.create [cartWithId "c1",
            cartWithId "c2"]).outcome shopServer
          (fun _ => fine) (signedIn "alice") "cart"
          World.empty) := by
  have hTimed : Timed World.empty :=
    fun _ _ _ h => nomatch h
  refine ⟨hTimed, (batch_allOrNothing_iff _ _ _ _ _ _
    hTimed).mpr (Or.inr (Or.inr (Or.inr ⟨?_, ?_, ?_⟩)))⟩
  · intro i doc _
    exact ⟨⟨by decide, rfl⟩, rfl⟩
  · decide
  · decide

/-
  The second cart has the id of the first: the call fails
  and the first cart stays.
-/
theorem repeated_cart_stays :
    ¬ AllOrNothing World.empty
      ((Batch.create [cartWithId "c1",
          cartWithId "c1"]).outcome shopServer
        (fun _ => fine) (signedIn "alice") "cart"
        World.empty) := by
  rintro ⟨events, _, hSame, _⟩
  have hStays :
      (((Batch.create [cartWithId "c1",
          cartWithId "c1"]).outcome shopServer
        (fun _ => fine) (signedIn "alice") "cart"
        World.empty).2.rows "cart" "c1").isSome = true := by
    decide
  have hError :
      ((Batch.create [cartWithId "c1",
          cartWithId "c1"]).outcome shopServer
        (fun _ => fine) (signedIn "alice") "cart"
        World.empty).1.isOk = false := by
    decide
  cases hReply :
      ((Batch.create [cartWithId "c1",
          cartWithId "c1"]).outcome shopServer
        (fun _ => fine) (signedIn "alice") "cart"
        World.empty).1 with
  | error message =>
    rw [hSame message hReply] at hStays
    cases hStays
  | ok docs =>
    rw [hReply] at hError
    cases hError

end Orignabase.Graphql
