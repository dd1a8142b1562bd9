import Orignabase.Graphql.Enforcement
import Mathlib.Data.List.Nodup

/-
  Batches of creations and of removals: when a batch is
  stored as a whole, and when its events name what was
  stored.

  Key definitions include:
    * `Prog.outcome`
    * `AllOrNothing`
    * `WriteLoop`
    * `CreatesTogether`, `DeletesTogether`

  Main results:
    * `WriteLoop.runs`
    * `WriteLoop.whole_iff`
    * `batchCreate_iff`
    * `batchDelete_iff`
-/

--------
-- One Request Alone
--------

namespace Conc

variable {Op : Type} {Res : Op → Type} {Ans W α : Type}

/-
  What a program returns when it runs alone, call number `n`
  of the environment being the next one.
-/
def Prog.outcome
    (exec : Exec Res Ans W)
    (answers : Nat → Ans) :
    Nat → W → Prog Res α → α × W
  | _, w, .ret a => (a, w)
  | n, w, .call o k =>
    (k (exec o (answers n) w).1).outcome exec answers
      (n + 1) (exec o (answers n) w).2

end Conc

--------
-- Whole Batches
--------

namespace Orignabase.Graphql

open Conc Security

/-
  The document an event is about.  A document is created
  under its id as it stands; elsewhere the id may have the
  name of the collection in front.
-/
def subject (event : Realtime.ChangeEvent) :
    String × String :=
  (event.collection,
    match event.action with
    | .create => event.documentId
    | _ => bareId event.collection event.documentId)

def Changed (w w' : World) (key : String × String) : Prop :=
  w'.rows key.1 key.2 ≠ w.rows key.1 key.2

/-
  An error leaves the documents as they were, a success has
  sent one event for each document it changed, and events
  were sent for the changed documents and no others.
-/
def AllOrNothing (w : World) (out : Reply × World) : Prop :=
  ∃ events, out.2.sent = events ++ w.sent ∧
    (∀ message, out.1 = .error message →
      out.2.rows = w.rows) ∧
    (∀ docs, out.1 = .ok docs → ∀ key, Changed w out.2 key →
        (events.map subject).count key = 1) ∧
    ∀ key, key ∈ events.map subject ↔ Changed w out.2 key

variable {w w' : World}

/- Nothing was stored and nothing was sent. -/
theorem allOrNothing_of_same
    {message : String} :
    AllOrNothing w (.error message, w) := by
  refine ⟨[], rfl, fun _ _ => rfl, ?_, ?_⟩
  · intro docs hOk
    cases hOk
  · intro key
    simp [Changed]

/- One event for each of the documents that were changed. -/
theorem allOrNothing_of_success
    {docs : List Value}
    {events : List Realtime.ChangeEvent}
    (hSent : w'.sent = events ++ w.sent)
    (hOnce : (events.map subject).Nodup)
    (hChanged :
      ∀ key, key ∈ events.map subject ↔ Changed w w' key) :
    AllOrNothing w (.ok docs, w') := by
  refine ⟨events, hSent, ?_, ?_, ?_⟩
  · intro message hError
    cases hError
  · intro _ _ key hKey
    exact List.count_eq_one_of_mem hOnce
      ((hChanged key).mpr hKey)
  · exact hChanged

theorem not_allOrNothing_of_error
    {message : String}
    {key : String × String}
    (hKey : Changed w w' key) :
    ¬ AllOrNothing w (.error message, w') := by
  rintro ⟨events, _, hSame, _⟩
  exact hKey (by rw [hSame message rfl])

/- Two events for one document, or one for another document. -/
theorem not_allOrNothing_of_events
    {docs : List Value}
    {events : List Realtime.ChangeEvent}
    (hSent : w'.sent = events ++ w.sent)
    (hBad :
      ¬ (events.map subject).Nodup ∨
        ∃ key, Changed w w' key ∧
          key ∉ events.map subject) :
    ¬ AllOrNothing w (.ok docs, w') := by
  rintro ⟨events', hSent', _, hCount, hKeys⟩
  have hSame : events = events' :=
    List.append_cancel_right (hSent.symm.trans hSent')
  subst hSame
  rcases hBad with hTwice | ⟨key, hKey, hMissing⟩
  · refine hTwice (List.nodup_iff_count_eq_one.mpr ?_)
    intro key hMem
    exact hCount docs rfl key ((hKeys key).mp hMem)
  · exact hMissing ((hKeys key).mpr hKey)

variable (server : Server) (answers : Nat → Answer)

theorem outcome_sendAll
    (events : List Realtime.ChangeEvent)
    (reply : Reply) :
    ∀ n w,
      (sendAll events (.ret reply)).outcome (exec server)
          answers n w =
        (reply,
          { w with sent := events.reverse ++ w.sent }) := by
  induction events with
  | nil =>
    intro n w
    rfl
  | cons event events ih =>
    intro n w
    change (sendAll events (.ret reply)).outcome
      (exec server) answers (n + 1) _ = _
    rw [ih]
    simp [exec]

--------
-- Statements That Work
--------

/- A statement on the table of a collection does not fail. -/
def Works (collection : String) (a : Answer) : Prop :=
  (validateIdentifier collection).isOk = true ∧
    a.fault = none

theorem statement_of_works
    {collection : String}
    {a : Answer}
    (hWorks : Works collection a)
    (w : World)
    (body : Except Error Value × World) :
    statement collection a w body = body := by
  rcases hWorks with ⟨hTable, hFault⟩
  unfold statement
  rw [hFault]
  cases hName : validateIdentifier collection with
  | error e =>
    rw [hName] at hTable
    cases hTable
  | ok name => rfl

theorem statement_of_not_works
    {collection : String}
    {a : Answer}
    (hFails : ¬ Works collection a)
    (w : World)
    (body : Except Error Value × World) :
    ∃ e, statement collection a w body = (.error e, w) := by
  unfold statement
  split
  · exact ⟨_, rfl⟩
  · exact ⟨_, rfl⟩
  · rename_i hTable hFault
    exact absurd ⟨by rw [hTable]; rfl, hFault⟩ hFails

/- The rules allow an operation, or it ends here. -/
theorem permit_cases
    (server : Server)
    (collection operation : String)
    (auth : AuthContext)
    (resource incoming : Option Value)
    (denied : String)
    (next : Prog Res Reply) :
    (Allowed server collection operation auth resource
        incoming ∧
      permit server collection operation
          (securityContext auth resource incoming) denied
          next = next) ∨
    (¬ Allowed server collection operation auth resource
        incoming ∧
      ∃ message, permit server collection operation
            (securityContext auth resource incoming) denied
            next = .ret (.error message)) := by
  unfold Allowed permit
  split
  · rename_i e hCheck
    refine Or.inr ⟨?_, internalError, rfl⟩
    rw [hCheck]
    exact fun h => nomatch h
  · rename_i hCheck
    refine Or.inr ⟨?_, denied, rfl⟩
    rw [hCheck]
    exact fun h => nomatch h
  · rename_i hCheck
    exact Or.inl ⟨hCheck, rfl⟩

variable {w : World} {n : Nat} {doc : Value}

/- Where a world is changed by a write. -/
theorem changed_write
    {change : Write}
    {row : Option Row}
    (hNew : row ≠ w.rows change.collection change.id)
    (key : String × String) :
    Changed w (w.write change row) key ↔
      key = (change.collection, change.id) := by
  rcases key with ⟨collection, id⟩
  unfold Changed
  simp only [World.write, Prod.mk.injEq]
  by_cases hHere :
      collection = change.collection ∧ id = change.id
  · rw [if_pos hHere, hHere.1, hHere.2]
    simp [hNew]
  · rw [if_neg hHere]
    simp [hHere]

variable {w' : World}

/- A change of one document before changes of others. -/
theorem changed_after
    {w₁ : World}
    {first : String × String}
    {keys : List (String × String)}
    (hFirst : ∀ key, Changed w w₁ key ↔ key = first)
    (hRest : ∀ key, Changed w₁ w' key ↔ key ∈ keys)
    (hNew : first ∉ keys)
    (key : String × String) :
    Changed w w' key ↔ key = first ∨ key ∈ keys := by
  unfold Changed at *
  by_cases hKey : key = first
  · have hStay :
        w'.rows key.1 key.2 = w₁.rows key.1 key.2 := by
      by_contra hDiff
      exact hNew (hKey ▸ (hRest key).mp hDiff)
    rw [hStay]
    simp [hKey, (hFirst first).mpr rfl]
  · have hSame :
        w₁.rows key.1 key.2 = w.rows key.1 key.2 := by
      by_contra hDiff
      exact hKey ((hFirst key).mp hDiff)
    rw [← hSame, hRest key]
    simp [hKey]

--------
-- Loops of Writes
--------

/-
  A loop that writes one document for each entry.  An entry
  fits if its statement works and its document is not yet in
  the state that writing brings about.  What an entry wrote
  is added to the results.
-/
structure WriteLoop
    (server : Server)
    (answers : Nat → Answer)
    (collection : String)
    (E : Type) where
  key : Nat → E → String
  written : Option Row → Prop
  told : Nat → E → Value → Prop
  body : List Value → List E → Prog Res Reply
  step :
    ∀ {results e es n w},
      Works collection (answers n) →
      ¬ written (w.rows collection (key n e)) →
      ∃ result w₁,
        (body results (e :: es)).outcome (exec server)
            answers n w =
          (body (results ++ [result]) es).outcome
            (exec server) answers (n + 1) w₁ ∧
        told n e result ∧
        w₁.sent = w.sent ∧
        written (w₁.rows collection (key n e)) ∧
        ∀ k, Changed w w₁ k ↔ k = (collection, key n e)
  stop :
    ∀ {results e es n w},
      ¬ (Works collection (answers n) ∧
        ¬ written (w.rows collection (key n e))) →
      (body results (e :: es)).outcome (exec server) answers
          n w =
        (.error internalError, w)

namespace WriteLoop

variable {server : Server} {answers : Nat → Answer}
variable {collection : String} {E : Type}
variable (loop : WriteLoop server answers collection E)

def Fits (w : World) (n : Nat) (e : E) : Prop :=
  Works collection (answers n) ∧
    ¬ loop.written (w.rows collection (loop.key n e))

/- The documents of the entries from call `n` on. -/
def keys (n : Nat) (es : List E) : List String :=
  es.mapIdx (fun i e => loop.key (n + i) e)

def AllFit (w : World) (n : Nat) (es : List E) : Prop :=
  ∀ i e, es[i]? = some e → loop.Fits w (n + i) e

theorem keys_cons (n : Nat) (e : E) (es : List E) :
    loop.keys n (e :: es) =
      loop.key n e :: loop.keys (n + 1) es := by
  simp [keys, List.mapIdx_cons, Nat.add_assoc,
    Nat.add_comm 1]

variable {w : World} {n : Nat} {es : List E}

theorem allFit_cons
    {e : E} :
    loop.AllFit w n (e :: es) ↔
      loop.Fits w n e ∧ loop.AllFit w (n + 1) es := by
  constructor
  · intro hAll
    refine ⟨hAll 0 e rfl, ?_⟩
    intro i x hGet
    have hFits := hAll (i + 1) x (by simpa using hGet)
    rwa [← Nat.add_assoc, Nat.add_right_comm] at hFits
  · rintro ⟨hFirst, hRest⟩ i x hGet
    cases i with
    | zero =>
      cases hGet
      exact hFirst
    | succ i =>
      have hFits := hRest i x (by simpa using hGet)
      rwa [Nat.add_right_comm, Nat.add_assoc] at hFits

theorem AllFit.not_written
    {id : String}
    (hAll : loop.AllFit w n es)
    (hMem : id ∈ loop.keys n es) :
    ¬ loop.written (w.rows collection id) := by
  rcases List.mem_mapIdx.mp hMem with ⟨i, hLt, rfl⟩
  exact (hAll i _ (List.getElem?_eq_getElem hLt)).2

/- The entries fit in any world that has their documents. -/
theorem AllFit.congr
    (hAll : loop.AllFit w n es)
    (hSame :
      ∀ id ∈ loop.keys n es,
        w'.rows collection id = w.rows collection id) :
    loop.AllFit w' n es := by
  intro i e hGet
  rcases List.getElem?_eq_some_iff.mp hGet with ⟨hLt, rfl⟩
  have hMem : loop.key (n + i) es[i] ∈ loop.keys n es :=
    List.mem_mapIdx.mpr ⟨i, hLt, rfl⟩
  refine ⟨(hAll i _ hGet).1, ?_⟩
  rw [hSame _ hMem]
  exact (hAll i _ hGet).2

/- What the results of a loop tell about its entries. -/
def Told : Nat → List E → List Value → Prop
  | _, [], [] => True
  | n, e :: es, result :: results =>
    loop.told n e result ∧ Told (n + 1) es results
  | _, _, _ => False

theorem Told.length_eq :
    ∀ {n results}, loop.Told n es results →
        results.length = es.length := by
  induction es with
  | nil =>
    intro n results hTold
    cases results with
    | nil => rfl
    | cons _ _ => exact hTold.elim
  | cons e es ih =>
    intro n results hTold
    cases results with
    | nil => exact hTold.elim
    | cons result results =>
      rw [List.length_cons, List.length_cons, ih hTold.2]

/-
  A loop either writes the documents of all its entries, or
  ends with an error and leaves what it has written.
-/
theorem runs (es : List E) :
    ∀ n w results,
      (loop.AllFit w n es ∧ (loop.keys n es).Nodup ∧
        ∃ w' done,
          (loop.body results es).outcome (exec server)
              answers n w =
            (loop.body (results ++ done) []).outcome
              (exec server) answers (n + es.length) w' ∧
          loop.Told n es done ∧
          w'.sent = w.sent ∧
          ∀ k, Changed w w' k ↔ k ∈ (loop.keys n es).map
              (fun id => (collection, id))) ∨
      (¬ (loop.AllFit w n es ∧ (loop.keys n es).Nodup) ∧
        ∃ w', (loop.body results es).outcome (exec server)
              answers n w =
            (.error internalError, w') ∧
          (∀ id, loop.written (w.rows collection id) →
            loop.written (w'.rows collection id)) ∧
          ∀ e rest, es = e :: rest → (loop.Fits w n e →
              loop.written
                (w'.rows collection (loop.key n e))) ∧
            (¬ loop.Fits w n e → w' = w)) := by
  induction es with
  | nil =>
    intro n w results
    refine Or.inl ⟨?_, by simp [keys], w, [], by simp,
      trivial, rfl, ?_⟩
    · intro i e hGet
      cases hGet
    · intro k
      simp [keys, Changed]
  | cons e es ih =>
    intro n w results
    by_cases hFits : loop.Fits w n e
    · rcases loop.step hFits.1 hFits.2 with
        ⟨result, w₁, hStep, hTold, hSent, hDone, hFirst⟩
      have hOther :
          ∀ id, id ≠ loop.key n e → w₁.rows collection id =
              w.rows collection id := by
        intro id hId
        by_contra hDiff
        have hSame := (hFirst (collection, id)).mp hDiff
        exact hId (Prod.mk.inj hSame).2
      rcases ih (n + 1) w₁ (results ++ [result]) with
        ⟨hAll, hNodup, w', done, hRest, hTolds, hSent',
          hKeys⟩ | ⟨hNot, w', hRest, hKeep, _⟩
      · have hNew : loop.key n e ∉ loop.keys (n + 1) es :=
          fun hMem => hAll.not_written loop hMem hDone
        refine Or.inl ⟨loop.allFit_cons.mpr ⟨hFits, ?_⟩,
          ?_, w', result :: done, ?_, ⟨hTold, hTolds⟩,
          hSent'.trans hSent, ?_⟩
        · refine hAll.congr loop ?_
          intro id hMem
          exact (hOther id (fun h => hNew (h ▸ hMem))).symm
        · rw [keys_cons]
          exact List.nodup_cons.mpr ⟨hNew, hNodup⟩
        · rw [hStep, hRest, List.append_assoc,
            List.length_cons, Nat.add_assoc,
            Nat.add_comm 1]
          rfl
        · intro k
          rw [keys_cons, List.map_cons, List.mem_cons]
          exact changed_after hFirst hKeys
            (fun hMem => hNew (by simpa using hMem)) k
      · refine Or.inr ⟨?_, w', hStep.trans hRest, ?_, ?_⟩
        · rintro ⟨hAll, hNodup⟩
          rw [keys_cons, List.nodup_cons] at hNodup
          refine hNot ⟨((loop.allFit_cons.mp
            hAll).2).congr loop ?_, hNodup.2⟩
          intro id hMem
          exact hOther id (fun h => hNodup.1 (h ▸ hMem))
        · intro id hWritten
          apply hKeep
          by_cases hId : id = loop.key n e
          · rw [hId]
            exact hDone
          · rw [hOther id hId]
            exact hWritten
        · intro x rest hEq
          cases hEq
          exact ⟨fun _ => hKeep _ hDone,
            fun h => absurd hFits h⟩
    · refine Or.inr
        ⟨fun hAll => hFits (loop.allFit_cons.mp hAll.1).1,
          w, loop.stop hFits, fun _ h => h, ?_⟩
      intro x rest hEq
      cases hEq
      exact ⟨fun h => absurd h hFits, fun _ => rfl⟩

/-
  A loop that ends with an error is a whole batch only if
  its first entry failed.
-/
theorem error_iff
    (hNot :
      ¬ (loop.AllFit w n es ∧ (loop.keys n es).Nodup))
    (hFirst :
      ∀ e rest, es = e :: rest → (loop.Fits w n e →
          loop.written (w'.rows collection (loop.key n e))) ∧
        (¬ loop.Fits w n e → w' = w)) :
    AllOrNothing w (.error internalError, w') ↔
      ∃ e rest, es = e :: rest ∧ ¬ loop.Fits w n e := by
  cases es with
  | nil =>
    refine absurd ⟨?_, by simp [keys]⟩ hNot
    intro i e hGet
    cases hGet
  | cons e rest =>
    have hHead := hFirst e rest rfl
    by_cases hFits : loop.Fits w n e
    · refine iff_of_false ?_ ?_
      · have hChanged :
            Changed w w' (collection, loop.key n e) := by
          intro hSame
          apply hFits.2
          rw [← hSame]
          exact hHead.1 hFits
        exact not_allOrNothing_of_error hChanged
      · rintro ⟨x, xs, hEq, hNotFits⟩
        cases hEq
        exact hNotFits hFits
    · rw [hHead.2 hFits]
      exact iff_of_true allOrNothing_of_same
        ⟨e, rest, rfl, hFits⟩

/-
  A loop that announces its results at the end is a whole
  batch if its first entry failed, or if all entries fit,
  have documents of their own, and are announced under the
  ids of these.
-/
theorem whole_iff
    {announced : List String}
    {events : List Value → List Realtime.ChangeEvent}
    (hFinish :
      ∀ results, loop.body results [] =
        sendAll (events results) (.ret (.ok results)))
    (hEvents :
      ∀ done, loop.Told n es done →
        (events done).map subject =
          announced.map (fun id => (collection, id))) :
    AllOrNothing w
        ((loop.body [] es).outcome (exec server) answers n
          w) ↔
      (∃ e rest, es = e :: rest ∧ ¬ loop.Fits w n e) ∨
        (loop.AllFit w n es ∧ (loop.keys n es).Nodup ∧
          announced.Nodup ∧
          ∀ id, id ∈ announced ↔ id ∈ loop.keys n es) := by
  have hPair :
      Function.Injective
        (fun id : String => (collection, id)) :=
    fun _ _ h => (Prod.mk.inj h).2
  rcases loop.runs es n w [] with
    ⟨hAll, hNodup, w', done, hRest, hTold, hSent, hKeys⟩ |
      ⟨hNot, w', hRest, _, hFirst⟩
  · rw [hRest, hFinish, outcome_sendAll, List.nil_append]
    have hSubjects :
        ((events done).reverse.map subject) =
          announced.reverse.map
            (fun id => (collection, id)) := by
      rw [List.map_reverse, hEvents done hTold,
        ← List.map_reverse]
    have hSent' :
        { w' with
          sent := (events done).reverse ++ w'.sent }.sent =
            (events done).reverse ++ w.sent := by
      rw [← hSent]
    constructor
    · intro hWhole
      refine Or.inr ⟨hAll, hNodup, ?_, ?_⟩
      · by_contra hTwice
        refine not_allOrNothing_of_events hSent'
          (Or.inl ?_) hWhole
        rw [hSubjects, List.nodup_map_iff hPair,
          List.nodup_reverse]
        exact hTwice
      · rcases hWhole with ⟨events', hSame, _, _, hMem⟩
        rw [List.append_cancel_right (hSame.symm.trans hSent'),
          hSubjects] at hMem
        intro id
        have hId :=
          (hMem (collection, id)).trans (hKeys (collection, id))
        rwa [List.mem_map_of_injective hPair,
          List.mem_map_of_injective hPair,
          List.mem_reverse] at hId
    · rintro (⟨e, rest, rfl, hFails⟩ | ⟨_, _, hOnce, hMem⟩)
      · exact absurd (loop.allFit_cons.mp hAll).1 hFails
      · refine allOrNothing_of_success hSent' ?_ ?_
        · rw [hSubjects, List.nodup_map_iff hPair,
            List.nodup_reverse]
          exact hOnce
        · intro key
          rw [hSubjects]
          refine Iff.trans ?_ (hKeys key).symm
          simp only [List.mem_map, List.mem_reverse, hMem]
  · rw [hRest, loop.error_iff hNot hFirst]
    constructor
    · exact Or.inl
    · rintro (hFails | ⟨hAll, hNodup, _⟩)
      · exact hFails
      · exact absurd ⟨hAll, hNodup⟩ hNot

end WriteLoop

--------
-- Creating
--------

variable (server : Server) (answers : Nat → Answer)
variable (auth : AuthContext) (collection : String)

/- The id under which call `n` stores a document. -/
def newId (n : Nat) (doc : Value) : String :=
  (doc.getStr "id").getD (answers n).uuid.val

/- The id that the event of a stored document carries. -/
def announcedId (n : Nat) (doc : Value) : String :=
  if doc.asObject.isSome then newId answers n doc
  else "unknown"

/- The document can be stored. -/
def Storable (w : World) (n : Nat) (doc : Value) : Prop :=
  Works collection (answers n) ∧
    w.rows collection (newId answers n doc) = none

/- Storing one document. -/
theorem exec_createDocument
    (hStorable : Storable answers collection w n doc) :
    exec server (.createDocument auth collection doc)
        (answers n) w =
      insertRow server auth collection (newId answers n doc)
        doc w := by
  change statement collection (answers n) w _ = _
  rw [statement_of_works hStorable.1]
  have hFree := hStorable.2
  unfold newId at hFree
  unfold createDocument
  simp only [hFree]
  rfl

theorem exec_createDocument_fails
    (hNot : ¬ Storable answers collection w n doc) :
    ∃ e, exec server (.createDocument auth collection doc)
        (answers n) w = (.error e, w) := by
  by_cases hWorks : Works collection (answers n)
  · change ∃ e, statement collection (answers n) w _ =
      (.error e, w)
    rw [statement_of_works hWorks]
    unfold createDocument
    dsimp only
    split
    · exact ⟨_, rfl⟩
    · rename_i hFree
      exact absurd ⟨hWorks, hFree⟩ hNot
  · exact statement_of_not_works hWorks _ _

theorem subject_createEvent
    (id : String)
    (row : Row) :
    subject (createEvent collection (document server id row)) =
      (collection,
        if row.data.asObject.isSome then id
        else "unknown") := by
  unfold subject createEvent document
  cases hData : row.data with
  | object fields =>
    simp [Value.getStr, Value.get, Value.lookup_insertField,
      Value.asStr, Value.asObject]
  | _ => simp [Value.getStr, Value.get, Value.asObject]

/- The loop of the store that creates documents. -/
def createLoop (finish : List Value → Prog Res Reply) :
    WriteLoop server answers collection Value where
  key := newId answers
  written := fun row => row ≠ none
  told := fun n doc stored =>
    subject (createEvent collection stored) =
      (collection, announcedId answers n doc)
  body := createEach auth collection finish
  step := by
    intro results doc docs n w hWorks hFree
    have hStorable : Storable answers collection w n doc :=
      ⟨hWorks, not_not.mp hFree⟩
    refine ⟨document server (newId answers n doc)
        ⟨doc, w.clock + 1, w.clock + 1, auth.user⟩,
      (insertRow server auth collection
        (newId answers n doc) doc w).2, ?_, ?_, rfl, ?_, ?_⟩
    · simp only [createEach, Prog.outcome]
      rw [exec_createDocument server answers auth collection
        hStorable]
      rfl
    · exact subject_createEvent server collection _ _
    · simp [insertRow, World.write]
    · intro key
      refine changed_write ?_ key
      rw [hStorable.2]
      exact Option.some_ne_none _
  stop := by
    intro results doc docs n w hNot
    have hFails : ¬ Storable answers collection w n doc :=
      fun h => hNot ⟨h.1, not_not.mpr h.2⟩
    rcases exec_createDocument_fails server answers auth
      collection hFails with ⟨e, hExec⟩
    simp only [createEach, Prog.outcome]
    rw [hExec]
    rfl

theorem createLoop_fits
    (finish : List Value → Prog Res Reply) :
    (createLoop server answers auth collection finish).Fits
        w n doc ↔
      Storable answers collection w n doc :=
  and_congr_right (fun _ => not_not)

/- The rules allow every document. -/
theorem outcome_permitAll
    (next : Prog Res Reply)
    (docs : List Value)
    (n : Nat)
    (w : World) :
    ((∀ doc ∈ docs,
        Allowed server collection "create" auth none
          (some doc)) ∧
      (permitAll server auth collection next docs).outcome
          (exec server) answers n w =
        next.outcome (exec server) answers n w) ∨
    ((¬ ∀ doc ∈ docs,
        Allowed server collection "create" auth none
          (some doc)) ∧
      ∃ message,
        (permitAll server auth collection next docs).outcome
            (exec server) answers n w =
          (.error message, w)) := by
  induction docs with
  | nil => exact Or.inl ⟨fun _ hMem => (nomatch hMem), rfl⟩
  | cons doc docs ih =>
    rcases permit_cases server collection "create" auth
        none (some doc) "Permission denied"
        (permitAll server auth collection next docs) with
      ⟨hDoc, hNext⟩ | ⟨hDoc, message, hNext⟩
    · rcases ih with ⟨hAll, hRun⟩ | ⟨hNot, message, hRun⟩
      · refine Or.inl
          ⟨List.forall_mem_cons.mpr ⟨hDoc, hAll⟩, ?_⟩
        rw [permitAll, hNext, hRun]
      · refine Or.inr ⟨?_, message, ?_⟩
        · intro hAll
          exact hNot (List.forall_mem_cons.mp hAll).2
        · rw [permitAll, hNext, hRun]
    · refine Or.inr ⟨?_, message, ?_⟩
      · intro hAll
        exact hDoc (List.forall_mem_cons.mp hAll).1
      · rw [permitAll, hNext]
        rfl

/-
  The call is refused before anything is stored, or its
  first document cannot be stored, or all documents can be
  stored, under ids of their own, and are objects.
-/
def CreatesTogether (w : World) (docs : List Value) : Prop :=
  docs.length > 500 ∨ (¬ ∀ doc ∈ docs,
      Allowed server collection "create" auth none
        (some doc)) ∨
    (∃ doc rest, docs = doc :: rest ∧
      ¬ Storable answers collection w 0 doc) ∨
    ((∀ i doc, docs[i]? = some doc →
        Storable answers collection w i doc) ∧
      (docs.mapIdx (newId answers)).Nodup ∧
      ∀ doc ∈ docs, doc.asObject.isSome = true)

/- The events of a loop that stored all documents. -/
theorem createLoop_told
    (finish : List Value → Prog Res Reply)
    {docs : List Value} :
    ∀ {n stored},
      (createLoop server answers auth collection finish).Told
        n docs stored →
      (stored.map (createEvent collection)).map subject =
        (docs.mapIdx (fun i doc =>
          announcedId answers (n + i) doc)).map
            (fun id => (collection, id)) := by
  induction docs with
  | nil =>
    intro n stored hTold
    cases stored with
    | nil => rfl
    | cons _ _ => exact hTold.elim
  | cons doc docs ih =>
    intro n stored hTold
    cases stored with
    | nil => exact hTold.elim
    | cons first rest =>
      have hFirst :
          subject (createEvent collection first) =
            (collection, announcedId answers n doc) :=
        hTold.1
      rw [List.map_cons, List.map_cons, ih hTold.2,
        hFirst, List.mapIdx_cons]
      simp [Nat.add_assoc, Nat.add_comm 1]

/- What is not an object is stored under a random id. -/
theorem newId_ne_unknown
    (hNot : doc.asObject.isSome ≠ true)
    (n : Nat) :
    newId answers n doc ≠ "unknown" := by
  have hUuid : newId answers n doc = (answers n).uuid.val := by
    cases doc <;> first | rfl | exact absurd rfl hNot
  intro hSame
  have hLength := (answers n).uuid.property
  rw [← hUuid, hSame] at hLength
  exact absurd hLength (by decide)

/- The event of what is not an object names no document. -/
theorem newId_not_announced
    {docs : List Value}
    (hNodup : (docs.mapIdx (newId answers)).Nodup)
    {i : Nat}
    {hLt : i < docs.length}
    (hNot : docs[i].asObject.isSome ≠ true) :
    newId answers i docs[i] ∉
      docs.mapIdx (announcedId answers) := by
  intro hMem
  rcases List.mem_mapIdx.mp hMem with ⟨j, hJ, hEq⟩
  unfold announcedId at hEq
  split at hEq
  · rename_i hObject
    have hSame : j = i := by
      have hGet :
          (docs.mapIdx (newId answers))[j]? =
            (docs.mapIdx (newId answers))[i]? := by
        simp [hEq, hJ, hLt]
      exact (List.getElem?_inj (by simpa using hJ)
        hNodup).mp hGet
    subst hSame
    exact hNot hObject
  · exact newId_ne_unknown answers hNot i hEq.symm

/- Events under the ids of the documents, all of them. -/
theorem announcedId_iff (docs : List Value) :
    ((docs.mapIdx (newId answers)).Nodup ∧
        ∀ doc ∈ docs, doc.asObject.isSome = true) ↔
      (docs.mapIdx (newId answers)).Nodup ∧
        (docs.mapIdx (announcedId answers)).Nodup ∧
        ∀ id, id ∈ docs.mapIdx (announcedId answers) ↔
          id ∈ docs.mapIdx (newId answers) := by
  constructor
  · rintro ⟨hNodup, hObjects⟩
    have hSame :
        docs.mapIdx (announcedId answers) =
          docs.mapIdx (newId answers) := by
      apply List.ext_getElem (by simp)
      intro i hI _
      simp [announcedId, hObjects]
    rw [hSame]
    exact ⟨hNodup, hNodup, fun _ => Iff.rfl⟩
  · rintro ⟨hNodup, _, hSame⟩
    refine ⟨hNodup, ?_⟩
    intro doc hMem
    by_contra hNot
    rcases List.getElem_of_mem hMem with ⟨i, hLt, rfl⟩
    refine newId_not_announced answers hNodup hNot
      ((hSame _).mpr ?_)
    exact List.mem_mapIdx.mpr ⟨i, hLt, rfl⟩

theorem batchCreate_iff
    (docs : List Value)
    (w : World) :
    AllOrNothing w
        ((batchCreate server auth collection docs).outcome
          (exec server) answers 0 w) ↔
      CreatesTogether server answers auth collection w
        (flattenDocs server docs) := by
  unfold batchCreate CreatesTogether
  generalize flattenDocs server docs = docs
  dsimp only
  by_cases hLong : docs.length > 500
  · rw [if_pos hLong]
    exact iff_of_true allOrNothing_of_same (Or.inl hLong)
  rw [if_neg hLong]
  rcases outcome_permitAll server answers auth collection _
    docs 0 w with ⟨hAllowed, hRun⟩ | ⟨hNot, message, hRun⟩
  swap
  · rw [hRun]
    exact iff_of_true allOrNothing_of_same
      (Or.inr (Or.inl hNot))
  rw [hRun]
  refine ((createLoop server answers auth collection
    _).whole_iff (fun _ => rfl) (fun done hTold =>
      createLoop_told server answers auth collection
        _ hTold)).trans ?_
  simp only [WriteLoop.AllFit, WriteLoop.keys,
    createLoop_fits, Nat.zero_add]
  rw [announcedId_iff, or_iff_right hLong,
    or_iff_right (not_not.mpr hAllowed)]
  rfl

--------
-- Documents Read for a Check
--------

variable (server : Server) (answers : Nat → Answer)
variable (auth : AuthContext) (collection : String)

/-
  Call `n` finds the document of an id, and the rules allow
  an operation on it.
-/
def Permitted
    (w : World)
    (operation id : String)
    (incoming : Option Value)
    (n : Nat) : Prop :=
  Works collection (answers n) ∧ ∃ doc,
      w.read server collection (bareId collection id) =
        some doc ∧
      Allowed server collection operation auth (some doc)
        incoming

/- A document is read and checked, or the request ends. -/
theorem outcome_checked
    (operation id : String)
    (incoming : Option Value)
    (denied : String)
    (next : Value → Prog Res Reply)
    (n : Nat)
    (w : World)
    {p : Prog Res Reply}
    (hProg :
      p = .call (.getDocument collection id) (fun found =>
        onSuccess found (fun existing =>
          permit server collection operation
            (securityContext auth (some existing) incoming)
            denied (next existing)))) :
    (Permitted server answers auth collection w operation id
        incoming n ∧
      ∃ doc,
        w.read server collection (bareId collection id) =
          some doc ∧
        p.outcome (exec server) answers n w =
          (next doc).outcome (exec server) answers (n + 1)
            w) ∨
    (¬ Permitted server answers auth collection w operation
        id incoming n ∧
      ∃ message, p.outcome (exec server) answers n w =
          (.error message, w)) := by
  subst hProg
  simp only [Prog.outcome, exec]
  by_cases hWorks : Works collection (answers n)
  · rw [statement_of_works hWorks]
    unfold getDocument
    split
    · rename_i doc hRead
      rcases permit_cases server collection operation auth
          (some doc) incoming denied (next doc) with
        ⟨hAllowed, hNext⟩ | ⟨hNot, message, hNext⟩
      · refine Or.inl ⟨⟨hWorks, doc, hRead, hAllowed⟩, doc,
          hRead, ?_⟩
        simp only [onSuccess, hNext]
      · refine Or.inr ⟨?_, message, ?_⟩
        · rintro ⟨_, other, hOther, hAllowed⟩
          rw [hRead] at hOther
          cases hOther
          exact hNot hAllowed
        · simp only [onSuccess, hNext]
          rfl
    · rename_i hRead
      refine Or.inr ⟨?_, internalError, rfl⟩
      rintro ⟨_, doc, hDoc, _⟩
      rw [hRead] at hDoc
      cases hDoc
  · rcases statement_of_not_works hWorks w
      (getDocument server collection id w) with ⟨e, hGet⟩
    rw [hGet]
    exact Or.inr ⟨fun h => hWorks h.1, internalError, rfl⟩

--------
-- Deleting
--------

variable (server : Server) (answers : Nat → Answer)
variable (auth : AuthContext) (collection : String)

theorem exec_deleteDocument
    {w : World}
    {n : Nat}
    {id : String}
    {row : Row}
    (hWorks : Works collection (answers n))
    (hRow :
      w.rows collection (bareId collection id) = some row) :
    exec server (.deleteDocument auth collection id)
        (answers n) w =
      (.ok (removed (bareId collection id) row), w.write
          ⟨auth, collection, bareId collection id, none,
            some (document server (bareId collection id)
              row)⟩
          none) := by
  change statement collection (answers n) w _ = _
  rw [statement_of_works hWorks]
  unfold deleteDocument
  rw [hRow]

theorem exec_deleteDocument_fails
    {w : World}
    {n : Nat}
    {id : String}
    (hNot :
      ¬ (Works collection (answers n) ∧
        w.rows collection (bareId collection id) ≠ none)) :
    ∃ e, exec server (.deleteDocument auth collection id)
        (answers n) w = (.error e, w) := by
  by_cases hWorks : Works collection (answers n)
  · change ∃ e, statement collection (answers n) w _ =
      (.error e, w)
    rw [statement_of_works hWorks]
    unfold deleteDocument
    split
    · exact ⟨_, rfl⟩
    · rename_i row hRow
      refine absurd ⟨hWorks, ?_⟩ hNot
      rw [hRow]
      exact Option.some_ne_none row
  · exact statement_of_not_works hWorks _ _

/- The loop of the store that removes documents. -/
def deleteLoop (finish : List Value → Prog Res Reply) :
    WriteLoop server answers collection String where
  key := fun _ id => bareId collection id
  written := fun row => row = none
  told := fun _ _ _ => True
  body := deleteEach auth collection finish
  step := by
    intro results id ids n w hWorks hSome
    rcases Option.ne_none_iff_exists'.mp hSome with
      ⟨row, hRow⟩
    refine ⟨removed (bareId collection id) row, w.write
        ⟨auth, collection, bareId collection id, none,
          some (document server (bareId collection id) row)⟩
        none, ?_, trivial, rfl, ?_, ?_⟩
    · simp only [deleteEach, Prog.outcome]
      rw [exec_deleteDocument server answers auth collection
        hWorks hRow]
      rfl
    · simp [World.write]
    · intro key
      refine changed_write ?_ key
      rw [hRow]
      exact (Option.some_ne_none row).symm
  stop := by
    intro results id ids n w hNot
    rcases exec_deleteDocument_fails server answers auth
      collection hNot with ⟨e, hExec⟩
    simp only [deleteEach, Prog.outcome]
    rw [hExec]
    rfl

/- Every document is found and may be removed. -/
theorem outcome_permitDeletes
    (next : Prog Res Reply)
    (ids : List String)
    (w : World) :
    ∀ n,
      ((∀ i id, ids[i]? = some id →
          Permitted server answers auth collection w
            "delete" id none (n + i)) ∧
        (permitDeletes server auth collection next
            ids).outcome (exec server) answers n w =
          next.outcome (exec server) answers
            (n + ids.length) w) ∨
      ((¬ ∀ i id, ids[i]? = some id →
          Permitted server answers auth collection w
            "delete" id none (n + i)) ∧
        ∃ message,
          (permitDeletes server auth collection next
              ids).outcome (exec server) answers n w =
            (.error message, w)) := by
  induction ids with
  | nil =>
    intro n
    exact Or.inl ⟨fun _ _ hGet => (nomatch hGet), rfl⟩
  | cons id ids ih =>
    intro n
    rcases outcome_checked server answers auth collection
        "delete" id none (deniedFor id)
        (fun _ => permitDeletes server auth collection next
          ids) n w
        (p := permitDeletes server auth collection next
          (id :: ids)) rfl with
      ⟨hFirst, doc, _, hRun⟩ | ⟨hNot, message, hRun⟩
    · rcases ih (n + 1) with
        ⟨hAll, hRest⟩ | ⟨hNot, message, hRest⟩
      · refine Or.inl ⟨?_, ?_⟩
        · intro i x hGet
          cases i with
          | zero =>
            cases hGet
            exact hFirst
          | succ i =>
            have hNext := hAll i x (by simpa using hGet)
            rwa [Nat.add_right_comm, Nat.add_assoc] at hNext
        · rw [hRun, hRest, List.length_cons,
            Nat.add_right_comm, Nat.add_assoc]
      · refine Or.inr
          ⟨fun hAll => hNot ?_, message, hRun.trans hRest⟩
        intro i x hGet
        have hNext := hAll (i + 1) x (by simpa using hGet)
        rwa [← Nat.add_assoc, Nat.add_right_comm] at hNext
    · exact Or.inr
        ⟨fun hAll => hNot (hAll 0 id rfl), message, hRun⟩

/- The events of a loop that removed all documents. -/
theorem subjects_deleteEvents
    {ids : List String}
    {done : List Value}
    (hLength : done.length = ids.length) :
    ((ids.zip done).map (fun pair =>
        deleteEvent collection pair.1 pair.2 pair.2)).map
          subject =
      (ids.map (bareId collection)).map
        (fun id => (collection, id)) := by
  have hIds : (ids.zip done).map Prod.fst = ids :=
    List.map_fst_zip (Nat.le_of_eq hLength.symm)
  conv => rhs; rw [← hIds]
  simp only [List.map_map]
  rfl

/-
  The call is refused while the documents are read, or the
  first removal fails, or no removal fails and the ids are
  those of different documents.
-/
def DeletesTogether (w : World) (ids : List String) : Prop :=
  ids.length > 500 ∨ (¬ ∀ i id, ids[i]? = some id →
      Permitted server answers auth collection w "delete" id
        none i) ∨
    (ids ≠ [] ∧ ¬ Works collection (answers ids.length)) ∨
    ((∀ i < ids.length,
        Works collection (answers (ids.length + i))) ∧
      (ids.map (bareId collection)).Nodup)

theorem batchDelete_iff
    (ids : List String)
    (w : World) :
    AllOrNothing w
        ((batchDelete server auth collection ids).outcome
          (exec server) answers 0 w) ↔
      DeletesTogether server answers auth collection w
        ids := by
  unfold batchDelete DeletesTogether
  by_cases hLong : ids.length > 500
  · rw [if_pos hLong]
    exact iff_of_true allOrNothing_of_same (Or.inl hLong)
  rw [if_neg hLong]
  rcases outcome_permitDeletes server answers auth collection
    _ ids w 0 with ⟨hAll, hRun⟩ | ⟨hNot, message, hRun⟩
  swap
  · rw [hRun]
    refine iff_of_true allOrNothing_of_same
      (Or.inr (Or.inl ?_))
    simpa only [Nat.zero_add] using hNot
  rw [hRun]
  simp only [Nat.zero_add] at hAll ⊢
  have hStored :
      ∀ (i : Nat) id, ids[i]? = some id →
        w.rows collection (bareId collection id) ≠ none := by
    intro i id hGet hNone
    rcases hAll i id hGet with ⟨_, doc, hRead, _⟩
    unfold World.read at hRead
    rw [hNone] at hRead
    cases hRead
  refine ((deleteLoop server answers auth collection
    _).whole_iff (fun _ => rfl) (fun done hTold =>
      subjects_deleteEvents collection
        (hTold.length_eq _))).trans ?_
  rw [or_iff_right hLong, or_iff_right (not_not.mpr hAll)]
  have hKeys :
      (deleteLoop server answers auth collection
          (fun results =>
            sendAll ((ids.zip results).map (fun pair =>
                deleteEvent collection pair.1 pair.2 pair.2))
              (.ret (.ok results)))).keys ids.length ids =
        ids.map (bareId collection) := by
    apply List.ext_getElem
    · simp [WriteLoop.keys]
    · simp [WriteLoop.keys, deleteLoop]
  rw [hKeys]
  refine or_congr ?_ ?_
  · constructor
    · rintro ⟨id, rest, rfl, hFails⟩
      refine ⟨List.cons_ne_nil _ _, ?_⟩
      exact fun hWorks => hFails ⟨hWorks, hStored 0 id rfl⟩
    · rintro ⟨hSome, hFails⟩
      rcases List.exists_cons_of_ne_nil hSome with
        ⟨id, rest, rfl⟩
      exact ⟨id, rest, rfl, fun hFits => hFails hFits.1⟩
  · constructor
    · rintro ⟨hFit, hNodup, _⟩
      refine ⟨?_, hNodup⟩
      intro i hLt
      exact (hFit i _ (List.getElem?_eq_getElem hLt)).1
    · rintro ⟨hWorks, hNodup⟩
      refine ⟨?_, hNodup, hNodup, fun _ => Iff.rfl⟩
      intro i id hGet
      have hLt : i < ids.length :=
        (List.getElem?_eq_some_iff.mp hGet).1
      exact ⟨hWorks i hLt, hStored i id hGet⟩

end Orignabase.Graphql
