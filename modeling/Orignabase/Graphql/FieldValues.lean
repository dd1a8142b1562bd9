import Orignabase.Graphql.Enforcement
import Orignabase.Lib.Histories

/-
  Markers in the data of an update: what they stand for, and
  what the store makes of them
  (`ob-graphql/src/resolvers.rs`,
  `ob-database/src/pg_store.rs`).

  Key definitions include:
    * `FieldValue`
    * `applyPatch`
    * `intend`
    * `Unmarked`

  Main results:
    * `docs_exec_iff`
    * `field_values_iff`
-/

--------
-- Markers
--------

namespace Orignabase

/- The sum of two decimals. -/
def Number.add (m n : Number) : Number :=
  let e := min m.exponent n.exponent
  let sum := m.scaled e + n.scaled e
  { negative := decide (sum < 0)
    int := sum.natAbs
    exp := some (decide (e < 0), e.natAbs) }

def Number.zero : Number :=
  { int := 0 }

end Orignabase

namespace Orignabase.Graphql

open Security

/- What a marker asks for. -/
inductive FieldValue
  | serverTimestamp
  | increment (n : Number)
  | arrayUnion (values : List Value)
  | arrayRemove (values : List Value)
  | deleteField

/- The marker that a value is, if it is one. -/
def FieldValue.of : Value → Option FieldValue
  | .object [("_serverTimestamp", .bool true)] =>
    some .serverTimestamp
  | .object [("_increment", .number n)] =>
    some (.increment n)
  | .object [("_arrayUnion", .array values)] =>
    some (.arrayUnion values)
  | .object [("_arrayRemove", .array values)] =>
    some (.arrayRemove values)
  | .object [("_deleteField", .bool true)] =>
    some .deleteField
  | _ => none

def hasElement
    (floats : Floats)
    (v : Value)
    (values : List Value) : Bool :=
  values.any (fun u => u.eq floats v)

/- Add the elements that are missing. -/
def union (floats : Floats) (old new : List Value) :
    List Value :=
  new.foldl (fun values v =>
      if hasElement floats v values then values
      else values ++ [v])
    old

def elements (old : Option Value) : List Value :=
  (old.bind Value.asArray).getD []

def amount : Option Value → Number
  | some (.number n) => n
  | _ => .zero

/- The field after the marker took effect at the given time. -/
def FieldValue.apply
    (floats : Floats)
    (time : String)
    (old : Option Value) : FieldValue → Option Value
  | .serverTimestamp => some (.string time)
  | .increment n => some (.number ((amount old).add n))
  | .arrayUnion values =>
    some (.array (union floats (elements old) values))
  | .arrayRemove values =>
    some (.array ((elements old).filter
      (fun v => !hasElement floats v values)))
  | .deleteField => none

/- What a field becomes when a value is written to it. -/
def writeField
    (floats : Floats)
    (time : String)
    (old : Option Value)
    (v : Value) : Option Value :=
  match FieldValue.of v with
  | none => some v
  | some marker => marker.apply floats time old

/- A marker is never what it stands for. -/
theorem writeField_eq_iff
    (floats : Floats)
    (time : String)
    (old : Option Value)
    (v : Value) :
    writeField floats time old v = some v ↔
      FieldValue.of v = none := by
  unfold writeField
  cases hMarker : FieldValue.of v with
  | none => exact ⟨fun _ => rfl, fun _ => rfl⟩
  | some marker =>
    have hObject : ∃ fields, v = .object fields := by
      unfold FieldValue.of at hMarker
      split at hMarker <;>
        first | exact ⟨_, rfl⟩ | cases hMarker
    rcases hObject with ⟨fields, rfl⟩
    cases marker <;> simp [FieldValue.apply]

--------
-- Documents
--------

open Conc

/- A document as the values of its fields. -/
abbrev Doc : Type :=
  String → Option Value

/- The fields that are not patched stay as they are. -/
def applyPatch
    (floats : Floats)
    (time : String)
    (patch : List (String × Value))
    (doc : Doc) : Doc :=
  fun field =>
    match patch.lookup field with
    | none => doc field
    | some v => writeField floats time (doc field) v

def Row.doc (row : Row) : Option Doc :=
  match row.data with
  | .object fields => some (fun field => fields.lookup field)
  | _ => none

/- The documents of a store, by collection and id. -/
def World.docs (w : World) : String → String → Option Doc :=
  fun collection id => (w.rows collection id).bind Row.doc

/- The documents as they are meant, after some statements. -/
structure Intended where
  docs : String → String → Option Doc
  statements : Nat

variable (floats : Floats) (now : Nat → String)

/-
  What a statement is meant to do: an update that succeeds
  applies its patch to the document, at the server's time.
-/
def intend
    (s : Intended)
    (e : Event Res Answer) : Intended where
  docs :=
    match e.op, e.ans.fault with
    | .updateDocument _ collection id (.object patch), none =>
      if (validateIdentifier collection).isOk then
        fun c i =>
          if c = collection ∧ i = bareId collection id then
            (s.docs c i).map
              (applyPatch floats (now s.statements) patch)
          else s.docs c i
      else s.docs
    | _, _ => s.docs
  statements := s.statements + 1

/- A successful update of a document brings no marker. -/
def Unmarked (w : World) (e : Event Res Answer) : Prop :=
  match e.op with
  | .updateDocument _ collection id (.object patch) =>
    (validateIdentifier collection).isOk = true →
    e.ans.fault = none →
    w.docs collection (bareId collection id) ≠ none →
    ∀ field v, patch.lookup field = some v →
      FieldValue.of v = none
  | _ => True

/- The statements of an update with field values. -/
def IsFieldUpdate : Op → Prop
  | .getDocument .. => True
  | .updateDocument _ _ _ data =>
    ∃ patch, data = .object patch
  | .send _ => True
  | _ => False

--------
-- Statements
--------

variable {server : Server} {now : Nat → String}
variable {w : World} {s : Intended}

theorem applyPatch_eq_iff
    (floats : Floats)
    (time : String)
    (patch : List (String × Value))
    (doc : Doc) :
    ((fun field => (patch.lookup field).or (doc field)) =
        applyPatch floats time patch doc) ↔
      ∀ field v, patch.lookup field = some v →
        FieldValue.of v = none := by
  constructor
  · intro hSame field v hPatch
    have hField := congrFun hSame field
    unfold applyPatch at hField
    simp only [hPatch] at hField
    exact (writeField_eq_iff floats time _ v).mp hField.symm
  · intro hPlain
    funext field
    unfold applyPatch
    cases hPatch : patch.lookup field with
    | none => rfl
    | some v =>
      exact ((writeField_eq_iff floats time _ v).mpr
        (hPlain field v hPatch)).symm

/- Merging a patch into what a row holds. -/
theorem doc_concat
    (row : Row)
    (patch : List (String × Value))
    (time : Nat) :
    Row.doc
        { row with
          data := row.data.concat (.object patch)
          updatedAt := time } =
      row.doc.map (fun doc field =>
        (patch.lookup field).or (doc field)) := by
  unfold Row.doc
  cases row.data with
  | object fields =>
    change some (fun field =>
      (Value.merge fields patch).lookup field) = _
    simp only [Value.lookup_merge, Option.map_some]
  | _ => rfl

theorem rows_statement_ok
    {collection : String}
    {a : Answer}
    (hValid : (validateIdentifier collection).isOk = true)
    (hFault : a.fault = none)
    (body : Except Error Value × World) :
    statement collection a w body = body := by
  unfold statement
  split
  next hError => rw [hError] at hValid; cases hValid
  next hSome => rw [hFault] at hSome; cases hSome
  next => rfl

theorem rows_statement_error
    {collection : String}
    {a : Answer}
    (hBad : ¬ ((validateIdentifier collection).isOk = true ∧
      a.fault = none))
    (body : Except Error Value × World) :
    (statement collection a w body).2 = w := by
  unfold statement
  split
  next => rfl
  next => rfl
  next hValid hFault =>
    exact absurd ⟨by rw [hValid]; rfl, hFault⟩ hBad

/- The documents after an update. -/
theorem docs_updateDocument
    (auth : AuthContext)
    (collection id : String)
    (patch : List (String × Value)) :
    (updateDocument server auth collection id
        (.object patch) w).2.docs =
      fun c i =>
        if c = collection ∧ i = bareId collection id then
          (w.docs c i).map (fun doc field =>
            (patch.lookup field).or (doc field))
        else w.docs c i := by
  unfold updateDocument
  funext c i
  cases hRow : w.rows collection (bareId collection id) with
  | none =>
    by_cases hSame : c = collection ∧
        i = bareId collection id
    · rw [if_pos hSame, hSame.1, hSame.2]
      unfold World.docs
      rw [hRow]
      rfl
    · rw [if_neg hSame]
  | some row =>
    unfold mergeRow World.docs World.write
    dsimp only
    by_cases hSame : c = collection ∧
        i = bareId collection id
    · rw [if_pos hSame, if_pos hSame, hSame.1, hSame.2,
        hRow]
      exact doc_concat row patch _
    · rw [if_neg hSame, if_neg hSame]

variable (server now)

/- A statement means what it should if it has no markers. -/
theorem docs_exec_iff
    {e : Event Res Answer}
    (hOp : IsFieldUpdate e.op)
    (hDocs : w.docs = s.docs) :
    (exec server e.op e.ans w).2.docs =
        (intend server.floats now s e).docs ↔
      Unmarked w e := by
  rcases e with ⟨o, a, r⟩
  cases o with
  | getDocument collection id =>
    have hSame :
        (exec server (.getDocument collection id) a
          w).2 = w := by
      rcases statement_cases collection a w
        (getDocument server collection id w) with
        hSame | hDone
      · exact hSame
      · change (statement collection a w _).2 = w
        rw [hDone]
        unfold getDocument
        split <;> rfl
    rw [hSame]
    exact ⟨fun _ => trivial, fun _ => hDocs⟩
  | send event => exact ⟨fun _ => trivial, fun _ => hDocs⟩
  | updateDocument auth collection id data =>
    rcases hOp with ⟨patch, rfl⟩
    unfold Unmarked
    dsimp only [exec, intend]
    by_cases hDone :
        (validateIdentifier collection).isOk = true ∧
          a.fault = none
    · rw [rows_statement_ok hDone.1 hDone.2,
        docs_updateDocument, hDone.2]
      dsimp only
      rw [if_pos hDone.1, ← hDocs]
      constructor
      · intro hSame _ _ hStored
        rcases Option.ne_none_iff_exists'.mp hStored with
          ⟨doc, hDoc⟩
        have hHere := congrFun (congrFun hSame collection)
          (bareId collection id)
        simp only [and_self, if_true, hDoc,
          Option.map_some, Option.some.injEq] at hHere
        exact (applyPatch_eq_iff server.floats
          (now s.statements) patch doc).mp hHere
      · intro hPlain
        funext c i
        by_cases hSame : c = collection ∧
            i = bareId collection id
        · rw [if_pos hSame, if_pos hSame, hSame.1, hSame.2]
          cases hDoc : w.docs collection
              (bareId collection id) with
          | none => rfl
          | some doc =>
            have hApplied := (applyPatch_eq_iff
              server.floats (now s.statements) patch
              doc).mpr (hPlain hDone.1 rfl (by
                rw [hDoc]
                exact Option.some_ne_none doc))
            exact congrArg some hApplied
        · rw [if_neg hSame, if_neg hSame]
    · rw [rows_statement_error hDone]
      constructor
      · intro _ hValid hFault
        exact absurd ⟨hValid, hFault⟩ hDone
      · intro _
        rw [hDocs]
        split
        next hUpdate hFault =>
          cases hUpdate
          rw [if_neg (fun hValid =>
            hDone ⟨hValid, hFault⟩)]
        next => rfl
  | createDocument auth collection data => cases hOp
  | upsertDocument auth collection id data => cases hOp
  | deleteDocument auth collection id => cases hOp

--------
-- Runs
--------

/- A request for an update with field values. -/
structure FieldUpdate where
  auth : AuthContext
  collection : String
  id : String
  data : Value

def FieldUpdate.body
    (server : Server)
    (request : FieldUpdate) : Prog Res Reply :=
  updateWithFieldValues server request.auth
    request.collection request.id request.data

theorem uses_body
    (server : Server)
    (request : FieldUpdate)
    (hPatch : ∃ patch,
      normalizeData server request.data = .object patch) :
    (request.body server).Uses IsFieldUpdate := by
  refine ⟨trivial, fun found => ?_⟩
  cases found with
  | error e => trivial
  | ok existing =>
    unfold onSuccess permit
    dsimp only
    split
    · trivial
    · trivial
    · refine ⟨hPatch, fun result => ?_⟩
      cases result with
      | error e => trivial
      | ok doc => exact ⟨trivial, fun _ => trivial⟩

/- The store after the statements of a journal. -/
def World.replay
    (server : Server)
    (w : World)
    (past : List (Entry Res Answer)) : World :=
  History.after
    (fun w e => (exec server e.event.op e.event.ans w).2)
    w past

/- What these statements are meant to make of a store. -/
def World.intended
    (server : Server)
    (now : Nat → String)
    (w : World)
    (past : List (Entry Res Answer)) : Intended :=
  History.after
    (fun s e => intend server.floats now s e.event)
    ⟨w.docs, 0⟩ past

theorem docs_replay_iff
    (server : Server)
    (now : Nat → String)
    (w : World)
    (events : List (Entry Res Answer))
    (hUses : ∀ e ∈ events, IsFieldUpdate e.event.op) :
    (∀ past, past <+: events → (w.replay server past).docs =
        (w.intended server now past).docs) ↔
      ∀ past e, past ++ [e] <+: events →
        Unmarked (w.replay server past) e.event := by
  have hAlways := History.always_iff (P := fun past =>
      (∀ e ∈ past, IsFieldUpdate e.event.op) →
        (w.replay server past).docs =
          (w.intended server now past).docs)
    (fun _ => rfl)
    (fun past e hPast =>
      show _ ↔ ((∀ x ∈ past ++ [e],
          IsFieldUpdate x.event.op) →
        Unmarked (w.replay server past) e.event) by
      apply forall_congr'
      intro hAll
      have hSplit := List.forall_mem_append.mp hAll
      have hStep := docs_exec_iff server now
        (hSplit.2 e List.mem_cons_self) (hPast hSplit.1)
      unfold World.replay World.intended
      rw [History.after_append, History.after_append]
      exact hStep) events
  constructor
  · intro hDocs past e hPast
    apply hAlways.mp (fun before hBefore _ =>
      hDocs before hBefore) past e hPast
    intro x hMember
    exact hUses x (hPast.subset hMember)
  · intro hPlain past hPast
    apply hAlways.mpr (fun before e hBefore _ =>
      hPlain before e hBefore) past hPast
    intro e hMember
    exact hUses e (hPast.subset hMember)

/-
  In a run of any requests with patches, interleaved in any
  way, the documents are what the patches mean after every
  statement exactly if no patch that is applied has a marker.
-/
theorem field_values_iff
    (server : Server)
    (now : Nat → String)
    (w : World)
    (requests : List FieldUpdate)
    (hPatches : ∀ request ∈ requests, ∃ patch,
      normalizeData server request.data = .object patch)
    {log : List (Entry Res Answer)}
    {c : Config Res Answer World Reply}
    (hRuns : Runs (exec server) (fun _ _ _ _ => True)
      (Config.start w
        (requests.map (FieldUpdate.body server))) log c) :
    c.world = w.replay server log.reverse ∧
      ((∀ past, past <+: log.reverse →
        (w.replay server past).docs =
          (w.intended server now past).docs) ↔
        ∀ past e, past ++ [e] <+: log.reverse →
          Unmarked (w.replay server past) e.event) := by
  constructor
  · rw [hRuns.world_eq]
    unfold World.replay History.after
    rw [List.foldl_reverse]
    rfl
  · apply docs_replay_iff
    intro e hMember
    refine hRuns.uses ?_ e (List.mem_reverse.mp hMember)
    apply Config.uses_start
    intro p hProgram
    rcases List.mem_map.mp hProgram with
      ⟨request, hRequest, rfl⟩
    exact uses_body server request
      (hPatches request hRequest)

/- Two clients add to the amount in a cart. -/
def addTo (user : String) (n : Nat) : FieldUpdate where
  auth := signedIn user
  collection := "cart"
  id := "c1"
  data := .object [("amount", .object
        [("_increment", .number { int := n })])]

/- A cart of alice with an amount of one. -/
def cartWorld : World where
  rows := fun collection id =>
    if collection = "cart" ∧ id = "c1" then
      some ⟨.object [("amount", .number { int := 1 }),
            ("userId", .string "alice")], 0, 0, some "alice"⟩
    else none
  clock := 0
  sent := []
  writes := []

def amountOf (docs : String → String → Option Doc) :
    Option (Option Value) :=
  (docs "cart" "c1").map (fun doc => doc "amount")

/- Whether the amount is a number, and which one. -/
def amountIs (n : Int) (docs : String → String → Option Doc) :
    Bool :=
  match amountOf docs with
  | some (some (.number m)) => m.scaled 0 = n
  | _ => false

def addBoth : List FieldUpdate :=
  [addTo "alice" 2, addTo "alice" 3]

def addingRun : Config Res Answer World Reply :=
  Config.start cartWorld
    (addBoth.map (FieldUpdate.body shopServer))

/- Both read the cart, then both write to it. -/
def addingTurns : List (Nat × Answer) :=
  [(0, fine), (1, fine), (0, fine), (1, fine)]

def addingLog : List (Entry Res Answer) :=
  addingRun.journal (exec shopServer) addingTurns []

/-
  Two increments of one are meant to make six of it.  The
  store keeps the second marker instead.
-/
theorem increments_lost :
    (∃ c, Runs (exec shopServer) (fun _ _ _ _ => True)
        addingRun addingLog c ∧
      amountIs 6 (cartWorld.intended shopServer toString
        addingLog.reverse).docs = true ∧
      amountIs 6 c.world.docs = false) ∧
    ¬ ∀ (server : Server) (now : Nat → String) (w : World)
        (requests : List FieldUpdate)
        (log : List (Entry Res Answer))
        (c : Config Res Answer World Reply),
      (∀ request ∈ requests, ∃ patch,
        normalizeData server request.data = .object patch) →
      Runs (exec server) (fun _ _ _ _ => True)
        (Config.start w
          (requests.map (FieldUpdate.body server))) log c →
      c.world.docs =
        (w.intended server now log.reverse).docs := by
  have hMeant :
      amountIs 6 (cartWorld.intended shopServer toString
        addingLog.reverse).docs = true := by
    decide
  have hRun :
      (addingRun.run (exec shopServer) addingTurns).any
        (fun c => !amountIs 6 c.world.docs) = true := by
    decide
  rcases (Option.any_eq_true _ _).mp hRun with
    ⟨c, hRun, hEnd⟩
  have hRuns :
      Runs (exec shopServer) (fun _ _ _ _ => True)
        addingRun addingLog c :=
    Runs.of_run Runs.refl hRun
      (Reach.Meets.of_forall (fun _ _ _ _ => trivial) _ _)
  rw [Bool.not_eq_true'] at hEnd
  refine ⟨⟨c, hRuns, hMeant, hEnd⟩, fun hAll => ?_⟩
  have hDocs := hAll shopServer toString cartWorld addBoth
    addingLog c
    (by
      intro request hRequest
      simp only [addBoth, List.mem_cons, List.not_mem_nil,
        or_false] at hRequest
      rcases hRequest with rfl | rfl
      · exact ⟨_, rfl⟩
      · exact ⟨_, rfl⟩) hRuns
  rw [hDocs, hMeant] at hEnd
  cases hEnd

/- An update of the text of a cart means what it says. -/
def renameCart : FieldUpdate where
  auth := signedIn "alice"
  collection := "cart"
  id := "c1"
  data := .object [("note", .string "gift")]

theorem note_means_note :
    ∃ (log : List (Entry Res Answer))
        (c : Config Res Answer World Reply),
      log.length = 2 ∧
      c.world = cartWorld.replay shopServer log.reverse ∧
      ((∀ past, past <+: log.reverse →
        (cartWorld.replay shopServer past).docs =
          (cartWorld.intended shopServer toString past).docs)
        ↔
        ∀ past e, past ++ [e] <+: log.reverse →
          Unmarked (cartWorld.replay shopServer past)
            e.event) := by
  have hRun :
      ((Config.start cartWorld ([renameCart].map
          (FieldUpdate.body shopServer))).run
          (exec shopServer) [(0, fine), (0, fine)]).any
        (fun _ => true) = true := by
    decide
  rcases (Option.any_eq_true _ _).mp hRun with ⟨c, hRun, _⟩
  have hRuns :
      Runs (exec shopServer) (fun _ _ _ _ => True)
        (Config.start cartWorld ([renameCart].map
            (FieldUpdate.body shopServer))) _ c :=
    Runs.of_run Runs.refl hRun
      (Reach.Meets.of_forall (fun _ _ _ _ => trivial) _ _)
  refine ⟨_, c, ?_,
    field_values_iff shopServer toString cartWorld
      [renameCart]
      (by
        intro request hRequest
        rcases List.mem_singleton.mp hRequest with rfl
        exact ⟨_, rfl⟩) hRuns⟩
  decide

end Orignabase.Graphql
