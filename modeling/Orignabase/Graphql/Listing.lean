import Orignabase.Database.Query
import Orignabase.Graphql.Enforcement

/-
  The list query of the API
  (`ob-graphql/src/resolvers.rs`, `QueryRoot::list`).

  The documents stay as they are while one request is
  answered, and every SELECT has one order of its rows that
  LIMIT and OFFSET count in.  Which rows a SELECT finds is
  given by the database.  The loop of the resolver runs for
  a number of rounds; without a result it is still running.

  Key definitions include:
    * `Core`, `Query`
    * `Database`
    * `fetchLoop`
    * `ListRequest.list`
    * `PageHolds`

  Main results:
    * `text_query`
    * `fetchLoop_sliced`
    * `fetchLoop_whole`
    * `list_page_iff`
-/

--------
-- Queries
--------

namespace Orignabase.Graphql

open Security QueryTranslator

/- A SELECT without LIMIT and OFFSET. -/
structure Core where
  collection : String
  columns : String := "*"
  whereParts : List String := []
  order : String := ""
  deriving DecidableEq, Repr

def Core.text (core : Core) : String :=
  "SELECT " ++ core.columns ++ " FROM " ++ core.collection ++
    (if core.whereParts.isEmpty then ""
    else " WHERE " ++ Text.join " AND " core.whereParts) ++
    core.order

structure Query where
  core : Core
  limit : Option Nat
  offset : Option Nat
  deriving DecidableEq, Repr

def Query.text (q : Query) : String :=
  q.core.text ++ countClause " LIMIT " q.limit ++
    countClause " OFFSET " q.offset

/- What is selected from a collection with a bad name. -/
def nothing : Core where
  collection := "_invalid_collection"
  whereParts := ["false"]

/- All documents of a collection. -/
def everything (collection : String) : Core where
  collection := collection

/- The SELECT that `list_documents` sends. -/
def listCore (collection : String) : Core where
  collection := collection
  columns := "id, data::TEXT, created_at, updated_at"
  order := " ORDER BY created_at DESC"

/- A document that was found, under the id it is stored at. -/
structure Found where
  id : String
  doc : Value
  deriving DecidableEq, Repr

/-
  The rows of every SELECT, in a fixed order.  A document is
  one row of its table, so no SELECT finds it twice.
-/
structure Database where
  rows : Core → Except Error (List Found)
  once :
    ∀ core found, rows core = .ok found →
      (found.map Found.id).Nodup
  never :
    ∀ found, rows nothing = .ok found → found = []

def slice
    (limit offset : Option Nat)
    (rows : List Found) : List Found :=
  match limit with
  | none => rows.drop (offset.getD 0)
  | some n => (rows.drop (offset.getD 0)).take n

def Database.queryRaw (db : Database) (q : Query) :
    Except Error (List Found) :=
  (db.rows q.core).map (slice q.limit q.offset)

def Database.listDocuments
    (db : Database)
    (collection : String)
    (limit offset : Option Nat) :
    Except Error (List Found) :=
  match validateIdentifier collection with
  | .error e => .error e
  | .ok table =>
    db.queryRaw
      { core := listCore table
        limit := some (min (limit.getD 1000) 10000)
        offset := some (offset.getD 0) }

--------
-- The Resolver
--------

def sensitiveFieldsAll : List String :=
  ["hashedPassword", "mfaSecret", "mfaRecoveryCodes",
    "refreshToken", "encryptedTotpSecret", "passwordSalt"]

def sensitiveFieldsNonAdmin : List String :=
  ["stripeConnectId", "stripeCustomerId",
    "bankAccountLast4", "internalNotes"]

def stripSensitiveFields (doc : Value) (roles : List String) :
    Value :=
  match doc with
  | .object fields =>
    .object (fields.filter (fun field =>
      ! sensitiveFieldsAll.contains field.1 &&
        (roles.contains "admin" ||
          ! sensitiveFieldsNonAdmin.contains field.1)))
  | v => v

variable (server : Server)

/- An error of the rules counts as a refusal. -/
def docIsReadable
    (auth : AuthContext)
    (collection : String)
    (doc : Value) : Bool :=
  match server.rules.check server.floats collection "read"
      (securityContext auth (some doc) none) with
  | .ok verdict => verdict
  | .error _ => false

/- The arguments of the query. -/
structure ListRequest where
  auth : AuthContext
  collection : String
  filters : Option Value := none
  orderBy : Option String := none
  descending : Bool := false
  limit : Option Int := none
  offset : Option Int := none
  startAfter : Option String := none
  fields : Option (List String) := none

namespace ListRequest

variable (request : ListRequest)

/- Twenty documents by default, and never more than 100. -/
def requestedLimit : Nat :=
  (max 1 (min 100 (request.limit.getD 20))).toNat

def fetchLimit : Nat :=
  if request.startAfter.isSome then
    request.requestedLimit + 1
  else request.requestedLimit

def firstOffset : Nat :=
  (max 0 (request.offset.getD 0)).toNat

def useSimpleList : Bool :=
  request.filters.isNone && request.orderBy.isNone &&
    ! request.descending && request.startAfter.isNone &&
    request.fields.isNone

/- The SELECT of a request, as `build_select_ext` has it. -/
def query (offset : Nat) : Query :=
  if !isIdentifier request.collection then
    ⟨nothing, none, none⟩
  else
    match selectFields request.fields with
    | none => ⟨everything request.collection, none, none⟩
    | some columns =>
      { core :=
          { collection := request.collection
            columns := columns
            whereParts := filterParts (request.filters.map
                    (normalizeData server)) ++
                cursorParts request.collection
                  request.orderBy request.descending
                  request.startAfter
            order := orderClause request.orderBy
                request.descending }
        limit := some request.fetchLimit
        offset := some offset }

/- The documents that are fetched at an offset. -/
def fetch (db : Database) (offset : Nat) :
    Except Error (List Found) :=
  if request.useSimpleList then
    db.listDocuments request.collection
      (some request.fetchLimit) (some offset)
  else db.queryRaw (request.query server offset)

def readable (row : Found) : Bool :=
  docIsReadable server request.auth request.collection row.doc

/- The text that is sent is that of the SELECT. -/
theorem text_query (offset : Nat) :
    (request.query server offset).text =
      buildSelectExt request.collection
        (request.filters.map (normalizeData server))
        request.orderBy request.descending
        (some request.fetchLimit) (some offset)
        request.fields request.startAfter := by
  unfold query buildSelectExt
  split
  · rfl
  · cases selectFields request.fields with
    | none =>
      simp [Query.text, Core.text, everything, countClause]
    | some columns => rfl

end ListRequest

/-
  Fetch until enough documents may be read or no more are
  found.
-/
def fetchLoop
    (fetch : Nat → Except Error (List Found))
    (readable : Found → Bool)
    (requestedLimit fetchLimit : Nat) :
    Nat → Nat → List Found →
      Option (Except String (List Found))
  | 0, _, _ => none
  | rounds + 1, offset, filtered =>
    if filtered.length < requestedLimit then
      match fetch offset with
      | .error _ => some (.error internalError)
      | .ok docs =>
        if docs.isEmpty then some (.ok filtered)
        else if docs.length < fetchLimit then
          some (.ok (filtered ++ docs.filter readable))
        else
          fetchLoop fetch readable requestedLimit
            fetchLimit rounds (offset + docs.length)
            (filtered ++ docs.filter readable)
    else some (.ok filtered)

/- The documents as the client is given them. -/
def ListRequest.stripped
    (request : ListRequest)
    (filtered : List Found) : List Found :=
  filtered.map (fun row =>
    ⟨row.id, stripSensitiveFields row.doc
      request.auth.roles⟩)

/- The answer to a request within a number of rounds. -/
def ListRequest.list
    (request : ListRequest)
    (db : Database)
    (rounds : Nat) : Option (Except String (List Found)) :=
  match server.rules.check server.floats request.collection
      "list" (securityContext request.auth none none) with
  | .error _ => some (.error internalError)
  | .ok false => some (.error "Permission denied")
  | .ok true =>
    (fetchLoop (request.fetch server db)
      (request.readable server) request.requestedLimit
      request.fetchLimit rounds request.firstOffset
      []).map (fun reply =>
        reply.map (fun filtered =>
          request.stripped
            (filtered.take request.requestedLimit)))

--------
-- The Loop
--------

section

variable {fetch : Nat → Except Error (List Found)}
variable {readable : Found → Bool} {limit size : Nat}

/-
  With LIMIT and OFFSET the loop reaches the end of the rows,
  and the first documents it has are the first readable ones
  from the offset on.
-/
theorem fetchLoop_sliced
    {rows : List Found}
    (hSize : 0 < size)
    (hFetch :
      ∀ offset, fetch offset =
        .ok ((rows.drop offset).take size)) :
    ∀ rounds offset filtered,
      rows.length - offset < rounds →
      ∃ result,
        fetchLoop fetch readable limit size rounds offset
            filtered = some (.ok result) ∧
        result.take limit =
          (filtered ++
            (rows.drop offset).filter readable).take
              limit := by
  intro rounds
  induction rounds with
  | zero =>
    intro offset filtered hRounds
    omega
  | succ rounds ih =>
    intro offset filtered hRounds
    have hLength :
        ((rows.drop offset).take size).length =
          min size (rows.length - offset) := by
      simp
    rw [fetchLoop]
    split_ifs with hShort
    swap
    · refine ⟨filtered, rfl, ?_⟩
      rw [List.take_append_of_le_length (by omega)]
    rw [hFetch]
    dsimp only
    split_ifs with hEmpty hLast
    · -- No row is left.
      rw [List.isEmpty_iff_length_eq_zero, hLength]
        at hEmpty
      have hNone : rows.drop offset = [] :=
        List.drop_eq_nil_of_le (by omega)
      exact ⟨filtered, rfl, by simp [hNone]⟩
    · -- These are the last rows.
      have hAll :
          (rows.drop offset).take size =
            rows.drop offset := by
        apply List.take_of_length_le
        rw [List.length_drop]
        omega
      exact ⟨_, rfl, by rw [hAll]⟩
    · rw [List.isEmpty_iff_length_eq_zero, hLength]
        at hEmpty
      have hFull :
          ((rows.drop offset).take size).length = size := by
        omega
      rcases ih (offset + size) (filtered ++
            ((rows.drop offset).take size).filter readable)
          (by omega) with
        ⟨result, hRun, hResult⟩
      refine ⟨result, by rw [hFull]; exact hRun, ?_⟩
      rw [hResult, List.append_assoc, ← List.filter_append,
        ← List.drop_drop, List.take_append_drop]

/- Repetitions of a list. -/
def repeated (times : Nat) (docs : List Found) :
    List Found :=
  (List.replicate times docs).flatten

theorem length_repeated (times : Nat) (docs : List Found) :
    (repeated times docs).length = times * docs.length := by
  simp [repeated]

theorem repeated_succ (times : Nat) (docs : List Found) :
    repeated (times + 1) docs =
      repeated times docs ++ docs := by
  simp [repeated, List.replicate_succ']

/-
  Without LIMIT the loop fetches the same rows again and
  again, until the readable ones among them have been added
  often enough.
-/
theorem fetchLoop_whole
    {rows : List Found}
    (hMany : size ≤ rows.length)
    (hSome : rows ≠ [])
    (hFetch : ∀ offset, fetch offset = .ok rows) :
    ∀ rounds times offset reply,
      fetchLoop fetch readable limit size rounds offset
          (repeated times (rows.filter readable)) =
        some reply →
      ∃ total, times ≤ total ∧
        limit ≤ total * (rows.filter readable).length ∧
        reply =
          .ok (repeated total (rows.filter readable)) := by
  intro rounds
  induction rounds with
  | zero =>
    intro times offset reply hRun
    cases hRun
  | succ rounds ih =>
    intro times offset reply hRun
    rw [fetchLoop, hFetch] at hRun
    split_ifs at hRun with hShort
    · dsimp only at hRun
      rw [if_neg (by simpa using hSome),
        if_neg (Nat.not_lt.mpr hMany), ← repeated_succ]
        at hRun
      rcases ih _ _ _ hRun with
        ⟨total, hTimes, hLimit, hReply⟩
      exact ⟨total, by omega, hLimit, hReply⟩
    · rw [length_repeated] at hShort
      exact ⟨times, Nat.le_refl _, by omega,
        (Option.some.inj hRun).symm⟩

end

--------
-- One Page
--------

namespace ListRequest

variable (server : Server) (db : Database)
variable (request : ListRequest)

/-
  The query is answered, with at most as many documents as
  were asked for and no document twice.
-/
def PageHolds : Prop :=
  ∃ rounds reply,
    request.list server db rounds = some reply ∧
    ∀ docs, reply = .ok docs →
      docs.length ≤ request.requestedLimit ∧
        (docs.map Found.id).Nodup

/-
  Where a projection makes the query builder drop LIMIT and
  OFFSET, the rows do not fill a batch, or enough of them may
  be read.
-/
def FitsOneBatch : Prop :=
  Allowed server request.collection "list" request.auth none
      none →
    isIdentifier request.collection = true →
    selectFields request.fields = none →
    ∀ rows, db.rows (everything request.collection) =
        .ok rows →
      rows.length < request.fetchLimit ∨
        request.requestedLimit ≤
          (rows.filter (request.readable server)).length

theorem requestedLimit_pos : 0 < request.requestedLimit := by
  unfold requestedLimit
  omega

theorem requestedLimit_le_fetchLimit :
    request.requestedLimit ≤ request.fetchLimit := by
  unfold fetchLimit
  split
  · exact Nat.le_succ _
  · exact Nat.le_refl _

theorem fetchLimit_le : request.fetchLimit ≤ 101 := by
  unfold fetchLimit requestedLimit
  split <;> omega

/- What is fetched, at all offsets. -/
inductive Fetches : Prop
  | fails
      (e : Error)
      (hFetch :
        ∀ offset, request.fetch server db offset = .error e)
  | sliced
      (core : Core)
      (rows : List Found)
      (hRows : db.rows core = .ok rows)
      (hFetch :
        ∀ offset, request.fetch server db offset =
          .ok ((rows.drop offset).take request.fetchLimit))
  | whole
      (rows : List Found)
      (hName : isIdentifier request.collection = true)
      (hFields : selectFields request.fields = none)
      (hRows :
        db.rows (everything request.collection) = .ok rows)
      (hFetch :
        ∀ offset, request.fetch server db offset = .ok rows)

/- A SELECT with LIMIT and OFFSET. -/
theorem Fetches.of_core
    {server : Server}
    {db : Database}
    {request : ListRequest}
    (core : Core)
    (hFetch :
      ∀ offset, request.fetch server db offset = db.queryRaw
          ⟨core, some request.fetchLimit, some offset⟩) :
    request.Fetches server db := by
  cases hRows : db.rows core with
  | error e =>
    refine .fails e ?_
    intro offset
    rw [hFetch, Database.queryRaw, hRows]
    rfl
  | ok rows =>
    refine .sliced core rows hRows ?_
    intro offset
    rw [hFetch, Database.queryRaw, hRows]
    rfl

theorem fetches : request.Fetches server db := by
  by_cases hSimple : request.useSimpleList = true
  · cases hName : validateIdentifier request.collection with
    | error e =>
      refine .fails e ?_
      intro offset
      rw [fetch, if_pos hSimple, Database.listDocuments,
        hName]
    | ok table =>
      refine .of_core (listCore table) ?_
      intro offset
      have hLimit := request.fetchLimit_le
      rw [fetch, if_pos hSimple, Database.listDocuments,
        hName]
      simp only [Option.getD_some]
      rw [Nat.min_eq_left (by omega)]
  · have hFetch :
        ∀ offset, request.fetch server db offset =
          db.queryRaw (request.query server offset) :=
      fun _ => if_neg hSimple
    by_cases hName : isIdentifier request.collection = true
    · cases hFields : selectFields request.fields with
      | none =>
        have hQuery :
            ∀ offset, request.query server offset =
              ⟨everything request.collection, none,
                none⟩ := by
          intro offset
          simp [query, hName, hFields]
        cases hRows :
            db.rows (everything request.collection) with
        | error e =>
          refine .fails e ?_
          intro offset
          rw [hFetch, hQuery, Database.queryRaw, hRows]
          rfl
        | ok rows =>
          refine .whole rows hName hFields hRows ?_
          intro offset
          rw [hFetch, hQuery, Database.queryRaw, hRows]
          rfl
      | some columns =>
        refine .of_core (request.query server 0).core ?_
        intro offset
        rw [hFetch]
        simp [query, hName, hFields]
    · have hQuery :
          ∀ offset, request.query server offset =
            ⟨nothing, none, none⟩ := by
        intro offset
        simp [query, hName]
      cases hRows : db.rows nothing with
      | error e =>
        refine .fails e ?_
        intro offset
        rw [hFetch, hQuery, Database.queryRaw, hRows]
        rfl
      | ok rows =>
        refine .sliced nothing rows hRows ?_
        intro offset
        rw [hFetch, hQuery, Database.queryRaw, hRows,
          db.never rows hRows]
        simp [Except.map, slice]

/- The answer once the loop has ended. -/
theorem list_of_allowed
    (hAllowed :
      Allowed server request.collection "list" request.auth
        none none)
    (rounds : Nat) :
    request.list server db rounds =
      (fetchLoop (request.fetch server db)
        (request.readable server) request.requestedLimit
        request.fetchLimit rounds request.firstOffset
        []).map (fun reply =>
          reply.map (fun filtered =>
            request.stripped
              (filtered.take request.requestedLimit))) := by
  unfold list
  rw [hAllowed]

theorem list_of_denied
    (hDenied :
      ¬ Allowed server request.collection "list" request.auth
        none none) :
    ∃ message, ∀ rounds, request.list server db rounds =
        some (.error message) := by
  unfold Allowed at hDenied
  unfold list
  cases hCheck :
      server.rules.check server.floats request.collection
        "list" (securityContext request.auth none none) with
  | error e => exact ⟨internalError, fun _ => rfl⟩
  | ok verdict =>
    cases verdict with
    | false => exact ⟨"Permission denied", fun _ => rfl⟩
    | true => exact absurd hCheck hDenied

theorem ids_stripped (filtered : List Found) :
    (request.stripped filtered).map Found.id =
      filtered.map Found.id := by
  simp [stripped]

variable {rows : List Found}

/- A part of the rows that a SELECT finds. -/
theorem pageHolds_of_sublist
    {rounds : Nat}
    {core : Core}
    {filtered : List Found}
    (hAllowed :
      Allowed server request.collection "list" request.auth
        none none)
    (hRows : db.rows core = .ok rows)
    (hLoop :
      fetchLoop (request.fetch server db)
        (request.readable server) request.requestedLimit
        request.fetchLimit rounds request.firstOffset [] =
          some (.ok filtered))
    (hSublist :
      (filtered.take request.requestedLimit).Sublist rows) :
    request.PageHolds server db := by
  refine ⟨rounds, .ok (request.stripped
      (filtered.take request.requestedLimit)), ?_, ?_⟩
  · rw [list_of_allowed server db request hAllowed, hLoop]
    rfl
  · intro docs hDocs
    cases hDocs
    refine ⟨by simp [stripped, Nat.min_le_left], ?_⟩
    rw [ids_stripped]
    exact (db.once core rows hRows).sublist
      (hSublist.map Found.id)

/- A list that is repeated has one of its documents twice. -/
theorem not_nodup_take_repeated
    {docs : List Found}
    {limit total : Nat}
    (hFew : docs.length < limit)
    (hTotal : limit ≤ total * docs.length) :
    ¬ (((repeated total docs).take limit).map
        Found.id).Nodup := by
  intro hNodup
  cases docs with
  | nil =>
    rw [List.length_nil] at hFew hTotal
    omega
  | cons first rest =>
    -- Two rounds at least, so `first` comes back.
    have hTwice : ∃ more, total = more + 2 := by
      refine ⟨total - 2, ?_⟩
      by_contra hLess
      have hTotal' : total = 0 ∨ total = 1 := by omega
      rcases hTotal' with rfl | rfl <;> omega
    rcases hTwice with ⟨more, rfl⟩
    have hSplit :
        repeated (more + 2) (first :: rest) =
          ((first :: rest) ++ [first]) ++
            (rest ++ repeated more (first :: rest)) := by
      simp [repeated, List.replicate_succ]
    have hPrefix :
        (first :: rest) ++ [first] <+:
          (repeated (more + 2) (first :: rest)).take
            limit := by
      rw [hSplit]
      exact List.prefix_take_iff.mpr
        ⟨List.prefix_append _ _, by
          rw [List.length_append]
          exact hFew⟩
    have hTwo :=
      hNodup.sublist (hPrefix.sublist.map Found.id)
    simp at hTwo

/- Without LIMIT and OFFSET all rows are fetched. -/
theorem fetch_whole
    (hName : isIdentifier request.collection = true)
    (hFields : selectFields request.fields = none)
    (hRows :
      db.rows (everything request.collection) = .ok rows)
    (offset : Nat) :
    request.fetch server db offset = .ok rows := by
  have hSimple : request.useSimpleList ≠ true := by
    intro hSimple
    unfold useSimpleList at hSimple
    rw [Bool.and_eq_true] at hSimple
    rw [Option.isNone_iff_eq_none.mp hSimple.2] at hFields
    cases hFields
  rw [fetch, if_neg hSimple, query]
  simp [hName, hFields, Database.queryRaw, hRows, Except.map,
    slice]

/- All rows are fetched, but they do not go on and on. -/
theorem pageHolds_of_whole
    (hAllowed :
      Allowed server request.collection "list" request.auth
        none none)
    (hRows :
      db.rows (everything request.collection) = .ok rows)
    (hFetch :
      ∀ offset, request.fetch server db offset = .ok rows)
    (hFits :
      rows.length < request.fetchLimit ∨
        request.requestedLimit ≤
          (rows.filter (request.readable server)).length) :
    request.PageHolds server db := by
  have hPos := request.requestedLimit_pos
  have hLoop :
      fetchLoop (request.fetch server db)
        (request.readable server) request.requestedLimit
        request.fetchLimit 2 request.firstOffset [] =
          some (.ok
            (rows.filter (request.readable server))) := by
    rw [fetchLoop, hFetch]
    simp only [List.length_nil, hPos, if_true,
      List.nil_append]
    split_ifs with hEmpty hShort
    · rw [List.isEmpty_iff.mp hEmpty]
      rfl
    · rfl
    · have hEnough := hFits.resolve_left hShort
      rw [fetchLoop, if_neg (Nat.not_lt.mpr hEnough)]
  exact pageHolds_of_sublist server db request hAllowed hRows
    hLoop ((List.take_sublist _ _).trans
      List.filter_sublist)

/- Documents that come again break the page. -/
theorem fitsOneBatch_of_pageHolds
    (hPage : request.PageHolds server db) :
    request.FitsOneBatch server db := by
  rcases hPage with ⟨rounds, reply, hList, hReply⟩
  intro hAllowed hName hFields rows hRows
  by_contra hMany
  rw [not_or, Nat.not_lt, Nat.not_le] at hMany
  have hPos := request.requestedLimit_pos
  have hBatch := request.requestedLimit_le_fetchLimit
  have hFetch := fetch_whole server db request hName hFields
    hRows
  rw [list_of_allowed server db request hAllowed,
    Option.map_eq_some_iff] at hList
  rcases hList with ⟨result, hLoop, rfl⟩
  rcases fetchLoop_whole hMany.1
      (List.ne_nil_of_length_pos (by omega)) hFetch rounds
      0 _ _ hLoop with
    ⟨total, _, hTotal, rfl⟩
  refine not_nodup_take_repeated hMany.2 hTotal ?_
  rw [← request.ids_stripped]
  exact (hReply _ rfl).2

theorem pageHolds_of_fitsOneBatch
    (hFits : request.FitsOneBatch server db) :
    request.PageHolds server db := by
  by_cases hAllowed :
      Allowed server request.collection "list" request.auth
        none none
  swap
  · rcases list_of_denied server db request hAllowed with
      ⟨message, hList⟩
    refine ⟨0, .error message, hList 0, ?_⟩
    intro docs hDocs
    cases hDocs
  have hPos := request.requestedLimit_pos
  have hBatch := request.requestedLimit_le_fetchLimit
  cases request.fetches server db with
  | fails e hFetch =>
    refine ⟨1, .error internalError, ?_, ?_⟩
    · rw [list_of_allowed server db request hAllowed,
        fetchLoop, hFetch]
      simp only [List.length_nil, if_pos hPos]
      rfl
    · intro docs hDocs
      cases hDocs
  | sliced core rows hRows hFetch =>
    rcases @fetchLoop_sliced _ (request.readable server)
        request.requestedLimit _ rows (by omega) hFetch
        (rows.length + 1) request.firstOffset []
        (by omega) with
      ⟨filtered, hLoop, hTake⟩
    refine pageHolds_of_sublist server db request
      hAllowed hRows hLoop ?_
    rw [hTake, List.nil_append]
    exact (List.take_sublist _ _).trans
      (List.filter_sublist.trans (List.drop_sublist _ _))
  | whole rows hName hFields hRows hFetch =>
    exact pageHolds_of_whole server db request hAllowed
      hRows hFetch
      (hFits hAllowed hName hFields rows hRows)

/-
  A request is answered with a proper page exactly if it
  does not make the query builder forget LIMIT and OFFSET
  while the rows fill a batch.
-/
theorem list_page_iff :
    request.PageHolds server db ↔
      request.FitsOneBatch server db :=
  ⟨fitsOneBatch_of_pageHolds server db request,
    pageHolds_of_fitsOneBatch server db request⟩

end ListRequest

/- The carts of two clients. -/
def twoCarts : List Found :=
  [⟨"c1", cartOf "alice"⟩, ⟨"c2", cartOf "bob"⟩]

def cartDatabase : Database where
  rows := fun core =>
    if core.collection = "cart" then .ok twoCarts else .ok []
  once := by
    intro core found hRows
    split at hRows
    · cases hRows
      decide
    · cases hRows
      decide
  never := by
    intro found hRows
    rw [if_neg (by decide)] at hRows
    cases hRows
    rfl

/- Alice asks for two carts and a field with a hyphen. -/
def hyphenRequest : ListRequest where
  auth := signedIn "alice"
  collection := "cart"
  limit := some 2
  fields := some ["user-id"]

/- She is given her own cart twice. -/
theorem hyphen_page_repeats :
    ¬ hyphenRequest.PageHolds shopServer cartDatabase := by
  intro hPage
  have hFits := hyphenRequest.fitsOneBatch_of_pageHolds
    shopServer cartDatabase hPage
  rcases hFits (by unfold Allowed; decide)
      (by decide) (by decide) twoCarts rfl
    with hShort | hEnough
  · exact absurd hShort (by decide)
  · exact absurd hEnough (by decide)

end Orignabase.Graphql
