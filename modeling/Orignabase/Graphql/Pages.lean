import Orignabase.Graphql.Listing
import Orignabase.Lib.Paging

/-
  Clients that ask for a collection page by page, by the
  number of documents they have, while the documents stay as
  they are.

  Key definitions include:
    * `Answers`
    * `OffsetClient`

  Main results:
    * `answers_iff`
    * `offsetClient_iff`
    * `offset_paging_iff`
-/

--------
-- One Page
--------

namespace Orignabase.Graphql

open Security QueryTranslator

theorem validateIdentifier_of_isIdentifier
    {name : String}
    (hName : isIdentifier name = true) :
    validateIdentifier name = .ok name := by
  unfold isIdentifier at hName
  unfold validateIdentifier at hName ⊢
  split at hName
  · cases hName
  · split_ifs at hName ⊢
    · cases hName
    · cases hName
    · cases hName
    · rfl

/- More rounds do not change a result. -/
theorem fetchLoop_succ
    {fetch : Nat → Except Error (List Found)}
    {readable : Found → Bool}
    {limit size rounds offset : Nat}
    {filtered : List Found}
    {reply : Except String (List Found)}
    (hRun :
      fetchLoop fetch readable limit size rounds offset
        filtered = some reply) :
    fetchLoop fetch readable limit size (rounds + 1) offset
      filtered = some reply := by
  induction rounds generalizing offset filtered with
  | zero => cases hRun
  | succ rounds ih =>
    rw [fetchLoop] at hRun ⊢
    split_ifs at hRun ⊢
    · cases hFetch : fetch offset with
      | error e =>
        rw [hFetch] at hRun
        exact hRun
      | ok docs =>
        rw [hFetch] at hRun
        dsimp only at hRun ⊢
        split_ifs at hRun ⊢
        · exact hRun
        · exact hRun
        · exact ih hRun
    · exact hRun

theorem fetchLoop_unique
    {fetch : Nat → Except Error (List Found)}
    {readable : Found → Bool}
    {limit size rounds rounds' offset : Nat}
    {filtered : List Found}
    {reply reply' : Except String (List Found)}
    (hRun :
      fetchLoop fetch readable limit size rounds offset
        filtered = some reply)
    (hRun' :
      fetchLoop fetch readable limit size rounds' offset
        filtered = some reply') :
    reply = reply' := by
  have hLater :
      ∀ more {n r},
        fetchLoop fetch readable limit size n offset
          filtered = some r →
        fetchLoop fetch readable limit size (n + more) offset
          filtered = some r := by
    intro more
    induction more with
    | zero => exact fun h => h
    | succ more ih => exact fun h => fetchLoop_succ (ih h)
  have hFirst := hLater rounds' hRun
  have hSecond := hLater rounds hRun'
  rw [Nat.add_comm] at hSecond
  rw [hFirst] at hSecond
  exact Option.some.inj hSecond

namespace ListRequest

variable (server : Server) (db : Database)
variable (request : ListRequest)

/- The request is answered with a page of documents. -/
def Answers (docs : List Found) : Prop :=
  ∃ rounds, request.list server db rounds = some (.ok docs)

/- The SELECT of a request that has no projection. -/
def core (server : Server) : Core :=
  if request.useSimpleList then listCore request.collection
  else (request.query server 0).core

theorem fetch_core
    (hName : isIdentifier request.collection = true)
    (hFields : request.fields = none)
    (offset : Nat) :
    request.fetch server db offset =
      (db.rows (request.core server)).map (fun rows =>
        (rows.drop offset).take request.fetchLimit) := by
  have hLimit := request.fetchLimit_le
  unfold fetch core
  split
  · rw [Database.listDocuments,
      validateIdentifier_of_isIdentifier hName]
    simp only [Option.getD_some, Database.queryRaw]
    rw [Nat.min_eq_left (by omega)]
    rfl
  · simp only [query, hName, hFields, selectFields,
      Bool.not_true, Bool.false_eq_true, if_false]
    rfl

/- A page is the first readable rows from the offset on. -/
theorem answers_iff
    {rows docs : List Found}
    (hAllowed :
      Allowed server request.collection "list" request.auth
        none none)
    (hName : isIdentifier request.collection = true)
    (hFields : request.fields = none)
    (hRows : db.rows (request.core server) = .ok rows) :
    request.Answers server db docs ↔ docs = request.stripped
          (((rows.drop request.firstOffset).filter
            (request.readable server)).take
              request.requestedLimit) := by
  have hPos := request.requestedLimit_pos
  have hBatch := request.requestedLimit_le_fetchLimit
  have hFetch :
      ∀ offset, request.fetch server db offset =
        .ok ((rows.drop offset).take request.fetchLimit) := by
    intro offset
    rw [request.fetch_core server db hName hFields, hRows]
    rfl
  rcases @fetchLoop_sliced _ (request.readable server)
      request.requestedLimit _ rows (by omega) hFetch
      (rows.length + 1) request.firstOffset []
      (by omega) with
    ⟨filtered, hLoop, hTake⟩
  rw [List.nil_append] at hTake
  constructor
  · rintro ⟨rounds, hList⟩
    rw [list_of_allowed server db request hAllowed,
      Option.map_eq_some_iff] at hList
    rcases hList with ⟨reply, hRun, hReply⟩
    rw [fetchLoop_unique hRun hLoop] at hReply
    rw [← hTake]
    exact (Except.ok.inj hReply).symm
  · rintro rfl
    refine ⟨rows.length + 1, ?_⟩
    rw [list_of_allowed server db request hAllowed, hLoop,
      ← hTake]
    rfl

end ListRequest

--------
-- Pages by Offset
--------

open Paging

/- Documents of one collection have ids of their own. -/
theorem perm_of_ids
    {docs left right : List Found}
    (hIds : (docs.map Found.id).Nodup)
    (hLeft : ∀ d ∈ left, d ∈ docs)
    (hRight : ∀ d ∈ right, d ∈ docs)
    (hPerm :
      (left.map Found.id).Perm (right.map Found.id)) :
    left.Perm right := by
  -- A document can be looked up by its id.
  have hFind :
      ∀ d ∈ docs,
        docs.find? (fun x => x.id = d.id) = some d := by
    intro d hMem
    rw [List.find?_eq_some_iff_append]
    rcases List.append_of_mem hMem with ⟨front, back, rfl⟩
    refine ⟨by simp, front, back, rfl, ?_⟩
    intro x hFront
    rw [List.map_append, List.map_cons,
      List.nodup_append] at hIds
    have hOther := hIds.2.2 x.id (List.mem_map_of_mem hFront)
      d.id List.mem_cons_self
    simpa using hOther
  have hBack :
      ∀ l : List Found, (∀ d ∈ l, d ∈ docs) →
        (l.map Found.id).filterMap
          (fun id => docs.find? (fun x => x.id = id)) =
            l := by
    intro l hSub
    rw [List.filterMap_map]
    have hSame :
        l.filterMap
            ((fun id => docs.find? (fun x => x.id = id)) ∘
              Found.id) =
          l.filterMap some := by
      apply List.filterMap_congr
      intro d hMem
      exact hFind d (hSub d hMem)
    rw [hSame, List.filterMap_some]
  rw [← hBack left hLeft, ← hBack right hRight]
  exact hPerm.filterMap _

namespace ListRequest

variable (server : Server) (db : Database)
variable (request : ListRequest)

theorem perm_stripped_iff
    {docs left right : List Found}
    (hIds : (docs.map Found.id).Nodup)
    (hLeft : ∀ d ∈ left, d ∈ docs)
    (hRight : ∀ d ∈ right, d ∈ docs) :
    (request.stripped left).Perm (request.stripped right) ↔
      left.Perm right := by
  constructor
  · intro hPerm
    apply perm_of_ids hIds hLeft hRight
    rw [← request.ids_stripped left,
      ← request.ids_stripped right]
    exact hPerm.map Found.id
  · exact fun hPerm => hPerm.map _

/- The request for a page at an offset. -/
def page (size offset : Nat) : ListRequest :=
  { request with
    limit := some (size : Int)
    offset := some (offset : Int) }

/-
  A client that asks for pages of a size, each at the number
  of documents it has received so far, until a page is
  shorter.
-/
inductive OffsetClient (size : Nat) :
    List Found → List Found → Prop
  | last
      {received docs : List Found}
      (hPage :
        (request.page size received.length).Answers server db
          docs)
      (hShort : docs.length < size) :
      OffsetClient size received (received ++ docs)
  | more
      {received docs result : List Found}
      (hPage :
        (request.page size received.length).Answers server db
          docs)
      (hFull : docs.length = size)
      (hRest :
        OffsetClient size (received ++ docs) result) :
      OffsetClient size received result

variable {server : Server} {db : Database}
variable {request : ListRequest} {docs : List Found}
variable {size : Nat}

theorem answers_page_iff
    (hAllowed :
      Allowed server request.collection "list" request.auth
        none none)
    (hName : isIdentifier request.collection = true)
    (hFields : request.fields = none)
    (hDocs : db.rows (request.core server) = .ok docs)
    (hSize : 1 ≤ size ∧ size ≤ 100)
    {offset : Nat}
    {page : List Found} :
    (request.page size offset).Answers server db page ↔
      page = request.stripped
          (((docs.drop offset).filter
            (request.readable server)).take size) := by
  have hLimit :
      (request.page size offset).requestedLimit = size := by
    simp only [requestedLimit, ListRequest.page,
      Option.getD_some]
    omega
  have hOffset :
      (request.page size offset).firstOffset = offset := by
    simp [firstOffset, ListRequest.page]
  have hCore :
      (request.page size offset).core server =
        request.core server := by
    simp only [core, useSimpleList, ListRequest.page, query,
      hName, hFields, selectFields]
    rfl
  rw [answers_iff server db (request.page size offset)
    hAllowed hName hFields (hCore ▸ hDocs), hLimit, hOffset]
  rfl

theorem length_stripped (filtered : List Found) :
    (request.stripped filtered).length =
      filtered.length := by
  simp [stripped]

/- The client is given the pages of the rows. -/
theorem offsetClient_iff
    (hAllowed :
      Allowed server request.collection "list" request.auth
        none none)
    (hName : isIdentifier request.collection = true)
    (hFields : request.fields = none)
    (hDocs : db.rows (request.core server) = .ok docs)
    (hSize : 1 ≤ size ∧ size ≤ 100)
    {received result : List Found} :
    request.OffsetClient server db size received result ↔
      ∃ kept, OffsetPages (request.readable server) size
          (docs.drop received.length) kept ∧
        result = received ++ request.stripped kept := by
  have hPage :=
    @answers_page_iff server db request docs size hAllowed
      hName hFields hDocs hSize
  constructor
  · intro hClient
    induction hClient with
    | last hAnswer hShort =>
      rw [hPage] at hAnswer
      subst hAnswer
      rw [length_stripped] at hShort
      exact ⟨_, .last hShort, rfl⟩
    | more hAnswer hFull _ ih =>
      rw [hPage] at hAnswer
      subst hAnswer
      rcases ih with ⟨kept, hKept, rfl⟩
      rw [List.length_append, hFull, ← List.drop_drop]
        at hKept
      rw [length_stripped] at hFull
      refine ⟨_, .more hFull hKept, ?_⟩
      simp [stripped]
  · rintro ⟨kept, hKept, rfl⟩
    generalize hRows : docs.drop received.length = rows
      at hKept
    induction hKept generalizing received with
    | last hShort =>
      subst hRows
      refine .last (hPage.mpr rfl) ?_
      rwa [length_stripped]
    | @more rows rest hFull _ ih =>
      subst hRows
      refine .more (hPage.mpr rfl)
        (by rwa [length_stripped]) ?_
      have hNext := @ih (received ++ request.stripped
          (((docs.drop received.length).filter
            (request.readable server)).take size)) ?_
      · simpa [stripped] using hNext
      · rw [List.length_append, length_stripped, hFull,
          ← List.drop_drop]

/- What the client is given, as pages of the rows. -/
theorem offset_exact_iff
    (hAllowed :
      Allowed server request.collection "list" request.auth
        none none)
    (hName : isIdentifier request.collection = true)
    (hFields : request.fields = none)
    (hDocs : db.rows (request.core server) = .ok docs)
    (hSize : 1 ≤ size ∧ size ≤ 100)
    {kept : List Found}
    (hKept :
      OffsetPages (request.readable server) size docs kept) :
    (∃ result,
      request.OffsetClient server db size [] result ∧
        result.Perm (request.stripped
            (docs.filter (request.readable server)))) ↔
      kept.Perm (docs.filter (request.readable server)) := by
  have hClient :=
    @offsetClient_iff server db request docs size hAllowed
      hName hFields hDocs hSize []
  rw [← request.perm_stripped_iff (db.once _ _ hDocs)
    hKept.subset (fun _ hMem => (List.mem_filter.mp hMem).1)]
  constructor
  · rintro ⟨result, hResult, hPerm⟩
    rcases hClient.mp hResult with ⟨other, hOther, rfl⟩
    rw [hKept.unique hOther]
    exact hPerm
  · intro hPerm
    exact ⟨_, hClient.mpr ⟨kept, hKept, rfl⟩, hPerm⟩

/-
  A client that pages through a collection by offsets is
  given every document that it may read exactly once if and
  only if it may read all rows up to its last full page.
-/
theorem offset_paging_iff
    (server : Server)
    (db : Database)
    (request : ListRequest)
    (docs : List Found)
    (size : Nat)
    (hAllowed :
      Allowed server request.collection "list" request.auth
        none none)
    (hName : isIdentifier request.collection = true)
    (hFields : request.fields = none)
    (hDocs : db.rows (request.core server) = .ok docs)
    (hSize : 1 ≤ size ∧ size ≤ 100) :
    (∃ result,
      request.OffsetClient server db size [] result ∧
        result.Perm (request.stripped
            (docs.filter (request.readable server)))) ↔
      ∀ row ∈ docs.take
          (size * ((docs.filter
              (request.readable server)).length / size)),
        request.readable server row = true := by
  rcases @OffsetPages.exists _ (request.readable server) size
      (by omega) docs with
    ⟨kept, hKept⟩
  rw [offset_exact_iff hAllowed hName hFields hDocs hSize
    hKept]
  exact hKept.perm_iff (by omega)
    (List.Nodup.of_map Found.id (db.once _ _ hDocs))

end ListRequest

/- All carts, as far as a client may read them. -/
def cartsOf (user : String) : ListRequest where
  auth := signedIn user
  collection := "cart"

/- The cart of the client comes first. -/
theorem own_cart_first_paged :
    ∃ result,
      (cartsOf "alice").OffsetClient shopServer cartDatabase 1
        [] result ∧
      result.Perm
        ((cartsOf "alice").stripped (twoCarts.filter
            ((cartsOf "alice").readable shopServer))) :=
  (ListRequest.offset_paging_iff shopServer cartDatabase
    (cartsOf "alice") twoCarts 1
    (by unfold Allowed; decide) (by decide)
    rfl rfl (by decide)).mpr (by decide)

/-
  The cart of the client comes second.  The first page has
  it already, and so has the second page, at offset one.
-/
theorem own_cart_second_repeated :
    ¬ ∃ result,
      (cartsOf "bob").OffsetClient shopServer cartDatabase 1
        [] result ∧
      result.Perm
        ((cartsOf "bob").stripped (twoCarts.filter
            ((cartsOf "bob").readable shopServer))) := by
  have hKept :
      OffsetPages ((cartsOf "bob").readable shopServer) 1
        twoCarts
        (((twoCarts.filter
            ((cartsOf "bob").readable shopServer)).take 1) ++
          ((((twoCarts.drop 1).filter
              ((cartsOf "bob").readable shopServer)).take 1) ++
            ((((twoCarts.drop 1).drop 1).filter
              ((cartsOf "bob").readable shopServer)).take
                1))) :=
    .more (by decide) (.more (by decide)
        (.last (by decide)))
  rw [ListRequest.offset_exact_iff
    (by unfold Allowed; decide) (by decide)
    rfl rfl (by decide) hKept]
  intro hPerm
  exact absurd hPerm.length_eq (by decide)

end Orignabase.Graphql
