import Mathlib.Data.Nat.Basic
import Orignabase.Graphql.Pages
import Orignabase.Lib.SortedPages

/-
  Clients that ask for a collection page by page, each page
  after the last document they have, while the documents stay
  as they are.

  Key definitions include:
    * `CursorClient`
    * `Evaluates`
    * `EachOnce`

  Main results:
    * `cursorClient_iff`
    * `cursor_paging`
-/

--------
-- Clients
--------

namespace Orignabase.Graphql

open Security QueryTranslator Paging

variable {cursor : Option String}

namespace ListRequest

section

variable (server : Server) (db : Database)
variable (request : ListRequest)

/- The request for the page after a document. -/
def afterCursor (size : Nat) (cursor : Option String) :
    ListRequest :=
  { request with
    limit := some (size : Int)
    offset := none
    startAfter := cursor }

/-
  A client that asks for pages, each after the last document
  of the one before, until a page is empty.
-/
inductive CursorClient (size : Nat) :
    Option String → List Found → Prop
  | done
      {cursor : Option String}
      (hPage :
        (request.afterCursor size cursor).Answers server db
          []) :
      CursorClient size cursor []
  | more
      {cursor : Option String}
      {docs rest : List Found}
      {last : Found}
      (hPage :
        (request.afterCursor size cursor).Answers server db
          docs)
      (hLast : docs.getLast? = some last)
      (hRest : CursorClient size (some last.id) rest) :
      CursorClient size cursor (docs ++ rest)

/- The SELECT of a page, without LIMIT. -/
def coreAfter (cursor : Option String) : Core :=
  (request.afterCursor 1 cursor).core server

/- The rows of the page after a document, and beyond. -/
def rowsAfter (cursor : Option String) : List Found :=
  ((db.rows (request.coreAfter server cursor)).toOption).getD
    []

/- The client is given every document exactly once. -/
def EachOnce (size : Nat) (docs : List Found) : Prop :=
  ∃ result,
    request.CursorClient server db size none result ∧
      result.Perm (request.stripped docs)

end

variable {server : Server} {db : Database}
variable {request : ListRequest} {docs : List Found}
variable {size : Nat}

theorem rows_coreAfter
    {rows : List Found}
    (hRows :
      db.rows (request.coreAfter server cursor) = .ok rows) :
    request.rowsAfter server db cursor = rows := by
  unfold rowsAfter
  rw [hRows]
  rfl

theorem core_afterCursor
    (size : Nat)
    (cursor : Option String)
    (hName : isIdentifier request.collection = true)
    (hFields : request.fields = none) :
    (request.afterCursor size cursor).core server =
      request.coreAfter server cursor := by
  simp only [coreAfter, core, useSimpleList, afterCursor,
    query, hName, hFields, selectFields]
  rfl

section

variable (hAllowed :
  Allowed server request.collection "list" request.auth none
    none)
variable (hName : isIdentifier request.collection = true)
variable (hFields : request.fields = none)
variable (hSize : 1 ≤ size ∧ size ≤ 100)

include hAllowed hName hFields hSize

/- A page of rows that may all be read. -/
theorem answers_afterCursor_iff
    {rows page : List Found}
    (hRows :
      db.rows (request.coreAfter server cursor) = .ok rows)
    (hReadable :
      ∀ d ∈ rows, request.readable server d = true) :
    (request.afterCursor size cursor).Answers server db
        page ↔
      page = request.stripped (rows.take size) := by
  have hLimit :
      (request.afterCursor size cursor).requestedLimit =
        size := by
    simp only [requestedLimit, afterCursor,
      Option.getD_some]
    omega
  have hOffset :
      (request.afterCursor size cursor).firstOffset = 0 := by
    simp [firstOffset, afterCursor]
  have hCore : db.rows
      ((request.afterCursor size cursor).core server) =
        .ok rows := by
    rw [core_afterCursor size cursor hName hFields]
    exact hRows
  have hKept :
      rows.filter
          ((request.afterCursor size cursor).readable
            server) =
        rows :=
    List.filter_eq_self.mpr hReadable
  rw [answers_iff server db
    (request.afterCursor size cursor) hAllowed hName hFields
    hCore, hLimit, hOffset, List.drop_zero, hKept]
  rfl

omit hSize in
/- A SELECT that fails gives no page. -/
theorem not_answers_of_error
    {page : List Found}
    {e : Error}
    (hRows :
      db.rows (request.coreAfter server cursor) = .error e) :
    ¬ (request.afterCursor size cursor).Answers server db
        page := by
  rintro ⟨rounds, hList⟩
  have hPos :=
    (request.afterCursor size cursor).requestedLimit_pos
  have hFetch :
      ∀ offset,
        (request.afterCursor size cursor).fetch server db
          offset = .error e := by
    intro offset
    rw [fetch_core server db
      (request.afterCursor size cursor) hName hFields,
      core_afterCursor size cursor hName hFields, hRows]
    rfl
  rw [list_of_allowed server db
    (request.afterCursor size cursor) hAllowed] at hList
  cases rounds with
  | zero => cases hList
  | succ rounds =>
    rw [fetchLoop, hFetch] at hList
    simp only [List.length_nil, if_pos hPos] at hList
    cases hList

/- The client is given the pages of the rows. -/
theorem cursorClient_iff
    {next : Found → List Found}
    (hNext :
      ∀ c ∈ docs,
        db.rows (request.coreAfter server (some c.id)) =
          .ok (next c) ∧
        ∀ d ∈ next c, d ∈ docs)
    (hReadable :
      ∀ d ∈ docs, request.readable server d = true)
    {cursor : Option String}
    {rows result : List Found}
    (hRows :
      db.rows (request.coreAfter server cursor) = .ok rows)
    (hSub : ∀ d ∈ rows, d ∈ docs) :
    request.CursorClient server db size cursor result ↔
      ∃ kept, CursorPages next size rows kept ∧
          result = request.stripped kept := by
  have hPage :
      ∀ {cursor : Option String} {rows page : List Found},
        db.rows (request.coreAfter server cursor) =
          .ok rows →
        (∀ d ∈ rows, d ∈ docs) →
        ((request.afterCursor size cursor).Answers server db
            page ↔
          page = request.stripped (rows.take size)) :=
    fun hRows hSub =>
      answers_afterCursor_iff hAllowed hName hFields hSize
        hRows (fun d hMem => hReadable d (hSub d hMem))
  constructor
  · intro hClient
    induction hClient generalizing rows with
    | done hAnswer =>
      rw [hPage hRows hSub] at hAnswer
      have hNone : rows = [] := by
        have hLength := congrArg List.length hAnswer
        rw [length_stripped, List.length_take,
          List.length_nil] at hLength
        exact List.eq_nil_of_length_eq_zero (by omega)
      subst hNone
      exact ⟨[], .done, rfl⟩
    | more hAnswer hLast _ ih =>
      rw [hPage hRows hSub] at hAnswer
      subst hAnswer
      rw [stripped, List.getLast?_map,
        Option.map_eq_some_iff] at hLast
      rcases hLast with ⟨row, hRow, rfl⟩
      have hDoc : row ∈ docs :=
        hSub row (List.mem_of_mem_take
          (List.mem_of_getLast? hRow))
      rcases ih (hNext row hDoc).1 (hNext row hDoc).2 with
        ⟨kept, hKept, rfl⟩
      exact ⟨_, .more hRow hKept, by simp [stripped]⟩
  · rintro ⟨kept, hKept, rfl⟩
    induction hKept generalizing cursor with
    | done =>
      exact .done ((hPage hRows hSub).mpr (by simp [stripped]))
    | @more rows rest last hLast _ ih =>
      have hDoc : last ∈ docs :=
        hSub last (List.mem_of_mem_take
          (List.mem_of_getLast? hLast))
      have hRest := ih (hNext last hDoc).1
        (hNext last hDoc).2
      rw [stripped, List.map_append]
      have hLast' :
          (request.stripped (rows.take size)).getLast? =
            some ⟨last.id, stripSensitiveFields last.doc
              request.auth.roles⟩ := by
        rw [stripped, List.getLast?_map, hLast]
        rfl
      exact .more ((hPage hRows hSub).mpr rfl) hLast' hRest

end

end ListRequest

--------
-- Sorted and Unsorted Queries
--------

namespace ListRequest

section

variable {K : Type} [LinearOrder K] (server : Server)
variable (db : Database) (request : ListRequest)

/-
  What SQL says about the SELECTs of a client.  `key` is the
  order expression of a document: `none` if it cannot be
  computed, `some none` if it is NULL.  Without an order the
  cursor is compared with ids, and the rows come in any
  order.
-/
structure Evaluates
    (docs : List Found)
    (key : Found → Option (Option K)) : Prop where
  nodup : (docs.map Found.id).Nodup
  valid :
    ∀ field ∈ request.orderBy, (sqlFieldExpr field).isSome
  first :
    (∀ d ∈ docs, (key d).isSome) →
      ∃ rows,
        db.rows (request.coreAfter server none) = .ok rows ∧
        rows.Perm docs ∧
        (request.orderBy.isSome →
          SortedBy (fun d => (key d).join) request.descending
            rows)
  next :
    (∀ d ∈ docs, (key d).isSome) → ∀ c ∈ docs,
      ∃ rows,
        db.rows (request.coreAfter server (some c.id)) =
          .ok rows ∧
        rows.Perm
          (docs.filter
            (keyAfter (fun d => (key d).join)
              request.descending c)) ∧
        (request.orderBy.isSome →
          SortedBy (fun d => (key d).join) request.descending
            rows)
  fails :
    (∃ d ∈ docs, key d = none) →
      ∃ e, db.rows (request.coreAfter server none) = .error e
  ids :
    request.orderBy = none → ∀ d ∈ docs, (key d).isSome

end

variable {K : Type} [LinearOrder K] {server : Server}
variable {db : Database} {request : ListRequest}
variable {docs : List Found}
variable {key : Found → Option (Option K)} {size : Nat}

/- The rows after each document, as the database has them. -/
theorem Evaluates.rowsAfter
    (hEval : request.Evaluates server db docs key)
    (hKeys : ∀ d ∈ docs, (key d).isSome) :
    ∀ c ∈ docs,
      db.rows (request.coreAfter server (some c.id)) =
        .ok (request.rowsAfter server db (some c.id)) ∧
      (request.rowsAfter server db (some c.id)).Perm
        (docs.filter (keyAfter (fun d => (key d).join)
            request.descending c)) ∧
      (request.orderBy.isSome →
        SortedBy (fun d => (key d).join) request.descending
          (request.rowsAfter server db (some c.id))) := by
  intro c hMem
  rcases hEval.next hKeys c hMem with
    ⟨rows, hRows, hPerm, hSorted⟩
  rw [rows_coreAfter hRows]
  exact ⟨hRows, hPerm, hSorted⟩

theorem Evaluates.cursors
    (hEval : request.Evaluates server db docs key)
    (hKeys : ∀ d ∈ docs, (key d).isSome) :
    Cursors docs
      (keyAfter (fun d => (key d).join) request.descending)
      (fun c => request.rowsAfter server db (some c.id)) where
  nodup := List.Nodup.of_map Found.id hEval.nodup
  found := fun c hMem => (hEval.rowsAfter hKeys c hMem).2.1
  irrefl := fun _ => comesAfter_irrefl _
  trans := fun _ _ _ => comesAfter_trans _ _ _

section

variable (hAllowed :
  Allowed server request.collection "list" request.auth none
    none)
variable (hName : isIdentifier request.collection = true)
variable (hFields : request.fields = none)
variable (hSize : 1 ≤ size ∧ size ≤ 100)

include hAllowed hName hFields hSize

/- What the client is given, as pages of the rows. -/
theorem eachOnce_iff
    (hEval : request.Evaluates server db docs key)
    (hKeys : ∀ d ∈ docs, (key d).isSome)
    (hReadable :
      ∀ d ∈ docs, request.readable server d = true) :
    request.EachOnce server db size docs ↔ ∃ kept,
        CursorPages
          (fun c => request.rowsAfter server db (some c.id))
          size (request.rowsAfter server db none) kept ∧
        kept.Perm docs := by
  rcases hEval.first hKeys with ⟨rows, hRows, hPerm, _⟩
  have hCursors := hEval.cursors hKeys
  have hUpper := hCursors.upper_of_perm hPerm
  have hNext :
      ∀ c ∈ docs,
        db.rows (request.coreAfter server (some c.id)) =
          .ok (request.rowsAfter server db (some c.id)) ∧
        ∀ d ∈ request.rowsAfter server db (some c.id),
          d ∈ docs :=
    fun c hMem =>
      ⟨(hEval.rowsAfter hKeys c hMem).1,
        (hCursors.upper_next hMem).subset⟩
  have hClient :=
    @cursorClient_iff server db request docs size hAllowed
      hName hFields hSize _ hNext hReadable none rows
  rw [rows_coreAfter hRows]
  constructor
  · rintro ⟨result, hResult, hOnce⟩
    rcases (hClient hRows hUpper.subset).mp hResult with
      ⟨kept, hKept, rfl⟩
    refine ⟨kept, hKept, ?_⟩
    refine (request.perm_stripped_iff hEval.nodup ?_
      (fun _ h => h)).mp hOnce
    exact fun d hMem => hUpper.subset d
      (hCursors.pages_subset hKept hUpper d hMem)
  · rintro ⟨kept, hKept, hOnce⟩
    exact ⟨_, (hClient hRows hUpper.subset).mpr
      ⟨kept, hKept, rfl⟩, hOnce.map _⟩

/- Sorted rows. -/
theorem eachOnce_sorted_iff
    (hEval : request.Evaluates server db docs key)
    (hReadable :
      ∀ d ∈ docs, request.readable server d = true)
    (hOrder : request.orderBy.isSome) :
    request.EachOnce server db size docs ↔
      (∀ d ∈ docs, (key d).isSome) ∧ Reachable size
          (orderedKeys request.descending
            (docs.map (fun d => (key d).join))) := by
  have hPos : 0 < size := hSize.1
  by_cases hKeys : ∀ d ∈ docs, (key d).isSome
  · rcases hEval.first hKeys with
      ⟨rows, hRows, hPerm, hSorted⟩
    have hCursors := hEval.cursors hKeys
    have hUpper := hCursors.upper_of_perm hPerm
    have hSortedCursors :
        SortedCursors docs (fun d => (key d).join)
          request.descending
          (fun c =>
            request.rowsAfter server db (some c.id)) :=
      ⟨hCursors.nodup, hCursors.found, fun c hMem =>
          (hEval.rowsAfter hKeys c hMem).2.2 hOrder⟩
    rw [eachOnce_iff hAllowed hName hFields hSize hEval
      hKeys hReadable, rows_coreAfter hRows,
      and_iff_right hKeys]
    constructor
    · rintro ⟨kept, hKept, hOnce⟩
      exact (hSortedCursors.perm_iff hPos hPerm
        (hSorted hOrder) hKept).mp hOnce
    · intro hReach
      rcases hCursors.exists_pages hPos hUpper with
        ⟨kept, hKept⟩
      exact ⟨kept, hKept,
        (hSortedCursors.perm_iff hPos hPerm
          (hSorted hOrder) hKept).mpr hReach⟩
  · refine iff_of_false ?_ (fun h => hKeys h.1)
    have hNone : ∃ d ∈ docs, key d = none := by
      simpa using hKeys
    rcases hEval.fails hNone with ⟨e, hRows⟩
    rintro ⟨result, hClient, _⟩
    cases hClient with
    | done hPage =>
      exact not_answers_of_error hAllowed hName hFields
        hRows hPage
    | more hPage _ _ =>
      exact not_answers_of_error hAllowed hName hFields
        hRows hPage

/- Rows in any order. -/
theorem eachOnce_of_splits
    (hEval : request.Evaluates server db docs key)
    (hReadable :
      ∀ d ∈ docs, request.readable server d = true)
    (hOrder : request.orderBy = none)
    (hSplits :
      Splits
        (keyAfter (fun d => (key d).join) request.descending)
        (fun c => request.rowsAfter server db (some c.id))
        size (request.rowsAfter server db none)) :
    request.EachOnce server db size docs := by
  have hPos : 0 < size := hSize.1
  have hKeys := hEval.ids hOrder
  rcases hEval.first hKeys with ⟨rows, hRows, hPerm, _⟩
  have hCursors := hEval.cursors hKeys
  have hUpper := hCursors.upper_of_perm hPerm
  rw [eachOnce_iff hAllowed hName hFields hSize hEval
    hKeys hReadable]
  rw [rows_coreAfter hRows] at hSplits ⊢
  rcases hCursors.exists_pages hPos hUpper with
    ⟨kept, hKept⟩
  exact ⟨kept, hKept,
    (hCursors.perm_of_splits hKept hUpper hSplits).trans
      hPerm⟩

end

/-
  With an order, a client that pages through a collection by
  cursors is given every document exactly once if and only
  if the order can be computed and the sorted keys allow it.
  Without one it is if every page ends with the largest id
  on it (the smallest, when descending) and all that is left
  is beyond.
-/
theorem cursor_paging
    (server : Server)
    (db : Database)
    (request : ListRequest)
    (docs : List Found)
    (key : Found → Option (Option K))
    (size : Nat)
    (hAllowed :
      Allowed server request.collection "list" request.auth
        none none)
    (hName : isIdentifier request.collection = true)
    (hFields : request.fields = none)
    (hEval : request.Evaluates server db docs key)
    (hReadable :
      ∀ d ∈ docs, request.readable server d = true)
    (hSize : 1 ≤ size ∧ size ≤ 100) :
    (request.orderBy.isSome →
      (request.EachOnce server db size docs ↔
        (∀ d ∈ docs, (key d).isSome) ∧ Reachable size
            (orderedKeys request.descending
              (docs.map (fun d => (key d).join))))) ∧
    (request.orderBy = none → Splits
        (keyAfter (fun d => (key d).join) request.descending)
        (fun c => request.rowsAfter server db (some c.id))
        size (request.rowsAfter server db none) →
      request.EachOnce server db size docs) :=
  ⟨eachOnce_sorted_iff hAllowed hName hFields hSize hEval
      hReadable,
    eachOnce_of_splits hAllowed hName hFields hSize hEval
      hReadable⟩

end ListRequest

/- A product with its price. -/
def priced (id : String) (cents : Nat) : Found :=
  ⟨id, .object [("priceCents", .number { int := cents })]⟩

/- Products by their price, for anyone. -/
def byPrice : ListRequest where
  auth := ⟨"", [], false⟩
  collection := "products"
  orderBy := some "priceCents"

def priceKey (d : Found) : Option (Option Nat) :=
  match d.doc.get "priceCents" with
  | some (.number n) => some (some n.int)
  | _ => some none

theorem priceKey_priced (id : String) (cents : Nat) :
    priceKey (priced id cents) = some (some cents) :=
  rfl

/- The SELECTs by price over two products, as SQL has them. -/
def priceDatabase (first second : Nat) : Database where
  rows := fun core =>
    if core = byPrice.coreAfter shopServer none then
      .ok [priced "p1" first, priced "p2" second]
    else if core = byPrice.coreAfter shopServer (some "p1") ∧
        first < second then
      .ok [priced "p2" second]
    else .ok []
  once := by
    intro core found hRows
    split_ifs at hRows <;> cases hRows <;> simp [priced]
  never := by
    intro found hRows
    rw [if_neg (by decide),
      if_neg (fun h => absurd h.1 (by decide))]
      at hRows
    cases hRows
    rfl

theorem rows_byPrice
    (first second : Nat) :
    (priceDatabase first second).rows
        (byPrice.coreAfter shopServer none) =
      .ok [priced "p1" first, priced "p2" second] := by
  simp only [priceDatabase, if_true]

theorem rows_after_first
    (first second : Nat) :
    (priceDatabase first second).rows
        (byPrice.coreAfter shopServer (some "p1")) =
      .ok (if first < second then [priced "p2" second]
        else []) := by
  have hOther :
      byPrice.coreAfter shopServer (some "p1") ≠
        byPrice.coreAfter shopServer none := by
    decide
  simp only [priceDatabase, if_neg hOther, true_and]
  split_ifs <;> rfl

theorem rows_after_second
    (first second : Nat) :
    (priceDatabase first second).rows
        (byPrice.coreAfter shopServer (some "p2")) =
      .ok [] := by
  have hOther :
      byPrice.coreAfter shopServer (some "p2") ≠
        byPrice.coreAfter shopServer none := by
    decide
  have hFirst :
      byPrice.coreAfter shopServer (some "p2") ≠
        byPrice.coreAfter shopServer (some "p1") := by
    decide
  simp only [priceDatabase, if_neg hOther, hFirst,
    false_and, if_false]

theorem evaluates_byPrice
    (first second : Nat)
    (hLe : first ≤ second) :
    byPrice.Evaluates shopServer (priceDatabase first second)
      [priced "p1" first, priced "p2" second] priceKey where
  nodup := by simp [priced]
  valid := by
    intro field hField
    cases hField
    decide
  first := by
    intro _
    refine ⟨_, rows_byPrice first second, .refl _, ?_⟩
    intro _
    simp [SortedBy, inOrder, keyLe, byPrice,
      priceKey_priced, hLe]
  next := by
    intro _ c hMem
    simp only [List.mem_cons, List.not_mem_nil, or_false]
      at hMem
    rcases hMem with rfl | rfl
    · refine ⟨_, rows_after_first first second, ?_, ?_⟩
      · split_ifs with hLt
        · simp [keyAfter, comesAfter, byPrice, priceKey_priced, hLt]
        · simp [keyAfter, comesAfter, byPrice, priceKey_priced, hLt]
      · intro _
        split_ifs <;> simp [SortedBy]
    · refine ⟨_, rows_after_second first second, ?_, ?_⟩
      · simp [keyAfter, comesAfter, byPrice, priceKey_priced, hLe]
      · exact fun _ => List.Pairwise.nil
  fails := by
    rintro ⟨d, hMem, hKey⟩
    unfold priceKey at hKey
    split at hKey <;> cases hKey
  ids := fun hOrder => nomatch hOrder

/- The documents as sorted keys. -/
theorem orderedKeys_byPrice
    (first second : Nat)
    (hLe : first ≤ second) :
    orderedKeys false
        ([priced "p1" first, priced "p2" second].map
          (fun d => (priceKey d).join)) =
      [some first, some second] := by
  symm
  apply eq_orderedKeys
  · exact .refl _
  · simp [inOrder, keyLe, hLe]

/- Products with different prices, one on a page. -/
theorem different_prices_paged :
    byPrice.EachOnce shopServer (priceDatabase 100 200) 1
      [priced "p1" 100, priced "p2" 200] := by
  refine ((ListRequest.cursor_paging shopServer
    (priceDatabase 100 200) byPrice _ priceKey 1
    (by unfold Allowed; decide) (by decide)
    rfl (evaluates_byPrice 100 200 (by decide))
    (by decide) (by decide)).1 rfl).mpr
      ⟨by decide, ?_⟩
  have hKeys := orderedKeys_byPrice 100 200 (by decide)
  rw [show byPrice.descending = false from rfl, hKeys]
  refine Or.inr ⟨by decide, ?_⟩
  intro j hPos hLt
  obtain rfl : j = 1 := by
    simp only [List.length_cons, List.length_nil] at hLt
    omega
  decide

/-
  Two products with the same price.  The second one is on no
  page, since its price is not above that of the first.
-/
theorem equal_prices_skipped :
    byPrice.Evaluates shopServer (priceDatabase 100 100)
        [priced "p1" 100, priced "p2" 100] priceKey ∧
      (∀ d ∈ [priced "p1" 100, priced "p2" 100],
        byPrice.readable shopServer d = true) ∧
      ¬ byPrice.EachOnce shopServer (priceDatabase 100 100) 1
          [priced "p1" 100, priced "p2" 100] := by
  have hEval := evaluates_byPrice 100 100 (by decide)
  have hReadable :
      ∀ d ∈ [priced "p1" 100, priced "p2" 100],
        byPrice.readable shopServer d = true := by
    decide
  refine ⟨hEval, hReadable, ?_⟩
  intro hOnce
  have hReach := ((ListRequest.eachOnce_sorted_iff
    (by unfold Allowed; decide) (by decide)
    rfl (by decide) hEval hReadable rfl).mp hOnce).2
  have hKeys := orderedKeys_byPrice 100 100 (by decide)
  rw [show byPrice.descending = false from rfl, hKeys]
    at hReach
  rcases hReach with hShort | ⟨_, hApart⟩
  · exact absurd hShort (by decide)
  · exact hApart 1 (by decide) (by decide) rfl

end Orignabase.Graphql
