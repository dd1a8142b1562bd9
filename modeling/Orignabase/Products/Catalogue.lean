import Mathlib.Data.String.Basic
import Mathlib.Algebra.Order.Field.Rat
import Orignabase.Lib.Lookahead
import Orignabase.Lib.SortedPages
import Orignabase.Store.Api

/-
  The public lists of products and of ratings, page by page
  (`ob-handlers/src/products/crud.rs`, `list_products` and
  `seller_list`, `products/ratings.rs`, `get_ratings`).

  A query is answered from a table that stays as it is.  What
  it gives when the escaping of a text breaks its literal is
  left to the environment, and so is the order that it leaves
  open.  Clients read the lists to their end.

  Key definitions include:
    * `Product`, `Rating`
    * `OrderField`, `rowOrder`
    * `listProducts`, `sellerList`, `getRatings`
    * `TextsPaged`, `NumbersPaged`

  Main results:
    * `product_pages_iff`
    * `catalogue_pages_iff`
-/

--------
-- Tables
--------

namespace Orignabase.Catalogue

open Paging Lookahead

/- A field that is missing or null is `none`. -/
structure Product where
  id : String
  lifecycleStatus : Option String
  categoryId : Option String
  subcategory : Option String
  sellerId : Option String
  createdAt : Option String
  name : Option String
  priceCents : Option ℚ
  avgRating : Option ℚ

structure Rating where
  id : String
  productId : Option String
  rating : Option ℚ
  createdAt : Option String

/- The rows of a table, whose ids are its primary key. -/
structure Rows (α : Type) (id : α → String) where
  docs : List α
  distinct : (docs.map id).Nodup

/- A text that the escaping of literals leaves alone. -/
def isPlain (text : String) : Bool :=
  text.toList.all (fun c => c != '\'' && c != '\\')

--------
-- Order
--------

inductive TextField
  | createdAt
  | name
  deriving DecidableEq

inductive NumberField
  | priceCents
  | avgRating
  deriving DecidableEq

def TextField.value : TextField → Product → Option String
  | .createdAt => Product.createdAt
  | .name => Product.name

def NumberField.value : NumberField → Product → Option ℚ
  | .priceCents => Product.priceCents
  | .avgRating => Product.avgRating

inductive OrderField
  | text (field : TextField)
  | number (field : NumberField)
  deriving DecidableEq

def OrderField.parse : String → Option OrderField
  | "createdAt" => some (.text .createdAt)
  | "priceCents" => some (.number .priceCents)
  | "avgRating" => some (.number .avgRating)
  | "name" => some (.text .name)
  | _ => none

/- `NULLS LAST` in both directions. -/
def nullsLast (descending : Bool) :
    Option ℚ → Option ℚ → Bool
  | _, none => true
  | none, some _ => false
  | some x, some y => if descending then y ≤ x else x ≤ y

def OrderField.inOrder
    (field : OrderField)
    (descending : Bool)
    (a b : Product) : Bool :=
  match field with
  | .text f =>
    Paging.inOrder descending (f.value a) (f.value b)
  | .number f =>
    nullsLast descending (f.value a) (f.value b)

/- A row comes after an id. -/
def idAfter
    (descending : Bool)
    (id : String)
    (p : Product) : Bool :=
  if descending then p.id < id else id < p.id

def idInOrder (descending : Bool) (a b : Product) : Bool :=
  if descending then b.id ≤ a.id else a.id ≤ b.id

/- The field of the request, and the id where it ties. -/
def rowOrder
    (field : OrderField)
    (descending : Bool) : Product → Product → Bool :=
  thenBy (field.inOrder descending) (idInOrder descending)

--------
-- Cursors
--------

/- A column of a row, as the database has it. -/
inductive Cell
  | null
  | text (value : String)
  | numeric (value : ℚ)

inductive Decoded
  | str (value : String)
  | num (value : ℚ)

def Decoded.asF64 : Decoded → Option ℚ
  | .str _ => none
  | .num q => some q

def Decoded.asStr : Decoded → Option String
  | .str s => some s
  | .num _ => none

/-
  `rows_to_values` asks for an integer, a text, a float and a
  truth value, and a numeric column is none of them.
-/
def Cell.decode : Cell → Option Decoded
  | .null => none
  | .text s => some (.str s)
  | .numeric _ => none

def OrderField.cell (field : OrderField) (p : Product) :
    Cell :=
  match field with
  | .text f =>
    match f.value p with
    | none => .null
    | some s => .text s
  | .number f =>
    match f.value p with
    | none => .null
    | some q => .numeric q

/- The second query, for the row that the cursor names. -/
def cursorValue
    (field : OrderField)
    (docs : List Product)
    (startAfter : String) : Option Decoded :=
  (docs.find? (fun p => p.id == startAfter)).bind
    (fun p => (field.cell p).decode)

/- `expr cmp v OR (expr = v AND id cmp id)` -/
def isBeyond
    {K : Type}
    [LinearOrder K]
    (value : Product → Option K)
    (descending : Bool)
    (cursor : K)
    (id : String)
    (p : Product) : Bool :=
  comesAfter descending (some cursor) (value p) ||
    (value p == some cursor && idAfter descending id p)

/-
  What the rows after a cursor satisfy, if the literals of the
  query stand for what they are made from.
-/
def cursorCondition
    (field : OrderField)
    (descending : Bool)
    (docs : List Product) :
    Option String → Option (Product → Bool)
  | none => some (fun _ => true)
  | some startAfter =>
    if isPlain startAfter then
      let cursor := cursorValue field docs startAfter
      match field with
      | .number f =>
        match cursor.bind Decoded.asF64 with
        | some number =>
          some (fun p =>
            isBeyond f.value descending number
                startAfter p ||
              (f == .avgRating && (f.value p).isNone))
        | none =>
          some (fun p =>
            (f.value p).isNone &&
              idAfter descending startAfter p)
      | .text f =>
        match cursor.bind Decoded.asStr with
        | some text =>
          if isPlain text then
            some (isBeyond f.value descending text
              startAfter)
          else none
        | none => some (fun _ => true)
    else none

--------
-- Requests
--------

/- A list with what a client needs for the next page. -/
structure Listed (α : Type) where
  items : List α
  nextCursor : Option String
  hasMore : Bool
  totalFetched : ℕ

/- The rows of a query with one row too many. -/
def respond
    {α : Type}
    (id : α → String)
    (limit : ℕ)
    (rows : List α) : Listed α :=
  let hasMore := decide (limit < rows.length)
  let items := rows.take limit
  { items := items
    nextCursor :=
      if hasMore then items.getLast?.map id else none
    hasMore := hasMore
    totalFetched := items.length }

/- One condition on a field, if the request has it. -/
def agrees (wanted field : Option String) : Bool :=
  match wanted with
  | none => true
  | some value => field == some value

def plainIfGiven (wanted : Option String) : Bool :=
  wanted.all isPlain

def maxPageSize : ℕ := 100

def maxRatingsPage : ℕ := 50

structure ListProductsRequest where
  limit : ℕ
  category : Option String
  subcategory : Option String
  sellerId : Option String
  orderBy : Option String
  orderDirection : String
  startAfter : Option String

namespace ListProductsRequest

variable (req : ListProductsRequest)

def orderField : Option OrderField :=
  OrderField.parse (req.orderBy.getD "createdAt")

def descending : Bool :=
  req.orderDirection != "asc"

def selects (p : Product) : Bool :=
  p.lifecycleStatus == some "active" &&
    agrees req.category p.categoryId &&
    agrees req.subcategory p.subcategory &&
    agrees req.sellerId p.sellerId

def filtersPlain : Bool :=
  plainIfGiven req.category &&
    plainIfGiven req.subcategory &&
    plainIfGiven req.sellerId

end ListProductsRequest

/-
  The rows of a query, or none if it fails.  `broken` is what
  it is answered with if a literal of it is broken, by the
  cursor.
-/
def productRows
    (broken : Option String → Option (List Product))
    (docs : List Product)
    (req : ListProductsRequest)
    (field : OrderField) : Option (List Product) :=
  match
    if req.filtersPlain then
      cursorCondition field req.descending docs req.startAfter
    else none with
  | none => broken req.startAfter
  | some condition =>
    some ((docs.filter (fun p =>
      req.selects p && condition p)).mergeSort
        (rowOrder field req.descending))

def listProducts
    (broken : Option String → Option (List Product))
    (docs : List Product)
    (req : ListProductsRequest) :
    Except Error (Listed Product) :=
  let limit := min req.limit maxPageSize
  match req.orderField with
  | none => .error (.validation "Invalid orderBy field")
  | some field =>
    if req.orderDirection != "asc" &&
        req.orderDirection != "desc" then
      .error (.validation
        "orderDirection must be asc or desc")
    else
      match productRows broken docs req field with
      | none =>
        .error (.database "Failed to fetch products")
      | some rows =>
        .ok (respond Product.id limit
          (rows.take (limit + 1)))

/-
  What the database leaves open: the rows of a query whose
  literal is broken, and the order of rows that tie.
-/
structure Answers (α : Type) (createdAt : α → Option String)
    where
  broken : Option (List α)
  arrange : List α → List α
  perm : ∀ docs, (arrange docs).Perm docs
  sorted : ∀ docs, SortedBy createdAt true (arrange docs)

structure SellerListRequest where
  sellerId : String
  limit : ℕ
  startAfter : Option String
  includeInactive : Bool

def SellerListRequest.selects
    (req : SellerListRequest)
    (p : Product) : Bool :=
  p.sellerId == some req.sellerId && (req.includeInactive ||
      p.lifecycleStatus == some "active")

/- The cursor of the request is not used. -/
def sellerList
    (answers : Answers Product Product.createdAt)
    (docs : List Product)
    (req : SellerListRequest) :
    Except Error (Listed Product) :=
  match validateUid "sellerId" req.sellerId with
  | .error e => .error e
  | .ok _ =>
    let limit := min req.limit maxPageSize
    let found :=
      if isPlain req.sellerId then
        some (answers.arrange (docs.filter req.selects))
      else answers.broken
    match found with
    | none =>
      .error (.database "Failed to fetch seller products")
    | some rows =>
      .ok (respond Product.id limit (rows.take (limit + 1)))

structure GetRatingsRequest where
  productId : String
  limit : ℕ
  startAfter : Option String
  minRating : Option ℚ

def GetRatingsRequest.selects
    (req : GetRatingsRequest)
    (r : Rating) : Bool :=
  r.productId == some req.productId &&
    req.minRating.all (fun least =>
      r.rating.any (fun rating => least ≤ rating))

/- The cursor of the request is not used. -/
def getRatings
    (answers : Answers Rating Rating.createdAt)
    (docs : List Rating)
    (req : GetRatingsRequest) :
    Except Error (Listed Rating) :=
  match validateUid "productId" req.productId with
  | .error e => .error e
  | .ok _ =>
    let limit := min req.limit maxRatingsPage
    if req.minRating.any (fun least =>
        !(1 ≤ least && least ≤ 5)) then
      .error (.validation
        "minRating must be between 1 and 5")
    else
      let found :=
        if isPlain req.productId then
          some (answers.arrange (docs.filter req.selects))
        else answers.broken
      match found with
      | none =>
        .error (.database "Failed to fetch ratings")
      | some rows =>
        .ok (respond Rating.id limit
          (rows.take (limit + 1)))

--------
-- Order
--------

section

variable {field : OrderField} {descending : Bool}

theorem nullsLast_trans
    (a b c : Option ℚ)
    (hAB : nullsLast descending a b = true)
    (hBC : nullsLast descending b c = true) :
    nullsLast descending a c = true := by
  cases a <;> cases b <;> cases c <;> cases descending <;>
    simp_all [nullsLast]
  · exact le_trans hAB hBC
  · exact le_trans hBC hAB

theorem nullsLast_total (a b : Option ℚ) :
    (nullsLast descending a b || nullsLast descending b a) =
      true := by
  cases a <;> cases b <;> cases descending <;>
    simp [nullsLast, le_total]

theorem fieldInOrder_trans
    (a b c : Product)
    (hAB : field.inOrder descending a b = true)
    (hBC : field.inOrder descending b c = true) :
    field.inOrder descending a c = true := by
  cases field with
  | text f => exact inOrder_trans _ _ _ hAB hBC
  | number f => exact nullsLast_trans _ _ _ hAB hBC

theorem fieldInOrder_total (a b : Product) :
    (field.inOrder descending a b ||
      field.inOrder descending b a) = true := by
  cases field with
  | text f => exact inOrder_total _ _
  | number f => exact nullsLast_total _ _

theorem idInOrder_trans
    (a b c : Product)
    (hAB : idInOrder descending a b = true)
    (hBC : idInOrder descending b c = true) :
    idInOrder descending a c = true := by
  cases descending <;>
    simp_all only [idInOrder, decide_eq_true_eq, if_true,
      Bool.false_eq_true, if_false]
  · exact le_trans hAB hBC
  · exact le_trans hBC hAB

theorem idInOrder_total (a b : Product) :
    (idInOrder descending a b || idInOrder descending b a) =
      true := by
  cases descending <;> simp [idInOrder, le_total]

theorem rowOrder_trans
    (a b c : Product)
    (hAB : rowOrder field descending a b = true)
    (hBC : rowOrder field descending b c = true) :
    rowOrder field descending a c = true :=
  thenBy_trans fieldInOrder_trans idInOrder_trans a b c hAB
    hBC

theorem rowOrder_total (a b : Product) :
    (rowOrder field descending a b ||
      rowOrder field descending b a) = true :=
  thenBy_total fieldInOrder_total idInOrder_total a b

theorem rowOrder_refl (a : Product) :
    rowOrder field descending a a = true := by
  simpa using rowOrder_total a a

/- One row stands before another one, or both are the same. -/
theorem rowOrder_iff {a b : Product} :
    rowOrder field descending a b = true ↔
      field.inOrder descending a b = true ∧
        (field.inOrder descending b a = true →
          idInOrder descending a b = true) := by
  rw [rowOrder, thenBy, Bool.and_eq_true, Bool.or_eq_true,
    Bool.not_eq_true']
  cases field.inOrder descending b a <;> simp

/- No row comes after an id that it does not stand behind. -/
theorem idAfter_eq (a b : Product) :
    idAfter descending a.id b = !idInOrder descending b a := by
  have hStrict : ∀ x y : String,
      decide (x < y) = !decide (y ≤ x) := by
    intro x y
    rw [← decide_not]
    exact decide_eq_decide.mpr not_le.symm
  cases descending with
  | false => exact hStrict a.id b.id
  | true => exact hStrict b.id a.id

variable {a b : Product}

theorem id_eq_of_idInOrder
    (hAB : idInOrder descending a b = true)
    (hBA : idInOrder descending b a = true) :
    a.id = b.id := by
  cases descending <;>
    simp_all only [idInOrder, decide_eq_true_eq, if_true,
      Bool.false_eq_true, if_false]
  · exact le_antisymm hAB hBA
  · exact le_antisymm hBA hAB

theorem id_eq_of_rowOrder
    (hAB : rowOrder field descending a b = true)
    (hBA : rowOrder field descending b a = true) :
    a.id = b.id := by
  rw [rowOrder_iff] at hAB hBA
  exact id_eq_of_idInOrder (hAB.2 hBA.1) (hBA.2 hAB.1)

/- Of two rows, the later one comes after the other's id. -/
theorem idAfter_of_ne
    (hOrder : idInOrder descending a b = true)
    (hNe : a.id ≠ b.id) :
    idAfter descending a.id b = true := by
  rw [idAfter_eq, Bool.not_eq_true']
  cases hBack : idInOrder descending b a with
  | false => rfl
  | true => exact absurd (id_eq_of_idInOrder hOrder hBack) hNe

end

--------
-- Beyond a cursor
--------

section

variable {f : TextField} {g : NumberField}
variable {descending : Bool} {r d : Product}

variable {value : String}

/- What stands before a row is not beyond it. -/
theorem isBeyond_of_before
    (hValue : f.value r = some value)
    (hOrder : rowOrder (.text f) descending d r = true) :
    isBeyond f.value descending value r.id d = false := by
  rcases rowOrder_iff.mp hOrder with ⟨hField, hId⟩
  change inOrder descending (f.value d) (f.value r) = true
    at hField
  change inOrder descending (f.value r) (f.value d) = true → _
    at hId
  rw [hValue] at hField hId
  rw [isBeyond, comesAfter_of_inOrder hField, Bool.false_or]
  cases hSame : f.value d == some value with
  | false => rfl
  | true =>
    rw [beq_iff_eq] at hSame
    rw [hSame] at hId
    rw [Bool.true_and, idAfter_eq, hId (inOrder_refl _)]
    rfl

/- What stands behind a row is beyond it, if it has a value. -/
theorem isBeyond_of_behind
    (hValue : f.value r = some value)
    (hSome : f.value d ≠ none)
    (hNe : r.id ≠ d.id)
    (hOrder : rowOrder (.text f) descending r d = true) :
    isBeyond f.value descending value r.id d = true := by
  rcases rowOrder_iff.mp hOrder with ⟨hField, hId⟩
  change inOrder descending (f.value r) (f.value d) = true
    at hField
  change inOrder descending (f.value d) (f.value r) = true → _
    at hId
  rw [hValue] at hField hId
  rw [isBeyond, Bool.or_eq_true, Bool.and_eq_true,
    beq_iff_eq]
  by_cases hSame : f.value d = some value
  · rw [hSame] at hId
    exact Or.inr ⟨hSame,
      idAfter_of_ne (hId (inOrder_refl _)) hNe⟩
  · exact Or.inl ((comesAfter_iff hField).mpr
      ⟨Option.some_ne_none _, hSome, Ne.symm hSame⟩)

/- A row without a value is beyond none that has one. -/
theorem isBeyond_none
    (hNone : f.value d = none) :
    isBeyond f.value descending value r.id d = false := by
  rw [isBeyond, hNone]
  rfl

/- Rows without a number stand at the end, by their ids. -/
theorem number_none_of_behind
    (hNone : g.value r = none)
    (hOrder : rowOrder (.number g) descending r d = true) :
    g.value d = none ∧ idInOrder descending r d = true := by
  rcases rowOrder_iff.mp hOrder with ⟨hField, hId⟩
  change nullsLast descending (g.value r) (g.value d) = true
    at hField
  change nullsLast descending (g.value d) (g.value r) = true →
    _ at hId
  rw [hNone] at hField hId
  cases hD : g.value d with
  | none =>
    rw [hD] at hId
    exact ⟨rfl, hId rfl⟩
  | some q =>
    rw [hD] at hField
    exact Bool.noConfusion hField

end

--------
-- Queries
--------

/- All rows of a request in their order. -/
def ordered
    (docs : List Product)
    (req : ListProductsRequest)
    (field : OrderField) : List Product :=
  (docs.filter req.selects).mergeSort
    (rowOrder field req.descending)

/- The query for the page after a cursor. -/
def rowsAfter
    (broken : Option String → Option (List Product))
    (docs : List Product)
    (req : ListProductsRequest)
    (field : OrderField)
    (cursor : Option String) : Option (List Product) :=
  productRows broken docs { req with startAfter := cursor }
    field

section

variable {broken : Option String → Option (List Product)}
variable {table : Rows Product Product.id}
variable {req : ListProductsRequest} {field : OrderField}
variable {f : TextField} {g : NumberField}
variable {descending : Bool} {r d : Product}

theorem eq_of_id
    (hR : r ∈ table.docs)
    (hD : d ∈ table.docs)
    (hId : r.id = d.id) :
    r = d :=
  List.inj_on_of_nodup_map table.distinct hR hD hId

theorem find_id (hRow : r ∈ table.docs) :
    table.docs.find? (fun p => p.id == r.id) = some r := by
  cases hFind : table.docs.find? (fun p => p.id == r.id) with
  | none =>
    have hNot := List.find?_eq_none.mp hFind r hRow
    exact absurd (beq_self_eq_true r.id) hNot
  | some other =>
    have hId := List.find?_some hFind
    have hOther := List.mem_of_find?_eq_some hFind
    rw [eq_of_id hOther hRow (beq_iff_eq.mp hId)]

theorem mem_ordered :
    d ∈ ordered table.docs req field ↔
      d ∈ table.docs ∧ req.selects d = true := by
  rw [ordered, List.mem_mergeSort, List.mem_filter]

theorem ordered_perm :
    (ordered table.docs req field).Perm
      (table.docs.filter req.selects) :=
  List.mergeSort_perm _ _

theorem ordered_nodup :
    (ordered table.docs req field).Nodup :=
  ordered_perm.nodup_iff.mpr
    ((List.Nodup.of_map _ table.distinct).filter _)

theorem ordered_sorted :
    (ordered table.docs req field).Pairwise
      (fun a b =>
        rowOrder field req.descending a b = true) :=
  List.pairwise_mergeSort rowOrder_trans rowOrder_total _

/- A condition on the cursor picks from the ordered rows. -/
theorem rowsAfter_eq
    {cursor : Option String}
    {condition : Product → Bool}
    (hFilters : req.filtersPlain = true)
    (hCondition :
      cursorCondition field req.descending table.docs cursor =
        some condition) :
    rowsAfter broken table.docs req field cursor =
      some ((ordered table.docs req field).filter
        condition) := by
  have hRows :
      rowsAfter broken table.docs req field cursor =
        some ((table.docs.filter (fun p =>
          req.selects p && condition p)).mergeSort
            (rowOrder field req.descending)) := by
    change (match
        if req.filtersPlain then
          cursorCondition field req.descending table.docs
            cursor
        else none with
      | none => _
      | some condition => _) = _
    rw [if_pos hFilters, hCondition]
    rfl
  have hBoth :
      table.docs.filter (fun p =>
          req.selects p && condition p) =
        (table.docs.filter req.selects).filter condition := by
    rw [List.filter_filter]
    exact List.filter_congr (fun p _ => Bool.and_comm _ _)
  rw [hRows, hBoth, ordered,
    mergeSort_filter rowOrder_trans rowOrder_total]
  intro a hA b hB hAB hBA
  exact eq_of_id (List.mem_of_mem_filter hA)
    (List.mem_of_mem_filter hB) (id_eq_of_rowOrder hAB hBA)

theorem rowsAfter_broken
    {cursor : Option String}
    (hBroken :
      req.filtersPlain = false ∨
        cursorCondition field req.descending table.docs
          cursor = none) :
    rowsAfter broken table.docs req field cursor =
      broken cursor := by
  change (match
      if req.filtersPlain then
        cursorCondition field req.descending table.docs cursor
      else none with
    | none => _
    | some condition => _) = _
  rcases hBroken with hFilters | hCursor
  · rw [hFilters]
    rfl
  · rw [hCursor, ite_self]

/- The first query is for all rows. -/
theorem rowsAfter_none (hFilters : req.filtersPlain = true) :
    rowsAfter broken table.docs req field none =
      some (ordered table.docs req field) := by
  have hAll :
      rowsAfter broken table.docs req field none =
        some ((ordered table.docs req field).filter
          (fun _ => true)) :=
    rowsAfter_eq hFilters rfl
  rw [hAll, List.filter_eq_self.mpr (fun _ _ => rfl)]

theorem cursorCondition_broken
    {id : String}
    (hBroken : isPlain id = false) :
    cursorCondition field descending table.docs (some id) =
      none := by
  change (if isPlain id = true then _ else none) = none
  rw [hBroken]
  rfl

/- A number is never read back. -/
theorem cursorCondition_number
    (hPlain : isPlain r.id = true)
    (hRow : r ∈ table.docs) :
    cursorCondition (.number g) descending table.docs
        (some r.id) =
      some (fun p =>
        (g.value p).isNone &&
          idAfter descending r.id p) := by
  have hValue :
      (cursorValue (.number g) table.docs r.id).bind
        Decoded.asF64 = none := by
    rw [cursorValue, find_id hRow, Option.bind_some,
      OrderField.cell]
    cases g.value r <;> rfl
  change (if isPlain r.id = true then
      (match (cursorValue (.number g) table.docs r.id).bind
          Decoded.asF64 with
        | some _ => _
        | none => _)
    else none) = _
  rw [if_pos hPlain, hValue]

theorem cursorCondition_text
    (hPlain : isPlain r.id = true)
    (hRow : r ∈ table.docs) :
    cursorCondition (.text f) descending table.docs
        (some r.id) =
      match f.value r with
      | some text =>
        if isPlain text then
          some (isBeyond f.value descending text r.id)
        else none
      | none => some (fun _ => true) := by
  have hValue :
      (cursorValue (.text f) table.docs r.id).bind
        Decoded.asStr = f.value r := by
    rw [cursorValue, find_id hRow, Option.bind_some,
      OrderField.cell]
    cases f.value r <;> rfl
  change (if isPlain r.id = true then
      (match (cursorValue (.text f) table.docs r.id).bind
          Decoded.asStr with
        | some _ => _
        | none => _)
    else none) = _
  rw [if_pos hPlain, hValue]

end

--------
-- Pages by a text
--------

/-
  The last row of every page but the last has plain texts, and
  no value is missing from the last row of the first page on.
-/
structure TextsPaged
    (f : TextField)
    (size : ℕ)
    (rows : List Product) : Prop where
  plain :
    ∀ k r, Boundary size rows k r →
      isPlain r.id = true ∧
        (f.value r).all isPlain = true
  present : ∀ d ∈ rows.drop (size - 1), f.value d ≠ none

/-
  The last row of every page but the last has a plain id, and
  the rows behind the first page have no value and ids beyond
  that page's last one.
-/
structure NumbersPaged
    (g : NumberField)
    (descending : Bool)
    (size : ℕ)
    (rows : List Product) : Prop where
  plain :
    ∀ k r, Boundary size rows k r → isPlain r.id = true
  missing :
    ∀ last ∈ rows[size - 1]?, ∀ d ∈ rows.drop size,
      g.value d = none ∧ idAfter descending last.id d = true

section

variable {broken : Option String → Option (List Product)}
variable {table : Rows Product Product.id}
variable {req : ListProductsRequest} {f : TextField}
variable {g : NumberField} {size : ℕ}

variable {field : OrderField} {k : ℕ} {r d : Product}

/- A row that ends a page is a stored one. -/
theorem mem_of_boundary
    (hBoundary :
      Boundary size (ordered table.docs req field) k r) :
    r ∈ table.docs :=
  (mem_ordered.mp (List.mem_of_getElem? hBoundary.2.2)).1

/- The rows on a page stand before its end. -/
theorem before_boundary
    (hSize : 0 < size)
    (hBoundary :
      Boundary size (ordered table.docs req field) k r)
    (hMem :
      d ∈ (ordered table.docs req field).take (k * size)) :
    rowOrder field req.descending d r = true := by
  have hPos : 0 < k * size := Nat.mul_pos hBoundary.1 hSize
  have hIndex : k * size - 1 + 1 = k * size := by omega
  rw [← hIndex] at hMem
  exact le_of_mem_take ordered_sorted rowOrder_refl
    hBoundary.2.2 hMem

/- The rows on later pages stand behind it. -/
theorem behind_boundary
    (hSize : 0 < size)
    (hBoundary :
      Boundary size (ordered table.docs req field) k r)
    (hMem :
      d ∈ (ordered table.docs req field).drop (k * size)) :
    rowOrder field req.descending r d = true ∧
      r.id ≠ d.id := by
  have hPos : 0 < k * size := Nat.mul_pos hBoundary.1 hSize
  have hIndex : k * size - 1 + 1 = k * size := by omega
  rw [← hIndex] at hMem
  refine ⟨le_of_mem_drop ordered_sorted hBoundary.2.2 hMem, ?_⟩
  intro hId
  exact ne_of_mem_drop ordered_nodup hBoundary.2.2 hMem
    (eq_of_id (mem_of_boundary hBoundary)
      (mem_ordered.mp (List.mem_of_mem_drop hMem)).1 hId)

/- A cursor of a row with a text leads to the rest. -/
theorem texts_split
    (hSize : 0 < size)
    (hFilters : req.filtersPlain = true)
    (hPresent :
      ∀ d ∈ (ordered table.docs req (.text f)).drop
          (size - 1),
        f.value d ≠ none)
    (hBoundary :
      Boundary size (ordered table.docs req (.text f)) k r)
    (hId : isPlain r.id = true)
    (hValue : (f.value r).all isPlain = true) :
    rowsAfter broken table.docs req (.text f) (some r.id) =
      some ((ordered table.docs req (.text f)).drop
        (k * size)) := by
  have hRow := mem_of_boundary hBoundary
  cases hText : f.value r with
  | none =>
    exact absurd hText
      (hPresent r (hBoundary.mem_drop hSize))
  | some text =>
    rw [hText] at hValue
    have hPlain : isPlain text = true := hValue
    have hCondition :
        cursorCondition (.text f) req.descending table.docs
            (some r.id) =
          some (isBeyond f.value req.descending text
            r.id) := by
      rw [cursorCondition_text hId hRow, hText]
      exact if_pos hPlain
    rw [rowsAfter_eq hFilters hCondition]
    congr 1
    apply filter_eq_drop
    · intro d hMem
      exact isBeyond_of_before hText
        (before_boundary hSize hBoundary hMem)
    · intro d hMem
      rcases behind_boundary hSize hBoundary hMem with
        ⟨hOrder, hNe⟩
      have hLe : size - 1 ≤ k * size := by
        have hPage := Nat.le_mul_of_pos_left size hBoundary.1
        omega
      exact isBeyond_of_behind hText
        (hPresent d (mem_drop_of_le hLe hMem)) hNe hOrder

/- A cursor that is answered has plain texts. -/
theorem plain_of_answered
    (hRow : r ∈ table.docs)
    (hAnswered :
      (rowsAfter (fun _ => none) table.docs req (.text f)
        (some r.id)).isSome = true) :
    isPlain r.id = true ∧ (f.value r).all isPlain = true := by
  by_contra hNot
  have hBroken :
      cursorCondition (.text f) req.descending table.docs
        (some r.id) = none := by
    cases hId : isPlain r.id with
    | false => exact cursorCondition_broken hId
    | true =>
      rw [cursorCondition_text hId hRow]
      cases hText : f.value r with
      | none =>
        rw [hText] at hNot
        exact absurd ⟨hId, rfl⟩ hNot
      | some text =>
        rw [hText] at hNot
        exact if_neg (fun hPlain => hNot ⟨hId, hPlain⟩)
  rw [rowsAfter_broken (Or.inr hBroken)] at hAnswered
  exact Bool.noConfusion hAnswered

/- Without a value in its row a cursor leads to the start. -/
theorem loop_of_text_none
    (hFilters : req.filtersPlain = true)
    (hRow : r ∈ table.docs)
    (hNone : f.value r = none)
    {next : List Product}
    (hNext :
      rowsAfter (fun _ => none) table.docs req (.text f)
        (some r.id) = some next) :
    next = ordered table.docs req (.text f) := by
  have hPlain := plain_of_answered hRow (by rw [hNext]; rfl)
  have hCondition :
      cursorCondition (.text f) req.descending table.docs
        (some r.id) = some (fun _ => true) := by
    rw [cursorCondition_text hPlain.1 hRow, hNone]
  rw [rowsAfter_eq hFilters hCondition,
    List.filter_eq_self.mpr (fun _ _ => rfl)] at hNext
  exact (Option.some.inj hNext).symm

/- The rows after a row with a text have texts. -/
theorem texts_closed
    {rows : List Product}
    (hFilters : req.filtersPlain = true)
    (hRow : r ∈ table.docs)
    (hSome : f.value r ≠ none)
    (hNone : f.value d = none)
    (hRows :
      rowsAfter (fun _ => none) table.docs req (.text f)
        (some r.id) = some rows) :
    d ∉ rows ∧
      ∀ s ∈ rows, s ∈ table.docs ∧ f.value s ≠ none := by
  have hPlain := plain_of_answered hRow (by rw [hRows]; rfl)
  cases hText : f.value r with
  | none => exact absurd hText hSome
  | some text =>
    have hCondition :
        cursorCondition (.text f) req.descending table.docs
            (some r.id) =
          some (isBeyond f.value req.descending text
            r.id) := by
      rw [cursorCondition_text hPlain.1 hRow]
      rw [hText] at hPlain ⊢
      exact if_pos hPlain.2
    rw [rowsAfter_eq hFilters hCondition] at hRows
    cases hRows
    constructor
    · intro hMem
      have hBeyond := List.of_mem_filter hMem
      rw [isBeyond_none hNone] at hBeyond
      exact Bool.noConfusion hBeyond
    · intro s hMem
      refine ⟨(mem_ordered.mp
        (List.mem_of_mem_filter hMem)).1, ?_⟩
      intro hS
      have hBeyond := List.of_mem_filter hMem
      rw [isBeyond_none hS] at hBeyond
      exact Bool.noConfusion hBeyond

/- A client that has all rows met no row without a text. -/
theorem present_of_collects
    {items : List Product}
    {first : Product}
    (hSize : 0 < size)
    (hFilters : req.filtersPlain = true)
    (hFirst :
      Boundary size (ordered table.docs req (.text f)) 1
        first)
    (hCollects :
      Collects (pages
          (rowsAfter (fun _ => none) table.docs req (.text f))
          Product.id size)
        none items)
    (hPerm :
      items.Perm (ordered table.docs req (.text f))) :
    ∀ d ∈ (ordered table.docs req (.text f)).drop (size - 1),
      f.value d ≠ none := by
  intro d hMem hNone
  have hRow := mem_of_boundary hFirst
  have hIndex := hFirst.2.2
  have hMore := hFirst.2.1
  rw [Nat.one_mul] at hIndex hMore
  by_cases hText : f.value first = none
  · exact not_collects_of_loop hSize (rowsAfter_none hFilters)
      hMore hIndex
      (fun next hNext =>
        loop_of_text_none hFilters hRow hText hNext)
      items hCollects
  · have hBehind :
        d ∈ (ordered table.docs req (.text f)).drop size := by
      rcases mem_drop_pred hSize hIndex hMem with
        hSame | hBehind
      · exact absurd (hSame ▸ hNone) hText
      · exact hBehind
    rcases hCollects.rest hSize (rowsAfter_none hFilters)
        hMore hIndex with ⟨rest, hItems, hRest⟩
    have hNotRest : d ∉ rest := by
      refine not_mem_of_closed
        (P := fun c => ∃ r ∈ table.docs,
          r.id = c ∧ f.value r ≠ none)
        hSize ?_ ⟨first, hRow, rfl, hText⟩ hRest
      rintro c rows ⟨r, hR, rfl, hSome⟩ hNext
      rcases texts_closed hFilters hR hSome hNone hNext with
        ⟨hNot, hKind⟩
      exact ⟨hNot, fun s hS =>
        ⟨s, (hKind s hS).1, rfl, (hKind s hS).2⟩⟩
    exact hNotRest
      (mem_rest ordered_nodup hPerm hItems hBehind)

/-
  Pages by a text are exact for every reading of a broken
  literal exactly if they are one page or meet no gap.
-/
theorem texts_exact_iff
    (hSize : 0 < size)
    (hFilters : req.filtersPlain = true) :
    (∀ broken, Exact
        (pages (rowsAfter broken table.docs req (.text f))
          Product.id size)
        (table.docs.filter req.selects)) ↔
      (ordered table.docs req (.text f)).length ≤ size ∨
        TextsPaged f size
          (ordered table.docs req (.text f)) := by
  constructor
  · intro hExact
    refine or_iff_not_imp_left.mpr ?_
    intro hLong
    rcases hExact (fun _ => none) with
      ⟨items, hCollects, hPerm⟩
    have hMore :
        1 * size <
          (ordered table.docs req (.text f)).length := by
      omega
    rcases boundary_of_lt hSize Nat.one_pos hMore with
      ⟨first, hFirst⟩
    have hPresent := present_of_collects hSize hFilters hFirst
      hCollects (hPerm.trans ordered_perm.symm)
    have hSplits :
        Splits
          (rowsAfter (fun _ => none) table.docs req (.text f))
          Product.id size
          (ordered table.docs req (.text f)) := by
      intro k r hBoundary next hNext
      have hPlain := plain_of_answered
        (mem_of_boundary hBoundary) (by rw [hNext]; rfl)
      rw [texts_split hSize hFilters hPresent hBoundary
        hPlain.1 hPlain.2] at hNext
      exact (Option.some.inj hNext).symm
    exact
      { plain := fun k r hBoundary =>
          plain_of_answered (mem_of_boundary hBoundary)
            (query_isSome_of_splits hSize
              (rowsAfter_none hFilters) hSplits
              hCollects hBoundary)
        present := hPresent }
  · rintro (hShort | hPaged) broken
    · exact ⟨_, collects_of_le (rowsAfter_none hFilters)
        hShort, ordered_perm⟩
    · refine ⟨_, collects_of_answers hSize
        (rowsAfter_none hFilters) ?_, ordered_perm⟩
      intro k r hBoundary
      rcases hPaged.plain k r hBoundary with ⟨hId, hValue⟩
      exact texts_split hSize hFilters hPaged.present
        hBoundary hId hValue

end

--------
-- Pages by a number
--------

section

variable {broken : Option String → Option (List Product)}
variable {table : Rows Product Product.id}
variable {req : ListProductsRequest} {g : NumberField}
variable {size : ℕ}

theorem idAfter_trans
    {descending : Bool}
    {a b c : Product}
    (hAB : idAfter descending a.id b = true)
    (hBC : idAfter descending b.id c = true) :
    idAfter descending a.id c = true := by
  cases descending with
  | false =>
    exact decide_eq_true (lt_trans (of_decide_eq_true hAB)
      (of_decide_eq_true hBC))
  | true =>
    exact decide_eq_true (lt_trans (of_decide_eq_true hBC)
      (of_decide_eq_true hAB))

variable {r : Product}

/- What a cursor with a plain id is answered with. -/
theorem rowsAfter_number
    (hFilters : req.filtersPlain = true)
    (hRow : r ∈ table.docs)
    (hId : isPlain r.id = true) :
    rowsAfter broken table.docs req (.number g) (some r.id) =
      some ((ordered table.docs req (.number g)).filter
        (fun p =>
          (g.value p).isNone &&
            idAfter req.descending r.id p)) :=
  rowsAfter_eq hFilters (cursorCondition_number hId hRow)

theorem id_plain_of_answered
    (hAnswered :
      (rowsAfter (fun _ => none) table.docs req (.number g)
        (some r.id)).isSome = true) :
    isPlain r.id = true := by
  cases hId : isPlain r.id with
  | true => rfl
  | false =>
    rw [rowsAfter_broken
      (Or.inr (cursorCondition_broken hId))] at hAnswered
    exact Bool.noConfusion hAnswered

/- A cursor leads to the rest if the rest has no numbers. -/
theorem numbers_split
    {k : ℕ}
    (hSize : 0 < size)
    (hFilters : req.filtersPlain = true)
    (hMissing :
      ∀ last ∈ (ordered table.docs req
          (.number g))[size - 1]?,
        ∀ d ∈ (ordered table.docs req (.number g)).drop size,
          g.value d = none ∧
            idAfter req.descending last.id d = true)
    (hBoundary :
      Boundary size (ordered table.docs req (.number g)) k r)
    (hId : isPlain r.id = true) :
    rowsAfter broken table.docs req (.number g) (some r.id) =
      some ((ordered table.docs req (.number g)).drop
        (k * size)) := by
  have hLe : size ≤ k * size :=
    Nat.le_mul_of_pos_left size hBoundary.1
  have hIndex : size - 1 <
      (ordered table.docs req (.number g)).length := by
    have hLt := hBoundary.2.1
    omega
  have hFirst := List.getElem?_eq_getElem hIndex
  rw [rowsAfter_number hFilters (mem_of_boundary hBoundary)
    hId]
  congr 1
  apply filter_eq_drop
  · intro d hMem
    cases hNumber : g.value d with
    | some q => rfl
    | none =>
      have hBefore := (number_none_of_behind hNumber
        (before_boundary hSize hBoundary hMem)).2
      change idAfter req.descending r.id d = false
      rw [idAfter_eq, hBefore]
      rfl
  · intro d hMem
    have hRest := hMissing _ hFirst d
      (mem_drop_of_le hLe hMem)
    rcases behind_boundary hSize hBoundary hMem with
      ⟨hOrder, hNe⟩
    have hAfter : idAfter req.descending r.id d = true := by
      rcases mem_drop_pred hSize hFirst
          (hBoundary.mem_drop hSize) with hSame | hBehind
      · rw [hSame]
        exact hRest.2
      · have hNone := (hMissing _ hFirst r hBehind).1
        exact idAfter_of_ne
          (number_none_of_behind hNone hOrder).2 hNe
    rw [hRest.1, hAfter]
    rfl

/- A client that has all rows met no number behind a page. -/
theorem missing_of_collects
    {items : List Product}
    (hSize : 0 < size)
    (hFilters : req.filtersPlain = true)
    (hMore :
      size < (ordered table.docs req (.number g)).length)
    (hCollects :
      Collects (pages
          (rowsAfter (fun _ => none) table.docs req
            (.number g))
          Product.id size)
        none items)
    (hPerm :
      items.Perm (ordered table.docs req (.number g))) :
    ∀ last ∈ (ordered table.docs req (.number g))[size - 1]?,
      ∀ d ∈ (ordered table.docs req (.number g)).drop size,
        g.value d = none ∧
          idAfter req.descending last.id d = true := by
  intro last hLast d hBehind
  have hIndex :
      (ordered table.docs req (.number g))[size - 1]? =
        some last := hLast
  have hRow : last ∈ table.docs :=
    (mem_ordered.mp (List.mem_of_getElem? hIndex)).1
  rcases hCollects.rest hSize (rowsAfter_none hFilters) hMore
      hIndex with ⟨rest, hItems, hRest⟩
  by_contra hNot
  have hNotRest : d ∉ rest := by
    refine not_mem_of_closed
      (P := fun c => ∃ r ∈ table.docs, r.id = c ∧
        (r = last ∨
          idAfter req.descending last.id r = true))
      hSize ?_ ⟨last, hRow, rfl, Or.inl rfl⟩ hRest
    rintro c rows ⟨r, hR, rfl, hBeyond⟩ hNext
    have hId := id_plain_of_answered (by rw [hNext]; rfl)
    rw [rowsAfter_number hFilters hR hId] at hNext
    cases hNext
    have hPicked :
        ∀ s ∈ (ordered table.docs req (.number g)).filter
            (fun p =>
              (g.value p).isNone &&
                idAfter req.descending r.id p),
          g.value s = none ∧
            idAfter req.descending last.id s = true := by
      intro s hS
      have hPick := List.of_mem_filter hS
      have hBoth := Bool.and_eq_true_iff.mp hPick
      refine ⟨Option.isNone_iff_eq_none.mp hBoth.1, ?_⟩
      rcases hBeyond with rfl | hBeyond
      · exact hBoth.2
      · exact idAfter_trans hBeyond hBoth.2
    exact ⟨fun hMem => hNot (hPicked d hMem), fun s hS =>
      ⟨s, (mem_ordered.mp (List.mem_of_mem_filter hS)).1,
        rfl, Or.inr (hPicked s hS).2⟩⟩
  exact hNotRest
    (mem_rest ordered_nodup hPerm hItems hBehind)

/-
  Pages by a number are exact exactly if they are one page or
  have no number behind the first page.
-/
theorem numbers_exact_iff
    (hSize : 0 < size)
    (hFilters : req.filtersPlain = true) :
    (∀ broken, Exact
        (pages (rowsAfter broken table.docs req (.number g))
          Product.id size)
        (table.docs.filter req.selects)) ↔
      (ordered table.docs req (.number g)).length ≤ size ∨
        NumbersPaged g req.descending size
          (ordered table.docs req (.number g)) := by
  constructor
  · intro hExact
    refine or_iff_not_imp_left.mpr ?_
    intro hLong
    rcases hExact (fun _ => none) with
      ⟨items, hCollects, hPerm⟩
    have hMissing := missing_of_collects hSize hFilters
      (by omega) hCollects (hPerm.trans ordered_perm.symm)
    have hSplits :
        Splits (rowsAfter (fun _ => none) table.docs req
            (.number g))
          Product.id size
          (ordered table.docs req (.number g)) := by
      intro k r hBoundary next hNext
      have hId := id_plain_of_answered (by rw [hNext]; rfl)
      rw [numbers_split hSize hFilters hMissing hBoundary
        hId] at hNext
      exact (Option.some.inj hNext).symm
    exact
      { plain := fun k r hBoundary =>
          id_plain_of_answered (query_isSome_of_splits hSize
              (rowsAfter_none hFilters) hSplits
              hCollects hBoundary)
        missing := hMissing }
  · rintro (hShort | hPaged) broken
    · exact ⟨_, collects_of_le (rowsAfter_none hFilters)
        hShort, ordered_perm⟩
    · refine ⟨_, collects_of_answers hSize
        (rowsAfter_none hFilters) ?_, ordered_perm⟩
      intro k r hBoundary
      exact numbers_split hSize hFilters hPaged.missing
        hBoundary (hPaged.plain k r hBoundary)

end

--------
-- Lists without a cursor
--------

section

variable {α : Type} {createdAt : α → Option String}
variable {id : α → String} {size : ℕ}

/- A database that sorts by the time alone. -/
def sortedAnswers (createdAt : α → Option String) :
    Answers α createdAt where
  broken := none
  arrange := fun docs =>
    docs.mergeSort
      (fun a b => inOrder true (createdAt a) (createdAt b))
  perm := fun docs => List.mergeSort_perm docs _
  sorted := by
    intro docs
    apply List.pairwise_mergeSort
    · intro a b c hAB hBC
      exact inOrder_trans _ _ _ hAB hBC
    · intro a b
      exact inOrder_total _ _

/-
  A query that takes no note of the cursor gives all rows only
  if they fit on one page.
-/
theorem unpaged_exact_iff
    (hSize : 0 < size)
    (plain : Bool)
    (docs : List α) :
    (∀ answers : Answers α createdAt, Exact (pages (fun _ =>
            if plain then some (answers.arrange docs)
            else answers.broken)
          id size)
        docs) ↔
      plain = true ∧ docs.length ≤ size := by
  constructor
  · intro hExact
    rcases hExact (sortedAnswers createdAt) with
      ⟨items, hCollects, _⟩
    cases plain with
    | false =>
      rcases hCollects.cases_pages with ⟨rows, hRows, _⟩
      exact Option.noConfusion rfl (heq_of_eq hRows)
    | true =>
      refine ⟨rfl, ?_⟩
      by_contra hLong
      have hLength :=
        ((sortedAnswers createdAt).perm docs).length_eq
      have hIndex : size - 1 <
          ((sortedAnswers createdAt).arrange docs).length := by
        omega
      exact not_collects_of_loop hSize rfl (by omega)
        (List.getElem?_eq_getElem hIndex)
        (fun next hNext => (Option.some.inj hNext).symm)
        items hCollects
  · rintro ⟨rfl, hShort⟩ answers
    refine ⟨_, collects_of_le rfl ?_, answers.perm docs⟩
    rw [(answers.perm docs).length_eq]
    exact hShort

end

--------
-- Clients
--------

def Listed.page {α : Type} (listed : Listed α) :
    Page α String where
  items := listed.items
  next := listed.nextCursor
  more := listed.hasMore

/- The page that a client is sent, if it is sent one. -/
def sent
    {α : Type}
    (response : Except Error (Listed α)) :
    Option (Page α String) :=
  response.toOption.map Listed.page

/- The pages of the same request with other cursors. -/
def productPage
    (broken : Option String → Option (List Product))
    (docs : List Product)
    (req : ListProductsRequest)
    (cursor : Option String) :
    Option (Page Product String) :=
  sent (listProducts broken docs
    { req with startAfter := cursor })

def sellerPage
    (answers : Answers Product Product.createdAt)
    (docs : List Product)
    (req : SellerListRequest)
    (cursor : Option String) :
    Option (Page Product String) :=
  sent (sellerList answers docs
    { req with startAfter := cursor })

def ratingPage
    (answers : Answers Rating Rating.createdAt)
    (docs : List Rating)
    (req : GetRatingsRequest)
    (cursor : Option String) :
    Option (Page Rating String) :=
  sent (getRatings answers docs
    { req with startAfter := cursor })

/- What a request of each kind must be to be accepted. -/
structure ListProductsRequest.Accepted
    (req : ListProductsRequest) : Prop where
  field : req.orderField ≠ none
  direction :
    req.orderDirection = "asc" ∨ req.orderDirection = "desc"
  limit : 1 ≤ req.limit ∧ req.limit ≤ 100

structure SellerListRequest.Accepted
    (req : SellerListRequest) : Prop where
  seller : validateUid "sellerId" req.sellerId = .ok ()
  limit : 1 ≤ req.limit ∧ req.limit ≤ 100

structure GetRatingsRequest.Accepted
    (req : GetRatingsRequest) : Prop where
  product : validateUid "productId" req.productId = .ok ()
  rating : ∀ least ∈ req.minRating, 1 ≤ least ∧ least ≤ 5
  limit : 1 ≤ req.limit ∧ req.limit ≤ 100

/-
  The filters are plain, and the rows are one page or can be
  paged by the field of the request.
-/
def ListProductsRequest.Pageable
    (req : ListProductsRequest)
    (docs : List Product) : Prop :=
  req.filtersPlain = true ∧
    match req.orderField with
    | some (.text f) =>
      (ordered docs req (.text f)).length ≤ req.limit ∨
        TextsPaged f req.limit (ordered docs req (.text f))
    | some (.number g) =>
      (ordered docs req (.number g)).length ≤ req.limit ∨
        NumbersPaged g req.descending req.limit
          (ordered docs req (.number g))
    | none => False

section

variable {broken : Option String → Option (List Product)}
variable {products : Rows Product Product.id}
variable {ratings : Rows Rating Rating.id}

/- One row too many tells that there is another page. -/
theorem page_respond
    {α : Type}
    (id : α → String)
    (limit : ℕ)
    (rows : List α) :
    (respond id limit (rows.take (limit + 1))).page =
      pageOf id limit rows := by
  have hItems :
      (rows.take (limit + 1)).take limit =
        rows.take limit := by
    rw [List.take_take, Nat.min_eq_left (by omega)]
  have hMore :
      limit < (rows.take (limit + 1)).length ↔
        limit < rows.length := by
    rw [List.length_take]
    omega
  simp only [respond, Listed.page, pageOf, hItems, hMore,
    decide_eq_true_eq]

theorem productPage_eq
    {req : ListProductsRequest}
    {field : OrderField}
    (hField : req.orderField = some field)
    (hDirection :
      req.orderDirection = "asc" ∨
        req.orderDirection = "desc")
    (hLimit : req.limit ≤ 100) :
    productPage broken products.docs req =
      pages (rowsAfter broken products.docs req field)
        Product.id req.limit := by
  funext cursor
  have hAsc :
      (req.orderDirection != "asc" &&
        req.orderDirection != "desc") = false := by
    rcases hDirection with hDir | hDir <;> rw [hDir] <;> rfl
  have hMin : min req.limit maxPageSize = req.limit :=
    Nat.min_eq_left hLimit
  have hRequest :
      listProducts broken products.docs
          { req with startAfter := cursor } =
        match rowsAfter broken products.docs req field
            cursor with
        | none =>
          .error (.database "Failed to fetch products")
        | some rows =>
          .ok (respond Product.id req.limit
            (rows.take (req.limit + 1))) := by
    change (match req.orderField with
      | none => _
      | some field => _) = _
    rw [hField]
    change (if _ then _ else _) = _
    rw [if_neg (by rw [hAsc]; exact Bool.false_ne_true), hMin]
    rfl
  rw [productPage, hRequest, pages]
  cases rowsAfter broken products.docs req field cursor with
  | none => rfl
  | some rows =>
    exact congrArg some (page_respond Product.id req.limit
      rows)

theorem sellerPage_eq
    {answers : Answers Product Product.createdAt}
    {req : SellerListRequest}
    (hAccepted : req.Accepted) :
    sellerPage answers products.docs req = pages
        (fun _ =>
          if isPlain req.sellerId then
            some (answers.arrange
              (products.docs.filter req.selects))
          else answers.broken)
        Product.id req.limit := by
  funext cursor
  have hMin : min req.limit maxPageSize = req.limit :=
    Nat.min_eq_left hAccepted.limit.2
  change sent (match validateUid "sellerId" req.sellerId with
    | .error e => _
    | .ok _ => _) = _
  rw [hAccepted.seller, pages]
  change sent (match (if isPlain req.sellerId = true then
      some (answers.arrange
        (products.docs.filter req.selects))
    else answers.broken) with
    | none => _
    | some rows =>
      .ok (respond Product.id (min req.limit maxPageSize)
        (rows.take (min req.limit maxPageSize + 1)))) = _
  rw [hMin]
  cases (if isPlain req.sellerId = true then
      some (answers.arrange
        (products.docs.filter req.selects))
    else answers.broken) with
  | none => rfl
  | some rows =>
    exact congrArg some (page_respond Product.id req.limit
      rows)

theorem ratingPage_eq
    {answers : Answers Rating Rating.createdAt}
    {req : GetRatingsRequest}
    (hAccepted : req.Accepted) :
    ratingPage answers ratings.docs req = pages
        (fun _ =>
          if isPlain req.productId then
            some (answers.arrange
              (ratings.docs.filter req.selects))
          else answers.broken)
        Rating.id (min req.limit 50) := by
  funext cursor
  have hRange :
      req.minRating.any (fun least =>
        !(1 ≤ least && least ≤ 5)) = false := by
    cases hLeast : req.minRating with
    | none => rfl
    | some least =>
      rcases hAccepted.rating least hLeast with
        ⟨hLow, hHigh⟩
      simp [hLow, hHigh]
  change sent (match validateUid "productId" req.productId with
    | .error e => _
    | .ok _ => _) = _
  rw [hAccepted.product, pages]
  change sent (if _ then _ else _) = _
  rw [if_neg (by rw [hRange]; exact Bool.false_ne_true)]
  change sent (match (if isPlain req.productId = true then
      some (answers.arrange
        (ratings.docs.filter req.selects))
    else answers.broken) with
    | none => _
    | some rows =>
      .ok (respond Rating.id (min req.limit 50)
        (rows.take (min req.limit 50 + 1)))) = _
  cases (if isPlain req.productId = true then
      some (answers.arrange
        (ratings.docs.filter req.selects))
    else answers.broken) with
  | none => rfl
  | some rows =>
    exact congrArg some (page_respond Rating.id
      (min req.limit 50) rows)

/- A filter with a broken literal may find nothing at all. -/
theorem filters_of_exact
    {req : ListProductsRequest}
    {field : OrderField}
    {size : ℕ}
    {docs : List Product}
    (hExact :
      Exact (pages
          (rowsAfter (fun _ => none) products.docs req field)
          Product.id size)
        docs) :
    req.filtersPlain = true := by
  cases hFilters : req.filtersPlain with
  | true => rfl
  | false =>
    rcases hExact with ⟨items, hCollects, _⟩
    rcases hCollects.cases_pages with ⟨rows, hRows, _⟩
    rw [rowsAfter_broken (Or.inl hFilters)] at hRows
    exact Option.noConfusion rfl (heq_of_eq hRows)

/- When the pages of an accepted request are exact. -/
theorem product_pages_iff
    (req : ListProductsRequest)
    (hAccepted : req.Accepted) :
    (∀ broken, Exact (productPage broken products.docs req)
        (products.docs.filter req.selects)) ↔
      req.Pageable products.docs := by
  rcases hAccepted with ⟨hField, hDirection, hPos, hLimit⟩
  rcases Option.ne_none_iff_exists'.mp hField with
    ⟨field, hSome⟩
  have hPages :
      ∀ broken, productPage broken products.docs req =
          pages (rowsAfter broken products.docs req field)
            Product.id req.limit :=
    fun _ => productPage_eq hSome hDirection hLimit
  simp only [hPages]
  rw [ListProductsRequest.Pageable, hSome]
  constructor
  · intro hExact
    have hFilters := filters_of_exact (hExact (fun _ => none))
    refine ⟨hFilters, ?_⟩
    cases field with
    | text f => exact (texts_exact_iff hPos hFilters).mp hExact
    | number g =>
      exact (numbers_exact_iff hPos hFilters).mp hExact
  · rintro ⟨hFilters, hPaged⟩
    cases field with
    | text f => exact (texts_exact_iff hPos hFilters).mpr hPaged
    | number g =>
      exact (numbers_exact_iff hPos hFilters).mpr hPaged

end

/-
  The public lists give a client everything exactly if the
  list by a text meets no missing or broken value behind its
  first page, the list by a number meets no number there, and
  the other two lists are one page.
-/
theorem catalogue_pages_iff
    (products : Rows Product Product.id)
    (ratings : Rows Rating Rating.id) :
    (∀ req : ListProductsRequest, req.Accepted → ((∀ broken,
        Exact (productPage broken products.docs req)
          (products.docs.filter req.selects)) ↔
        req.Pageable products.docs)) ∧
    (∀ req : SellerListRequest, req.Accepted → ((∀ answers,
        Exact (sellerPage answers products.docs req)
          (products.docs.filter req.selects)) ↔
        isPlain req.sellerId = true ∧
          (products.docs.filter req.selects).length ≤
            req.limit)) ∧
    ∀ req : GetRatingsRequest, req.Accepted →
      ((∀ answers,
        Exact (ratingPage answers ratings.docs req)
          (ratings.docs.filter req.selects)) ↔
        isPlain req.productId = true ∧
          (ratings.docs.filter req.selects).length ≤
            min req.limit 50) := by
  refine ⟨product_pages_iff, ?_, ?_⟩
  · intro req hAccepted
    simp only [sellerPage_eq hAccepted]
    exact unpaged_exact_iff hAccepted.limit.1 _ _
  · intro req hAccepted
    have hPos : 0 < min req.limit 50 :=
      Nat.lt_min.mpr ⟨hAccepted.limit.1, by omega⟩
    simp only [ratingPage_eq hAccepted]
    exact unpaged_exact_iff hPos _ _

/- Three active products with a price each. -/
def priced (id : String) (cents : ℚ) : Product where
  id := id
  lifecycleStatus := some "active"
  categoryId := none
  subcategory := none
  sellerId := some "seller"
  createdAt := some "2025-01-01T00:00:00Z"
  name := some "Bread"
  priceCents := some cents
  avgRating := none

def threePrices : Rows Product Product.id where
  docs := [priced "a" 100, priced "b" 200, priced "c" 300]
  distinct := by decide

def noRatings : Rows Rating Rating.id where
  docs := []
  distinct := List.nodup_nil

def byPrice : ListProductsRequest where
  limit := 1
  category := none
  subcategory := none
  sellerId := none
  orderBy := some "priceCents"
  orderDirection := "asc"
  startAfter := none

def byName : ListProductsRequest :=
  { byPrice with limit := 3, orderBy := some "name" }

theorem catalogue_pages_three_names :
    byName.Accepted ∧ ∀ broken,
        Exact (productPage broken threePrices.docs byName)
          threePrices.docs := by
  have hAccepted : byName.Accepted :=
    { field := by decide
      direction := Or.inl rfl
      limit := by decide }
  refine ⟨hAccepted, ?_⟩
  refine ((catalogue_pages_iff threePrices noRatings).1
    byName hAccepted).mpr ⟨rfl, Or.inl ?_⟩
  rw [ordered_perm.length_eq]
  rfl

/-
  Three products by their prices, one to a page: the second
  page is empty, as no price is read back for its cursor.
-/
theorem prices_end_after_one_page :
    ¬ Exact
      (productPage (fun _ => none) threePrices.docs byPrice)
      (threePrices.docs.filter byPrice.selects) := by
  have hPages :
      productPage (fun _ => none) threePrices.docs byPrice =
        pages
          (rowsAfter (fun _ => none) threePrices.docs byPrice
            (.number .priceCents))
          Product.id 1 :=
    productPage_eq rfl (Or.inl rfl) (by decide)
  rw [hPages]
  rintro ⟨items, hCollects, hPerm⟩
  have hLength :
      (ordered threePrices.docs byPrice
        (.number .priceCents)).length = 3 := by
    rw [ordered_perm.length_eq]
    rfl
  have hIndex :
      1 < (ordered threePrices.docs byPrice
        (.number .priceCents)).length := by
    omega
  have hMissing := missing_of_collects Nat.one_pos rfl hIndex
    hCollects (hPerm.trans ordered_perm.symm) _
    (List.getElem?_eq_getElem (Nat.lt_of_succ_lt hIndex)) _
    (List.mem_drop_iff_getElem.mpr ⟨0, hIndex, rfl⟩)
  have hPriced :
      ∀ d ∈ threePrices.docs, d.priceCents ≠ none := by
    intro d hMem
    simp only [threePrices, List.mem_cons, List.not_mem_nil,
      or_false] at hMem
    rcases hMem with rfl | rfl | rfl <;>
      exact Option.some_ne_none _
  exact hPriced _
    (mem_ordered.mp (List.getElem_mem _)).1 hMissing.1

end Orignabase.Catalogue
