import Orignabase.Database.Jsonb
import Orignabase.Database.NamedParams
import Orignabase.Mcp.Filters
import Orignabase.Mcp.Safeguards

/-
  The product search of the agent tools
  (`ob-mcp/src/tools/catalog.rs`).

  Of a statement it is modelled which conditions it selects
  by and which values they are given.  `ilike` is the
  operator `~~*` of the database.

  Key definitions include:
    * `SearchParams`
    * `SearchParams.filterText`
    * `SearchParams.statement`, `Clause`
    * `searchProducts`
    * `Serves`, `Answers`
    * `Confined`

  Main results:
    * `parse_filterText_iff`
    * `right_statement`
    * `confined_iff`
-/

--------
-- Parameters
--------

namespace Orignabase.Mcp

structure SearchParams where
  query : String
  category : Option String
  minPrice : Option ℕ
  maxPrice : Option ℕ
  limit : ℕ
  offset : ℕ

def SearchParams.ofParams
    (params : Value) : Except McpError SearchParams :=
  match params.getStr "query" with
  | none =>
    .error (.invalidParams "Missing 'query' parameter")
  | some query =>
    .ok
      { query := query
        category := params.getStr "category"
        minPrice :=
          (params.get "min_price").bind Value.asU64
        maxPrice :=
          (params.get "max_price").bind Value.asU64
        limit := max 1 (min 100 (((params.get "limit").bind
              Value.asU64).getD 20))
        offset :=
          ((params.get "offset").bind Value.asU64).getD 0 }

--------
-- The Filter
--------

namespace SearchParams

variable (p : SearchParams)

def safeCategory (category : String) : String :=
  String.ofList (escapeQuotes category.toList)

/- The parts of the filter. -/
def filters : List String :=
  (match p.category with
    | some category =>
      ["categoryId = '" ++ safeCategory category ++ "'"]
    | none => []) ++
  (match p.minPrice with
    | some n => ["priceCents >= " ++ toString n]
    | none => []) ++
  (match p.maxPrice with
    | some n => ["priceCents <= " ++ toString n]
    | none => []) ++
  ["lifecycleStatus = 'active'"]

def filterText : String :=
  Text.join " AND " p.filters

end SearchParams

/- What a statement selects by. -/
inductive Clause
  | active
  | matching
  | category
  | minPrice
  | maxPrice
  deriving DecidableEq

def Clause.text : Clause → String
  | .active => "data->>'lifecycleStatus' = 'active'"
  | .matching =>
    "(data->>'name' ~~* $search_query OR " ++
      "data->>'description' ~~* $search_query)"
  | .category => "data->>'categoryId' = $category"
  | .minPrice =>
    "(data->>'priceCents')::\"numeric\" >= " ++
      "($min_price)::\"numeric\""
  | .maxPrice =>
    "(data->>'priceCents')::\"numeric\" <= " ++
      "($max_price)::\"numeric\""

structure Statement where
  sql : String
  binds : List (String × Value)

namespace SearchParams

variable (p : SearchParams)

def clauses : List Clause :=
  [Clause.active, Clause.matching] ++
  (if p.category.isSome then [Clause.category] else []) ++
  (if p.minPrice.isSome then [Clause.minPrice] else []) ++
  (if p.maxPrice.isSome then [Clause.maxPrice] else [])

/- One more bind, if there is a value. -/
def bindSome
    (name : String)
    (value : Option Value)
    (binds : List (String × Value)) :
    List (String × Value) :=
  match value with
  | none => binds
  | some v => Value.insertField name v binds

def binds : List (String × Value) :=
  bindSome "max_price"
    (p.maxPrice.map (fun n => .number { int := n }))
    (bindSome "min_price"
      (p.minPrice.map (fun n => .number { int := n }))
      (bindSome "category" (p.category.map .string)
        [("search_query",
          .string ("%" ++ p.query ++ "%"))]))

def statement : Statement where
  sql := "SELECT * FROM products WHERE " ++
      (Text.join " AND " (p.clauses.map Clause.text) ++
        (" ORDER BY data->>'createdAt' DESC LIMIT " ++
          (toString p.limit ++
            (" OFFSET " ++ toString p.offset))))
  binds := p.binds

end SearchParams

--------
-- The Search
--------

/- What is asked of the search service. -/
structure SearchCall where
  index : String
  query : String
  limit : ℕ
  offset : ℕ
  filter : String

structure SearchResult where
  hits : List Value
  estimatedTotalHits : Option ℕ

/- The response of the tool. -/
def searchResponse
    (p : SearchParams)
    (results : List Value)
    (total : ℕ) : Value :=
  .object [("limit", .number { int := p.limit }),
      ("offset", .number { int := p.offset }),
      ("results", .array results),
      ("total", .number { int := total })]

/- The search in the database. -/
def searchFallback
    (queryBind :
      String → Value → Except Error (List Value))
    (p : SearchParams) : Except McpError Value :=
  match queryBind p.statement.sql
      (.object p.statement.binds) with
  | .error e =>
    .error (.internal
      ("PostgreSQL search failed: " ++ e.display))
  | .ok rows =>
    .ok (searchResponse p rows rows.length)

/-
  The search service answers, if it is enabled; where it
  fails, the database does.
-/
def searchProducts
    (search :
      Option (SearchCall → Except String SearchResult))
    (queryBind :
      String → Value → Except Error (List Value))
    (params : Value) : Except McpError Value :=
  match SearchParams.ofParams params with
  | .error e => .error e
  | .ok p =>
    match search with
    | none => searchFallback queryBind p
    | some search =>
      match search
          { index := "products", query := p.query,
            limit := p.limit, offset := p.offset,
            filter := p.filterText } with
      | .ok result =>
        .ok (searchResponse p result.hits
          (result.estimatedTotalHits.getD 0))
      | .error _ => searchFallback queryBind p

--------
-- What Is Searched For
--------

namespace SearchParams

variable (p : SearchParams)

/- The conditions that the parameters stand for. -/
def intended : List Condition :=
  (p.category.map
    (fun c => ⟨"categoryId", .eq c⟩)).toList ++
  (p.minPrice.map
    (fun n => ⟨"priceCents", .atLeast n⟩)).toList ++
  (p.maxPrice.map
    (fun n => ⟨"priceCents", .atMost n⟩)).toList ++
  [⟨"lifecycleStatus", .eq "active"⟩]

end SearchParams

variable (ilike : String → String → Bool)

/- A text that is there and is like a pattern. -/
def like (text : Option String) (pattern : String) : Bool :=
  text.any (fun s => ilike s pattern)

/- The condition holds of a row, with the values bound. -/
def Clause.holds
    (bound : String → Option Value)
    (row : ProductRow) : Clause → Bool
  | .active => row.lifecycleStatus == some "active"
  | .matching =>
    match bound "search_query" with
    | some (.string pattern) =>
      like ilike row.name pattern ||
        like ilike row.description pattern
    | _ => false
  | .category =>
    match bound "category" with
    | some (.string value) =>
      row.categoryId == some value
    | _ => false
  | .minPrice =>
    match bound "min_price" with
    | some (.number n) =>
      row.priceCents.any (n.mantissa ≤ ·)
    | _ => false
  | .maxPrice =>
    match bound "max_price" with
    | some (.number n) =>
      row.priceCents.any (· ≤ n.mantissa)
    | _ => false

/- The row is selected by the statement. -/
def SearchParams.selected
    (p : SearchParams)
    (row : ProductRow) : Bool :=
  p.clauses.all (Clause.holds ilike
    (Value.object p.statement.binds).get row)

/- The row has the words that are searched for. -/
def SearchParams.wanted
    (p : SearchParams)
    (row : ProductRow) : Bool :=
  like ilike row.name ("%" ++ p.query ++ "%") ||
    like ilike row.description ("%" ++ p.query ++ "%")

variable (g : FilterGrammar) (rowOf : Value → ProductRow)

/- The hits of the service are those the filter selects. -/
def Serves
    (search : SearchCall → Except String SearchResult) :
    Prop :=
  ∀ call result, search call = .ok result → ∃ filter,
        g.parse call.filter = some filter ∧
          ∀ hit ∈ result.hits,
            g.selects filter (rowOf hit) = true

/- The rows of the database are those selected. -/
def Answers
    (queryBind : String → Value → Except Error (List Value))
    (p : SearchParams) : Prop :=
  ∀ rows,
    queryBind p.statement.sql (.object p.statement.binds) =
        .ok rows →
      ∀ row ∈ rows, p.selected ilike (rowOf row) = true

/-
  Neither way of searching goes beyond the parameters: the
  filter is read as the conditions they stand for, and the
  statement selects by these, with every placeholder bound
  to its own value.
-/
structure Confined (p : SearchParams) : Prop where
  filter :
    g.parse p.filterText = some (g.conj p.intended)
  hits :
    ∀ search queryBind params results total,
      SearchParams.ofParams params = .ok p →
        (∀ service ∈ search, Serves g rowOf service) →
          Answers ilike rowOf queryBind p →
            searchProducts search queryBind params =
                .ok (searchResponse p results total) →
              ∀ hit ∈ results,
                p.intended.all
                  (Condition.holds (rowOf hit)) = true
  bound :
    Database.TokensBound (Database.namesOf p.binds)
        p.statement.sql.toList ∧
      Database.Right p.statement.sql p.statement.binds
  fallback :
    ∀ row,
      p.selected ilike row =
        (p.wanted ilike row &&
          p.intended.all (Condition.holds row))

--------
-- The Statement
--------

open Database

namespace SearchParams

variable (p : SearchParams)

theorem lookup_bindSome
    (name key : String)
    (value : Option Value)
    (binds : List (String × Value)) :
    (bindSome name value binds).lookup key =
      if key = name then value.or (binds.lookup key)
      else binds.lookup key := by
  cases value with
  | none => simp [bindSome]
  | some v =>
    unfold bindSome
    rw [Value.lookup_insertField]
    rfl

/- The values of the four names. -/
theorem get_binds :
    (Value.object p.binds).get "search_query" =
        some (.string ("%" ++ p.query ++ "%")) ∧
      (Value.object p.binds).get "category" =
        p.category.map .string ∧
      (Value.object p.binds).get "min_price" =
        p.minPrice.map (fun n => .number { int := n }) ∧
      (Value.object p.binds).get "max_price" =
        p.maxPrice.map (fun n => .number { int := n }) := by
  simp [Value.get, binds, lookup_bindSome, List.lookup]

/- The clauses are the conditions and the words. -/
theorem selected_eq
    (ilike : String → String → Bool)
    (row : ProductRow) :
    p.selected ilike row =
      (p.wanted ilike row &&
        p.intended.all (Condition.holds row)) := by
  rcases p.get_binds with ⟨hQuery, hCategory, hMin, hMax⟩
  have hMantissa (n : ℕ) :
      ({ int := n } : Number).mantissa = n := rfl
  unfold selected wanted clauses intended statement
  cases hc : p.category <;> cases hn : p.minPrice <;>
    cases hx : p.maxPrice <;>
    rw [hc] at hCategory <;> rw [hn] at hMin <;>
    rw [hx] at hMax <;>
    simp [Clause.holds, hQuery, hCategory, hMin, hMax,
      hMantissa, Condition.holds, ProductRow.text,
      ProductRow.number, Bool.and_assoc, Bool.and_comm,
      Bool.and_left_comm]

end SearchParams

--------
-- The Placeholders
--------

namespace SearchParams

/- The names that are bound, by which values there are. -/
def nameList (category minPrice maxPrice : Bool) :
    List (List Char) :=
  (if category then ["category".toList] else []) ++
  (if maxPrice then ["max_price".toList] else []) ++
  (if minPrice then ["min_price".toList] else []) ++
  ["search_query".toList]

/- The conditions, by which values there are. -/
def clauseList (category minPrice maxPrice : Bool) :
    List Clause :=
  [Clause.active, Clause.matching] ++
  (if category then [Clause.category] else []) ++
  (if minPrice then [Clause.minPrice] else []) ++
  (if maxPrice then [Clause.maxPrice] else [])

variable (p : SearchParams)

theorem names_binds :
    namesOf p.binds =
      nameList p.category.isSome p.minPrice.isSome
        p.maxPrice.isSome := by
  unfold binds
  cases p.category <;> cases p.minPrice <;>
    cases p.maxPrice <;> rfl

/- Conditions are scanned one by one. -/
theorem scan_join
    {names : List (List Char)}
    {texts : List String}
    (hTexts :
      ∀ text ∈ texts, scan names text.toList = true) :
    scan names (Text.join " AND " texts).toList = true := by
  have hEnd : isIdentChar ' ' = false := by decide
  induction texts with
  | nil => rfl
  | cons text rest ih =>
    rw [List.forall_mem_cons] at hTexts
    cases rest with
    | nil => exact hTexts.1
    | cons next rest =>
      have hRest := ih hTexts.2
      have hAnd : '$' ∉ " AND ".toList := by decide
      have hJoin := scan_append_of_not_mem names hAnd
        (Text.join " AND " (next :: rest)).toList
      rw [hRest] at hJoin
      change scan names (text ++ (" AND " ++
        Text.join " AND " (next :: rest))).toList = true
      rw [String.toList_append, String.toList_append]
      refine (scan_append names hEnd text.toList _).trans ?_
      rw [hTexts.1, Bool.true_and]
      exact hJoin

/- The names in the text of a condition. -/
def clauseNames : Clause → List (List Char)
  | .active => []
  | .matching => ["search_query".toList]
  | .category => ["category".toList]
  | .minPrice => ["min_price".toList]
  | .maxPrice => ["max_price".toList]

theorem scan_clause (clause : Clause) :
    scan (clauseNames clause) clause.text.toList = true := by
  cases clause with
  | active => decide +kernel
  | matching =>
    unfold Clause.text
    rw [String.toList_append]
    decide +kernel
  | category => decide +kernel
  | minPrice =>
    unfold Clause.text
    rw [String.toList_append]
    decide +kernel
  | maxPrice =>
    unfold Clause.text
    rw [String.toList_append]
    decide +kernel

theorem clauseNames_subset :
    ∀ category minPrice maxPrice : Bool,
      ∀ clause ∈ clauseList category minPrice maxPrice,
        ∀ name ∈ clauseNames clause,
          name ∈ nameList category minPrice maxPrice := by
  decide

/- The conditions name nothing that is not bound. -/
theorem scan_clauseList
    (category minPrice maxPrice : Bool) :
    ∀ clause ∈ clauseList category minPrice maxPrice,
      scan (nameList category minPrice maxPrice)
        clause.text.toList = true := by
  intro clause hClause
  exact scan_mono (clauseNames_subset _ _ _ clause hClause)
    (scan_clause clause)

theorem nameList_subset
    (category minPrice maxPrice : Bool) :
    ∀ name ∈ nameList category minPrice maxPrice,
      name ∈ nameList true true true := by
  revert category minPrice maxPrice
  decide

theorem nodup_nameList :
    ∀ category minPrice maxPrice : Bool,
      (nameList category minPrice maxPrice).Nodup := by
  decide

/- No name begins with another. -/
theorem nameList_apart :
    ∀ name ∈ nameList true true true,
      ∀ other ∈ nameList true true true,
        name <+: other → other = name := by
  decide

theorem nameList_ordinary :
    ∀ name ∈ nameList true true true, Ordinary name := by
  have hAll :
      (nameList true true true).all
        (List.all · isIdentChar) = true := by
    decide
  have hIdent :
      ∀ name ∈ nameList true true true, ∀ c ∈ name,
        isIdentChar c = true := by
    simpa only [List.all_eq_true] using hAll
  have hFirst :
      ∀ name ∈ nameList true true true,
        ∃ c rest, name = c :: rest ∧ c.isDigit = false := by
    simp [nameList]
  intro name hName
  rcases hFirst name hName with ⟨c, rest, hCons, hDigit⟩
  exact ⟨c, rest, hCons, hDigit, hIdent name hName⟩

theorem mark_not_mem_toString (n : ℕ) :
    '$' ∉ (toString n).toList :=
  mark_not_mem_number n

/- What follows the conditions names nothing. -/
theorem scan_after
    (names : List (List Char))
    (front : List Char)
    {after : List Char}
    (hMark : '$' ∉ after)
    (hSpace : ∃ rest, after = ' ' :: rest) :
    scan names (front ++ after) = scan names front := by
  rcases hSpace with ⟨rest, rfl⟩
  have hEnd : isIdentChar ' ' = false := by decide
  have hScan := scan_append_of_not_mem names hMark []
  rw [List.append_nil] at hScan
  rw [scan_append names hEnd, hScan]
  exact Bool.and_true _

/- The text of the statement, around its conditions. -/
theorem scan_statement
    {names : List (List Char)}
    (hClauses :
      scan names
        (Text.join " AND " (p.clauses.map Clause.text)).toList =
          true) :
    scan names p.statement.sql.toList = true := by
  have hSelect :
      '$' ∉ "SELECT * FROM products WHERE ".toList := by
    decide
  have hOffset : '$' ∉ " OFFSET ".toList := by decide
  have hOrder :
      '$' ∉ " ORDER BY data->>'createdAt' DESC LIMIT ".toList :=
    by decide
  unfold statement
  dsimp only
  rw [String.toList_append,
    scan_append_of_not_mem names hSelect,
    String.toList_append, scan_after names]
  · exact hClauses
  · simp only [String.toList_append, List.mem_append,
      not_or]
    exact ⟨hOrder, mark_not_mem_toString _, hOffset,
      mark_not_mem_toString _⟩
  · rw [String.toList_append]
    have hFirst :
        " ORDER BY data->>'createdAt' DESC LIMIT ".toList =
          ' ' ::
            "ORDER BY data->>'createdAt' DESC LIMIT ".toList :=
      rfl
    rw [hFirst]
    exact ⟨_, List.cons_append⟩

/- Every placeholder is bound to its own value. -/
theorem right_statement :
    TokensBound (namesOf p.binds) p.statement.sql.toList ∧
      Right p.statement.sql p.statement.binds := by
  have hNames := p.names_binds
  have hSubset :
      ∀ name ∈ namesOf p.binds,
        name ∈ nameList true true true := by
    rw [hNames]
    exact nameList_subset _ _ _
  apply right_of_scan
  · intro name hName
    exact nameList_ordinary name (hSubset name hName)
  · intro name hName other hOther
    exact nameList_apart name (hSubset name hName) other
      (hSubset other hOther)
  · rw [hNames]
    exact nodup_nameList _ _ _
  · apply p.scan_statement
    rw [hNames]
    apply scan_join
    rw [List.forall_mem_map]
    exact scan_clauseList _ _ _

end SearchParams

--------
-- The Filter Read
--------

namespace SearchParams

variable (p : SearchParams)

/- The parts of the filter, as they are written. -/
def writtenParts : List Written :=
  (p.category.map (fun c =>
    ⟨"categoryId", .quoted (safeCategory c)⟩)).toList ++
  (p.minPrice.map (fun n =>
    ⟨"priceCents", .atLeast n⟩)).toList ++
  (p.maxPrice.map (fun n =>
    ⟨"priceCents", .atMost n⟩)).toList ++
  [⟨"lifecycleStatus", .quoted "active"⟩]

/- A bound of the filter, followed by `AND`. -/
def boundText (head : String) : Option ℕ → String
  | some n => head ++ (toString n ++ " AND ")
  | none => ""

/- What stands between the category and the status. -/
def betweenText : String :=
  " AND " ++ (boundText "priceCents >= " p.minPrice ++
    (boundText "priceCents <= " p.maxPrice ++
      "lifecycleStatus = "))

theorem filters_eq_written :
    p.filters = p.writtenParts.map Written.text := by
  have hCategory :
      "categoryId = '" = "categoryId" ++ " = '" := rfl
  have hMin : "priceCents >= " = "priceCents" ++ " >= " := rfl
  have hMax : "priceCents <= " = "priceCents" ++ " <= " := rfl
  have hStatus :
      "lifecycleStatus = 'active'" =
        "lifecycleStatus" ++ (" = '" ++ ("active" ++ "'")) :=
    rfl
  unfold filters writtenParts
  cases p.category <;> cases p.minPrice <;>
    cases p.maxPrice <;>
    simp only [hCategory, hMin, hMax, hStatus, Written.text,
      Operand.text, Option.map_some, Option.map_none,
      Option.toList_some, Option.toList_none,
      List.nil_append, List.cons_append, List.map_cons,
      List.map_nil, String.append_assoc]

theorem isField_of_written :
    ∀ part ∈ p.writtenParts, isField part.field = true := by
  have hFields :
      isField "categoryId" = true ∧
        isField "priceCents" = true ∧
        isField "lifecycleStatus" = true := by
    decide
  unfold writtenParts
  cases p.category <;> cases p.minPrice <;>
    cases p.maxPrice <;>
    simp [hFields]

variable {stands : Char → List Char}

theorem read_category
    (hQuote : stands '\'' = ['\''])
    {c : String}
    (hPlain : Plain stands c.toList) :
    Written.read stands
        ⟨"categoryId", .quoted (safeCategory c)⟩ =
      some ⟨"categoryId", .eq c⟩ := by
  have hRead := readQuote_of_plain hQuote hPlain []
  simp [Written.read, Operand.read, safeCategory, hRead]

theorem read_active :
    Written.read stands ⟨"lifecycleStatus", .quoted "active"⟩ =
      some ⟨"lifecycleStatus", .eq "active"⟩ := by
  have hNone :
      ∀ d ∈ "active".toList, d ≠ '\'' ∧ d ≠ '\\' := by
    simp
  have hRead :
      readQuote stands ("active".toList ++ ['\'']) =
        some ("active".toList, []) :=
    readQuote_of_none hNone []
  unfold Written.read Operand.read
  dsimp only
  rw [hRead]
  rfl

/- What is read of the part that an optional value makes. -/
theorem map_part
    {α : Type}
    (o : Option α)
    (part : α → Written)
    (condition : α → Condition)
    (hRead : ∀ x, o = some x →
      Written.read stands (part x) = some (condition x)) :
    (o.map part).toList.map (Written.read stands) =
      (o.map condition).toList.map some := by
  cases o with
  | none => rfl
  | some x => exact congrArg (fun c => [c]) (hRead x rfl)

theorem read_written
    (hQuote : stands '\'' = ['\''])
    (hPlain :
      ∀ c, p.category = some c → Plain stands c.toList) :
    p.writtenParts.map (Written.read stands) =
      p.intended.map some := by
  have hCategory := map_part p.category _ _
      (fun c hSome => read_category hQuote (hPlain c hSome))
  have hMin := map_part p.minPrice
      (fun n => ⟨"priceCents", .atLeast n⟩)
      (fun n => ⟨"priceCents", .atLeast n⟩)
      (fun n _ => (rfl : Written.read stands _ = _))
  have hMax := map_part p.maxPrice
      (fun n => ⟨"priceCents", .atMost n⟩)
      (fun n => ⟨"priceCents", .atMost n⟩)
      (fun n _ => (rfl : Written.read stands _ = _))
  unfold writtenParts intended
  rw [List.map_append, List.map_append, List.map_append,
    List.map_append, List.map_append, List.map_append,
    hCategory, hMin, hMax, List.map_singleton, read_active,
    List.map_singleton]

/- The text of the filter for a category. -/
theorem filterText_category
    {c : String}
    (hCategory : p.category = some c) :
    p.filterText =
      "categoryId" ++ (" = '" ++ (safeCategory c ++
        ("'" ++ (p.betweenText ++ "'active'")))) := by
  have hField :
      "categoryId = '" = "categoryId" ++ " = '" := rfl
  have hStatus :
      "lifecycleStatus = 'active'" =
        "lifecycleStatus = " ++ "'active'" := rfl
  unfold filterText filters betweenText boundText
  rw [hCategory]
  cases p.minPrice <;> cases p.maxPrice <;>
    simp only [hField, hStatus, Text.join, List.nil_append,
      List.cons_append, String.append_assoc,
      String.empty_append]

theorem boundText_plain
    {head : String}
    (hHead : ∀ d ∈ head.toList, d ≠ '\'' ∧ d ≠ '\\')
    (bound : Option ℕ) :
    ∀ d ∈ (boundText head bound).toList,
      d ≠ '\'' ∧ d ≠ '\\' := by
  cases bound with
  | none => simp [boundText]
  | some n =>
    have hNumber :
        ∀ d ∈ (toString n).toList, d ≠ '\'' ∧ d ≠ '\\' := by
      intro d hMem
      have hDigit := isDigit_of_mem_number hMem
      constructor
      · rintro rfl
        exact absurd hDigit (by decide)
      · rintro rfl
        exact absurd hDigit (by decide)
    have hAnd :
        ∀ d ∈ " AND ".toList, d ≠ '\'' ∧ d ≠ '\\' := by
      simp
    unfold boundText
    rw [String.toList_append, String.toList_append,
      List.forall_mem_append, List.forall_mem_append]
    exact ⟨hHead, hNumber, hAnd⟩

/- What stands between the two values has no quotes. -/
theorem betweenText_plain :
    ∀ d ∈ p.betweenText.toList, d ≠ '\'' ∧ d ≠ '\\' := by
  unfold betweenText
  rw [String.toList_append, String.toList_append,
    String.toList_append, List.forall_mem_append,
    List.forall_mem_append, List.forall_mem_append]
  exact ⟨by simp, boundText_plain (by simp) _,
    boundText_plain (by simp) _, by simp⟩

theorem betweenText_last :
    p.betweenText.toList.getLast? = some ' ' := by
  unfold betweenText
  rw [String.toList_append, String.toList_append,
    String.toList_append, List.getLast?_append,
    List.getLast?_append, List.getLast?_append]
  rfl

/-
  The filter is read as it is meant where, and only where,
  the category is plain.
-/
theorem parse_filterText_iff (g : FilterGrammar) :
    g.parse p.filterText = some (g.conj p.intended) ↔
      ∀ c, p.category = some c →
        Plain g.stands c.toList := by
  constructor
  · intro hParse c hCategory
    by_contra hPlain
    rw [p.filterText_category hCategory] at hParse
    rcases g.leading "categoryId" _ _ (by decide) hParse with
      ⟨value, after, hRead, hFirst⟩
    have hIntended :
        g.first (g.conj p.intended) =
          some ⟨"categoryId", .eq c⟩ := by
      unfold intended
      rw [hCategory]
      exact g.first_conj _ _
    rw [hIntended] at hFirst
    have hValue : c = String.ofList value :=
      Comparison.eq.inj
        (Condition.mk.inj (Option.some.inj hFirst)).2
    have hText :
        (safeCategory c ++
            ("'" ++ (p.betweenText ++ "'active'"))).toList =
          escapeQuotes c.toList ++
            '\'' :: (p.betweenText.toList ++
              '\'' :: "active'".toList) := by
      simp [safeCategory, String.toList_append]
    rw [hText] at hRead
    apply readQuote_ne g.stands_quote g.stands_cases
      p.betweenText_plain ⟨' ', p.betweenText_last⟩ hRead
      hPlain
    rw [hValue, String.toList_ofList]
  · intro hPlain
    unfold filterText
    rw [filters_eq_written]
    apply g.conjunction
    · unfold writtenParts
      exact List.append_ne_nil_of_right_ne_nil _
        (List.cons_ne_nil _ _)
    · exact p.isField_of_written
    · exact p.read_written g.stands_quote hPlain

end SearchParams

--------
-- The Search is Confined
--------

variable {ilike : String → String → Bool}
variable {g : FilterGrammar} {rowOf : Value → ProductRow}
variable {p : SearchParams}

variable {results : List Value} {total : ℕ}

theorem searchResponse_inj
    {results' : List Value}
    {total' : ℕ}
    (hSame :
      searchResponse p results total =
        searchResponse p results' total') :
    results = results' := by
  unfold searchResponse at hSame
  simp only [Value.object.injEq, List.cons.injEq,
    Prod.mk.injEq, Value.array.injEq, true_and] at hSame
  exact hSame.1

/- What the service finds by a filter read as it is meant. -/
theorem holds_of_serves
    (hFilter :
      g.parse p.filterText = some (g.conj p.intended))
    {search : SearchCall → Except String SearchResult}
    (hServes : Serves g rowOf search)
    {call : SearchCall}
    (hCall : call.filter = p.filterText)
    {result : SearchResult}
    (hResult : search call = .ok result) :
    ∀ hit ∈ result.hits,
      p.intended.all (Condition.holds (rowOf hit)) = true := by
  rcases hServes call result hResult with
    ⟨filter, hParse, hHits⟩
  rw [hCall, hFilter] at hParse
  cases hParse
  intro hit hHit
  rw [← g.selects_conj]
  exact hHits hit hHit

/- What the database finds. -/
theorem holds_of_answers
    {queryBind : String → Value → Except Error (List Value)}
    (hAnswers : Answers ilike rowOf queryBind p)
    (hFallback :
      searchFallback queryBind p =
        .ok (searchResponse p results total)) :
    ∀ hit ∈ results,
      p.intended.all (Condition.holds (rowOf hit)) = true := by
  unfold searchFallback at hFallback
  cases hRows : queryBind p.statement.sql
      (.object p.statement.binds) with
  | error e =>
    rw [hRows] at hFallback
    cases hFallback
  | ok rows =>
    rw [hRows] at hFallback
    have hSame := searchResponse_inj
      (Except.ok.inj hFallback)
    subst hSame
    intro row hRow
    have hSelected := hAnswers rows hRows row hRow
    rw [p.selected_eq, Bool.and_eq_true] at hSelected
    exact hSelected.2

theorem hits_of_filter
    (hFilter :
      g.parse p.filterText = some (g.conj p.intended))
    {search :
      Option (SearchCall → Except String SearchResult)}
    {queryBind : String → Value → Except Error (List Value)}
    {params : Value}
    (hParams : SearchParams.ofParams params = .ok p)
    (hServes : ∀ service ∈ search, Serves g rowOf service)
    (hAnswers : Answers ilike rowOf queryBind p)
    (hSearch :
      searchProducts search queryBind params =
        .ok (searchResponse p results total)) :
    ∀ hit ∈ results,
      p.intended.all (Condition.holds (rowOf hit)) = true := by
  unfold searchProducts at hSearch
  rw [hParams] at hSearch
  dsimp only at hSearch
  cases search with
  | none => exact holds_of_answers hAnswers hSearch
  | some service =>
    dsimp only at hSearch
    cases hResult : service
        { index := "products", query := p.query,
          limit := p.limit, offset := p.offset,
          filter := p.filterText } with
    | error e =>
      rw [hResult] at hSearch
      exact holds_of_answers hAnswers hSearch
    | ok result =>
      rw [hResult] at hSearch
      have hSame := searchResponse_inj
        (Except.ok.inj hSearch)
      subst hSame
      exact holds_of_serves hFilter
        (hServes service rfl) rfl hResult

/-
  The search is confined to its parameters where the category
  is plain, and only there.
-/
theorem confined_iff
    (ilike : String → String → Bool)
    (g : FilterGrammar)
    (rowOf : Value → ProductRow)
    (p : SearchParams) :
    Confined ilike g rowOf p ↔ ∀ c, p.category = some c →
        Plain g.stands c.toList := by
  rw [← p.parse_filterText_iff g]
  constructor
  · exact Confined.filter
  · intro hFilter
    exact
      { filter := hFilter
        hits := fun _ _ _ _ _ => hits_of_filter hFilter
        bound := p.right_statement
        fallback := p.selected_eq ilike }

/- A category that ends in a backslash. -/
def endingInBackslash : SearchParams where
  query := "shoes"
  category := some "x\\"
  minPrice := none
  maxPrice := none
  limit := 20
  offset := 0

/- The backslash takes the quote that should end the value. -/
theorem backslash_not_confined :
    ¬ Confined (fun _ _ => true) FilterGrammar.comparisons
        (fun _ => ⟨none, none, none, none, none⟩)
        endingInBackslash := by
  intro hConfined
  have hPlain :=
    (endingInBackslash.parse_filterText_iff _).mp
      hConfined.filter "x\\" rfl
  exact (plain_iff_not_mem (fun _ => rfl) _).mp hPlain
    (by decide)

end Orignabase.Mcp
