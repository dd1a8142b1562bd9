import Orignabase.Products.Invariants
import Orignabase.Shared.Validation

/-
  What a bulk upload answers about its rows
  (`ob-handlers/src/products/crud.rs`,
  `bulk_upload_products`).

  Key definitions include:
    * `Outcome`
    * `outcomes`
    * `Accounted`
    * `Complete`

  Main results:
    * `uploads_eq`
    * `clean_iff`
    * `upload_accounted_iff`
-/

--------
-- Rows
--------

namespace Orignabase.Products

/- What becomes of one row. -/
inductive Outcome
  | refused (message : String)
  | failed (message : String)
  | created (id : String)

namespace Outcome

def id? : Outcome → Option String
  | created id => some id
  | _ => none

def refusal? : Outcome → Option String
  | refused message => some message
  | _ => none

def failure? : Outcome → Option String
  | failed message => some message
  | _ => none

end Outcome

section

variable (codec : Codec) (env : Env) (auth : AuthContext)

/-
  A row is created if it passes its checks and its insert
  succeeds.
-/
def rowOutcome
    (row : Value × Nat)
    (w : World) : Outcome × World :=
  match checkUpload codec row.1 with
  | .error message => (.refused message, w)
  | .ok obj =>
    match createDocument env row.2 auth auth.userId
        (stampUploaded env auth.userId obj) w with
    | (.ok id, w) => (.created id, w)
    | (.error e, w) =>
      (.failed ("Database error: " ++ e.display), w)

/- One row after another. -/
def outcomes :
    List (Value × Nat) → World →
      List (Nat × Outcome) × World
  | [], w => ([], w)
  | row :: rest, w =>
    let head := rowOutcome codec env auth row w
    let tail := outcomes rest head.2
    ((row.2, head.1) :: tail.1, tail.2)

end

def createdIds (rows : List (Nat × Outcome)) : List String :=
  rows.filterMap (fun row => row.2.id?)

/- The entries of the response for the rows of one kind. -/
def errorsBy
    (kind : Outcome → Option String)
    (rows : List (Nat × Outcome)) : List BulkProductError :=
  rows.filterMap (fun row =>
    (kind row.2).map (fun message => ⟨row.1, message⟩))

/- The places of the rows that were not created. -/
def lostRows (rows : List (Nat × Outcome)) : List Nat :=
  rows.filterMap (fun row =>
    if row.2.id?.isSome then none else some row.1)

--------
-- The two phases
--------

section

variable {codec : Codec} {env : Env} {auth : AuthContext}

/- The rows that pass, as the second phase takes them. -/
def passing
    (codec : Codec)
    (rows : List (Value × Nat)) : List (Nat × Fields) :=
  rows.filterMap (fun row =>
    match checkUpload codec row.1 with
    | .error _ => none
    | .ok obj => some (row.2, obj))

theorem rowOutcome_refused
    {row : Value × Nat}
    {message : String}
    (hCheck : checkUpload codec row.1 = .error message)
    (w : World) :
    rowOutcome codec env auth row w =
      (.refused message, w) := by
  rw [rowOutcome, hCheck]

/- The first phase finds the rows that are refused. -/
theorem errors_eq
    (rows : List (Value × Nat))
    (w : World) :
    rows.filterMap (fun row =>
        match checkUpload codec row.1 with
        | .error message => some ⟨row.2, message⟩
        | .ok _ => none) =
      errorsBy Outcome.refusal?
        (outcomes codec env auth rows w).1 := by
  induction rows generalizing w with
  | nil => rfl
  | cons row rest ih =>
    rw [outcomes, errorsBy, List.filterMap_cons,
      List.filterMap_cons,
      ih (rowOutcome codec env auth row w).2]
    cases hCheck : checkUpload codec row.1 with
    | error message =>
      rw [rowOutcome_refused hCheck]
      rfl
    | ok obj =>
      have hNone :
          (rowOutcome codec env auth row
            w).1.refusal? = none := by
        rw [rowOutcome, hCheck]
        change Outcome.refusal? (match createDocument env
            row.2 auth auth.userId
            (stampUploaded env auth.userId obj) w with
          | (.ok id, w) => (Outcome.created id, w)
          | (.error e, w) => (.failed _, w)).1 = none
        rcases createDocument env row.2 auth auth.userId
            (stampUploaded env auth.userId obj) w with
          ⟨_ | _, _⟩ <;> rfl
      rw [hNone]
      rfl

/- What the second phase adds to what it started from. -/
theorem uploads_eq
    (rows : List (Value × Nat))
    (u : Upload) :
    (passing codec rows).foldl (uploadProduct env auth) u =
      let o := outcomes codec env auth rows u.world
      { productIds := u.productIds ++
          (createdIds o.1).map (docId "products")
        failed := u.failed +
          (errorsBy Outcome.failure? o.1).length
        errors := u.errors ++ errorsBy Outcome.failure? o.1
        world := o.2 } := by
  induction rows generalizing u with
  | nil =>
    simp [passing, outcomes, createdIds, errorsBy]
  | cons row rest ih =>
    rw [passing, List.filterMap_cons]
    cases hCheck : checkUpload codec row.1 with
    | error message =>
      change (passing codec rest).foldl _ u = _
      rw [ih u]
      simp only [outcomes, rowOutcome_refused hCheck]
      rfl
    | ok obj =>
      change (passing codec rest).foldl _
        (uploadProduct env auth u (row.2, obj)) = _
      rw [ih]
      have hRow :
          rowOutcome codec env auth row u.world =
            match createDocument env row.2 auth
                auth.userId
                (stampUploaded env auth.userId obj)
                u.world with
            | (.ok id, w) => (.created id, w)
            | (.error e, w) =>
              (.failed ("Database error: " ++
                e.display), w) := by
        rw [rowOutcome, hCheck]
      rw [uploadProduct, outcomes, hRow]
      rcases createDocument env row.2 auth auth.userId
          (stampUploaded env auth.userId obj) u.world with
        ⟨e | id, w⟩
      · simp only [errorsBy, createdIds,
          List.filterMap_cons, Outcome.id?,
          Outcome.failure?, Option.map_some,
          List.append_assoc, List.singleton_append,
          List.length_cons]
        congr 1
        omega
      · simp only [errorsBy, createdIds,
          List.filterMap_cons, Outcome.id?,
          Outcome.failure?, Option.map_none,
          List.append_assoc, List.singleton_append,
          List.map_cons]

theorem length_outcomes
    (rows : List (Value × Nat))
    (w : World) :
    (outcomes codec env auth rows w).1.length =
      rows.length := by
  induction rows generalizing w with
  | nil => rfl
  | cons row rest ih =>
    rw [outcomes, List.length_cons, List.length_cons, ih]

/- Every row is of one of the three kinds. -/
theorem length_kinds (rows : List (Nat × Outcome)) :
    (createdIds rows).length +
        (errorsBy Outcome.refusal? rows).length +
        (errorsBy Outcome.failure? rows).length =
      rows.length := by
  induction rows with
  | nil => rfl
  | cons row rest ih =>
    rcases row with ⟨i, _ | _ | _⟩ <;>
      simp only [createdIds, errorsBy, List.filterMap_cons,
        Outcome.id?, Outcome.refusal?, Outcome.failure?,
        Option.map_some, Option.map_none,
        List.length_cons] at ih ⊢ <;>
      omega

/- The rows that are not created are refused or fail. -/
theorem errors_perm (rows : List (Nat × Outcome)) :
    ((errorsBy Outcome.refusal? rows ++
        errorsBy Outcome.failure? rows).map
          BulkProductError.index).Perm
      (lostRows rows) := by
  induction rows with
  | nil => exact List.Perm.refl _
  | cons row rest ih =>
    rcases row with ⟨i, message | message | id⟩
    · exact ih.cons i
    · have hMiddle :
          (errorsBy Outcome.refusal? rest ++ ⟨i, message⟩ ::
              errorsBy Outcome.failure? rest).Perm
          (⟨i, message⟩ ::
            (errorsBy Outcome.refusal? rest ++
              errorsBy Outcome.failure? rest)) :=
        List.perm_middle
      exact (hMiddle.map _).trans (ih.cons i)
    · exact ih

end

--------
-- Texts without tags
--------

/- A text has no angle brackets. -/
def Flat (text : String) : Prop :=
  ∀ c ∈ text.toList, c ≠ '<' ∧ c ≠ '>'

theorem hexDigit_flat
    {n : Nat}
    (hLt : n < 16) :
    Value.hexDigit n ≠ '<' ∧ Value.hexDigit n ≠ '>' := by
  have hAll : ∀ m < 16, Value.hexDigit m ≠ '<' ∧
      Value.hexDigit m ≠ '>' := by
    decide
  exact hAll n hLt

/- The escaping of a text adds no angle brackets. -/
theorem escapeChar_flat
    {c d : Char}
    (hFlat : c ≠ '<' ∧ c ≠ '>')
    (hMem : d ∈ Value.escapeChar c) :
    d ≠ '<' ∧ d ≠ '>' := by
  have hPair :
      ∀ e : Char, (e ≠ '<' ∧ e ≠ '>') →
        d ∈ ['\\', e] → d ≠ '<' ∧ d ≠ '>' := by
    intro e hE hD
    rcases List.mem_cons.mp hD with rfl | hD
    · decide
    · rw [List.mem_singleton.mp hD]
      exact hE
  rw [Value.escapeChar] at hMem
  split at hMem
  · exact hPair _ (by decide) hMem
  split at hMem
  · exact hPair _ (by decide) hMem
  split at hMem
  · exact hPair _ (by decide) hMem
  split at hMem
  · exact hPair _ (by decide) hMem
  split at hMem
  · exact hPair _ (by decide) hMem
  split at hMem
  · exact hPair _ (by decide) hMem
  split at hMem
  · exact hPair _ (by decide) hMem
  split at hMem
  next hControl =>
    have hHigh := hexDigit_flat
      (show c.toNat / 16 < 16 by omega)
    have hLow := hexDigit_flat
      (show c.toNat % 16 < 16 by omega)
    simp only [List.mem_cons, List.not_mem_nil,
      or_false] at hMem
    rcases hMem with rfl | rfl | rfl | rfl | rfl | rfl
    · decide
    · decide
    · decide
    · decide
    · exact hHigh
    · exact hLow
  next =>
    rw [List.mem_singleton.mp hMem]
    exact hFlat

theorem toText_flat
    {text : String}
    (hFlat : Flat text) :
    Flat (Value.string text).toText := by
  intro c hMem
  rw [Value.toText, Value.stringText, String.toList_append,
    String.toList_append, List.mem_append,
    List.mem_append] at hMem
  have hQuote :
      ∀ d ∈ "\"".toList, d ≠ '<' ∧ d ≠ '>' := by
    simp
  rcases hMem with (hOpen | hBody) | hClose
  · exact hQuote c hOpen
  · rw [String.toList_ofList] at hBody
    rcases List.mem_flatMap.mp hBody with ⟨d, hD, hEscaped⟩
    exact escapeChar_flat (hFlat d hD) hEscaped
  · exact hQuote c hClose

--------
-- Stored rows
--------

/- The title, the description and the amounts of a product. -/
structure Clean (data : Fields) : Prop where
  title : ∃ t, text? data "name" = some t ∧ Flat t
  description :
    ∀ v, data.lookup "description" = some v → Flat v.toText
  price :
    ∃ n, int? data "priceCents" = some n ∧
      1 ≤ n ∧ n ≤ 10000000
  stock :
    ∃ n, int? data "stockQuantity" = some n ∧ 0 ≤ n

/-
  A row has both amounts as integers, and a description that
  is not a text has no angle brackets either.
-/
structure Complete (row : Value) : Prop where
  price :
    ((row.get "priceCents").bind asI64).isSome = true
  stock :
    ((row.get "stockQuantity").bind asI64).isSome = true
  description :
    ∀ v, row.get "description" = some v → v.asStr = none →
      Flat v.toText

/- The decoders with the cleaning of the source. -/
def Codec.real (codec : Codec) : Codec :=
  { codec with sanitizeHtml := Validation.sanitizeHtml }

variable {data : Fields}

section

variable {codec : Codec} {env : Env} {auth : AuthContext}

theorem lookup_sanitizeDescription
    {obj : Fields}
    (hOk : sanitizeDescription codec obj = .ok data)
    {field : String}
    (hOther : field ≠ "description") :
    data.lookup field = obj.lookup field := by
  unfold sanitizeDescription at hOk
  split at hOk
  · cases hOk
    rfl
  · rcases Fallible.of_bind_ok hOk with ⟨_, _, hOk⟩
    cases hOk
    rw [Value.lookup_insertField, if_neg hOther]

/- A description is cleaned if it is a text. -/
theorem description_of_sanitize
    {obj data : Fields}
    (hOk : sanitizeDescription codec obj = .ok data) :
    data.lookup "description" =
      match text? obj "description" with
      | none => obj.lookup "description"
      | some d => some (.string (codec.sanitizeHtml d)) := by
  unfold sanitizeDescription at hOk
  cases hText : text? obj "description" with
  | none =>
    rw [hText] at hOk
    cases hOk
    rfl
  | some d =>
    rw [hText] at hOk
    rcases Fallible.of_bind_ok hOk with ⟨_, _, hOk⟩
    cases hOk
    rw [Value.lookup_insertField, if_pos rfl]

/- What a row that passes its checks is made into. -/
theorem of_checkUpload
    {row : Value}
    {data : Fields}
    (hOk : checkUpload codec row = .ok data) :
    ∃ obj title, row = .object obj ∧ data.lookup "name" =
          some (.string (codec.sanitizeHtml title)) ∧
        (data.lookup "description" =
          match text? obj "description" with
          | none => obj.lookup "description"
          | some d =>
            some (.string (codec.sanitizeHtml d))) ∧
        ∀ field, field ≠ "name" → field ≠ "description" →
          data.lookup field = obj.lookup field := by
  rcases Fallible.of_bind_ok hOk with ⟨obj, hObj, hOk⟩
  rcases Fallible.of_bind_ok hOk with ⟨_, _, hOk⟩
  rcases Fallible.of_bind_ok hOk with ⟨_, _, hOk⟩
  rcases Fallible.of_bind_ok hOk with ⟨_, _, hOk⟩
  rcases Fallible.of_bind_ok hOk with ⟨_, _, hOk⟩
  rcases Fallible.of_bind_ok hOk with
    ⟨described, hDescribed, hOk⟩
  cases hOk
  refine ⟨obj, Text.trim ((text? obj "name").getD ""),
    object_of_objectOf hObj, ?_, ?_, ?_⟩
  · rw [Value.lookup_insertField, if_pos rfl]
  · rw [Value.lookup_insertField, if_neg (by decide),
      description_of_sanitize hDescribed]
  · intro field hName hDescription
    rw [Value.lookup_insertField, if_neg hName,
      lookup_sanitizeDescription hDescribed hDescription]

theorem sanitizeHtml_flat (text : String) :
    Flat (Validation.sanitizeHtml text) :=
  fun _ hMem => Validation.sanitizeHtml_plain hMem

/- A row is stored clean exactly if it was complete. -/
theorem clean_iff
    {row : Value}
    (hOk : checkUpload codec.real row = .ok data) :
    Clean (stampUploaded env auth.userId data) ↔
      Complete row := by
  rcases of_checkUpload hOk with
    ⟨obj, title, rfl, hName, hDescription, hOther⟩
  rcases ranged_of_checkUpload hOk with ⟨hPrice, hStock⟩
  have hSame :
      ∀ field ∈ ["name", "description", "priceCents",
          "stockQuantity"],
        (stampUploaded env auth.userId data).lookup field =
          data.lookup field := by
    intro field hField
    apply lookup_stampUploaded
    revert field
    decide
  have hInt :
      ∀ field ∈ ["priceCents", "stockQuantity"],
        int? (stampUploaded env auth.userId data) field =
          ((Value.object obj).get field).bind asI64 := by
    intro field hField
    have hKnown :
        field ∈ ["name", "description", "priceCents",
          "stockQuantity"] ∧ field ≠ "name" ∧
          field ≠ "description" := by
      revert field
      decide
    rw [int?, hSame field hKnown.1,
      hOther field hKnown.2.1 hKnown.2.2]
    rfl
  have hInts :
      ∀ field ∈ ["priceCents", "stockQuantity"],
        int? data field =
          int? (stampUploaded env auth.userId data)
            field := by
    intro field hField
    have hKnown :
        field ∈ ["name", "description", "priceCents",
          "stockQuantity"] := by
      revert field
      decide
    rw [int?, int?, hSame field hKnown]
  constructor
  · intro hClean
    refine ⟨?_, ?_, ?_⟩
    · rcases hClean.price with ⟨n, hN, _⟩
      rw [← hInt _ (by decide), hN]
      rfl
    · rcases hClean.stock with ⟨n, hN, _⟩
      rw [← hInt _ (by decide), hN]
      rfl
    · intro v hV hText
      apply hClean.description v
      have hNot : text? obj "description" = none := by
        change (obj.lookup "description").bind _ = none
        change obj.lookup "description" = some v at hV
        rw [hV]
        exact hText
      rw [hSame _ (by decide), hDescription, hNot]
      exact hV
  · intro hComplete
    refine ⟨?_, ?_, ?_, ?_⟩
    · refine ⟨Validation.sanitizeHtml title, ?_,
        sanitizeHtml_flat title⟩
      rw [text?, hSame _ (by decide), hName]
      rfl
    · intro v hV
      rw [hSame _ (by decide), hDescription] at hV
      cases hText : text? obj "description" with
      | none =>
        rw [hText] at hV
        apply hComplete.description v hV
        change (obj.lookup "description").bind _ = none
          at hText
        change obj.lookup "description" = some v at hV
        rw [hV] at hText
        exact hText
      | some d =>
        rw [hText] at hV
        cases hV
        exact toText_flat (sanitizeHtml_flat d)
    · rcases Option.isSome_iff_exists.mp hComplete.price with
        ⟨n, hN⟩
      rw [← hInt _ (by decide)] at hN
      refine ⟨n, hN, hPrice n ?_⟩
      rw [hInts _ (by decide), hN]
    · rcases Option.isSome_iff_exists.mp hComplete.stock with
        ⟨n, hN⟩
      rw [← hInt _ (by decide)] at hN
      refine ⟨n, hN, hStock n ?_⟩
      rw [hInts _ (by decide), hN]

end

--------
-- Responses
--------

section

variable {codec : Codec} {env : Env} {auth : AuthContext}

variable {w : World}

theorem rows_of_createDocument
    {k : Nat}
    {creator id : String}
    {w' : World}
    (hOk : createDocument env k auth creator data w =
      (.ok id, w')) :
    w.rows id = none ∧ w'.rows = Function.update w.rows id
        (some ⟨data, creator⟩) := by
  unfold createDocument at hOk
  split at hOk
  · cases hOk
  · split at hOk
    · cases hOk
    next hFree =>
      cases hOk
      exact ⟨hFree, rfl⟩

theorem world_of_createDocument_error
    {k : Nat}
    {creator : String}
    {e : Error}
    {w' : World}
    (hError : createDocument env k auth creator data w =
      (.error e, w')) :
    w' = w := by
  unfold createDocument at hError
  split at hError
  · cases hError
    rfl
  · split at hError
    · cases hError
      rfl
    · cases hError

/- A row changes the store only where it is created. -/
theorem rowOutcome_cases
    (row : Value × Nat)
    (w : World) :
    ((rowOutcome codec env auth row w).1.id? = none ∧
        (rowOutcome codec env auth row w).2 = w) ∨
      ∃ id data, checkUpload codec row.1 = .ok data ∧
          (rowOutcome codec env auth row w).1 = .created id ∧
          w.rows id = none ∧
          (rowOutcome codec env auth row w).2.rows =
            Function.update w.rows id
              (some ⟨stampUploaded env auth.userId data,
                auth.userId⟩) := by
  cases hCheck : checkUpload codec row.1 with
  | error message =>
    rw [rowOutcome_refused hCheck]
    exact Or.inl ⟨rfl, rfl⟩
  | ok data =>
    rw [rowOutcome, hCheck]
    cases hCreate : createDocument env row.2 auth
        auth.userId (stampUploaded env auth.userId data)
        w with
    | mk result w' =>
      cases result with
      | error e =>
        simp only [hCreate]
        exact Or.inl ⟨rfl,
          world_of_createDocument_error hCreate⟩
      | ok id =>
        simp only [hCreate]
        rcases rows_of_createDocument hCreate with
          ⟨hFree, hRows⟩
        exact Or.inr ⟨id, data, rfl, rfl, hFree, hRows⟩

/- What is stored stays. -/
theorem rows_outcomes
    {rows : List (Value × Nat)}
    {id : String}
    {product : Product}
    (hStored : w.rows id = some product) :
    (outcomes codec env auth rows w).2.rows id =
      some product := by
  induction rows generalizing w with
  | nil => exact hStored
  | cons row rest ih =>
    rw [outcomes]
    apply ih
    rcases rowOutcome_cases row w with
      ⟨_, hSame⟩ | ⟨other, data, _, _, hFree, hRows⟩
    · rw [hSame]
      exact hStored
    · have hNe : id ≠ other := by
        rintro rfl
        rw [hFree] at hStored
        cases hStored
      rw [hRows, Function.update_of_ne hNe]
      exact hStored

/- A created row is stored as its checks made it. -/
theorem stored_of_created
    {rows : List (Value × Nat)}
    {entry : (Value × Nat) × (Nat × Outcome)}
    {id : String}
    (hMem : entry ∈
      rows.zip (outcomes codec env auth rows w).1)
    (hCreated : entry.2.2 = .created id) :
    ∃ data, checkUpload codec entry.1.1 = .ok data ∧
        (outcomes codec env auth rows w).2.rows id =
          some ⟨stampUploaded env auth.userId data,
            auth.userId⟩ := by
  induction rows generalizing w with
  | nil => exact absurd hMem List.not_mem_nil
  | cons row rest ih =>
    rw [outcomes, List.zip_cons_cons, List.mem_cons] at hMem
    rw [outcomes]
    rcases hMem with rfl | hRest
    · have hThis :
          (rowOutcome codec env auth row w).1 =
            .created id := hCreated
      have hCases :
          ((rowOutcome codec env auth row w).1.id? = none ∧
            _) ∨ _ :=
        rowOutcome_cases row w
      rcases hCases with
        ⟨hNone, _⟩ | ⟨other, data, hCheck, hOther, _, hRows⟩
      · rw [hThis] at hNone
        cases hNone
      · rw [hOther] at hThis
        cases hThis
        refine ⟨data, hCheck, rows_outcomes ?_⟩
        rw [hRows, Function.update_self]
    · exact ih hRest

end

/- The rows of a request with their places. -/
def BulkUploadRequest.rows (req : BulkUploadRequest) :
    List (Value × Nat) :=
  req.products.zipIdx

/-
  The response counts every row once and names it, the store
  has the created rows, and these are clean.
-/
structure Accounted
    (codec : Codec)
    (env : Env)
    (auth : AuthContext)
    (req : BulkUploadRequest)
    (w : World)
    (created failed : Nat)
    (errors : List BulkProductError)
    (productIds : List String)
    (after : World) : Prop where
  total : created + failed = req.products.length
  counted : failed = errors.length
  named :
    (errors.map BulkProductError.index).Perm
      (lostRows (outcomes codec env auth req.rows w).1)
  ids :
    productIds =
      (createdIds (outcomes codec env auth req.rows w).1).map
        (docId "products")
  world : after = (outcomes codec env auth req.rows w).2
  clean :
    ∀ entry ∈ (outcomes codec env auth req.rows w).1,
      ∀ id, entry.2 = .created id →
        ∃ product, after.rows id = some product ∧
          Clean product.data

/- All rows pass their checks, or none does. -/
def Uniform (codec : Codec) (req : BulkUploadRequest) :
    Prop :=
  (∀ product ∈ req.products,
    (checkUpload codec product).isOk = true) ∨
  ∀ product ∈ req.products,
    (checkUpload codec product).isOk = false

/- The rows that are created have all that they need. -/
def CreatedComplete
    (codec : Codec)
    (env : Env)
    (auth : AuthContext)
    (req : BulkUploadRequest)
    (w : World) : Prop :=
  ∀ entry ∈
      req.rows.zip (outcomes codec env auth req.rows w).1,
    entry.2.2.id?.isSome = true → Complete entry.1.1

def UploadAccounted
    (codec : Codec)
    (env : Env)
    (auth : AuthContext)
    (req : BulkUploadRequest)
    (w : World) : Prop :=
  ∃ created failed errors productIds after,
    bulkUploadProducts codec env auth req w =
        (.ok (.uploaded created failed errors productIds),
          after) ∧
      Accounted codec env auth req w created failed errors
        productIds after

section

variable {codec : Codec} {env : Env} {auth : AuthContext}
variable {req : BulkUploadRequest} {w : World}

theorem forall_zipIdx_iff
    {α : Type}
    {P : α → Prop}
    {items : List α} :
    (∀ entry ∈ items.zipIdx, P entry.1) ↔
      ∀ item ∈ items, P item := by
  have hFirst : items.zipIdx.map Prod.fst = items :=
    List.zipIdx_map_fst 0 items
  rw [← List.forall_mem_map, hFirst]

theorem valid_nil_iff :
    req.valid codec = [] ↔ ∀ product ∈ req.products,
        (checkUpload codec product).isOk = false := by
  rw [BulkUploadRequest.valid, List.filterMap_eq_nil_iff]
  refine Iff.trans ?_ (forall_zipIdx_iff
    (P := fun product =>
      (checkUpload codec product).isOk = false))
  apply forall₂_congr
  intro entry _
  cases checkUpload codec entry.1 <;>
    simp [Except.isOk, Except.toBool]

theorem errors_nil_iff :
    req.errors codec = [] ↔ ∀ product ∈ req.products,
        (checkUpload codec product).isOk = true := by
  rw [BulkUploadRequest.errors, List.filterMap_eq_nil_iff]
  refine Iff.trans ?_ (forall_zipIdx_iff
    (P := fun product =>
      (checkUpload codec product).isOk = true))
  apply forall₂_congr
  intro entry _
  cases checkUpload codec entry.1 <;>
    simp [Except.isOk, Except.toBool]

/- The created rows are stored clean if they were complete. -/
theorem clean_rows_iff :
    (∀ entry ∈ (outcomes codec.real env auth req.rows w).1,
      ∀ id, entry.2 = .created id → ∃ product,
          (outcomes codec.real env auth req.rows w).2.rows
              id = some product ∧
            Clean product.data) ↔
      CreatedComplete codec.real env auth req w := by
  have hLength :
      (outcomes codec.real env auth req.rows w).1.length ≤
        req.rows.length :=
    (length_outcomes req.rows w).le
  constructor
  · intro hClean entry hEntry hSome
    rcases entry with ⟨row, index, outcome⟩
    cases outcome with
    | created id =>
      rcases stored_of_created hEntry rfl with
        ⟨data, hCheck, hStored⟩
      rcases hClean _ (List.of_mem_zip hEntry).2 id rfl with
        ⟨product, hProduct, hData⟩
      rw [hStored] at hProduct
      cases hProduct
      exact (clean_iff hCheck).mp hData
    | refused => cases hSome
    | failed => cases hSome
  · intro hComplete entry hEntry id hCreated
    have hSecond :
        (req.rows.zip
          (outcomes codec.real env auth req.rows w).1).map
            Prod.snd =
          (outcomes codec.real env auth req.rows w).1 :=
      List.map_snd_zip hLength
    rw [← hSecond] at hEntry
    rcases List.mem_map.mp hEntry with ⟨pair, hPair, rfl⟩
    rcases stored_of_created hPair hCreated with
      ⟨data, hCheck, hStored⟩
    refine ⟨_, hStored, (clean_iff hCheck).mpr ?_⟩
    exact hComplete pair hPair (by rw [hCreated]; rfl)

/- Without a row that passes there is none that fails later. -/
theorem failures_nil
    (hNone : req.valid codec = []) :
    errorsBy Outcome.failure?
      (outcomes codec env auth req.rows w).1 = [] := by
  have hUploads :
      (req.valid codec).foldl (uploadProduct env auth)
        ⟨[], 0, [], w⟩ = _ :=
    uploads_eq req.rows ⟨[], 0, [], w⟩
  rw [hNone] at hUploads
  exact (congrArg Upload.errors hUploads).symm

/- The response in terms of what became of the rows. -/
theorem bulkUpload_eq
    (hCheck : checkBulkUpload env auth req = .ok ()) :
    bulkUploadProducts codec env auth req w =
      let o := outcomes codec env auth req.rows w
      let failures := errorsBy Outcome.failure? o.1
      let ids := (createdIds o.1).map (docId "products")
      let failed :=
        if req.valid codec = [] then
          (req.errors codec).length
        else failures.length
      (.ok (.uploaded ids.length failed
        (req.errors codec ++ failures) ids), o.2) := by
  have hUploads :
      (req.valid codec).foldl (uploadProduct env auth)
        ⟨[], 0, req.errors codec, w⟩ = _ :=
    uploads_eq req.rows ⟨[], 0, req.errors codec, w⟩
  rw [bulkUploadProducts, hCheck]
  change (if (req.valid codec).isEmpty = true then _ else _) =
    _
  cases hValid : req.valid codec with
  | nil =>
    rw [hValid] at hUploads
    simp only [List.foldl_nil, List.nil_append, Nat.zero_add,
      Upload.mk.injEq] at hUploads
    rcases hUploads with ⟨hIds, hFailed, hErrors, hWorld⟩
    simp only [List.isEmpty_nil, if_true, ← hIds, ← hWorld,
      ← hErrors, List.length_nil]
  | cons entry rest =>
    rw [hValid] at hUploads
    simp only [List.isEmpty_cons, Bool.false_eq_true,
      if_false, hUploads, List.nil_append, Nat.zero_add,
      reduceCtorEq]

end

/- A response that counts well comes from rows alike. -/
theorem uniform_of_accounted
    {codec : Codec}
    {env : Env}
    {auth : AuthContext}
    {req : BulkUploadRequest}
    {w : World}
    (hCheck : checkBulkUpload env auth req = .ok ())
    (hUpload : UploadAccounted codec env auth req w) :
    Uniform codec req := by
  have hResponse :
      bulkUploadProducts codec env auth req w = _ :=
    bulkUpload_eq hCheck
  rcases hUpload with
    ⟨created, failed, errors, ids, after, hDone, hAccounted⟩
  rw [hResponse] at hDone
  simp only [Prod.mk.injEq, Except.ok.injEq,
    Response.uploaded.injEq] at hDone
  rcases hDone with ⟨⟨_, rfl, rfl, _⟩, rfl⟩
  have hCounted := hAccounted.counted
  rw [List.length_append] at hCounted
  rw [Uniform, ← errors_nil_iff, ← valid_nil_iff]
  split at hCounted
  next hNone => exact Or.inr hNone
  next =>
    exact Or.inl (List.eq_nil_of_length_eq_zero (by omega))

/- A seller, and a row that passes its checks. -/
def uploadEnv : Env where
  users := fun _ =>
    .ok (.object [("roles", .array [.string "seller"])])
  now := "2025-01-01T00:00:00Z"
  uuid := fun _ => "a"

def uploader : AuthContext where
  userId := "seller"

def loaf : Value :=
  .object [("name", .string "Bread"),
      ("categoryId", .string "food"),
      ("priceCents", intValue 500),
      ("stockQuantity", intValue 3)]

theorem loaf_passes :
    (checkUpload plainCodec.real loaf).isOk = true := by
  decide

end Orignabase.Products
