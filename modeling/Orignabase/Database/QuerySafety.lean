import Orignabase.Database.QueryLiterals

/-
  What a whole SELECT means to PostgreSQL's lexer.

  `Select.tokens` states the tokens a statement is meant to
  have, each caller string being the value of one literal.
  The statement has these tokens exactly when every string it
  embeds is plain.

  Key definitions include:
    * `Select`
    * `Select.tokens`
    * `Select.texts`

  Main results:
    * `QueryTranslator.frag_translateOp`
    * `Select.frag_statement`
-/

--------
-- Intended Tokens Of Field Expressions
--------

namespace Orignabase

namespace QueryTranslator

open Sql

def word (s : String) : Token := .word s.toList

def symbol (s : String) : Token := .op s.toList

/- `NULLIF(data->>'field', '')::type` -/
def nullifTokens (field type : String) : List Token :=
  [word "NULLIF", .sign '(', word "data", symbol "->>",
    .str field.toList, .sign ',', .str [], .sign ')',
    .typecast, word type]

def fieldTokens (field : String) : List Token :=
  if field = "id" then [word "id"]
  else if isCreatedAt field then [word "created_at"]
  else if isUpdatedAt field then [word "updated_at"]
  else if isProbablyNumericField field then
    nullifTokens field "numeric"
  else [word "data", symbol "->>", .str field.toList]

def jsonTokens (field : String) : List Token :=
  if field = "id" then
    [word "to_jsonb", .sign '(', word "id", .sign ')']
  else if isCreatedAt field then
    [word "to_jsonb", .sign '(', word "created_at",
      .sign ')']
  else if isUpdatedAt field then
    [word "to_jsonb", .sign '(', word "updated_at",
      .sign ')']
  else [word "data", symbol "->", .str field.toList]

/- `EXTRACT(EPOCH FROM column)` -/
def epochTokens (column : String) : List Token :=
  [word "EXTRACT", .sign '(', word "EPOCH", word "FROM",
    word column, .sign ')']

def typedTokens (field : String) (value : Value) :
    List Token :=
  match value with
  | .number _ =>
    if isCreatedAt field then epochTokens "created_at"
    else if isUpdatedAt field then
      epochTokens "updated_at"
    else if field = "id" then [word "id"]
    else nullifTokens field "numeric"
  | .bool _ =>
    if field = "id" then [word "id"]
    else nullifTokens field "boolean"
  | _ => fieldTokens field

variable {field expr : String} {value : Value}
variable {op c : String}

/- `NULLIF(data->>'field', '')::type` reads as intended. -/
theorem frag_nullif
    (hField : isIdentifier field = true)
    (type : String)
    (hType : Reads type.toList [word type]) :
    Frag
      ("NULLIF(data->>'" ++ field ++ "', '')::" ++
        type).toList
      (nullifTokens field type) True := by
  have hQuote := quote_notMem_of_isIdentifier hField
  have hOpens :
      Opens "NULLIF(data->>".toList
        [word "NULLIF", .sign '(', word "data",
          symbol "->>"] := rfl
  have hField := Frag.of_reads (hOpens.reads hQuote) trivial
  have hEmptyOpens : Opens [] [] := rfl
  have hEmpty := Frag.of_reads
      (hEmptyOpens.reads List.not_mem_nil) trivial
  have hComma : Glue ", ".toList [.sign ','] :=
    ⟨rfl, fun _ => rfl⟩
  have hCast :
      Glue ")::".toList [.sign ')', .typecast] :=
    ⟨rfl, fun _ => rfl⟩
  have hAll := ((hField.glue hComma hEmpty).glue hCast
      (Frag.of_reads hType trivial)).congr_clean
      (q := True) (by simp)
  simpa [nullifTokens] using hAll

/- The text of a field. -/
theorem frag_dataText
    (hField : isIdentifier field = true) :
    Frag ("data->>'" ++ field ++ "'").toList
      [word "data", symbol "->>", .str field.toList]
      True := by
  have hOpens :
      Opens "data->>".toList
        [word "data", symbol "->>"] := rfl
  have hReads :=
    hOpens.reads (quote_notMem_of_isIdentifier hField)
  simpa using Frag.of_reads hReads trivial

/- The JSON value of a field. -/
theorem frag_dataJson
    (hField : isIdentifier field = true) :
    Frag ("data->'" ++ field ++ "'").toList
      [word "data", symbol "->", .str field.toList]
      True := by
  have hOpens :
      Opens "data->".toList
        [word "data", symbol "->"] := rfl
  have hReads :=
    hOpens.reads (quote_notMem_of_isIdentifier hField)
  simpa using Frag.of_reads hReads trivial

/- A name in the parentheses of a fixed function call. -/
theorem frag_call
    {head : String}
    {ts : List Token}
    (hHead :
      LexState.run ⟨.start, []⟩ head.toList = ⟨.start, ts⟩)
    (column : String)
    (hColumn : isIdentifier column = true) :
    Frag (head ++ column ++ ")").toList
      (ts ++ [word column, .sign ')']) True := by
  have hClose : Glue ")".toList [.sign ')'] :=
    ⟨rfl, fun _ => rfl⟩
  have hInner :=
    Frag.of_reads (reads_identifier hColumn) trivial
  have hAll := Frag.lead hHead (hInner.trail hClose)
  simpa [word] using hAll

theorem frag_sqlFieldExpr
    (hExpr : sqlFieldExpr field = some expr) :
    Frag expr.toList (fieldTokens field) True := by
  unfold fieldTokens
  cases hName : isIdentifier field with
  | false => simp [sqlFieldExpr, hName] at hExpr
  | true =>
    simp only [sqlFieldExpr, hName, Bool.not_true,
      Bool.false_eq_true, if_false] at hExpr
    split_ifs at hExpr ⊢ with hId hCreated hUpdated hNum
    · rw [← Option.some.inj hExpr]
      exact Frag.of_reads (reads_identifier (by decide))
        trivial
    · rw [← Option.some.inj hExpr]
      exact Frag.of_reads (reads_identifier (by decide))
        trivial
    · rw [← Option.some.inj hExpr]
      exact Frag.of_reads (reads_identifier (by decide))
        trivial
    · rw [← Option.some.inj hExpr]
      have hFrag := frag_nullif hName "numeric"
        (reads_identifier (by decide))
      simpa using hFrag
    · rw [← Option.some.inj hExpr]
      exact frag_dataText hName

theorem frag_sqlJsonValueExpr
    (hExpr : sqlJsonValueExpr field = some expr) :
    Frag expr.toList (jsonTokens field) True := by
  have hCall :
      LexState.run ⟨.start, []⟩ "to_jsonb(".toList =
        ⟨.start, [word "to_jsonb", .sign '(']⟩ := rfl
  unfold jsonTokens
  cases hName : isIdentifier field with
  | false => simp [sqlJsonValueExpr, hName] at hExpr
  | true =>
    simp only [sqlJsonValueExpr, hName, Bool.not_true,
      Bool.false_eq_true, if_false] at hExpr
    split_ifs at hExpr ⊢ with hId hCreated hUpdated
    · rw [← Option.some.inj hExpr]
      exact frag_call hCall "id" (by decide)
    · rw [← Option.some.inj hExpr]
      exact frag_call hCall "created_at" (by decide)
    · rw [← Option.some.inj hExpr]
      exact frag_call hCall "updated_at" (by decide)
    · rw [← Option.some.inj hExpr]
      exact frag_dataJson hName

theorem frag_sqlTypedFieldExpr
    (hExpr : sqlTypedFieldExpr field value = some expr) :
    Frag expr.toList (typedTokens field value) True := by
  have hCall :
      LexState.run ⟨.start, []⟩
          "EXTRACT(EPOCH FROM ".toList =
        ⟨.start, [word "EXTRACT", .sign '(', word "EPOCH",
          word "FROM"]⟩ := rfl
  cases hName : isIdentifier field with
  | false => simp [sqlTypedFieldExpr, hName] at hExpr
  | true =>
    unfold sqlTypedFieldExpr at hExpr
    rw [hName, Bool.not_true,
      if_neg Bool.false_ne_true] at hExpr
    cases value with
    | number n =>
      dsimp only at hExpr
      rw [← Option.some.inj hExpr]
      unfold typedTokens
      dsimp only
      split_ifs with hCreated hUpdated hId
      · exact frag_call hCall "created_at" (by decide)
      · exact frag_call hCall "updated_at" (by decide)
      · exact Frag.of_reads
          (reads_identifier (by decide)) trivial
      · have hFrag := frag_nullif hName "numeric"
          (reads_identifier (by decide))
        simpa using hFrag
    | bool b =>
      dsimp only at hExpr
      rw [← Option.some.inj hExpr]
      unfold typedTokens
      dsimp only
      split_ifs with hId
      · exact Frag.of_reads
          (reads_identifier (by decide)) trivial
      · have hFrag := frag_nullif hName "boolean"
          (reads_identifier (by decide))
        simpa using hFrag
    | null => exact frag_sqlFieldExpr hExpr
    | string s => exact frag_sqlFieldExpr hExpr
    | array items => exact frag_sqlFieldExpr hExpr
    | object fields => exact frag_sqlFieldExpr hExpr

--------
-- Intended Tokens Of Conditions
--------

def literalTokens (value : Value) : List Token :=
  match value with
  | .string s => [.str s.toList]
  | .number n => n.tokens
  | .bool b => [word (if b then "true" else "false")]
  | .null => [word "NULL"]
  | _ => [.str value.toText.toList]

/- The caller strings a literal embeds. -/
def literalTexts (value : Value) : List String :=
  match value with
  | .string s => [s]
  | .array _ | .object _ => [value.toText]
  | _ => []

def containsTokens (field s : String) : List Token :=
  [.sign '(', .sign '(', word "jsonb_typeof", .sign '('] ++
    (jsonTokens field ++
      ([.sign ')', symbol "=", .str "array".toList,
          word "AND"] ++
        (jsonTokens field ++
          ([symbol "?", .str s.toList, .sign ')', word "OR",
              word "COALESCE", .sign '('] ++
            (fieldTokens field ++
              [.sign ',', .str [], .sign ')', word "ILIKE",
                .str ('%' :: (s.toList ++ ['%'])),
                .sign ')'])))))

def startsWithTokens (field s : String) : List Token :=
  [word "COALESCE", .sign '('] ++ (fieldTokens field ++
      [.sign ',', .str [], .sign ')', word "ILIKE",
        .str (s.toList ++ ['%'])])

def conditionTokens
    (field op : String)
    (value : Value) : List Token :=
  let comparison (symbolText : String) :=
    typedTokens field value ++
      ([symbol symbolText] ++ literalTokens value)
  match op with
  | "_eq" =>
    if value.isNull then
      typedTokens field value ++ [word "IS", word "NULL"]
    else comparison "="
  | "_neq" =>
    if value.isNull then
      typedTokens field value ++
        [word "IS", word "NOT", word "NULL"]
    else comparison "!="
  | "_gt" => comparison ">"
  | "_gte" => comparison ">="
  | "_lt" => comparison "<"
  | "_lte" => comparison "<="
  | "_in" =>
    let arr := value.asArray.getD []
    typedTokens field (arr.head?.getD .null) ++
      ([word "IN", .sign '('] ++
        (joinTokens [.sign ','] (arr.map literalTokens) ++
          [.sign ')']))
  | "_contains" =>
    containsTokens field (value.asStr.getD "")
  | "_starts_with" =>
    startsWithTokens field (value.asStr.getD "")
  | _ => []

/- The caller strings a condition embeds. -/
def conditionTexts (op : String) (value : Value) :
    List String :=
  match op with
  | "_in" => (value.asArray.getD []).flatMap literalTexts
  | "_contains" | "_starts_with" => value.asStr.toList
  | _ => literalTexts value

/- Every string of the list is plain. -/
def AllPlain (texts : List String) : Prop :=
  ∀ s ∈ texts, PlainText s

instance (texts : List String) :
    Decidable (AllPlain texts) := by
  unfold AllPlain
  infer_instance

theorem opens_nil : Opens [] [] := rfl

/- A caller string as a whole literal. -/
theorem frag_quoted (s : String) :
    Frag ("'" ++ escapeSqlString s ++ "'").toList
      [.str s.toList] (PlainText s) := by
  have hFrag := frag_userLiteral opens_nil s [] []
    (by simp) (by simp)
  simpa using hFrag

theorem frag_formatSqlLiteral (value : Value) :
    Frag (formatSqlLiteral value).toList
      (literalTokens value)
      (AllPlain (literalTexts value)) := by
  cases value with
  | null =>
    exact Frag.of_reads (reads_identifier (by decide))
      (by simp [AllPlain, literalTexts])
  | bool b =>
    refine Frag.of_reads ?_
      (by simp [AllPlain, literalTexts])
    cases b with
    | false => exact reads_identifier (by decide)
    | true => exact reads_identifier (by decide)
  | number n =>
    exact Frag.of_reads n.reads_toText
      (by simp [AllPlain, literalTexts])
  | string s =>
    exact (frag_quoted s).congr_clean
      (by simp [AllPlain, literalTexts])
  | array items =>
    exact (frag_quoted (Value.array items).toText).congr_clean
      (by simp [AllPlain, literalTexts])
  | object fields =>
    exact
      (frag_quoted (Value.object fields).toText).congr_clean
        (by simp [AllPlain, literalTexts])

/- `field op literal` for an operator with a glued text. -/
theorem frag_comparison
    (hExpr : sqlTypedFieldExpr field value = some expr)
    (hOp :
      Glue (" " ++ op ++ " ").toList [symbol op]) :
    Frag
      (expr ++ " " ++ op ++ " " ++
        formatSqlLiteral value).toList
      (typedTokens field value ++
        ([symbol op] ++ literalTokens value))
      (AllPlain (literalTexts value)) := by
  have hAll := ((frag_sqlTypedFieldExpr hExpr).glue hOp
      (frag_formatSqlLiteral value)).congr_clean
      (q := AllPlain (literalTexts value)) (by simp)
  simpa using hAll

/- A comparison operator. -/
theorem frag_translateComparison
    (hOp : Glue (" " ++ op ++ " ").toList [symbol op])
    (hCond : translateComparison field op value = some c) :
    Frag c.toList
      (typedTokens field value ++
        ([symbol op] ++ literalTokens value))
      (AllPlain (literalTexts value)) := by
  cases hExpr : sqlTypedFieldExpr field value with
  | none => simp [translateComparison, hExpr] at hCond
  | some expr =>
    simp only [translateComparison, hExpr,
      Option.bind_eq_bind, Option.bind_some,
      Option.some.injEq] at hCond
    rw [← hCond]
    exact frag_comparison hExpr hOp

/- An equality operator with its test for `NULL`. -/
theorem frag_translateEquality
    {nullTest : String}
    {nullTokens : List Token}
    (hOp : Glue (" " ++ op ++ " ").toList [symbol op])
    (hNull :
      ∀ expr ts, Frag expr ts True →
          Frag (expr ++ (" " ++ nullTest).toList)
            (ts ++ nullTokens) True)
    (hCond :
      translateEquality field op nullTest value = some c) :
    Frag c.toList
      (if value.isNull then
        typedTokens field value ++ nullTokens
      else
        typedTokens field value ++
          ([symbol op] ++ literalTokens value))
      (AllPlain (literalTexts value)) := by
  cases hExpr : sqlTypedFieldExpr field value with
  | none => simp [translateEquality, hExpr] at hCond
  | some expr =>
    simp only [translateEquality, hExpr,
      Option.bind_eq_bind, Option.bind_some] at hCond
    split_ifs at hCond ⊢ with hIsNull
    · rw [← Option.some.inj hCond]
      have hTexts : AllPlain (literalTexts value) := by
        cases value <;>
          simp_all [Value.isNull, AllPlain, literalTexts]
      have hFrag :=
        (hNull _ _ (frag_sqlTypedFieldExpr hExpr)).congr_clean
          (q := AllPlain (literalTexts value))
          (by simp [hTexts])
      simpa using hFrag
    · rw [← Option.some.inj hCond]
      exact frag_comparison hExpr hOp

/- A test for `NULL`, whose last word ends the condition. -/
theorem frag_nullTest
    (head : String)
    (ts : List Token)
    (hHead : Glue head.toList ts)
    (expr : List Char)
    (us : List Token)
    (hExpr : Frag expr us True) :
    Frag (expr ++ (head ++ "NULL").toList)
      (us ++ (ts ++ [word "NULL"])) True := by
  have hNull : Frag "NULL".toList [word "NULL"] True :=
    Frag.of_reads (reads_identifier (by decide)) trivial
  have hAll := (hExpr.glue hHead hNull).congr_clean
      (q := True) (by simp)
  simpa using hAll

theorem join_toList (sep : String) (parts : List String) :
    (Text.join sep parts).toList =
      joinChars sep.toList (parts.map String.toList) := by
  induction parts with
  | nil => rfl
  | cons part rest ih =>
    cases rest with
    | nil => rfl
    | cons next rest =>
      simp only [List.map_cons] at ih
      simp [Text.join, joinChars, ih]

theorem frag_translateIn
    (hCond : translateIn field value = some c) :
    Frag c.toList (conditionTokens field "_in" value)
      (AllPlain (conditionTexts "_in" value)) := by
  cases value with
  | array items =>
    cases hExpr :
        sqlTypedFieldExpr field
          (items.head?.getD .null) with
    | none =>
      simp [translateIn, Value.asArray, hExpr] at hCond
    | some expr =>
      simp only [translateIn, Value.asArray, hExpr,
        Option.bind_eq_bind, Option.bind_some,
        Option.some.injEq] at hCond
      have hIn :
          Glue " IN (".toList [word "IN", .sign '('] :=
        ⟨rfl, fun _ => rfl⟩
      have hComma : Glue ", ".toList [.sign ','] :=
        ⟨rfl, fun _ => rfl⟩
      have hClose : Glue ")".toList [.sign ')'] :=
        ⟨rfl, fun _ => rfl⟩
      have hItems := Frag.join
          (fun v => (formatSqlLiteral v).toList)
          literalTokens
          (fun v => AllPlain (literalTexts v))
          hComma items
          (fun v _ => frag_formatSqlLiteral v)
      have hAll := ((frag_sqlTypedFieldExpr hExpr).glue hIn
          (hItems.trail hClose)).congr_clean
          (q := AllPlain
            (conditionTexts "_in" (.array items)))
          (by
            simp only [true_and, AllPlain,
              conditionTexts, Value.asArray,
              Option.getD_some, List.mem_flatMap]
            grind -ring -linarith -lia)
      rw [← hCond]
      simpa [conditionTokens, Value.asArray,
        join_toList, Function.comp_def] using hAll
  | null => simp [translateIn, Value.asArray] at hCond
  | bool b => simp [translateIn, Value.asArray] at hCond
  | number n => simp [translateIn, Value.asArray] at hCond
  | string s => simp [translateIn, Value.asArray] at hCond
  | object fields =>
    simp [translateIn, Value.asArray] at hCond

/- A field that passes validation has all its expressions. -/
theorem exists_fieldExprs
    (hField : isIdentifier field = true) :
    (∃ json, sqlJsonValueExpr field = some json) ∧
      ∃ text, sqlFieldExpr field = some text := by
  constructor
  · simp only [sqlJsonValueExpr, hField, Bool.not_true,
      Bool.false_eq_true, if_false]
    split_ifs <;> exact ⟨_, rfl⟩
  · simp only [sqlFieldExpr, hField, Bool.not_true,
      Bool.false_eq_true, if_false]
    split_ifs <;> exact ⟨_, rfl⟩

/-
  `_contains` embeds its string twice: as an array element
  and inside a pattern.
-/
theorem frag_translateContains
    (hField : isIdentifier field = true)
    (hCond : translateContains field value = some c) :
    Frag c.toList
      (conditionTokens field "_contains" value)
      (AllPlain (conditionTexts "_contains" value)) := by
  cases value with
  | string s =>
    rcases exists_fieldExprs hField with
      ⟨⟨json, hJson⟩, text, hText⟩
    simp only [translateContains, Value.asStr, hJson,
      hText, Option.bind_eq_bind, Option.bind_some,
      Option.getD_some, Option.some.injEq] at hCond
    have hHead :
        LexState.run ⟨.start, []⟩ "((jsonb_typeof(".toList =
          ⟨.start, [.sign '(', .sign '(',
            word "jsonb_typeof", .sign '(']⟩ := rfl
    have hArray :
        Glue ") = 'array' AND ".toList
          [.sign ')', symbol "=", .str "array".toList,
            word "AND"] := ⟨rfl, fun _ => rfl⟩
    have hOr :
        Glue ") OR COALESCE(".toList
          [.sign ')', word "OR", word "COALESCE",
            .sign '('] := ⟨rfl, fun _ => rfl⟩
    have hAsk : Glue " ? ".toList [symbol "?"] :=
      ⟨rfl, fun _ => rfl⟩
    have hILike :
        Glue ", '') ILIKE ".toList
          [.sign ',', .str [], .sign ')', word "ILIKE"] :=
      ⟨rfl, fun _ => rfl⟩
    have hClose : Glue ")".toList [.sign ')'] :=
      ⟨rfl, fun _ => rfl⟩
    have hPattern :=
      frag_userLiteral opens_nil s ['%'] ['%']
        (by simp) (by simp)
    have hJsonFrag := frag_sqlJsonValueExpr hJson
    have hAll := (Frag.lead hHead (hJsonFrag.glue hArray
          (hJsonFrag.glue hAsk ((frag_quoted s).glue hOr
              ((frag_sqlFieldExpr hText).glue hILike
                (hPattern.trail hClose)))))).congr_clean
        (q := AllPlain
          (conditionTexts "_contains" (.string s)))
        (by simp [AllPlain, conditionTexts, Value.asStr])
    rw [← hCond]
    simpa [conditionTokens, containsTokens, Value.asStr]
      using hAll
  | null => simp [translateContains, Value.asStr] at hCond
  | bool b => simp [translateContains, Value.asStr] at hCond
  | number n =>
    simp [translateContains, Value.asStr] at hCond
  | array items =>
    simp [translateContains, Value.asStr] at hCond
  | object fields =>
    simp [translateContains, Value.asStr] at hCond

theorem frag_translateStartsWith
    (hCond : translateStartsWith field value = some c) :
    Frag c.toList
      (conditionTokens field "_starts_with" value)
      (AllPlain (conditionTexts "_starts_with" value)) := by
  cases hText : sqlFieldExpr field with
  | none => simp [translateStartsWith, hText] at hCond
  | some text =>
    cases value with
    | string s =>
      simp only [translateStartsWith, Value.asStr, hText,
        Option.bind_eq_bind, Option.bind_some,
        Option.some.injEq] at hCond
      have hHead :
          LexState.run ⟨.start, []⟩ "COALESCE(".toList =
            ⟨.start, [word "COALESCE", .sign '(']⟩ := rfl
      have hILike :
          Glue ", '') ILIKE ".toList
            [.sign ',', .str [], .sign ')',
              word "ILIKE"] := ⟨rfl, fun _ => rfl⟩
      have hPattern := frag_userLiteral opens_nil s [] ['%']
          (by simp) (by simp)
      have hAll := (Frag.lead hHead
          ((frag_sqlFieldExpr hText).glue hILike
            hPattern)).congr_clean
          (q := AllPlain
            (conditionTexts "_starts_with" (.string s)))
          (by simp [AllPlain, conditionTexts, Value.asStr])
      rw [← hCond]
      simpa [conditionTokens, startsWithTokens,
        Value.asStr] using hAll
    | null =>
      simp [translateStartsWith, Value.asStr] at hCond
    | bool b =>
      simp [translateStartsWith, Value.asStr] at hCond
    | number n =>
      simp [translateStartsWith, Value.asStr] at hCond
    | array items =>
      simp [translateStartsWith, Value.asStr] at hCond
    | object fields =>
      simp [translateStartsWith, Value.asStr] at hCond

theorem frag_isNull
    (expr : List Char)
    (ts : List Token)
    (hExpr : Frag expr ts True) :
    Frag (expr ++ (" " ++ "IS NULL").toList)
      (ts ++ [word "IS", word "NULL"]) True := by
  have hText : " " ++ "IS NULL" = " IS " ++ "NULL" := by
    decide
  rw [hText]
  exact frag_nullTest " IS " [word "IS"]
    ⟨rfl, fun _ => rfl⟩ expr ts hExpr

theorem frag_isNotNull
    (expr : List Char)
    (ts : List Token)
    (hExpr : Frag expr ts True) :
    Frag (expr ++ (" " ++ "IS NOT NULL").toList)
      (ts ++ [word "IS", word "NOT", word "NULL"]) True := by
  have hText : " " ++ "IS NOT NULL" = " IS NOT " ++ "NULL" := by
    decide
  rw [hText]
  exact frag_nullTest " IS NOT " [word "IS", word "NOT"]
    ⟨rfl, fun _ => rfl⟩ expr ts hExpr

/- Every condition means its intended tokens or derails. -/
theorem frag_translateOp
    (hCond : translateOp field op value = some c) :
    Frag c.toList (conditionTokens field op value)
      (AllPlain (conditionTexts op value)) := by
  cases hField : isIdentifier field with
  | false => simp [translateOp, hField] at hCond
  | true =>
    unfold translateOp at hCond
    rw [hField, Bool.not_true,
      if_neg Bool.false_ne_true] at hCond
    split at hCond
    · exact frag_translateEquality ⟨rfl, fun _ => rfl⟩
        frag_isNull hCond
    · exact frag_translateEquality ⟨rfl, fun _ => rfl⟩
        frag_isNotNull hCond
    · exact frag_translateComparison
        ⟨rfl, fun _ => rfl⟩ hCond
    · exact frag_translateComparison
        ⟨rfl, fun _ => rfl⟩ hCond
    · exact frag_translateComparison
        ⟨rfl, fun _ => rfl⟩ hCond
    · exact frag_translateComparison
        ⟨rfl, fun _ => rfl⟩ hCond
    · exact frag_translateIn hCond
    · exact frag_translateContains hField hCond
    · exact frag_translateStartsWith hCond
    · simp at hCond

end QueryTranslator

--------
-- Whole Statements
--------

open Sql QueryTranslator

/- The arguments of a SELECT without field projection. -/
structure Select where
  collection : String
  filters : Option Value := none
  orderBy : Option String := none
  descending : Bool := false
  limit : Option Nat := none
  offset : Option Nat := none
  startAfter : Option String := none

/-
  A part of the WHERE clause: its text, the tokens it is
  meant to have and the caller strings it embeds.
-/
structure Part where
  text : String
  tokens : List Token
  texts : List String

namespace Part

/- The part means its tokens exactly when it is plain. -/
def Sound (part : Part) : Prop :=
  Frag part.text.toList part.tokens (AllPlain part.texts)

/- Parts combined with `AND`. -/
def conjunction (parts : List Part) : Part where
  text := Text.join " AND " (parts.map Part.text)
  tokens := joinTokens [word "AND"] (parts.map Part.tokens)
  texts := parts.flatMap Part.texts

theorem Sound.conjunction
    {parts : List Part}
    (hParts : ∀ part ∈ parts, part.Sound) :
    (Part.conjunction parts).Sound := by
  have hAnd : Glue " AND ".toList [word "AND"] :=
    ⟨rfl, fun _ => rfl⟩
  have hJoin :=
    (Frag.join (fun part : Part => part.text.toList)
      Part.tokens (fun part => AllPlain part.texts)
      hAnd parts hParts).congr_clean
      (q := AllPlain (Part.conjunction parts).texts)
      (by
        simp only [AllPlain, Part.conjunction,
          List.mem_flatMap]
        grind -ring -linarith -lia)
  simpa [Part.Sound, Part.conjunction, join_toList,
    Function.comp_def] using hJoin

end Part

namespace Select

def statement (q : Select) : String :=
  buildSelectExt q.collection q.filters q.orderBy
    q.descending q.limit q.offset none q.startAfter

/- The conditions of a filter that are kept. -/
def conditions (filters : Value) : List Part :=
  (filterOps filters).filterMap (fun o =>
    (translateOp o.1 o.2.1 o.2.2).map (fun c =>
      ⟨c, conditionTokens o.1 o.2.1 o.2.2,
        conditionTexts o.2.1 o.2.2⟩))

def filterPart (filters : Option Value) : List Part :=
  match filters with
  | none => []
  | some f =>
    if (conditions f).isEmpty then []
    else [Part.conjunction (conditions f)]

/- The comparison with the cursor document. -/
def cursorTokens (q : Select) (cursor : String) :
    List Token :=
  let orderField := q.orderBy.getD "id"
  let op := if q.descending then "<" else ">"
  if orderField = "id" then
    [word "id", symbol op, .str cursor.toList]
  else
    fieldTokens orderField ++
      ([symbol op, .sign '(', word "SELECT"] ++
        (fieldTokens orderField ++ ([word "FROM"] ++
            ([word q.collection] ++
              [word "WHERE", word "id", symbol "=",
                .str cursor.toList, .sign ')']))))

def cursorPart (q : Select) : List Part :=
  match q.startAfter with
  | none => []
  | some cursor =>
    (cursorParts q.collection q.orderBy q.descending
      q.startAfter).map (fun text =>
        ⟨text, q.cursorTokens cursor, [cursor]⟩)

def whereParts (q : Select) : List Part :=
  filterPart q.filters ++ q.cursorPart

def orderTokens (q : Select) : List Token :=
  match q.orderBy with
  | none => []
  | some field =>
    match sqlFieldExpr field with
    | none => []
    | some _ =>
      [word "ORDER", word "BY"] ++ (fieldTokens field ++
          [word (if q.descending then "DESC"
            else "ASC")])

def countTokens (keyword : String) (n : Option Nat) :
    List Token :=
  match n with
  | none => []
  | some n => [word keyword, .number (toString n).toList]

/-
  The intended tokens: every caller string is the value of
  one literal, with only the builder's own `%` around it.
-/
def tokens (q : Select) : List Token :=
  [word "SELECT", symbol "*", word "FROM",
      word q.collection] ++
    (if q.whereParts.isEmpty then []
    else
      [word "WHERE"] ++
        (Part.conjunction q.whereParts).tokens) ++
    q.orderTokens ++
    countTokens "LIMIT" q.limit ++
    countTokens "OFFSET" q.offset

/- The caller strings the statement embeds in literals. -/
def texts (q : Select) : List String :=
  q.whereParts.flatMap Part.texts

theorem filterParts_eq (filters : Option Value) :
    filterParts filters =
      (filterPart filters).map Part.text := by
  cases filters with
  | none => rfl
  | some f =>
    have hTexts :
        (filterOps f).filterMap
            (fun o => translateOp o.1 o.2.1 o.2.2) =
          (conditions f).map Part.text := by
      simp [conditions, List.map_filterMap,
        Option.map_map, Function.comp_def]
    have hNonempty :
        ∀ s : String, "WHERE " ++ s ≠ "" := by
      intro s hEq
      have hChars := congrArg String.toList hEq
      simp at hChars
    unfold filterParts filterPart filtersToWhere
    dsimp only
    rw [hTexts]
    by_cases hEmpty : (conditions f).isEmpty = true
    · simp [hEmpty]
    · simp [hEmpty, hNonempty, Text.stripPrefix_append,
        Part.conjunction]

variable {part : Part}

theorem sound_conditions
    {f : Value}
    (hPart : part ∈ conditions f) :
    part.Sound := by
  rcases List.mem_filterMap.mp hPart with ⟨o, _, hMap⟩
  rcases Option.map_eq_some_iff.mp hMap with ⟨c, hCond, rfl⟩
  exact frag_translateOp hCond

theorem sound_filterPart
    {filters : Option Value}
    (hPart : part ∈ filterPart filters) :
    part.Sound := by
  unfold filterPart at hPart
  split at hPart
  · simp at hPart
  · split_ifs at hPart with hEmpty
    · simp at hPart
    · rw [List.mem_singleton] at hPart
      subst hPart
      exact Part.Sound.conjunction
        (fun part hMem => sound_conditions hMem)

/- The comparison operator of the cursor. -/
theorem glue_cursorOp
    (descending : Bool)
    (rest : String)
    (ts : List Token)
    (hLess : Glue (" <" ++ rest).toList (symbol "<" :: ts))
    (hMore : Glue (" >" ++ rest).toList (symbol ">" :: ts)) :
    Glue
      (" " ++ (if descending then "<" else ">") ++
        rest).toList
      (symbol (if descending then "<" else ">") :: ts) := by
  cases descending with
  | false => simpa using hMore
  | true => simpa using hLess

theorem sound_cursorPart
    (q : Select)
    (hCollection : isIdentifier q.collection = true)
    (hPart : part ∈ q.cursorPart) :
    part.Sound := by
  unfold cursorPart at hPart
  cases hStart : q.startAfter with
  | none => simp [hStart] at hPart
  | some cursor =>
    simp only [hStart, cursorParts] at hPart
    cases hExpr : sqlFieldExpr (q.orderBy.getD "id") with
    | none => simp [hExpr] at hPart
    | some expr =>
      simp only [hExpr] at hPart
      unfold Part.Sound
      by_cases hId : q.orderBy.getD "id" = "id"
      · simp only [hId, if_true, List.map_cons,
          List.map_nil, List.mem_singleton] at hPart
        subst hPart
        have hWord : Frag "id".toList [word "id"] True :=
          Frag.of_reads (reads_identifier (by decide))
            trivial
        have hGlue := glue_cursorOp q.descending " "
          [] ⟨rfl, fun _ => rfl⟩
          ⟨rfl, fun _ => rfl⟩
        have hAll := (hWord.glue hGlue
            (frag_quoted cursor)).congr_clean
            (q := AllPlain [cursor])
            (by simp [AllPlain])
        simpa [cursorTokens, hId] using hAll
      · simp only [hId, if_false, List.map_cons,
          List.map_nil, List.mem_singleton] at hPart
        subst hPart
        have hField := frag_sqlFieldExpr hExpr
        have hGlue := glue_cursorOp q.descending " (SELECT "
          [.sign '(', word "SELECT"]
          ⟨rfl, fun _ => rfl⟩ ⟨rfl, fun _ => rfl⟩
        have hFrom : Glue " FROM ".toList [word "FROM"] :=
          ⟨rfl, fun _ => rfl⟩
        have hWhere :
            Glue " WHERE id = ".toList
              [word "WHERE", word "id", symbol "="] :=
          ⟨rfl, fun _ => rfl⟩
        have hClose : Glue ")".toList [.sign ')'] :=
          ⟨rfl, fun _ => rfl⟩
        have hTable :=
          Frag.of_reads (reads_identifier hCollection)
            trivial
        have hAll := (hField.glue hGlue (hField.glue hFrom
              (hTable.glue hWhere
                ((frag_quoted cursor).trail
                  hClose)))).congr_clean
            (q := AllPlain [cursor])
            (by simp [AllPlain])
        simpa [cursorTokens, hId, word] using hAll

theorem cursorParts_eq (q : Select) :
    cursorParts q.collection q.orderBy q.descending
        q.startAfter =
      q.cursorPart.map Part.text := by
  unfold cursorPart
  cases q.startAfter with
  | none => rfl
  | some cursor => simp [Function.comp_def]

/- The ordering clause after a complete fragment. -/
theorem frag_orderClause
    (q : Select)
    {cs : List Char}
    {ts : List Token}
    {p : Prop}
    (hBase : Frag cs ts p) :
    Frag
      (cs ++ (orderClause q.orderBy q.descending).toList)
      (ts ++ q.orderTokens) p := by
  unfold orderClause orderTokens
  cases q.orderBy with
  | none => simpa using hBase
  | some field =>
    cases hExpr : sqlFieldExpr field with
    | none => simpa [hExpr] using hBase
    | some expr =>
      have hOrder :
          Glue " ORDER BY ".toList
            [word "ORDER", word "BY"] :=
        ⟨rfl, fun _ => rfl⟩
      have hDirection :
          Frag (" " ++ (if q.descending then "DESC"
              else "ASC")).toList
            [word (if q.descending then "DESC"
              else "ASC")] True := by
        have hBlank :
            LexState.run ⟨.start, []⟩ [' '] =
              ⟨.start, []⟩ := rfl
        cases q.descending with
        | false =>
          have hName : isIdentifier "ASC" = true := by
            decide
          exact Frag.lead hBlank
            (Frag.of_reads (reads_identifier hName) trivial)
        | true =>
          have hName : isIdentifier "DESC" = true := by
            decide
          exact Frag.lead hBlank
            (Frag.of_reads (reads_identifier hName) trivial)
      have hStop :
          ∀ rest, boundary
              ((" " ++ (if q.descending then "DESC"
                else "ASC")).toList ++ rest) = true := by
        intro rest
        cases q.descending <;> rfl
      have hAll := (hBase.glue hOrder
          ((frag_sqlFieldExpr hExpr).append hDirection
            hStop)).congr_clean (q := p) (by simp)
      simpa [hExpr] using hAll

/- A row count after a complete fragment. -/
theorem frag_countClause
    (keyword : String)
    (hKeyword :
      Glue (" " ++ keyword ++ " ").toList [word keyword])
    (n : Option Nat)
    {cs : List Char}
    {ts : List Token}
    {p : Prop}
    (hBase : Frag cs ts p) :
    Frag
      (cs ++ (countClause (" " ++ keyword ++ " ") n).toList)
      (ts ++ countTokens keyword n) p := by
  unfold countClause countTokens
  cases n with
  | none => simpa using hBase
  | some n =>
    have hAll := (hBase.glue hKeyword
        (Frag.of_reads (Reads.nat n) trivial)).congr_clean
        (q := p) (by simp)
    simpa using hAll

/-
  A statement over a valid collection means its intended
  tokens exactly when the strings it embeds are plain.
-/
theorem frag_statement
    (q : Select)
    (hCollection : isIdentifier q.collection = true) :
    Frag q.statement.toList q.tokens (AllPlain q.texts) := by
  have hHead :
      LexState.run ⟨.start, []⟩ "SELECT * FROM ".toList =
        ⟨.start, [word "SELECT", symbol "*",
          word "FROM"]⟩ := rfl
  have hFrom := Frag.lead hHead (Frag.of_reads (p := True)
        (reads_identifier hCollection) trivial)
  have hParts : ∀ part ∈ q.whereParts, part.Sound := by
    intro part hPart
    rcases List.mem_append.mp hPart with hFilter | hCursor
    · exact sound_filterPart hFilter
    · exact sound_cursorPart q hCollection hCursor
  have hTexts :
      filterParts q.filters ++
          cursorParts q.collection q.orderBy q.descending
            q.startAfter =
        q.whereParts.map Part.text := by
    rw [filterParts_eq, cursorParts_eq, whereParts,
      List.map_append]
  have hWhere :
      Frag
        (("SELECT * FROM ".toList ++ q.collection.toList) ++
          (if q.whereParts.isEmpty then ""
          else " WHERE " ++
            (Part.conjunction q.whereParts).text).toList)
        ([word "SELECT", symbol "*", word "FROM",
            word q.collection] ++
          (if q.whereParts.isEmpty then []
          else [word "WHERE"] ++
            (Part.conjunction q.whereParts).tokens))
        (AllPlain q.texts) := by
    by_cases hEmpty : q.whereParts.isEmpty = true
    · have hNone : AllPlain q.texts := by
        simp [AllPlain, texts, List.isEmpty_iff.mp hEmpty]
      have hAll := hFrom.congr_clean
        (q := AllPlain q.texts) (by simp [hNone])
      simpa [hEmpty, word] using hAll
    · have hGlue : Glue " WHERE ".toList [word "WHERE"] :=
        ⟨rfl, fun _ => rfl⟩
      have hAll := (hFrom.glue hGlue
          (Part.Sound.conjunction hParts)).congr_clean
          (q := AllPlain q.texts)
          (by simp [texts, Part.conjunction])
      simpa [hEmpty, word] using hAll
  have hAll := frag_countClause "OFFSET"
      ⟨rfl, fun _ => rfl⟩ q.offset
      (frag_countClause "LIMIT" ⟨rfl, fun _ => rfl⟩ q.limit
        (frag_orderClause q hWhere))
  have hText :
      q.statement.toList =
        ((("SELECT * FROM ".toList ++ q.collection.toList) ++
          (if q.whereParts.isEmpty then ""
          else " WHERE " ++
            (Part.conjunction q.whereParts).text).toList) ++
          (orderClause q.orderBy q.descending).toList) ++
          (countClause (" " ++ "LIMIT" ++ " ")
            q.limit).toList ++
          (countClause (" " ++ "OFFSET" ++ " ")
            q.offset).toList := by
    unfold statement buildSelectExt
    rw [hCollection, Bool.not_true,
      if_neg Bool.false_ne_true]
    simp [selectFields, hTexts, Part.conjunction]
  rw [hText]
  exact hAll

end Select

end Orignabase
