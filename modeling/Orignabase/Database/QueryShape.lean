import Orignabase.Database.QuerySafety
import Mathlib.Data.List.Forall2

/-
  The token sequence of a SELECT outside its literals depends
  only on the shape of the query.

  Key definitions include:
    * `Value.shape`
    * `skeleton`
    * `Select.shape`
    * `Select.InjectionFree`

  Main results:
    * `Select.skeleton_tokens_shape`
    * `Select.injectionFree_iff`
-/

--------
-- Independence Of The Caller's Strings
--------

namespace Orignabase

namespace Value

mutual

/- The value with every string in it blanked. -/
def shape : Value → Value
  | .string _ => .string ""
  | .array items => .array (shapeItems items)
  | .object fields => .object (shapeFields fields)
  | v => v

def shapeItems : List Value → List Value
  | [] => []
  | v :: rest => v.shape :: shapeItems rest

def shapeFields :
    List (String × Value) → List (String × Value)
  | [] => []
  | (key, v) :: rest => (key, v.shape) :: shapeFields rest

end

theorem shapeItems_eq (items : List Value) :
    shapeItems items = items.map shape := by
  induction items with
  | nil => rfl
  | cons v rest ih => simp [shapeItems, ih]

theorem shapeFields_eq (fields : List (String × Value)) :
    shapeFields fields =
      fields.map (fun entry => (entry.1, entry.2.shape)) := by
  induction fields with
  | nil => rfl
  | cons entry rest ih =>
    rcases entry with ⟨key, v⟩
    simp [shapeFields, ih]

end Value

/- A literal loses its value. -/
def hole : Sql.Token → Sql.Token
  | .str _ => .str []
  | t => t

/- The tokens outside literals, a literal being a hole. -/
def skeleton (ts : List Sql.Token) : List Sql.Token :=
  ts.map hole

@[simp] theorem hole_str (s : List Char) :
    hole (.str s) = .str [] := rfl

@[simp] theorem skeleton_nil : skeleton [] = [] := rfl

@[simp] theorem skeleton_cons
    (t : Sql.Token)
    (ts : List Sql.Token) :
    skeleton (t :: ts) = hole t :: skeleton ts := rfl

@[simp] theorem skeleton_append (ts us : List Sql.Token) :
    skeleton (ts ++ us) = skeleton ts ++ skeleton us := by
  simp [skeleton]

namespace QueryTranslator

open Sql

theorem skeleton_joinTokens
    (sep : List Token)
    (parts : List (List Token)) :
    skeleton (joinTokens sep parts) =
      joinTokens (skeleton sep) (parts.map skeleton) := by
  induction parts with
  | nil => rfl
  | cons ts rest ih =>
    cases rest with
    | nil => rfl
    | cons us rest =>
      simp only [List.map_cons] at ih
      simp [joinTokens, ih]

theorem isNull_shape (value : Value) :
    value.shape.isNull = value.isNull := by
  cases value <;> rfl

theorem sqlTypedFieldExpr_shape
    (field : String)
    (value : Value) :
    sqlTypedFieldExpr field value.shape =
      sqlTypedFieldExpr field value := by
  cases value <;> rfl

theorem typedTokens_shape
    (field : String)
    (value : Value) :
    typedTokens field value.shape =
      typedTokens field value := by
  cases value <;> rfl

theorem skeleton_literalTokens_shape (value : Value) :
    skeleton (literalTokens value.shape) =
      skeleton (literalTokens value) := by
  cases value <;> rfl

theorem head_shape (items : List Value) :
    (items.map Value.shape).head?.getD .null =
      (items.head?.getD .null).shape := by
  cases items <;> rfl

theorem asArray_shape (value : Value) :
    value.shape.asArray = value.asArray.map (fun items =>
        items.map Value.shape) := by
  cases value with
  | array items =>
    simp [Value.shape, Value.asArray, Value.shapeItems_eq]
  | _ => rfl

theorem asStr_shape (value : Value) :
    value.shape.asStr = value.asStr.map (fun _ => "") := by
  cases value <;> rfl

/- Whether a condition is kept depends on the shape. -/
theorem translateComparison_shape_isSome
    (field op : String)
    (value : Value) :
    (translateComparison field op value.shape).isSome =
      (translateComparison field op value).isSome := by
  unfold translateComparison
  rw [sqlTypedFieldExpr_shape]
  cases sqlTypedFieldExpr field value <;> simp

theorem translateEquality_shape_isSome
    (field op nullTest : String)
    (value : Value) :
    (translateEquality field op nullTest
        value.shape).isSome =
      (translateEquality field op nullTest
        value).isSome := by
  unfold translateEquality
  rw [sqlTypedFieldExpr_shape, isNull_shape]
  cases sqlTypedFieldExpr field value with
  | none => simp
  | some expr => cases value.isNull <;> simp

theorem translateIn_shape_isSome
    (field : String)
    (value : Value) :
    (translateIn field value.shape).isSome =
      (translateIn field value).isSome := by
  unfold translateIn
  rw [asArray_shape]
  cases value.asArray with
  | none => rfl
  | some items =>
    simp only [Option.map_some, Option.bind_eq_bind,
      Option.bind_some]
    rw [head_shape, sqlTypedFieldExpr_shape]
    cases sqlTypedFieldExpr field
      (items.head?.getD .null) <;> simp

theorem translateContains_shape_isSome
    (field : String)
    (value : Value) :
    (translateContains field value.shape).isSome =
      (translateContains field value).isSome := by
  unfold translateContains
  rw [asStr_shape]
  cases value.asStr <;> simp

theorem translateStartsWith_shape_isSome
    (field : String)
    (value : Value) :
    (translateStartsWith field value.shape).isSome =
      (translateStartsWith field value).isSome := by
  unfold translateStartsWith
  rw [asStr_shape]
  cases sqlFieldExpr field with
  | none => simp
  | some expr => cases value.asStr <;> simp

theorem translateOp_shape_isSome
    (field op : String)
    (value : Value) :
    (translateOp field op value.shape).isSome =
      (translateOp field op value).isSome := by
  unfold translateOp
  cases isIdentifier field with
  | false => rfl
  | true =>
    simp only [Bool.not_true, Bool.false_eq_true, if_false]
    split
    · exact translateEquality_shape_isSome ..
    · exact translateEquality_shape_isSome ..
    · exact translateComparison_shape_isSome ..
    · exact translateComparison_shape_isSome ..
    · exact translateComparison_shape_isSome ..
    · exact translateComparison_shape_isSome ..
    · exact translateIn_shape_isSome ..
    · exact translateContains_shape_isSome ..
    · exact translateStartsWith_shape_isSome ..
    · rfl

theorem skeleton_comparison_shape
    (field op : String)
    (value : Value) :
    skeleton
        (typedTokens field value.shape ++
          ([symbol op] ++ literalTokens value.shape)) =
      skeleton
        (typedTokens field value ++
          ([symbol op] ++ literalTokens value)) := by
  simp only [skeleton_append, typedTokens_shape,
    skeleton_literalTokens_shape]

theorem skeleton_containsTokens (field s t : String) :
    skeleton (containsTokens field s) =
      skeleton (containsTokens field t) := by
  simp [containsTokens]

theorem skeleton_startsWithTokens (field s t : String) :
    skeleton (startsWithTokens field s) =
      skeleton (startsWithTokens field t) := by
  simp [startsWithTokens]

theorem skeleton_inTokens_shape
    (field : String)
    (items : List Value) :
    skeleton
        (typedTokens field
            ((items.map Value.shape).head?.getD .null) ++
          ([word "IN", .sign '('] ++ (joinTokens [.sign ',']
                ((items.map Value.shape).map
                  literalTokens) ++ [.sign ')']))) =
      skeleton
        (typedTokens field (items.head?.getD .null) ++
          ([word "IN", .sign '('] ++ (joinTokens [.sign ',']
                (items.map literalTokens) ++
              [.sign ')']))) := by
  rw [head_shape]
  simp only [skeleton_append, typedTokens_shape,
    skeleton_joinTokens, List.map_map]
  congr 3
  refine congrArg _ (List.map_congr_left ?_)
  intro v _
  exact skeleton_literalTokens_shape v

/- The holes apart, a condition depends on the shape. -/
theorem skeleton_conditionTokens_shape
    (field op : String)
    (value : Value) :
    skeleton (conditionTokens field op value.shape) =
      skeleton (conditionTokens field op value) := by
  unfold conditionTokens
  split
  · rw [isNull_shape]
    split_ifs
    · rw [typedTokens_shape]
    · exact skeleton_comparison_shape ..
  · rw [isNull_shape]
    split_ifs
    · rw [typedTokens_shape]
    · exact skeleton_comparison_shape ..
  · exact skeleton_comparison_shape ..
  · exact skeleton_comparison_shape ..
  · exact skeleton_comparison_shape ..
  · exact skeleton_comparison_shape ..
  · rw [asArray_shape]
    cases value.asArray with
    | none => rfl
    | some items => exact skeleton_inTokens_shape field items
  · exact skeleton_containsTokens ..
  · exact skeleton_startsWithTokens ..
  · rfl

theorem filterOps_shape (filters : Value) :
    filterOps filters.shape =
      (filterOps filters).map
        (fun o => (o.1, o.2.1, o.2.2.shape)) := by
  cases filters with
  | object fields =>
    simp only [Value.shape, filterOps, Value.asObject,
      Value.shapeFields_eq, List.flatMap_map,
      List.map_flatMap]
    congr 1
    funext entry
    rcases entry with ⟨key, v⟩
    cases v with
    | object ops =>
      simp [Value.shape, Value.shapeFields_eq]
    | _ => rfl
  | _ => rfl

end QueryTranslator

open Sql QueryTranslator

namespace Part

/- Two parts with the same tokens outside their literals. -/
def Alike (a b : Part) : Prop :=
  skeleton a.tokens = skeleton b.tokens

theorem Alike.conjunction
    {parts parts' : List Part}
    (hParts : List.Forall₂ Part.Alike parts parts') :
    (Part.conjunction parts).Alike
      (Part.conjunction parts') := by
  have hMap :
      (parts.map Part.tokens).map skeleton =
        (parts'.map Part.tokens).map skeleton := by
    induction hParts with
    | nil => rfl
    | cons hHead _ ih =>
      simp only [List.map_cons, ih]
      rw [hHead]
  unfold Part.Alike Part.conjunction
  simp only [skeleton_joinTokens, hMap]

end Part

namespace Select

/- The query with every caller string blanked. -/
def shape (q : Select) : Select :=
  { q with
    filters := q.filters.map Value.shape
    startAfter := q.startAfter.map (fun _ => "") }

/- One condition and its blanked form are kept alike. -/
theorem conditions_shape (f : Value) :
    List.Forall₂ Part.Alike (conditions f.shape)
      (conditions f) := by
  unfold conditions
  rw [filterOps_shape]
  induction filterOps f with
  | nil => exact List.Forall₂.nil
  | cons o rest ih =>
    have hKept := translateOp_shape_isSome o.1 o.2.1 o.2.2
    have hAlike :=
      skeleton_conditionTokens_shape o.1 o.2.1 o.2.2
    cases hLeft :
        translateOp o.1 o.2.1 o.2.2.shape with
    | none =>
      rw [hLeft] at hKept
      have hRight :
          translateOp o.1 o.2.1 o.2.2 = none := by
        simpa using hKept.symm
      simpa [hLeft, hRight] using ih
    | some c =>
      rw [hLeft] at hKept
      rcases Option.isSome_iff_exists.mp hKept.symm with
        ⟨d, hRight⟩
      simp only [List.map_cons, List.filterMap_cons,
        hLeft, hRight, Option.map_some]
      exact List.Forall₂.cons hAlike ih

theorem filterPart_shape (filters : Option Value) :
    List.Forall₂ Part.Alike
      (filterPart (filters.map Value.shape))
      (filterPart filters) := by
  cases filters with
  | none => exact List.Forall₂.nil
  | some f =>
    have hConds := conditions_shape f
    have hEmpty :
        (conditions f.shape).isEmpty =
          (conditions f).isEmpty := by
      have hLength := hConds.length_eq
      rw [Bool.eq_iff_iff, List.isEmpty_iff_length_eq_zero,
        List.isEmpty_iff_length_eq_zero, hLength]
    simp only [Option.map_some, filterPart, hEmpty]
    split_ifs
    · exact List.Forall₂.nil
    · exact List.Forall₂.cons
        (Part.Alike.conjunction hConds) List.Forall₂.nil

theorem cursorPart_shape (q : Select) :
    List.Forall₂ Part.Alike q.shape.cursorPart
      q.cursorPart := by
  unfold cursorPart
  cases hStart : q.startAfter with
  | none => simp [shape, hStart]
  | some cursor =>
    have hTokens :
        skeleton (q.shape.cursorTokens "") =
          skeleton (q.cursorTokens cursor) := by
      have hBlank :
          ∀ c, q.shape.cursorTokens c =
            q.cursorTokens c := fun _ => rfl
      rw [hBlank]
      unfold cursorTokens
      by_cases hId : q.orderBy.getD "id" = "id"
      · simp [hId]
      · simp [hId]
    have hStart' : q.shape.startAfter = some "" := by
      simp [shape, hStart]
    have hOrder : q.shape.orderBy = q.orderBy := rfl
    simp only [hStart', hOrder, cursorParts]
    cases sqlFieldExpr (q.orderBy.getD "id") with
    | none => exact List.Forall₂.nil
    | some expr =>
      by_cases hId : q.orderBy.getD "id" = "id"
      · simp [hId, Part.Alike, hTokens]
      · simp [hId, Part.Alike, hTokens]

theorem skeleton_tokens_shape (q : Select) :
    skeleton q.shape.tokens = skeleton q.tokens := by
  have hParts :
      List.Forall₂ Part.Alike q.shape.whereParts
        q.whereParts :=
    List.rel_append (filterPart_shape q.filters)
      q.cursorPart_shape
  have hEmpty :
      q.shape.whereParts.isEmpty =
        q.whereParts.isEmpty := by
    have hLength := hParts.length_eq
    rw [Bool.eq_iff_iff, List.isEmpty_iff_length_eq_zero,
      List.isEmpty_iff_length_eq_zero, hLength]
  have hAlike := Part.Alike.conjunction hParts
  unfold Part.Alike at hAlike
  unfold tokens
  simp only [skeleton_append, hEmpty, apply_ite skeleton,
    hAlike]
  rfl

/-
  The statement is tokenised with every caller string as the
  value of one literal, and its other tokens are those of the
  same query with blank strings.
-/
structure InjectionFree (q : Select) : Prop where
  lex_eq : lex q.statement = some q.tokens
  skeleton_eq :
    (lex q.statement).map skeleton =
      some (skeleton q.shape.tokens)

/-
  No injection, exactly when the embedded strings have
  neither a quote nor a backslash.
-/
theorem injectionFree_iff
    (q : Select)
    (hCollection : isIdentifier q.collection = true) :
    q.InjectionFree ↔ AllPlain q.texts := by
  have hLex := (q.frag_statement hCollection).lexFrom_eq_iff
  constructor
  · intro hFree
    exact hLex.mp hFree.lex_eq
  · intro hPlain
    have hTokens : lex q.statement = some q.tokens :=
      hLex.mpr hPlain
    refine ⟨hTokens, ?_⟩
    rw [hTokens, Option.map_some, skeleton_tokens_shape]

/- A query whose name filter is one caller string. -/
def byName (name : String) : Select where
  collection := "users"
  filters := some (.object
      [("name", .object [("_eq", .string name)])])

theorem injectionFree_byName_alice :
    isIdentifier "users" = true ∧
      (byName "alice").InjectionFree := by
  have hUsers : isIdentifier "users" = true := by decide
  exact ⟨hUsers,
    (injectionFree_iff (byName "alice") hUsers).mpr
      (by decide)⟩

/-
  A quote ends the literal early: the rest of the caller's
  text is read as SQL.
-/
theorem not_injectionFree_byName_quote :
    isIdentifier (byName "' OR 1=1 --").collection = true ∧
      lex (byName "' OR 1=1 --").statement =
        some
          [word "SELECT", symbol "*", word "FROM",
            word "users", word "WHERE", word "data",
            symbol "->>", .str "name".toList, symbol "=",
            .str ['\\'], word "OR", .number ['1'],
            symbol "=", .number ['1']] ∧
      ¬ (byName "' OR 1=1 --").InjectionFree := by
  have hLex :
      lex (byName "' OR 1=1 --").statement =
        some
          [word "SELECT", symbol "*", word "FROM",
            word "users", word "WHERE", word "data",
            symbol "->>", .str "name".toList, symbol "=",
            .str ['\\'], word "OR", .number ['1'],
            symbol "=", .number ['1']] := by
    decide +kernel
  refine ⟨by decide, hLex, ?_⟩
  intro hFree
  have hTokens := hFree.lex_eq
  rw [hLex] at hTokens
  exact absurd hTokens (by decide +kernel)

end Select

end Orignabase
