import Orignabase.Core.Json
import Orignabase.Core.Validate

/-
  The filter translator and SELECT builder
  (`ob-database/src/query.rs`).

  Key definitions include:
    * `QueryTranslator.translateOp`
    * `QueryTranslator.filtersToWhere`
    * `QueryTranslator.buildSelectExt`
-/

--------
-- Field Expressions
--------

namespace Orignabase

namespace QueryTranslator

def isProbablyNumericField (field : String) : Bool :=
  ["age", "price", "priceCents", "categoryId", "rating",
    "fraudScore", "avgResponseTimeHours", "avgShipDays",
    "positiveRatePct", "totalReviews"].contains field ||
    Text.endsWith field "Cents" ||
    Text.endsWith field "Count" ||
    Text.endsWith field "Quantity" ||
    Text.endsWith field "Pct" ||
    Text.endsWith field "Hours" ||
    Text.endsWith field "Days"

def isCreatedAt (field : String) : Bool :=
  field = "createdAt" || field = "created_at"

def isUpdatedAt (field : String) : Bool :=
  field = "updatedAt" || field = "updated_at"

/- The text value of a field, `none` for an invalid name. -/
def sqlFieldExpr (field : String) : Option String :=
  if !isIdentifier field then none
  else if field = "id" then some "id"
  else if isCreatedAt field then some "created_at"
  else if isUpdatedAt field then some "updated_at"
  else if isProbablyNumericField field then
    some ("NULLIF(data->>'" ++ field ++ "', '')::numeric")
  else some ("data->>'" ++ field ++ "'")

/- The JSON value of a field. -/
def sqlJsonValueExpr (field : String) : Option String :=
  if !isIdentifier field then none
  else if field = "id" then some "to_jsonb(id)"
  else if isCreatedAt field then
    some "to_jsonb(created_at)"
  else if isUpdatedAt field then
    some "to_jsonb(updated_at)"
  else some ("data->'" ++ field ++ "'")

/- The field cast to the type of the value compared with. -/
def sqlTypedFieldExpr (field : String) (value : Value) :
    Option String :=
  if !isIdentifier field then none
  else
    match value with
    | .number _ =>
      some (if isCreatedAt field then
          "EXTRACT(EPOCH FROM created_at)"
        else if isUpdatedAt field then
          "EXTRACT(EPOCH FROM updated_at)"
        else if field = "id" then "id"
        else
          "NULLIF(data->>'" ++ field ++ "', '')::numeric")
    | .bool _ =>
      some (if field = "id" then "id"
        else
          "NULLIF(data->>'" ++ field ++ "', '')::boolean")
    | _ => sqlFieldExpr field

--------
-- Conditions
--------

def formatSqlLiteral (value : Value) : String :=
  match value with
  | .string s => "'" ++ escapeSqlString s ++ "'"
  | .number n => n.toText
  | .bool b => if b then "true" else "false"
  | .null => "NULL"
  | _ => "'" ++ escapeSqlString value.toText ++ "'"

/- The operators whose condition is `field op literal`. -/
def translateComparison
    (field op : String)
    (value : Value) : Option String := do
  let fieldExpr ← sqlTypedFieldExpr field value
  let valStr := formatSqlLiteral value
  some (fieldExpr ++ " " ++ op ++ " " ++ valStr)

/- `_eq` and `_neq`, which test for `NULL` differently. -/
def translateEquality
    (field op nullTest : String)
    (value : Value) : Option String := do
  let fieldExpr ← sqlTypedFieldExpr field value
  let valStr := formatSqlLiteral value
  if value.isNull then
    some (fieldExpr ++ " " ++ nullTest)
  else some (fieldExpr ++ " " ++ op ++ " " ++ valStr)

def translateIn (field : String) (value : Value) :
    Option String := do
  let arr ← value.asArray
  let exprHint := arr.head?.getD .null
  let fieldExpr ← sqlTypedFieldExpr field exprHint
  let items := arr.map formatSqlLiteral
  some (fieldExpr ++ " IN (" ++ Text.join ", " items ++ ")")

def translateContains (field : String) (value : Value) :
    Option String := do
  let s ← value.asStr
  let escaped := escapeSqlString s
  let jsonExpr := (sqlJsonValueExpr field).getD
      ("data->'" ++ field ++ "'")
  let textExpr :=
    (sqlFieldExpr field).getD ("data->>'" ++ field ++ "'")
  some
    ("((jsonb_typeof(" ++ jsonExpr ++ ") = 'array' AND " ++
      jsonExpr ++ " ? '" ++ escaped ++ "') OR COALESCE(" ++
      textExpr ++ ", '') ILIKE '%" ++ escaped ++ "%')")

def translateStartsWith (field : String) (value : Value) :
    Option String := do
  let fieldExpr ← sqlFieldExpr field
  let s ← value.asStr
  some
    ("COALESCE(" ++ fieldExpr ++ ", '') ILIKE '" ++
      escapeSqlString s ++ "%'")

/- One operator of one field; unknown ones are dropped. -/
def translateOp (field op : String) (value : Value) :
    Option String :=
  if !isIdentifier field then none
  else
    match op with
    | "_eq" => translateEquality field "=" "IS NULL" value
    | "_neq" =>
      translateEquality field "!=" "IS NOT NULL" value
    | "_gt" => translateComparison field ">" value
    | "_gte" => translateComparison field ">=" value
    | "_lt" => translateComparison field "<" value
    | "_lte" => translateComparison field "<=" value
    | "_in" => translateIn field value
    | "_contains" => translateContains field value
    | "_starts_with" => translateStartsWith field value
    | _ => none

/- The operators of a filter in the order of iteration. -/
def filterOps (filters : Value) :
    List (String × String × Value) :=
  match filters.asObject with
  | none => []
  | some fields =>
    fields.flatMap (fun entry =>
      match entry.2.asObject with
      | none => []
      | some ops =>
        ops.map (fun o => (entry.1, o.1, o.2)))

def filtersToWhere (filters : Value) : String :=
  let conditions := (filterOps filters).filterMap
      (fun o => translateOp o.1 o.2.1 o.2.2)
  if conditions.isEmpty then ""
  else "WHERE " ++ Text.join " AND " conditions

--------
-- Statements
--------

/-
  The column list, or `none` when a requested field has a
  character outside `[A-Za-z0-9_]`.
-/
def selectFields (fields : Option (List String)) :
    Option String :=
  match fields with
  | none => some "*"
  | some [] => some "*"
  | some names =>
    if names.all (fun name =>
        name.toList.all
          (fun c => c.isAlphanum || c = '_')) then
      let fieldList := Text.join ", " names
      some (if names.contains "id" then fieldList
        else "id, " ++ fieldList)
    else none

/- The WHERE part contributed by the filters. -/
def filterParts (filters : Option Value) : List String :=
  match filters with
  | none => []
  | some f =>
    let whereClause := filtersToWhere f
    if whereClause = "" then []
    else
      [(Text.stripPrefix "WHERE " whereClause).getD
        whereClause]

/- The WHERE part contributed by the cursor. -/
def cursorParts
    (collection : String)
    (orderBy : Option String)
    (descending : Bool)
    (startAfter : Option String) : List String :=
  match startAfter with
  | none => []
  | some cursorId =>
    let safeCursor := escapeSqlString cursorId
    let orderField := orderBy.getD "id"
    match sqlFieldExpr orderField with
    | none => []
    | some orderExpr =>
      let op := if descending then "<" else ">"
      if orderField = "id" then
        ["id " ++ op ++ " '" ++ safeCursor ++ "'"]
      else
        [orderExpr ++ " " ++ op ++ " (SELECT " ++
          orderExpr ++ " FROM " ++ collection ++
          " WHERE id = '" ++ safeCursor ++ "')"]

def orderClause
    (orderBy : Option String)
    (descending : Bool) : String :=
  match orderBy with
  | none => ""
  | some field =>
    match sqlFieldExpr field with
    | none => ""
    | some orderExpr =>
      " ORDER BY " ++ orderExpr ++ " " ++
        (if descending then "DESC" else "ASC")

def countClause (keyword : String) (n : Option Nat) :
    String :=
  match n with
  | none => ""
  | some n => keyword ++ toString n

/-
  The full SELECT: filters and cursor share one WHERE, then
  ordering, limit and offset.
-/
def buildSelectExt
    (collection : String)
    (filters : Option Value)
    (orderBy : Option String)
    (descending : Bool)
    (limit offset : Option Nat)
    (fields : Option (List String))
    (startAfter : Option String) : String :=
  if !isIdentifier collection then
    "SELECT * FROM _invalid_collection WHERE false"
  else
    match selectFields fields with
    | none => "SELECT * FROM " ++ collection
    | some columns =>
      let whereParts := filterParts filters ++
          cursorParts collection orderBy descending
            startAfter
      "SELECT " ++ columns ++ " FROM " ++ collection ++
        (if whereParts.isEmpty then ""
        else " WHERE " ++ Text.join " AND " whereParts) ++
        orderClause orderBy descending ++
        countClause " LIMIT " limit ++
        countClause " OFFSET " offset

end QueryTranslator

end Orignabase
