import Orignabase.Core.Json

/-
  The merge of two documents in the database: the operator
  `||` of PostgreSQL on `jsonb`.

  Key definitions include:
    * `Value.insertField`
    * `Value.merge`
    * `Value.concat`

  Main results:
    * `Value.get_concat_object`
    * `Value.get_concat_other`
-/

namespace Orignabase

namespace Value

/- Put a field into an object, which is ordered by keys. -/
def insertField (key : String) (v : Value) :
    List (String × Value) → List (String × Value)
  | [] => [(key, v)]
  | (k, x) :: rest =>
    if k = key then (key, v) :: rest
    else if Text.lt key k then (key, v) :: (k, x) :: rest
    else (k, x) :: insertField key v rest

/- The fields of both, those of the second going first. -/
def merge (left right : List (String × Value)) :
    List (String × Value) :=
  right.foldr (fun field acc => insertField field.1 field.2 acc)
    left

/- A value that is not an array counts as an array of one. -/
def items : Value → List Value
  | .array values => values
  | v => [v]

/- `left || right`. -/
def concat (left right : Value) : Value :=
  match left, right with
  | .object l, .object r => .object (merge l r)
  | l, r => .array (l.items ++ r.items)

theorem lookup_field
    (j k : String)
    (x : Value)
    (rest : List (String × Value)) :
    List.lookup k ((j, x) :: rest) =
      if k = j then some x else rest.lookup k := by
  rw [List.lookup_cons]
  by_cases hKey : k = j
  · simp [hKey]
  · have hBeq : (k == j) = false := by simp [hKey]
    simp [hKey, hBeq]

theorem lookup_insertField
    (key k : String)
    (v : Value)
    (fields : List (String × Value)) :
    (insertField key v fields).lookup k =
      if k = key then some v else fields.lookup k := by
  induction fields with
  | nil => exact lookup_field key k v []
  | cons field rest ih =>
    rcases field with ⟨j, x⟩
    unfold insertField
    by_cases hSame : j = key
    · subst hSame
      rw [if_pos rfl, lookup_field, lookup_field]
      split <;> rfl
    · by_cases hLt : Text.lt key j = true
      · rw [if_neg hSame, if_pos hLt, lookup_field]
      · rw [if_neg hSame, if_neg hLt, lookup_field, ih,
          lookup_field]
        by_cases hKey : k = key
        · have hOther : k ≠ j := fun h =>
            hSame (h.symm.trans hKey)
          rw [if_neg hOther, if_pos hKey, if_pos hKey]
        · rw [if_neg hKey, if_neg hKey]

theorem lookup_merge
    (left right : List (String × Value))
    (k : String) :
    (merge left right).lookup k =
      (right.lookup k).or (left.lookup k) := by
  induction right with
  | nil => rfl
  | cons field right ih =>
    rcases field with ⟨j, x⟩
    change (insertField j x (merge left right)).lookup k = _
    rw [lookup_insertField, ih, lookup_field]
    by_cases hKey : k = j <;> simp [hKey]

theorem get_concat_object
    (left right : List (String × Value))
    (k : String) :
    ((Value.object left).concat (.object right)).get k =
      ((Value.object right).get k).or
        ((Value.object left).get k) :=
  lookup_merge left right k

/- Only two objects give an object. -/
theorem get_concat_other
    {left right : Value}
    (hOther : left.asObject = none ∨ right.asObject = none)
    (k : String) :
    (left.concat right).get k = none := by
  cases left <;> cases right <;>
    simp_all [concat, get, asObject]

end Value

end Orignabase
