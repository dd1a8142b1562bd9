import Orignabase.Database.Jsonb
import Orignabase.Security.Rules
import Mathlib.Tactic.Cases

/-
  The function `fieldUnchanged` of the rules and the merge of
  the patch that it looks at
  (`ob-security/src/evaluator.rs`,
  `ob-database/src/pg_store.rs`).

  Key definitions include:
    * `atField`
    * `SameAt`
    * `Displaced`

  Main results:
    * `unchanged_iff`
-/

--------
-- Fields of a Merged Document
--------

namespace Orignabase.Security

/- The value at a path of fields, written with dots. -/
def atField (v : Value) (field : String) : Option Value :=
  resolveContextField (some v) field

/- The field of the document itself that a path enters. -/
def firstSegment (field : String) : String :=
  (splitDots field).headD ""

theorem splitDots_eq (field : String) :
    splitDots field =
      firstSegment field :: (splitDots field).tail := by
  have hNonempty : splitDots field ≠ [] := by
    unfold splitDots
    simp [List.splitOn_ne_nil]
  unfold firstSegment
  cases hSplit : splitDots field with
  | nil => exact absurd hSplit hNonempty
  | cons first rest => rfl

/- A path is followed from its first segment on. -/
theorem atField_eq (v : Value) (field : String) :
    atField v field =
      (v.get (firstSegment field)).bind (fun next =>
        resolveJsonPathOption next
          (splitDots field).tail) := by
  change resolveJsonPathOption v (splitDots field) = _
  rw [splitDots_eq, List.tail_cons, resolveJsonPathOption]
  cases v.get (firstSegment field) <;> rfl

variable {fields : List (String × Value)} {patch : Value}
variable {field : String}

/- A patch without the first segment leaves the field. -/
theorem atField_concat_of_absent
    (hObject : patch.asObject ≠ none)
    (hAbsent : patch.get (firstSegment field) = none) :
    atField ((Value.object fields).concat patch) field =
      atField (.object fields) field := by
  cases patch with
  | object new =>
    rw [atField_eq, atField_eq, Value.get_concat_object,
      hAbsent, Option.none_or]
  | null => exact absurd rfl hObject
  | bool b => exact absurd rfl hObject
  | number n => exact absurd rfl hObject
  | string s => exact absurd rfl hObject
  | array items => exact absurd rfl hObject

/- A patch with the first segment puts its own value there. -/
theorem atField_concat_of_present
    {x : Value}
    (hPresent : patch.get (firstSegment field) = some x) :
    atField ((Value.object fields).concat patch) field =
      atField patch field := by
  cases patch with
  | object new =>
    rw [atField_eq, atField_eq, Value.get_concat_object,
      hPresent, Option.some_or]
  | null => cases hPresent
  | bool b => cases hPresent
  | number n => cases hPresent
  | string s => cases hPresent
  | array items => cases hPresent

/- A patch that is no object leaves no field at all. -/
theorem atField_concat_of_other
    (hOther : patch.asObject = none) :
    atField ((Value.object fields).concat patch) field =
      none := by
  rw [atField_eq, Value.get_concat_other (Or.inr hOther)]
  rfl

/- Where the patch has the field, the merge takes it. -/
theorem atField_concat_of_some
    {x : Value}
    (hField : atField patch field = some x) :
    atField ((Value.object fields).concat patch) field =
      some x := by
  rw [atField_eq] at hField
  cases hPresent : patch.get (firstSegment field) with
  | none =>
    rw [hPresent] at hField
    cases hField
  | some next =>
    rw [atField_concat_of_present hPresent, atField_eq]
    exact hField

--------
-- Unchanged Fields
--------

variable (floats : Floats)

/- Both are absent, or both are there and equal. -/
def SameAt (x y : Option Value) : Prop :=
  x = y ∨ ∃ v w, x = some v ∧ y = some w ∧ w.eq floats v = true

/- The request to put a patch over a stored document. -/
def SecurityContext.patching
    (ctx : SecurityContext)
    (stored patch : Value) : SecurityContext :=
  { ctx with resource := some stored, incoming := some patch }

/-
  The stored field is not in the patch, and yet the merge
  does not keep it: the patch replaces what the field is a
  part of, or the whole document.
-/
def Displaced
    (stored patch : Value)
    (field : String) : Prop :=
  atField patch field = none ∧ atField stored field ≠ none ∧
    (patch.asObject = none ∨
      patch.get (firstSegment field) ≠ none)

theorem evalFunction_fieldUnchanged
    (ctx : SecurityContext)
    (stored patch : Value)
    (field : String) :
    evalFunction floats "fieldUnchanged" [.stringLit field]
        (ctx.patching stored patch) = true ↔
      ∀ v, atField patch field = some v →
        ∃ w, atField stored field = some w ∧
          w.eq floats v = true := by
  have hIncoming :
      resolveContextField (ctx.patching stored patch).incoming
        field = atField patch field := rfl
  have hResource :
      resolveContextField (ctx.patching stored patch).resource
        field = atField stored field := rfl
  rw [evalFunction, stringArg]
  simp only [hIncoming, hResource]
  cases atField patch field <;>
    cases atField stored field <;> simp

/-
  A field that the rules call unchanged is the same after
  the merge, unless the patch displaces it.
-/
theorem unchanged_iff
    (ctx : SecurityContext)
    (fields : List (String × Value))
    (patch : Value)
    (field : String) :
    (evalFunction floats "fieldUnchanged" [.stringLit field]
          (ctx.patching (.object fields) patch) = true →
        SameAt floats
          (atField ((Value.object fields).concat patch) field)
          (atField (.object fields) field)) ↔
      ¬ Displaced (.object fields) patch field := by
  rw [evalFunction_fieldUnchanged]
  cases hPatch : atField patch field with
  | some v =>
    constructor
    · rintro - ⟨hNone, -⟩
      rw [hPatch] at hNone
      cases hNone
    · rintro - hUnchanged
      rcases hUnchanged v rfl with ⟨w, hStored, hEqual⟩
      rw [atField_concat_of_some hPatch, hStored]
      exact Or.inr ⟨v, w, rfl, rfl, hEqual⟩
  | none =>
    have hUnchanged :
        ∀ v, (none : Option Value) = some v →
          ∃ w, atField (.object fields) field = some w ∧
            w.eq floats v = true := by
      rintro v ⟨⟩
    by_cases hKept :
        patch.asObject ≠ none ∧
          patch.get (firstSegment field) = none
    · -- The merge leaves the first segment alone.
      rw [atField_concat_of_absent hKept.1 hKept.2]
      constructor
      · rintro - ⟨-, -, hOther | hPresent⟩
        · exact hKept.1 hOther
        · exact hPresent hKept.2
      · exact fun _ _ => Or.inl rfl
    · -- After the merge the field is not there.
      have hReplaced :
          patch.asObject = none ∨
            patch.get (firstSegment field) ≠ none := by
        tauto
      have hGone :
          atField ((Value.object fields).concat patch)
            field = none := by
        rcases hReplaced with hOther | hPresent
        · exact atField_concat_of_other hOther
        · rcases Option.ne_none_iff_exists'.mp hPresent with
            ⟨x, hPresent⟩
          rw [atField_concat_of_present hPresent, hPatch]
      rw [hGone]
      constructor
      · rintro hSame ⟨-, hStored, -⟩
        rcases hSame hUnchanged with hNone | hBoth
        · exact hStored hNone.symm
        · rcases hBoth with ⟨_, _, ⟨⟩, _⟩
      · intro hKeeps _
        left
        by_contra hStored
        exact hKeeps
          ⟨hPatch, fun h => hStored h.symm, hReplaced⟩

/- A product that belongs to a seller. -/
def owned : List (String × Value) :=
  [("seller", .object [("id", .string "u1")])]

/- A patch that puts a seller without an id in its place. -/
def sellerPatch : Value :=
  .object [("seller", .object [("name", .string "Ann")])]

theorem fields_owned :
    atField sellerPatch "seller.id" = none ∧
      atField (.object owned) "seller.id" =
        some (.string "u1") ∧
      atField ((Value.object owned).concat sellerPatch)
        "seller.id" = none := by
  decide

def someone : SecurityContext where
  userId := some "u1"
  roles := []
  authenticated := true
  resource := none
  incoming := none

/- The rules call the id unchanged, and the merge drops it. -/
theorem seller_dropped :
    evalFunction .decimal "fieldUnchanged"
        [.stringLit "seller.id"]
        (someone.patching (.object owned) sellerPatch) =
          true ∧
      ¬ SameAt .decimal
        (atField ((Value.object owned).concat sellerPatch)
          "seller.id")
        (atField (.object owned) "seller.id") := by
  rw [evalFunction_fieldUnchanged, fields_owned.1,
    fields_owned.2.1, fields_owned.2.2]
  constructor
  · intro v hSome
    cases hSome
  · rintro (hSame | ⟨v, w, hSome, -⟩)
    · cases hSame
    · cases hSome

end Orignabase.Security
