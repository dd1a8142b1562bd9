import Orignabase.Lib.FirstMatch
import Orignabase.Security.Validation

/-
  The order of the entries of a block of rules
  (`ob-security/src/evaluator.rs`).

  Key definitions include:
    * `RuleEngine.checkField`
    * `RuleEngine.filterFields`
    * `Reordered`
    * `OrSemantics`

  Main results:
    * `or_semantics_iff`
-/

--------
-- Rules for Fields
--------

namespace Orignabase.Security

variable (floats : Floats)

/- As `checkRules`, with the error of a field. -/
def checkFieldRules
    (field : String)
    (ctx : SecurityContext)
    (operation : String) :
    List SecurityRule → Except Error Bool
  | [] => .ok false
  | rule :: rules =>
    if rule.operations.contains operation &&
        evalExpr floats ctx rule.condition then
      match rule.validation with
      | none => .ok true
      | some validation =>
        if evalExpr floats ctx validation then .ok true
        else
          .error (.validation
            ("Field validation failed for " ++ field))
    else checkFieldRules field ctx operation rules

namespace RuleEngine

/- Fields without rules of their own are accessible. -/
def checkField
    (engine : RuleEngine)
    (collection field operation : String)
    (ctx : SecurityContext) : Except Error Bool :=
  match engine.rules (collection ++ "." ++ field) with
  | some ruleSet =>
    checkFieldRules floats field ctx operation ruleSet.rules
  | none => .ok true

/- The fields of a document that the caller may read. -/
def filterFields
    (engine : RuleEngine)
    (collection : String)
    (doc : Value)
    (ctx : SecurityContext) : Value :=
  match doc with
  | .object fields =>
    .object (fields.filter (fun field =>
      match engine.checkField floats collection field.1
          "read" ctx with
      | .ok true => true
      | _ => false))
  | doc => doc

end RuleEngine

--------
-- The Entry That Decides
--------

open FirstMatch

variable (floats : Floats) (ctx : SecurityContext)
variable (operation : String)

namespace SecurityRule

/- The entry lists the operation and its condition holds. -/
def fires (rule : SecurityRule) : Bool :=
  rule.operations.contains operation &&
    evalExpr floats ctx rule.condition

/- The entry has no validation that fails. -/
def passes (rule : SecurityRule) : Bool :=
  match rule.validation with
  | none => true
  | some validation => evalExpr floats ctx validation

/- The answer of an entry that decides. -/
def verdict
    (message : String)
    (rule : SecurityRule) : Except Error Bool :=
  if rule.passes floats ctx then .ok true
  else .error (.validation message)

theorem verdict_eq_true_iff
    (message : String)
    (rule : SecurityRule) :
    rule.verdict floats ctx message = .ok true ↔
      rule.passes floats ctx = true := by
  unfold verdict
  cases rule.passes floats ctx <;> simp

/- Two entries answer alike when both or none pass. -/
theorem verdict_eq_iff
    (message : String)
    (rule rule' : SecurityRule) :
    rule.verdict floats ctx message =
        rule'.verdict floats ctx message ↔
      rule.passes floats ctx = rule'.passes floats ctx := by
  unfold verdict
  cases rule.passes floats ctx <;>
    cases rule'.passes floats ctx <;> simp

end SecurityRule

theorem checkRules_eq_decision
    (rules : List SecurityRule) :
    checkRules floats ctx operation rules =
      decision (SecurityRule.fires floats ctx operation)
        (SecurityRule.verdict floats ctx
          "Validation rule failed") (.ok false) rules := by
  induction rules with
  | nil => rfl
  | cons rule rules ih =>
    unfold checkRules
    by_cases hFires :
        rule.fires floats ctx operation = true
    · rw [decision_cons_of_fires hFires]
      unfold SecurityRule.fires at hFires
      rw [if_pos hFires]
      unfold SecurityRule.verdict SecurityRule.passes
      cases rule.validation <;> rfl
    · rw [decision_cons_of_silent hFires, ← ih]
      unfold SecurityRule.fires at hFires
      rw [if_neg hFires]

theorem checkFieldRules_eq_decision
    (field : String)
    (rules : List SecurityRule) :
    checkFieldRules floats field ctx operation rules =
      decision (SecurityRule.fires floats ctx operation)
        (SecurityRule.verdict floats ctx
          ("Field validation failed for " ++ field))
        (.ok false) rules := by
  induction rules with
  | nil => rfl
  | cons rule rules ih =>
    unfold checkFieldRules
    by_cases hFires :
        rule.fires floats ctx operation = true
    · rw [decision_cons_of_fires hFires]
      unfold SecurityRule.fires at hFires
      rw [if_pos hFires]
      unfold SecurityRule.verdict SecurityRule.passes
      cases rule.validation <;> rfl
    · rw [decision_cons_of_silent hFires, ← ih]
      unfold SecurityRule.fires at hFires
      rw [if_neg hFires]

--------
-- Entries in Another Order
--------

variable (floats : Floats) (ctx : SecurityContext)
variable (operation : String)

/- The entries of every block, in any order. -/
def Reordered (engine engine' : RuleEngine) : Prop :=
  ∀ name, Option.Rel (fun a b => a.rules.Perm b.rules)
      (engine.rules name) (engine'.rules name)

/- The block that requests on a collection are checked by. -/
def RuleEngine.block
    (engine : RuleEngine)
    (collection : String) : Option RuleSet :=
  (engine.rules collection).or (engine.rules "*")

/- Some entry for the operation lets the request through. -/
def SomeAllows (rules : List SecurityRule) : Prop :=
  ∃ rule ∈ rules, rule.fires floats ctx operation = true ∧
      rule.passes floats ctx = true

/-
  No entry whose validation fails competes with one that
  lets the request through.
-/
def Undisputed (rules : List SecurityRule) : Prop :=
  ∀ rule ∈ rules, ∀ rule' ∈ rules,
    rule.fires floats ctx operation = true →
      rule'.fires floats ctx operation = true →
        rule.passes floats ctx = rule'.passes floats ctx

/-
  The order of the entries is irrelevant to an answer, which
  is positive exactly when some entry allows.
-/
structure OrSemantics
    (answer : RuleEngine → Except Error Bool)
    (engine : RuleEngine)
    (rules : List SecurityRule) : Prop where
  order :
    ∀ engine', Reordered engine engine' →
      answer engine' = answer engine
  allows :
    answer engine = .ok true ↔
      SomeAllows floats ctx operation rules

theorem unanimous_iff
    (message : String)
    (rules : List SecurityRule) :
    Unanimous (SecurityRule.fires floats ctx operation)
        (SecurityRule.verdict floats ctx message) rules ↔
      Undisputed floats ctx operation rules := by
  unfold Unanimous Undisputed
  simp only [SecurityRule.verdict_eq_iff]

theorem decision_eq_true_iff
    {message : String}
    {rules : List SecurityRule}
    (hUndisputed : Undisputed floats ctx operation rules) :
    decision (SecurityRule.fires floats ctx operation)
        (SecurityRule.verdict floats ctx message)
        (.ok false) rules = .ok true ↔
      SomeAllows floats ctx operation rules := by
  have hUnanimous :=
    (unanimous_iff floats ctx operation message rules).mpr
      hUndisputed
  constructor
  · intro hTrue
    by_cases hFires :
        ∃ r ∈ rules, r.fires floats ctx operation = true
    · rcases hFires with ⟨r, hMem, hFires⟩
      rw [decision_of_unanimous hUnanimous hMem hFires,
        SecurityRule.verdict_eq_true_iff] at hTrue
      exact ⟨r, hMem, hFires, hTrue⟩
    · rw [decision_of_silent fun r hMem hFires' =>
        hFires ⟨r, hMem, hFires'⟩] at hTrue
      cases hTrue
  · rintro ⟨r, hMem, hFires, hPasses⟩
    rw [decision_of_unanimous hUnanimous hMem hFires,
      SecurityRule.verdict_eq_true_iff]
    exact hPasses

variable {engine : RuleEngine} {name : String}
variable {ruleSet : RuleSet}

/- One block may be reordered alone. -/
theorem reordered_update
    {rules : List SecurityRule}
    (hBlock : engine.rules name = some ruleSet)
    (hPerm : ruleSet.rules.Perm rules) :
    Reordered engine ⟨Function.update engine.rules name
        (some { ruleSet with rules := rules })⟩ := by
  intro other
  by_cases hName : other = name
  · subst hName
    rw [hBlock]
    simp only [Function.update_self]
    exact Option.Rel.some hPerm
  · simp only [Function.update_of_ne hName]
    cases engine.rules other with
    | none => exact Option.Rel.none
    | some found => exact Option.Rel.some (List.Perm.refl _)

/-
  An answer that is the decision of one block, wherever the
  entries of the blocks stand.
-/
theorem orSemantics_iff
    (message : String)
    {answer : RuleEngine → Except Error Bool}
    (hBlock : engine.rules name = some ruleSet)
    (hAnswer :
      ∀ engine' ruleSet', Reordered engine engine' →
        engine'.rules name = some ruleSet' →
          answer engine' = decision
              (SecurityRule.fires floats ctx operation)
              (SecurityRule.verdict floats ctx message)
              (.ok false) ruleSet'.rules) :
    OrSemantics floats ctx operation answer engine
        ruleSet.rules ↔
      Undisputed floats ctx operation ruleSet.rules := by
  have hRefl : Reordered engine engine := by
    intro other
    cases engine.rules other with
    | none => exact Option.Rel.none
    | some found => exact Option.Rel.some (List.Perm.refl _)
  have hHere := hAnswer engine ruleSet hRefl hBlock
  constructor
  · intro hOr
    rw [← unanimous_iff floats ctx operation message]
    refine (decision_perm_iff (.ok false)).mp
      fun rules' hPerm => ?_
    have hReordered := reordered_update hBlock hPerm
    rw [← hHere, ← hOr.order _ hReordered]
    exact (hAnswer _ { ruleSet with rules := rules' }
      hReordered (by simp)).symm
  · intro hUndisputed
    have hUnanimous :=
      (unanimous_iff floats ctx operation message
        ruleSet.rules).mpr hUndisputed
    constructor
    · intro engine' hReordered
      have hRel := hReordered name
      rw [hBlock] at hRel
      cases hBlock' : engine'.rules name with
      | none =>
        rw [hBlock'] at hRel
        cases hRel
      | some ruleSet' =>
        rw [hBlock'] at hRel
        rw [hAnswer engine' ruleSet' hReordered hBlock',
          hHere]
        cases hRel with
        | some hPerm => exact hUnanimous.decision_perm hPerm
    · rw [hHere]
      exact decision_eq_true_iff floats ctx operation
        hUndisputed

/- The entries that requests on a collection are checked by. -/
def RuleEngine.blockRules
    (engine : RuleEngine)
    (collection : String) : List SecurityRule :=
  match engine.block collection with
  | none => []
  | some ruleSet => ruleSet.rules

theorem Reordered.eq_none
    {engine' : RuleEngine}
    (hReordered : Reordered engine engine')
    (hNone : engine.rules name = none) :
    engine'.rules name = none := by
  have hRel := hReordered name
  rw [hNone] at hRel
  cases hBlock : engine'.rules name with
  | none => rfl
  | some ruleSet =>
    rw [hBlock] at hRel
    cases hRel

theorem check_or_iff
    (engine : RuleEngine)
    (collection : String) :
    OrSemantics floats ctx operation
        (fun engine =>
          engine.check floats collection operation ctx)
        engine (engine.blockRules collection) ↔
      Undisputed floats ctx operation
        (engine.blockRules collection) := by
  unfold RuleEngine.blockRules RuleEngine.block
  cases hOwn : engine.rules collection with
  | some ruleSet =>
    refine orSemantics_iff floats ctx operation
      "Validation rule failed" hOwn ?_
    intro engine' ruleSet' _ hBlock
    rw [RuleEngine.check, hBlock]
    exact checkRules_eq_decision ..
  | none =>
    cases hStar : engine.rules "*" with
    | some ruleSet =>
      refine orSemantics_iff floats ctx operation
        "Validation rule failed" hStar ?_
      intro engine' ruleSet' hReordered hBlock
      rw [RuleEngine.check, hReordered.eq_none hOwn, hBlock]
      exact checkRules_eq_decision ..
    | none =>
      -- Without a block every request is denied.
      have hDenied :
          ∀ engine', Reordered engine engine' →
            engine'.check floats collection operation
              ctx = .ok false := by
        intro engine' hReordered
        rw [RuleEngine.check, hReordered.eq_none hOwn,
          hReordered.eq_none hStar]
        rfl
      have hHere :
          engine.check floats collection operation ctx =
            .ok false := by
        rw [RuleEngine.check, hOwn, hStar]
        rfl
      constructor
      · rintro - rule ⟨⟩
      · intro _
        constructor
        · intro engine' hReordered
          rw [hDenied engine' hReordered, hHere]
        · rw [hHere]
          constructor
          · rintro ⟨⟩
          · rintro ⟨rule, ⟨⟩, _⟩

theorem checkField_or_iff
    {collection field : String}
    (hRules :
      engine.rules (collection ++ "." ++ field) =
        some ruleSet) :
    OrSemantics floats ctx operation
        (fun engine =>
          engine.checkField floats collection field operation
            ctx)
        engine ruleSet.rules ↔
      Undisputed floats ctx operation ruleSet.rules := by
  refine orSemantics_iff floats ctx operation
    ("Field validation failed for " ++ field) hRules ?_
  intro engine' ruleSet' _ hBlock
  rw [RuleEngine.checkField, hBlock]
  exact checkFieldRules_eq_decision ..

/-
  A check follows the OR semantics exactly where no entry of
  the block whose validation fails competes with one that
  lets the request through.
-/
theorem or_semantics_iff
    (engine : RuleEngine)
    (collection : String) :
    (OrSemantics floats ctx operation (fun engine =>
            engine.check floats collection operation ctx)
          engine (engine.blockRules collection) ↔
        Undisputed floats ctx operation
          (engine.blockRules collection)) ∧
      ∀ field ruleSet,
        engine.rules (collection ++ "." ++ field) =
            some ruleSet →
          (OrSemantics floats ctx operation (fun engine =>
                engine.checkField floats collection field
                  operation ctx)
              engine ruleSet.rules ↔
            Undisputed floats ctx operation
              ruleSet.rules) :=
  ⟨check_or_iff floats ctx operation engine collection,
    fun _ _ hRules =>
      checkField_or_iff floats ctx operation hRules⟩

theorem blockRules_accessFirst :
    (RuleEngine.ofBlocks accessFirst).blockRules "products" =
      [.access ["create"]
          (.functionCall "isAuthenticated" []),
        draftEntry].map RuleEntry.rule := by
  unfold RuleEngine.blockRules RuleEngine.block
  rw [ofBlocks_rules, ofBlocks_rules]
  decide

/-
  A product that is no draft may be created by the entry that
  gives access.  With the validation in front it may not.
-/
theorem order_matters :
    Grammar.file accessFirstText = some accessFirst ∧
      ¬ OrSemantics .decimal
        (creating (some "u1") "live") "create"
        (fun engine =>
          engine.check .decimal "products" "create"
            (creating (some "u1") "live"))
        (RuleEngine.ofBlocks accessFirst)
        ((RuleEngine.ofBlocks accessFirst).blockRules
          "products") := by
  refine ⟨file_accessFirst, ?_⟩
  rw [check_or_iff, blockRules_accessFirst]
  intro hUndisputed
  have hSame := hUndisputed _ List.mem_cons_self _
    (List.mem_cons_of_mem _ List.mem_cons_self) rfl rfl
  have hHolds :=
    holds_draftEntry .decimal (some "u1") "live"
  have hFails :
      draftEntry.rule.passes .decimal
        (creating (some "u1") "live") = false := by
    rw [← show ("live" == "draft") = false by decide,
      ← hHolds]
    rfl
  rw [hFails] at hSame
  cases hSame

end Orignabase.Security
