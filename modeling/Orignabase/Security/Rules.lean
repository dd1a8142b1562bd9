import Orignabase.Core.Json
import Orignabase.Core.Validate
import Mathlib.Logic.Basic

/-
  Security rules and how a request is checked against them
  (`ob-security/src/parser.rs`, `ob-security/src/evaluator.rs`).

  Key definitions include:
    * `Expression`
    * `SecurityRule`, `RuleSet`
    * `SecurityContext`
    * `RuleEngine.evalExpr`
    * `RuleEngine.check`

  No path of the evaluator of conditions returns an error,
  so conditions are evaluated to `Bool`.
-/

--------
-- Conditions as Trees
--------

namespace Orignabase.Security

inductive CompOp
  | eq
  | neq
  | gt
  | gte
  | lt
  | lte
  deriving DecidableEq, Repr

/-
  A condition.  A number is kept as the text of its literal,
  which `Floats.literal` reads.
-/
inductive Expression
  | bool (b : Bool)
  | number (text : String)
  | stringLit (s : String)
  | path (p : String)
  | functionCall (name : String) (args : List Expression)
  | comparison (left : Expression) (op : CompOp)
      (right : Expression)
  | and (exprs : List Expression)
  | or (exprs : List Expression)
  | not (e : Expression)
  deriving Repr

--------
-- Equality of Conditions
--------

namespace Expression

mutual

/- Whether two conditions are written the same. -/
def same : Expression → Expression → Bool
  | .bool a, .bool b => a = b
  | .number a, .number b => a = b
  | .stringLit a, .stringLit b => a = b
  | .path a, .path b => a = b
  | .functionCall f as, .functionCall g bs =>
    f = g && sameAll as bs
  | .comparison a op b, .comparison c op' d =>
    op = op' && (a.same c && b.same d)
  | .and as, .and bs => sameAll as bs
  | .or as, .or bs => sameAll as bs
  | .not a, .not b => a.same b
  | _, _ => false

def sameAll : List Expression → List Expression → Bool
  | [], [] => true
  | a :: as, b :: bs => a.same b && sameAll as bs
  | _, _ => false

end

mutual

theorem same_refl : ∀ a : Expression, a.same a = true
  | .bool _ => by simp [same]
  | .number _ => by simp [same]
  | .stringLit _ => by simp [same]
  | .path _ => by simp [same]
  | .functionCall _ as => by simp [same, sameAll_refl as]
  | .comparison a _ b => by
      simp [same, same_refl a, same_refl b]
  | .and as => by simp [same, sameAll_refl as]
  | .or as => by simp [same, sameAll_refl as]
  | .not a => by simp [same, same_refl a]

theorem sameAll_refl :
    ∀ as : List Expression, sameAll as as = true
  | [] => rfl
  | a :: as => by
      simp [sameAll, same_refl a, sameAll_refl as]

end

mutual

theorem eq_of_same :
    ∀ a b : Expression, a.same b = true → a = b
  | .functionCall f as, .functionCall g bs, h => by
      simp only [same, Bool.and_eq_true, decide_eq_true_eq]
        at h
      rw [h.1, eq_of_sameAll as bs h.2]
  | .comparison a op b, .comparison c op' d, h => by
      simp only [same, Bool.and_eq_true, decide_eq_true_eq]
        at h
      rw [h.1, eq_of_same a c h.2.1, eq_of_same b d h.2.2]
  | .and as, .and bs, h => by
      rw [eq_of_sameAll as bs h]
  | .or as, .or bs, h => by
      rw [eq_of_sameAll as bs h]
  | .not a, .not b, h => by
      rw [eq_of_same a b h]
  | .bool a, b, h => by cases b <;> simp_all [same]
  | .number a, b, h => by cases b <;> simp_all [same]
  | .stringLit a, b, h => by cases b <;> simp_all [same]
  | .path a, b, h => by cases b <;> simp_all [same]

theorem eq_of_sameAll :
    ∀ as bs : List Expression,
      sameAll as bs = true → as = bs
  | [], [], _ => rfl
  | a :: as, b :: bs, h => by
      simp only [sameAll, Bool.and_eq_true] at h
      rw [eq_of_same a b h.1, eq_of_sameAll as bs h.2]

end

end Expression

instance : DecidableEq Expression := fun a b =>
  decidable_of_iff (a.same b = true)
    ⟨a.eq_of_same b, fun h => h ▸ a.same_refl⟩
--------
-- Rule Sets
--------

structure SecurityRule where
  operations : List String
  condition : Expression
  validation : Option Expression
  deriving DecidableEq, Repr

structure RuleSet where
  collection : String
  rules : List SecurityRule
  deriving DecidableEq, Repr

/- Who asks, and for what. -/
structure SecurityContext where
  userId : Option String
  roles : List String
  authenticated : Bool
  resource : Option Value
  incoming : Option Value
  deriving Repr

/- The rule sets by collection. -/
structure RuleEngine where
  rules : String → Option RuleSet

--------
-- Paths
--------

def splitDots (path : String) : List String :=
  (path.toList.splitOn '.').map String.ofList

def resolveJsonPathOption : Value → List String → Option Value
  | v, [] => some v
  | v, segment :: path =>
    match v.get segment with
    | some next => resolveJsonPathOption next path
    | none => none

/- A path that leads nowhere is null. -/
def resolveJsonPath (v : Value) (path : List String) :
    Value :=
  (resolveJsonPathOption v path).getD .null

def resolveContextField
    (value : Option Value)
    (field : String) : Option Value :=
  value.bind (fun v => resolveJsonPathOption v (splitDots field))

def resolvePath (path : String) (ctx : SecurityContext) :
    Value :=
  match splitDots path with
  | "resource" :: rest =>
    match ctx.resource with
    | some resource => resolveJsonPath resource rest
    | none => .null
  | "incoming" :: rest =>
    match ctx.incoming with
    | some incoming => resolveJsonPath incoming rest
    | none => .null
  | "auth" :: "uid" :: _ =>
    match ctx.userId with
    | some uid => .string uid
    | none => .null
  | _ => .null

--------
-- Evaluation
--------

variable (floats : Floats)

def isTruthy : Value → Bool
  | .null => false
  | .bool b => b
  | .number n => !floats.isZero n
  | .string s => s ≠ ""
  | .array items => !items.isEmpty
  | .object _ => true

/- An order is defined on numbers and on texts. -/
def compareOrder (op : CompOp) : Value → Value → Bool
  | .number l, .number r =>
    match op with
    | .gt => floats.lt r l
    | .gte => floats.le r l
    | .lt => floats.lt l r
    | .lte => floats.le l r
    | _ => false
  | .string l, .string r =>
    match op with
    | .gt => Text.lt r l
    | .gte => Text.le r l
    | .lt => Text.lt l r
    | .lte => Text.le l r
    | _ => false
  | _, _ => false

def compareValues (left : Value) (op : CompOp)
    (right : Value) : Bool :=
  match op with
  | .eq => left.eq floats right
  | .neq => !left.eq floats right
  | _ => compareOrder floats op left right

def stringArg : List Expression → Option String
  | .stringLit value :: _ => some value
  | _ => none

/- The functions a rule may call; any other denies. -/
def evalFunction
    (name : String)
    (args : List Expression)
    (ctx : SecurityContext) : Bool :=
  match name with
  | "isAuthenticated" => ctx.authenticated
  | "hasRole" =>
    match args with
    | .stringLit role :: _ => ctx.roles.contains role
    | _ => false
  | "isOwner" =>
    match args with
    | .path field :: _ =>
      match ctx.userId, resolvePath field ctx with
      | some uid, .string ownerId => uid == ownerId
      | _, _ => false
    | _ => false
  | "fieldEqualsAuth" =>
    match stringArg args, ctx.userId with
    | some field, some uid =>
      match resolveContextField ctx.incoming field with
      | some value => value.eq floats (.string uid)
      | none => false
    | _, _ => false
  | "fieldAbsentOrEqualsAuth" =>
    match stringArg args with
    | some field =>
      match resolveContextField ctx.incoming field with
      | some value =>
        match ctx.userId with
        | some uid => value.eq floats (.string uid)
        | none => false
      | none => true
    | none => false
  | "fieldUnchanged" =>
    match stringArg args with
    | some field =>
      match resolveContextField ctx.incoming field with
      | some value =>
        match resolveContextField ctx.resource field with
        | some stored => stored.eq floats value
        | none => false
      | none => true
    | none => false
  | _ => false

/- The value of an operand of a comparison. -/
def evalValue (expr : Expression) (ctx : SecurityContext) :
    Value :=
  match expr with
  | .bool b => .bool b
  | .number text =>
    match floats.literal text with
    | some n => .number n
    | none => .null
  | .stringLit s => .string s
  | .path p => resolvePath p ctx
  | _ => .null

mutual

def evalExpr (ctx : SecurityContext) : Expression → Bool
  | .bool b => b
  | .functionCall name args =>
    evalFunction floats name args ctx
  | .and exprs => evalAll ctx exprs
  | .or exprs => evalAny ctx exprs
  | .not e => !evalExpr ctx e
  | .comparison left op right =>
    compareValues floats (evalValue floats left ctx) op
      (evalValue floats right ctx)
  | .path p => isTruthy floats (resolvePath p ctx)
  -- A bare number or text is not a condition.
  | .number _ => false
  | .stringLit _ => false

def evalAll (ctx : SecurityContext) :
    List Expression → Bool
  | [] => true
  | e :: exprs => evalExpr ctx e && evalAll ctx exprs

def evalAny (ctx : SecurityContext) :
    List Expression → Bool
  | [] => false
  | e :: exprs => evalExpr ctx e || evalAny ctx exprs

end

--------
-- Checks
--------

variable (floats : Floats)

/-
  The first rule for the operation whose condition holds
  decides: its validation, if it has one, must hold too.
-/
def checkRules
    (ctx : SecurityContext)
    (operation : String) :
    List SecurityRule → Except Error Bool
  | [] => .ok false
  | rule :: rules =>
    if rule.operations.contains operation &&
        evalExpr floats ctx rule.condition then
      match rule.validation with
      | none => .ok true
      | some validation =>
        if evalExpr floats ctx validation then .ok true
        else .error (.validation "Validation rule failed")
    else checkRules ctx operation rules

namespace RuleEngine

/- Collections without rules have those of `*`. -/
def check
    (engine : RuleEngine)
    (collection operation : String)
    (ctx : SecurityContext) : Except Error Bool :=
  match (engine.rules collection).or (engine.rules "*") with
  | none => .ok false
  | some ruleSet =>
    checkRules floats ctx operation ruleSet.rules

end RuleEngine

end Orignabase.Security
