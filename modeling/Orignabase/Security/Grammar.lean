import Orignabase.Lib.Peg
import Orignabase.Security.Rules
import Mathlib.Logic.Function.Basic

/-
  The text of the rules: the grammar of
  `ob-security/src/rules.pest` and the rule sets that
  `ob-security/src/parser.rs` builds from its parse tree.

  Key definitions include:
    * `RuleEntry`, `RuleBlock`
    * `Grammar.file`
    * `parseRuleBlock`
    * `parseRules`

  Between the parts of a rule white space and comments are
  skipped.  The nesting of expressions is bounded by the
  length of the text, since each level takes a character.
-/

--------
-- Parse Trees
--------

namespace Orignabase.Security

/- An entry gives access, or validates what is written. -/
inductive RuleEntry
  | access (operations : List String)
      (condition : Expression)
  | validate (operations : List String)
      (validation : Expression)
  deriving DecidableEq, Repr

structure RuleBlock where
  collection : String
  entries : List RuleEntry
  deriving DecidableEq, Repr

end Orignabase.Security

--------
-- Tokens
--------

namespace Orignabase.Security.Grammar

def isAlpha (c : Char) : Bool :=
  ('a' ≤ c && c ≤ 'z') || ('A' ≤ c && c ≤ 'Z')

def isDigit (c : Char) : Bool :=
  '0' ≤ c && c ≤ '9'

def isSpace (c : Char) : Bool :=
  c = ' ' || c = '\t' || c = '\r' || c = '\n'

/- The rest after white space and comments. -/
def afterSkip (inComment : Bool) : List Char → List Char
  | [] => []
  | '\n' :: rest => afterSkip false rest
  | '/' :: '/' :: rest => afterSkip true rest
  | c :: rest =>
    if inComment || isSpace c then
      afterSkip inComment rest
    else c :: rest

def skip : Peg Unit :=
  fun s => some ((), afterSkip false s)

/- A literal after what is skipped. -/
def sym (text : String) : Peg String := do
  skip
  Peg.lit text

def ident : Peg String := do
  let first ← Peg.char isAlpha
  let more ← Peg.charsOf
    (fun c => isAlpha c || isDigit c || c = '_')
  return String.ofList (first :: more)

def dotPath : Peg String := do
  let parts ← Peg.sepBy ident (Peg.lit ".")
  return Text.join "." parts

def stringLit : Peg String := do
  let _ ← Peg.lit "\""
  let body ← Peg.charsOf (· ≠ '"')
  let _ ← Peg.lit "\""
  return String.ofList body

def digits : Peg String := do
  let first ← Peg.char isDigit
  let more ← Peg.charsOf isDigit
  return String.ofList (first :: more)

def fraction : Peg String := do
  let _ ← Peg.lit "."
  let ds ← digits
  return "." ++ ds

def numberLit : Peg String := do
  let sign ← Peg.opt (Peg.lit "-")
  let whole ← digits
  let part ← Peg.opt fraction
  return sign.getD "" ++ whole ++ part.getD ""

def boolLit : Peg Bool :=
  Peg.orElse
    ((Peg.lit "true").andThen (fun _ => Peg.succeed true))
    ((Peg.lit "false").andThen (fun _ => Peg.succeed false))

--------
-- Expressions
--------

def functionCall (value : Peg Expression) :
    Peg Expression := do
  let name ← ident
  let _ ← sym "("
  skip
  let args ← Peg.opt (Peg.sepBy value (do
    let _ ← sym ","
    skip))
  let _ ← sym ")"
  return .functionCall name (args.getD [])

/-
  Literals come before paths, so that `true` is not read as
  a name.
-/
def value : Nat → Peg Expression
  | 0 => Peg.fail
  | n + 1 =>
    Peg.oneOf [ functionCall (value n),
      do return .bool (← boolLit),
      do return .stringLit (← stringLit),
      do return .number (← numberLit),
      do return .path (← dotPath)]

def compOp : Peg CompOp :=
  Peg.oneOf [ do let _ ← Peg.lit ">="; return .gte,
    do let _ ← Peg.lit "<="; return .lte,
    do let _ ← Peg.lit "!="; return .neq,
    do let _ ← Peg.lit ">"; return .gt,
    do let _ ← Peg.lit "<"; return .lt,
    do let _ ← Peg.lit "=="; return .eq]

section

-- The parsers of an expression in brackets and of a value.
variable (inner leaf : Peg Expression)

def atom : Peg Expression :=
  Peg.orElse
    (do
      let _ ← Peg.lit "("
      skip
      let e ← inner
      let _ ← sym ")"
      return e)
    leaf

def comparison : Peg Expression := do
  let left ← atom inner leaf
  skip
  let op ← compOp
  skip
  let right ← atom inner leaf
  return .comparison left op right

def notExpr : Peg Expression :=
  Peg.oneOf [
    do
      let _ ← Peg.lit "!"
      skip
      let e ← atom inner leaf
      return .not e,
    comparison inner leaf,
    atom inner leaf]

/- One part stands for itself. -/
def combine (make : List Expression → Expression) :
    List Expression → Expression
  | [e] => e
  | es => make es

def andExpr : Peg Expression := do
  let parts ← Peg.sepBy (notExpr inner leaf) (do
    let _ ← sym "&&"
    skip)
  return combine .and parts

def orExpr : Peg Expression := do
  let parts ← Peg.sepBy (andExpr inner leaf) (do
    let _ ← sym "||"
    skip)
  return combine .or parts

end

def expr : Nat → Peg Expression
  | 0 => Peg.fail
  | n + 1 => orExpr (expr n) (value n)

--------
-- Blocks
--------

def operation : Peg String :=
  Peg.oneOf [Peg.lit "read", Peg.lit "create",
    Peg.lit "update", Peg.lit "delete", Peg.lit "list"]

def opList : Peg (List String) :=
  Peg.sepBy operation (do
    let _ ← sym ","
    skip)

def ruleEntry (depth : Nat) : Peg RuleEntry := do
  let ops ← opList
  let _ ← sym ":"
  skip
  let condition ← expr depth
  let _ ← sym ";"
  return .access ops condition

def validateEntry (depth : Nat) : Peg RuleEntry := do
  let ops ← opList
  let _ ← sym ":"
  let _ ← sym "\x7b"
  let _ ← sym "validate"
  let _ ← sym ":"
  skip
  let validation ← expr depth
  let _ ← sym ";"
  let _ ← sym "\x7d"
  return .validate ops validation

def collectionName : Peg String :=
  Peg.orElse (Peg.lit "*") ident

def ruleBlock (depth : Nat) : Peg RuleBlock := do
  let _ ← Peg.lit "rules"
  skip
  let name ← collectionName
  let _ ← sym "\x7b"
  let entries ← Peg.many (do
    skip
    Peg.orElse (validateEntry depth) (ruleEntry depth))
  let _ ← sym "\x7d"
  return ⟨name, entries⟩

/- A whole text is read, or it is not accepted. -/
def file (input : String) : Option (List RuleBlock) :=
  let blocks := Peg.many (do
    skip
    ruleBlock input.toList.length)
  match blocks input.toList with
  | none => none
  | some (parsed, rest) =>
    if afterSkip false rest = [] then some parsed
    else none

end Orignabase.Security.Grammar

--------
-- Rule Sets
--------

namespace Orignabase.Security

/- A validation entry always applies. -/
def RuleEntry.rule : RuleEntry → SecurityRule
  | .access ops condition =>
    { operations := ops, condition, validation := none }
  | .validate ops validation =>
    { operations := ops
      condition := .bool true
      validation := some validation }

def parseRuleBlock (block : RuleBlock) : RuleSet where
  collection := block.collection
  rules := block.entries.map RuleEntry.rule

/- A later block of a collection replaces an earlier one. -/
def insertBlock
    (rules : String → Option RuleSet)
    (block : RuleBlock) : String → Option RuleSet :=
  Function.update rules block.collection
    (some (parseRuleBlock block))

def RuleEngine.ofBlocks (blocks : List RuleBlock) :
    RuleEngine where
  rules := blocks.foldl insertBlock (fun _ => none)

/- `none` where the text does not follow the grammar. -/
def parseRules (input : String) : Option RuleEngine :=
  (Grammar.file input).map RuleEngine.ofBlocks

end Orignabase.Security
