import Orignabase.Security.Grammar

/-
  What validation entries do to a block of rules.

  Key definitions include:
    * `governing`
    * `RuleEntry.decides`
    * `ValidationRestricts`

  Main results:
    * `validation_decides_by_position`
-/

--------
-- The Block of a Collection
--------

namespace Orignabase.Security

/- The last block of a name. -/
def lastBlock (blocks : List RuleBlock) (name : String) :
    Option RuleBlock :=
  blocks.foldl (fun found block =>
      if block.collection = name then some block else found)
    none

/- The block that requests on a collection are checked by. -/
def governing
    (blocks : List RuleBlock)
    (collection : String) : Option RuleBlock :=
  (lastBlock blocks collection).or (lastBlock blocks "*")

/-
  The engine holds the last block of each name, for any map
  the insertions start from.
-/
theorem foldl_insertBlock
    (name : String)
    (blocks : List RuleBlock) :
    ∀ (rules : String → Option RuleSet)
      (found : Option RuleBlock),
      rules name = found.map parseRuleBlock →
      blocks.foldl insertBlock rules name =
        (blocks.foldl (fun found block =>
            if block.collection = name then some block
            else found) found).map parseRuleBlock := by
  induction blocks with
  | nil =>
    intro rules found hFound
    exact hFound
  | cons block blocks ih =>
    intro rules found hFound
    refine ih _ _ ?_
    by_cases hName : block.collection = name
    · subst hName
      simp [insertBlock]
    · have hOther : name ≠ block.collection :=
        fun h => hName h.symm
      simp [insertBlock, hName, hOther, hFound]

theorem ofBlocks_rules
    (blocks : List RuleBlock)
    (name : String) :
    (RuleEngine.ofBlocks blocks).rules name =
      (lastBlock blocks name).map parseRuleBlock :=
  foldl_insertBlock name blocks _ none rfl

theorem check_ofBlocks
    (floats : Floats)
    (blocks : List RuleBlock)
    (collection operation : String)
    (ctx : SecurityContext) :
    (RuleEngine.ofBlocks blocks).check floats collection
        operation ctx =
      match governing blocks collection with
      | none => .ok false
      | some block =>
        checkRules floats ctx operation
          (block.entries.map RuleEntry.rule) := by
  unfold RuleEngine.check governing
  rw [ofBlocks_rules, ofBlocks_rules]
  cases lastBlock blocks collection with
  | some block => rfl
  | none =>
    cases lastBlock blocks "*" with
    | some block => rfl
    | none => rfl

--------
-- The Deciding Entry
--------

namespace RuleEntry

def operations : RuleEntry → List String
  | access ops _ => ops
  | validate ops _ => ops

def isAccess : RuleEntry → Bool
  | access _ _ => true
  | validate _ _ => false

variable (floats : Floats) (ctx : SecurityContext)
variable (operation : String)

/- The expression of the entry holds. -/
def holds : RuleEntry → Bool
  | access _ condition => evalExpr floats ctx condition
  | validate _ validation => evalExpr floats ctx validation

/- An access entry that gives access to the operation. -/
def allows (entry : RuleEntry) : Bool :=
  entry.isAccess && entry.operations.contains operation &&
    entry.holds floats ctx

/- A validation entry for the operation. -/
def validates (entry : RuleEntry) : Bool :=
  !entry.isAccess && entry.operations.contains operation

/- No entry after one that decides is looked at. -/
def decides (entry : RuleEntry) : Bool :=
  entry.allows floats ctx operation ||
    entry.validates operation

end RuleEntry

variable (floats : Floats) (ctx : SecurityContext)
variable (operation : String)

/- The answer of the entry that decides. -/
def verdict (entries : List RuleEntry) : Except Error Bool :=
  match entries.find?
      (RuleEntry.decides floats ctx operation) with
  | none => .ok false
  | some entry =>
    if entry.holds floats ctx then .ok true
    else .error (.validation "Validation rule failed")

theorem checkRules_cons
    (entry : RuleEntry)
    (rules : List SecurityRule) :
    checkRules floats ctx operation (entry.rule :: rules) =
      if entry.decides floats ctx operation then
        if entry.holds floats ctx then .ok true
        else .error (.validation "Validation rule failed")
      else checkRules floats ctx operation rules := by
  cases entry with
  | access ops condition =>
    cases ops.contains operation <;>
      cases hCond : evalExpr floats ctx condition <;>
      simp [checkRules, RuleEntry.rule, RuleEntry.decides,
        RuleEntry.allows, RuleEntry.validates,
        RuleEntry.isAccess, RuleEntry.operations,
        RuleEntry.holds, hCond]
  | validate ops validation =>
    cases ops.contains operation <;>
      cases hValid : evalExpr floats ctx validation <;>
      simp [checkRules, RuleEntry.rule, RuleEntry.decides,
        RuleEntry.allows, RuleEntry.validates,
        RuleEntry.isAccess, RuleEntry.operations,
        RuleEntry.holds, evalExpr, hValid]

theorem checkRules_eq_verdict (entries : List RuleEntry) :
    checkRules floats ctx operation
        (entries.map RuleEntry.rule) =
      verdict floats ctx operation entries := by
  induction entries with
  | nil => rfl
  | cons entry entries ih =>
    rw [List.map_cons, checkRules_cons, ih]
    unfold verdict
    rw [List.find?_cons]
    cases entry.decides floats ctx operation with
    | true => rfl
    | false => rfl

--------
-- Blocks without Validation
--------

def RuleBlock.accessOnly (block : RuleBlock) : RuleBlock :=
  { block with
    entries := block.entries.filter RuleEntry.isAccess }

/- The blocks, those of one name without validation. -/
def withoutValidation
    (blocks : List RuleBlock)
    (name : String) : List RuleBlock :=
  blocks.map (fun block =>
    if block.collection = name then block.accessOnly
    else block)

theorem foldl_withoutValidation
    (name other : String)
    (blocks : List RuleBlock) :
    ∀ found : Option RuleBlock,
      (withoutValidation blocks name).foldl
          (fun found block =>
            if block.collection = other then some block
            else found)
          (found.map (fun block =>
            if block.collection = name then block.accessOnly
            else block)) =
        (blocks.foldl (fun found block =>
            if block.collection = other then some block
            else found) found).map
          (fun block =>
            if block.collection = name then block.accessOnly
            else block) := by
  induction blocks with
  | nil =>
    intro found
    rfl
  | cons block blocks ih =>
    intro found
    rw [List.foldl_cons, ← ih]
    change List.foldl _ _ (withoutValidation blocks name) =
      _
    congr 1
    by_cases hName : block.collection = name <;>
      by_cases hOther : block.collection = other <;>
      simp_all [RuleBlock.accessOnly]

theorem lastBlock_withoutValidation
    (blocks : List RuleBlock)
    (name other : String) :
    lastBlock (withoutValidation blocks name) other =
      (lastBlock blocks other).map (fun block =>
        if block.collection = name then block.accessOnly
        else block) :=
  foldl_withoutValidation name other blocks none

theorem governing_withoutValidation
    {blocks : List RuleBlock}
    {collection : String}
    {block : RuleBlock}
    (hBlock : governing blocks collection = some block) :
    governing (withoutValidation blocks block.collection)
      collection = some block.accessOnly := by
  unfold governing at hBlock ⊢
  rw [lastBlock_withoutValidation,
    lastBlock_withoutValidation]
  cases hLast : lastBlock blocks collection with
  | some found =>
    rw [hLast] at hBlock
    cases hBlock
    simp
  | none =>
    rw [hLast] at hBlock
    cases hStar : lastBlock blocks "*" with
    | some found =>
      rw [hStar] at hBlock
      cases hBlock
      simp
    | none =>
      rw [hStar] at hBlock
      cases hBlock

variable (floats : Floats) (ctx : SecurityContext)
variable (operation : String)

theorem verdict_eq_true (entries : List RuleEntry) :
    verdict floats ctx operation entries = .ok true ↔
      ∃ entry, entries.find?
            (RuleEntry.decides floats ctx operation) =
          some entry ∧
        entry.holds floats ctx = true := by
  unfold verdict
  cases entries.find?
      (RuleEntry.decides floats ctx operation) with
  | none => simp
  | some entry =>
    cases hHolds : entry.holds floats ctx <;> simp [hHolds]

/- Access entries give access wherever they stand. -/
theorem verdict_accessOnly (entries : List RuleEntry) :
    verdict floats ctx operation
        (entries.filter RuleEntry.isAccess) = .ok true ↔
      ∃ entry ∈ entries,
        entry.allows floats ctx operation = true := by
  rw [verdict_eq_true]
  constructor
  · rintro ⟨entry, hFind, hHolds⟩
    have hMem := List.mem_filter.mp
      (List.mem_of_find?_eq_some hFind)
    have hDecides := List.find?_some hFind
    refine ⟨entry, hMem.1, ?_⟩
    have hAccess := hMem.2
    simpa [RuleEntry.decides, RuleEntry.validates, hAccess]
      using hDecides
  · rintro ⟨entry, hMem, hAllows⟩
    have hParts := hAllows
    simp only [RuleEntry.allows, Bool.and_eq_true] at hParts
    have hSome :
        ((entries.filter RuleEntry.isAccess).find?
          (RuleEntry.decides floats ctx operation)).isSome =
          true := by
      rw [List.find?_isSome]
      exact ⟨entry, List.mem_filter.mpr ⟨hMem, hParts.1.1⟩,
        by simp [RuleEntry.decides, hAllows]⟩
    rcases Option.isSome_iff_exists.mp hSome with
      ⟨found, hFind⟩
    have hFound := List.mem_filter.mp
      (List.mem_of_find?_eq_some hFind)
    have hDecides := List.find?_some hFind
    refine ⟨found, hFind, ?_⟩
    have hFoundAccess := hFound.2
    simp [RuleEntry.decides, RuleEntry.validates,
      RuleEntry.allows, hFoundAccess] at hDecides
    exact hDecides.2

--------
-- Validation and Access
--------

/-
  Validation entries only restrict: a request that is let
  through passes every validation entry for its operation,
  and would be let through without them.
-/
def ValidationRestricts
    (floats : Floats)
    (blocks : List RuleBlock)
    (collection operation : String)
    (ctx : SecurityContext) : Prop :=
  ∀ block, governing blocks collection = some block →
    (RuleEngine.ofBlocks blocks).check floats collection
        operation ctx = .ok true →
      (∀ entry ∈ block.entries,
        entry.validates operation = true →
          entry.holds floats ctx = true) ∧
      (RuleEngine.ofBlocks
          (withoutValidation blocks block.collection)).check
        floats collection operation ctx = .ok true

/-
  The first entry for the operation that is a validation
  entry, or an access entry whose condition holds, decides
  alone.  A request is let through exactly when that entry
  holds, and without the validation entries it still is when
  some access entry allows it.
-/
theorem validation_decides_by_position
    (floats : Floats)
    {input : String}
    {engine : RuleEngine}
    {blocks : List RuleBlock}
    (hText : Grammar.file input = some blocks)
    (hEngine : parseRules input = some engine)
    {collection : String}
    {block : RuleBlock}
    (hBlock : governing blocks collection = some block)
    (operation : String)
    (ctx : SecurityContext) :
    (engine.check floats collection operation ctx =
        .ok true ↔
      ∃ entry, block.entries.find?
            (RuleEntry.decides floats ctx operation) =
          some entry ∧
        entry.holds floats ctx = true) ∧
    ((RuleEngine.ofBlocks
          (withoutValidation blocks block.collection)).check
        floats collection operation ctx = .ok true ↔
      ∃ entry ∈ block.entries,
        entry.allows floats ctx operation = true) := by
  have hOf : engine = RuleEngine.ofBlocks blocks := by
    unfold parseRules at hEngine
    rw [hText] at hEngine
    exact (Option.some.inj hEngine).symm
  subst hOf
  rw [check_ofBlocks, check_ofBlocks, hBlock,
    governing_withoutValidation hBlock]
  constructor
  · change checkRules floats ctx operation
      (block.entries.map RuleEntry.rule) = .ok true ↔ _
    rw [checkRules_eq_verdict]
    exact verdict_eq_true floats ctx operation _
  · change checkRules floats ctx operation
      (block.accessOnly.entries.map RuleEntry.rule) =
        .ok true ↔ _
    rw [checkRules_eq_verdict]
    exact verdict_accessOnly floats ctx operation _

/- A text with an access entry before a validation entry. -/
def accessFirstText : String :=
  "rules products \x7b create: isAuthenticated(); " ++
    "create: \x7b validate: incoming.status == " ++
    "\"draft\"; \x7d \x7d"

/- A text with the validation entry alone. -/
def validateOnlyText : String :=
  "rules products \x7b create: \x7b validate: " ++
    "incoming.status == \"draft\"; \x7d \x7d"

def draftEntry : RuleEntry :=
  .validate ["create"]
    (.comparison (.path "incoming.status") .eq
      (.stringLit "draft"))

def accessFirst : List RuleBlock :=
  [⟨"products",
    [.access ["create"] (.functionCall "isAuthenticated" []),
      draftEntry]⟩]

def validateOnly : List RuleBlock :=
  [⟨"products", [draftEntry]⟩]

/- A request that would create a product. -/
def creating
    (userId : Option String)
    (status : String) : SecurityContext where
  userId := userId
  roles := []
  authenticated := userId.isSome
  resource := none
  incoming := some (.object [("status", .string status)])

/- What the texts are read as. -/
theorem files_read :
    Grammar.file accessFirstText = some accessFirst ∧
    Grammar.file validateOnlyText = some validateOnly ∧
    governing accessFirst "products" = some ⟨"products",
        [.access ["create"]
          (.functionCall "isAuthenticated" []),
          draftEntry]⟩ ∧
    governing validateOnly "products" =
      some ⟨"products", [draftEntry]⟩ ∧
    splitDots "incoming.status" =
      ["incoming", "status"] := by
  decide +kernel

theorem file_accessFirst :
    Grammar.file accessFirstText = some accessFirst :=
  files_read.1

theorem file_validateOnly :
    Grammar.file validateOnlyText = some validateOnly :=
  files_read.2.1

/- The validation entry holds of drafts only. -/
theorem holds_draftEntry
    (floats : Floats)
    (userId : Option String)
    (status : String) :
    draftEntry.holds floats (creating userId status) =
      (status == "draft") := by
  have hSplit := files_read.2.2.2.2
  simp [draftEntry, RuleEntry.holds, evalExpr, evalValue,
    compareValues, resolvePath, hSplit, creating,
    resolveJsonPath, resolveJsonPathOption, Value.get,
    Value.eq]

theorem decides_draftEntry
    (floats : Floats)
    (ctx : SecurityContext) :
    draftEntry.decides floats ctx "create" = true := by
  simp [draftEntry, RuleEntry.decides, RuleEntry.validates,
    RuleEntry.isAccess, RuleEntry.operations]

theorem governing_accessFirst :
    governing accessFirst "products" = some ⟨"products",
        [.access ["create"]
          (.functionCall "isAuthenticated" []),
          draftEntry]⟩ :=
  files_read.2.2.1

theorem governing_validateOnly :
    governing validateOnly "products" =
      some ⟨"products", [draftEntry]⟩ :=
  files_read.2.2.2.1

theorem check_accessFirst (floats : Floats) :
    (RuleEngine.ofBlocks accessFirst).check floats "products"
      "create" (creating (some "u1") "live") = .ok true := by
  rw [check_ofBlocks, governing_accessFirst]
  simp [checkRules, RuleEntry.rule, evalExpr, evalFunction,
    creating]

theorem check_validateOnly (floats : Floats) :
    (RuleEngine.ofBlocks validateOnly).check floats "products"
      "create" (creating none "draft") = .ok true := by
  rw [check_ofBlocks, governing_validateOnly]
  change checkRules floats _ _
    ([draftEntry].map RuleEntry.rule) = _
  rw [checkRules_eq_verdict, verdict_eq_true]
  exact ⟨draftEntry,
    by rw [List.find?_cons, decides_draftEntry],
    by rw [holds_draftEntry]; rfl⟩

/- A draft passes the validation entry that stands alone. -/
theorem validateOnly_lets_drafts_through :
    Grammar.file validateOnlyText = some validateOnly ∧
    ∀ floats : Floats,
      (RuleEngine.ofBlocks validateOnly).check floats
        "products" "create" (creating none "draft") =
        .ok true := by
  refine ⟨file_validateOnly, ?_⟩
  intro floats
  have hEngine :
      parseRules validateOnlyText =
        some (RuleEngine.ofBlocks validateOnly) := by
    unfold parseRules
    rw [file_validateOnly]
    rfl
  have hExact := validation_decides_by_position floats
    file_validateOnly hEngine governing_validateOnly
    "create" (creating none "draft")
  exact hExact.1.mpr ⟨draftEntry,
    by rw [List.find?_cons, decides_draftEntry],
    by rw [holds_draftEntry]; rfl⟩

/-
  An access entry before the validation entry lets a product
  through that fails validation, and the validation entry
  alone lets an anonymous request through.
-/
theorem validation_grants_and_is_passed_over :
    Grammar.file accessFirstText = some accessFirst ∧
    Grammar.file validateOnlyText = some validateOnly ∧
    ∀ floats : Floats,
      ¬ ValidationRestricts floats accessFirst "products"
        "create" (creating (some "u1") "live") ∧
      ¬ ValidationRestricts floats validateOnly "products"
        "create" (creating none "draft") := by
  refine ⟨file_accessFirst, file_validateOnly, ?_⟩
  intro floats
  constructor
  · intro hRestricts
    have hHolds := (hRestricts _ governing_accessFirst
        (check_accessFirst floats)).1 draftEntry
        (by simp) rfl
    rw [holds_draftEntry] at hHolds
    exact absurd hHolds (by decide)
  · intro hRestricts
    have hStill := (hRestricts _ governing_validateOnly
        (check_validateOnly floats)).2
    rw [check_ofBlocks,
      governing_withoutValidation governing_validateOnly]
      at hStill
    simp [RuleBlock.accessOnly, draftEntry,
      RuleEntry.isAccess, checkRules] at hStill

end Orignabase.Security
