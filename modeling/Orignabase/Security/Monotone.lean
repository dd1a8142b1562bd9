import Orignabase.Security.Validation

/-
  Callers with more roles, and callers who sign in
  (`ob-security/src/evaluator.rs`).

  Key definitions include:
    * `Expression.every`
    * `SecurityContext.withRole`
    * `SecurityContext.signedIn`

  Main results:
    * `evalExpr_mono`
    * `verdict_mono`
    * `roles_monotone`
-/

--------
-- Parts of an Expression
--------

namespace Orignabase.Security

namespace Expression

mutual

/- Every part of the expression passes the test. -/
def every (test : Expression → Bool) : Expression → Bool
  | .bool b => test (.bool b)
  | .number text => test (.number text)
  | .stringLit s => test (.stringLit s)
  | .path p => test (.path p)
  | .functionCall name args =>
    test (.functionCall name args) && everyIn test args
  | .comparison left op right =>
    test (.comparison left op right) &&
      (left.every test && right.every test)
  | .and exprs => test (.and exprs) && everyIn test exprs
  | .or exprs => test (.or exprs) && everyIn test exprs
  | .not e => test (.not e) && e.every test

def everyIn (test : Expression → Bool) :
    List Expression → Bool
  | [] => true
  | e :: exprs => e.every test && everyIn test exprs

end

/- The expression has no `!` in front. -/
def affirmative : Expression → Bool
  | .not _ => false
  | _ => true

/-
  The path of the caller's id.  What follows the id in a path
  is not looked at.
-/
def readsUid : Expression → Bool
  | .path p => ["auth", "uid"].isPrefixOf (splitDots p)
  | _ => false

/- The expression does not compare with the caller's id. -/
def aloof : Expression → Bool
  | .comparison left _ right =>
    !left.readsUid && !right.readsUid
  | .functionCall name _ => name ≠ "fieldAbsentOrEqualsAuth"
  | _ => true

end Expression

namespace Expression

variable {test test' : Expression → Bool}

mutual

theorem every_and :
    ∀ {e : Expression}, e.every test = true →
      e.every test' = true →
        e.every (fun e => test e && test' e) = true
  | .bool _, h, h' => by
      simp only [every] at *
      rw [h, h', Bool.and_true]
  | .number _, h, h' => by
      simp only [every] at *
      rw [h, h', Bool.and_true]
  | .stringLit _, h, h' => by
      simp only [every] at *
      rw [h, h', Bool.and_true]
  | .path _, h, h' => by
      simp only [every] at *
      rw [h, h', Bool.and_true]
  | .functionCall _ _, h, h' => by
      simp only [every, Bool.and_eq_true] at *
      exact ⟨⟨h.1, h'.1⟩, everyIn_and h.2 h'.2⟩
  | .comparison _ _ _, h, h' => by
      simp only [every, Bool.and_eq_true] at *
      exact ⟨⟨h.1, h'.1⟩, every_and h.2.1 h'.2.1,
        every_and h.2.2 h'.2.2⟩
  | .and _, h, h' => by
      simp only [every, Bool.and_eq_true] at *
      exact ⟨⟨h.1, h'.1⟩, everyIn_and h.2 h'.2⟩
  | .or _, h, h' => by
      simp only [every, Bool.and_eq_true] at *
      exact ⟨⟨h.1, h'.1⟩, everyIn_and h.2 h'.2⟩
  | .not _, h, h' => by
      simp only [every, Bool.and_eq_true] at *
      exact ⟨⟨h.1, h'.1⟩, every_and h.2 h'.2⟩

theorem everyIn_and :
    ∀ {exprs : List Expression}, everyIn test exprs = true →
        everyIn test' exprs = true →
          everyIn (fun e => test e && test' e) exprs = true
  | [], _, _ => rfl
  | _ :: _, h, h' => by
      simp only [everyIn, Bool.and_eq_true] at *
      exact ⟨every_and h.1 h'.1, everyIn_and h.2 h'.2⟩

end

end Expression

def RuleEntry.expression : RuleEntry → Expression
  | .access _ condition => condition
  | .validate _ validation => validation

/- Every expression of the blocks passes the test. -/
def Throughout
    (test : Expression → Bool)
    (blocks : List RuleBlock) : Prop :=
  ∀ block ∈ blocks, ∀ entry ∈ block.entries,
    entry.expression.every test = true

namespace SecurityContext

/- The caller with one more role. -/
def withRole (ctx : SecurityContext) (role : String) :
    SecurityContext :=
  { ctx with roles := ctx.roles ++ [role] }

/- Nobody has signed in. -/
def Anonymous (ctx : SecurityContext) : Prop :=
  ctx.userId = none ∧ ctx.authenticated = false

def signedIn (ctx : SecurityContext) (uid : String) :
    SecurityContext :=
  { ctx with userId := some uid, authenticated := true }

end SecurityContext

--------
-- Monotone Conditions
--------

variable {floats : Floats} {ctx ctx' : SecurityContext}
variable {test : Expression → Bool}

/- What is evaluated without evaluating a part of it. -/
def Expression.atomic : Expression → Bool
  | .and _ => false
  | .or _ => false
  | .not _ => false
  | _ => true

mutual

/-
  An expression without `!` is monotone if its atoms are.
-/
theorem evalExpr_mono
    (hAffirmative :
      ∀ e : Expression, test e = true →
        e.affirmative = true)
    (hAtom :
      ∀ e : Expression, test e = true → e.atomic = true →
        evalExpr floats ctx e = true →
          evalExpr floats ctx' e = true) :
    ∀ e : Expression, e.every test = true →
      evalExpr floats ctx e = true →
        evalExpr floats ctx' e = true
  | .bool b, hEvery, hTrue => hAtom _ hEvery rfl hTrue
  | .number _, hEvery, hTrue => hAtom _ hEvery rfl hTrue
  | .stringLit _, hEvery, hTrue => hAtom _ hEvery rfl hTrue
  | .path _, hEvery, hTrue => hAtom _ hEvery rfl hTrue
  | .functionCall _ _, hEvery, hTrue => by
      simp only [Expression.every, Bool.and_eq_true]
        at hEvery
      exact hAtom _ hEvery.1 rfl hTrue
  | .comparison _ _ _, hEvery, hTrue => by
      simp only [Expression.every, Bool.and_eq_true]
        at hEvery
      exact hAtom _ hEvery.1 rfl hTrue
  | .and exprs, hEvery, hTrue => by
      simp only [Expression.every, Bool.and_eq_true]
        at hEvery
      simp only [evalExpr] at hTrue ⊢
      exact evalAll_mono hAffirmative hAtom exprs hEvery.2
        hTrue
  | .or exprs, hEvery, hTrue => by
      simp only [Expression.every, Bool.and_eq_true]
        at hEvery
      simp only [evalExpr] at hTrue ⊢
      exact evalAny_mono hAffirmative hAtom exprs hEvery.2
        hTrue
  | .not e, hEvery, _ => by
      simp only [Expression.every, Bool.and_eq_true]
        at hEvery
      cases hAffirmative _ hEvery.1

theorem evalAll_mono
    (hAffirmative :
      ∀ e : Expression, test e = true →
        e.affirmative = true)
    (hAtom :
      ∀ e : Expression, test e = true → e.atomic = true →
        evalExpr floats ctx e = true →
          evalExpr floats ctx' e = true) :
    ∀ exprs : List Expression,
      Expression.everyIn test exprs = true →
        evalAll floats ctx exprs = true →
          evalAll floats ctx' exprs = true
  | [], _, _ => rfl
  | e :: exprs, hEvery, hTrue => by
      simp only [Expression.everyIn, Bool.and_eq_true]
        at hEvery
      simp only [evalAll, Bool.and_eq_true] at hTrue ⊢
      exact
        ⟨evalExpr_mono hAffirmative hAtom e hEvery.1 hTrue.1,
          evalAll_mono hAffirmative hAtom exprs hEvery.2
            hTrue.2⟩

theorem evalAny_mono
    (hAffirmative :
      ∀ e : Expression, test e = true →
        e.affirmative = true)
    (hAtom :
      ∀ e : Expression, test e = true → e.atomic = true →
        evalExpr floats ctx e = true →
          evalExpr floats ctx' e = true) :
    ∀ exprs : List Expression,
      Expression.everyIn test exprs = true →
        evalAny floats ctx exprs = true →
          evalAny floats ctx' exprs = true
  | [], _, hTrue => hTrue
  | e :: exprs, hEvery, hTrue => by
      simp only [Expression.everyIn, Bool.and_eq_true]
        at hEvery
      simp only [evalAny, Bool.or_eq_true] at hTrue ⊢
      rcases hTrue with hHead | hTail
      · exact Or.inl
          (evalExpr_mono hAffirmative hAtom e hEvery.1 hHead)
      · exact Or.inr
          (evalAny_mono hAffirmative hAtom exprs hEvery.2
            hTail)

end

--------
-- Monotone Checks
--------

variable {floats : Floats} {ctx ctx' : SecurityContext}
variable {operation : String}

theorem decides_mono
    {entry : RuleEntry}
    (hHolds :
      entry.holds floats ctx = true →
        entry.holds floats ctx' = true)
    (hDecides : entry.decides floats ctx operation = true) :
    entry.decides floats ctx' operation = true := by
  simp only [RuleEntry.decides, RuleEntry.allows,
    Bool.or_eq_true, Bool.and_eq_true] at hDecides ⊢
  rcases hDecides with hAllows | hValidates
  · exact Or.inl ⟨hAllows.1, hHolds hAllows.2⟩
  · exact Or.inr hValidates

/- An entry that newly decides is one that gives access. -/
theorem holds_of_newly_decides
    {entry : RuleEntry}
    (hBefore :
      ¬ entry.decides floats ctx operation = true)
    (hAfter : entry.decides floats ctx' operation = true) :
    entry.holds floats ctx' = true := by
  simp only [RuleEntry.decides, RuleEntry.allows,
    Bool.or_eq_true, Bool.and_eq_true] at hBefore hAfter
  rcases hAfter with hAllows | hValidates
  · exact hAllows.2
  · exact absurd (Or.inr hValidates) hBefore

theorem verdict_mono
    {entries : List RuleEntry}
    (hHolds :
      ∀ entry ∈ entries, entry.holds floats ctx = true →
        entry.holds floats ctx' = true)
    (hTrue :
      verdict floats ctx operation entries = .ok true) :
    verdict floats ctx' operation entries = .ok true := by
  rw [← checkRules_eq_verdict] at hTrue ⊢
  induction entries with
  | nil => cases hTrue
  | cons entry entries ih =>
    have hRest :=
      ih fun e hMem => hHolds e (List.mem_cons_of_mem _ hMem)
    have hMono := hHolds entry List.mem_cons_self
    rw [List.map_cons, checkRules_cons] at hTrue ⊢
    by_cases hBefore :
        entry.decides floats ctx operation = true
    · rw [if_pos hBefore] at hTrue
      rw [if_pos (decides_mono hMono hBefore)]
      by_cases hEntry : entry.holds floats ctx = true
      · rw [if_pos (hMono hEntry)]
      · rw [if_neg hEntry] at hTrue
        cases hTrue
    · rw [if_neg hBefore] at hTrue
      by_cases hAfter :
          entry.decides floats ctx' operation = true
      · rw [if_pos hAfter,
          if_pos (holds_of_newly_decides hBefore hAfter)]
      · rw [if_neg hAfter]
        exact hRest hTrue

variable {blocks : List RuleBlock}

theorem mem_of_lastBlock
    {name : String}
    {block : RuleBlock}
    (hLast : lastBlock blocks name = some block) :
    block ∈ blocks := by
  have hFold :
      ∀ (bs : List RuleBlock) (found : Option RuleBlock),
        bs.foldl (fun found block =>
              if block.collection = name then some block
              else found) found = some block →
          block ∈ bs ∨ found = some block := by
    intro bs
    induction bs with
    | nil => exact fun found hFound => Or.inr hFound
    | cons first rest ih =>
      intro found hFound
      rcases ih _ hFound with hRest | hFirst
      · exact Or.inl (List.mem_cons_of_mem _ hRest)
      · dsimp only at hFirst
        split at hFirst
        · cases hFirst
          exact Or.inl List.mem_cons_self
        · exact Or.inr hFirst
  rcases hFold blocks none hLast with hMem | hNone
  · exact hMem
  · cases hNone

theorem mem_of_governing
    {collection : String}
    {block : RuleBlock}
    (hBlock : governing blocks collection = some block) :
    block ∈ blocks := by
  unfold governing at hBlock
  cases hOwn : lastBlock blocks collection with
  | some found =>
    rw [hOwn] at hBlock
    cases hBlock
    exact mem_of_lastBlock hOwn
  | none =>
    rw [hOwn] at hBlock
    exact mem_of_lastBlock hBlock

/- A check of a text whose expressions are monotone. -/
theorem check_mono
    {test : Expression → Bool}
    {collection : String}
    (hAffirmative :
      ∀ e : Expression, test e = true →
        e.affirmative = true)
    (hAtom :
      ∀ e : Expression, test e = true → e.atomic = true →
        evalExpr floats ctx e = true →
          evalExpr floats ctx' e = true)
    (hThroughout : Throughout test blocks)
    (hTrue :
      (RuleEngine.ofBlocks blocks).check floats collection
        operation ctx = .ok true) :
    (RuleEngine.ofBlocks blocks).check floats collection
      operation ctx' = .ok true := by
  rw [check_ofBlocks] at hTrue ⊢
  cases hBlock : governing blocks collection with
  | none =>
    rw [hBlock] at hTrue
    cases hTrue
  | some block =>
    rw [hBlock] at hTrue
    change checkRules floats ctx operation
      (block.entries.map RuleEntry.rule) = _ at hTrue
    change checkRules floats ctx' operation
      (block.entries.map RuleEntry.rule) = _
    rw [checkRules_eq_verdict] at hTrue ⊢
    refine verdict_mono ?_ hTrue
    intro entry hMem hHolds
    have hEvery :=
      hThroughout block (mem_of_governing hBlock) entry hMem
    cases entry with
    | access ops condition =>
      exact evalExpr_mono hAffirmative hAtom _ hEvery hHolds
    | validate ops validation =>
      exact evalExpr_mono hAffirmative hAtom _ hEvery hHolds

--------
-- Roles and Signing In
--------

variable {floats : Floats} {ctx : SecurityContext}

theorem evalValue_withRole
    (role : String)
    (e : Expression) :
    evalValue floats e (ctx.withRole role) =
      evalValue floats e ctx := by
  cases e <;> rfl

variable {e : Expression}

/- The roles matter to the function that asks for one. -/
theorem evalExpr_withRole
    (role : String)
    (hAtomic : e.atomic = true)
    (hTrue : evalExpr floats ctx e = true) :
    evalExpr floats (ctx.withRole role) e = true := by
  cases e with
  | bool b => exact hTrue
  | number text => exact hTrue
  | stringLit s => exact hTrue
  | path p => exact hTrue
  | comparison left op right =>
    simp only [evalExpr] at hTrue ⊢
    rw [evalValue_withRole, evalValue_withRole]
    exact hTrue
  | functionCall name args =>
    simp only [evalExpr] at hTrue ⊢
    unfold evalFunction at hTrue ⊢
    split at hTrue
    · exact hTrue
    · split at hTrue
      · rename_i asked rest
        have hHas : asked ∈ ctx.roles := by
          simpa using hTrue
        simp [SecurityContext.withRole, hHas]
      · cases hTrue
    · exact hTrue
    · exact hTrue
    · exact hTrue
    · exact hTrue
    · cases hTrue
  | and => cases hAtomic
  | or => cases hAtomic
  | not => cases hAtomic

/- A path that does not lead to the caller's id. -/
theorem resolvePath_signedIn
    {p : String}
    (hAloof : (Expression.path p).readsUid = false)
    (uid : String) :
    resolvePath p (ctx.signedIn uid) = resolvePath p ctx := by
  change ["auth", "uid"].isPrefixOf (splitDots p) = false
    at hAloof
  unfold resolvePath
  split
  · rfl
  · rfl
  · rename_i hSplit
    rw [hSplit] at hAloof
    cases hAloof
  · rfl

theorem evalValue_signedIn
    (hAloof : e.readsUid = false)
    (uid : String) :
    evalValue floats e (ctx.signedIn uid) =
      evalValue floats e ctx := by
  cases e with
  | path p => exact resolvePath_signedIn hAloof uid
  | bool => rfl
  | number => rfl
  | stringLit => rfl
  | functionCall => rfl
  | comparison => rfl
  | and => rfl
  | or => rfl
  | not => rfl

/- What holds of nobody holds of everybody. -/
theorem evalExpr_signedIn
    (hAnonymous : ctx.Anonymous)
    (uid : String)
    (hAloof : e.aloof = true)
    (hAtomic : e.atomic = true)
    (hTrue : evalExpr floats ctx e = true) :
    evalExpr floats (ctx.signedIn uid) e = true := by
  cases e with
  | bool b => exact hTrue
  | number text => exact hTrue
  | stringLit s => exact hTrue
  | path p =>
    simp only [evalExpr] at hTrue ⊢
    cases hReads : (Expression.path p).readsUid with
    | false =>
      rw [resolvePath_signedIn hReads]
      exact hTrue
    | true =>
      -- Nobody has no id, and null is not true.
      rcases List.isPrefixOf_iff_prefix.mp hReads with
        ⟨rest, hSplit⟩
      unfold resolvePath at hTrue
      rw [← hSplit, hAnonymous.1] at hTrue
      cases hTrue
  | comparison left op right =>
    simp only [Expression.aloof, Bool.and_eq_true,
      Bool.not_eq_true'] at hAloof
    simp only [evalExpr] at hTrue ⊢
    rw [evalValue_signedIn hAloof.1,
      evalValue_signedIn hAloof.2]
    exact hTrue
  | functionCall name args =>
    simp only [evalExpr] at hTrue ⊢
    unfold evalFunction at hTrue ⊢
    split at hTrue
    · rfl
    · exact hTrue
    · rw [hAnonymous.1] at hTrue
      split at hTrue <;> cases hTrue
    · rw [hAnonymous.1] at hTrue
      cases hField : stringArg args <;>
        rw [hField] at hTrue <;> cases hTrue
    · simp [Expression.aloof] at hAloof
    · exact hTrue
    · cases hTrue
  | and => cases hAtomic
  | or => cases hAtomic
  | not => cases hAtomic

/-
  A caller with one more role may do what the caller may do,
  and where no expression compares with the caller's id,
  whoever signs in may do what anyone may do.
-/
theorem roles_monotone
    (floats : Floats)
    {text : String}
    {blocks : List RuleBlock}
    {engine : RuleEngine}
    (hText : Grammar.file text = some blocks)
    (hEngine : parseRules text = some engine)
    (hAffirmative : Throughout Expression.affirmative blocks)
    (collection operation : String)
    (ctx : SecurityContext) :
    (∀ role, engine.check floats collection operation ctx =
          .ok true →
        engine.check floats collection operation
          (ctx.withRole role) = .ok true) ∧
      (Throughout Expression.aloof blocks → ctx.Anonymous →
          ∀ uid,
            engine.check floats collection operation ctx =
                .ok true →
              engine.check floats collection operation
                (ctx.signedIn uid) = .ok true) := by
  have hOf : engine = RuleEngine.ofBlocks blocks := by
    unfold parseRules at hEngine
    rw [hText] at hEngine
    exact (Option.some.inj hEngine).symm
  subst hOf
  constructor
  · intro role hTrue
    refine check_mono (fun _ hTest => hTest) ?_ hAffirmative
      hTrue
    intro e _ hAtomic hHolds
    exact evalExpr_withRole role hAtomic hHolds
  · intro hAloof hAnonymous uid hTrue
    have hBoth :
        Throughout
          (fun e => e.affirmative && e.aloof) blocks := by
      intro block hBlock entry hEntry
      exact Expression.every_and
        (hAffirmative block hBlock entry hEntry)
        (hAloof block hBlock entry hEntry)
    refine check_mono ?_ ?_ hBoth hTrue
    · intro e hTest
      exact (Bool.and_eq_true_iff.mp hTest).1
    · intro e hTest hAtomic hHolds
      exact evalExpr_signedIn hAnonymous uid
        (Bool.and_eq_true_iff.mp hTest).2 hAtomic hHolds

theorem throughout_accessFirst
    {test : Expression → Bool}
    (hAccess :
      (Expression.functionCall "isAuthenticated" []).every
        test = true)
    (hDraft : draftEntry.expression.every test = true) :
    Throughout test accessFirst := by
  intro block hBlock entry hEntry
  rw [List.mem_singleton.mp hBlock] at hEntry
  rcases List.mem_cons.mp hEntry with rfl | hLast
  · exact hAccess
  · rw [List.mem_singleton.mp hLast]
    exact hDraft

/- Anyone may create a draft by the validation entry. -/
theorem check_accessFirst_draft :
    (RuleEngine.ofBlocks accessFirst).check .decimal
      "products" "create" (creating none "draft") =
        .ok true := by
  rw [check_ofBlocks, governing_accessFirst]
  change checkRules Floats.decimal _ _ ([.access ["create"]
        (.functionCall "isAuthenticated" []),
      draftEntry].map RuleEntry.rule) = _
  rw [checkRules_eq_verdict, verdict_eq_true]
  exact ⟨draftEntry, by
      rw [List.find?_cons, List.find?_cons,
        decides_draftEntry]
      rfl,
    by rw [holds_draftEntry]; rfl⟩

theorem roles_monotone_draft :
    (RuleEngine.ofBlocks accessFirst).check .decimal
        "products" "create"
        ((creating none "draft").withRole "admin") =
          .ok true ∧
      (RuleEngine.ofBlocks accessFirst).check .decimal
        "products" "create"
        ((creating none "draft").signedIn "u1") =
          .ok true := by
  have hEngine :
      parseRules accessFirstText =
        some (RuleEngine.ofBlocks accessFirst) := by
    unfold parseRules
    rw [file_accessFirst]
    rfl
  have hMonotone :=
    roles_monotone .decimal file_accessFirst hEngine
      (throughout_accessFirst rfl rfl) "products" "create"
      (creating none "draft")
  exact ⟨hMonotone.1 "admin" check_accessFirst_draft,
    hMonotone.2 (throughout_accessFirst rfl (by decide))
      ⟨rfl, rfl⟩ "u1" check_accessFirst_draft⟩

end Orignabase.Security
