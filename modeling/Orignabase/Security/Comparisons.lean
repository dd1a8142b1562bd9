import Orignabase.Core.Numbers
import Orignabase.Security.Validation

/-
  Comparisons of the rules
  (`ob-security/src/evaluator.rs`).

  Key definitions include:
    * `Expression.isCompound`
    * `Agrees`
    * `Comparable`
    * `Coherent`

  Main results:
    * `evalValue_of_compound`
    * `compound_never_agrees`
    * `comparisons_coherent`
-/

--------
-- Conditions as Operands
--------

namespace Orignabase.Security

/- A condition that an operand of a comparison may be. -/
def Expression.isCompound : Expression → Bool
  | .functionCall _ _ => true
  | .comparison _ _ _ => true
  | .and _ => true
  | .or _ => true
  | .not _ => true
  | _ => false

variable (floats : Floats) (ctx : SecurityContext)

/- The value of `left op right` in the context. -/
def compares
    (left : Expression)
    (op : CompOp)
    (right : Expression) : Bool :=
  evalExpr floats ctx (.comparison left op right)

/-
  The condition means the same inside a comparison with
  `true` or `false` as outside of it.
-/
structure Agrees (e : Expression) : Prop where
  eq_true :
    compares floats ctx e .eq (.bool true) =
      evalExpr floats ctx e
  eq_false :
    compares floats ctx e .eq (.bool false) =
      !evalExpr floats ctx e
  neq_true :
    compares floats ctx e .neq (.bool true) =
      !evalExpr floats ctx e
  neq_false :
    compares floats ctx e .neq (.bool false) =
      evalExpr floats ctx e

/- No condition has a value of its own. -/
theorem evalValue_of_compound
    {e : Expression}
    (hCompound : e.isCompound = true) :
    evalValue floats e ctx = .null := by
  cases e with
  | functionCall name args => rfl
  | comparison left op right => rfl
  | and exprs => rfl
  | or exprs => rfl
  | not e => rfl
  | bool b => cases hCompound
  | number text => cases hCompound
  | stringLit s => cases hCompound
  | path p => cases hCompound

/- So it is equal to neither truth value. -/
theorem compares_compound
    {e : Expression}
    (hCompound : e.isCompound = true)
    (b : Bool) :
    compares floats ctx e .eq (.bool b) = false ∧
      compares floats ctx e .neq (.bool b) = true := by
  have hNull := evalValue_of_compound floats ctx hCompound
  unfold compares evalExpr
  rw [hNull]
  exact ⟨rfl, rfl⟩

/-
  No condition means the same inside a comparison, and every
  `e != true` holds, also for callers for whom `e` does.
-/
theorem compound_never_agrees
    {e : Expression}
    (hCompound : e.isCompound = true) :
    ¬ Agrees floats ctx e ∧
      compares floats ctx e .neq (.bool true) = true := by
  have hTrue := compares_compound floats ctx hCompound true
  have hFalse := compares_compound floats ctx hCompound false
  refine ⟨?_, hTrue.2⟩
  intro hAgrees
  have hHolds : evalExpr floats ctx e = false := by
    rw [← hAgrees.eq_true]
    exact hTrue.1
  have hFails : evalExpr floats ctx e = true := by
    rw [← hAgrees.neq_false]
    exact hFalse.2
  rw [hHolds] at hFails
  cases hFails

/- A rule that is meant for callers who are not signed in. -/
def anonymousOnlyText : String :=
  "rules products \x7b read: isAuthenticated() != true; \x7d"

def anonymousOnly : List RuleBlock :=
  [⟨"products", [.access ["read"]
      (.comparison (.functionCall "isAuthenticated" []) .neq
        (.bool true))]⟩]

theorem file_anonymousOnly :
    Grammar.file anonymousOnlyText = some anonymousOnly ∧
      governing anonymousOnly "products" =
        anonymousOnly.head? := by
  decide +kernel

/- The rule lets a caller through who is signed in. -/
theorem signed_in_passes_anonymousOnly :
    Grammar.file anonymousOnlyText = some anonymousOnly ∧
      (RuleEngine.ofBlocks anonymousOnly).check .decimal
          "products" "read" (creating (some "u1") "live") =
        .ok true ∧
      ¬ Agrees .decimal (creating (some "u1") "live")
        (.functionCall "isAuthenticated" []) := by
  refine ⟨file_anonymousOnly.1, ?_, ?_⟩
  · rw [check_ofBlocks, file_anonymousOnly.2]
    rfl
  · intro hAgrees
    cases hAgrees.eq_true

theorem compound_never_agrees_not :
    ¬ Agrees .decimal (creating none "live")
        (.not (.bool true)) ∧
      compares .decimal (creating none "live")
        (.not (.bool true)) .neq (.bool true) = true :=
  compound_never_agrees .decimal (creating none "live") rfl

--------
-- Operands with an Order
--------

/- A number that is an integer of magnitude at most `2 ^ 53`. -/
def IsInteger (v : Value) (z : ℤ) : Prop :=
  ∃ n, v = .number n ∧ n.Holds z ∧ z.natAbs ≤ 2 ^ 53

/- Two integers, however they are held, or two texts. -/
def Comparable (v w : Value) : Prop :=
  (∃ y z, IsInteger v y ∧ IsInteger w z) ∨
    ∃ s t, v = .string s ∧ w = .string t

/- One number, held once as an integer and once as a float. -/
def Mixed (v w : Value) : Prop :=
  ∃ m n z, v = .number m ∧ w = .number n ∧
    (m.stored = .integer z ∧ n.stored = .float z ∨
      m.stored = .float z ∧ n.stored = .integer z)

/- The answer of `v op w`. -/
def answer (v : Value) (op : CompOp) (w : Value) : Bool :=
  compareValues .binary64 v op w

/- The six operators are those of one linear order. -/
structure Coherent (v w : Value) : Prop where
  one :
    [answer v .lt w, answer v .eq w,
      answer v .gt w].count true = 1
  lte : answer v .lte w = (answer v .lt w || answer v .eq w)
  gte : answer v .gte w = (answer v .gt w || answer v .eq w)
  neq : answer v .neq w = !answer v .eq w

/- The operands are ordered, and neither `<`, `==` nor `>`. -/
structure Torn (v w : Value) : Prop where
  none :
    [answer v .lt w, answer v .eq w,
      answer v .gt w].count true = 0
  lte : answer v .lte w = true
  gte : answer v .gte w = true
  neq : answer v .neq w = true

theorem coherent_strings (s t : String) :
    Coherent (.string s) (.string t) := by
  by_cases hSame : s = t
  · subst hSame
    have hIrrefl : Text.lt s s = false :=
      Text.before_irrefl s.toList
    constructor <;>
      simp [answer, compareValues, compareOrder, Value.eq,
        Text.le, hIrrefl]
  · have hChars : s.toList ≠ t.toList := fun hChars =>
      hSame (String.toList_injective hChars)
    have hOther : t ≠ s := Ne.symm hSame
    rcases Text.before_total hChars with hLess | hMore
    · have hBack := Text.before_asymm hLess
      change Text.lt s t = true at hLess
      change Text.lt t s = false at hBack
      constructor <;>
        simp [answer, compareValues, compareOrder, Value.eq,
          Text.le, hLess, hBack, hSame, hOther]
    · have hBack := Text.before_asymm hMore
      change Text.lt t s = true at hMore
      change Text.lt s t = false at hBack
      constructor <;>
        simp [answer, compareValues, compareOrder, Value.eq,
          Text.le, hMore, hBack, hSame, hOther]

section Integers

variable {m n : Number} {y z : ℤ}

/- The answers for two integers. -/
theorem answer_integers
    (hLeft : m.stored.toF64 = y)
    (hRight : n.stored.toF64 = z) :
    answer (.number m) .lt (.number n) = decide (y < z) ∧
      answer (.number m) .gt (.number n) = decide (z < y) ∧
      answer (.number m) .lte (.number n) = decide (y ≤ z) ∧
      answer (.number m) .gte (.number n) =
        decide (z ≤ y) := by
  simp [answer, compareValues, compareOrder, Floats.binary64,
    hLeft, hRight]

theorem answer_eq_iff :
    answer (.number m) .eq (.number n) = true ↔
      m.stored = n.stored := by
  simp [answer, compareValues, Value.eq, Floats.binary64]

theorem answer_neq (v w : Value) :
    answer v .neq w = !answer v .eq w := rfl

/- Equality is the one of integers, unless the tags differ. -/
theorem stored_eq_iff
    (hLeft : m.Holds y)
    (hRight : n.Holds z)
    (hMixed : ¬ Mixed (.number m) (.number n)) :
    m.stored = n.stored ↔ y = z := by
  constructor
  · intro hSame
    rcases hLeft with hLeft | hLeft <;>
      rcases hRight with hRight | hRight <;>
      rw [hLeft, hRight] at hSame
    · exact Stored.integer.inj hSame
    · cases hSame
    · cases hSame
    · exact Int.cast_injective (Stored.float.inj hSame)
  · rintro rfl
    rcases hLeft with hLeft | hLeft <;>
      rcases hRight with hRight | hRight
    · rw [hLeft, hRight]
    · exact absurd
        ⟨m, n, y, rfl, rfl, Or.inl ⟨hLeft, hRight⟩⟩ hMixed
    · exact absurd
        ⟨m, n, y, rfl, rfl, Or.inr ⟨hLeft, hRight⟩⟩ hMixed
    · rw [hLeft, hRight]

theorem coherent_integers
    (hLeft : IsInteger (.number m) y)
    (hRight : IsInteger (.number n) z)
    (hMixed : ¬ Mixed (.number m) (.number n)) :
    Coherent (.number m) (.number n) := by
  rcases hLeft with ⟨_, ⟨rfl⟩, hLeft, hLeftSmall⟩
  rcases hRight with ⟨_, ⟨rfl⟩, hRight, hRightSmall⟩
  obtain ⟨hLt, hGt, hLte, hGte⟩ :=
    answer_integers (m.toF64_of_holds hLeft hLeftSmall)
      (n.toF64_of_holds hRight hRightSmall)
  have hEq :
      answer (.number m) .eq (.number n) =
        decide (y = z) := by
    rw [Bool.eq_iff_iff, answer_eq_iff,
      stored_eq_iff hLeft hRight hMixed, decide_eq_true_iff]
  constructor
  · rw [hLt, hEq, hGt]
    rcases Int.lt_trichotomy y z with hLess | hSame | hMore
    · simp [hLess, hLess.ne, hLess.not_gt]
    · simp [hSame]
    · simp [hMore, hMore.ne', hMore.not_gt]
  · rw [hLte, hLt, hEq, ← Bool.decide_or]
    exact decide_eq_decide.mpr Int.le_iff_lt_or_eq
  · rw [hGte, hGt, hEq, ← Bool.decide_or]
    refine decide_eq_decide.mpr ?_
    rw [Int.le_iff_lt_or_eq, eq_comm]
  · exact answer_neq _ _

/- A number and the same number with the other tag. -/
theorem torn_of_mixed
    (hSmall : z.natAbs ≤ 2 ^ 53)
    (hLeft : m.Holds z)
    (hRight : n.Holds z)
    (hTags : m.stored ≠ n.stored) :
    Torn (.number m) (.number n) := by
  obtain ⟨hLt, hGt, hLte, hGte⟩ :=
    answer_integers (m.toF64_of_holds hLeft hSmall)
      (n.toF64_of_holds hRight hSmall)
  have hEq :
      answer (.number m) .eq (.number n) = false := by
    rw [← Bool.not_eq_true, answer_eq_iff]
    exact hTags
  constructor
  · rw [hLt, hEq, hGt]
    simp
  · rw [hLte]
    simp
  · rw [hGte]
    simp
  · rw [answer_neq, hEq]
    rfl

end Integers

/- What a number holds is told by how it is held. -/
theorem holds_eq
    {n : Number}
    {y z : ℤ}
    (hHolds : n.Holds y)
    (hOther : n.Holds z) :
    y = z := by
  rcases hHolds with hHolds | hHolds <;>
    rcases hOther with hOther | hOther <;>
    rw [hHolds] at hOther
  · exact Stored.integer.inj hOther
  · cases hOther
  · cases hOther
  · exact Int.cast_injective (Stored.float.inj hOther)

/- The literals of the rules are floats. -/
theorem literal_float
    {text : String}
    {ctx : SecurityContext}
    {n : Number}
    (hLiteral :
      evalValue .binary64 (.number text) ctx = .number n) :
    ∃ x, n.stored = .float x := by
  unfold evalValue Floats.binary64 at hLiteral
  dsimp only at hLiteral
  split_ifs at hLiteral with hFinite
  · rw [← Value.number.inj hLiteral]
    exact ⟨_, stored_readLiteral text⟩

/-
  The operators are those of one linear order, except for an
  integer and the same number as a float, to which a literal
  is always read.
-/
theorem comparisons_coherent
    {v w : Value}
    (hComparable : Comparable v w) :
    ((¬ Mixed v w → Coherent v w) ∧
        (Mixed v w → Torn v w)) ∧
      ∀ text ctx n,
        evalValue .binary64 (.number text) ctx = .number n →
          ∃ x, n.stored = .float x := by
  refine ⟨?_, fun _ _ _ hLiteral =>
    literal_float hLiteral⟩
  rcases hComparable with ⟨y, z, hLeft, hRight⟩ | hTexts
  · have hLeft' := hLeft
    have hRight' := hRight
    rcases hLeft' with ⟨m, rfl, hm, hSmall⟩
    rcases hRight' with ⟨n, rfl, hn, _⟩
    refine ⟨coherent_integers hLeft hRight, ?_⟩
    rintro ⟨_, _, k, ⟨rfl⟩, ⟨rfl⟩, hTags⟩
    have hBoth : m.Holds k ∧ n.Holds k ∧ m.stored ≠ n.stored := by
      rcases hTags with ⟨hInteger, hFloat⟩ | ⟨hFloat, hInteger⟩
      · refine ⟨Or.inl hInteger, Or.inr hFloat, ?_⟩
        rw [hInteger, hFloat]
        exact Stored.noConfusion
      · refine ⟨Or.inr hFloat, Or.inl hInteger, ?_⟩
        rw [hInteger, hFloat]
        exact Stored.noConfusion
    rw [← holds_eq hm hBoth.1] at hBoth
    exact torn_of_mixed hSmall hBoth.1 hBoth.2.1 hBoth.2.2
  · rcases hTexts with ⟨s, t, rfl, rfl⟩
    refine ⟨fun _ => coherent_strings s t, ?_⟩
    rintro ⟨_, _, _, ⟨⟩, _⟩

/- A quantity of five as a document holds it. -/
def five : Number := { int := 5 }

theorem holds_five :
    five.stored = .integer 5 ∧
      (readLiteral "5").stored = .float 5 ∧
      evalValue .binary64 (.number "5") (creating none "live") =
        .number (readLiteral "5") := by
  decide +kernel

theorem mixed_five :
    Mixed (.number five) (.number (readLiteral "5")) :=
  ⟨five, readLiteral "5", 5, rfl, rfl,
    Or.inl ⟨holds_five.1, holds_five.2.1⟩⟩

theorem comparable_five :
    Comparable (.number five) (.number (readLiteral "5")) :=
  Or.inl ⟨5, 5, ⟨five, rfl, Or.inl holds_five.1, by decide⟩,
    ⟨readLiteral "5", rfl, Or.inr holds_five.2.1,
      by decide⟩⟩

theorem comparisons_of_five :
    Torn (.number five) (.number (readLiteral "5")) ∧
      Coherent (.string "draft") (.string "live") := by
  have hTexts : Comparable (.string "draft") (.string "live") :=
    Or.inr ⟨_, _, rfl, rfl⟩
  refine ⟨(comparisons_coherent comparable_five).1.2
    mixed_five, (comparisons_coherent hTexts).1.1 ?_⟩
  rintro ⟨_, _, _, ⟨⟩, _⟩

/-
  A document with the integer 5 is not one whose quantity
  `== 5`, though it is neither below nor above it.
-/
theorem quantity_incoherent :
    ¬ Coherent (.number five)
      (evalValue .binary64 (.number "5")
        (creating none "live")) := by
  rw [holds_five.2.2]
  intro hCoherent
  have hOne := hCoherent.one
  have hLt :
      answer (.number five) .lt (.number (readLiteral "5")) =
          false ∧
        answer (.number five) .eq
            (.number (readLiteral "5")) = false ∧
        answer (.number five) .gt
            (.number (readLiteral "5")) = false := by
    decide +kernel
  rw [hLt.1, hLt.2.1, hLt.2.2] at hOne
  cases hOne

end Orignabase.Security
