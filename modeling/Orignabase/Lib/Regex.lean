import Mathlib.Data.List.Basic

/-
  Regular expressions whose repetitions are over sets of
  characters, searched from left to right without overlap, and
  at each place in the order of preference of a backtracking
  matcher.

  Key definitions include:
    * `Regex`
    * `Regex.ends`
    * `Regex.Matches`
    * `Regex.replaceAll`

  Main results:
    * `Regex.mem_ends_iff`
    * `Regex.find_eq_some`
    * `Regex.replaceFrom_free`
-/

--------
-- Expressions
--------

/- `most` is none for a repetition without a bound. -/
inductive Regex
  | empty
  | run
      (set : Char → Bool)
      (least : ℕ)
      (most : Option ℕ)
      (greedy : Bool)
  | boundary
  | seq (first second : Regex)
  | alt (first second : Regex)

namespace Regex

/- One character of a set. -/
def one (set : Char → Bool) : Regex :=
  .run set 1 (some 1) true

def many (set : Char → Bool) (least : ℕ) : Regex :=
  .run set least none true

def lazily (set : Char → Bool) : Regex :=
  .run set 0 none false

/- Expressions one after another. -/
def all : List Regex → Regex
  | [] => .empty
  | r :: rest => .seq r (all rest)

/- A text in letters of either case. -/
def word (text : String) : Regex :=
  all (text.toList.map (fun c =>
    one (fun d => d.toLower == c)))

/- The characters between which there is no word boundary. -/
def isWord (c : Char) : Bool :=
  c.isAlphanum || c == '_'

/- The last character of a text that follows another one. -/
def lastOf (before : Option Char) (text : List Char) :
    Option Char :=
  text.getLast?.or before

/-
  The lengths of the matches at the front of a text, the
  preferred one first.  `before` is the character in front.
-/
def ends : Regex → Option Char → List Char → List ℕ
  | .empty, _, _ => [0]
  | .run set least most greedy, _, text =>
    let long := (text.takeWhile set).length
    let cap := (most.map (min long)).getD long
    let lengths := List.range' least (cap + 1 - least)
    if greedy then lengths.reverse else lengths
  | .boundary, before, text =>
    if before.any isWord != text.head?.any isWord then [0]
    else []
  | .seq first second, before, text =>
    (first.ends before text).flatMap (fun n =>
      (second.ends (lastOf before (text.take n))
        (text.drop n)).map (n + ·))
  | .alt first second, before, text =>
    first.ends before text ++ second.ends before text

/- The length of the match at the front of a text. -/
def find (r : Regex) (before : Option Char)
    (text : List Char) : Option ℕ :=
  (r.ends before text).head?

/-
  Replace every match.  `skip` counts what is left of a match
  that has been replaced.
-/
def replaceFrom
    (r : Regex)
    (by_ : List Char → List Char) :
    ℕ → Option Char → List Char → List Char
  | _, _, [] => []
  | skip + 1, _, c :: text =>
    replaceFrom r by_ skip (some c) text
  | 0, before, c :: text =>
    match r.find before (c :: text) with
    | some (n + 1) =>
      by_ ((c :: text).take (n + 1)) ++
        replaceFrom r by_ n (some c) text
    | _ => c :: replaceFrom r by_ 0 (some c) text

theorem replaceFrom_none
    {r : Regex}
    {by_ : List Char → List Char}
    {before : Option Char}
    {text : List Char}
    {c : Char}
    (hNone : r.find before (c :: text) = none) :
    r.replaceFrom by_ 0 before (c :: text) =
      c :: r.replaceFrom by_ 0 (some c) text := by
  rw [replaceFrom, hNone]

theorem replaceFrom_found
    {r : Regex}
    {by_ : List Char → List Char}
    {before : Option Char}
    {text : List Char}
    {c : Char}
    {n : ℕ}
    (hFound : r.find before (c :: text) = some (n + 1)) :
    r.replaceFrom by_ 0 before (c :: text) =
      by_ ((c :: text).take (n + 1)) ++
        r.replaceFrom by_ n (some c) text := by
  rw [replaceFrom, hFound]

def replaceAll
    (r : Regex)
    (by_ : List Char → List Char)
    (text : List Char) : List Char :=
  r.replaceFrom by_ 0 none text

--------
-- Matches
--------

/- A text is matched between two others. -/
inductive Matches :
    Regex → Option Char → List Char → List Char → Prop
  | empty {before : Option Char} {after : List Char} :
      Matches .empty before [] after
  | run
      {set : Char → Bool}
      {least : ℕ}
      {most : Option ℕ}
      {greedy : Bool}
      {before : Option Char}
      {text after : List Char}
      (hSet : ∀ c ∈ text, set c = true)
      (hLeast : least ≤ text.length)
      (hMost : ∀ m ∈ most, text.length ≤ m) :
      Matches (.run set least most greedy) before text after
  | boundary
      {before : Option Char}
      {after : List Char}
      (hEdge :
        (before.any isWord != after.head?.any isWord) =
          true) :
      Matches .boundary before [] after
  | seq
      {r s : Regex}
      {before : Option Char}
      {text rest after : List Char}
      (hFirst : Matches r before text (rest ++ after))
      (hSecond :
        Matches s (lastOf before text) rest after) :
      Matches (.seq r s) before (text ++ rest) after
  | left
      {r s : Regex}
      {before : Option Char}
      {text after : List Char}
      (hFirst : Matches r before text after) :
      Matches (.alt r s) before text after
  | right
      {r s : Regex}
      {before : Option Char}
      {text after : List Char}
      (hSecond : Matches s before text after) :
      Matches (.alt r s) before text after

variable {set : Char → Bool} {n : ℕ} {r : Regex}

theorem mem_takeWhile_length_iff
    {text : List Char} :
    n ≤ (text.takeWhile set).length ↔
      n ≤ text.length ∧ ∀ c ∈ text.take n, set c = true := by
  induction text generalizing n with
  | nil => simp
  | cons c text ih =>
    cases n with
    | zero => simp
    | succ n =>
      by_cases hSet : set c = true
      · rw [List.takeWhile_cons_of_pos hSet]
        simp only [List.length_cons, Nat.succ_le_succ_iff,
          ih, List.take_succ_cons, List.mem_cons,
          forall_eq_or_imp, hSet, true_and]
      · rw [List.takeWhile_cons_of_neg hSet]
        simp [hSet]

/- The matcher finds the matches and nothing else. -/
theorem mem_ends_iff
    {before : Option Char}
    {text : List Char} :
    n ∈ r.ends before text ↔ n ≤ text.length ∧
        Matches r before (text.take n) (text.drop n) := by
  induction r generalizing before text n with
  | empty =>
    constructor
    · intro hMem
      rw [ends, List.mem_singleton] at hMem
      subst hMem
      exact ⟨Nat.zero_le _, .empty⟩
    · rintro ⟨hLe, hMatch⟩
      rw [ends, List.mem_singleton]
      generalize hText : text.take n = front at hMatch
      cases hMatch
      have hLength := congrArg List.length hText
      rw [List.length_take, Nat.min_eq_left hLe] at hLength
      exact hLength
  | run set least most greedy =>
    have hEnds :
        n ∈ ends (.run set least most greedy) before text ↔
          least ≤ n ∧ n ≤ (text.takeWhile set).length ∧
              ∀ m ∈ most, n ≤ m := by
      cases most <;> cases greedy <;>
        simp only [ends, Option.map_none, Option.map_some,
          Option.getD_none, Option.getD_some, if_true,
          Bool.false_eq_true, if_false, List.mem_reverse,
          List.mem_range'_1, Option.mem_def, reduceCtorEq,
          false_imp_iff, implies_true, and_true,
          Option.some.injEq, forall_eq'] <;>
        omega
    rw [hEnds, mem_takeWhile_length_iff]
    constructor
    · rintro ⟨hLeast, ⟨hLe, hSet⟩, hMost⟩
      have hLength : (text.take n).length = n := by
        rw [List.length_take, Nat.min_eq_left hLe]
      exact ⟨hLe, .run hSet (by rw [hLength]; exact hLeast)
        (by rw [hLength]; exact hMost)⟩
    · rintro ⟨hLe, hMatch⟩
      have hLength : (text.take n).length = n := by
        rw [List.length_take, Nat.min_eq_left hLe]
      cases hMatch with
      | run hSet hLeast hMost =>
        rw [hLength] at hLeast hMost
        exact ⟨hLeast, ⟨hLe, hSet⟩, hMost⟩
  | boundary =>
    constructor
    · intro hMem
      rw [ends] at hMem
      split at hMem
      next hEdge =>
        rw [List.mem_singleton] at hMem
        subst hMem
        exact ⟨Nat.zero_le _, .boundary hEdge⟩
      next => exact absurd hMem List.not_mem_nil
    · rintro ⟨hLe, hMatch⟩
      generalize hText : text.take n = front at hMatch
      generalize hRest : text.drop n = rest at hMatch
      cases hMatch with
      | boundary hEdge =>
        have hLength := congrArg List.length hText
        rw [List.length_take,
          Nat.min_eq_left hLe] at hLength
        change n = 0 at hLength
        subst hLength
        rw [List.drop_zero] at hRest
        rw [ends, hRest, if_pos hEdge]
        exact List.mem_singleton.mpr rfl
  | seq r s ihR ihS =>
    rw [ends, List.mem_flatMap]
    constructor
    · rintro ⟨k, hK, hMem⟩
      rcases List.mem_map.mp hMem with ⟨m, hM, rfl⟩
      rcases ihR.mp hK with ⟨hKLe, hFirst⟩
      rcases ihS.mp hM with ⟨hMLe, hSecond⟩
      rw [List.length_drop] at hMLe
      have hTake :
          text.take (k + m) =
            text.take k ++ (text.drop k).take m := by
        rw [List.take_add]
      refine ⟨by omega, ?_⟩
      rw [hTake, ← List.drop_drop]
      refine .seq ?_ hSecond
      rwa [List.take_append_drop]
    · rintro ⟨hLe, hMatch⟩
      generalize hText : text.take n = front at hMatch
      generalize hRest : text.drop n = rest at hMatch
      cases hMatch with
      | @seq _ _ _ first second _ hFirst hSecond =>
        have hWhole :
            text = first ++ (second ++ rest) := by
          rw [← List.take_append_drop n text, hText,
            hRest, List.append_assoc]
        have hLength : first.length + second.length = n := by
          have hBoth := congrArg List.length hText
          rw [List.length_take, Nat.min_eq_left hLe,
            List.length_append] at hBoth
          exact hBoth.symm
        refine ⟨first.length, ihR.mpr ?_, List.mem_map.mpr
            ⟨second.length, ihS.mpr ?_, hLength⟩⟩
        · rw [hWhole, List.take_left, List.drop_left]
          exact ⟨by simp, hFirst⟩
        · rw [hWhole, List.take_left, List.drop_left,
            List.take_left, List.drop_left]
          exact ⟨by simp, hSecond⟩
  | alt r s ihR ihS =>
    rw [ends, List.mem_append, ihR, ihS]
    constructor
    · rintro (⟨hLe, hMatch⟩ | ⟨hLe, hMatch⟩)
      · exact ⟨hLe, .left hMatch⟩
      · exact ⟨hLe, .right hMatch⟩
    · rintro ⟨hLe, hMatch⟩
      cases hMatch with
      | left hFirst => exact Or.inl ⟨hLe, hFirst⟩
      | right hSecond => exact Or.inr ⟨hLe, hSecond⟩

--------
-- The Texts of an Expression
--------

variable {before : Option Char} {text after : List Char}

theorem matches_empty_iff :
    Matches .empty before text after ↔ text = [] := by
  constructor
  · intro hMatch
    cases hMatch
    rfl
  · rintro rfl
    exact .empty

theorem matches_seq_iff {r s : Regex} :
    Matches (.seq r s) before text after ↔
      ∃ first rest, text = first ++ rest ∧
        Matches r before first (rest ++ after) ∧
        Matches s (lastOf before first) rest after := by
  constructor
  · intro hMatch
    cases hMatch with
    | seq hFirst hSecond =>
      exact ⟨_, _, rfl, hFirst, hSecond⟩
  · rintro ⟨first, rest, rfl, hFirst, hSecond⟩
    exact .seq hFirst hSecond

theorem matches_run_iff
    {least : ℕ}
    {most : Option ℕ}
    {greedy : Bool} :
    Matches (.run set least most greedy) before text after ↔
      (∀ c ∈ text, set c = true) ∧ least ≤ text.length ∧
        ∀ m ∈ most, text.length ≤ m := by
  constructor
  · intro hMatch
    cases hMatch with
    | run hSet hLeast hMost => exact ⟨hSet, hLeast, hMost⟩
  · rintro ⟨hSet, hLeast, hMost⟩
    exact .run hSet hLeast hMost

theorem matches_one_iff {set : Char → Bool} :
    Matches (.one set) before text after ↔
      ∃ c, text = [c] ∧ set c = true := by
  unfold one
  rw [matches_run_iff]
  constructor
  · rintro ⟨hSet, hLeast, hMost⟩
    have hLength : text.length = 1 :=
      Nat.le_antisymm (hMost 1 rfl) hLeast
    rcases List.length_eq_one_iff.mp hLength with ⟨c, rfl⟩
    exact ⟨c, rfl, hSet c List.mem_cons_self⟩
  · rintro ⟨c, rfl, hSet⟩
    refine ⟨by simpa using hSet, Nat.le_refl 1, ?_⟩
    intro m hMem
    cases hMem
    exact Nat.le_refl 1

theorem matches_many_iff
    {least : ℕ} :
    Matches (.many set least) before text after ↔
      (∀ c ∈ text, set c = true) ∧ least ≤ text.length := by
  unfold many
  rw [matches_run_iff]
  simp

theorem matches_lazily_iff {set : Char → Bool} :
    Matches (.lazily set) before text after ↔
      ∀ c ∈ text, set c = true := by
  unfold lazily
  rw [matches_run_iff]
  simp

theorem matches_one_seq_iff
    {s : Regex} :
    Matches (.seq (.one set) s) before text after ↔
      ∃ c rest, text = c :: rest ∧ set c = true ∧
        Matches s (some c) rest after := by
  rw [matches_seq_iff]
  constructor
  · rintro ⟨first, rest, rfl, hFirst, hRest⟩
    rcases matches_one_iff.mp hFirst with ⟨c, rfl, hSet⟩
    exact ⟨c, rest, rfl, hSet, hRest⟩
  · rintro ⟨c, rest, rfl, hSet, hRest⟩
    exact ⟨[c], rest, rfl, matches_one_iff.mpr ⟨c, rfl, hSet⟩,
      hRest⟩

/- A word is matched in letters of either case. -/
theorem matches_word_iff {w : String} :
    Matches (.word w) before text after ↔
      text.map Char.toLower = w.toList := by
  unfold word
  generalize w.toList = letters
  induction letters generalizing before text with
  | nil =>
    rw [List.map_nil, all, matches_empty_iff,
      List.map_eq_nil_iff]
  | cons d letters ih =>
    rw [List.map_cons, all, matches_one_seq_iff]
    constructor
    · rintro ⟨c, rest, rfl, hSame, hRest⟩
      rw [List.map_cons, ih.mp hRest, eq_of_beq hSame]
    · intro hText
      rcases List.map_eq_cons_iff.mp hText with
        ⟨c, rest, rfl, hSame, hRest⟩
      exact ⟨c, rest, rfl, beq_iff_eq.mpr hSame,
        ih.mpr hRest⟩

--------
-- Searching
--------

theorem mem_ends_of_matches
    (hMatch : Matches r before text after) :
    text.length ∈ r.ends before (text ++ after) := by
  refine mem_ends_iff.mpr ⟨by simp, ?_⟩
  rw [List.take_left, List.drop_left]
  exact hMatch

theorem matches_of_mem_ends
    (hMem : n ∈ r.ends before text) :
    ∃ mid after, text = mid ++ after ∧ mid.length = n ∧
      Matches r before mid after := by
  rcases mem_ends_iff.mp hMem with ⟨hLe, hMatch⟩
  exact ⟨text.take n, text.drop n,
    (List.take_append_drop n text).symm,
    List.length_take_of_le hLe, hMatch⟩

theorem find_eq_none
    (hNever :
      ∀ mid after, text = mid ++ after →
        ¬ Matches r before mid after) :
    r.find before text = none := by
  unfold find
  rw [List.head?_eq_none_iff, List.eq_nil_iff_forall_not_mem]
  intro n hMem
  rcases matches_of_mem_ends hMem with
    ⟨mid, after, hText, _, hMatch⟩
  exact hNever mid after hText hMatch

/- The only match is found. -/
theorem find_eq_some
    (hMatch : Matches r before text after)
    (hOnly :
      ∀ mid after', text ++ after = mid ++ after' →
        Matches r before mid after' → mid = text) :
    r.find before (text ++ after) = some text.length := by
  unfold find
  cases hHead : (r.ends before (text ++ after)).head? with
  | none =>
    have hMem := mem_ends_of_matches hMatch
    rw [List.head?_eq_none_iff.mp hHead] at hMem
    cases hMem
  | some n =>
    rcases matches_of_mem_ends (List.mem_of_head? hHead) with
      ⟨mid, after', hText, hLength, hOther⟩
    rw [← hLength, hOnly mid after' hText hOther]

theorem lastOf_cons (c : Char) (text : List Char) :
    lastOf before (c :: text) = lastOf (some c) text := by
  unfold lastOf
  rw [List.getLast?_cons]
  cases text.getLast? <;> rfl

section

variable {r : Regex} {by_ : List Char → List Char}

theorem replaceFrom_skip (front text : List Char) :
    r.replaceFrom by_ front.length before (front ++ text) =
      r.replaceFrom by_ 0 (lastOf before front) text := by
  induction front generalizing before with
  | nil => rfl
  | cons c front ih =>
    rw [lastOf_cons, ← ih]
    rfl

/- A match that is found is replaced as a whole. -/
theorem replaceFrom_some
    (hText : text ≠ [])
    (hFind :
      r.find before (text ++ after) = some text.length) :
    r.replaceFrom by_ 0 before (text ++ after) = by_ text ++
        r.replaceFrom by_ 0 (lastOf before text) after := by
  cases text with
  | nil => exact absurd rfl hText
  | cons c text =>
    rw [List.cons_append, List.length_cons] at hFind
    rw [List.cons_append, replaceFrom_found hFind,
      lastOf_cons, replaceFrom_skip]
    exact congrArg (fun front => by_ front ++ _)
      (List.take_left' (List.length_cons (a := c)))

/- Nothing is found at characters of a set. -/
theorem replaceFrom_free
    {set : Char → Bool}
    (hFree :
      ∀ before c text, set c = true →
        r.find before (c :: text) = none)
    {front : List Char}
    (hFront : ∀ c ∈ front, set c = true)
    (text : List Char) :
    r.replaceFrom by_ 0 before (front ++ text) = front ++
        r.replaceFrom by_ 0 (lastOf before front) text := by
  induction front generalizing before with
  | nil => rfl
  | cons c front ih =>
    rcases List.forall_mem_cons.mp hFront with ⟨hC, hRest⟩
    rw [List.cons_append,
      replaceFrom_none (hFree before c _ hC), ih hRest,
      lastOf_cons, List.cons_append]

/- What is left, if the matches are dropped. -/
theorem replaceFrom_sublist (skip : ℕ) :
    (r.replaceFrom (fun _ => []) skip before text).Sublist
      text := by
  induction text generalizing skip before with
  | nil => cases skip <;> exact List.Sublist.refl _
  | cons c text ih =>
    cases skip with
    | succ skip => exact (ih skip).cons c
    | zero =>
      unfold replaceFrom
      split
      · exact (ih _).cons c
      · exact (ih 0).cons_cons c

end

end Regex
