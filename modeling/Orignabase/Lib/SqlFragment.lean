import Orignabase.Lib.SqlLexer
import Mathlib.Data.List.Infix
import Mathlib.Tactic.Cases

/-
  A calculus of statement fragments.

  A fragment is a piece of statement text together with the
  tokens it is meant to stand for and the condition under
  which it does.  `Frag` says that the fragment reads as its
  tokens when the condition holds, and that the token
  sequence goes wrong inside the fragment when it does not,
  whatever follows.

  Key definitions include:
    * `boundary`
    * `Reads`
    * `Derails`
    * `Frag`

  The composition rules are:
    * `Frag.lead`
    * `Frag.append`
    * `Frag.glue`
    * `Frag.join`
-/

--------
-- Reading And Derailing
--------

namespace Sql

/-
  Texts before which a word, a number and a plain literal
  have certainly ended.
-/
def boundary : List Char → Bool
  | [] => true
  | ' ' :: c :: _ => !isSpace c && c != '\'' && c != '-'
  | c :: _ => c = ')' || c = ','

/- The text `cs` stands for exactly the tokens `ts`. -/
def Reads (cs : List Char) (ts : List Token) : Prop :=
  ∀ rest, boundary rest = true →
    lexFrom .start (cs ++ rest) =
      (lexFrom .start rest).map (ts ++ ·)

/-
  However the text `cs` is continued, the tokens do not
  start with `ts`.
-/
def Derails (cs : List Char) (ts : List Token) : Prop :=
  ∀ rest, boundary rest = true →
    ∀ out, lexFrom .start (cs ++ rest) = some out →
      ¬ ts <+: out

/- Separator text that starts and ends between tokens. -/
structure Glue (cs : List Char) (ts : List Token) :
    Prop where
  run_eq : LexState.run ⟨.start, []⟩ cs = ⟨.start, ts⟩
  boundary_append :
    ∀ rest, boundary (cs ++ rest) = true

/- Text that means `ts` exactly when `clean` holds. -/
structure Frag
    (cs : List Char)
    (ts : List Token)
    (clean : Prop) : Prop where
  reads : clean → Reads cs ts
  derails : ¬ clean → Derails cs ts

namespace Reads

theorem nil : Reads [] [] := by
  intro rest _
  cases h : lexFrom .start rest <;> simp [h]

end Reads

namespace Frag

variable {as bs cs : List Char} {ta tb tg : List Token}
variable {p q : Prop}

/- A fragment that always reads. -/
theorem of_reads
    (hReads : Reads as ta)
    (hp : p) :
    Frag as ta p :=
  ⟨fun _ => hReads, fun hNot => absurd hp hNot⟩

/- Fixed text before the first fragment. -/
theorem lead
    (hRun :
      LexState.run ⟨.start, []⟩ as = ⟨.start, ta⟩)
    (hFrag : Frag bs tb q) :
    Frag (as ++ bs) (ta ++ tb) q := by
  constructor
  · intro hClean rest hRest
    rw [List.append_assoc, lexFrom_append hRun,
      hFrag.reads hClean rest hRest, Option.map_map]
    congr 1
    funext out
    simp
  · intro hNot rest hRest out hOut hPrefix
    rw [List.append_assoc, lexFrom_append hRun] at hOut
    rcases Option.map_eq_some_iff.mp hOut with
      ⟨tail, hTail, rfl⟩
    exact hFrag.derails hNot rest hRest tail hTail
      ((List.prefix_append_right_inj ta).mp hPrefix)

/- Two fragments, the second starting at a boundary. -/
theorem append
    (hLeft : Frag as ta p)
    (hRight : Frag bs tb q)
    (hStop : ∀ rest, boundary (bs ++ rest) = true) :
    Frag (as ++ bs) (ta ++ tb) (p ∧ q) := by
  constructor
  · rintro ⟨hp, hq⟩ rest hRest
    rw [List.append_assoc, hLeft.reads hp _ (hStop rest),
      hRight.reads hq rest hRest, Option.map_map]
    congr 1
    funext out
    simp
  · intro hNot rest hRest out hOut hPrefix
    rw [List.append_assoc] at hOut
    by_cases hp : p
    · have hq : ¬ q := fun hq => hNot ⟨hp, hq⟩
      rw [hLeft.reads hp _ (hStop rest)] at hOut
      rcases Option.map_eq_some_iff.mp hOut with
        ⟨tail, hTailOut, rfl⟩
      exact hRight.derails hq rest hRest tail hTailOut
        ((List.prefix_append_right_inj ta).mp hPrefix)
    · exact hLeft.derails hp _ (hStop rest) out hOut
        ((List.prefix_append ta _).trans hPrefix)

/- Two fragments with separator text between them. -/
theorem glue
    (hLeft : Frag as ta p)
    (hGlue : Glue cs tg)
    (hRight : Frag bs tb q) :
    Frag (as ++ (cs ++ bs)) (ta ++ (tg ++ tb)) (p ∧ q) := by
  apply hLeft.append (lead hGlue.run_eq hRight)
  intro rest
  rw [List.append_assoc]
  exact hGlue.boundary_append _

/- Closing text after a fragment. -/
theorem trail
    (hLeft : Frag as ta p)
    (hGlue : Glue cs tg) :
    Frag (as ++ cs) (ta ++ tg) p := by
  have hEmpty : Frag [] [] True :=
    of_reads Reads.nil trivial
  have hAll := glue hLeft hGlue hEmpty
  simpa using hAll

theorem congr_clean
    (hFrag : Frag as ta p)
    (hIff : p ↔ q) :
    Frag as ta q := by
  rw [← propext hIff]
  exact hFrag

/-
  A whole statement has the intended tokens exactly when it
  is clean.
-/
theorem lexFrom_eq_iff
    (hFrag : Frag as ta p) :
    lexFrom .start as = some ta ↔ p := by
  have hEnd : lexFrom .start [] = some [] := rfl
  constructor
  · intro hLex
    by_contra hNot
    have hDerails := hFrag.derails hNot [] rfl ta
    rw [List.append_nil] at hDerails
    exact hDerails hLex List.prefix_rfl
  · intro hp
    have hReads := hFrag.reads hp [] rfl
    rw [List.append_nil, hEnd] at hReads
    simpa using hReads

end Frag

--------
-- Separated Lists
--------

/- Concatenate texts with a separator between them. -/
def joinChars (sep : List Char) :
    List (List Char) → List Char
  | [] => []
  | [cs] => cs
  | cs :: ds :: rest =>
    cs ++ (sep ++ joinChars sep (ds :: rest))

/- Concatenate token lists with a separator between them. -/
def joinTokens (sep : List Token) :
    List (List Token) → List Token
  | [] => []
  | [ts] => ts
  | ts :: us :: rest =>
    ts ++ (sep ++ joinTokens sep (us :: rest))

/- Joining fragments joins their tokens and conditions. -/
theorem Frag.join
    {α : Type}
    (text : α → List Char)
    (tokens : α → List Token)
    (clean : α → Prop)
    {sep : List Char}
    {tg : List Token}
    (hGlue : Glue sep tg)
    (parts : List α)
    (hParts :
      ∀ part ∈ parts,
        Frag (text part) (tokens part) (clean part)) :
    Frag (joinChars sep (parts.map text))
      (joinTokens tg (parts.map tokens))
      (∀ part ∈ parts, clean part) := by
  induction parts with
  | nil => exact Frag.of_reads Reads.nil (by simp)
  | cons part rest ih =>
    have hPart := hParts part (by simp)
    cases rest with
    | nil =>
      exact hPart.congr_clean (by simp)
    | cons next rest =>
      have hRest := ih (fun other hOther =>
        hParts other (List.mem_cons_of_mem _ hOther))
      exact (hPart.glue hGlue hRest).congr_clean (by simp)

--------
-- Words, Numbers And Literals
--------

open LexState

theorem lexFrom_cons
    (m : Mode)
    (c : Char)
    (rest : List Char) :
    lexFrom m (c :: rest) =
      (lexFrom (feed ⟨m, []⟩ c).mode rest).map
        ((feed ⟨m, []⟩ c).out ++ ·) := by
  have hRun :
      run ⟨m, []⟩ [c] =
        ⟨(feed ⟨m, []⟩ c).mode, (feed ⟨m, []⟩ c).out⟩ := rfl
  exact lexFrom_append hRun rest

/- Mode `m` emits `ts` at every boundary. -/
def Closes (m : Mode) (ts : List Token) : Prop :=
  ∀ rest, boundary rest = true →
    lexFrom m rest = (lexFrom .start rest).map (ts ++ ·)

variable {m : Mode} {ts : List Token} {c : Char}
variable {cs : List Char}

/- A mode in which `c` starts the next token emits first. -/
theorem lexFrom_cons_of_enter
    (hFeed : feed ⟨m, []⟩ c = enter ts c)
    (rest : List Char) :
    lexFrom m (c :: rest) =
      (lexFrom .start (c :: rest)).map (ts ++ ·) := by
  have hEnter : enter ts c = after ts (enter [] c) := by
    simpa using enter_append ts [] c
  have hStart : feed ⟨.start, []⟩ c = enter [] c := rfl
  rw [lexFrom_cons, lexFrom_cons .start, hFeed, hEnter,
    hStart, Option.map_map]
  congr 1
  funext out
  simp [after]

/-
  Modes that end at a blank, at a closing parenthesis and at
  a comma.
-/
theorem Closes.of_feed
    {m : Mode}
    {ts : List Token}
    (hEnd : finish ⟨m, []⟩ = some ts)
    (hFeed :
      ∀ c, c = ' ' ∨ c = ')' ∨ c = ',' →
        feed ⟨m, []⟩ c = enter ts c) :
    Closes m ts := by
  intro rest hRest
  rcases rest with _ | ⟨c, rest⟩
  · change finish ⟨m, []⟩ = (some []).map (ts ++ ·)
    simp [hEnd]
  · have hChar : c = ' ' ∨ c = ')' ∨ c = ',' := by
      by_cases hBlank : c = ' '
      · exact Or.inl hBlank
      · right
        simpa [boundary, hBlank] using hRest
    exact lexFrom_cons_of_enter (hFeed c hChar) rest

theorem closes_word (acc : List Char) :
    Closes (.word acc) [.word acc] := by
  apply Closes.of_feed
  · rfl
  · rintro c (rfl | rfl | rfl) <;> rfl

theorem closes_int (acc : List Char) :
    Closes (.int acc) [.number acc] := by
  apply Closes.of_feed
  · rfl
  · rintro c (rfl | rfl | rfl) <;> rfl

theorem closes_frac (acc : List Char) :
    Closes (.frac acc) [.number acc] := by
  apply Closes.of_feed
  · rfl
  · rintro c (rfl | rfl | rfl) <;> rfl

theorem closes_expDigits (acc : List Char) :
    Closes (.expDigits acc) [.number acc] := by
  apply Closes.of_feed
  · rfl
  · rintro c (rfl | rfl | rfl) <;> rfl

/-
  A closed plain literal.  A blank after it may still lead to
  a continuation, so the character after the blank decides.
-/
theorem closes_strEnd (acc : List Char) :
    Closes (.strEnd .plain acc) [.str acc] := by
  intro rest hRest
  rcases rest with _ | ⟨c, rest⟩
  · rfl
  · by_cases hBlank : c = ' '
    · subst hBlank
      rcases rest with _ | ⟨d, rest⟩
      · simp [boundary] at hRest
      · have hNext :
            isSpace d = false ∧ d ≠ '\'' ∧ d ≠ '-' := by
          simpa [boundary, and_assoc] using hRest
        have hGap :
            feed ⟨.gap .plain acc false, []⟩ d =
              enter [.str acc] d := by
          simp [feed, feedGap, quoteToken, hNext.1,
            hNext.2.2]
        have hLeft :
            lexFrom (.strEnd .plain acc)
                (' ' :: d :: rest) =
              lexFrom (.gap .plain acc false)
                (d :: rest) := by
          rw [lexFrom_cons]
          change (lexFrom (.gap .plain acc false)
            (d :: rest)).map ([] ++ ·) = _
          simp
        have hRight :
            lexFrom .start (' ' :: d :: rest) =
              lexFrom .start (d :: rest) := by
          rw [lexFrom_cons]
          change (lexFrom .start (d :: rest)).map
            ([] ++ ·) = _
          simp
        rw [hLeft, hRight]
        exact lexFrom_cons_of_enter hGap rest
    · have hChar : c = ')' ∨ c = ',' := by
        simpa [boundary, hBlank] using hRest
      apply lexFrom_cons_of_enter
      rcases hChar with rfl | rfl <;> rfl

/- Text that leaves a closing mode reads as its tokens. -/
theorem Reads.of_closes
    {us : List Token}
    (hRun : run ⟨.start, []⟩ cs = ⟨m, ts⟩)
    (hCloses : Closes m us) :
    Reads cs (ts ++ us) := by
  intro rest hRest
  rw [lexFrom_append hRun, hCloses rest hRest,
    Option.map_map]
  congr 1
  funext out
  simp

/- A word swallows identifier characters. -/
theorem run_word
    (acc cs : List Char)
    (ts : List Token)
    (hChars : ∀ c ∈ cs, isIdentCont c = true) :
    run ⟨.word acc, ts⟩ cs = ⟨.word (acc ++ cs), ts⟩ := by
  induction cs generalizing acc with
  | nil => simp [run]
  | cons c cs ih =>
    have hc := hChars c (by simp)
    have hFeed :
        feed ⟨.word acc, ts⟩ c =
          ⟨.word (acc ++ [c]), ts⟩ := by
      simp [feed, feedWord, hc]
    change run (feed ⟨.word acc, ts⟩ c) cs = _
    rw [hFeed, ih (acc ++ [c])
      (fun d hd => hChars d (by simp [hd]))]
    simp

theorem enter_identStart
    (hStart : isIdentStart c = true)
    (ts : List Token) :
    enter ts c = ⟨.word [c], ts⟩ := by
  have hSpace : isSpace c = false := by
    by_contra hSpace
    simp only [isSpace, isNewline, Bool.not_eq_false,
      Bool.or_eq_true, decide_eq_true_eq] at hSpace
    simp only [isIdentStart, Bool.or_eq_true,
      Bool.and_eq_true, decide_eq_true_eq] at hStart
    rcases hSpace with (((rfl | rfl) | rfl | rfl) | h) | h
    · revert hStart; decide
    · revert hStart; decide
    · revert hStart; decide
    · revert hStart; decide
    · rcases hStart with ((h' | h') | rfl) | h'
      · omega
      · omega
      · revert h; decide
      · omega
    · rcases hStart with ((h' | h') | rfl) | h'
      · omega
      · omega
      · revert h; decide
      · omega
  have hQuote : c ≠ '\'' := by
    rintro rfl
    revert hStart
    decide
  have hDouble : c ≠ '"' := by
    rintro rfl
    revert hStart
    decide
  simp [enter, hSpace, hQuote, hDouble, hStart]

/- An identifier reads as one word. -/
theorem Reads.word
    (hStart : isIdentStart c = true)
    (hChars : ∀ d ∈ cs, isIdentCont d = true) :
    Reads (c :: cs) [.word (c :: cs)] := by
  have hRun :
      run ⟨.start, []⟩ (c :: cs) =
        ⟨.word (c :: cs), []⟩ := by
    change run (enter [] c) cs = _
    rw [enter_identStart hStart]
    simpa using run_word [c] cs [] hChars
  simpa using Reads.of_closes hRun (closes_word (c :: cs))

/- A quote-free text is taken into an open literal. -/
theorem run_str
    (acc cs : List Char)
    (ts : List Token)
    (hChars : '\'' ∉ cs) :
    run ⟨.str .plain acc, ts⟩ cs =
      ⟨.str .plain (acc ++ cs), ts⟩ := by
  induction cs generalizing acc with
  | nil => simp [run]
  | cons c cs ih =>
    have hc : c ≠ '\'' := by
      rintro rfl
      simp at hChars
    have hFeed :
        feed ⟨.str .plain acc, ts⟩ c =
          ⟨.str .plain (acc ++ [c]), ts⟩ := by
      simp [feed, hc]
    change run (feed ⟨.str .plain acc, ts⟩ c) cs = _
    rw [hFeed, ih (acc ++ [c])
      (fun hMem => hChars (by simp [hMem]))]
    simp

--------
-- Literals And What Follows An Open One
--------

/- Fixed text up to a quote that opens a plain literal. -/
def Opens (cs : List Char) (ts : List Token) : Prop :=
  run ⟨.start, []⟩ (cs ++ ['\'']) = ⟨.str .plain [], ts⟩

/- Text inside an opened literal up to the closing quote. -/
theorem Opens.run_close
    {body : List Char}
    (hOpens : Opens cs ts)
    (hBody : '\'' ∉ body) :
    run ⟨.start, []⟩ (cs ++ '\'' :: (body ++ ['\''])) =
      ⟨.strEnd .plain body, ts⟩ := by
  have hSplit :
      cs ++ '\'' :: (body ++ ['\'']) =
        (cs ++ ['\'']) ++ (body ++ ['\'']) := by simp
  rw [hSplit, run_append, hOpens, run_append,
    run_str [] body ts hBody]
  rfl

/- A quote-free body reads as one literal token. -/
theorem Opens.reads
    {body : List Char}
    (hOpens : Opens cs ts)
    (hBody : '\'' ∉ body) :
    Reads (cs ++ '\'' :: (body ++ ['\'']))
      (ts ++ [.str body]) :=
  Reads.of_closes (hOpens.run_close hBody)
    (closes_strEnd body)

/-
  Modes inside, or just after, a plain literal whose value
  starts with `acc`.
-/
def InLiteral (acc : List Char) : Mode → Prop
  | .str .plain value | .strEnd .plain value
  | .gap .plain value _ | .gapDash .plain value _
  | .gapComment .plain value => acc <+: value
  | _ => False

/-
  One more character either stays in the literal or makes
  its token the first one emitted.
-/
theorem InLiteral.feed
    {acc : List Char}
    (hMode : InLiteral acc m)
    (c : Char) :
    (InLiteral acc (feed ⟨m, []⟩ c).mode ∧
        (feed ⟨m, []⟩ c).out = []) ∨
      ∃ value tail, acc <+: value ∧
          (feed ⟨m, []⟩ c).out = .str value :: tail := by
  have hEnter :
      ∀ value, acc <+: value → ∃ value' tail,
          acc <+: value' ∧ (enter [.str value] c).out =
              .str value' :: tail := by
    intro value hValue
    refine ⟨value, (enter [] c).out, hValue, ?_⟩
    have hAppend := enter_append [.str value] [] c
    rw [List.append_nil] at hAppend
    rw [hAppend]
    rfl
  have hOp :
      ∀ value, acc <+: value → ∃ value' tail,
          acc <+: value' ∧
            (feedOp ['-'] [.str value] c).out =
              .str value' :: tail := by
    intro value hValue
    refine ⟨value, (feedOp ['-'] [] c).out, hValue, ?_⟩
    have hAppend := feedOp_append ['-'] [.str value] [] c
    rw [List.append_nil] at hAppend
    rw [hAppend]
    rfl
  cases m with
  | str quote value =>
    cases quote with
    | plain =>
      left
      simp only [LexState.feed, reduceCtorEq, false_and,
        if_false]
      split_ifs with hQuote
      · exact ⟨hMode, rfl⟩
      · exact ⟨hMode.trans (List.prefix_append _ _), rfl⟩
    | _ => exact hMode.elim
  | strEnd quote value =>
    cases quote with
    | plain =>
      simp only [LexState.feed, feedStrEnd, quoteToken]
      split_ifs with hQuote hSpace hDash
      · exact Or.inl
          ⟨hMode.trans (List.prefix_append _ _), rfl⟩
      · exact Or.inl ⟨hMode, rfl⟩
      · exact Or.inl ⟨hMode, rfl⟩
      · exact Or.inr (hEnter value hMode)
    | _ => exact hMode.elim
  | gap quote value newline =>
    cases quote with
    | plain =>
      simp only [LexState.feed, feedGap, quoteToken]
      split_ifs with hQuote hSpace hDash
      · exact Or.inl ⟨hMode, rfl⟩
      · exact Or.inl ⟨hMode, rfl⟩
      · exact Or.inl ⟨hMode, rfl⟩
      · exact Or.inr (hEnter value hMode)
    | _ => exact hMode.elim
  | gapDash quote value newline =>
    cases quote with
    | plain =>
      simp only [LexState.feed, quoteToken]
      split_ifs with hDash
      · exact Or.inl ⟨hMode, rfl⟩
      · exact Or.inr (hOp value hMode)
    | _ => exact hMode.elim
  | gapComment quote value =>
    cases quote with
    | plain =>
      left
      simp only [LexState.feed]
      split_ifs with hNewline
      · exact ⟨hMode, rfl⟩
      · exact ⟨hMode, rfl⟩
    | _ => exact hMode.elim
  | _ => exact hMode.elim

/-
  Whatever follows, the first token out of an open literal is
  a string whose value extends what was read so far.
-/
theorem InLiteral.head_of_lexFrom
    {acc : List Char}
    (hMode : InLiteral acc m)
    {out : List Token}
    (hLex : lexFrom m cs = some out) :
    ∃ value tail,
      acc <+: value ∧ out = .str value :: tail := by
  induction cs generalizing m out with
  | nil =>
    cases m with
    | str quote value => simp [lexFrom, run, finish] at hLex
    | strEnd quote value =>
      cases quote with
      | plain =>
        refine ⟨value, [], hMode, ?_⟩
        exact (Option.some.inj hLex).symm
      | _ => exact hMode.elim
    | gap quote value newline =>
      cases quote with
      | plain =>
        refine ⟨value, [], hMode, ?_⟩
        exact (Option.some.inj hLex).symm
      | _ => exact hMode.elim
    | gapDash quote value newline =>
      cases quote with
      | plain =>
        refine ⟨value, [.op ['-']], hMode, ?_⟩
        exact (Option.some.inj hLex).symm
      | _ => exact hMode.elim
    | gapComment quote value =>
      cases quote with
      | plain =>
        refine ⟨value, [], hMode, ?_⟩
        exact (Option.some.inj hLex).symm
      | _ => exact hMode.elim
    | _ => exact hMode.elim
  | cons c cs ih =>
    rw [lexFrom_cons] at hLex
    rcases Option.map_eq_some_iff.mp hLex with
      ⟨rest, hRest, rfl⟩
    rcases hMode.feed c with
      ⟨hNext, hOut⟩ | ⟨value, tail, hValue, hOut⟩
    · rw [hOut, List.nil_append]
      exact ih hNext hRest
    · exact ⟨value, tail ++ rest, hValue, by simp [hOut]⟩

--------
-- Decimal Numbers
--------

theorem enter_digit
    (hDigit : isDigit c = true)
    (ts : List Token) :
    enter ts c = ⟨.int [c], ts⟩ := by
  simp only [isDigit, Bool.and_eq_true,
    decide_eq_true_eq] at hDigit
  have hSpace : isSpace c = false := by
    by_contra hSpace
    simp only [isSpace, isNewline, Bool.not_eq_false,
      Bool.or_eq_true, decide_eq_true_eq] at hSpace
    rcases hSpace with (((rfl | rfl) | rfl | rfl) | h) | h
    · revert hDigit; decide
    · revert hDigit; decide
    · revert hDigit; decide
    · revert hDigit; decide
    · omega
    · omega
  have hQuote : c ≠ '\'' := by
    rintro rfl
    revert hDigit
    decide
  have hDouble : c ≠ '"' := by
    rintro rfl
    revert hDigit
    decide
  have hStart : isIdentStart c = false := by
    have hScore : c ≠ '_' := by
      rintro rfl
      revert hDigit
      decide
    simp only [isIdentStart, hScore, decide_false,
      Bool.or_false, Bool.or_eq_false_iff,
      Bool.and_eq_false_iff, decide_eq_false_iff_not]
    omega
  have hSelf : isDigit c = true := by
    simp [isDigit, hDigit]
  simp [enter, hSpace, hQuote, hDouble, hStart, hSelf]

/- An operator run ends at a digit. -/
theorem feed_op_digit
    (hDigit : isDigit c = true)
    (acc : List Char)
    (ts : List Token) :
    feed ⟨.op acc, ts⟩ c =
      ⟨.int [c], ts ++ operatorTokens acc⟩ := by
  have hOp : isOpChar c = false := by
    by_contra hOp
    simp only [isOpChar, opChars, Bool.not_eq_false,
      List.contains_eq_mem, decide_eq_true_eq,
      List.mem_cons, List.not_mem_nil, or_false] at hOp
    rcases hOp with rfl | rfl | rfl | rfl | rfl | rfl |
      rfl | rfl | rfl | rfl | rfl | rfl | rfl | rfl |
      rfl | rfl | rfl <;> revert hDigit <;> decide
  simp [feed, feedOp, hOp, enter_digit hDigit]

/- The digits of an integer part. -/
theorem run_int
    (acc cs : List Char)
    (ts : List Token)
    (hDigits : ∀ c ∈ cs, isDigit c = true) :
    run ⟨.int acc, ts⟩ cs = ⟨.int (acc ++ cs), ts⟩ := by
  induction cs generalizing acc with
  | nil => simp [run]
  | cons c cs ih =>
    have hFeed :
        feed ⟨.int acc, ts⟩ c =
          ⟨.int (acc ++ [c]), ts⟩ := by
      simp [feed, hDigits c (by simp)]
    change run (feed ⟨.int acc, ts⟩ c) cs = _
    rw [hFeed, ih (acc ++ [c])
      (fun d hd => hDigits d (by simp [hd]))]
    simp

/- The digits of a fraction. -/
theorem run_frac
    (acc cs : List Char)
    (ts : List Token)
    (hDigits : ∀ c ∈ cs, isDigit c = true) :
    run ⟨.frac acc, ts⟩ cs = ⟨.frac (acc ++ cs), ts⟩ := by
  induction cs generalizing acc with
  | nil => simp [run]
  | cons c cs ih =>
    have hFeed :
        feed ⟨.frac acc, ts⟩ c =
          ⟨.frac (acc ++ [c]), ts⟩ := by
      simp [feed, hDigits c (by simp)]
    change run (feed ⟨.frac acc, ts⟩ c) cs = _
    rw [hFeed, ih (acc ++ [c])
      (fun d hd => hDigits d (by simp [hd]))]
    simp

/- The digits of an exponent. -/
theorem run_expDigits
    (acc cs : List Char)
    (ts : List Token)
    (hDigits : ∀ c ∈ cs, isDigit c = true) :
    run ⟨.expDigits acc, ts⟩ cs =
      ⟨.expDigits (acc ++ cs), ts⟩ := by
  induction cs generalizing acc with
  | nil => simp [run]
  | cons c cs ih =>
    have hFeed :
        feed ⟨.expDigits acc, ts⟩ c =
          ⟨.expDigits (acc ++ [c]), ts⟩ := by
      simp [feed, hDigits c (by simp)]
    change run (feed ⟨.expDigits acc, ts⟩ c) cs = _
    rw [hFeed, ih (acc ++ [c])
      (fun d hd => hDigits d (by simp [hd]))]
    simp

/- Decimal texts of natural numbers are digits. -/
theorem isDigit_of_mem_toString
    {n : Nat}
    {c : Char}
    (hMem : c ∈ (toString n).toList) :
    isDigit c = true := by
  have hDigits : c ∈ Nat.toDigits 10 n := by
    simpa [Nat.repr_eq_ofList_toDigits, toString] using hMem
  have hIs := Nat.isDigit_of_mem_toDigits (by decide)
    (by decide) hDigits
  simp only [Char.isDigit, Bool.and_eq_true,
    decide_eq_true_eq] at hIs
  simp only [isDigit, Bool.and_eq_true, decide_eq_true_eq]
  exact hIs

theorem toString_toList_ne_nil (n : Nat) :
    (toString n).toList ≠ [] := by
  simp [toString]

/- A natural number reads as one number. -/
theorem Reads.nat (n : Nat) :
    Reads (toString n).toList
      [.number (toString n).toList] := by
  have hDigits := @isDigit_of_mem_toString n
  have hNil := toString_toList_ne_nil n
  generalize (toString n).toList = cs at hDigits hNil
  rcases cs with _ | ⟨c, cs⟩
  · exact absurd rfl hNil
  · have hRun :
        run ⟨.start, []⟩ (c :: cs) =
          ⟨.int (c :: cs), []⟩ := by
      change run (enter [] c) cs = _
      rw [enter_digit (hDigits (by simp))]
      simpa using run_int [c] cs []
        (fun d hd => hDigits (by simp [hd]))
    simpa using Reads.of_closes hRun (closes_int (c :: cs))

end Sql
