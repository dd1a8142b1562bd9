import Orignabase.Database.Query
import Orignabase.Lib.SqlFragment

/-
  The pieces of text the SELECT builder puts into a
  statement, as PostgreSQL's lexer reads them: escaped
  literals, identifiers and numbers.

  The escaping function writes `\'` for a quote and `\\` for
  a backslash, which is not how a standard-conforming literal
  is written, so a literal has the caller's string as its
  value exactly when the string holds neither character.

  Key definitions include:
    * `PlainText`
    * `Number.tokens`

  Main results:
    * `frag_userLiteral`
    * `reads_identifier`
    * `Number.reads_toText`
-/

--------
-- Escaped Literals
--------

namespace Orignabase

open Sql

/- Texts that hold neither a quote nor a backslash. -/
def PlainText (s : String) : Prop :=
  '\'' ∉ s.toList ∧ '\\' ∉ s.toList

instance (s : String) : Decidable (PlainText s) := by
  unfold PlainText
  infer_instance

/- Doubling the backslashes, the first half of escaping. -/
def doubleBackslashes (cs : List Char) : List Char :=
  Text.replaceChar '\\' ['\\', '\\'] cs

theorem escapeSqlString_toList (s : String) :
    (escapeSqlString s).toList =
      Text.replaceChar '\'' ['\\', '\'']
        (doubleBackslashes s.toList) := by
  simp [escapeSqlString, doubleBackslashes]

variable {cs : List Char} {s : String} {ts : List Token}
variable {head : List Char}

theorem quote_notMem_doubleBackslashes
    (hQuote : '\'' ∉ cs) :
    '\'' ∉ doubleBackslashes cs := by
  intro hMem
  rcases List.mem_flatMap.mp hMem with ⟨c, hc, hIn⟩
  split_ifs at hIn with hSlash
  · simp at hIn
  · have hEq : '\'' = c := by simpa using hIn
    exact hQuote (hEq ▸ hc)

theorem escapeSqlString_of_plainText
    (hPlain : PlainText s) :
    (escapeSqlString s).toList = s.toList := by
  rw [escapeSqlString_toList, doubleBackslashes,
    Text.replaceChar_of_notMem _ hPlain.2,
    Text.replaceChar_of_notMem _ hPlain.1]

theorem length_le_doubleBackslashes (cs : List Char) :
    cs.length ≤ (doubleBackslashes cs).length := by
  induction cs with
  | nil => exact le_rfl
  | cons c cs ih =>
    simp only [doubleBackslashes, Text.replaceChar_cons,
      List.length_append, List.length_cons] at ih ⊢
    split_ifs <;> simp <;> omega

/- A backslash makes the escaped text longer. -/
theorem length_lt_doubleBackslashes
    (hSlash : '\\' ∈ cs) :
    cs.length < (doubleBackslashes cs).length := by
  induction cs with
  | nil => simp at hSlash
  | cons c cs ih =>
    have hLe := length_le_doubleBackslashes cs
    simp only [doubleBackslashes, Text.replaceChar_cons,
      List.length_append, List.length_cons] at ih hLe ⊢
    by_cases hc : c = '\\'
    · simp only [hc, if_true, List.length_cons,
        List.length_nil]
      omega
    · have hMem : '\\' ∈ cs := by
        rcases List.mem_cons.mp hSlash with hEq | hMem
        · exact absurd hEq.symm hc
        · exact hMem
      have hTail := ih hMem
      simp only [hc, if_false, List.length_cons,
        List.length_nil]
      omega

/-
  The escaped text up to its first quote never agrees with
  the original up to and including that quote.  The run of
  `k` backslashes is the surplus collected so far.
-/
theorem doubled_not_isPrefix
    (k : Nat)
    (cs rest : List Char) :
    ¬ (List.replicate k '\\' ++
        (doubleBackslashes cs ++ ['\\'])) <+:
      (cs ++ '\'' :: rest) := by
  induction cs generalizing k with
  | nil =>
    intro hPrefix
    cases k with
    | zero =>
      simp [doubleBackslashes] at hPrefix
    | succ k =>
      simp [List.replicate_succ] at hPrefix
  | cons c cs ih =>
    intro hPrefix
    by_cases hc : c = '\\'
    · subst hc
      apply ih (k + 1)
      have hMove :
          List.replicate k '\\' ++
              (doubleBackslashes ('\\' :: cs) ++ ['\\']) =
            '\\' :: (List.replicate (k + 1) '\\' ++
              (doubleBackslashes cs ++ ['\\'])) := by
        simp only [doubleBackslashes,
          Text.replaceChar_cons, if_true]
        rw [← List.cons_append, ← List.replicate_succ,
          List.replicate_succ' (n := k + 1),
          List.replicate_succ' (n := k)]
        simp
      rw [hMove, List.cons_append] at hPrefix
      exact (List.cons_prefix_cons.mp hPrefix).2
    · cases k with
      | zero =>
        simp only [List.replicate_zero, List.nil_append,
          doubleBackslashes, Text.replaceChar_cons, hc,
          if_false, List.cons_append] at hPrefix
        apply ih 0
        simpa [doubleBackslashes] using
          (List.cons_prefix_cons.mp hPrefix).2
      | succ k =>
        rw [List.replicate_succ, List.cons_append,
          List.cons_append] at hPrefix
        exact hc (List.cons_prefix_cons.mp hPrefix).1.symm

/- The first quote of a text that has one. -/
theorem exists_first_quote
    (hQuote : '\'' ∈ cs) :
    ∃ before after,
      cs = before ++ '\'' :: after ∧ '\'' ∉ before := by
  induction cs with
  | nil => simp at hQuote
  | cons c cs ih =>
    by_cases hc : c = '\''
    · exact ⟨[], cs, by simp [hc], by simp⟩
    · have hMem : '\'' ∈ cs := by
        rcases List.mem_cons.mp hQuote with hEq | hMem
        · exact absurd hEq.symm hc
        · exact hMem
      rcases ih hMem with ⟨before, after, hEq, hNot⟩
      refine ⟨c :: before, after, by simp [hEq], ?_⟩
      rw [List.mem_cons, not_or]
      exact ⟨Ne.symm hc, hNot⟩

--------
-- Caller Strings Inside Literals
--------

open LexState

/- Two literals after the same tokens have equal values. -/
theorem str_eq_of_isPrefix
    {tail : List Token}
    {value other : List Char}
    (hPrefix :
      ts ++ [.str value] <+: ts ++ .str other :: tail) :
    value = other := by
  have hTail := (List.prefix_append_right_inj ts).mp hPrefix
  have hHead := (List.cons_prefix_cons.mp hTail).1
  exact Token.str.inj hHead

/- A quote in the string ends the literal too early. -/
theorem derails_of_quote
    (hOpens : Opens head ts)
    {before after : List Char}
    (hQuote : '\'' ∈ s.toList)
    (hBefore : '\'' ∉ before) :
    Derails
      (head ++ '\'' :: (before ++
        ((escapeSqlString s).toList ++ (after ++ ['\'']))))
      (ts ++ [.str (before ++ (s.toList ++ after))]) := by
  rcases exists_first_quote hQuote with ⟨p, q, hSplit, hp⟩
  intro rest _ out hLex hPrefix
  -- the text up to the escape of the first quote
  have hBody : '\'' ∉ before ++ (doubleBackslashes p ++ ['\\']) := by
    have hDouble := quote_notMem_doubleBackslashes hp
    simp [hBefore, hDouble]
  have hEscape :
      (escapeSqlString s).toList =
        doubleBackslashes p ++ ('\\' :: '\'' ::
          Text.replaceChar '\'' ['\\', '\'']
            (doubleBackslashes q)) := by
    have hNot := quote_notMem_doubleBackslashes hp
    rw [escapeSqlString_toList, hSplit, doubleBackslashes,
      Text.replaceChar_append, Text.replaceChar_append]
    rw [doubleBackslashes] at hNot
    rw [Text.replaceChar_of_notMem _ hNot]
    simp [doubleBackslashes]
  have hRun :
      run ⟨.start, []⟩ (head ++ '\'' :: (before ++
            (doubleBackslashes p ++ ['\\']))) =
        ⟨.str .plain (before ++
          (doubleBackslashes p ++ ['\\'])), ts⟩ := by
    rw [← List.singleton_append, ← List.append_assoc,
      run_append, hOpens, run_str [] _ ts hBody]
    rfl
  have hText :
      head ++ '\'' :: (before ++
          ((escapeSqlString s).toList ++
            (after ++ ['\'']))) ++ rest =
        (head ++ '\'' :: (before ++
          (doubleBackslashes p ++ ['\\']))) ++
          ('\'' :: (Text.replaceChar '\'' ['\\', '\'']
            (doubleBackslashes q) ++
              (after ++ ['\''] ++ rest))) := by
    simp [hEscape]
  rw [hText, lexFrom_append hRun] at hLex
  rcases Option.map_eq_some_iff.mp hLex with
    ⟨tail, hTail, rfl⟩
  have hMode :
      InLiteral (before ++ (doubleBackslashes p ++ ['\\']))
        (.str .plain (before ++
          (doubleBackslashes p ++ ['\\']))) :=
    List.prefix_rfl
  rcases hMode.head_of_lexFrom hTail with
    ⟨value, tail', hValue, rfl⟩
  have hEq := str_eq_of_isPrefix hPrefix
  rw [← hEq, hSplit] at hValue
  have hInner :=
    (List.prefix_append_right_inj before).mp hValue
  apply doubled_not_isPrefix 0 p (q ++ after)
  simpa using hInner

/- A backslash is doubled in the value of the literal. -/
theorem derails_of_backslash
    (hOpens : Opens head ts)
    {before after : List Char}
    (hQuote : '\'' ∉ s.toList)
    (hSlash : '\\' ∈ s.toList)
    (hBefore : '\'' ∉ before)
    (hAfter : '\'' ∉ after) :
    Derails
      (head ++ '\'' :: (before ++
        ((escapeSqlString s).toList ++ (after ++ ['\'']))))
      (ts ++ [.str (before ++ (s.toList ++ after))]) := by
  have hDouble := quote_notMem_doubleBackslashes hQuote
  have hEscape :
      (escapeSqlString s).toList =
        doubleBackslashes s.toList := by
    rw [escapeSqlString_toList,
      Text.replaceChar_of_notMem _ hDouble]
  have hBody :
      '\'' ∉ before ++ (doubleBackslashes s.toList ++
        after) := by
    simp [hBefore, hDouble, hAfter]
  intro rest hRest out hLex hPrefix
  have hReads := hOpens.reads hBody rest hRest
  have hText :
      head ++ '\'' :: (before ++
          ((escapeSqlString s).toList ++
            (after ++ ['\'']))) ++ rest =
        head ++ '\'' :: ((before ++
          (doubleBackslashes s.toList ++ after)) ++
            ['\'']) ++ rest := by
    simp [hEscape]
  rw [hText, hReads] at hLex
  rcases Option.map_eq_some_iff.mp hLex with ⟨tail, _, rfl⟩
  have hEq :
      before ++ (s.toList ++ after) =
        before ++ (doubleBackslashes s.toList ++ after) := by
    have hHead :
        ts ++ [.str (before ++ (s.toList ++ after))] <+:
          ts ++ .str (before ++
            (doubleBackslashes s.toList ++ after)) ::
              tail := by
      simpa using hPrefix
    exact str_eq_of_isPrefix hHead
  have hLength := congrArg List.length hEq
  have hLonger := length_lt_doubleBackslashes hSlash
  simp only [List.length_append] at hLength
  omega

/-
  A caller string between fixed texts inside one literal: the
  literal's value is the string with these texts around it
  exactly when the string is plain.
-/
theorem frag_userLiteral
    (hOpens : Opens head ts)
    (s : String)
    (before after : List Char)
    (hBefore : '\'' ∉ before)
    (hAfter : '\'' ∉ after) :
    Frag
      (head ++ '\'' :: (before ++
        ((escapeSqlString s).toList ++ (after ++ ['\'']))))
      (ts ++ [.str (before ++ (s.toList ++ after))])
      (PlainText s) := by
  constructor
  · intro hPlain
    rw [escapeSqlString_of_plainText hPlain]
    have hBody :
        '\'' ∉ before ++ (s.toList ++ after) := by
      simp [hBefore, hPlain.1, hAfter]
    simpa using hOpens.reads hBody
  · intro hNot
    by_cases hQuote : '\'' ∈ s.toList
    · exact derails_of_quote hOpens hQuote hBefore
    · have hSlash : '\\' ∈ s.toList := by
        by_contra hSlash
        exact hNot ⟨hQuote, hSlash⟩
      exact derails_of_backslash hOpens hQuote hSlash
        hBefore hAfter

--------
-- Identifiers And Numbers
--------

theorem isIdentStart_of_isAlpha
    {c : Char}
    (hAlpha : c.isAlpha = true) :
    isIdentStart c = true := by
  simp only [isIdentStart, Bool.or_eq_true,
    Bool.and_eq_true, decide_eq_true_eq]
  rcases Text.code_of_isAlpha hAlpha with hUpper | hLower
  · exact Or.inl (Or.inl (Or.inr hUpper))
  · exact Or.inl (Or.inl (Or.inl hLower))

theorem isIdentCont_of_isAlphanum
    {c : Char}
    (hChar : c.isAlphanum = true ∨ c = '_') :
    isIdentCont c = true := by
  rcases hChar with hAlnum | rfl
  · rcases Text.isAlpha_or_isDigit hAlnum with
      hAlpha | hDigit
    · simp [isIdentCont, isIdentStart_of_isAlpha hAlpha]
    · have hSql : isDigit c = true := by
        simp only [isDigit, Bool.and_eq_true,
          decide_eq_true_eq]
        exact Text.code_of_isDigit hDigit
      simp [isIdentCont, hSql]
  · rfl

theorem quote_notMem_of_isIdentifier
    {name : String}
    (hName : isIdentifier name = true) :
    '\'' ∉ name.toList := by
  rcases chars_of_isIdentifier hName with ⟨_, _, _, _, hAll⟩
  intro hMem
  have hChar := hAll '\'' hMem
  revert hChar
  decide

/- An accepted identifier reads as one word. -/
theorem reads_identifier
    {name : String}
    (hName : isIdentifier name = true) :
    Reads name.toList [.word name.toList] := by
  rcases chars_of_isIdentifier hName with
    ⟨first, rest, hChars, hFirst, hAll⟩
  rw [hChars] at hAll ⊢
  apply Reads.word
  · rcases hFirst with hAlpha | rfl
    · exact isIdentStart_of_isAlpha hAlpha
    · rfl
  · intro c hc
    exact isIdentCont_of_isAlphanum
      (hAll c (List.mem_cons_of_mem _ hc))

namespace Number

/- A negative number is the operator `-` and a number. -/
def tokens (n : Number) : List Token :=
  (if n.negative then [.op ['-']] else []) ++
    [.number n.magnitudeText]

theorem isDigit_digit (d : Fin 10) :
    isDigit (digit d) = true := by
  revert d
  decide

theorem digit_ne_dot (d : Fin 10) : digit d ≠ '.' := by
  revert d
  decide

/- The exponent, read from a mode that may end a number. -/
theorem exists_closes_expText
    (n : Number)
    {m : Mode}
    {acc : List Char}
    (ts : List Token)
    (hMark :
      feed ⟨m, ts⟩ 'e' = ⟨.expMark (acc ++ ['e']), ts⟩)
    (hCloses : Closes m [.number acc]) :
    ∃ m', run ⟨m, ts⟩ n.expText = ⟨m', ts⟩ ∧
        Closes m' [.number (acc ++ n.expText)] := by
  unfold expText
  cases n.exp with
  | none => exact ⟨m, rfl, by simpa using hCloses⟩
  | some e =>
    rcases e with ⟨negative, e⟩
    dsimp only
    have hDigits := @isDigit_of_mem_toString e
    have hNil := toString_toList_ne_nil e
    generalize (toString e).toList = ds at hDigits hNil
    rcases ds with _ | ⟨d, ds⟩
    · exact absurd rfl hNil
    have hTail : ∀ c ∈ ds, isDigit c = true :=
      fun c hc => hDigits (by simp [hc])
    have hHead := hDigits (c := d) (by simp)
    cases negative with
    | false =>
      refine ⟨_, ?_, closes_expDigits _⟩
      change run (feed (feed ⟨m, ts⟩ 'e') d) ds = _
      rw [hMark]
      simp only [feed, hHead, if_true]
      rw [run_expDigits _ ds ts hTail]
      simp
    | true =>
      refine ⟨_, ?_, closes_expDigits _⟩
      change run (feed (feed (feed ⟨m, ts⟩ 'e') '-') d)
          ds = _
      have hSign :
          feed ⟨.expMark (acc ++ ['e']), ts⟩ '-' =
            ⟨.expSign (acc ++ ['e'] ++ ['-']), ts⟩ :=
        rfl
      rw [hMark, hSign]
      simp only [feed, hHead, if_true]
      rw [run_expDigits _ ds ts hTail]
      simp

/- A fraction takes the integer part to fraction mode. -/
theorem run_int_frac
    (acc : List Char)
    (d : Fin 10)
    (ds : List (Fin 10))
    (ts : List Token) :
    run ⟨.int acc, ts⟩ ('.' :: (d :: ds).map digit) =
      ⟨.frac (acc ++ '.' :: (d :: ds).map digit), ts⟩ := by
  have hDigits :
      ∀ c ∈ ds.map digit, isDigit c = true := by
    intro c hc
    rcases List.mem_map.mp hc with ⟨e, _, rfl⟩
    exact isDigit_digit e
  have hDot :
      feed ⟨.int acc, ts⟩ '.' = ⟨.intDot acc, ts⟩ := rfl
  change run (feed (feed ⟨.int acc, ts⟩ '.')
    (digit d)) (ds.map digit) = _
  rw [hDot]
  simp only [feed, digit_ne_dot, if_false, isDigit_digit,
    if_true]
  rw [run_frac _ _ ts hDigits]
  simp

/- The mode in which the text of a number ends. -/
theorem exists_closes
    (n : Number)
    (acc : List Char)
    (ts : List Token) :
    ∃ m, run ⟨.int acc, ts⟩ (n.fracText ++ n.expText) =
          ⟨m, ts⟩ ∧
        Closes m
          [.number (acc ++ (n.fracText ++ n.expText))] := by
  unfold fracText
  cases n.frac with
  | nil =>
    rcases exists_closes_expText n ts rfl
        (closes_int acc) with
      ⟨m, hRun, hCloses⟩
    exact ⟨m, by simpa using hRun, by simpa using hCloses⟩
  | cons d ds =>
    have hRun := run_int_frac acc d ds ts
    rcases exists_closes_expText n ts rfl
        (closes_frac (acc ++ '.' :: (d :: ds).map digit))
      with ⟨m, hRunExp, hCloses⟩
    refine ⟨m, ?_, by simpa using hCloses⟩
    rw [run_append, hRun, hRunExp]

/- The text of a number reads as its tokens. -/
theorem reads_toText (n : Number) :
    Reads n.toText.toList n.tokens := by
  have hDigits := @isDigit_of_mem_toString n.int
  have hNil := toString_toList_ne_nil n.int
  unfold toText tokens magnitudeText
  rw [String.toList_ofList]
  generalize (toString n.int).toList = ds at hDigits hNil
  rcases ds with _ | ⟨d, ds⟩
  · exact absurd rfl hNil
  have hHead := hDigits (c := d) (by simp)
  have hTail : ∀ c ∈ ds, isDigit c = true :=
    fun c hc => hDigits (by simp [hc])
  cases n.negative with
  | false =>
    rcases exists_closes n (d :: ds) [] with
      ⟨m, hRun, hCloses⟩
    have hStart :
        run ⟨.start, []⟩ (d :: ds) =
          ⟨.int (d :: ds), []⟩ := by
      change run (enter [] d) ds = _
      rw [enter_digit hHead]
      simpa using run_int [d] ds [] hTail
    have hAll :
        run ⟨.start, []⟩
            ((d :: ds) ++ (n.fracText ++ n.expText)) =
          ⟨m, []⟩ := by
      rw [run_append, hStart, hRun]
    simpa using Reads.of_closes hAll hCloses
  | true =>
    rcases exists_closes n (d :: ds) [.op ['-']] with
      ⟨m, hRun, hCloses⟩
    have hStart :
        run ⟨.start, []⟩ ('-' :: d :: ds) =
          ⟨.int (d :: ds), [.op ['-']]⟩ := by
      have hMinus :
          feed ⟨.start, []⟩ '-' = ⟨.op ['-'], []⟩ := rfl
      change run (feed (feed ⟨.start, []⟩ '-') d) ds = _
      rw [hMinus, feed_op_digit hHead]
      exact run_int [d] ds [.op ['-']] hTail
    have hAll :
        run ⟨.start, []⟩ (('-' :: d :: ds) ++
              (n.fracText ++ n.expText)) =
          ⟨m, [.op ['-']]⟩ := by
      rw [run_append, hStart, hRun]
    simpa using Reads.of_closes hAll hCloses

end Number

end Orignabase
