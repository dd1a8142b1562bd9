import Mathlib
import Orignabase.Lib.Text

/-
  The filters of the search service, as far as the agent
  tools write them.

  The service is not part of this repository.  Of its grammar
  it is used that values stand in single quotes, in which a
  backslash takes the next character literally and any other
  quote ends the value, how conjunctions of comparisons are
  read, and that a text which begins with a comparison is
  read as an expression that begins with it.

  Key definitions include:
    * `readQuote`
    * `Written`, `Condition`
    * `FilterGrammar`
    * `Plain`

  Main results:
    * `readQuote_of_plain`
    * `readQuote_ne`
-/

--------
-- Quoted Values
--------

namespace Orignabase.Mcp

/-
  The value up to the quote that ends it, and what follows.
  `stands` is what a character after a backslash stands for.
-/
def readQuote (stands : Char → List Char) :
    List Char → Option (List Char × List Char)
  | [] => none
  | c :: rest =>
    if c = '\'' then some ([], rest)
    else if c = '\\' then
      match rest with
      | [] => none
      | d :: rest =>
        (readQuote stands rest).map
          (fun read => (stands d ++ read.1, read.2))
    else
      (readQuote stands rest).map
        (fun read => (c :: read.1, read.2))

/- Every quote is preceded by a backslash. -/
def escapeQuotes (text : List Char) : List Char :=
  Text.replaceChar '\'' ['\\', '\''] text

/-
  Every backslash is followed by a character with which it
  stands for itself, and which is no quote.
-/
def Plain (stands : Char → List Char) : List Char → Prop
  | [] => True
  | c :: rest =>
    if c = '\\' then
      match rest with
      | [] => False
      | d :: rest =>
        d ≠ '\'' ∧ stands d = ['\\', d] ∧ Plain stands rest
    else Plain stands rest

variable {stands : Char → List Char}

theorem readQuote_quote (rest : List Char) :
    readQuote stands ('\'' :: rest) = some ([], rest) := by
  unfold readQuote
  exact if_pos rfl

theorem readQuote_backslash (d : Char) (rest : List Char) :
    readQuote stands ('\\' :: d :: rest) =
      (readQuote stands rest).map
        (fun read => (stands d ++ read.1, read.2)) := by
  refine (if_neg (by decide)).trans ?_
  exact if_pos rfl

variable {c : Char}

theorem readQuote_char
    (hQuote : c ≠ '\'')
    (hBackslash : c ≠ '\\')
    (rest : List Char) :
    readQuote stands (c :: rest) =
      (readQuote stands rest).map
        (fun read => (c :: read.1, read.2)) := by
  conv_lhs => unfold readQuote
  rw [if_neg hQuote, if_neg hBackslash]

/- A text without quotes and backslashes is read as it is. -/
theorem readQuote_of_none
    {front : List Char}
    (hFront : ∀ c ∈ front, c ≠ '\'' ∧ c ≠ '\\')
    (more : List Char) :
    readQuote stands (front ++ '\'' :: more) =
      some (front, more) := by
  induction front with
  | nil => exact readQuote_quote more
  | cons c front ih =>
    rw [List.forall_mem_cons] at hFront
    rw [List.cons_append,
      readQuote_char hFront.1.1 hFront.1.2, ih hFront.2]
    rfl

theorem escapeQuotes_quote (rest : List Char) :
    escapeQuotes ('\'' :: rest) =
      '\\' :: '\'' :: escapeQuotes rest := by
  simp [escapeQuotes]

theorem escapeQuotes_char
    (hQuote : c ≠ '\'')
    (rest : List Char) :
    escapeQuotes (c :: rest) = c :: escapeQuotes rest := by
  simp [escapeQuotes, hQuote]

theorem escapeQuotes_nil : escapeQuotes [] = [] := rfl

theorem plain_backslash (d : Char) (rest : List Char) :
    Plain stands ('\\' :: d :: rest) ↔
      d ≠ '\'' ∧ stands d = ['\\', d] ∧
        Plain stands rest :=
  Iff.of_eq (if_pos rfl)

theorem plain_char
    (hBackslash : c ≠ '\\')
    (rest : List Char) :
    Plain stands (c :: rest) ↔ Plain stands rest := by
  conv_lhs => unfold Plain
  rw [if_neg hBackslash]

theorem not_plain_single : ¬ Plain stands ['\\'] :=
  (Iff.of_eq (if_pos rfl)).mp

/- Texts without a backslash are plain. -/
theorem plain_of_not_mem
    {text : List Char}
    (hNot : '\\' ∉ text) :
    Plain stands text := by
  induction text with
  | nil => trivial
  | cons c rest ih =>
    rw [List.mem_cons, not_or] at hNot
    rw [plain_char (Ne.symm hNot.1)]
    exact ih hNot.2

/-
  Where a backslash takes the next character alone, they are
  the only ones.
-/
theorem plain_iff_not_mem
    (hAlone : ∀ c, stands c = [c])
    (text : List Char) :
    Plain stands text ↔ '\\' ∉ text := by
  refine ⟨?_, plain_of_not_mem⟩
  induction text with
  | nil => simp
  | cons c rest ih =>
    by_cases hBackslash : c = '\\'
    · subst hBackslash
      cases rest with
      | nil => exact fun h => absurd h not_plain_single
      | cons d rest =>
        rw [plain_backslash, hAlone]
        rintro ⟨_, hStands, _⟩
        cases hStands
    · rw [plain_char hBackslash, List.mem_cons, not_or]
      exact fun hPlain => ⟨Ne.symm hBackslash, ih hPlain⟩

end Orignabase.Mcp

--------
-- Escaped Values
--------

namespace Orignabase.Mcp

variable {stands : Char → List Char}
variable (hQuote : stands '\'' = ['\''])

include hQuote

variable {text : List Char}

/- A plain text is read back from its escaped form. -/
theorem readQuote_of_plain
    (hPlain : Plain stands text)
    (tail : List Char) :
    readQuote stands (escapeQuotes text ++ '\'' :: tail) =
      some (text, tail) := by
  induction text using Plain.induct with
  | case1 => exact readQuote_quote tail
  | case2 => exact absurd hPlain not_plain_single
  | case3 d rest ih =>
    rw [plain_backslash] at hPlain
    rw [escapeQuotes_char (by decide),
      escapeQuotes_char hPlain.1, List.cons_append,
      List.cons_append, readQuote_backslash,
      ih hPlain.2.2, hPlain.2.1]
    rfl
  | case4 c rest hBackslash ih =>
    rw [plain_char hBackslash] at hPlain
    by_cases hEnd : c = '\''
    · subst hEnd
      rw [escapeQuotes_quote, List.cons_append,
        List.cons_append, readQuote_backslash, ih hPlain,
        hQuote]
      rfl
    · rw [escapeQuotes_char hEnd, List.cons_append,
        readQuote_char hEnd hBackslash, ih hPlain]
      rfl

variable
  (hStands : ∀ c, stands c = [c] ∨ stands c = ['\\', c])

include hStands

omit hQuote in
theorem length_stands (c : Char) :
    (stands c).length ≤ 2 := by
  rcases hStands c with hAlone | hBoth
  · rw [hAlone]
    exact Nat.le_succ 1
  · rw [hBoth]
    exact Nat.le_refl 2

variable {front : List Char}
variable (hFront : ∀ c ∈ front, c ≠ '\'' ∧ c ≠ '\\')

include hFront

/-
  A value is not longer than the text it was escaped from,
  unless a backslash at the end of the text takes the quote
  that should end the value.
-/
theorem readQuote_length
    {more after v : List Char}
    (hRead :
      readQuote stands (escapeQuotes text ++
        '\'' :: (front ++ '\'' :: more)) =
          some (v, after)) :
    v.length ≤ text.length ∨ text.getLast? = some '\\' ∧
        ∃ u, v = u ++ '\'' :: front := by
  induction text using Plain.induct generalizing v with
  | case1 =>
    rw [escapeQuotes_nil, List.nil_append, readQuote_quote]
      at hRead
    cases hRead
    exact Or.inl (Nat.le_refl 0)
  | case2 =>
    rw [escapeQuotes_char (by decide), escapeQuotes_nil,
      List.cons_append, List.nil_append,
      readQuote_backslash, readQuote_of_none hFront,
      hQuote] at hRead
    cases hRead
    exact Or.inr ⟨rfl, [], rfl⟩
  | case3 d rest ih =>
    rw [escapeQuotes_char (by decide)] at hRead
    by_cases hEnd : d = '\''
    · -- The value ends right after the backslash.
      subst hEnd
      rw [escapeQuotes_quote, List.cons_append,
        List.cons_append, List.cons_append,
        readQuote_backslash, readQuote_quote] at hRead
      cases hRead
      have hLength := length_stands hStands '\\'
      left
      simp only [List.append_nil, List.length_cons]
      omega
    · rw [escapeQuotes_char hEnd, List.cons_append,
        List.cons_append, readQuote_backslash] at hRead
      rcases Option.map_eq_some_iff.mp hRead with
        ⟨⟨v', after'⟩, hRest, hEq⟩
      cases hEq
      have hLength := length_stands hStands d
      rcases ih hRest with hShort | ⟨hLast, u, rfl⟩
      · left
        simp only [List.length_append, List.length_cons]
        omega
      · right
        refine ⟨?_, stands d ++ u, ?_⟩
        · rw [List.getLast?_cons, List.getLast?_cons, hLast]
          rfl
        · rw [List.append_assoc]
  | case4 c rest hBackslash ih =>
    by_cases hEnd : c = '\''
    · subst hEnd
      rw [escapeQuotes_quote, List.cons_append,
        List.cons_append, readQuote_backslash, hQuote]
        at hRead
      rcases Option.map_eq_some_iff.mp hRead with
        ⟨⟨v', after'⟩, hRest, hEq⟩
      cases hEq
      rcases ih hRest with hShort | ⟨hLast, u, rfl⟩
      · exact Or.inl (Nat.succ_le_succ hShort)
      · right
        refine ⟨?_, '\'' :: u, rfl⟩
        rw [List.getLast?_cons, hLast]
        rfl
    · rw [escapeQuotes_char hEnd, List.cons_append,
        readQuote_char hEnd hBackslash] at hRead
      rcases Option.map_eq_some_iff.mp hRead with
        ⟨⟨v', after'⟩, hRest, hEq⟩
      cases hEq
      rcases ih hRest with hShort | ⟨hLast, u, rfl⟩
      · exact Or.inl (Nat.succ_le_succ hShort)
      · right
        refine ⟨?_, c :: u, rfl⟩
        rw [List.getLast?_cons, hLast]
        rfl

/- What is read is not the text, unless the text is plain. -/
theorem readQuote_ne
    (hLast : ∃ c, front.getLast? = some c)
    {more after v : List Char}
    (hRead :
      readQuote stands (escapeQuotes text ++
        '\'' :: (front ++ '\'' :: more)) = some (v, after))
    (hPlain : ¬ Plain stands text) :
    v ≠ text := by
  induction text using Plain.induct generalizing v with
  | case1 => exact absurd trivial hPlain
  | case2 =>
    rw [escapeQuotes_char (by decide), escapeQuotes_nil,
      List.cons_append, List.nil_append,
      readQuote_backslash, readQuote_of_none hFront,
      hQuote] at hRead
    cases hRead
    rintro ⟨⟩
  | case3 d rest ih =>
    rw [escapeQuotes_char (by decide)] at hRead
    by_cases hEnd : d = '\''
    · subst hEnd
      rw [escapeQuotes_quote, List.cons_append,
        List.cons_append, List.cons_append,
        readQuote_backslash, readQuote_quote] at hRead
      cases hRead
      rcases hStands '\\' with hAlone | hBoth
      · rw [hAlone]
        rintro ⟨⟩
      · rw [hBoth]
        rintro ⟨⟩
    · rw [escapeQuotes_char hEnd, List.cons_append,
        List.cons_append, readQuote_backslash] at hRead
      rcases Option.map_eq_some_iff.mp hRead with
        ⟨⟨v', after'⟩, hRest, hEq⟩
      cases hEq
      rcases hStands d with hAlone | hBoth
      · rw [hAlone]
        intro hSame
        rcases List.cons.inj hSame with ⟨rfl, hTail⟩
        -- One of two backslashes is lost.
        have hTail : v' = '\\' :: rest := hTail
        rcases readQuote_length hQuote hStands hFront hRest
          with hShort | ⟨hEnds, u, hLong⟩
        · rw [hTail, List.length_cons] at hShort
          omega
        · rcases hLast with ⟨c, hLast⟩
          have hMem := List.mem_of_getLast? hLast
          have hOther := (hFront c hMem).2
          have hEnd' : v'.getLast? = some '\\' := by
            rw [hTail, List.getLast?_cons, hEnds]
            rfl
          rw [hLong, List.getLast?_append,
            List.getLast?_cons, hLast] at hEnd'
          exact hOther (Option.some.inj hEnd')
      · rw [plain_backslash, hBoth] at hPlain
        rw [hBoth]
        intro hSame
        have hTail : v' = rest :=
          (List.cons.inj (List.cons.inj hSame).2).2
        exact ih hRest
          (fun h => hPlain ⟨hEnd, rfl, h⟩) hTail
  | case4 c rest hBackslash ih =>
    rw [plain_char hBackslash] at hPlain
    by_cases hEnd : c = '\''
    · subst hEnd
      rw [escapeQuotes_quote, List.cons_append,
        List.cons_append, readQuote_backslash, hQuote]
        at hRead
      rcases Option.map_eq_some_iff.mp hRead with
        ⟨⟨v', after'⟩, hRest, hEq⟩
      cases hEq
      intro hSame
      exact ih hRest hPlain (List.cons.inj hSame).2
    · rw [escapeQuotes_char hEnd, List.cons_append,
        readQuote_char hEnd hBackslash] at hRead
      rcases Option.map_eq_some_iff.mp hRead with
        ⟨⟨v', after'⟩, hRest, hEq⟩
      cases hEq
      intro hSame
      exact ih hRest hPlain (List.cons.inj hSame).2

end Orignabase.Mcp

--------
-- Conditions
--------

namespace Orignabase.Mcp

/- The fields of a product that filters are about. -/
structure ProductRow where
  lifecycleStatus : Option String
  categoryId : Option String
  priceCents : Option ℤ
  name : Option String
  description : Option String

inductive Comparison
  | eq (value : String)
  | atLeast (bound : ℕ)
  | atMost (bound : ℕ)
  deriving DecidableEq

structure Condition where
  field : String
  comparison : Comparison
  deriving DecidableEq

namespace ProductRow

def text (row : ProductRow) : String → Option String
  | "lifecycleStatus" => row.lifecycleStatus
  | "categoryId" => row.categoryId
  | _ => none

def number (row : ProductRow) : String → Option ℤ
  | "priceCents" => row.priceCents
  | _ => none

end ProductRow

def Condition.holds
    (row : ProductRow)
    (c : Condition) : Bool :=
  match c.comparison with
  | .eq value => row.text c.field == some value
  | .atLeast bound =>
    (row.number c.field).any ((bound : ℤ) ≤ ·)
  | .atMost bound =>
    (row.number c.field).any (· ≤ (bound : ℤ))

/- What a field is compared with, as it is written. -/
inductive Operand
  | quoted (body : String)
  | atLeast (bound : ℕ)
  | atMost (bound : ℕ)

namespace Operand

def text : Operand → String
  | .quoted body => " = '" ++ (body ++ "'")
  | .atLeast bound => " >= " ++ toString bound
  | .atMost bound => " <= " ++ toString bound

/- The comparison, if its value ends where it should. -/
def read
    (stands : Char → List Char) :
    Operand → Option Comparison
  | .quoted body =>
    match readQuote stands (body.toList ++ ['\'']) with
    | some (value, []) =>
      some (.eq (String.ofList value))
    | _ => none
  | .atLeast bound => some (.atLeast bound)
  | .atMost bound => some (.atMost bound)

end Operand

/- A comparison as it is written in a filter. -/
structure Written where
  field : String
  operand : Operand

namespace Written

def text (part : Written) : String :=
  part.field ++ part.operand.text

def read
    (stands : Char → List Char)
    (part : Written) : Option Condition :=
  (part.operand.read stands).map (⟨part.field, ·⟩)

end Written

/- A name that stands in filters without quotes. -/
def isField (name : String) : Bool :=
  name ≠ "" && name.toList.all Char.isAlpha

/-
  The grammar of the search service: what a text is read as,
  and which products the service finds with it.
-/
structure FilterGrammar where
  Filter : Type
  parse : String → Option Filter
  selects : Filter → ProductRow → Bool
  conj : List Condition → Filter
  /- The comparison that an expression begins with. -/
  first : Filter → Option Condition
  stands : Char → List Char
  stands_quote : stands '\'' = ['\'']
  stands_cases : ∀ c, stands c = [c] ∨ stands c = ['\\', c]
  selects_conj : ∀ conditions row,
    selects (conj conditions) row =
      conditions.all (Condition.holds row)
  first_conj : ∀ condition conditions,
    first (conj (condition :: conditions)) = some condition
  /- Comparisons joined by `AND` are read one by one. -/
  conjunction : ∀ parts conditions,
    parts ≠ [] →
      (∀ part ∈ parts, isField part.field = true) →
        parts.map (Written.read stands) =
            conditions.map some →
          parse (Text.join " AND "
              (parts.map Written.text)) =
            some (conj conditions)
  /- The first comparison is read first. -/
  leading : ∀ field rest filter,
    isField field = true →
      parse (field ++ (" = '" ++ rest)) = some filter →
        ∃ value after,
          readQuote stands rest.toList = some (value, after) ∧
            first filter =
              some ⟨field, .eq (String.ofList value)⟩

--------
-- Comparisons Alone
--------

/- What follows a text at the front of another one. -/
def afterText (pat : String) (s : List Char) :
    Option (List Char) :=
  if pat.toList <+: s then some (s.drop pat.toList.length)
  else none

/- What a field is compared with, and what follows. -/
def readOperand
    (stands : Char → List Char)
    (s : List Char) : Option (Comparison × List Char) :=
  match afterText " = '" s with
  | some body =>
    (readQuote stands body).map
      (fun read => (.eq (String.ofList read.1), read.2))
  | none =>
    match afterText " >= " s with
    | some digits =>
      some (.atLeast (Nat.ofDigitChars 10
          (digits.takeWhile Char.isDigit) 0),
        digits.dropWhile Char.isDigit)
    | none =>
      match afterText " <= " s with
      | some digits =>
        some (.atMost (Nat.ofDigitChars 10
            (digits.takeWhile Char.isDigit) 0),
          digits.dropWhile Char.isDigit)
      | none => none

/- One comparison, and what follows it. -/
def readComparison
    (stands : Char → List Char)
    (s : List Char) : Option (Condition × List Char) :=
  (readOperand stands (s.dropWhile Char.isAlpha)).map
    (fun read =>
      (⟨String.ofList (s.takeWhile Char.isAlpha), read.1⟩,
        read.2))

/- Comparisons joined by `AND`, at most so many. -/
def readConjunction (stands : Char → List Char) :
    ℕ → List Char → Option (List Condition)
  | 0, _ => none
  | n + 1, s =>
    match readComparison stands s with
    | none => none
    | some (condition, rest) =>
      if rest = [] then some [condition]
      else
        match afterText " AND " rest with
        | none => none
        | some s =>
          (readConjunction stands n s).map
            (condition :: ·)

theorem afterText_append (pat : String) (s : List Char) :
    afterText pat (pat.toList ++ s) = some s := by
  unfold afterText
  rw [if_pos (List.prefix_append _ _), List.drop_left]

theorem afterText_eq_none
    {pat : String}
    {s : List Char}
    (hNot : ¬ pat.toList <+: s) :
    afterText pat s = none :=
  if_neg hNot

variable {stands : Char → List Char}

theorem readQuote_append
    {s v rest : List Char}
    (hRead : readQuote stands s = some (v, rest))
    (tail : List Char) :
    readQuote stands (s ++ tail) = some (v, rest ++ tail) := by
  induction s using readQuote.induct generalizing v with
  | case1 => cases hRead
  | case2 rest' =>
    rw [readQuote_quote] at hRead
    cases hRead
    exact readQuote_quote _
  | case3 =>
    unfold readQuote at hRead
    simp at hRead
  | case4 d rest' _ ih =>
    rw [readQuote_backslash] at hRead
    rcases Option.map_eq_some_iff.mp hRead with
      ⟨⟨v', after⟩, hRest, hEq⟩
    cases hEq
    rw [List.cons_append, List.cons_append,
      readQuote_backslash, ih hRest]
    rfl
  | case5 c rest' hQuote hBackslash ih =>
    rw [readQuote_char hQuote hBackslash] at hRead
    rcases Option.map_eq_some_iff.mp hRead with
      ⟨⟨v', after⟩, hRest, hEq⟩
    cases hEq
    rw [List.cons_append, readQuote_char hQuote hBackslash,
      ih hRest]
    rfl

/- A name is read up to the space that follows it. -/
theorem span_field
    {field : String}
    (hField : isField field = true)
    (rest : List Char) :
    (field.toList ++ ' ' :: rest).takeWhile Char.isAlpha =
        field.toList ∧
      (field.toList ++ ' ' :: rest).dropWhile Char.isAlpha =
        ' ' :: rest := by
  have hAlpha : ∀ c ∈ field.toList, c.isAlpha = true := by
    unfold isField at hField
    rw [Bool.and_eq_true, List.all_eq_true] at hField
    exact hField.2
  constructor
  · rw [List.takeWhile_append_of_pos hAlpha]
    simp [Char.isAlpha, Char.isUpper, Char.isLower]
  · rw [List.dropWhile_append_of_pos hAlpha]
    simp [Char.isAlpha, Char.isUpper, Char.isLower]

variable {tail : List Char}

/- A number is read up to what is no digit. -/
theorem span_number
    (n : ℕ)
    (hTail : tail = [] ∨ ∃ rest, tail = ' ' :: rest) :
    Nat.ofDigitChars 10
        (((toString n).toList ++ tail).takeWhile
          Char.isDigit) 0 = n ∧
      ((toString n).toList ++ tail).dropWhile Char.isDigit =
        tail := by
  have hText : (toString n).toList = Nat.toDigits 10 n := by
    rw [Nat.toString_eq_repr, Nat.toList_repr]
  have hDigits :
      ∀ c ∈ (toString n).toList, c.isDigit = true := by
    intro c hMem
    rw [hText] at hMem
    exact Nat.isDigit_of_mem_toDigits (by decide) (by decide)
      hMem
  rw [List.takeWhile_append_of_pos hDigits,
    List.dropWhile_append_of_pos hDigits]
  rcases hTail with rfl | ⟨rest, rfl⟩
  · rw [List.takeWhile_nil, List.append_nil, hText,
      Nat.ofDigitChars_ten_toDigits]
    exact ⟨rfl, rfl⟩
  · rw [List.takeWhile_cons_of_neg (by decide),
      List.append_nil, hText, Nat.ofDigitChars_ten_toDigits,
      List.dropWhile_cons_of_neg (by decide)]
    exact ⟨rfl, rfl⟩

theorem readOperand_text
    {operand : Operand}
    {comparison : Comparison}
    (hRead : operand.read stands = some comparison)
    (hTail : tail = [] ∨ ∃ rest, tail = ' ' :: rest) :
    readOperand stands (operand.text.toList ++ tail) =
      some (comparison, tail) := by
  unfold readOperand
  cases operand with
  | quoted body =>
    have hText :
        (Operand.quoted body).text.toList ++ tail =
          " = '".toList ++
            (body.toList ++ ['\''] ++ tail) := by
      simp [Operand.text, String.toList_append]
    unfold Operand.read at hRead
    dsimp only at hRead
    split at hRead
    · next v hQuote =>
        cases hRead
        rw [hText, afterText_append]
        dsimp only
        rw [readQuote_append hQuote]
        rfl
    · cases hRead
  | atLeast bound =>
    cases hRead
    have hText :
        (Operand.atLeast bound).text.toList ++ tail =
          " >= ".toList ++
            ((toString bound).toList ++ tail) := by
      simp [Operand.text, String.toList_append]
    have hNumber := span_number bound hTail
    rw [hText, afterText_eq_none (by simp),
      afterText_append]
    dsimp only
    rw [hNumber.1, hNumber.2]
  | atMost bound =>
    cases hRead
    have hText :
        (Operand.atMost bound).text.toList ++ tail =
          " <= ".toList ++
            ((toString bound).toList ++ tail) := by
      simp [Operand.text, String.toList_append]
    have hNumber := span_number bound hTail
    rw [hText, afterText_eq_none (by simp),
      afterText_eq_none (by simp), afterText_append]
    dsimp only
    rw [hNumber.1, hNumber.2]

theorem operand_text_cases (operand : Operand) :
    ∃ rest, operand.text.toList = ' ' :: rest := by
  cases operand with
  | quoted body =>
    exact ⟨_, String.toList_append⟩
  | atLeast bound =>
    exact ⟨_, String.toList_append⟩
  | atMost bound =>
    exact ⟨_, String.toList_append⟩

/- What is written is read. -/
theorem readComparison_text
    {part : Written}
    {condition : Condition}
    (hField : isField part.field = true)
    (hRead : part.read stands = some condition)
    (hTail : tail = [] ∨ ∃ rest, tail = ' ' :: rest) :
    readComparison stands (part.text.toList ++ tail) =
      some (condition, tail) := by
  rcases Option.map_eq_some_iff.mp hRead with
    ⟨comparison, hOperand, rfl⟩
  rcases operand_text_cases part.operand with ⟨rest, hRest⟩
  have hText :
      part.text.toList ++ tail =
        part.field.toList ++ ' ' :: (rest ++ tail) := by
    unfold Written.text
    rw [String.toList_append, hRest, List.append_assoc]
    rfl
  have hSpan := span_field hField (rest ++ tail)
  unfold readComparison
  rw [hText, hSpan.1, hSpan.2, String.ofList_toList,
    ← List.cons_append, ← hRest,
    readOperand_text hOperand hTail]
  rfl

section

variable {part : Written} {condition : Condition}
variable (hField : isField part.field = true)
variable (hRead : part.read stands = some condition) (n : ℕ)

include hField hRead

theorem readConjunction_last :
    readConjunction stands (n + 1) part.text.toList =
      some [condition] := by
  have hText :=
    readComparison_text hField hRead (Or.inl rfl)
  rw [List.append_nil] at hText
  rw [readConjunction, hText]
  exact if_pos rfl

theorem readConjunction_next (text : String) :
    readConjunction stands (n + 1)
        (part.text ++ (" AND " ++ text)).toList =
      (readConjunction stands n text.toList).map
        (condition :: ·) := by
  have hTail :
      " AND ".toList ++ text.toList = [] ∨
        ∃ rest, " AND ".toList ++ text.toList =
          ' ' :: rest :=
    Or.inr ⟨_, rfl⟩
  have hText := readComparison_text hField hRead hTail
  rw [String.toList_append, String.toList_append,
    readConjunction, hText]
  dsimp only
  rw [if_neg (by simp), afterText_append]

end

/- A conjunction is read comparison by comparison. -/
theorem readConjunction_text
    {parts : List Written}
    {conditions : List Condition}
    (hNonempty : parts ≠ [])
    (hFields : ∀ part ∈ parts, isField part.field = true)
    (hRead :
      parts.map (Written.read stands) = conditions.map some)
    {n : ℕ}
    (hFuel : parts.length ≤ n) :
    readConjunction stands n
        (Text.join " AND "
          (parts.map Written.text)).toList =
      some conditions := by
  induction parts generalizing conditions n with
  | nil => exact absurd rfl hNonempty
  | cons part rest ih =>
    rw [List.forall_mem_cons] at hFields
    cases conditions with
    | nil => cases hRead
    | cons condition conditions =>
      rcases List.cons.inj hRead with ⟨hFirst, hRest⟩
      cases n with
      | zero => cases hFuel
      | succ n =>
        cases rest with
        | nil =>
          have hNone : conditions = [] :=
            List.map_eq_nil_iff.mp hRest.symm
          rw [hNone]
          exact readConjunction_last hFields.1 hFirst n
        | cons next rest =>
          refine (readConjunction_next hFields.1
            hFirst n _).trans ?_
          have hMore := ih (List.cons_ne_nil _ _)
            hFields.2 hRest
            (Nat.le_of_succ_le_succ hFuel)
          exact congrArg _ hMore

theorem length_le_join (parts : List Written) :
    parts.length ≤
      (Text.join " AND "
        (parts.map Written.text)).toList.length := by
  have hText (part : Written) :
      1 ≤ part.text.toList.length := by
    rcases operand_text_cases part.operand with ⟨rest, hRest⟩
    unfold Written.text
    rw [String.toList_append, hRest, List.length_append,
      List.length_cons]
    omega
  induction parts with
  | nil => exact Nat.zero_le _
  | cons part rest ih =>
    cases rest with
    | nil => exact hText part
    | cons next rest =>
      have hPart := hText part
      change _ ≤ (part.text ++ (" AND " ++
        Text.join " AND " ((next :: rest).map
          Written.text))).toList.length
      rw [String.toList_append, String.toList_append,
        List.length_append, List.length_append,
        List.length_cons]
      omega

/-
  A grammar of nothing but conjunctions of comparisons, in
  which a backslash takes the next character alone.
-/
def FilterGrammar.comparisons : FilterGrammar where
  Filter := List Condition
  parse text :=
    readConjunction (fun c => [c]) (text.toList.length + 1)
      text.toList
  selects conditions row :=
    conditions.all (Condition.holds row)
  conj conditions := conditions
  first := List.head?
  stands c := [c]
  stands_quote := rfl
  stands_cases _ := Or.inl rfl
  selects_conj _ _ := rfl
  first_conj _ _ := rfl
  conjunction parts conditions hNonempty hFields hRead :=
    readConjunction_text hNonempty hFields hRead
      (Nat.le_succ_of_le (length_le_join parts))
  leading field rest filter hField hParse := by
    have hText :
        (field ++ (" = '" ++ rest)).toList = field.toList ++
            ' ' :: ("= '".toList ++ rest.toList) := by
      simp [String.toList_append]
    have hSpan :=
      span_field hField ("= '".toList ++ rest.toList)
    have hAfter := afterText_append " = '" rest.toList
    change afterText " = '" (' ' :: ("= '".toList ++ _)) = _
      at hAfter
    rw [hText, readConjunction, readComparison, hSpan.1,
      hSpan.2, readOperand, hAfter, String.ofList_toList]
      at hParse
    dsimp only at hParse
    cases hQuote : readQuote (fun c => [c]) rest.toList with
    | none =>
      rw [hQuote] at hParse
      cases hParse
    | some read =>
      rw [hQuote] at hParse
      simp only [Option.map_some] at hParse
      refine ⟨read.1, read.2, rfl, ?_⟩
      split_ifs at hParse with hEnd
      · rw [← Option.some.inj hParse]
        rfl
      · split at hParse
        · cases hParse
        · rcases Option.map_eq_some_iff.mp hParse with
            ⟨more, _, rfl⟩
          rfl

end Orignabase.Mcp
