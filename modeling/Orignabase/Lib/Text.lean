import Mathlib.Data.List.Basic
import Mathlib.Data.List.DropRight

/-
  String operations of the standard library, given by their
  action on the list of characters.

  Key definitions include:
    * `Text.replaceChar`
    * `Text.endsWith`
    * `Text.stripPrefix`
    * `Text.lt`
    * `Text.join`

  Main results:
    * `Text.mem_between_iff`
-/

--------
-- Operations
--------

namespace Text

/- Replace every occurrence of a character by a text. -/
def replaceChar
    (c : Char)
    (by_ : List Char)
    (cs : List Char) : List Char :=
  cs.flatMap (fun d => if d = c then by_ else [d])

def endsWith (s tail : String) : Bool :=
  tail.toList.isSuffixOf s.toList

/- Remove a leading text, `none` when it is not there. -/
def stripPrefix (head s : String) : Option String :=
  if head.toList.isPrefixOf s.toList then
    some (String.ofList (s.toList.drop head.toList.length))
  else none

variable {c : Char}

/- The codes of the letters and digits of ASCII. -/
theorem code_of_isAlpha
    (hAlpha : c.isAlpha = true) :
    65 ≤ c.toNat ∧ c.toNat ≤ 90 ∨
      97 ≤ c.toNat ∧ c.toNat ≤ 122 := by
  change (decide (c.val ≥ 'A'.val ∧ c.val ≤ 'Z'.val) ||
      (decide (c.val ≥ 'a'.val) &&
        decide (c.val ≤ 'z'.val))) = true at hAlpha
  simp only [Bool.or_eq_true, Bool.and_eq_true,
    decide_eq_true_eq, ge_iff_le,
    UInt32.le_iff_toNat_le] at hAlpha
  exact hAlpha

theorem code_of_isDigit
    (hDigit : c.isDigit = true) :
    48 ≤ c.toNat ∧ c.toNat ≤ 57 := by
  simp only [Char.isDigit, Bool.and_eq_true,
    decide_eq_true_eq, ge_iff_le,
    UInt32.le_iff_toNat_le] at hDigit
  exact hDigit

theorem isAlpha_or_isDigit
    (hAlnum : c.isAlphanum = true) :
    c.isAlpha = true ∨ c.isDigit = true :=
  (Bool.or_eq_true _ _).mp hAlnum

/- The Unicode property `White_Space`. -/
def isWhitespace (c : Char) : Bool :=
  (0x9 ≤ c.toNat && c.toNat ≤ 0xd) ||
    (0x2000 ≤ c.toNat && c.toNat ≤ 0x200a) ||
    [0x20, 0x85, 0xa0, 0x1680, 0x2028, 0x2029, 0x202f,
      0x205f, 0x3000].contains c.toNat

/- A text without white space at its ends. -/
def trim (s : String) : String :=
  String.ofList
    (((s.toList.dropWhile isWhitespace).reverse.dropWhile
      isWhitespace).reverse)

/- Trimming twice is trimming once. -/
theorem trim_trim (s : String) :
    trim (trim s) = trim s := by
  have hTrim :
      ∀ t : String, trim t = String.ofList
          ((t.toList.dropWhile isWhitespace).rdropWhile
            isWhitespace) :=
    fun _ => rfl
  have hFirst :
      (((s.toList.dropWhile isWhitespace).rdropWhile
          isWhitespace).dropWhile isWhitespace) =
        (s.toList.dropWhile isWhitespace).rdropWhile
          isWhitespace := by
    rw [List.dropWhile_eq_self_iff]
    intro hSome
    have hPrefix := List.rdropWhile_prefix isWhitespace
      (l := s.toList.dropWhile isWhitespace)
    rw [List.IsPrefix.getElem hPrefix hSome]
    exact List.dropWhile_get_zero_not _ _ _
  rw [hTrim (trim s), hTrim s, String.toList_ofList, hFirst,
    List.rdropWhile_idempotent]

def toAsciiLowercase (s : String) : String :=
  String.ofList (s.toList.map Char.toLower)

/- The order of characters, a text after what it begins with. -/
def before : List Char → List Char → Bool
  | _, [] => false
  | [], _ :: _ => true
  | a :: as, b :: bs =>
    a.toNat < b.toNat || (a = b && before as bs)

/- The order of texts in the C collation. -/
def lt (s t : String) : Bool :=
  before s.toList t.toList

def le (s t : String) : Bool :=
  s = t || lt s t

/- Concatenate with a separator between the parts. -/
def join (sep : String) : List String → String
  | [] => ""
  | [s] => s
  | s :: t :: rest => s ++ (sep ++ join sep (t :: rest))

--------
-- Facts
--------

@[simp] theorem before_nil (b : Char) (bs : List Char) :
    before [] (b :: bs) = true := rfl

theorem before_cons
    (a b : Char)
    (as bs : List Char) :
    before (a :: as) (b :: bs) = true ↔
      a.toNat < b.toNat ∨ a = b ∧ before as bs = true := by
  simp [before]

/- No text stands before itself. -/
theorem before_irrefl (cs : List Char) :
    before cs cs = false := by
  induction cs with
  | nil => rfl
  | cons c cs ih => simp [before, ih]

/- Of two texts at most one stands before the other. -/
theorem before_asymm :
    ∀ {as bs : List Char},
      before as bs = true → before bs as = false
  | _, [], hBefore => by simp [before] at hBefore
  | [], _ :: _, _ => by simp [before]
  | a :: as, b :: bs, hBefore => by
      rw [before_cons] at hBefore
      rw [← Bool.not_eq_true, before_cons]
      rcases hBefore with hLess | ⟨rfl, hRest⟩
      · rintro (hMore | ⟨rfl, _⟩) <;> omega
      · rintro (hMore | ⟨_, hBack⟩)
        · omega
        · rw [before_asymm hRest] at hBack
          cases hBack

/- Of two different texts one stands before the other. -/
theorem before_total :
    ∀ {as bs : List Char},
      as ≠ bs → before as bs = true ∨ before bs as = true
  | [], [], hNe => absurd rfl hNe
  | [], _ :: _, _ => Or.inl rfl
  | _ :: _, [], _ => Or.inr rfl
  | a :: as, b :: bs, hNe => by
      simp only [before_cons]
      rcases Nat.lt_trichotomy a.toNat b.toNat with
        hLess | hSame | hMore
      · exact Or.inl (Or.inl hLess)
      · have hChar : a = b := Char.toNat_inj.mp hSame
        subst hChar
        have hRest : as ≠ bs := fun h => hNe (h ▸ rfl)
        rcases before_total hRest with hBefore | hBefore
        · exact Or.inl (Or.inr ⟨rfl, hBefore⟩)
        · exact Or.inr (Or.inr ⟨rfl, hBefore⟩)
      · exact Or.inr (Or.inl hMore)

@[simp] theorem replaceChar_nil
    (c : Char)
    (by_ : List Char) :
    replaceChar c by_ [] = [] := rfl

@[simp] theorem replaceChar_cons
    (c d : Char)
    (by_ cs : List Char) :
    replaceChar c by_ (d :: cs) =
      (if d = c then by_ else [d]) ++
        replaceChar c by_ cs := by
  simp [replaceChar]

@[simp] theorem replaceChar_append
    (c : Char)
    (by_ as bs : List Char) :
    replaceChar c by_ (as ++ bs) =
      replaceChar c by_ as ++ replaceChar c by_ bs := by
  simp [replaceChar]

/- A text without the character is left alone. -/
theorem replaceChar_of_notMem
    {cs : List Char}
    (by_ : List Char)
    (hNot : c ∉ cs) :
    replaceChar c by_ cs = cs := by
  induction cs with
  | nil => rfl
  | cons d cs ih =>
    rw [List.mem_cons, not_or] at hNot
    rw [replaceChar_cons, if_neg (Ne.symm hNot.1),
      ih hNot.2]
    rfl

/- Stripping a head that was just put there. -/
theorem stripPrefix_append (head s : String) :
    stripPrefix head (head ++ s) = some s := by
  simp [stripPrefix]

--------
-- Parts Between Separators
--------

variable {α : Type}

/- The parts with a separator on both sides. -/
def between [BEq α] (sep : α) (cs : List α) :
    List (List α) :=
  (cs.splitOn sep).tail.dropLast

theorem intercalate_cons_cons
    (sep : α)
    (part next : List α)
    (rest : List (List α)) :
    [sep].intercalate (part :: next :: rest) =
      part ++ sep :: [sep].intercalate (next :: rest) := by
  simp [List.intercalate, List.intersperse]

/- A part inside a list of parts has both separators. -/
theorem infix_intercalate
    {sep : α}
    {part : List α}
    {parts : List (List α)}
    (hMem : part ∈ parts.tail.dropLast) :
    (sep :: (part ++ [sep])) <:+:
      [sep].intercalate parts := by
  induction parts with
  | nil => exact absurd hMem List.not_mem_nil
  | cons first parts ih =>
    rcases parts with _ | ⟨next, _ | ⟨third, rest⟩⟩
    · exact absurd hMem List.not_mem_nil
    · exact absurd hMem List.not_mem_nil
    · rw [intercalate_cons_cons]
      rcases List.mem_cons.mp hMem with rfl | hLater
      · rw [intercalate_cons_cons]
        exact ⟨first, [sep].intercalate (third :: rest),
          by simp⟩
      · exact (ih hLater).trans
          ((List.suffix_cons _ _).trans
            (List.suffix_append _ _)).isInfix

/-
  A text without separators is one of the parts in between
  when it occurs with a separator on both sides.
-/
theorem mem_between_iff
    [BEq α]
    [LawfulBEq α]
    {sep : α}
    {part cs : List α}
    (hNot : sep ∉ part) :
    part ∈ between sep cs ↔
      (sep :: (part ++ [sep])) <:+: cs := by
  constructor
  · intro hMem
    have hInfix :
        (sep :: (part ++ [sep])) <:+:
          [sep].intercalate (cs.splitOn sep) :=
      infix_intercalate hMem
    rwa [List.intercalate_splitOn] at hInfix
  · rintro ⟨front, back, rfl⟩
    have hSplit :
        (front ++ (sep :: (part ++ [sep])) ++ back).splitOn
            sep =
          front.splitOn sep ++
            part :: back.splitOn sep := by
      rw [List.append_assoc, List.cons_append,
        List.append_assoc, List.splitOn_append_cons_self,
        List.singleton_append,
        List.splitOn_append_cons_self_of_not_mem hNot]
    rw [between, hSplit]
    rcases List.exists_cons_of_ne_nil
        (List.splitOn_ne_nil sep front) with
      ⟨first, parts, hFront⟩
    rw [hFront, List.cons_append, List.tail_cons,
      List.dropLast_append_of_ne_nil (List.cons_ne_nil _ _)]
    apply List.mem_append_right
    rcases List.exists_cons_of_ne_nil
        (List.splitOn_ne_nil sep back) with
      ⟨next, rest, hBack⟩
    rw [hBack, List.dropLast_cons_cons]
    exact List.mem_cons_self

/- The part before the first separator, and the rest. -/
theorem cons_inj_of_notMem
    {sep : Char}
    {first second rest rest' : List Char}
    (hFirst : sep ∉ first)
    (hSecond : sep ∉ second)
    (hSame : first ++ sep :: rest = second ++ sep :: rest') :
    first = second ∧ rest = rest' := by
  have hSplit := congrArg (List.splitOn sep) hSame
  rw [List.splitOn_append_cons_self_of_not_mem hFirst,
    List.splitOn_append_cons_self_of_not_mem hSecond]
    at hSplit
  have hEq := (List.cons.inj hSplit).1
  subst hEq
  exact ⟨rfl,
    (List.cons.inj (List.append_cancel_left hSame)).2⟩

end Text
