import Mathlib.Algebra.GroupWithZero.Nat
import Orignabase.Database.Query

/-
  The table that a raw query is taken to be about
  (`ob-database/src/pg_store.rs`, `extract_table_name`).

  Places are counted in bytes of UTF-8.  They are found in the
  text in small letters and used in the text itself.

  Key definitions include:
    * `Unicode`
    * `extractTableName`
    * `occurrences`, `firstTaken`

  Main results:
    * `extractTableName_eq`
    * `table_names_iff`
-/

--------
-- Bytes
--------

namespace Orignabase.Database

/-
  What the standard library knows of characters.  Letters of
  ASCII are made small one by one, and what stands before
  other characters does not depend on them.
-/
structure Unicode where
  toLowercase : List Char → List Char
  isAlphanumeric : Char → Bool
  lowercase_ascii :
    ∀ front rest, (∀ c ∈ front, c.toNat < 128) →
      ∃ back, toLowercase (front ++ rest) =
        front.map Char.toLower ++ back
  alphanumeric_ascii :
    ∀ c, c.toNat < 128 → isAlphanumeric c = c.isAlphanum

def bytes (text : List Char) : ℕ :=
  (text.map Char.utf8Size).sum

/- The text from a byte on, if a character starts there. -/
def fromByte : ℕ → List Char → Option (List Char)
  | 0, text => some text
  | _ + 1, [] => none
  | n + 1, c :: text =>
    if c.utf8Size ≤ n + 1 then
      fromByte (n + 1 - c.utf8Size) text
    else none

def isAsciiWhitespace (c : Char) : Bool :=
  c == ' ' || c == '\t' || c == '\n' || c == '\r' ||
    c.toNat == 12

/- Whether a byte is white space or beyond the end. -/
def spaceAt (query : List Char) (n : ℕ) : Bool :=
  bytes query ≤ n ||
    (fromByte n query).any (fun text =>
      text.head?.any isAsciiWhitespace)

--------
-- The Search
--------

/- A keyword, and whether it may stand anywhere. -/
def patterns : List (String × Bool) :=
  [("delete from", true), ("insert into", true),
    ("update", false), ("from", true)]

/- A keyword between two parts of the text made small. -/
structure Occurrence where
  keyword : String
  isMultiword : Bool
  past : List Char
  after : List Char

/- The checks that the loop makes of an occurrence. -/
def Occurrence.passes
    (o : Occurrence)
    (query : List Char) : Bool :=
  let absPos := bytes o.past
  let beforeOk := absPos = 0 || spaceAt query (absPos - 1)
  let afterOk := o.after.head?.any isAsciiWhitespace
  let beforeText := (Text.trim (String.ofList o.past)).toList
  beforeOk && afterOk &&
    (o.isMultiword || beforeText.isEmpty ||
      beforeText.getLast? == some ';')

def isSeparator (c : Char) : Bool :=
  Text.isWhitespace c || c == '(' || c == ';'

/- The word behind; none if no character starts there. -/
def Occurrence.word
    (o : Occurrence)
    (query : List Char) : Option (List Char) :=
  (fromByte (bytes o.past + bytes o.keyword.toList)
    query).map (fun text =>
      (Text.trim (String.ofList text)).toList.takeWhile
        (fun c => ! isSeparator c))

/- How the loop ends here; `some none` is a panic. -/
def Occurrence.inspect
    (u : Unicode)
    (query : List Char)
    (o : Occurrence) : Option (Option String) :=
  if o.passes query then
    match o.word query with
    | none => some none
    | some table =>
      if !table.isEmpty && table.all (fun c =>
          u.isAlphanumeric c || c == '_') then
        some (some (String.ofList table))
      else none
  else none

/-
  The loop over the occurrences of a keyword.  `skip` counts
  what is left of an occurrence that was passed over.
-/
def search
    (u : Unicode)
    (query : List Char)
    (keyword : String)
    (isMultiword : Bool) :
    ℕ → List Char → List Char → Option (Option String)
  | _, _, [] => none
  | skip + 1, past, c :: rest =>
    search u query keyword isMultiword skip (past ++ [c]) rest
  | 0, past, c :: rest =>
    if keyword.toList.isPrefixOf (c :: rest) then
      let o : Occurrence := ⟨keyword, isMultiword, past,
        (c :: rest).drop keyword.toList.length⟩
      match o.inspect u query with
      | some result => some result
      | none => search u query keyword isMultiword
          (keyword.toList.length - 1) (past ++ [c]) rest
    else
      search u query keyword isMultiword 0 (past ++ [c]) rest

/- None is a panic, and `some none` that no name is found. -/
def extractTableName (u : Unicode) (query : String) :
    Option (Option String) :=
  let lower := u.toLowercase query.toList
  match patterns.findSome? (fun pattern =>
      search u query.toList pattern.1 pattern.2 0 [] lower) with
  | none => some none
  | some none => none
  | some (some table) => some (some table)

--------
-- Occurrences
--------

/- The occurrences in the order in which they are found. -/
def occurrencesFrom (keyword : String) (isMultiword : Bool) :
    ℕ → List Char → List Char → List Occurrence
  | _, _, [] => []
  | skip + 1, past, c :: rest =>
    occurrencesFrom keyword isMultiword skip (past ++ [c])
      rest
  | 0, past, c :: rest =>
    if keyword.toList.isPrefixOf (c :: rest) then
      ⟨keyword, isMultiword, past,
        (c :: rest).drop keyword.toList.length⟩ ::
        occurrencesFrom keyword isMultiword
          (keyword.toList.length - 1) (past ++ [c]) rest
    else occurrencesFrom keyword isMultiword 0 (past ++ [c])
      rest

def occurrences
    (u : Unicode)
    (keywords : List (String × Bool))
    (query : List Char) : List Occurrence :=
  keywords.flatMap (fun pattern =>
    occurrencesFrom pattern.1 pattern.2 0 []
      (u.toLowercase query))

/- The loop ends here: there is a name, or no character. -/
def Occurrence.taken
    (u : Unicode)
    (query : List Char)
    (o : Occurrence) : Bool :=
  o.passes query && (o.word query).all (fun table =>
    !table.isEmpty && table.all (fun c =>
      u.isAlphanumeric c || c == '_'))

/- The occurrence at which the search ends. -/
def firstTaken
    (u : Unicode)
    (keywords : List (String × Bool))
    (query : List Char) : Option Occurrence :=
  (occurrences u keywords query).find? (·.taken u query)

variable {u : Unicode} {query : List Char}

theorem inspect_eq (o : Occurrence) :
    o.inspect u query =
      if o.taken u query then
        some ((o.word query).map String.ofList)
      else none := by
  unfold Occurrence.inspect Occurrence.taken
  cases o.passes query with
  | false => rfl
  | true => cases o.word query <;> rfl

theorem findSome?_inspect (os : List Occurrence) :
    os.findSome? (·.inspect u query) =
      (os.find? (·.taken u query)).map (fun o =>
        (o.word query).map String.ofList) := by
  induction os with
  | nil => rfl
  | cons o os ih =>
    rw [List.findSome?_cons, List.find?_cons, inspect_eq, ih]
    cases o.taken u query <;> rfl

/- The loop inspects the occurrences in turn. -/
theorem search_eq
    (keyword : String)
    (isMultiword : Bool)
    (skip : ℕ)
    (past rest : List Char) :
    search u query keyword isMultiword skip past rest =
      (occurrencesFrom keyword isMultiword skip past
        rest).findSome? (·.inspect u query) := by
  induction rest generalizing skip past with
  | nil => cases skip <;> rfl
  | cons c rest ih =>
    cases skip with
    | succ skip => exact ih skip (past ++ [c])
    | zero =>
      unfold search occurrencesFrom
      split_ifs with hHere
      · rw [List.findSome?_cons, ← ih]
        dsimp only
        cases Occurrence.inspect u query _ <;> rfl
      · exact ih 0 (past ++ [c])

theorem findSome?_search
    (keywords : List (String × Bool))
    (lower : List Char) :
    keywords.findSome? (fun pattern =>
        search u query pattern.1 pattern.2 0 [] lower) =
      (keywords.flatMap (fun pattern =>
        occurrencesFrom pattern.1 pattern.2 0 []
          lower)).findSome? (·.inspect u query) := by
  induction keywords with
  | nil => rfl
  | cons pattern keywords ih =>
    rw [List.findSome?_cons, List.flatMap_cons,
      List.findSome?_append, ih, search_eq]
    cases List.findSome? _ _ <;> rfl

/- The result is read at the first occurrence taken. -/
theorem extractTableName_eq (query : String) :
    extractTableName u query =
      (firstTaken u patterns query.toList).elim (some none)
        (fun o => (o.word query.toList).map (fun table =>
          some (String.ofList table))) := by
  unfold extractTableName firstTaken occurrences
  dsimp only
  rw [findSome?_search, findSome?_inspect]
  cases List.find? _ _ with
  | none => rfl
  | some o =>
    rw [Option.map_some, Option.elim_some]
    cases o.word query.toList <;> rfl

--------
-- Text of ASCII
--------

theorem ascii_facts
    (c : Char)
    (hCode : c.toNat < 128) :
    c.utf8Size = 1 ∧ c.toLower.utf8Size = 1 ∧
      isAsciiWhitespace c.toLower = isAsciiWhitespace c := by
  have hAll : ∀ n < 128, (Char.ofNat n).utf8Size = 1 ∧
      (Char.ofNat n).toLower.utf8Size = 1 ∧
        isAsciiWhitespace (Char.ofNat n).toLower =
          isAsciiWhitespace (Char.ofNat n) := by
    decide
  have hC := hAll c.toNat hCode
  rwa [Char.ofNat_toNat] at hC

theorem bytes_toLower
    {front : List Char}
    (hFront : ∀ c ∈ front, c.toNat < 128) :
    bytes (front.map Char.toLower) = front.length := by
  unfold bytes
  induction front with
  | nil => rfl
  | cons c front ih =>
    rw [List.forall_mem_cons] at hFront
    rw [List.map_cons, List.map_cons, List.sum_cons,
      ih hFront.2, (ascii_facts c hFront.1).2.1,
      List.length_cons, Nat.add_comm]

theorem fromByte_length
    {front : List Char}
    (rest : List Char)
    (hFront : ∀ c ∈ front, c.toNat < 128) :
    fromByte front.length (front ++ rest) = some rest := by
  induction front with
  | nil => cases rest <;> rfl
  | cons c front ih =>
    rw [List.forall_mem_cons] at hFront
    rw [List.length_cons, List.cons_append]
    unfold fromByte
    rw [(ascii_facts c hFront.1).1, if_pos (by omega)]
    exact ih hFront.2

theorem length_le_bytes (text : List Char) :
    text.length ≤ bytes text := by
  induction text with
  | nil => exact Nat.le_refl 0
  | cons c text ih =>
    have hPos := c.utf8Size_pos
    unfold bytes at ih ⊢
    rw [List.map_cons, List.sum_cons, List.length_cons]
    omega

/- Whether the character behind is white space. -/
theorem spaceAt_length
    {front : List Char}
    (c : Char)
    (back : List Char)
    (hFront : ∀ c ∈ front, c.toNat < 128) :
    spaceAt (front ++ c :: back) front.length =
      isAsciiWhitespace c := by
  have hInside := length_le_bytes (front ++ c :: back)
  rw [List.length_append, List.length_cons] at hInside
  unfold spaceAt
  rw [fromByte_length _ hFront, decide_eq_false (by omega)]
  rfl

--------
-- Words
--------

/- A character of ASCII that is not white space. -/
def isVisible (c : Char) : Bool :=
  c.toNat < 128 && !isAsciiWhitespace c

/- Words with a space behind each. -/
def spaced (words : List (List Char)) : List Char :=
  words.flatMap (· ++ [' '])

/- What has no space lies before the space. -/
theorem prefix_word
    {keyword w rest : List Char}
    (hSpace : ' ' ∉ keyword)
    (hHere : keyword <+: w ++ ' ' :: rest) :
    keyword <+: w := by
  rcases hHere with ⟨back, hText⟩
  rcases List.append_eq_append_iff.mp hText with
    ⟨z, hWord, _⟩ | ⟨z, hKeyword, hRest⟩
  · exact ⟨z, hWord.symm⟩
  · cases z with
    | nil =>
      exact ⟨[], by rw [hKeyword, List.append_nil,
        List.append_nil]⟩
    | cons d z =>
      rw [List.cons_append, List.cons.injEq] at hRest
      rw [hKeyword, ← hRest.1] at hSpace
      simp at hSpace

variable {p : Occurrence → Bool} {keyword : String}
  {isMultiword : Bool} {rest : List Char}

/- Only an occurrence in a word is found before its end. -/
theorem find?_word
    (hSpace : ' ' ∉ keyword.toList)
    (hKeyword : keyword.toList ≠ [])
    (word past : List Char)
    (skip : ℕ)
    (hSkip : skip ≤ word.length)
    (hNot : ∀ a z, word = a ++ (keyword.toList ++ z) →
      p ⟨keyword, isMultiword, past ++ a,
        z ++ ' ' :: rest⟩ = false) :
    (occurrencesFrom keyword isMultiword skip past
        (word ++ ' ' :: rest)).find? p =
      (occurrencesFrom keyword isMultiword 0
        (past ++ (word ++ [' '])) rest).find? p := by
  induction word generalizing past skip with
  | nil =>
    have hZero : skip = 0 := Nat.le_zero.mp hSkip
    subst hZero
    rw [List.nil_append, List.nil_append, occurrencesFrom,
      if_neg]
    intro hHere
    exact hKeyword (List.prefix_nil.mp
      (prefix_word (w := []) hSpace
        (List.isPrefixOf_iff_prefix.mp hHere)))
  | cons c word ih =>
    have hMore :
        ∀ a z, word = a ++ (keyword.toList ++ z) →
          p ⟨keyword, isMultiword, past ++ [c] ++ a,
            z ++ ' ' :: rest⟩ = false := by
      intro a z hWord
      rw [List.append_assoc]
      exact hNot (c :: a) z (congrArg (c :: ·) hWord)
    have hStep := fun n hN => ih (past ++ [c]) n hN hMore
    rw [List.append_assoc past [c]] at hStep
    cases skip with
    | succ skip =>
      exact hStep skip (Nat.succ_le_succ_iff.mp hSkip)
    | zero =>
      rw [List.cons_append, occurrencesFrom]
      split_ifs with hHere
      · rcases prefix_word (w := c :: word) hSpace
          (List.isPrefixOf_iff_prefix.mp hHere) with
          ⟨z, hZ⟩
        have hLength := congrArg List.length hZ
        rw [List.length_append, List.length_cons]
          at hLength
        have hNone := hNot [] z hZ.symm
        rw [List.append_nil] at hNone
        rw [← List.cons_append, ← hZ, List.append_assoc,
          List.drop_left, List.find?_cons, hNone, hZ]
        exact hStep _ (by omega)
      · exact hStep 0 (Nat.zero_le _)

theorem spaced_cons
    (word : List Char)
    (words : List (List Char)) :
    spaced (word :: words) = word ++ ' ' :: spaced words :=
  List.append_cons _ _ _ |>.symm

/- So the search goes on behind words without one. -/
theorem find?_words
    (hSpace : ' ' ∉ keyword.toList)
    (hKeyword : keyword.toList ≠ [])
    (words : List (List Char))
    (past : List Char)
    (hNot : ∀ front word back,
      words = front ++ word :: back →
        ∀ a z, word = a ++ (keyword.toList ++ z) →
          p ⟨keyword, isMultiword,
            past ++ (spaced front ++ a),
            z ++ ' ' :: (spaced back ++ rest)⟩ = false) :
    (occurrencesFrom keyword isMultiword 0 past
        (spaced words ++ rest)).find? p =
      (occurrencesFrom keyword isMultiword 0
        (past ++ spaced words) rest).find? p := by
  induction words generalizing past with
  | nil => rw [spaced, List.flatMap_nil, List.append_nil,
      List.nil_append]
  | cons word words ih =>
    rw [spaced_cons, List.append_assoc, List.cons_append,
      find?_word hSpace hKeyword word past 0
        (Nat.zero_le _)
        (fun a z hWord => hNot [] word words rfl a z hWord),
      ih (past ++ (word ++ [' ']))]
    · rw [List.append_assoc, List.append_assoc]
      rfl
    · intro front next back hWords a z hNext
      have hLater := hNot (word :: front) next back
        (congrArg (word :: ·) hWords) a z hNext
      rw [spaced, List.flatMap_cons] at hLater
      rwa [List.append_assoc past,
        ← List.append_assoc _ _ a]

theorem code_of_isVisible
    {c : Char}
    (hVisible : isVisible c = true) :
    c.toNat < 128 ∧ isAsciiWhitespace c = false := by
  unfold isVisible at hVisible
  simpa using hVisible

/- It is passed over in a word unless it is the word. -/
theorem not_taken_in_word
    {front w back : List Char}
    {o : Occurrence}
    (hQuery : query = front ++ (w ++ back))
    (hFront : ∀ c ∈ front, c.toNat < 128)
    (hVisible : ∀ c ∈ w, isVisible c = true)
    (hOther : w.map Char.toLower ≠ o.keyword.toList)
    (a z : List Char)
    (hWord : w.map Char.toLower =
      a ++ (o.keyword.toList ++ z))
    (hPast : o.past = front.map Char.toLower ++ a)
    (hAfter : o.after = z ++ ' ' :: rest) :
    o.taken u query = false := by
  rcases List.map_eq_append_iff.mp hWord with
    ⟨b, y, hW, hB, hY⟩
  rcases List.map_eq_append_iff.mp hY with
    ⟨_, x, hKey, _, hX⟩
  have hCode := fun c hC =>
    code_of_isVisible (hVisible c hC)
  unfold Occurrence.taken
  rw [Bool.and_eq_false_iff]
  left
  by_contra hPasses
  rw [Bool.not_eq_false] at hPasses
  unfold Occurrence.passes at hPasses
  simp only [Bool.and_eq_true] at hPasses
  rcases hPasses with ⟨⟨hBefore, hBehind⟩, _⟩
  -- The character behind is the one behind the word.
  have hZ : z = [] := by
    cases x with
    | nil => exact hX.symm
    | cons d x =>
      have hMem : d ∈ w := by rw [hW, hKey]; simp
      rw [hAfter, ← hX, List.map_cons, List.cons_append,
        List.head?_cons, Option.any_some,
        (ascii_facts d (hCode d hMem).1).2.2,
        (hCode d hMem).2] at hBehind
      exact (Bool.false_ne_true hBehind).elim
  -- The character before is not one of the word.
  have hA : a = [] := by
    rcases b.eq_nil_or_concat' with hNil | ⟨b, d, hB'⟩
    · rw [← hB, hNil]; rfl
    · have hMem : d ∈ w := by rw [hW, hB']; simp
      have hCodes :
          ∀ c ∈ front ++ (b ++ [d]), c.toNat < 128 := by
        intro c hC
        rcases List.mem_append.mp hC with hC | hC
        · exact hFront c hC
        · refine (hCode c ?_).1
          rw [hW, hB']
          exact List.mem_append_left _ hC
      have hBytes :
          bytes o.past = (front ++ b).length + 1 := by
        rw [hPast, ← hB, hB', ← List.map_append,
          bytes_toLower hCodes, ← List.append_assoc]
        exact List.length_append
      have hText :
          query = (front ++ b) ++ d :: (y ++ back) := by
        rw [hQuery, hW, hB']
        simp only [List.append_assoc, List.cons_append,
          List.nil_append]
      rw [hBytes, hText, Nat.add_sub_cancel, spaceAt_length,
        (hCode d hMem).2, Bool.or_false] at hBefore
      · exact absurd (of_decide_eq_true hBefore)
          (Nat.succ_ne_zero _)
      · intro c hC
        exact hCodes c (by
          rw [← List.append_assoc]
          exact List.mem_append_left _ hC)
  rw [hA, hZ, List.nil_append, List.append_nil] at hWord
  exact hOther hWord

--------
-- The Word Behind
--------

variable {name tail : List Char}

/- White space is only taken away behind the word. -/
theorem rdropWhile_word
    (hName : name ≠ [])
    (hSolid : ∀ c ∈ name, Text.isWhitespace c = false)
    (tail : List Char) :
    ∃ back, back <+: tail ∧
      (name ++ tail).rdropWhile Text.isWhitespace =
        name ++ back := by
  induction tail using List.reverseRecOn with
  | nil =>
    refine ⟨[], List.nil_prefix, ?_⟩
    rw [List.append_nil, List.rdropWhile_eq_self_iff]
    intro _
    rw [hSolid _ (List.getLast_mem hName)]
    exact Bool.false_ne_true
  | append_singleton tail c ih =>
    rw [← List.append_assoc, List.rdropWhile_concat]
    split_ifs with hWhite
    · rcases ih with ⟨back, hBack, hSame⟩
      exact ⟨back, hBack.trans (List.prefix_append _ _),
        hSame⟩
    · exact ⟨tail ++ [c], List.prefix_rfl,
        List.append_assoc _ _ _⟩

theorem trim_takeWhile
    {p : Char → Bool}
    (hName : name ≠ [])
    (hSolid : ∀ c ∈ name, Text.isWhitespace c = false)
    (hKeep : ∀ c ∈ name, p c = true)
    (hTail : ∀ c ∈ tail.head?, p c = false) :
    (Text.trim (String.ofList
      (' ' :: (name ++ tail)))).toList.takeWhile p =
        name := by
  have hStart :
      (' ' :: (name ++ tail)).dropWhile Text.isWhitespace =
        name ++ tail := by
    cases name with
    | nil => exact (hName rfl).elim
    | cons c name =>
      rw [List.dropWhile_cons_of_pos (by decide),
        List.cons_append, List.dropWhile_cons_of_neg]
      rw [hSolid c List.mem_cons_self]
      exact Bool.false_ne_true
  rcases rdropWhile_word hName hSolid tail with
    ⟨back, hBack, hEnd⟩
  unfold Text.trim
  rw [String.toList_ofList, String.toList_ofList, hStart]
  change (List.rdropWhile _ _).takeWhile p = name
  rw [hEnd, List.takeWhile_append_of_pos hKeep]
  cases back with
  | nil => exact List.append_nil name
  | cons d back =>
    rcases hBack with ⟨t, rfl⟩
    rw [List.takeWhile_cons_of_neg, List.append_nil]
    rw [hTail d rfl]
    exact Bool.false_ne_true

/- A character of a name. -/
def isNameChar (c : Char) : Bool :=
  c.isAlphanum || c == '_'

theorem name_facts
    {c : Char}
    (hName : isNameChar c = true) :
    isVisible c = true ∧ isSeparator c = false := by
  have hCode : c.toNat < 128 := by
    rcases (Bool.or_eq_true _ _).mp hName with hAlnum | hLine
    · rcases Text.isAlpha_or_isDigit hAlnum with hA | hD
      · have := Text.code_of_isAlpha hA
        omega
      · have := Text.code_of_isDigit hD
        omega
    · rw [eq_of_beq hLine]
      decide
  have hAll :
      ∀ n < 128, isNameChar (Char.ofNat n) = true →
        isVisible (Char.ofNat n) = true ∧
          isSeparator (Char.ofNat n) = false := by
    decide
  have hC := hAll c.toNat hCode
  rw [Char.ofNat_toNat] at hC
  exact hC hName

theorem spaced_append (as bs : List (List Char)) :
    spaced (as ++ bs) = spaced as ++ spaced bs :=
  List.flatMap_append

theorem map_spaced (words : List (List Char)) :
    (spaced words).map Char.toLower =
      spaced (words.map (List.map Char.toLower)) := by
  induction words with
  | nil => rfl
  | cons word words ih =>
    rw [spaced_cons, List.map_append, List.map_cons, ih,
      List.map_cons, spaced_cons]
    rfl

theorem ascii_spaced
    {words : List (List Char)}
    (hWords :
      ∀ w ∈ words, ∀ c ∈ w, isVisible c = true) :
    ∀ c ∈ spaced words, c.toNat < 128 := by
  intro c hC
  rcases List.mem_flatMap.mp hC with ⟨w, hW, hMem⟩
  rcases List.mem_append.mp hMem with hMem | hMem
  · exact (code_of_isVisible (hWords w hW c hMem)).1
  · rw [List.mem_singleton.mp hMem]
    decide

/- A word that is not the keyword. -/
def Plain (w : List Char) : Prop :=
  (∀ c ∈ w, isVisible c = true) ∧
    w.map Char.toLower ≠ "from".toList

/- A text that begins with words, `from` and a name. -/
structure Selects
    (query name : List Char) where
  words : List (List Char)
  mark : List Char
  tail : List Char
  query_eq : query =
    spaced words ++ (mark ++ ' ' :: (name ++ tail))
  words_plain : ∀ w ∈ words, Plain w
  mark_visible : ∀ c ∈ mark, isVisible c = true
  mark_from : mark.map Char.toLower = "from".toList
  name_some : name ≠ []
  name_chars : ∀ c ∈ name, isNameChar c = true
  tail_apart : ∀ c ∈ tail.head?, isSeparator c = true

namespace Selects

/- The occurrence of `from`. -/
def own (s : Selects query name) (back : List Char) :
    Occurrence :=
  ⟨"from", true, (spaced s.words).map Char.toLower,
    ' ' :: back⟩

variable (s : Selects query name)

theorem ascii_words :
    ∀ c ∈ spaced s.words, c.toNat < 128 :=
  ascii_spaced (fun w hW => (s.words_plain w hW).1)

theorem length_mark : s.mark.length = 4 := by
  rw [← List.length_map Char.toLower, s.mark_from]
  rfl

theorem bytes_own (back : List Char) :
    bytes (s.own back).past = (spaced s.words).length :=
  bytes_toLower s.ascii_words

/- The word behind it is the name. -/
theorem word_own (back : List Char) :
    (s.own back).word query = some name := by
  have hCode :
      ∀ c ∈ spaced s.words ++ s.mark, c.toNat < 128 := by
    intro c hC
    rcases List.mem_append.mp hC with hC | hC
    · exact s.ascii_words c hC
    · exact (code_of_isVisible (s.mark_visible c hC)).1
  have hHere := fromByte_length
    (' ' :: (name ++ s.tail)) hCode
  rw [List.append_assoc, ← s.query_eq, List.length_append,
    s.length_mark] at hHere
  have hSolid : ∀ c ∈ name, isSeparator c = false :=
    fun c hC => (name_facts (s.name_chars c hC)).2
  have hKey : bytes (s.own back).keyword.toList = 4 := by
    change bytes "from".toList = 4
    decide
  unfold Occurrence.word
  rw [s.bytes_own, hKey, hHere, Option.map_some,
    trim_takeWhile s.name_some]
  · intro c hC
    have hNot := hSolid c hC
    unfold isSeparator at hNot
    rw [Bool.or_eq_false_iff, Bool.or_eq_false_iff] at hNot
    exact hNot.1.1
  · intro c hC
    rw [hSolid c hC]
    rfl
  · intro c hC
    rw [s.tail_apart c hC]
    rfl

theorem passes_own (back : List Char) :
    (s.own back).passes query = true := by
  have hBefore :
      (decide (bytes (s.own back).past = 0) ||
        spaceAt query (bytes (s.own back).past - 1)) =
          true := by
    rw [s.bytes_own]
    rcases s.words.eq_nil_or_concat' with
      hNil | ⟨words, word, hWords⟩
    · rw [hNil]
      rfl
    · have hText :
          spaced s.words = spaced words ++ word ++ [' '] := by
        rw [hWords, spaced_append, List.append_assoc]
        exact congrArg _ (List.append_nil _)
      have hCode := s.ascii_words
      have hQuery := s.query_eq
      rw [hText] at hCode
      rw [hText, List.append_assoc] at hQuery
      rw [hText, List.length_append, hQuery]
      change (_ || spaceAt _ (_ + 1 - 1)) = true
      rw [Nat.add_sub_cancel, List.cons_append,
        spaceAt_length]
      · exact Bool.or_true _
      · exact fun c hC => hCode c (List.mem_append_left _ hC)
  unfold Occurrence.passes
  dsimp only
  rw [hBefore]
  rfl

theorem taken_own (back : List Char) :
    (s.own back).taken u query = true := by
  unfold Occurrence.taken
  rw [s.passes_own, s.word_own, Bool.true_and,
    Option.all_some, Bool.and_eq_true, Bool.not_eq_true',
    List.isEmpty_eq_false_iff]
  refine ⟨s.name_some, ?_⟩
  rw [List.all_eq_true]
  intro c hC
  have hName := s.name_chars c hC
  rw [u.alphanumeric_ascii]
  · exact hName
  · exact (code_of_isVisible (name_facts hName).1).1

theorem lowercase_eq (u : Unicode) :
    ∃ back, u.toLowercase query =
      spaced (s.words.map (List.map Char.toLower)) ++
        ("from".toList ++ ' ' :: back) := by
  have hCode :
      ∀ c ∈ spaced s.words ++ (s.mark ++ [' ']),
        c.toNat < 128 := by
    intro c hC
    rcases List.mem_append.mp hC with hC | hC
    · exact s.ascii_words c hC
    · rcases List.mem_append.mp hC with hC | hC
      · exact (code_of_isVisible (s.mark_visible c hC)).1
      · rw [List.mem_singleton.mp hC]
        decide
  rcases u.lowercase_ascii _ (name ++ s.tail) hCode with
    ⟨back, hLower⟩
  have hQuery := congrArg u.toLowercase s.query_eq
  rw [List.append_cons, ← List.append_assoc, hLower,
    List.map_append, map_spaced, List.map_append,
    s.mark_from, List.append_assoc, List.append_assoc]
    at hQuery
  exact ⟨back, hQuery⟩

/- The search for `from` ends at it. -/
theorem firstTaken_from
    (s : Selects query name)
    (u : Unicode) :
    ∃ o, firstTaken u [("from", true)] query = some o ∧
      o.word query = some name := by
  rcases s.lowercase_eq u with ⟨back, hLower⟩
  refine ⟨s.own back, ?_, s.word_own back⟩
  unfold firstTaken occurrences
  rw [hLower, List.flatMap_cons, List.flatMap_nil,
    List.append_nil, find?_words (by decide) (by decide),
    List.nil_append, ← map_spaced]
  · change (s.own back :: _).find? _ = _
    rw [List.find?_cons, s.taken_own]
  · intro front word rest hWords a z hWord
    rcases List.map_eq_append_iff.mp hWords with
      ⟨before, words, hS, hFront, hRest⟩
    rcases List.map_eq_cons_iff.mp hRest with
      ⟨w, after, hNext, hW, _⟩
    rw [hNext] at hS
    have hMem : w ∈ s.words := by
      rw [hS]
      exact List.mem_append_right _ List.mem_cons_self
    have hQuery := s.query_eq
    rw [hS, spaced_append, List.append_assoc, spaced,
      spaced, List.flatMap_cons, List.append_assoc,
      List.append_assoc] at hQuery
    rw [← hW] at hWord
    refine not_taken_in_word hQuery ?_
      (s.words_plain w hMem).1 (s.words_plain w hMem).2 a z
      hWord ?_ rfl
    · intro c hC
      refine s.ascii_words c ?_
      rw [hS, spaced_append]
      exact List.mem_append_left _ hC
    · rw [← hFront, ← map_spaced]
      rfl

end Selects

--------
-- Statements Built
--------

/- The last column asked for is read as the keyword. -/
def shadowed (fields : Option (List String)) : Bool :=
  (QueryTranslator.selectFields fields).isSome &&
    (fields.getD []).getLast?.any (fun field =>
      field.toList.map Char.toLower == "from".toList)

theorem visible_of_name
    {field : String}
    (hField : field.toList.all (fun c =>
      c.isAlphanum || c = '_') = true) :
    ∀ c ∈ field.toList, isVisible c = true := by
  intro c hC
  exact (name_facts (List.all_eq_true.mp hField c hC)).1

/- Columns are words with a comma, and a last one. -/
theorem join_words
    (names : List String)
    (hSome : names ≠ [])
    (hNames :
      ∀ n ∈ names, ∀ c ∈ n.toList, isVisible c = true) :
    ∃ words last, names.getLast? = some last ∧
      (Text.join ", " names).toList =
        spaced words ++ last.toList ∧
      ∀ w ∈ words, Plain w := by
  induction names with
  | nil => exact (hSome rfl).elim
  | cons name names ih =>
    rw [List.forall_mem_cons] at hNames
    cases names with
    | nil =>
      exact ⟨[], name, rfl, rfl, List.forall_mem_nil _⟩
    | cons next names =>
      rcases ih (List.cons_ne_nil _ _) hNames.2 with
        ⟨words, last, hLast, hText, hWords⟩
      refine ⟨(name.toList ++ [',']) :: words, last, ?_, ?_,
        ?_⟩
      · rw [List.getLast?_cons_cons, hLast]
      · rw [Text.join, String.toList_append,
          String.toList_append, hText, spaced_cons,
          List.append_assoc]
        simp
      · rw [List.forall_mem_cons]
        refine ⟨⟨?_, ?_⟩, hWords⟩
        · intro c hC
          rcases List.mem_append.mp hC with hC | hC
          · exact hNames.1 c hC
          · rw [List.mem_singleton.mp hC]
            decide
        · intro hFrom
          have hEnd := congrArg List.getLast? hFrom
          rw [List.map_append, List.map_singleton,
            List.getLast?_concat] at hEnd
          revert hEnd
          decide

theorem columns_words
    {fields : Option (List String)}
    {columns : String}
    (hColumns :
      QueryTranslator.selectFields fields = some columns) :
    ∃ words last,
      columns.toList = spaced words ++ last ∧
      (∀ w ∈ words, Plain w) ∧
      (∀ c ∈ last, isVisible c = true) ∧
      (last.map Char.toLower = "from".toList ↔
        shadowed fields = true) := by
  have hStar : ∃ words last,
      "*".toList = spaced words ++ last ∧
      (∀ w ∈ words, Plain w) ∧
      (∀ c ∈ last, isVisible c = true) ∧
      (last.map Char.toLower = "from".toList ↔
        false = true) :=
    ⟨[], ['*'], rfl, List.forall_mem_nil _,
      List.all_eq_true.mp rfl, by decide⟩
  cases fields with
  | none =>
    rw [← Option.some.inj hColumns]
    exact hStar
  | some names =>
    cases names with
    | nil =>
      rw [← Option.some.inj hColumns]
      exact hStar
    | cons name names =>
      have hIs := congrArg Option.isSome hColumns
      unfold QueryTranslator.selectFields at hColumns
      dsimp only at hColumns
      split_ifs at hColumns with hAll hId
      all_goals
        have hNames := fun n hN =>
          visible_of_name (List.all_eq_true.mp hAll n hN)
        rcases join_words (name :: names)
          (List.cons_ne_nil _ _) hNames with
          ⟨words, last, hLast, hText, hWords⟩
        have hVisible := hNames last
          (List.mem_of_getLast? hLast)
        have hShadow :
            last.toList.map Char.toLower = "from".toList ↔
              shadowed (some (name :: names)) = true := by
          unfold shadowed
          rw [hIs, Option.getD_some, hLast]
          exact beq_iff_eq.symm
        rw [← Option.some.inj hColumns]
      · exact ⟨words, last.toList, hText, hWords, hVisible,
          hShadow⟩
      · refine ⟨"id,".toList :: words, last.toList, ?_, ?_,
          hVisible, hShadow⟩
        · rw [String.toList_append, hText, spaced_cons]
          rfl
        · rw [List.forall_mem_cons]
          exact ⟨⟨List.all_eq_true.mp rfl, by decide⟩, hWords⟩

/- A clause is empty or stands apart. -/
def Apart (s : String) : Prop :=
  ∀ c ∈ s.toList.head?, c = ' '

theorem Apart.append {s t : String}
    (hS : Apart s) (hT : Apart t) : Apart (s ++ t) := by
  unfold Apart at *
  rw [String.toList_append]
  cases hChars : s.toList with
  | nil => exact hT
  | cons c cs =>
    rw [hChars] at hS
    exact hS

section

open QueryTranslator

variable {collection : String} (filters : Option Value)
  (orderBy : Option String) (descending : Bool)
  (limit offset : Option ℕ)
  (fields : Option (List String))
  (startAfter : Option String)

theorem apart_orderClause :
    Apart (orderClause orderBy descending) := by
  unfold orderClause Apart
  cases orderBy with
  | none => simp
  | some field =>
    dsimp only
    cases sqlFieldExpr field <;> simp

theorem apart_countClause
    (keyword : String)
    (hKeyword : keyword.toList.head? = some ' ')
    (n : Option ℕ) : Apart (countClause keyword n) := by
  unfold countClause Apart
  cases n <;> simp [List.head?_append, hKeyword]

theorem select_text (hC : isIdentifier collection = true) :
    ∃ words last tail,
      (buildSelectExt collection filters orderBy descending
        limit offset fields startAfter).toList =
          spaced words ++ (last ++ ' ' ::
            ("FROM".toList ++ ' ' ::
              (collection.toList ++ tail))) ∧
      (∀ w ∈ words, Plain w) ∧
      (∀ c ∈ last, isVisible c = true) ∧
      (last.map Char.toLower = "from".toList ↔
        shadowed fields = true) ∧
      ∀ c ∈ tail.head?, c = ' ' := by
  have hSelect : Plain "SELECT".toList :=
    ⟨List.all_eq_true.mp rfl, by decide⟩
  unfold buildSelectExt
  rw [hC, Bool.not_true, if_neg Bool.false_ne_true]
  cases hColumns : selectFields fields with
  | none =>
    refine ⟨["SELECT".toList], ['*'], [], ?_, ?_,
      List.all_eq_true.mp rfl, ?_, by simp⟩
    · simp [spaced]
    · exact List.forall_mem_singleton.mpr hSelect
    · unfold shadowed
      rw [hColumns]
      exact iff_of_false (by decide) Bool.false_ne_true
  | some columns =>
    rcases columns_words hColumns with
      ⟨words, last, hText, hWords, hVisible, hShadow⟩
    dsimp only
    have hWhere : ∀ parts : List String,
        Apart (if parts.isEmpty then ""
          else " WHERE " ++ Text.join " AND " parts) := by
      intro parts
      unfold Apart
      split_ifs <;> simp
    have hTail :=
      (((hWhere (filterParts filters ++
        cursorParts collection orderBy descending
          startAfter)).append
        (apart_orderClause orderBy descending)).append
        (apart_countClause " LIMIT " rfl
          limit)).append
        (apart_countClause " OFFSET " rfl
          offset)
    refine ⟨"SELECT".toList :: words, last, _, ?_,
      List.forall_mem_cons.mpr ⟨hSelect, hWords⟩, hVisible,
      hShadow, hTail⟩
    rw [spaced_cons]
    simp [hText]

/- The first `from` that counts stands before this name. -/
theorem word_select
    (u : Unicode)
    (hC : isIdentifier collection = true) :
    ∃ o, firstTaken u [("from", true)]
        (buildSelectExt collection filters orderBy
          descending limit offset fields
          startAfter).toList = some o ∧
      o.word (buildSelectExt collection filters orderBy
          descending limit offset fields
          startAfter).toList =
        some (if shadowed fields then "FROM".toList
          else collection.toList) := by
  rcases select_text filters orderBy descending limit offset
      fields startAfter hC with
    ⟨words, last, tail, hText, hWords, hVisible, hShadow,
      hTail⟩
  rw [hText]
  split_ifs with hShadowed
  · exact Selects.firstTaken_from
      ⟨words, last, ' ' :: (collection.toList ++ tail), rfl,
        hWords, hVisible, hShadow.mpr hShadowed, by decide,
        List.all_eq_true.mp rfl, fun _ hMem =>
          Option.some.inj hMem ▸ by decide⟩ u
  · rcases chars_of_isIdentifier hC with
      ⟨first, rest, hChars, _, hAll⟩
    refine Selects.firstTaken_from
      ⟨words ++ [last], "FROM".toList, tail, ?_, ?_,
        List.all_eq_true.mp rfl, by decide, ?_, ?_, ?_⟩ u
    · rw [spaced_append, spaced_cons]
      simp [spaced]
    · intro w hW
      rcases List.mem_append.mp hW with hW | hW
      · exact hWords w hW
      · rw [List.mem_singleton.mp hW]
        exact ⟨hVisible, fun h => hShadowed (hShadow.mp h)⟩
    · rw [hChars]
      exact List.cons_ne_nil _ _
    · intro c hMem
      unfold isNameChar
      rw [Bool.or_eq_true, beq_iff_eq]
      exact hAll c hMem
    · intro c hMem
      rw [hTail c hMem]
      decide

end

/- The keywords are tried in turn. -/
theorem firstTaken_patterns
    (u : Unicode)
    (query : List Char) :
    firstTaken u patterns query =
      (firstTaken u (patterns.take 3) query).or
        (firstTaken u [("from", true)] query) := by
  unfold firstTaken occurrences
  rw [← List.find?_append, ← List.flatMap_append]
  rfl

theorem map_ofList_iff
    {word : Option (List Char)}
    {name : String} :
    word.map (fun w => some (String.ofList w)) =
        some (some name) ↔
      word = some name.toList := by
  cases word with
  | none => simp
  | some w =>
    rw [Option.map_some, Option.some.injEq,
      Option.some.injEq, Option.some.injEq,
      ← String.toList_inj, String.toList_ofList]

/-
  A statement that is built is taken to be about its
  collection exactly when no other keyword counts before, but
  for one followed by the same word, and its last column is
  not the keyword.  A query is searched without a panic
  exactly when the keyword that counts ends where a character
  of the query starts.
-/
theorem table_names_iff (u : Unicode) :
    (∀ (collection : String) (filters : Option Value)
      (orderBy : Option String) (descending : Bool)
      (limit offset : Option ℕ)
      (fields : Option (List String))
      (startAfter : Option String) (query : String),
      isIdentifier collection = true →
      query = QueryTranslator.buildSelectExt collection
        filters orderBy descending limit offset fields
        startAfter →
      (extractTableName u query = some (some collection) ↔
        (∀ o, firstTaken u (patterns.take 3)
            query.toList = some o →
          o.word query.toList = some collection.toList) ∧
        (firstTaken u (patterns.take 3)
            query.toList = none →
          shadowed fields = true → collection = "FROM"))) ∧
    ∀ query : String, extractTableName u query ≠ none ↔
      ∀ o, firstTaken u patterns query.toList = some o →
        (o.word query.toList).isSome = true := by
  constructor
  · intro collection filters orderBy descending limit offset
      fields startAfter query hC hQuery
    rcases word_select filters orderBy descending limit
      offset fields startAfter u hC with ⟨own, hOwn, hWord⟩
    rw [← hQuery] at hOwn hWord
    rw [extractTableName_eq, firstTaken_patterns, hOwn]
    cases firstTaken u (patterns.take 3) query.toList with
    | none =>
      rw [Option.none_or, Option.elim_some, map_ofList_iff,
        hWord, Option.some.injEq]
      cases shadowed fields with
      | false => simp
      | true => simp [← String.toList_inj, eq_comm]
    | some o =>
      rw [Option.some_or, Option.elim_some, map_ofList_iff]
      simp
  · intro query
    rw [extractTableName_eq]
    cases firstTaken u patterns query.toList with
    | none => simp
    | some o => simp [← Option.isSome_iff_ne_none]

--------
-- What Goes Wrong
--------

/- Small letters, with one letter that becomes longer. -/
def small (c : Char) : List Char :=
  if c = Char.ofNat 0x130 then ['i', Char.ofNat 0x307]
  else [c.toLower]

def smallLetters : Unicode where
  toLowercase := List.flatMap small
  isAlphanumeric := Char.isAlphanum
  lowercase_ascii := by
    intro front rest hFront
    refine ⟨rest.flatMap small, ?_⟩
    rw [List.flatMap_append, List.map_eq_flatMap]
    congr 1
    refine List.flatMap_congr (fun c hC => ?_)
    unfold small
    rw [if_neg]
    intro hSame
    have hCode := hFront c hC
    rw [hSame] at hCode
    revert hCode
    decide
  alphanumeric_ascii := fun _ _ => rfl

/- A filter names the table, and a search panics. -/
theorem table_name_misled :
    isIdentifier "users" = true ∧
    extractTableName smallLetters
      (QueryTranslator.buildSelectExt "users"
        (some (.object [("name", .object
          [("_eq", .string "x delete from y z")])]))
        none false none none none none) =
      some (some "y") ∧
    extractTableName smallLetters (String.ofList
      (List.replicate 7 (Char.ofNat 0x130) ++
        " from x".toList)) = none := by
  decide +kernel

end Orignabase.Database
