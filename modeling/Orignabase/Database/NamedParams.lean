import Orignabase.Core.Json
import Orignabase.Core.Validate
import Orignabase.Lib.Replace

/-
  Named parameters of a query and the placeholders they are
  turned into (`ob-database/src/pg_store.rs`).

  Key definitions include:
    * `namedToPositional`
    * `token`, `positional`
    * `Clean`
    * `Spelled`

  Main results:
    * `bindNames_of_clean`
    * `named_parameters`
-/

--------
-- Translation
--------

namespace Orignabase.Database

/- `str::replace` of a text that is not empty. -/
def replaceText (s pat by_ : String) : String :=
  String.ofList (Replace.all pat.toList by_.toList s.toList)

/- The loop over the binds, with the index of the next. -/
def bindNames :
    Nat → List (String × Value) → String × List Value →
      String × List Value
  | _, [], result => result
  | i, (name, val) :: rest, (query, values) =>
    let named := "$" ++ name
    let positional := "$" ++ toString (i + 1)
    bindNames (i + 1) rest
      (replaceText query named positional, values ++ [val])

/-
  The text with `$1`, `$2` and so on for the names, and the
  values in this order.
-/
def namedToPositional
    (query : String)
    (binds : Value) : Except Error (String × List Value) :=
  match binds.asObject with
  | none => .error (.database "Binds must be a JSON object")
  | some obj => .ok (bindNames 0 obj (query, []))

--------
-- Tokens
--------

def isIdentChar (c : Char) : Bool :=
  c.isAlphanum || c = '_'

/- What follows the marks of a text, each up to the next. -/
def pieces (text : List Char) : List (List Char) :=
  Replace.pieces '$' text

/- The name at the start of what follows a mark. -/
def token (piece : List Char) : List Char :=
  piece.takeWhile isIdentChar

def number (n : Nat) : List Char :=
  (toString n).toList

/- The number of the name, in the place of the name. -/
def place
    (names : List (List Char))
    (piece : List Char) : List Char :=
  if token piece ≠ [] ∧ token piece ∈ names then
    number (names.idxOf (token piece) + 1) ++
      piece.drop (token piece).length
  else piece

/- The text with the number of every name in its place. -/
def positional
    (names : List (List Char))
    (text : List Char) : List Char :=
  Replace.join '$' (Replace.lead '$' text)
    ((pieces text).map (place names))

/- The names of the binds, in the order of iteration. -/
def namesOf (fields : List (String × Value)) :
    List (List Char) :=
  fields.map (fun field => field.1.toList)

/- Every name of the text is bound. -/
def TokensBound
    (names : List (List Char))
    (text : List Char) : Prop :=
  ∀ piece ∈ pieces text,
    token piece ≠ [] → token piece ∈ names

/-
  Every token of the text is turned into the number under
  which its value is found, and nothing else is changed.
-/
structure Right
    (query : String)
    (fields : List (String × Value)) : Prop where
  result :
    namedToPositional query (.object fields) =
      .ok (String.ofList
          (positional (namesOf fields) query.toList),
        fields.map (·.2))
  bound :
    ∀ piece ∈ pieces query.toList, token piece ≠ [] →
      (fields.map (·.2))[(namesOf fields).idxOf
          (token piece)]? =
        (Value.object fields).get
          (String.ofList (token piece))

/- The text is translated right if its names are bound. -/
def Correct
    (query : String)
    (fields : List (String × Value)) : Prop :=
  TokensBound (namesOf fields) query.toList →
    Right query fields

/-
  The pass of a name meets the name only where it is a whole
  token, which no earlier pass has replaced.
-/
def Spares
    (earlier : List (List Char))
    (name text : List Char) : Prop :=
  (∀ piece ∈ pieces text, name <+: place earlier piece →
    name ≠ [] ∧ token piece = name ∧ name ∉ earlier) ∧
    ('$' ∈ name → ¬ '$' :: name <:+: positional earlier text)

/- No pass meets anything but its own tokens. -/
def Clean
    (names : List (List Char))
    (text : List Char) : Prop :=
  ∀ earlier name later, names = earlier ++ name :: later →
      Spares earlier name text

/- A name like those of variables. -/
def Ordinary (name : List Char) : Prop :=
  ∃ c rest, name = c :: rest ∧ c.isDigit = false ∧
    ∀ d ∈ name, isIdentChar d = true

/-
  The first name that a token begins with is the token, or
  its number and the rest of the token spell the number of
  the token.
-/
def Spelled
    (names : List (List Char))
    (text : List Char) : Prop :=
  ∀ piece ∈ pieces text, token piece ≠ [] → ∀ name,
      names.find? (· <+: token piece) = some name →
        number (names.idxOf name + 1) ++
            (token piece).drop name.length =
          number (names.idxOf (token piece) + 1)

--------
-- Tokens and Numbers
--------

theorem isDigit_of_mem_number
    {n : Nat}
    {c : Char}
    (hMem : c ∈ number n) :
    c.isDigit = true := by
  unfold number at hMem
  rw [Nat.toString_eq_repr, Nat.toList_repr] at hMem
  exact Nat.isDigit_of_mem_toDigits (by decide) (by decide)
    hMem

theorem number_ne_nil (n : Nat) : number n ≠ [] := by
  unfold number
  rw [Nat.toString_eq_repr, Nat.toList_repr]
  exact Nat.toDigits_ne_nil

theorem mark_not_mem_number (n : Nat) : '$' ∉ number n := by
  intro hMem
  have hDigit := isDigit_of_mem_number hMem
  exact absurd hDigit (by decide)

theorem token_front (piece : List Char) :
    token piece <+: piece :=
  List.takeWhile_prefix _

theorem token_append_drop (piece : List Char) :
    token piece ++ piece.drop (token piece).length =
      piece := by
  rw [← List.prefix_iff_eq_append]
  exact token_front piece

variable {piece : List Char}

theorem isIdentChar_of_mem_token
    {c : Char}
    (hMem : c ∈ token piece) :
    isIdentChar c = true :=
  List.mem_takeWhile_imp hMem

/- A token is as long as it can be. -/
theorem prefix_token
    {name : List Char}
    (hIdent : ∀ c ∈ name, isIdentChar c = true)
    (hPrefix : name <+: piece) :
    name <+: token piece := by
  rcases hPrefix with ⟨rest, rfl⟩
  unfold token
  rw [List.takeWhile_append_of_pos hIdent]
  exact List.prefix_append _ _

theorem Ordinary.ident
    {name : List Char}
    (hOrdinary : Ordinary name) :
    ∀ c ∈ name, isIdentChar c = true := by
  rcases hOrdinary with ⟨c, rest, rfl, _, hIdent⟩
  exact hIdent

theorem Ordinary.ne_nil
    {name : List Char}
    (hOrdinary : Ordinary name) :
    name ≠ [] := by
  rcases hOrdinary with ⟨c, rest, rfl, _⟩
  exact List.cons_ne_nil _ _

theorem Ordinary.mark_not_mem
    {name : List Char}
    (hOrdinary : Ordinary name) :
    '$' ∉ name := by
  intro hMem
  exact absurd (hOrdinary.ident _ hMem) (by decide)

/- No ordinary name begins a number. -/
theorem Ordinary.not_prefix_number
    {name : List Char}
    (hOrdinary : Ordinary name)
    (n : Nat)
    (rest : List Char) :
    ¬ name <+: number n ++ rest := by
  rcases hOrdinary with ⟨c, more, rfl, hLetter, _⟩
  cases hNumber : number n with
  | nil => exact absurd hNumber (number_ne_nil n)
  | cons d digits =>
    rw [List.cons_append, List.cons_prefix_cons]
    rintro ⟨rfl, _⟩
    have hMem : c ∈ number n := by
      rw [hNumber]
      exact List.mem_cons_self
    rw [isDigit_of_mem_number hMem] at hLetter
    cases hLetter

/- No part of a text has a mark after the numbers are put. -/
theorem mark_not_mem_place
    (names : List (List Char))
    (hPiece : '$' ∉ piece) :
    '$' ∉ place names piece := by
  unfold place
  split_ifs with hBound
  · rw [List.mem_append, not_or]
    exact ⟨mark_not_mem_number _, fun hMem =>
      hPiece (List.mem_of_mem_drop hMem)⟩
  · exact hPiece

theorem mark_not_mem_map_place
    (names : List (List Char))
    (text : List Char) :
    ∀ piece ∈ (pieces text).map (place names),
      '$' ∉ piece := by
  intro placed hMem
  rcases List.mem_map.mp hMem with ⟨piece, hPiece, rfl⟩
  exact mark_not_mem_place names
    (Replace.not_mem_pieces '$' text piece hPiece)

theorem place_of_not_mem
    {names : List (List Char)}
    (hNot : token piece ∉ names) :
    place names piece = piece :=
  if_neg fun hBound => hNot hBound.2

--------
-- One Pass
--------

variable {earlier : List (List Char)}
variable {name text : List Char}

/- A pass puts the number of its name after some marks. -/
theorem replaceText_dollar
    (query name : String)
    (n : Nat) :
    replaceText query ("$" ++ name) ("$" ++ toString n) =
      String.ofList
        (Replace.all ('$' :: name.toList) ('$' :: number n)
          query.toList) := by
  unfold replaceText number
  rw [String.toList_append, String.toList_append]
  rfl

/- The last name matters to its own tokens only. -/
theorem place_append_of_ne
    (hNe : token piece ≠ name) :
    place (earlier ++ [name]) piece = place earlier piece := by
  by_cases hMem : token piece ∈ earlier
  · unfold place
    rw [List.idxOf_append, if_pos hMem]
    simp [hMem]
  · rw [place_of_not_mem hMem, place_of_not_mem]
    rw [List.mem_append, List.mem_singleton]
    exact not_or.mpr ⟨hMem, hNe⟩

theorem place_append_self
    (hNonempty : name ≠ [])
    (hToken : token piece = name)
    (hNew : name ∉ earlier) :
    place (earlier ++ [name]) piece =
      number (earlier.length + 1) ++
        piece.drop name.length := by
  subst hToken
  unfold place
  rw [if_pos ⟨hNonempty, by simp⟩, List.idxOf_append,
    if_neg hNew, List.idxOf_cons_self, Nat.zero_add]

/- A piece is captured where its token is the name. -/
theorem capture_place
    (hSpares : Spares earlier name text)
    (hPiece : piece ∈ pieces text) :
    Replace.capture name (number (earlier.length + 1))
        (place earlier piece) =
      place (earlier ++ [name]) piece := by
  unfold Replace.capture
  split_ifs with hPrefix
  · rcases hSpares.1 piece hPiece hPrefix with
      ⟨hNonempty, hToken, hNew⟩
    rw [place_append_self hNonempty hToken hNew,
      place_of_not_mem]
    rw [hToken]
    exact hNew
  · by_cases hToken : token piece = name
    · by_cases hOld : name ∈ earlier
      · unfold place
        rw [List.idxOf_append, hToken, if_pos hOld]
        simp [hOld]
      · -- An unreplaced token starts its piece.
        rw [place_of_not_mem (by rw [hToken]; exact hOld)]
          at hPrefix
        rw [← hToken] at hPrefix
        exact absurd (token_front piece) hPrefix
    · exact (place_append_of_ne hToken).symm

theorem pass_of_spares (hSpares : Spares earlier name text) :
    Replace.all ('$' :: name)
        ('$' :: number (earlier.length + 1))
        (positional earlier text) =
      positional (earlier ++ [name]) text := by
  by_cases hMark : '$' ∈ name
  · rw [Replace.all_of_not_infix (hSpares.2 hMark)]
    unfold positional
    congr 1
    apply List.map_congr_left
    intro piece _
    refine (place_append_of_ne ?_).symm
    rintro rfl
    exact absurd (isIdentChar_of_mem_token hMark) (by decide)
  · unfold positional
    rw [Replace.all_join hMark (Replace.not_mem_lead '$' text)
      (mark_not_mem_map_place earlier text), List.map_map]
    congr 1
    apply List.map_congr_left
    intro piece hPiece
    exact capture_place hSpares hPiece

/- All passes together put every number in its place. -/
theorem bindNames_of_clean
    (fields : List (String × Value))
    (values : List Value)
    (hClean : ∀ front name back,
      namesOf fields = front ++ name :: back →
        Spares (earlier ++ front) name text) :
    bindNames earlier.length fields
        (String.ofList (positional earlier text), values) =
      (String.ofList
          (positional (earlier ++ namesOf fields) text),
        values ++ fields.map (·.2)) := by
  induction fields generalizing earlier values with
  | nil => simp [bindNames, namesOf]
  | cons field rest ih =>
    rcases field with ⟨name, val⟩
    have hFirst : Spares earlier name.toList text := by
      have hFront := hClean [] name.toList (namesOf rest) rfl
      rwa [List.append_nil] at hFront
    have hRest : ∀ front other back,
        namesOf rest = front ++ other :: back →
          Spares (earlier ++ [name.toList] ++ front) other
            text := by
      intro front other back hNames
      rw [List.append_assoc]
      apply hClean (name.toList :: front) other back
      change name.toList :: namesOf rest = _
      rw [hNames]
      rfl
    have hStep :=
      @ih (earlier ++ [name.toList]) (values ++ [val]) hRest
    rw [List.length_append, List.length_singleton] at hStep
    rw [bindNames, replaceText_dollar, String.toList_ofList,
      pass_of_spares hFirst, hStep]
    simp [namesOf]

/- Without names nothing is put anywhere. -/
theorem positional_nil (text : List Char) :
    positional [] text = text := by
  unfold positional
  have hPlace : place [] = id := by
    funext piece
    exact place_of_not_mem List.not_mem_nil
  rw [hPlace, List.map_id]
  exact Replace.join_pieces '$' text

/- The value of a name is found under its number. -/
theorem getElem?_idxOf
    (fields : List (String × Value))
    {name : List Char}
    (hMem : name ∈ namesOf fields) :
    (fields.map (·.2))[(namesOf fields).idxOf name]? =
      (Value.object fields).get (String.ofList name) := by
  change _ = fields.lookup (String.ofList name)
  induction fields with
  | nil => cases hMem
  | cons field rest ih =>
    rcases field with ⟨key, val⟩
    change (val :: rest.map (·.2))[
      (key.toList :: namesOf rest).idxOf name]? = _
    rw [List.idxOf_cons, List.lookup_cons]
    by_cases hKey : key.toList = name
    · subst hKey
      simp
    · have hOther : (String.ofList name == key) = false := by
        rw [beq_eq_false_iff_ne]
        rintro rfl
        exact hKey String.toList_ofList
      have hMem' : name ∈ namesOf rest := by
        rcases List.mem_cons.mp hMem with hSame | hMem
        · exact absurd hSame.symm hKey
        · exact hMem
      have hBeq : (key.toList == name) = false := by
        rw [beq_eq_false_iff_ne]
        exact hKey
      rw [hOther, hBeq]
      exact ih hMem'

theorem namedToPositional_eq
    (query : String)
    (fields : List (String × Value)) :
    namedToPositional query (.object fields) =
      .ok (bindNames 0 fields (query, [])) :=
  rfl

theorem result_of_clean
    {query : String}
    {fields : List (String × Value)}
    (hClean : Clean (namesOf fields) query.toList) :
    namedToPositional query (.object fields) =
      .ok (String.ofList
          (positional (namesOf fields) query.toList),
        fields.map (·.2)) := by
  have hAll :=
    @bindNames_of_clean [] query.toList fields [] hClean
  rw [positional_nil, String.ofList_toList] at hAll
  rw [namedToPositional_eq]
  exact congrArg Except.ok hAll

--------
-- Ordinary Names
--------

/- What the passes leave of a piece, one after the other. -/
def captures :
    Nat → List (List Char) → List Char → List Char
  | _, [], piece => piece
  | i, name :: rest, piece =>
    captures (i + 1) rest
      (Replace.capture name (number (i + 1)) piece)

/- The first name that a piece begins with is replaced. -/
def spell
    (names : List (List Char))
    (piece : List Char) : List Char :=
  match names.find? (· <+: token piece) with
  | none => piece
  | some name =>
    number (names.idxOf name + 1) ++ piece.drop name.length

variable {names : List (List Char)}

/- A number is not captured again. -/
theorem captures_number
    (hOrdinary : ∀ name ∈ names, Ordinary name)
    (i n : Nat)
    (rest : List Char) :
    captures i names (number n ++ rest) =
      number n ++ rest := by
  induction names generalizing i with
  | nil => rfl
  | cons name names ih =>
    rw [List.forall_mem_cons] at hOrdinary
    rw [captures, Replace.capture,
      if_neg (hOrdinary.1.not_prefix_number n rest)]
    exact ih hOrdinary.2 (i + 1)

theorem captures_eq
    (hOrdinary : ∀ name ∈ names, Ordinary name)
    (i : Nat)
    (piece : List Char) :
    captures i names piece =
      match names.find? (· <+: token piece) with
      | none => piece
      | some name =>
        number (i + names.idxOf name + 1) ++
          piece.drop name.length := by
  induction names generalizing i with
  | nil => rfl
  | cons name names ih =>
    rw [List.forall_mem_cons] at hOrdinary
    have hToken :
        name <+: piece ↔ name <+: token piece :=
      ⟨prefix_token hOrdinary.1.ident,
        fun hPrefix => hPrefix.trans (token_front piece)⟩
    rw [captures, Replace.capture, List.find?_cons]
    by_cases hPrefix : name <+: token piece
    · rw [if_pos (hToken.mpr hPrefix), decide_eq_true hPrefix,
        captures_number hOrdinary.2]
      simp
    · rw [if_neg (fun h => hPrefix (hToken.mp h)),
        decide_eq_false hPrefix, ih hOrdinary.2 (i + 1)]
      dsimp only
      cases hFind : names.find? (· <+: token piece) with
      | none => rfl
      | some other =>
        have hOther : other <+: token piece := by
          simpa using List.find?_some hFind
        have hNe : (name == other) = false := by
          rw [beq_eq_false_iff_ne]
          rintro rfl
          exact hPrefix hOther
        dsimp only
        rw [List.idxOf_cons, hNe]
        simp only [cond_false]
        congr 2
        omega

theorem captures_zero
    (hOrdinary : ∀ name ∈ names, Ordinary name)
    (piece : List Char) :
    captures 0 names piece = spell names piece := by
  rw [captures_eq hOrdinary, spell]
  cases names.find? (· <+: token piece) with
  | none => rfl
  | some name =>
    dsimp only
    rw [Nat.zero_add]

variable {piece : List Char}

theorem mark_not_mem_capture
    {name : List Char}
    (n : Nat)
    (hPiece : '$' ∉ piece) :
    '$' ∉ Replace.capture name (number n) piece := by
  unfold Replace.capture
  split_ifs with hPrefix
  · rw [List.mem_append, not_or]
    exact ⟨mark_not_mem_number n, fun hMem =>
      hPiece (List.mem_of_mem_drop hMem)⟩
  · exact hPiece

theorem mark_not_mem_captures
    (i : Nat)
    (hPiece : '$' ∉ piece) :
    '$' ∉ captures i names piece := by
  induction names generalizing i piece with
  | nil => exact hPiece
  | cons name names ih =>
    exact ih (i + 1) (mark_not_mem_capture (i + 1) hPiece)

/- Each piece goes through the passes by itself. -/
theorem bindNames_of_marks
    (fields : List (String × Value))
    (i : Nat)
    (values : List Value)
    {first : List Char}
    {rest : List (List Char)}
    (hNames : ∀ name ∈ namesOf fields, '$' ∉ name)
    (hFirst : '$' ∉ first)
    (hRest : ∀ piece ∈ rest, '$' ∉ piece) :
    bindNames i fields
        (String.ofList (Replace.join '$' first rest),
          values) =
      (String.ofList (Replace.join '$' first
          (rest.map (captures i (namesOf fields)))),
        values ++ fields.map (·.2)) := by
  induction fields generalizing i values rest with
  | nil =>
    have hId : captures i (namesOf []) = id := by
      funext piece
      rfl
    rw [hId, List.map_id]
    simp [bindNames]
  | cons field fields ih =>
    rcases field with ⟨name, val⟩
    have hNames : '$' ∉ name.toList ∧
        ∀ other ∈ namesOf fields, '$' ∉ other :=
      List.forall_mem_cons.mp hNames
    have hCaptured :
        ∀ piece ∈ rest.map (Replace.capture name.toList
          (number (i + 1))), '$' ∉ piece := by
      intro captured hMem
      rcases List.mem_map.mp hMem with ⟨piece, hPiece, rfl⟩
      exact mark_not_mem_capture (i + 1)
        (hRest piece hPiece)
    rw [bindNames, replaceText_dollar, String.toList_ofList,
      Replace.all_join hNames.1 hFirst hRest,
      ih (i + 1) (values ++ [val]) hNames.2 hCaptured,
      List.map_map]
    simp [namesOf, Function.comp_def, captures]

/- The result for ordinary names. -/
theorem result_of_ordinary
    (query : String)
    {fields : List (String × Value)}
    (hOrdinary : ∀ name ∈ namesOf fields, Ordinary name) :
    namedToPositional query (.object fields) =
      .ok (String.ofList
          (Replace.join '$' (Replace.lead '$' query.toList)
            ((pieces query.toList).map
              (spell (namesOf fields)))),
        fields.map (·.2)) := by
  have hAll := bindNames_of_marks fields 0 []
      (fun name hName => (hOrdinary name hName).mark_not_mem)
      (Replace.not_mem_lead '$' query.toList)
      (Replace.not_mem_pieces '$' query.toList)
  rw [Replace.join_pieces, String.ofList_toList] at hAll
  have hSpell : captures 0 (namesOf fields) =
      spell (namesOf fields) := by
    funext piece
    exact captures_zero hOrdinary piece
  rw [namedToPositional_eq, hAll, hSpell]
  rfl

/- A bound token is spelled right or it is not. -/
theorem spell_eq_place_iff
    (hOrdinary : ∀ name ∈ names, Ordinary name)
    (hBound : token piece ≠ [] → token piece ∈ names) :
    spell names piece = place names piece ↔
      (token piece ≠ [] → ∀ name,
          names.find? (· <+: token piece) = some name →
            number (names.idxOf name + 1) ++
                (token piece).drop name.length =
              number (names.idxOf (token piece) + 1)) := by
  by_cases hEmpty : token piece = []
  · -- No ordinary name begins an empty token.
    have hNone : names.find? (· <+: token piece) = none := by
      rw [List.find?_eq_none]
      intro name hName hPrefix
      rw [hEmpty, decide_eq_true_iff, List.prefix_nil]
        at hPrefix
      exact (hOrdinary name hName).ne_nil hPrefix
    unfold spell place
    rw [hNone, if_neg (fun h => h.1 hEmpty)]
    exact iff_of_true rfl (fun h => absurd hEmpty h)
  · have hMem := hBound hEmpty
    have hSome :
        (names.find? (· <+: token piece)).isSome = true := by
      rw [List.find?_isSome]
      exact ⟨token piece, hMem, by simp⟩
    rcases Option.isSome_iff_exists.mp hSome with
      ⟨name, hFind⟩
    have hPrefix : name <+: token piece := by
      simpa using List.find?_some hFind
    have hDrop :
        piece.drop name.length =
          (token piece).drop name.length ++
            piece.drop (token piece).length := by
      rw [← List.drop_append_of_le_length hPrefix.length_le,
        token_append_drop]
    unfold spell place
    rw [hFind, if_pos ⟨hEmpty, hMem⟩]
    dsimp only
    rw [hDrop, ← List.append_assoc, List.append_left_inj]
    constructor
    · intro hSame _ other hOther
      rw [← Option.some.inj hOther]
      exact hSame
    · intro hAll
      exact hAll hEmpty name rfl

--------
-- Right Placeholders
--------

variable {query : String} {fields : List (String × Value)}

theorem right_iff_result
    (hBound : TokensBound (namesOf fields) query.toList) :
    Right query fields ↔
      namedToPositional query (.object fields) =
        .ok (String.ofList
            (positional (namesOf fields) query.toList),
          fields.map (·.2)) := by
  constructor
  · exact Right.result
  · intro hResult
    refine ⟨hResult, ?_⟩
    intro piece hPiece hToken
    exact getElem?_idxOf fields (hBound piece hPiece hToken)

theorem right_iff_spelled
    (hOrdinary : ∀ name ∈ namesOf fields, Ordinary name)
    (hBound : TokensBound (namesOf fields) query.toList) :
    Right query fields ↔
      Spelled (namesOf fields) query.toList := by
  have hSpelled :
      ∀ piece ∈ (pieces query.toList).map
        (spell (namesOf fields)), '$' ∉ piece := by
    intro spelled hMem
    rcases List.mem_map.mp hMem with ⟨piece, hPiece, rfl⟩
    rw [← captures_zero hOrdinary]
    exact mark_not_mem_captures 0
      (Replace.not_mem_pieces '$' query.toList piece hPiece)
  rw [right_iff_result hBound,
    result_of_ordinary query hOrdinary]
  unfold positional Spelled
  rw [Except.ok.injEq, Prod.mk.injEq, and_iff_left rfl,
    String.ofList_inj,
    Replace.join_inj (Replace.not_mem_lead '$' query.toList)
      hSpelled (mark_not_mem_map_place _ query.toList),
    List.map_inj_left]
  apply forall₂_congr
  intro piece hPiece
  exact spell_eq_place_iff hOrdinary (hBound piece hPiece)

/-
  The placeholders are right where no pass meets anything but
  its own tokens.  For ordinary names it is known exactly
  when they are.
-/
theorem named_parameters
    (query : String)
    (fields : List (String × Value)) :
    (Clean (namesOf fields) query.toList →
        Correct query fields) ∧
      ((∀ name ∈ namesOf fields, Ordinary name) →
        (Correct query fields ↔
          (TokensBound (namesOf fields) query.toList →
            Spelled (namesOf fields) query.toList))) := by
  constructor
  · intro hClean hBound
    exact (right_iff_result hBound).mpr
      (result_of_clean hClean)
  · intro hOrdinary
    apply forall_congr'
    intro hBound
    exact right_iff_spelled hOrdinary hBound

variable {names : List (List Char)} {text : List Char}

/-
  Names of which none is the beginning of a token but the
  token itself.
-/
theorem clean_of_ordinary
    (hOrdinary : ∀ name ∈ names, Ordinary name)
    (hWhole : ∀ piece ∈ pieces text, ∀ name ∈ names,
      name <+: token piece → token piece = name)
    (hDistinct : names.Nodup) :
    Clean names text := by
  rintro earlier name later rfl
  have hMem : name ∈ earlier ++ name :: later :=
    List.mem_append_right _ List.mem_cons_self
  have hName := hOrdinary name hMem
  have hNew : name ∉ earlier := by
    intro hOld
    rw [List.nodup_append] at hDistinct
    exact hDistinct.2.2 name hOld name List.mem_cons_self rfl
  refine ⟨?_, fun hMark => absurd hMark hName.mark_not_mem⟩
  intro piece hPiece hPrefix
  unfold place at hPrefix
  split_ifs at hPrefix with hPlaced
  · exact absurd hPrefix (hName.not_prefix_number _ _)
  · exact ⟨hName.ne_nil, hWhole piece hPiece name hMem
        (prefix_token hName.ident hPrefix), hNew⟩

/- Every mark of the text is followed by one of the names. -/
def scan (names : List (List Char)) : List Char → Bool
  | [] => true
  | c :: text =>
    (c ≠ '$' || names.contains (token text)) &&
      scan names text

theorem token_append
    {c : Char}
    (hEnd : isIdentChar c = false)
    (piece rest : List Char) :
    token (piece ++ c :: rest) = token piece := by
  unfold token
  induction piece with
  | nil => simp [hEnd]
  | cons d piece ih =>
    rw [List.cons_append, List.takeWhile_cons,
      List.takeWhile_cons, ih]

/- A text may be scanned up to what ends every token. -/
theorem scan_append
    (names : List (List Char))
    {c : Char}
    (hEnd : isIdentChar c = false)
    (front rest : List Char) :
    scan names (front ++ c :: rest) =
      (scan names front && scan names (c :: rest)) := by
  induction front with
  | nil => rfl
  | cons d front ih =>
    rw [List.cons_append, scan, scan, ih,
      token_append hEnd, Bool.and_assoc]

theorem scan_append_of_not_mem
    (names : List (List Char))
    {front : List Char}
    (hFront : '$' ∉ front)
    (rest : List Char) :
    scan names (front ++ rest) = scan names rest := by
  induction front with
  | nil => rfl
  | cons d front ih =>
    rw [List.mem_cons, not_or] at hFront
    rw [List.cons_append, scan, ih hFront.2]
    simp [Ne.symm hFront.1]

theorem scan_mono
    {names' : List (List Char)}
    (hSubset : ∀ name ∈ names, name ∈ names')
    (hScan : scan names text = true) :
    scan names' text = true := by
  induction text with
  | nil => rfl
  | cons c text ih =>
    rw [scan, Bool.and_eq_true, Bool.or_eq_true,
      List.contains_iff_mem] at hScan ⊢
    exact ⟨hScan.1.imp id (hSubset _), ih hScan.2⟩

theorem token_mem_of_scan_join
    {rest : List (List Char)}
    (hScan : scan names (rest.flatMap ('$' :: ·)) = true) :
    ∀ piece ∈ rest, token piece ∈ names := by
  induction rest with
  | nil => simp
  | cons piece rest ih =>
    rw [List.flatMap_cons, List.cons_append, scan,
      Bool.and_eq_true] at hScan
    have hCases := @Replace.flatMap_mark_cases Char '$' rest
    rcases hCases with hNone | ⟨more, hMore⟩
    · rw [hNone, List.append_nil] at hScan
      have hEmpty : rest = [] := by
        cases rest with
        | nil => rfl
        | cons other rest => cases hNone
      rw [hEmpty, List.forall_mem_singleton]
      simpa using hScan.1
    · have hEnd : isIdentChar '$' = false := by decide
      rw [hMore, token_append hEnd, scan_append names hEnd,
        ← hMore, Bool.and_eq_true] at hScan
      rw [List.forall_mem_cons]
      exact ⟨by simpa using hScan.1, ih hScan.2.2⟩

/- The tokens of a text that is scanned. -/
theorem token_mem_of_scan
    (hScan : scan names text = true) :
    ∀ piece ∈ pieces text, token piece ∈ names := by
  rw [← Replace.join_pieces '$' text, Replace.join,
    scan_append_of_not_mem names
      (Replace.not_mem_lead '$' text)] at hScan
  exact token_mem_of_scan_join hScan

/-
  Names of which none begins with another, in a text that has
  no others.
-/
theorem right_of_scan
    {query : String}
    {fields : List (String × Value)}
    (hOrdinary : ∀ name ∈ namesOf fields, Ordinary name)
    (hApart : ∀ name ∈ namesOf fields,
      ∀ other ∈ namesOf fields, name <+: other → other = name)
    (hDistinct : (namesOf fields).Nodup)
    (hScan : scan (namesOf fields) query.toList = true) :
    TokensBound (namesOf fields) query.toList ∧
      Right query fields := by
  have hTokens := token_mem_of_scan hScan
  have hBound :
      TokensBound (namesOf fields) query.toList :=
    fun piece hPiece _ => hTokens piece hPiece
  refine ⟨hBound, (right_iff_result hBound).mpr
    (result_of_clean (clean_of_ordinary hOrdinary ?_
      hDistinct))⟩
  intro piece hPiece name hName hPrefix
  exact hApart name hName _ (hTokens piece hPiece) hPrefix

/- A query by one name. -/
def ofUser : String := "SELECT * FROM carts WHERE a = $user"

def oneBind : List (String × Value) := [("user", .string "u1")]

theorem ofUser_texts :
    pieces ofUser.toList = ["user".toList] ∧
      namesOf oneBind = ["user".toList] ∧
      token "user".toList = "user".toList := by
  decide

theorem user_bound : Right ofUser oneBind := by
  rcases ofUser_texts with ⟨hPieces, hNames, hToken⟩
  have hOrdinary :
      ∀ name ∈ namesOf oneBind, Ordinary name := by
    rw [hNames, List.forall_mem_singleton]
    exact ⟨'u', "ser".toList, rfl, rfl, by
      simp [isIdentChar]⟩
  have hBound :
      TokensBound (namesOf oneBind) ofUser.toList := by
    unfold TokensBound
    rw [hPieces, hNames, List.forall_mem_singleton, hToken]
    exact fun _ => List.mem_singleton_self _
  have hSpelled :
      Spelled (namesOf oneBind) ofUser.toList := by
    unfold Spelled
    rw [hPieces, hNames, List.forall_mem_singleton, hToken]
    intro _ name hFind
    have hName : name = "user".toList :=
      List.mem_singleton.mp (List.mem_of_find?_eq_some hFind)
    rw [hName, List.drop_length, List.append_nil]
  exact ((named_parameters ofUser oneBind).2 hOrdinary).mpr
    (fun _ => hSpelled) hBound

/- A query by two names, one the beginning of the other. -/
def byUser : String :=
  "SELECT * FROM carts WHERE a = $user AND b = $user_id"

def userBinds : List (String × Value) :=
  [("user", .string "u1"), ("user_id", .string "u2")]

theorem byUser_texts :
    bindNames 0 userBinds (byUser, []) =
        ("SELECT * FROM carts WHERE a = $1 AND b = $1_id",
          [.string "u1", .string "u2"]) ∧
      (∀ piece ∈ pieces byUser.toList, token piece ≠ [] →
          token piece ∈ namesOf userBinds) ∧
      String.ofList
          (positional (namesOf userBinds) byUser.toList) =
        "SELECT * FROM carts WHERE a = $1 AND b = $2" := by
  decide +kernel

/- The second name is taken for the first one. -/
theorem user_id_not_bound : ¬ Correct byUser userBinds := by
  intro hCorrect
  have hResult := (hCorrect byUser_texts.2.1).result
  rw [namedToPositional_eq, byUser_texts.1,
    byUser_texts.2.2] at hResult
  exact absurd (congrArg Prod.fst (Except.ok.inj hResult))
    (by decide)

end Orignabase.Database
