import Orignabase.Lib.Text
import Orignabase.Shared.Validation

/-
  What is left of a text that has been cleaned
  (`ob-handlers/src/shared/validation.rs`, `sanitize_html`).

  Key definitions include:
    * `Flat`
    * `IsTag`
    * `Framed`

  Main results:
    * `sanitizeChars_flat`
    * `removeTag_framed`
    * `sanitize_html_safe`
-/

--------
-- Patterns of Tags
--------

namespace Orignabase.Validation

open Regex

variable {before : Option Char} {text after : List Char}
variable {tag : String}

/- A text without angle brackets. -/
def Flat (text : List Char) : Prop :=
  ∀ c ∈ text, c ≠ '<' ∧ c ≠ '>'

instance (text : List Char) : Decidable (Flat text) :=
  inferInstanceAs (Decidable (∀ _ ∈ _, _))

theorem flat_append {text text' : List Char} :
    Flat (text ++ text') ↔ Flat text ∧ Flat text' :=
  List.forall_mem_append

/- No brackets and slashes, and two letters at least. -/
structure IsTag (tag : String) : Prop where
  letters : ∀ c ∈ tag.toList, c ≠ '<' ∧ c ≠ '>' ∧ c ≠ '/'
  long : 2 ≤ tag.toList.length

/- No letter becomes this character in small. -/
theorem eq_of_toLower
    {c d : Char}
    (hLower : c.toLower = d)
    (hBefore : d.toNat < 97) :
    c = d := by
  unfold Char.toLower at hLower
  split_ifs at hLower with hUpper
  · exfalso
    have hNat : c.toNat + 32 = d.toNat := by
      have hVal : (c.toNat + 32) % 2 ^ 32 = d.toNat :=
        congrArg Char.toNat hLower
      have hUp := UInt32.le_iff_toNat_le.mp hUpper.2
      change c.toNat ≤ 90 at hUp
      omega
    have hLow := UInt32.le_iff_toNat_le.mp hUpper.1
    change 65 ≤ c.toNat at hLow
    omega
  · exact hLower

/- An opening tag. -/
def opening (name attrs : List Char) : List Char :=
  '<' :: (name ++ attrs) ++ ['>']

/- An element with a tag at each end. -/
def element (name attrs inner closing : List Char) :
    List Char :=
  opening name attrs ++ inner ++ '<' :: '/' :: closing ++
    ['>']

theorem matches_openPattern_iff :
    Matches (openPattern tag) before text after ↔
      ∃ name attrs, text = opening name attrs ∧
        name.map Char.toLower = tag.toList ∧
        '>' ∉ attrs := by
  unfold openPattern opening
  simp only [all, matches_seq_iff, matches_one_iff,
    matches_word_iff, matches_many_iff, matches_empty_iff]
  constructor
  · rintro ⟨_, _, rfl, ⟨c, rfl, hOpen⟩, name, _, rfl, hName,
      attrs, _, rfl, ⟨hAttrs, _⟩, _, _, rfl,
      ⟨d, rfl, hClose⟩, rfl⟩
    refine ⟨name, attrs, ?_, hName, ?_⟩
    · rw [eq_of_beq hOpen, eq_of_beq hClose]
      simp
    · intro hMem
      exact absurd (hAttrs _ hMem) (by decide)
  · rintro ⟨name, attrs, rfl, hName, hAttrs⟩
    refine ⟨['<'], name ++ attrs ++ ['>'], rfl,
      ⟨'<', rfl, rfl⟩, name, attrs ++ ['>'],
      List.append_assoc _ _ _, hName, attrs, ['>'], rfl,
      ⟨?_, Nat.zero_le _⟩, ['>'], [], rfl,
      ⟨'>', rfl, rfl⟩, rfl⟩
    intro c hMem
    exact bne_iff_ne.mpr (fun hSame => hAttrs (hSame ▸ hMem))

theorem matches_elementPattern_iff :
    Matches (elementPattern tag) before text after ↔
      ∃ name attrs inner closing,
        text = element name attrs inner closing ∧
          name.map Char.toLower = tag.toList ∧
          '>' ∉ attrs ∧
          closing.map Char.toLower = tag.toList := by
  unfold elementPattern element
  simp only [all, matches_seq_iff, matches_openPattern_iff,
    matches_lazily_iff, matches_word_iff, matches_one_iff,
    matches_empty_iff]
  constructor
  · rintro ⟨_, _, rfl, ⟨name, attrs, rfl, hName, hAttrs⟩,
      inner, _, rfl, _, slash, _, rfl, hSlash, closing, _,
      rfl, hClosing, last, _, rfl, ⟨d, rfl, hLast⟩, rfl⟩
    refine ⟨name, attrs, inner, closing, ?_, hName, hAttrs,
      hClosing⟩
    have hLetters : _ = ['<', '/'] := hSlash
    rcases List.map_eq_cons_iff.mp hLetters with
      ⟨c, _, rfl, hC, hRest⟩
    rcases List.map_eq_cons_iff.mp hRest with
      ⟨e, _, rfl, hE, hNil⟩
    rw [List.map_eq_nil_iff.mp hNil,
      eq_of_toLower hC (by decide),
      eq_of_toLower hE (by decide), eq_of_beq hLast]
    simp
  · rintro ⟨name, attrs, inner, closing, rfl, hName, hAttrs,
      hClosing⟩
    refine ⟨opening name attrs,
      inner ++ ('<' :: '/' :: closing ++ ['>']), ?_,
      ⟨name, attrs, rfl, hName, hAttrs⟩, inner, _, rfl,
      fun _ _ => trivial, ['<', '/'], closing ++ ['>'], rfl, rfl,
      closing, ['>'], rfl, hClosing, ['>'], [], rfl,
      ⟨'>', rfl, rfl⟩, rfl⟩
    simp

--------
-- Where Tags Are Found
--------

/- A pattern whose matches begin with `<` and the tag. -/
def Opens (tag : String) (r : Regex) : Prop :=
  ∀ before text after, Matches r before text after →
    ∃ name rest, text = '<' :: (name ++ rest) ∧
      name.map Char.toLower = tag.toList

theorem opens_openPattern (tag : String) :
    Opens tag (openPattern tag) := by
  intro before text after hMatch
  rcases matches_openPattern_iff.mp hMatch with
    ⟨name, attrs, rfl, hName, _⟩
  exact ⟨name, attrs ++ ['>'], by simp [opening], hName⟩

theorem opens_elementPattern (tag : String) :
    Opens tag (elementPattern tag) := by
  intro before text after hMatch
  rcases matches_elementPattern_iff.mp hMatch with
    ⟨name, attrs, inner, closing, rfl, hName, _⟩
  exact ⟨name, _, by simp [element, opening]; rfl, hName⟩

variable {front : List Char}

section

variable {r : Regex} {by_ : List Char → List Char}

theorem Opens.find_free
    (hOpens : Opens tag r)
    (before : Option Char)
    (c : Char)
    (text : List Char)
    (hC : (c != '<') = true) :
    r.find before (c :: text) = none := by
  apply find_eq_none
  intro mid after hText hMatch
  rcases hOpens _ _ _ hMatch with ⟨name, rest, rfl, _⟩
  exact bne_iff_ne.mp hC (List.cons.inj hText).1

/- Two letters tell that this is another tag. -/
theorem Opens.find_other
    (hOpens : Opens tag r)
    (hLength : 2 ≤ tag.toList.length)
    (hOther :
      (text.map Char.toLower).take 2 ≠ tag.toList.take 2) :
    r.find before ('<' :: text) = none := by
  apply find_eq_none
  intro mid after hText hMatch
  rcases hOpens _ _ _ hMatch with ⟨name, rest, rfl, hName⟩
  rw [List.cons_append, List.append_assoc] at hText
  rw [(List.cons.inj hText).2, List.map_append, hName,
    List.take_append_of_le_length hLength] at hOther
  exact hOther rfl

theorem Opens.replaceFrom_free
    (hOpens : Opens tag r)
    (hFront : '<' ∉ front)
    (text : List Char) :
    r.replaceFrom by_ 0 before (front ++ text) = front ++
        r.replaceFrom by_ 0 (lastOf before front) text := by
  refine Regex.replaceFrom_free hOpens.find_free ?_ text
  intro c hMem
  exact bne_iff_ne.mpr (fun hSame => hFront (hSame ▸ hMem))

theorem Opens.replaceAll_self
    (hOpens : Opens tag r)
    (hText : '<' ∉ text) :
    r.replaceAll by_ text = text := by
  have hFree : r.replaceFrom by_ 0 none (text ++ []) = _ :=
    hOpens.replaceFrom_free hText []
  rw [List.append_nil, replaceFrom, List.append_nil] at hFree
  exact hFree

/- No match is found at either of the two brackets. -/
theorem Opens.replaceAll_other
    (hOpens : Opens tag r)
    (hLength : 2 ≤ tag.toList.length)
    {mid back : List Char}
    (hFront : '<' ∉ front)
    (hMid : '<' ∉ mid)
    (hBack : '<' ∉ back)
    (hFirst :
      ((mid ++ '<' :: back).map Char.toLower).take 2 ≠
        tag.toList.take 2)
    (hSecond :
      (back.map Char.toLower).take 2 ≠ tag.toList.take 2) :
    r.replaceAll by_ (front ++ '<' :: (mid ++ '<' :: back)) =
      front ++ '<' :: (mid ++ '<' :: back) := by
  have hEnd :
      r.replaceFrom by_ 0 (some '<') (back ++ []) = _ :=
    hOpens.replaceFrom_free hBack []
  rw [List.append_nil, replaceFrom, List.append_nil] at hEnd
  rw [replaceAll, hOpens.replaceFrom_free hFront,
    replaceFrom_none (hOpens.find_other hLength hFirst),
    hOpens.replaceFrom_free hMid,
    replaceFrom_none (hOpens.find_other hLength hSecond),
    hEnd]

end

--------
-- Elements
--------

variable {name : List Char}

theorem notMem_of_tag
    {c : Char}
    (hName : name.map Char.toLower = tag.toList)
    (hLower : c.toLower = c)
    (hTag : c ∉ tag.toList) : c ∉ name := by
  intro hMem
  have hImage := List.mem_map_of_mem (f := Char.toLower) hMem
  rw [hName, hLower] at hImage
  exact hTag hImage

theorem Flat.open_notMem (hFlat : Flat text) : '<' ∉ text :=
  fun hMem => (hFlat _ hMem).1 rfl

theorem Flat.close_notMem (hFlat : Flat text) :
    '>' ∉ text :=
  fun hMem => (hFlat _ hMem).2 rfl

theorem flat_of_tag
    (hTag : IsTag tag)
    (hName : name.map Char.toLower = tag.toList) :
    Flat name := by
  intro c hMem
  constructor
  · rintro rfl
    exact notMem_of_tag hName rfl
      (fun h => (hTag.letters _ h).1 rfl) hMem
  · rintro rfl
    exact notMem_of_tag hName rfl
      (fun h => (hTag.letters _ h).2.1 rfl) hMem

/- An element of a tag between texts without brackets. -/
structure Framed (tag : String) where
  name : List Char
  attrs : List Char
  inner : List Char
  closing : List Char
  front : List Char
  back : List Char
  named : name.map Char.toLower = tag.toList
  closed : closing.map Char.toLower = tag.toList
  attrs_flat : Flat attrs
  inner_flat : Flat inner
  front_flat : Flat front
  back_flat : Flat back

namespace Framed

variable (e : Framed tag)

def middle : List Char :=
  element e.name e.attrs e.inner e.closing

def whole : List Char :=
  e.front ++ (e.middle ++ e.back)

/- What stands between the two opening brackets. -/
def head : List Char :=
  (e.name ++ e.attrs) ++ '>' :: e.inner

def tail : List Char :=
  '/' :: e.closing ++ '>' :: e.back

theorem middle_append :
    e.middle ++ e.back =
      '<' :: (e.head ++ '<' :: e.tail) := by
  simp [middle, head, tail, element, opening]

theorem open_notMem_head (hTag : IsTag tag) :
    '<' ∉ e.head := by
  have hName := (flat_of_tag hTag e.named).open_notMem
  simp [head, hName, e.attrs_flat.open_notMem,
    e.inner_flat.open_notMem]

theorem open_notMem_tail (hTag : IsTag tag) :
    '<' ∉ e.tail := by
  have hClosing := (flat_of_tag hTag e.closed).open_notMem
  simp [tail, hClosing, e.back_flat.open_notMem]

/- The element is matched in one way. -/
theorem unique
    {name attrs inner closing back : List Char}
    (hTag : IsTag tag)
    (hName : name.map Char.toLower = tag.toList)
    (hClosing : closing.map Char.toLower = tag.toList)
    (hAttrs : '>' ∉ attrs)
    (hSame :
      e.middle ++ e.back =
        element name attrs inner closing ++ back) :
    element name attrs inner closing = e.middle := by
  have hFlat := flat_append.mpr
    ⟨flat_of_tag hTag e.named, e.attrs_flat⟩
  have hOpening : '>' ∉ name ++ attrs := by
    rw [List.mem_append, not_or]
    exact ⟨(flat_of_tag hTag hName).close_notMem, hAttrs⟩
  have hParts :
      (e.name ++ e.attrs) ++ '>' ::
          (e.inner ++ '<' :: e.tail) =
        (name ++ attrs) ++ '>' ::
          (inner ++ '<' :: ('/' :: closing ++ '>' :: back)) := by
    have hWhole := hSame
    rw [middle_append] at hWhole
    simpa [head, element, opening] using hWhole
  have hRest := (Text.cons_inj_of_notMem hFlat.close_notMem
    hOpening hParts).2
  -- Only one bracket is left for the closing tag.
  have hClose :=
    ((List.append_cons_inj_of_notMem e.inner_flat.open_notMem
      (e.open_notMem_tail hTag)).mp hRest).2.2
  have hBacks := (Text.cons_inj_of_notMem
    (flat_of_tag hTag e.closed).close_notMem
    (flat_of_tag hTag hClosing).close_notMem
    (List.cons.inj hClose).2).2
  rw [hBacks] at hSame
  exact (List.append_cancel_right hSame).symm

theorem find_middle
    (hTag : IsTag tag)
    (before : Option Char) :
    (elementPattern tag).find before (e.middle ++ e.back) =
      some e.middle.length := by
  apply find_eq_some
  · exact matches_elementPattern_iff.mpr
      ⟨e.name, e.attrs, e.inner, e.closing, rfl, e.named,
        e.attrs_flat.close_notMem, e.closed⟩
  · intro mid back hSame hMatch
    rcases matches_elementPattern_iff.mp hMatch with
      ⟨name, attrs, inner, closing, rfl, hName, hAttrs,
        hClosing⟩
    exact e.unique hTag hName hClosing hAttrs hSame

end Framed

theorem removeTag_flat
    (hText : '<' ∉ text)
    (tag : String) :
    removeTag text tag = text := by
  unfold removeTag
  rw [(opens_elementPattern tag).replaceAll_self hText,
    (opens_openPattern tag).replaceAll_self hText]

/- The element of the tag is removed. -/
theorem removeTag_framed
    (hTag : IsTag tag)
    (e : Framed tag) :
    removeTag e.whole tag = e.front ++ e.back := by
  have hOpens := opens_elementPattern tag
  have hNonempty : e.middle ≠ [] := List.cons_ne_nil _ _
  have hBack (before : Option Char) :
      (elementPattern tag).replaceFrom (fun _ => []) 0
        before (e.back ++ []) = _ :=
    hOpens.replaceFrom_free e.back_flat.open_notMem []
  have hRemoved :
      (elementPattern tag).replaceAll (fun _ => []) e.whole =
        e.front ++ e.back := by
    rw [replaceAll, Framed.whole,
      hOpens.replaceFrom_free e.front_flat.open_notMem,
      replaceFrom_some hNonempty (e.find_middle hTag _),
      List.nil_append]
    simp only [List.append_nil, replaceFrom] at hBack
    rw [hBack]
  unfold removeTag
  rw [hRemoved]
  exact (opens_openPattern tag).replaceAll_self
    (flat_append.mpr ⟨e.front_flat, e.back_flat⟩).open_notMem

/- The element of another tag stays for its own turn. -/
theorem removeTag_other
    {other : String}
    (hTag : IsTag tag)
    (hOther : IsTag other)
    (hDiffer : tag.toList.take 2 ≠ other.toList.take 2)
    (e : Framed tag) :
    removeTag e.whole other = e.whole := by
  have hHead := e.open_notMem_head hTag
  have hTail := e.open_notMem_tail hTag
  have hFirst :
      ((e.head ++ '<' :: e.tail).map Char.toLower).take 2 ≠
        other.toList.take 2 := by
    unfold Framed.head
    rw [List.append_assoc, List.append_assoc,
      List.map_append, e.named,
      List.take_append_of_le_length hTag.long]
    exact hDiffer
  have hSecond :
      (e.tail.map Char.toLower).take 2 ≠
        other.toList.take 2 := by
    intro hSame
    have hSlash : '/' ∈ other.toList.take 2 := by
      rw [← hSame]
      exact List.mem_cons_self
    exact (hOther.letters _
      (List.mem_of_mem_take hSlash)).2.2 rfl
  unfold removeTag Framed.whole
  rw [e.middle_append,
    (opens_elementPattern other).replaceAll_other hOther.long
      e.front_flat.open_notMem hHead hTail hFirst hSecond,
    (opens_openPattern other).replaceAll_other hOther.long
      e.front_flat.open_notMem hHead hTail hFirst hSecond]

--------
-- Cleaned Texts
--------

theorem foldl_removeTag_flat
    (hText : '<' ∉ text)
    (tags : List String) :
    tags.foldl removeTag text = text := by
  induction tags with
  | nil => rfl
  | cons tag tags ih =>
    rw [List.foldl_cons, removeTag_flat hText, ih]

/- The tags are letters and differ in the first two. -/
def Distinct (tags : List String) : Prop :=
  (∀ tag ∈ tags, IsTag tag) ∧
    ∀ tag ∈ tags, ∀ other ∈ tags, tag ≠ other →
      tag.toList.take 2 ≠ other.toList.take 2

theorem distinct_dangerousTags : Distinct dangerousTags := by
  have hLetters :
      dangerousTags.all (fun tag =>
        tag.toList.all (fun c =>
          c != '<' && c != '>' && c != '/') &&
            decide (2 ≤ tag.toList.length)) = true := by
    decide
  refine ⟨?_, by decide⟩
  intro tag hMem
  have hTag := List.all_eq_true.mp hLetters tag hMem
  rw [Bool.and_eq_true, List.all_eq_true] at hTag
  exact ⟨by simpa [and_assoc] using hTag.1,
    of_decide_eq_true hTag.2⟩

theorem foldl_removeTag_framed
    {tags : List String}
    (hDistinct : Distinct tags)
    (hMem : tag ∈ tags)
    (e : Framed tag) :
    tags.foldl removeTag e.whole = e.front ++ e.back := by
  induction tags with
  | nil => cases hMem
  | cons other tags ih =>
    rw [List.foldl_cons]
    have hTag := hDistinct.1 tag hMem
    by_cases hSame : tag = other
    · rw [← hSame, removeTag_framed hTag e]
      exact foldl_removeTag_flat (flat_append.mpr
        ⟨e.front_flat, e.back_flat⟩).open_notMem tags
    · have hOther := hDistinct.1 other List.mem_cons_self
      have hDiffer := hDistinct.2 tag hMem other
        List.mem_cons_self hSame
      rw [removeTag_other hTag hOther hDiffer e]
      refine ih ⟨?_, ?_⟩ (List.mem_of_ne_of_mem hSame hMem)
      · exact fun t h => hDistinct.1 t (.tail _ h)
      · exact fun t h t' h' =>
          hDistinct.2 t (.tail _ h) t' (.tail _ h')

theorem stripTags_flat
    (hText : Flat text) : stripTags false text = text := by
  induction text with
  | nil => rfl
  | cons c text ih =>
    rcases List.forall_mem_cons.mp hText with ⟨hC, hRest⟩
    rw [stripTags, if_neg hC.1, if_neg hC.2,
      if_neg Bool.false_ne_true, ih hRest]

theorem stripTags_sublist (inTag : Bool) :
    (stripTags inTag text).Sublist text := by
  induction text generalizing inTag with
  | nil => exact List.Sublist.refl _
  | cons c text ih =>
    rw [stripTags]
    split_ifs with hOpen hClose hIn
    · exact (ih true).cons c
    · exact (ih false).cons c
    · exact (ih inTag).cons c
    · exact (ih inTag).cons_cons c

theorem removeTag_sublist (text : List Char) (tag : String) :
    (removeTag text tag).Sublist text :=
  (replaceFrom_sublist 0).trans (replaceFrom_sublist 0)

theorem foldl_removeTag_sublist (tags : List String) :
    (tags.foldl removeTag text).Sublist text := by
  induction tags generalizing text with
  | nil => exact List.Sublist.refl _
  | cons tag tags ih =>
    exact ih.trans (removeTag_sublist text tag)

theorem sanitizeChars_flat (hText : Flat text) :
    sanitizeChars text = text := by
  unfold sanitizeChars
  rw [foldl_removeTag_flat hText.open_notMem,
    stripTags_flat hText]

theorem sanitizeChars_sublist (text : List Char) :
    (sanitizeChars text).Sublist text :=
  (stripTags_sublist false).trans
    (foldl_removeTag_sublist dangerousTags)

theorem flat_sanitizeHtml (text : String) :
    Flat (sanitizeHtml text).toList :=
  fun _ hMem => sanitizeHtml_plain hMem

theorem sanitizeHtml_flat_text
    {text : String}
    (hText : Flat text.toList) :
    sanitizeHtml text = text := by
  unfold sanitizeHtml
  rw [sanitizeChars_flat hText, String.ofList_toList]

/-
  A cleaned text has no angle brackets and is left of the
  text in order; a text without them is not changed, nor is
  one that has been cleaned; and an element of a dangerous
  tag is removed with what is in it, whatever follows the
  name of the tag.
-/
theorem sanitize_html_safe (text : String) :
    Flat (sanitizeHtml text).toList ∧
      (sanitizeHtml text).toList.Sublist text.toList ∧
      (Flat text.toList → sanitizeHtml text = text) ∧
      sanitizeHtml (sanitizeHtml text) = sanitizeHtml text ∧
      ∀ (tag : String)
          (name attrs inner closing front back : List Char),
        tag ∈ dangerousTags →
        name.map Char.toLower = tag.toList →
        closing.map Char.toLower = tag.toList →
        Flat attrs → Flat inner → Flat front → Flat back →
        text.toList =
            front ++ '<' :: (name ++ attrs) ++ '>' :: inner ++
              '<' :: '/' :: closing ++ '>' :: back →
          sanitizeHtml text =
            String.ofList (front ++ back) := by
  refine ⟨flat_sanitizeHtml text, ?_, sanitizeHtml_flat_text,
    sanitizeHtml_flat_text (flat_sanitizeHtml text), ?_⟩
  · unfold sanitizeHtml
    rw [String.toList_ofList]
    exact sanitizeChars_sublist text.toList
  · intro tag name attrs inner closing front back hTag hName
      hClosing hAttrs hInner hFront hBack hText
    let e : Framed tag :=
      ⟨name, attrs, inner, closing, front, back, hName,
        hClosing, hAttrs, hInner, hFront, hBack⟩
    have hFramed : text.toList = e.whole := by
      rw [hText]
      simp [e, Framed.whole, Framed.middle, element, opening]
    unfold sanitizeHtml sanitizeChars
    rw [hFramed,
      foldl_removeTag_framed distinct_dangerousTags hTag e,
      stripTags_flat (flat_append.mpr ⟨hFront, hBack⟩)]

end Orignabase.Validation
