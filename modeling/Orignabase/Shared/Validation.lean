import Orignabase.Lib.Regex

/-
  The cleaning of texts from users
  (`ob-handlers/src/shared/validation.rs`, `sanitize_html`).

  Key definitions include:
    * `sanitizeHtml`

  Main results:
    * `sanitizeHtml_plain`
-/

--------
-- Tags
--------

namespace Orignabase.Validation

def dangerousTags : List String :=
  ["script", "style", "iframe", "object", "embed", "form"]

/- `(?i)<tag[^>]*>` -/
def openPattern (tag : String) : Regex :=
  .all [.one (· == '<'), .word tag, .many (· != '>') 0,
      .one (· == '>')]

/- `(?i)<tag[^>]*>[\s\S]*?</tag>` -/
def elementPattern (tag : String) : Regex :=
  .all [openPattern tag, .lazily (fun _ => true),
      .word "</", .word tag, .one (· == '>')]

/- First the whole element, then a tag that is left open. -/
def removeTag (text : List Char) (tag : String) :
    List Char :=
  (openPattern tag).replaceAll (fun _ => [])
    ((elementPattern tag).replaceAll (fun _ => []) text)

/- What is between a `<` and the next `>` is dropped. -/
def stripTags : Bool → List Char → List Char
  | _, [] => []
  | inTag, c :: text =>
    if c = '<' then stripTags true text
    else if c = '>' then stripTags false text
    else if inTag then stripTags inTag text
    else c :: stripTags inTag text

def sanitizeChars (text : List Char) : List Char :=
  stripTags false (dangerousTags.foldl removeTag text)

def sanitizeHtml (text : String) : String :=
  String.ofList (sanitizeChars text.toList)

theorem stripTags_plain
    {inTag : Bool}
    {text : List Char}
    {c : Char}
    (hMem : c ∈ stripTags inTag text) :
    c ≠ '<' ∧ c ≠ '>' := by
  induction text generalizing inTag with
  | nil => exact absurd hMem List.not_mem_nil
  | cons d text ih =>
    rw [stripTags] at hMem
    split at hMem
    · exact ih hMem
    next hOpen =>
      split at hMem
      · exact ih hMem
      next hClose =>
        split at hMem
        · exact ih hMem
        · rcases List.mem_cons.mp hMem with hSame | hRest
          · rw [hSame]
            exact ⟨hOpen, hClose⟩
          · exact ih hRest

/- No tag can be built from what is left. -/
theorem sanitizeHtml_plain
    {text : String}
    {c : Char}
    (hMem : c ∈ (sanitizeHtml text).toList) :
    c ≠ '<' ∧ c ≠ '>' := by
  rw [sanitizeHtml, String.toList_ofList] at hMem
  exact stripTags_plain hMem

end Orignabase.Validation
