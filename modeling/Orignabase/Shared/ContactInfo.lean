import Orignabase.Lib.Redaction

/-
  Numbers and addresses in messages
  (`ob-handlers/src/shared/validation.rs`,
  `redact_contact_info`).

  The classes of the expressions hold characters of ASCII.

  Key definitions include:
    * `phonePattern`, `emailPattern`
    * `redactContactInfo`

  Main results:
    * `redact_contact_info_complete`
-/

--------
-- Patterns
--------

namespace Orignabase.Validation

open Regex

def isSpace (c : Char) : Bool :=
  c == ' ' || c == '\t' || c == '\n' || c == '\r' ||
    c.toNat == 11 || c.toNat == 12

def isPhoneChar (c : Char) : Bool :=
  c.isDigit || isSpace c || c == '-' || c == '.' ||
    c == '(' || c == ')'

/- `\+?\d[\d\s\-().]{8,}\d` -/
def phonePattern : Regex :=
  .all [.run (· == '+') 0 (some 1) true, .one Char.isDigit,
    .many isPhoneChar 8, .one Char.isDigit]

def isLocalChar (c : Char) : Bool :=
  c.isAlphanum || c == '.' || c == '_' || c == '%' ||
    c == '+' || c == '-'

def isDomainChar (c : Char) : Bool :=
  c.isAlphanum || c == '.' || c == '-'

/- `[a-zA-Z0-9._%+-]+@[a-zA-Z0-9.-]+\.[a-zA-Z]{2,}` -/
def emailPattern : Regex :=
  .all [.many isLocalChar 1, .one (· == '@'),
    .many isDomainChar 1, .one (· == '.'),
    .many Char.isAlpha 2]

def redacted (_ : List Char) : List Char :=
  "[REDACTED]".toList

def redactContactInfo (text : String) : String :=
  String.ofList (emailPattern.replaceAll redacted
    (phonePattern.replaceAll redacted text.toList))

--------
-- Completeness
--------

/- Neither a number nor an address is in the text. -/
def Anonymous (text : List Char) : Prop :=
  phonePattern.Avoids text ∧ emailPattern.Avoids text

def word_ : List Char :=
  "REDACTED".toList

theorem redacted_eq : redacted = marked '[' ']' word_ := rfl

variable {text : List Char}

theorem flat_of_set
    {set : Char → Bool}
    (hOpen : set '[' = false)
    (hClose : set ']' = false)
    (hText : ∀ c ∈ text, set c = true) :
    ∀ c ∈ text, c ≠ '[' ∧ c ≠ ']' := by
  intro c hMem
  have hSet := hText c hMem
  constructor
  · rintro rfl
    exact Bool.false_ne_true (hOpen.symm.trans hSet)
  · rintro rfl
    exact Bool.false_ne_true (hClose.symm.trans hSet)

theorem matches_phonePattern
    {before : Option Char}
    {after : List Char}
    (hMatch : Matches phonePattern before text after) :
    ∃ plus first mid last,
      text = plus ++ first :: (mid ++ [last]) ∧
        (∀ c ∈ plus, (c == '+') = true) ∧
        first.isDigit = true ∧
        (∀ c ∈ mid, isPhoneChar c = true) ∧
        last.isDigit = true := by
  simp only [phonePattern, all, matches_seq_iff,
    matches_run_iff, matches_one_iff, matches_many_iff,
    matches_empty_iff] at hMatch
  rcases hMatch with ⟨plus, _, rfl, ⟨hPlus, _⟩, _, _, rfl,
    ⟨first, rfl, hFirst⟩, mid, _, rfl, ⟨hMid, _⟩, _, _, rfl,
    ⟨last, rfl, hLast⟩, rfl⟩
  exact ⟨plus, first, mid, last, by simp, hPlus, hFirst, hMid,
    hLast⟩

theorem matches_emailPattern
    {before : Option Char}
    {after : List Char}
    (hMatch : Matches emailPattern before text after) :
    ∃ local_ domain tail,
      text = local_ ++ '@' :: (domain ++ '.' :: tail) ∧
        (∀ c ∈ local_, isLocalChar c = true) ∧
        (∀ c ∈ domain, isDomainChar c = true) ∧
        (∀ c ∈ tail, c.isAlpha = true) := by
  simp only [emailPattern, all, matches_seq_iff,
    matches_one_iff, matches_many_iff, matches_empty_iff]
    at hMatch
  rcases hMatch with ⟨local_, _, rfl, ⟨hLocal, _⟩, _, _, rfl,
    ⟨at_, rfl, hAt⟩, domain, _, rfl, ⟨hDomain, _⟩, _, _, rfl,
    ⟨dot, rfl, hDot⟩, tail, _, rfl, ⟨hTail, _⟩, rfl⟩
  refine ⟨local_, domain, tail, ?_, hLocal, hDomain, hTail⟩
  rw [eq_of_beq hAt, eq_of_beq hDot]
  simp

/- No digit is in the marker. -/
theorem solid_phonePattern :
    phonePattern.Solid '[' ']' word_ where
  plain := ⟨trivial, trivial, trivial, trivial, trivial⟩
  nonempty := by
    intro before text after hMatch
    rcases matches_phonePattern hMatch with
      ⟨plus, first, mid, last, rfl, _⟩
    simp
  flat := by
    intro before text after hMatch
    rcases matches_phonePattern hMatch with
      ⟨plus, first, mid, last, rfl, hPlus, hFirst, hMid,
        hLast⟩
    have hAll : ∀ c ∈ plus ++ first :: (mid ++ [last]),
        (c == '+' || isPhoneChar c) = true := by
      have hDigit (c : Char) (h : c.isDigit = true) :
          isPhoneChar c = true := by
        simp [isPhoneChar, h]
      simp only [List.forall_mem_append,
        List.forall_mem_cons, Bool.or_eq_true]
      exact ⟨fun c h => Or.inl (hPlus c h),
        Or.inr (hDigit _ hFirst),
        fun c h => Or.inr (hMid c h),
        Or.inr (hDigit _ hLast), fun _ h => by cases h⟩
    exact flat_of_set (by decide) (by decide) hAll
  outside := by
    intro before text after hMatch hInfix
    rcases matches_phonePattern hMatch with
      ⟨plus, first, mid, last, rfl, _, hFirst, _⟩
    have hMem : first ∈ word_ := hInfix.mem (by simp)
    have hNone : word_.all (fun c => ! c.isDigit) = true := by
      decide
    have hNot := List.all_eq_true.mp hNone first hMem
    rw [hFirst] at hNot
    cases hNot

theorem solid_emailPattern :
    emailPattern.Solid '[' ']' word_ where
  plain :=
    ⟨trivial, trivial, trivial, trivial, trivial, trivial⟩
  nonempty := by
    intro before text after hMatch
    rcases matches_emailPattern hMatch with
      ⟨local_, domain, tail, rfl, _⟩
    simp
  flat := by
    intro before text after hMatch
    rcases matches_emailPattern hMatch with
      ⟨local_, domain, tail, rfl, hLocal, hDomain, hTail⟩
    have hAll :
        ∀ c ∈ local_ ++ '@' :: (domain ++ '.' :: tail),
          (isLocalChar c || c == '@') = true := by
      simp only [List.forall_mem_append,
        List.forall_mem_cons, Bool.or_eq_true]
      refine ⟨fun c h => Or.inl (hLocal c h), Or.inr rfl,
        fun c h => Or.inl ?_, Or.inl rfl,
        fun c h => Or.inl ?_⟩
      · have hSet := hDomain c h
        simp only [isDomainChar, Bool.or_eq_true] at hSet
        simp only [isLocalChar, Bool.or_eq_true]
        tauto
      · simp [isLocalChar, Char.isAlphanum, hTail c h]
    exact flat_of_set (by decide) (by decide) hAll
  outside := by
    intro before text after hMatch hInfix
    rcases matches_emailPattern hMatch with
      ⟨local_, domain, tail, rfl, _⟩
    have hMem : '@' ∈ word_ := hInfix.mem (by simp)
    exact absurd hMem (by decide)

theorem anonymous_redactContactInfo (text : String) :
    Anonymous (redactContactInfo text).toList := by
  unfold redactContactInfo Anonymous
  rw [String.toList_ofList, redacted_eq]
  exact ⟨(avoids_replaceAll solid_phonePattern _).replaceAll
    solid_phonePattern emailPattern,
    avoids_replaceAll solid_emailPattern _⟩

theorem redactContactInfo_self
    {text : String}
    (hText : Anonymous text.toList) :
    redactContactInfo text = text := by
  unfold redactContactInfo
  rw [hText.1.replaceAll_self, hText.2.replaceAll_self,
    String.ofList_toList]

/-
  No part of a redacted text is a number or an address, and
  redacting it again changes nothing.
-/
theorem redact_contact_info_complete (text : String) :
    Anonymous (redactContactInfo text).toList ∧
      redactContactInfo (redactContactInfo text) =
        redactContactInfo text :=
  ⟨anonymous_redactContactInfo text,
    redactContactInfo_self (anonymous_redactContactInfo text)⟩

end Orignabase.Validation
