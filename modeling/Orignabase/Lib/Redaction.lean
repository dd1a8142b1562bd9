import Mathlib.Data.List.Infix
import Orignabase.Lib.Regex

/-
  What is left where every match of an expression has been
  replaced by a marker in brackets.

  The texts that are looked for hold no bracket and do not
  lie within the marker.  So they can only lie between two
  replaced matches, where nothing was found.

  Key definitions include:
    * `Regex.Plain`
    * `Regex.Solid`
    * `Regex.Avoids`

  Main results:
    * `Regex.avoids_replaceAll`
    * `Regex.Avoids.replaceAll`
    * `Regex.Avoids.replaceAll_self`
-/

--------
-- Expressions without Boundaries
--------

namespace Regex

/- No part of the expression looks at its neighbours. -/
def Plain : Regex → Prop
  | .empty => True
  | .run .. => True
  | .boundary => False
  | .seq first second => first.Plain ∧ second.Plain
  | .alt first second => first.Plain ∧ second.Plain

theorem Matches.elsewhere
    {r : Regex}
    {before before' : Option Char}
    {text after after' : List Char}
    (hPlain : r.Plain)
    (hMatch : Matches r before text after) :
    Matches r before' text after' := by
  induction hMatch generalizing before' after' with
  | empty => exact .empty
  | run hSet hLeast hMost => exact .run hSet hLeast hMost
  | boundary => exact hPlain.elim
  | seq _ _ ihFirst ihSecond =>
    exact .seq (ihFirst hPlain.1) (ihSecond hPlain.2)
  | left _ ih => exact .left (ih hPlain.1)
  | right _ ih => exact .right (ih hPlain.2)

/-
  The matches are not empty, hold no bracket and do not lie
  within the marker.
-/
structure Solid
    (open_ close : Char)
    (inner : List Char)
    (r : Regex) : Prop where
  plain : r.Plain
  nonempty :
    ∀ before text after, Matches r before text after →
      text ≠ []
  flat :
    ∀ before text after, Matches r before text after →
      ∀ c ∈ text, c ≠ open_ ∧ c ≠ close
  outside :
    ∀ before text after, Matches r before text after →
      ¬ text <:+: inner

/- No part of the text is matched. -/
def Avoids (r : Regex) (text : List Char) : Prop :=
  ∀ before mid after, mid <:+: text →
    ¬ Matches r before mid after

--------
-- Between the Markers
--------

section

variable {r s : Regex} {open_ close : Char}
variable {inner text front mid back : List Char}
variable {before : Option Char}

/- A text is replaced by this. -/
def marked
    (open_ close : Char)
    (inner : List Char) : List Char → List Char :=
  fun _ => open_ :: (inner ++ [close])

/- No match that is not empty is found here. -/
def Missed
    (r : Regex)
    (before : Option Char)
    (text : List Char) : Prop :=
  ∀ n, r.find before text ≠ some (n + 1)

/- What stands before the first marker was there before. -/
theorem front_of_replaceFrom
    (hFlat : ∀ c ∈ mid, c ≠ open_ ∧ c ≠ close)
    (hResult :
      r.replaceFrom (marked open_ close inner) 0 before
        text = mid ++ back) :
    ∃ rest, text = mid ++ rest := by
  induction mid generalizing before text with
  | nil => exact ⟨text, rfl⟩
  | cons c mid ih =>
    rcases List.forall_mem_cons.mp hFlat with ⟨hC, hRest⟩
    cases text with
    | nil => cases hResult
    | cons d text =>
      unfold replaceFrom at hResult
      split at hResult
      · exact absurd (List.cons.inj hResult).1.symm hC.1
      · rcases List.cons.inj hResult with ⟨rfl, hTail⟩
        rcases ih hRest hTail with ⟨rest, rfl⟩
        exact ⟨rest, rfl⟩

/- A text without brackets beside a marker. -/
theorem infix_marked
    {tail : List Char}
    (hNonempty : mid ≠ [])
    (hFlat : ∀ c ∈ mid, c ≠ open_ ∧ c ≠ close)
    (hSame :
      open_ :: (inner ++ close :: tail) =
        front ++ (mid ++ back)) :
    mid <:+: inner ∨
      ∃ later, tail = later ++ (mid ++ back) := by
  have hClose : close ∉ mid := fun h => (hFlat _ h).2 rfl
  cases front with
  | nil =>
    cases mid with
    | nil => exact absurd rfl hNonempty
    | cons c mid =>
      have hFirst := (List.cons.inj hSame).1
      exact absurd hFirst.symm (hFlat c List.mem_cons_self).1
  | cons d front =>
    have hRest :
        inner ++ close :: tail = (front ++ mid) ++ back := by
      rw [List.append_assoc]
      exact (List.cons.inj hSame).2
    rcases List.append_eq_append_iff.mp hRest with
      ⟨u, hFront, hTail⟩ | ⟨u, hInner, _⟩
    · cases u with
      | nil =>
        rw [List.append_nil] at hFront
        exact Or.inl ⟨front, [], by rw [hFront]; simp⟩
      | cons e u =>
        rcases List.cons.inj hTail with ⟨rfl, rfl⟩
        rcases List.append_eq_append_iff.mp hFront with
          ⟨v, _, hMid⟩ | ⟨v, _, hOver⟩
        · rw [hMid] at hClose
          simp at hClose
        · cases v with
          | nil =>
            rw [List.nil_append] at hOver
            exact absurd (hOver ▸ List.mem_cons_self) hClose
          | cons e v =>
            have hRest : u = v ++ mid := (List.cons.inj hOver).2
            refine Or.inr ⟨v, ?_⟩
            rw [hRest]
            exact List.append_assoc v mid back
    · exact Or.inl ⟨front, u, hInner.symm⟩

/-
  A text without brackets in the result lies within a marker,
  or in the original at a place where nothing was found.
-/
theorem infix_replaceFrom
    {skip : ℕ}
    (hNonempty : mid ≠ [])
    (hFlat : ∀ c ∈ mid, c ≠ open_ ∧ c ≠ close)
    (hResult :
      r.replaceFrom (marked open_ close inner) skip before
        text = front ++ mid ++ back) :
    mid <:+: inner ∨
      ∃ past rest last, text = past ++ (mid ++ rest) ∧
        r.Missed last (mid ++ rest) := by
  induction text generalizing skip before front with
  | nil =>
    cases skip <;> simp [replaceFrom, hNonempty] at hResult
  | cons c text ih =>
    have hLater {skip : ℕ} {before : Option Char}
        {front : List Char}
        (hTail :
          r.replaceFrom (marked open_ close inner) skip before
            text = front ++ mid ++ back) :
        mid <:+: inner ∨
          ∃ past rest last, c :: text = past ++ (mid ++ rest) ∧
            r.Missed last (mid ++ rest) := by
      rcases ih hTail with
        hInner | ⟨past, rest, last, hText, hMissed⟩
      · exact Or.inl hInner
      · exact Or.inr ⟨c :: past, rest, last,
          congrArg (c :: ·) hText, hMissed⟩
    cases skip with
    | succ skip => exact hLater hResult
    | zero =>
      have hWhole := hResult
      unfold replaceFrom at hResult
      split at hResult
      · unfold marked at hResult
        rw [List.cons_append, List.append_assoc,
          List.append_assoc] at hResult
        rcases infix_marked hNonempty hFlat hResult with
          hInner | ⟨later, hTail⟩
        · exact Or.inl hInner
        · rw [← List.append_assoc] at hTail
          exact hLater hTail
      · rename_i hNone
        cases front with
        | nil =>
          rcases front_of_replaceFrom hFlat hWhole with
            ⟨rest, hText⟩
          refine Or.inr ⟨[], rest, before, hText, ?_⟩
          intro n hFind
          rw [← hText] at hFind
          exact hNone n hFind
        | cons d front =>
          exact hLater (List.cons.inj hResult).2

/- Nothing that is matched is left. -/
theorem avoids_replaceAll
    (hSolid : r.Solid open_ close inner)
    (text : List Char) :
    r.Avoids
      (r.replaceAll (marked open_ close inner) text) := by
  rintro before mid after ⟨front, back, hText⟩ hMatch
  rcases infix_replaceFrom (hSolid.nonempty _ _ _ hMatch)
      (hSolid.flat _ _ _ hMatch) hText.symm with
    hInner | ⟨past, rest, last, _, hMissed⟩
  · exact hSolid.outside _ _ _ hMatch hInner
  · have hMem := mem_ends_of_matches
      (hMatch.elsewhere hSolid.plain :
        Matches r last mid rest)
    cases hFind : r.find last (mid ++ rest) with
    | none =>
      unfold find at hFind
      rw [List.head?_eq_none_iff.mp hFind] at hMem
      cases hMem
    | some n =>
      rcases matches_of_mem_ends (List.mem_of_head? hFind)
        with ⟨found, _, _, hLength, hFound⟩
      cases n with
      | zero =>
        exact hSolid.nonempty _ _ _ hFound
          (List.eq_nil_of_length_eq_zero hLength)
      | succ n => exact hMissed n hFind

/- What was not there before does not come into being. -/
theorem Avoids.replaceAll
    (hAvoids : s.Avoids text)
    (hSolid : s.Solid open_ close inner)
    (r : Regex) :
    s.Avoids
      (r.replaceAll (marked open_ close inner) text) := by
  rintro before mid after ⟨front, back, hText⟩ hMatch
  rcases infix_replaceFrom (hSolid.nonempty _ _ _ hMatch)
      (hSolid.flat _ _ _ hMatch) hText.symm with
    hInner | ⟨past, rest, _, hBefore, _⟩
  · exact hSolid.outside _ _ _ hMatch hInner
  · refine hAvoids _ mid _ ⟨past, rest, ?_⟩ hMatch
    rw [hBefore, List.append_assoc]

theorem Avoids.replaceFrom_self
    {by_ : List Char → List Char}
    (hAvoids : r.Avoids text) :
    r.replaceFrom by_ 0 before text = text := by
  induction text generalizing before with
  | nil => rfl
  | cons c text ih =>
    unfold replaceFrom
    split
    · rename_i n hFind
      rcases matches_of_mem_ends (List.mem_of_head? hFind)
        with ⟨mid, after, hText, _, hMatch⟩
      exact absurd hMatch
        (hAvoids _ mid _ ⟨[], after, hText.symm⟩)
    · have hTail : r.Avoids text := by
        intro last mid after hInfix
        exact hAvoids last mid after
          (hInfix.trans (List.suffix_cons c text).isInfix)
      rw [ih hTail]

theorem Avoids.replaceAll_self
    (hAvoids : r.Avoids text)
    (by_ : List Char → List Char) :
    r.replaceAll by_ text = text :=
  hAvoids.replaceFrom_self

end

end Regex
