import Mathlib.Data.List.Infix
import Mathlib.Tactic.Cases
import Mathlib.Tactic.SplitIfs

/-
  Replacement of every occurrence of one list in another,
  and what it does between marks.

  Key definitions include:
    * `Replace.all`
    * `Replace.capture`
    * `Replace.lead`, `Replace.pieces`, `Replace.join`

  Main results:
    * `Replace.all_of_not_infix`
    * `Replace.all_join`
    * `Replace.join_inj`
-/

--------
-- Replacement
--------

namespace Replace

variable {α : Type} [DecidableEq α]

/-
  Occurrences are found from the left and do not overlap.
  `skip` counts what is left of one that has been replaced.
-/
def go (pat by_ : List α) : ℕ → List α → List α
  | _, [] => []
  | skip + 1, _ :: s => go pat by_ skip s
  | 0, c :: s =>
    if pat <+: c :: s then
      by_ ++ go pat by_ (pat.length - 1) s
    else c :: go pat by_ 0 s

/- Replace every occurrence of a list that is not empty. -/
def all (pat by_ s : List α) : List α :=
  go pat by_ 0 s

/- What follows a mark, when a list after it is replaced. -/
def capture (pat by_ piece : List α) : List α :=
  if pat <+: piece then by_ ++ piece.drop pat.length
  else piece

end Replace

--------
-- Occurrences
--------

namespace Replace

variable {α : Type} [DecidableEq α] {pat by_ : List α}

theorem go_eq_drop (skip : ℕ) (s : List α) :
    go pat by_ skip s = all pat by_ (s.drop skip) := by
  induction s generalizing skip with
  | nil => cases skip <;> rfl
  | cons c s ih =>
    cases skip with
    | zero => rfl
    | succ skip => exact ih skip

@[simp] theorem all_nil : all pat by_ ([] : List α) = [] :=
  rfl

/- An occurrence in front is replaced first. -/
theorem all_append
    (hNonempty : pat ≠ [])
    (s : List α) :
    all pat by_ (pat ++ s) = by_ ++ all pat by_ s := by
  cases pat with
  | nil => exact absurd rfl hNonempty
  | cons c pat =>
    rw [List.cons_append, all, go,
      if_pos ⟨s, List.cons_append⟩, go_eq_drop]
    simp

theorem all_cons_of_not_front
    {c : α}
    {s : List α}
    (hNot : ¬ pat <+: c :: s) :
    all pat by_ (c :: s) = c :: all pat by_ s := by
  rw [all, go, if_neg hNot]
  rfl

/- A text without the list is left alone. -/
theorem all_of_not_infix
    {s : List α}
    (hNot : ¬ pat <:+: s) :
    all pat by_ s = s := by
  induction s with
  | nil => rfl
  | cons c s ih =>
    have hPrefix : ¬ pat <+: c :: s := fun hPrefix =>
      hNot hPrefix.isInfix
    have hRest : ¬ pat <:+: s := fun hInfix =>
      hNot (List.infix_cons hInfix)
    rw [all_cons_of_not_front hPrefix, ih hRest]

end Replace

--------
-- Pieces Between Marks
--------

namespace Replace

variable {α : Type} [DecidableEq α] {mark : α}
variable {pat by_ : List α}

/- Nothing starts before the first mark. -/
theorem all_append_of_not_mem
    {front : List α}
    (hFront : mark ∉ front)
    (s : List α) :
    all (mark :: pat) by_ (front ++ s) =
      front ++ all (mark :: pat) by_ s := by
  induction front with
  | nil => rfl
  | cons c front ih =>
    rw [List.mem_cons, not_or] at hFront
    have hNot : ¬ mark :: pat <+: c :: (front ++ s) := by
      rw [List.cons_prefix_cons]
      exact fun hBoth => hFront.1 hBoth.1
    rw [List.cons_append, all_cons_of_not_front hNot,
      ih hFront.2, List.cons_append]

/- A list without the mark ends before the next one. -/
omit [DecidableEq α] in
theorem prefix_append_mark_iff
    {piece s : List α}
    (hPat : mark ∉ pat)
    (hRest : s = [] ∨ ∃ rest, s = mark :: rest) :
    pat <+: piece ++ s ↔ pat <+: piece := by
  constructor
  · intro hPrefix
    rcases List.prefix_or_prefix_of_prefix hPrefix
      (List.prefix_append piece s) with hIn | hOut
    · exact hIn
    · -- The list would reach over the mark.
      rcases hOut with ⟨more, rfl⟩
      rw [List.prefix_append_right_inj] at hPrefix
      rcases hRest with rfl | ⟨rest, rfl⟩
      · rw [List.prefix_nil.mp hPrefix, List.append_nil]
      · cases more with
        | nil => rw [List.append_nil]
        | cons c more =>
          rw [List.cons_prefix_cons] at hPrefix
          rw [hPrefix.1] at hPat
          simp at hPat
  · intro hPrefix
    exact hPrefix.trans (List.prefix_append piece s)

omit [DecidableEq α] in
theorem flatMap_mark_cases (rest : List (List α)) :
    rest.flatMap (mark :: ·) = [] ∨
      ∃ more, rest.flatMap (mark :: ·) = mark :: more := by
  cases rest with
  | nil => exact Or.inl rfl
  | cons piece rest =>
    exact Or.inr ⟨_, List.flatMap_cons⟩

/- Each piece is captured alone. -/
theorem all_flatMap
    {rest : List (List α)}
    (hPat : mark ∉ pat)
    (hRest : ∀ piece ∈ rest, mark ∉ piece) :
    all (mark :: pat) (mark :: by_)
        (rest.flatMap (mark :: ·)) =
      (rest.map (capture pat by_)).flatMap (mark :: ·) := by
  induction rest with
  | nil => rfl
  | cons piece rest ih =>
    rw [List.forall_mem_cons] at hRest
    have ih := ih hRest.2
    rw [List.flatMap_cons, List.map_cons, List.flatMap_cons,
      ← ih]
    have hOver :
        pat <+: piece ++ rest.flatMap (mark :: ·) ↔
          pat <+: piece :=
      prefix_append_mark_iff hPat (flatMap_mark_cases rest)
    unfold capture
    split_ifs with hPrefix
    · rcases hPrefix with ⟨tail, rfl⟩
      rw [List.mem_append, not_or] at hRest
      rw [List.drop_left, List.cons_append,
        List.append_assoc, ← List.cons_append,
        all_append (List.cons_ne_nil _ _),
        all_append_of_not_mem hRest.1.2]
      simp
    · have hNot :
          ¬ mark :: pat <+:
            mark :: (piece ++ rest.flatMap (mark :: ·)) := by
        rw [List.cons_prefix_cons, hOver]
        exact fun hBoth => hPrefix hBoth.2
      rw [List.cons_append, all_cons_of_not_front hNot,
        all_append_of_not_mem hRest.1, List.cons_append]

end Replace

--------
-- Texts by Their Pieces
--------

namespace Replace

variable {α : Type}

/- Pieces with a mark in front of each, after a first one. -/
def join
    (mark : α)
    (first : List α)
    (rest : List (List α)) : List α :=
  first ++ rest.flatMap (mark :: ·)

theorem join_eq_intercalate
    (mark : α)
    (first : List α)
    (rest : List (List α)) :
    join mark first rest =
      [mark].intercalate (first :: rest) := by
  unfold join
  induction rest generalizing first with
  | nil => simp
  | cons piece rest ih =>
    rw [List.intercalate_cons_cons, ← ih]
    simp

variable [DecidableEq α] {mark : α}

/- What stands before the first mark. -/
def lead (mark : α) (s : List α) : List α :=
  (s.splitOn mark).headD []

/- What stands after each mark, up to the next one. -/
def pieces (mark : α) (s : List α) : List (List α) :=
  (s.splitOn mark).tail

theorem splitOn_eq (mark : α) (s : List α) :
    s.splitOn mark = lead mark s :: pieces mark s := by
  unfold lead pieces
  cases hSplit : s.splitOn mark with
  | nil => exact absurd hSplit (List.splitOn_ne_nil mark s)
  | cons first rest => rfl

@[simp] theorem join_pieces (mark : α) (s : List α) :
    join mark (lead mark s) (pieces mark s) = s := by
  rw [join_eq_intercalate, ← splitOn_eq,
    List.intercalate_splitOn]

theorem not_mem_splitOn {s : List α} :
    ∀ piece ∈ s.splitOn mark, mark ∉ piece := by
  induction s with
  | nil => simp [List.splitOn_nil]
  | cons c s ih =>
    rw [List.splitOn_cons_eq_if_modifyHead]
    rw [splitOn_eq, List.forall_mem_cons] at ih
    split_ifs with hMark
    · rw [splitOn_eq, List.forall_mem_cons,
        List.forall_mem_cons]
      exact ⟨List.not_mem_nil, ih⟩
    · rw [splitOn_eq, List.modifyHead_cons,
        List.forall_mem_cons, List.mem_cons, not_or]
      refine ⟨⟨?_, ih.1⟩, ih.2⟩
      rintro rfl
      exact hMark (beq_self_eq_true _)

theorem not_mem_lead (mark : α) (s : List α) :
    mark ∉ lead mark s := by
  apply not_mem_splitOn (s := s)
  rw [splitOn_eq]
  exact List.mem_cons_self

theorem not_mem_pieces (mark : α) (s : List α) :
    ∀ piece ∈ pieces mark s, mark ∉ piece := by
  intro piece hPiece
  apply not_mem_splitOn (s := s)
  rw [splitOn_eq]
  exact List.mem_cons_of_mem _ hPiece

/- Pieces without marks can be told from what they make. -/
theorem join_inj
    {first : List α}
    {rest rest' : List (List α)}
    (hFirst : mark ∉ first)
    (hRest : ∀ piece ∈ rest, mark ∉ piece)
    (hRest' : ∀ piece ∈ rest', mark ∉ piece) :
    join mark first rest = join mark first rest' ↔
      rest = rest' := by
  constructor
  · intro hSame
    rw [join_eq_intercalate, join_eq_intercalate] at hSame
    have hSplit := congrArg (List.splitOn mark) hSame
    rw [List.splitOn_intercalate mark
        (List.forall_mem_cons.mpr ⟨hFirst, hRest⟩)
        (List.cons_ne_nil _ _),
      List.splitOn_intercalate mark
        (List.forall_mem_cons.mpr ⟨hFirst, hRest'⟩)
        (List.cons_ne_nil _ _)] at hSplit
    exact (List.cons.inj hSplit).2
  · rintro rfl
    rfl

/-
  A list that starts with a mark, and has no other, is
  replaced in each piece of a text by itself.
-/
theorem all_join
    {pat by_ first : List α}
    {rest : List (List α)}
    (hPat : mark ∉ pat)
    (hFirst : mark ∉ first)
    (hRest : ∀ piece ∈ rest, mark ∉ piece) :
    all (mark :: pat) (mark :: by_) (join mark first rest) =
      join mark first (rest.map (capture pat by_)) := by
  unfold join
  rw [all_append_of_not_mem hFirst, all_flatMap hPat hRest]

end Replace
