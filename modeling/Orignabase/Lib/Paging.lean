import Mathlib.Data.List.Nodup
import Mathlib.Data.List.Perm.Basic
import Mathlib.Tactic.Cases

/-
  Pages of a list that a client asks for one after the other,
  by the number of items it has or by the last item it has.

  Key definitions include:
    * `OffsetPages`
    * `CursorPages`
    * `Splits`

  Main results:
    * `OffsetPages.perm_iff`
    * `CursorPages.perm_of_splits`
    * `CursorPages.splits_of_perm`
-/

--------
-- Pages by Offset
--------

namespace Paging

section

variable {α : Type} {keep : α → Bool} {size : Nat}

/-
  The client is given the first items that are kept, then
  goes on after as many rows as it has items.  A short page
  is the last one.
-/
inductive OffsetPages (keep : α → Bool) (size : Nat) :
    List α → List α → Prop
  | last
      {rows : List α}
      (hShort :
        ((rows.filter keep).take size).length < size) :
      OffsetPages keep size rows
        ((rows.filter keep).take size)
  | more
      {rows rest : List α}
      (hFull :
        ((rows.filter keep).take size).length = size)
      (hRest :
        OffsetPages keep size (rows.drop size) rest) :
      OffsetPages keep size rows
        ((rows.filter keep).take size ++ rest)

theorem OffsetPages.exists
    (hSize : 0 < size)
    (rows : List α) :
    ∃ result, OffsetPages keep size rows result := by
  induction hLength : rows.length using Nat.strongRecOn
    generalizing rows with
  | ind n ih =>
    by_cases hShort :
        ((rows.filter keep).take size).length < size
    · exact ⟨_, .last hShort⟩
    · have hFull :
          ((rows.filter keep).take size).length = size := by
        have hLe := List.length_take_le size
          (rows.filter keep)
        omega
      have hRows : 0 < rows.length := by
        have hKept := List.length_filter_le keep rows
        rw [List.length_take] at hFull
        omega
      rcases ih (rows.drop size).length
          (by rw [List.length_drop]; omega) _ rfl with
        ⟨rest, hRest⟩
      exact ⟨_, .more hFull hRest⟩

variable {rows result : List α}

theorem OffsetPages.unique
    {other : List α}
    (hPages : OffsetPages keep size rows result)
    (hOther : OffsetPages keep size rows other) :
    result = other := by
  induction hPages generalizing other with
  | last hShort =>
    cases hOther with
    | last _ => rfl
    | more hFull _ => omega
  | more hFull _ ih =>
    cases hOther with
    | last hShort => omega
    | more _ hRest => rw [ih hRest]

theorem OffsetPages.subset
    (hPages : OffsetPages keep size rows result) :
    ∀ d ∈ result, d ∈ rows := by
  have hPage :
      ∀ {rows : List α} {d : α},
        d ∈ (rows.filter keep).take size → d ∈ rows :=
    fun hMem =>
      (List.mem_filter.mp (List.mem_of_mem_take hMem)).1
  induction hPages with
  | last _ => exact fun d hMem => hPage hMem
  | more _ _ ih =>
    intro d hMem
    rcases List.mem_append.mp hMem with hFirst | hRest
    · exact hPage hFirst
    · exact List.mem_of_mem_drop (ih d hRest)

theorem OffsetPages.first_page
    (hPages : OffsetPages keep size rows result) :
    (rows.filter keep).take size <+: result := by
  cases hPages with
  | last _ => exact List.prefix_rfl
  | more _ _ => exact List.prefix_append _ _

/- A page of rows that are all kept is that many rows. -/
theorem take_filter_of_all
    (hLength : size ≤ rows.length)
    (hAll : ∀ row ∈ rows.take size, keep row = true) :
    (rows.filter keep).take size = rows.take size := by
  have hSplit :
      rows.filter keep =
        rows.take size ++ (rows.drop size).filter keep := by
    conv => lhs; rw [← List.take_append_drop size rows]
    rw [List.filter_append, List.filter_eq_self.mpr hAll]
  rw [hSplit]
  apply List.take_left'
  rw [List.length_take]
  omega

/- Otherwise the page reaches beyond that many rows. -/
theorem page_beyond
    (hFull : size ≤ (rows.filter keep).length)
    (hNot : ¬ ∀ row ∈ rows.take size, keep row = true) :
    ∃ row rest,
      (rows.drop size).filter keep = row :: rest ∧
        row ∈ (rows.filter keep).take size := by
  have hSplit :
      rows.filter keep = (rows.take size).filter keep ++
          (rows.drop size).filter keep := by
    rw [← List.filter_append, List.take_append_drop]
  have hFew :
      ((rows.take size).filter keep).length < size := by
    have hLess :
        ((rows.take size).filter keep).length <
          (rows.take size).length := by
      rw [List.length_filter_lt_length_iff_exists]
      simpa using hNot
    have hTake := List.length_take_le size rows
    omega
  cases hRest : (rows.drop size).filter keep with
  | nil =>
    rw [hSplit, hRest, List.append_nil] at hFull
    omega
  | cons row rest =>
    refine ⟨row, rest, rfl, ?_⟩
    rw [hSplit, hRest, List.take_append, List.mem_append]
    refine Or.inr ?_
    rw [List.take_cons (by omega)]
    exact List.mem_cons_self

/-
  The client is given every kept item once exactly if all
  rows are kept up to its last full page.
-/
theorem OffsetPages.perm_iff
    (hSize : 0 < size)
    (hPages : OffsetPages keep size rows result)
    (hNodup : rows.Nodup) :
    result.Perm (rows.filter keep) ↔ ∀ row ∈ rows.take
          (size * ((rows.filter keep).length / size)),
        keep row = true := by
  induction hPages with
  | @last rows hShort =>
    rw [List.length_take] at hShort
    have hFew : (rows.filter keep).length < size := by omega
    rw [List.take_of_length_le (Nat.le_of_lt hFew),
      Nat.div_eq_of_lt hFew]
    simp
  | @more rows rest hFull hRest ih =>
    rw [List.length_take] at hFull
    have hMany : size ≤ (rows.filter keep).length := by omega
    have hRows : size ≤ rows.length :=
      Nat.le_trans hMany (List.length_filter_le keep rows)
    have hPages : 0 < (rows.filter keep).length / size :=
      Nat.div_pos hMany hSize
    by_cases hAll : ∀ row ∈ rows.take size, keep row = true
    · -- The page is a part of the rows; so is the rest.
      have hSplit :
          rows.filter keep = rows.take size ++
              (rows.drop size).filter keep := by
        conv => lhs; rw [← List.take_append_drop size rows]
        rw [List.filter_append,
          List.filter_eq_self.mpr hAll]
      have hCount :
          (rows.filter keep).length =
            ((rows.drop size).filter keep).length +
              size := by
        rw [hSplit, List.length_append, List.length_take]
        omega
      rw [take_filter_of_all hRows hAll, hCount,
        Nat.add_div_right _ hSize, Nat.mul_succ,
        Nat.add_comm (size * _) size]
      conv => lhs; rw [hSplit]
      rw [List.perm_append_left_iff,
        ih (hNodup.sublist (List.drop_sublist _ _)),
        List.take_add, List.forall_mem_append]
      exact (and_iff_right hAll).symm
    · refine iff_of_false ?_ ?_
      · -- The first row beyond is on both pages.
        intro hPerm
        rcases page_beyond hMany hAll with
          ⟨row, more, hBeyond, hPage⟩
        have hTwice :=
          hPerm.nodup_iff.mpr (hNodup.filter keep)
        have hAgain : row ∈ rest := by
          apply hRest.first_page.subset
          rw [hBeyond, List.take_cons hSize]
          exact List.mem_cons_self
        exact (List.nodup_append.mp hTwice).2.2 row hPage
          row hAgain rfl
      · intro hKept
        apply hAll
        intro row hMem
        apply hKept
        refine List.mem_of_mem_take
          (?_ : row ∈ (rows.take _).take size)
        rw [List.take_take, Nat.min_eq_left
          (Nat.le_mul_of_pos_right size hPages)]
        exact hMem

end

--------
-- Pages by Cursor
--------

section

variable {α : Type} {docs : List α} {after : α → α → Bool}
variable {next : α → List α} {size : Nat}

/-
  Queries by a cursor: all items after the cursor, in some
  order of each query.
-/
structure Cursors
    (docs : List α)
    (after : α → α → Bool)
    (next : α → List α) : Prop where
  nodup : docs.Nodup
  found :
    ∀ c ∈ docs, (next c).Perm (docs.filter (after c))
  irrefl : ∀ c, after c c = false
  trans :
    ∀ a b c, after a b = true → after b c = true →
      after a c = true

/-
  The client is given the first rows of a query and goes on
  after the last of them, until a page is empty.
-/
inductive CursorPages (next : α → List α) (size : Nat) :
    List α → List α → Prop
  | done : CursorPages next size [] []
  | more
      {rows rest : List α}
      {last : α}
      (hLast : (rows.take size).getLast? = some last)
      (hRest : CursorPages next size (next last) rest) :
      CursorPages next size rows (rows.take size ++ rest)

/-
  On every page are the rows up to its last one, and what is
  left comes after that one.
-/
inductive Splits
    (after : α → α → Bool)
    (next : α → List α)
    (size : Nat) : List α → Prop
  | done : Splits after next size []
  | more
      {rows : List α}
      {last : α}
      (hLast : (rows.take size).getLast? = some last)
      (hBefore :
        ∀ d ∈ rows.take size, after last d = false)
      (hAfter :
        ∀ d ∈ rows.drop size, after last d = true)
      (hRest : Splits after next size (next last)) :
      Splits after next size rows

/- Rows with all that comes after one of them. -/
structure Upper
    (docs : List α)
    (after : α → α → Bool)
    (rows : List α) : Prop where
  nodup : rows.Nodup
  subset : ∀ d ∈ rows, d ∈ docs
  closed :
    ∀ c ∈ rows, ∀ d ∈ docs, after c d = true → d ∈ rows

namespace Cursors

variable (hCursors : Cursors docs after next)

include hCursors

variable {c : α} {rows result : List α}

theorem mem_next
    {d : α}
    (hMem : c ∈ docs) :
    d ∈ next c ↔ d ∈ docs ∧ after c d = true := by
  rw [(hCursors.found c hMem).mem_iff, List.mem_filter]

theorem upper_next
    (hMem : c ∈ docs) :
    Upper docs after (next c) where
  nodup := (hCursors.found c hMem).nodup_iff.mpr
      (hCursors.nodup.filter _)
  subset := fun d hNext =>
    ((hCursors.mem_next hMem).mp hNext).1
  closed := by
    intro x hNext d hDoc hAfter
    rw [hCursors.mem_next hMem] at hNext ⊢
    exact ⟨hDoc, hCursors.trans _ _ _ hNext.2 hAfter⟩

theorem upper_of_perm
    (hPerm : rows.Perm docs) :
    Upper docs after rows where
  nodup := hPerm.nodup_iff.mpr hCursors.nodup
  subset := fun _ hMem => hPerm.mem_iff.mp hMem
  closed := fun _ _ _ hDoc _ => hPerm.mem_iff.mpr hDoc

/- What comes after a page that splits is what is left. -/
theorem next_perm_drop
    {last : α}
    (hUpper : Upper docs after rows)
    (hLast : (rows.take size).getLast? = some last)
    (hBefore : ∀ d ∈ rows.take size, after last d = false)
    (hAfter : ∀ d ∈ rows.drop size, after last d = true) :
    (next last).Perm (rows.drop size) := by
  have hRow : last ∈ rows :=
    List.mem_of_mem_take (List.mem_of_getLast? hLast)
  have hDoc := hUpper.subset last hRow
  refine (List.perm_ext_iff_of_nodup
    (hCursors.upper_next hDoc).nodup
    (hUpper.nodup.sublist (List.drop_sublist _ _))).mpr ?_
  intro d
  rw [hCursors.mem_next hDoc]
  constructor
  · rintro ⟨hMem, hLater⟩
    have hIn := hUpper.closed last hRow d hMem hLater
    rw [← List.take_append_drop size rows,
      List.mem_append] at hIn
    refine hIn.resolve_left ?_
    intro hPage
    rw [hBefore d hPage] at hLater
    cases hLater
  · intro hDrop
    exact ⟨hUpper.subset d (List.mem_of_mem_drop hDrop),
      hAfter d hDrop⟩

/- The client comes to an end. -/
theorem exists_pages_next
    (hSize : 0 < size)
    (hMem : c ∈ docs) :
    ∃ result, CursorPages next size (next c) result := by
  induction hLength : (next c).length using Nat.strongRecOn
    generalizing c with
  | ind n ih =>
    cases hLast : ((next c).take size).getLast? with
    | none =>
      have hNone : next c = [] := by
        rw [List.getLast?_eq_none_iff,
          List.take_eq_nil_iff] at hLast
        exact hLast.resolve_left (by omega)
      exact ⟨[], by rw [hNone]; exact .done⟩
    | some last =>
      have hRow : last ∈ next c :=
        List.mem_of_mem_take (List.mem_of_getLast? hLast)
      have hLater := (hCursors.mem_next hMem).mp hRow
      -- `last` itself does not come again.
      have hFewer : (next last).length < n := by
        rw [← hLength,
          (hCursors.found last hLater.1).length_eq,
          (hCursors.found c hMem).length_eq]
        have hSame :
            docs.filter (after last) =
              (docs.filter (after c)).filter
                (after last) := by
          rw [List.filter_filter]
          apply List.filter_congr
          intro d _
          cases hD : after last d with
          | false => rfl
          | true =>
            rw [hCursors.trans _ _ _ hLater.2 hD]
            rfl
        rw [hSame, List.length_filter_lt_length_iff_exists]
        refine ⟨last, List.mem_filter.mpr hLater, ?_⟩
        rw [hCursors.irrefl]
        exact Bool.false_ne_true
      rcases ih _ hFewer hLater.1 rfl with ⟨rest, hRest⟩
      exact ⟨_, .more hLast hRest⟩

theorem exists_pages
    (hSize : 0 < size)
    (hUpper : Upper docs after rows) :
    ∃ result, CursorPages next size rows result := by
  cases hLast : (rows.take size).getLast? with
  | none =>
    have hNone : rows = [] := by
      rw [List.getLast?_eq_none_iff,
        List.take_eq_nil_iff] at hLast
      exact hLast.resolve_left (by omega)
    exact ⟨[], by rw [hNone]; exact .done⟩
  | some last =>
    have hRow : last ∈ rows :=
      List.mem_of_mem_take (List.mem_of_getLast? hLast)
    rcases hCursors.exists_pages_next hSize
        (hUpper.subset last hRow) with
      ⟨rest, hRest⟩
    exact ⟨_, .more hLast hRest⟩

theorem pages_subset
    (hPages : CursorPages next size rows result)
    (hUpper : Upper docs after rows) :
    ∀ d ∈ result, d ∈ rows := by
  induction hPages with
  | done => exact fun _ h => h
  | @more rows rest last hLast _ ih =>
    intro d hMem
    have hRow : last ∈ rows :=
      List.mem_of_mem_take (List.mem_of_getLast? hLast)
    have hDoc := hUpper.subset last hRow
    rcases List.mem_append.mp hMem with hPage | hRest
    · exact List.mem_of_mem_take hPage
    · have hNext := ih (hCursors.upper_next hDoc) d hRest
      rw [hCursors.mem_next hDoc] at hNext
      exact hUpper.closed last hRow d hNext.1 hNext.2

/- Pages that split give every item once. -/
theorem perm_of_splits
    (hPages : CursorPages next size rows result)
    (hUpper : Upper docs after rows)
    (hSplits : Splits after next size rows) :
    result.Perm rows := by
  induction hPages with
  | done => exact List.Perm.refl _
  | @more rows rest last hLast _ ih =>
    cases hSplits with
    | done => simp at hLast
    | @more _ other hOther hBefore hAfter hRest =>
      rw [hLast] at hOther
      cases hOther
      have hRow : last ∈ rows :=
        List.mem_of_mem_take (List.mem_of_getLast? hLast)
      have hNext := ih
        (hCursors.upper_next (hUpper.subset last hRow))
        hRest
      have hLeft := hCursors.next_perm_drop hUpper hLast
        hBefore hAfter
      conv => rhs; rw [← List.take_append_drop size rows]
      exact List.Perm.append_left _ (hNext.trans hLeft)

/-
  If no page has anything that comes after its last item,
  the converse holds.
-/
theorem splits_of_perm
    {Good : List α → Prop}
    (hGood :
      ∀ rows, Good rows → ∀ last,
        (rows.take size).getLast? = some last →
          ∀ d ∈ rows.take size, after last d = false)
    (hNextGood : ∀ c ∈ docs, Good (next c))
    (hPages : CursorPages next size rows result)
    (hUpper : Upper docs after rows)
    (hRows : Good rows)
    (hPerm : result.Perm rows) :
    Splits after next size rows := by
  induction hPages with
  | done => exact .done
  | @more rows rest last hLast hRest ih =>
    have hRow : last ∈ rows :=
      List.mem_of_mem_take (List.mem_of_getLast? hLast)
    have hDoc := hUpper.subset last hRow
    have hNextUpper := hCursors.upper_next hDoc
    have hDrop : rest.Perm (rows.drop size) := by
      rw [← List.perm_append_left_iff (rows.take size),
        List.take_append_drop]
      exact hPerm
    have hBefore := hGood rows hRows last hLast
    have hAfter :
        ∀ d ∈ rows.drop size, after last d = true := by
      intro d hMem
      have hNext := hCursors.pages_subset hRest hNextUpper d
        (hDrop.mem_iff.mpr hMem)
      exact ((hCursors.mem_next hDoc).mp hNext).2
    have hLeft := hCursors.next_perm_drop hUpper hLast
      hBefore hAfter
    exact .more hLast hBefore hAfter
      (ih hNextUpper (hNextGood last hDoc)
        (hDrop.trans hLeft.symm))

end Cursors

end

end Paging
