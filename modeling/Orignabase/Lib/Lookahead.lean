import Mathlib.Data.List.Nodup
import Mathlib.Data.List.Perm.Basic
import Mathlib.Data.List.Sort
import Mathlib.Order.Lattice
import Mathlib.Tactic.Cases

/-
  Pages that are read with one row ahead.

  A page has the first rows of a query, says whether there is
  another one, and names the cursor of its last row for the
  next page.

  Key definitions include:
    * `Page`
    * `Collects`
    * `pageOf`
    * `Splits`
    * `thenBy`

  Main results:
    * `collects_of_splits`
    * `not_collects_of_loop`
    * `not_mem_of_closed`
    * `query_isSome_of_splits`
    * `mergeSort_filter`
    * `filter_eq_drop`
-/

--------
-- Pages
--------

namespace Lookahead

structure Page (α C : Type) where
  items : List α
  next : Option C
  more : Bool

/-
  A client that starts without a cursor or with one, and asks
  for the next page until there is none.
-/
inductive Collects
    {α C : Type}
    (page : Option C → Option (Page α C)) :
    Option C → List α → Prop
  | last
      {c : Option C}
      {p : Page α C}
      (hPage : page c = some p)
      (hLast : p.more = false) :
      Collects page c p.items
  | more
      {c : Option C}
      {p : Page α C}
      {rest : List α}
      (hPage : page c = some p)
      (hMore : p.more = true)
      (hRest : Collects page p.next rest) :
      Collects page c (p.items ++ rest)

/- The client is given every item exactly once. -/
def Exact
    {α C : Type}
    (page : Option C → Option (Page α C))
    (docs : List α) : Prop :=
  ∃ items, Collects page none items ∧ items.Perm docs

variable {α C : Type}

/- The page of a query, from all of its rows. -/
def pageOf
    (cursor : α → C)
    (size : ℕ)
    (rows : List α) : Page α C where
  items := rows.take size
  next :=
    if size < rows.length then
      (rows.take size).getLast?.map cursor
    else none
  more := size < rows.length

/- The pages of a query that depends on the cursor. -/
def pages
    (query : Option C → Option (List α))
    (cursor : α → C)
    (size : ℕ)
    (c : Option C) : Option (Page α C) :=
  (query c).map (pageOf cursor size)

section

variable {query : Option C → Option (List α)}
variable {cursor : α → C} {size : ℕ}

variable {rows items : List α} {k : ℕ}

theorem next_pageOf
    (hMore : size < rows.length)
    (hSize : 0 < size) :
    (pageOf cursor size rows).next =
      rows[size - 1]?.map cursor := by
  change (if _ then _ else _) = _
  rw [if_pos hMore, List.getLast?_eq_getElem?,
    List.length_take, Nat.min_eq_left hMore.le,
    List.getElem?_take_of_lt (by omega)]

/- A client that has a page has the rows of a query. -/
theorem Collects.cases_pages
    {c : Option C}
    (hCollects : Collects (pages query cursor size) c items) :
    ∃ rows, query c = some rows ∧
        ((rows.length ≤ size ∧ items = rows) ∨
          size < rows.length ∧ ∃ rest,
              items = rows.take size ++ rest ∧
                Collects (pages query cursor size)
                  (pageOf cursor size rows).next rest) := by
  cases hCollects with
  | last hPage hLast =>
    rcases Option.map_eq_some_iff.mp hPage with
      ⟨rows, hRows, rfl⟩
    have hShort := of_decide_eq_false hLast
    exact ⟨rows, hRows, Or.inl ⟨by omega,
      List.take_of_length_le (by omega)⟩⟩
  | more hPage hMore hRest =>
    rcases Option.map_eq_some_iff.mp hPage with
      ⟨rows, hRows, rfl⟩
    exact ⟨rows, hRows,
      Or.inr ⟨of_decide_eq_true hMore, _, rfl, hRest⟩⟩

/- The last row of a page that is not the last page. -/
def Boundary (size : ℕ) (rows : List α) (k : ℕ) (r : α) :
    Prop :=
  0 < k ∧ k * size < rows.length ∧
    rows[k * size - 1]? = some r

/-
  After every page but the last, a query that is answered
  gives the rows that are left.
-/
def Splits
    (query : Option C → Option (List α))
    (cursor : α → C)
    (size : ℕ)
    (rows : List α) : Prop :=
  ∀ k r, Boundary size rows k r →
    ∀ next, query (some (cursor r)) = some next →
      next = rows.drop (k * size)

theorem boundary_of_lt
    (hSize : 0 < size)
    (hK : 0 < k)
    (hLt : k * size < rows.length) :
    ∃ r, Boundary size rows k r := by
  have hPos : 0 < k * size := Nat.mul_pos hK hSize
  have hIndex : k * size - 1 < rows.length := by omega
  exact ⟨_, hK, hLt, List.getElem?_eq_getElem hIndex⟩

/- The boundary of the rows that are left is the next one. -/
theorem next_of_drop
    (hSize : 0 < size)
    (hMore : size < (rows.drop (k * size)).length) :
    ∃ r, Boundary size rows (k + 1) r ∧
      (pageOf cursor size (rows.drop (k * size))).next =
        some (cursor r) := by
  rw [List.length_drop] at hMore
  have hLt : (k + 1) * size < rows.length := by
    rw [Nat.succ_mul]
    omega
  rcases boundary_of_lt hSize (Nat.succ_pos k) hLt with
    ⟨r, hBoundary⟩
  refine ⟨r, hBoundary, ?_⟩
  have hIndex :
      k * size + (size - 1) = (k + 1) * size - 1 := by
    rw [Nat.succ_mul]
    omega
  rw [next_pageOf (by rw [List.length_drop]; omega) hSize,
    List.getElem?_drop, hIndex, hBoundary.2.2]
  rfl

/- Pages that split give all rows in their order. -/
theorem collects_of_splits
    (hSize : 0 < size)
    (hStart : query none = some rows)
    (hSplits : Splits query cursor size rows)
    (hAnswered :
      ∀ k r, Boundary size rows k r →
        (query (some (cursor r))).isSome = true) :
    Collects (pages query cursor size) none rows := by
  have hFrom :
      ∀ n k c, (rows.drop (k * size)).length = n →
        query c = some (rows.drop (k * size)) →
        Collects (pages query cursor size) c
          (rows.drop (k * size)) := by
    intro n
    induction n using Nat.strongRecOn with
    | ind n ih =>
      intro k c hLength hQuery
      have hPage :
          pages query cursor size c =
            some (pageOf cursor size
              (rows.drop (k * size))) := by
        rw [pages, hQuery]
        rfl
      by_cases hMore :
          size < (rows.drop (k * size)).length
      · rcases next_of_drop hSize hMore with
          ⟨r, hBoundary, hNext⟩
        rcases Option.isSome_iff_exists.mp
          (hAnswered _ r hBoundary) with ⟨next, hAnswer⟩
        have hRows := hSplits _ r hBoundary next hAnswer
        rw [hRows] at hAnswer
        have hFewer :
            (rows.drop ((k + 1) * size)).length < n := by
          rw [List.length_drop] at hLength hMore ⊢
          rw [Nat.succ_mul]
          omega
        have hRest := ih _ hFewer (k + 1) _ rfl hAnswer
        have hParts :
            rows.drop (k * size) =
              (rows.drop (k * size)).take size ++
                rows.drop ((k + 1) * size) := by
          rw [Nat.succ_mul, ← List.drop_drop,
            List.take_append_drop]
        rw [hParts]
        rw [← hNext] at hRest
        exact Collects.more hPage (decide_eq_true hMore)
          hRest
      · have hLast :
            (rows.drop (k * size)).take size =
              rows.drop (k * size) :=
          List.take_of_length_le (by omega)
        have hCollects :=
          Collects.last hPage (decide_eq_false hMore)
        change Collects _ _
          ((rows.drop (k * size)).take size) at hCollects
        rwa [hLast] at hCollects
  have hAll := hFrom _ 0 none rfl (by simpa using hStart)
  simpa using hAll

/- Cursors that lead to the rows behind them. -/
theorem collects_of_answers
    (hSize : 0 < size)
    (hStart : query none = some rows)
    (hAnswers :
      ∀ k r, Boundary size rows k r →
        query (some (cursor r)) =
          some (rows.drop (k * size))) :
    Collects (pages query cursor size) none rows := by
  apply collects_of_splits hSize hStart
  · intro k r hBoundary next hNext
    rw [hAnswers k r hBoundary] at hNext
    exact (Option.some.inj hNext).symm
  · intro k r hBoundary
    rw [hAnswers k r hBoundary]
    rfl

/- One page is enough. -/
theorem collects_of_le
    (hStart : query none = some rows)
    (hShort : rows.length ≤ size) :
    Collects (pages query cursor size) none rows := by
  have hPage :
      pages query cursor size none =
        some (pageOf cursor size rows) := by
    rw [pages, hStart]
    rfl
  have hCollects :=
    Collects.last hPage (decide_eq_false (by omega))
  change Collects _ _ (rows.take size) at hCollects
  rwa [List.take_of_length_le hShort] at hCollects

/- A client that is given all rows has asked at every cursor. -/
theorem query_isSome_of_splits
    (hSize : 0 < size)
    (hStart : query none = some rows)
    (hSplits : Splits query cursor size rows)
    (hCollects :
      Collects (pages query cursor size) none items)
    {r : α}
    (hBoundary : Boundary size rows k r) :
    (query (some (cursor r))).isSome = true := by
  have hVisits :
      ∀ k r, Boundary size rows k r →
        ∃ items, Collects (pages query cursor size)
          (some (cursor r)) items := by
    intro k
    induction k with
    | zero =>
      intro r hZero
      exact absurd hZero.1 (by omega)
    | succ k ih =>
      intro r hNow
      have hBefore :
          ∃ c items, query c = some (rows.drop (k * size)) ∧
            Collects (pages query cursor size) c items := by
        by_cases hK : k = 0
        · subst hK
          exact ⟨none, items, by simpa using hStart,
            hCollects⟩
        · have hLt : k * size < rows.length := by
            have hNext := hNow.2.1
            rw [Nat.succ_mul] at hNext
            omega
          rcases boundary_of_lt hSize (by omega) hLt with
            ⟨s, hS⟩
          rcases ih s hS with ⟨others, hOthers⟩
          rcases hOthers.cases_pages with ⟨next, hNext, _⟩
          exact ⟨_, others,
            hSplits _ s hS next hNext ▸ hNext, hOthers⟩
      rcases hBefore with ⟨c, others, hQuery, hOthers⟩
      have hMore : size < (rows.drop (k * size)).length := by
        have hNext := hNow.2.1
        rw [Nat.succ_mul] at hNext
        rw [List.length_drop]
        omega
      have hNext :
          ∃ s, Boundary size rows (k + 1) s ∧
            (pageOf cursor size (rows.drop (k * size))).next =
              some (cursor s) :=
        next_of_drop hSize hMore
      rcases hNext with ⟨s, hS, hCursor⟩
      have hSame : s = r :=
        Option.some.inj (hS.2.2.symm.trans hNow.2.2)
      subst hSame
      rcases hOthers.cases_pages with
        ⟨next, hNext, ⟨hShort, _⟩ | ⟨_, rest, _, hRest⟩⟩
      · rw [hQuery] at hNext
        cases hNext
        omega
      · rw [hQuery] at hNext
        cases hNext
        rw [hCursor] at hRest
        exact ⟨rest, hRest⟩
  rcases hVisits k r hBoundary with ⟨others, hOthers⟩
  rcases hOthers.cases_pages with ⟨next, hNext, _⟩
  rw [hNext]
  rfl

/- Behind a first page that is not the last one. -/
theorem Collects.rest
    {first : α}
    (hSize : 0 < size)
    (hStart : query none = some rows)
    (hMore : size < rows.length)
    (hFirst : rows[size - 1]? = some first)
    (hCollects :
      Collects (pages query cursor size) none items) :
    ∃ rest, items = rows.take size ++ rest ∧
        Collects (pages query cursor size)
          (some (cursor first)) rest := by
  rcases hCollects.cases_pages with
    ⟨others, hOthers, hCases⟩
  rw [hStart] at hOthers
  cases hOthers
  rcases hCases with ⟨hShort, _⟩ | ⟨_, rest, hItems, hRest⟩
  · omega
  · rw [next_pageOf hMore hSize, hFirst] at hRest
    exact ⟨rest, hItems, hRest⟩

/- What is not on the first page is on a later one. -/
theorem mem_rest
    {rest : List α}
    (hNodup : rows.Nodup)
    (hPerm : items.Perm rows)
    (hItems : items = rows.take size ++ rest)
    {d : α}
    (hMem : d ∈ rows.drop size) :
    d ∈ rest := by
  have hAll : d ∈ items :=
    hPerm.mem_iff.mpr (List.mem_of_mem_drop hMem)
  rw [hItems, List.mem_append] at hAll
  exact hAll.resolve_left (fun hTake =>
    (List.disjoint_take_drop hNodup le_rfl) hTake hMem)

/- A cursor that leads back to the first page. -/
theorem not_collects_of_loop
    {first : α}
    (hSize : 0 < size)
    (hStart : query none = some rows)
    (hMore : size < rows.length)
    (hFirst : rows[size - 1]? = some first)
    (hLoop :
      ∀ next, query (some (cursor first)) = some next →
        next = rows)
    (items : List α) :
    ¬ Collects (pages query cursor size) none items := by
  have hNever :
      ∀ c items, Collects (pages query cursor size) c items →
        ∀ next, query c = some next → next = rows → False := by
    intro c items hCollects
    induction hCollects with
    | last hPage hLast =>
      rintro next hQuery rfl
      rw [pages, hQuery] at hPage
      cases hPage
      exact of_decide_eq_false hLast hMore
    | more hPage _ hRest ih =>
      rintro next hQuery rfl
      rw [pages, hQuery] at hPage
      cases hPage
      rw [next_pageOf hMore hSize, hFirst] at hRest ih
      rcases hRest.cases_pages with ⟨others, hOthers, _⟩
      exact ih others hOthers (hLoop others hOthers)
  intro hCollects
  exact hNever none items hCollects rows hStart rfl

/-
  What no query gives, from cursors of a kind that its rows
  are of again.
-/
theorem not_mem_of_closed
    {P : C → Prop}
    {d : α}
    (hSize : 0 < size)
    (hClosed :
      ∀ c rows, P c → query (some c) = some rows →
        d ∉ rows ∧ ∀ r ∈ rows, P (cursor r))
    {c : C}
    (hStart : P c)
    (hCollects :
      Collects (pages query cursor size) (some c) items) :
    d ∉ items := by
  have hFrom :
      ∀ c' items,
        Collects (pages query cursor size) c' items →
          ∀ c, c' = some c → P c → d ∉ items := by
    intro c' items hCollects
    induction hCollects with
    | last hPage _ =>
      rintro c rfl hP hMem
      rcases Option.map_eq_some_iff.mp hPage with
        ⟨rows, hRows, rfl⟩
      exact (hClosed c rows hP hRows).1
        (List.mem_of_mem_take hMem)
    | more hPage hMore hRest ih =>
      rintro c rfl hP hMem
      rcases Option.map_eq_some_iff.mp hPage with
        ⟨rows, hRows, rfl⟩
      rcases hClosed c rows hP hRows with ⟨hNot, hKind⟩
      have hLong := of_decide_eq_true hMore
      have hIndex : size - 1 < rows.length := by omega
      rcases List.mem_append.mp hMem with hHere | hLater
      · exact hNot (List.mem_of_mem_take hHere)
      · have hNext :
            (pageOf cursor size rows).next =
              some (cursor rows[size - 1]) := by
          rw [next_pageOf hLong hSize,
            List.getElem?_eq_getElem hIndex]
          rfl
        exact ih _ hNext (hKind _ (List.getElem_mem hIndex))
          hLater
  exact hFrom _ items hCollects c rfl hStart

end

--------
-- Sorted rows
--------

section

variable {le le' : α → α → Bool}

/- One order, and another one where the first ties. -/
def thenBy (le le' : α → α → Bool) (a b : α) : Bool :=
  le a b && (!le b a || le' a b)

theorem thenBy_trans
    (hTrans : ∀ a b c, le a b → le b c → le a c)
    (hTrans' : ∀ a b c, le' a b → le' b c → le' a c)
    (a b c : α)
    (hAB : thenBy le le' a b = true)
    (hBC : thenBy le le' b c = true) :
    thenBy le le' a c = true := by
  simp only [thenBy, Bool.and_eq_true, Bool.or_eq_true,
    Bool.not_eq_true'] at hAB hBC ⊢
  refine ⟨hTrans a b c hAB.1 hBC.1, ?_⟩
  cases hCA : le c a with
  | false => exact Or.inl rfl
  | true =>
    -- A tie of the ends is a tie of all three.
    have hBA := hTrans b c a hBC.1 hCA
    have hCB := hTrans c a b hCA hAB.1
    rw [hBA] at hAB
    rw [hCB] at hBC
    exact Or.inr (hTrans' a b c
      (hAB.2.resolve_left Bool.noConfusion)
      (hBC.2.resolve_left Bool.noConfusion))

theorem thenBy_total
    (hTotal : ∀ a b, (le a b || le b a) = true)
    (hTotal' : ∀ a b, (le' a b || le' b a) = true)
    (a b : α) :
    (thenBy le le' a b || thenBy le le' b a) = true := by
  have hFirst := hTotal a b
  have hSecond := hTotal' a b
  cases hAB : le a b <;> cases hBA : le b a <;>
    simp_all [thenBy]

/- Rows that are picked before or after they are sorted. -/
theorem mergeSort_filter
    (hTrans : ∀ a b c, le a b → le b c → le a c)
    (hTotal : ∀ a b, (le a b || le b a) = true)
    (p : α → Bool)
    {docs : List α}
    (hAntisymm :
      ∀ a ∈ docs, ∀ b ∈ docs, le a b → le b a → a = b) :
    (docs.filter p).mergeSort le =
      (docs.mergeSort le).filter p := by
  refine List.Perm.eq_of_pairwise ?_
    (List.pairwise_mergeSort hTrans hTotal _)
    ((List.pairwise_mergeSort hTrans hTotal docs).sublist
      List.filter_sublist)
    ((List.mergeSort_perm _ _).trans
      ((List.mergeSort_perm docs le).symm.filter p))
  intro a b hA hB
  have hFirst :=
    List.mem_of_mem_filter ((List.mem_mergeSort).mp hA)
  have hSecond :=
    (List.mem_mergeSort).mp (List.mem_of_mem_filter hB)
  exact hAntisymm a hFirst b hSecond

variable {rows : List α} {n : ℕ} {r d : α}

/- What only the rows behind a place are picked by. -/
theorem filter_eq_drop
    {p : α → Bool}
    (hBefore : ∀ d ∈ rows.take n, p d = false)
    (hBehind : ∀ d ∈ rows.drop n, p d = true) :
    rows.filter p = rows.drop n := by
  have hTake : (rows.take n).filter p = [] :=
    List.filter_eq_nil_iff.mpr
      (fun d hMem => by rw [hBefore d hMem]; exact Bool.noConfusion)
  have hDrop : (rows.drop n).filter p = rows.drop n :=
    List.filter_eq_self.mpr hBehind
  calc rows.filter p
      = (rows.take n ++ rows.drop n).filter p := by
        rw [List.take_append_drop]
    _ = rows.drop n := by
        rw [List.filter_append, hTake, hDrop, List.nil_append]

/- A row at a place stands between those around it. -/
theorem le_of_mem_take
    (hSorted : rows.Pairwise (fun a b => le a b = true))
    (hRefl : ∀ a, le a a = true)
    (hRow : rows[n]? = some r)
    (hMem : d ∈ rows.take (n + 1)) :
    le d r = true := by
  rcases List.getElem?_eq_some_iff.mp hRow with ⟨hLt, rfl⟩
  rcases List.mem_take_iff_getElem.mp hMem with ⟨i, hI, rfl⟩
  rcases Nat.lt_or_ge i n with hBefore | hSame
  · exact List.pairwise_iff_getElem.mp hSorted i n
      (by omega) hLt hBefore
  · have hEq : i = n := by omega
    subst hEq
    exact hRefl _

theorem le_of_mem_drop
    (hSorted : rows.Pairwise (fun a b => le a b = true))
    (hRow : rows[n]? = some r)
    (hMem : d ∈ rows.drop (n + 1)) :
    le r d = true := by
  rcases List.getElem?_eq_some_iff.mp hRow with ⟨hLt, rfl⟩
  rcases List.mem_drop_iff_getElem.mp hMem with ⟨i, hI, rfl⟩
  exact List.pairwise_iff_getElem.mp hSorted n
    (n + 1 + i) hLt (by omega) (by omega)

/- A row is not among those behind it. -/
theorem ne_of_mem_drop
    (hNodup : rows.Nodup)
    (hRow : rows[n]? = some r)
    (hMem : d ∈ rows.drop (n + 1)) :
    r ≠ d := by
  rcases List.getElem?_eq_some_iff.mp hRow with ⟨hLt, rfl⟩
  rcases List.mem_drop_iff_getElem.mp hMem with ⟨i, hI, rfl⟩
  intro hSame
  have hIndex := (hNodup.getElem_inj_iff).mp hSame
  omega

theorem mem_drop_pred
    {first : α}
    (hPos : 0 < n)
    (hFirst : rows[n - 1]? = some first)
    (hMem : d ∈ rows.drop (n - 1)) :
    d = first ∨ d ∈ rows.drop n := by
  rcases List.getElem?_eq_some_iff.mp hFirst with ⟨hLt, rfl⟩
  have hNext : n - 1 + 1 = n := by omega
  rw [List.drop_eq_getElem_cons hLt, List.mem_cons,
    hNext] at hMem
  exact hMem

theorem mem_drop_of_le
    {m : ℕ}
    (hLe : m ≤ n)
    (hMem : d ∈ rows.drop n) :
    d ∈ rows.drop m := by
  have hParts : rows.drop n = (rows.drop m).drop (n - m) := by
    rw [List.drop_drop]
    congr 1
    omega
  rw [hParts] at hMem
  exact List.mem_of_mem_drop hMem

/- No end of a page stands before the first one. -/
theorem Boundary.mem_drop
    {size k : ℕ}
    (hSize : 0 < size)
    (hBoundary : Boundary size rows k r) :
    r ∈ rows.drop (size - 1) := by
  have hLe : size ≤ k * size :=
    Nat.le_mul_of_pos_left size hBoundary.1
  rcases List.getElem?_eq_some_iff.mp hBoundary.2.2 with
    ⟨hLt, hRow⟩
  have hIndex :
      size - 1 + (k * size - 1 - (size - 1)) =
        k * size - 1 := by
    omega
  rw [List.mem_drop_iff_getElem]
  refine ⟨k * size - 1 - (size - 1), by omega, ?_⟩
  rw [← hRow]
  congr 1

end

end Lookahead
