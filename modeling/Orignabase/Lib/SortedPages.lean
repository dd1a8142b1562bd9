import Mathlib.Order.Basic
import Orignabase.Lib.Paging
import Mathlib.Order.Lattice

/-
  Pages by a cursor over rows that are sorted by a key, where
  a missing key is sorted behind all others and compares with
  none.

  Key definitions include:
    * `inOrder`, `comesAfter`
    * `orderedKeys`
    * `Apart`, `Reachable`

  Main results:
    * `SortedCursors.perm_iff`
-/

--------
-- Keys
--------

namespace Paging

section

variable {K : Type} [LinearOrder K]

/- A missing key is the greatest. -/
def keyLe : Option K → Option K → Bool
  | _, none => true
  | none, some _ => false
  | some k, some k' => k ≤ k'

/- One key may stand before another. -/
def inOrder (descending : Bool) (a b : Option K) : Bool :=
  if descending then keyLe b a else keyLe a b

/- A comparison with a missing key does not hold. -/
def comesAfter (descending : Bool) :
    Option K → Option K → Bool
  | some k, some k' => if descending then k' < k else k < k'
  | _, _ => false

theorem keyLe_trans
    (a b c : Option K)
    (hAB : keyLe a b = true)
    (hBC : keyLe b c = true) :
    keyLe a c = true := by
  cases a <;> cases b <;> cases c <;>
    simp_all [keyLe]
  exact le_trans hAB hBC

theorem keyLe_total (a b : Option K) :
    (keyLe a b || keyLe b a) = true := by
  cases a <;> cases b <;> simp [keyLe, le_total]

variable {a b : Option K}

theorem keyLe_antisymm
    (hAB : keyLe a b = true)
    (hBA : keyLe b a = true) :
    a = b := by
  cases a <;> cases b <;> simp_all [keyLe]
  exact le_antisymm hAB hBA

variable {descending : Bool}

theorem inOrder_trans
    (a b c : Option K)
    (hAB : inOrder descending a b = true)
    (hBC : inOrder descending b c = true) :
    inOrder descending a c = true := by
  cases descending with
  | false => exact keyLe_trans a b c hAB hBC
  | true => exact keyLe_trans c b a hBC hAB

theorem inOrder_total (a b : Option K) :
    (inOrder descending a b || inOrder descending b a) =
      true := by
  cases descending with
  | false => exact keyLe_total a b
  | true => exact keyLe_total b a

theorem inOrder_refl (a : Option K) :
    inOrder descending a a = true := by
  simpa using inOrder_total a a

theorem inOrder_antisymm
    (hAB : inOrder descending a b = true)
    (hBA : inOrder descending b a = true) :
    a = b := by
  cases descending with
  | false => exact keyLe_antisymm hAB hBA
  | true => exact keyLe_antisymm hBA hAB

theorem comesAfter_irrefl (a : Option K) :
    comesAfter descending a a = false := by
  cases a <;> cases descending <;> simp [comesAfter]

theorem comesAfter_trans
    (a b c : Option K)
    (hAB : comesAfter descending a b = true)
    (hBC : comesAfter descending b c = true) :
    comesAfter descending a c = true := by
  cases a <;> cases b <;> cases c <;> cases descending <;>
    simp_all [comesAfter]
  · exact lt_trans hAB hBC
  · exact lt_trans hBC hAB

/- Nothing comes after a key that it stands before. -/
theorem comesAfter_of_inOrder
    (hOrder : inOrder descending b a = true) :
    comesAfter descending a b = false := by
  cases a <;> cases b <;> cases descending <;>
    simp_all [comesAfter, inOrder, keyLe]

/- What stands behind a key comes after it, if both count. -/
theorem comesAfter_iff
    (hOrder : inOrder descending a b = true) :
    comesAfter descending a b = true ↔
      a ≠ none ∧ b ≠ none ∧ a ≠ b := by
  cases a <;> cases b <;> cases descending <;>
    simp_all [comesAfter, inOrder, keyLe, lt_iff_le_and_ne]
  exact ne_comm

/- The keys in the order of a query. -/
def orderedKeys
    (descending : Bool)
    (keys : List (Option K)) : List (Option K) :=
  keys.mergeSort (inOrder descending)

/- Sorted keys are the ordered ones. -/
theorem eq_orderedKeys
    {keys sorted : List (Option K)}
    (hPerm : sorted.Perm keys)
    (hSorted :
      sorted.Pairwise
        (fun a b => inOrder descending a b = true)) :
    sorted = orderedKeys descending keys := by
  refine List.Perm.eq_of_pairwise ?_ hSorted
    (List.pairwise_mergeSort inOrder_trans inOrder_total keys)
    (hPerm.trans (List.mergeSort_perm _ _).symm)
  intro a b _ _ hAB hBA
  exact inOrder_antisymm hAB hBA

end

--------
-- Sorted Rows
--------

section

variable {α K : Type} [LinearOrder K] {docs : List α}
variable {key : α → Option K} {descending : Bool}
variable {next : α → List α} {size : Nat}

/- One item comes after another by its key. -/
def keyAfter
    (key : α → Option K)
    (descending : Bool)
    (c d : α) : Bool :=
  comesAfter descending (key c) (key d)

def SortedBy
    (key : α → Option K)
    (descending : Bool)
    (rows : List α) : Prop :=
  rows.Pairwise
    (fun a b => inOrder descending (key a) (key b) = true)

theorem SortedBy.keys
    {rows : List α}
    (hSorted : SortedBy key descending rows) :
    (rows.map key).Pairwise
      (fun a b => inOrder descending a b = true) :=
  List.pairwise_map.mpr hSorted

/- Queries by a cursor whose rows are sorted. -/
structure SortedCursors
    (docs : List α)
    (key : α → Option K)
    (descending : Bool)
    (next : α → List α) : Prop where
  nodup : docs.Nodup
  found :
    ∀ c ∈ docs,
      (next c).Perm (docs.filter (keyAfter key descending c))
  sorted : ∀ c ∈ docs, SortedBy key descending (next c)

/- The keys around every end of a page differ. -/
def Apart (size : Nat) (keys : List (Option K)) : Prop :=
  ∀ j, 0 < j → j * size < keys.length →
    keys[j * size - 1]? ≠ keys[j * size]?

/-
  One page is enough; or no key is missing from the last one
  of the first page on, and no key is on two pages.
-/
def Reachable (size : Nat) (keys : List (Option K)) : Prop :=
  keys.length ≤ size ∨
    (∀ k ∈ keys.drop (size - 1), k ≠ none) ∧ Apart size keys

variable {keys : List (Option K)}

omit [LinearOrder K] in
theorem apart_of_le
    (hShort : keys.length ≤ size) :
    Apart size keys := by
  intro j hPos hLt
  have hLe := Nat.le_mul_of_pos_left size hPos
  omega

omit [LinearOrder K] in
theorem apart_drop
    (hSize : 0 < size)
    (hLong : size < keys.length) :
    Apart size keys ↔ keys[size - 1]? ≠ keys[size]? ∧
        Apart size (keys.drop size) := by
  constructor
  · intro hApart
    refine ⟨?_, ?_⟩
    · have hFirst := hApart 1 (by omega) (by omega)
      rwa [Nat.one_mul] at hFirst
    · intro j hPos hLt
      rw [List.length_drop] at hLt
      have hNext := hApart (j + 1) (by omega)
        (by rw [Nat.succ_mul]; omega)
      have hLe := Nat.le_mul_of_pos_left size hPos
      rw [List.getElem?_drop, List.getElem?_drop]
      rwa [Nat.succ_mul, Nat.add_comm (j * size),
        Nat.add_sub_assoc (by omega)] at hNext
  · rintro ⟨hFirst, hRest⟩ j hPos hLt
    obtain ⟨i, rfl⟩ : ∃ i, j = i + 1 := ⟨j - 1, by omega⟩
    by_cases hZero : i = 0
    · subst hZero
      rwa [Nat.zero_add, Nat.one_mul]
    · have hOne : 0 < i := by omega
      have hLe := Nat.le_mul_of_pos_left size hOne
      rw [Nat.succ_mul] at hLt ⊢
      have hNext := hRest i hOne
        (by rw [List.length_drop]; omega)
      rw [List.getElem?_drop, List.getElem?_drop] at hNext
      rwa [Nat.add_comm (i * size),
        Nat.add_sub_assoc (by omega)]

omit [LinearOrder K] in
theorem reachable_drop
    (hSize : 0 < size)
    (hLong : size < keys.length) :
    ((∀ k ∈ keys.drop (size - 1), k ≠ none) ∧
        keys[size - 1]? ≠ keys[size]?) ∧
      Reachable size (keys.drop size) ↔
        Reachable size keys := by
  have hRest :
      ∀ k ∈ keys.drop size, k ∈ keys.drop (size - 1) := by
    intro k hMem
    rw [← Nat.sub_add_cancel hSize, ← List.drop_drop] at hMem
    exact List.mem_of_mem_drop hMem
  unfold Reachable
  rw [apart_drop hSize hLong]
  constructor
  · rintro ⟨⟨hKeys, hFirst⟩, hNext⟩
    refine Or.inr ⟨hKeys, hFirst, ?_⟩
    rcases hNext with hShort | ⟨_, hApart⟩
    · exact apart_of_le hShort
    · exact hApart
  · rintro (hShort | ⟨hKeys, hFirst, hApart⟩)
    · omega
    · refine ⟨⟨hKeys, hFirst⟩, Or.inr ⟨?_, hApart⟩⟩
      intro k hMem
      apply hKeys
      apply hRest
      exact List.mem_of_mem_drop hMem

namespace SortedCursors

variable (hCursors : SortedCursors docs key descending next)

include hCursors

theorem cursors :
    Cursors docs (keyAfter key descending) next where
  nodup := hCursors.nodup
  found := hCursors.found
  irrefl := fun _ => comesAfter_irrefl _
  trans := fun _ _ _ => comesAfter_trans _ _ _

variable {rows : List α} {last : α}

omit hCursors in
/- The last row of a page stands behind the others. -/
theorem before_last
    (hSorted : SortedBy key descending rows)
    (hLast : (rows.take size).getLast? = some last) :
    ∀ d ∈ rows.take size,
      keyAfter key descending last d = false := by
  intro d hMem
  rcases List.getLast?_eq_some_iff.mp hLast with
    ⟨front, hPage⟩
  have hPairs : SortedBy key descending (front ++ [last]) := by
    rw [← hPage]
    exact hSorted.sublist (List.take_sublist _ _)
  rw [hPage, List.mem_append, List.mem_singleton] at hMem
  rcases hMem with hFront | rfl
  · exact comesAfter_of_inOrder
      ((List.pairwise_append.mp hPairs).2.2 d hFront last
        (List.mem_singleton_self last))
  · exact comesAfter_irrefl _

omit hCursors in
/- The last row of a page stands before what is left. -/
theorem last_before
    (hSorted : SortedBy key descending rows)
    (hLast : (rows.take size).getLast? = some last) :
    ∀ d ∈ rows.drop size,
      inOrder descending (key last) (key d) = true := by
  intro d hMem
  rw [SortedBy, ← List.take_append_drop size rows,
    List.pairwise_append] at hSorted
  exact hSorted.2.2 last (List.mem_of_getLast? hLast) d hMem

omit hCursors [LinearOrder K] in
/- The last row of a full page. -/
theorem key_last
    (hSize : 0 < size)
    (hLong : size ≤ rows.length)
    (hLast : (rows.take size).getLast? = some last) :
    (rows.map key)[size - 1]? = some (key last) := by
  rw [List.getLast?_eq_getElem?, List.length_take,
    Nat.min_eq_left hLong,
    List.getElem?_take_of_lt (by omega)] at hLast
  rw [List.getElem?_map, hLast]
  rfl

omit hCursors in
/- Whether what is left comes after the last row of a page. -/
theorem after_iff
    (hSize : 0 < size)
    (hSorted : SortedBy key descending rows)
    (hLong : size < rows.length)
    (hLast : (rows.take size).getLast? = some last) :
    (∀ d ∈ rows.drop size,
        keyAfter key descending last d = true) ↔
      (∀ k ∈ (rows.map key).drop (size - 1), k ≠ none) ∧
        (rows.map key)[size - 1]? ≠
          (rows.map key)[size]? := by
  have hKey :
      (rows.map key)[size - 1]? = some (key last) :=
    key_last hSize (Nat.le_of_lt hLong) hLast
  have hOrder := last_before hSorted hLast
  have hHead :
      (rows.map key)[size]? = some (key rows[size]) := by
    simp [hLong]
  have hFirst : rows[size] ∈ rows.drop size := by
    rw [List.drop_eq_getElem_cons hLong]
    exact List.mem_cons_self
  have hDrop :
      (rows.map key).drop (size - 1) =
        key last :: (rows.drop size).map key := by
    have hLt : size - 1 < (rows.map key).length := by
      rw [List.length_map]
      omega
    rw [List.getElem?_eq_getElem hLt] at hKey
    rw [List.drop_eq_getElem_cons hLt,
      Option.some.inj hKey, Nat.sub_add_cancel hSize,
      List.map_drop]
  rw [hDrop, hKey, hHead, List.forall_mem_cons,
    List.forall_mem_map]
  constructor
  · intro hAfter
    have hAll :
        ∀ d ∈ rows.drop size,
          key last ≠ none ∧ key d ≠ none ∧
            key last ≠ key d :=
      fun d hMem =>
        (comesAfter_iff (hOrder d hMem)).mp (hAfter d hMem)
    refine ⟨⟨(hAll _ hFirst).1,
      fun d hMem => (hAll d hMem).2.1⟩, ?_⟩
    intro hSame
    exact (hAll _ hFirst).2.2 (Option.some.inj hSame)
  · rintro ⟨⟨hLastKey, hKeys⟩, hDiffer⟩ d hMem
    refine (comesAfter_iff (hOrder d hMem)).mpr
      ⟨hLastKey, hKeys d hMem, ?_⟩
    -- A key that comes back has all rows in between.
    intro hSame
    apply hDiffer
    have hNext :
        inOrder descending (key rows[size]) (key d) =
          true := by
      have hRest : SortedBy key descending (rows.drop size) :=
        hSorted.sublist (List.drop_sublist _ _)
      rw [List.drop_eq_getElem_cons hLong] at hRest hMem
      rcases List.mem_cons.mp hMem with rfl | hLater
      · exact inOrder_refl _
      · exact (List.pairwise_cons.mp hRest).1 d hLater
    rw [← hSame] at hNext
    rw [inOrder_antisymm (hOrder _ hFirst) hNext]

/- What is left after a page that splits, by its keys. -/
theorem keys_next
    (hUpper : Upper docs (keyAfter key descending) rows)
    (hSorted : SortedBy key descending rows)
    (hLast : (rows.take size).getLast? = some last)
    (hAfter :
      ∀ d ∈ rows.drop size,
        keyAfter key descending last d = true) :
    (next last).map key = (rows.map key).drop size := by
  have hRow : last ∈ rows :=
    List.mem_of_mem_take (List.mem_of_getLast? hLast)
  have hPerm := hCursors.cursors.next_perm_drop hUpper hLast
    (before_last hSorted hLast) hAfter
  have hNext := hCursors.sorted last (hUpper.subset last hRow)
  have hRest : SortedBy key descending (rows.drop size) :=
    hSorted.sublist (List.drop_sublist _ _)
  rw [← List.map_drop, eq_orderedKeys (hPerm.map key)
    hNext.keys]
  exact (eq_orderedKeys (List.Perm.refl _) hRest.keys).symm

/- Sorted pages split exactly if the keys allow it. -/
theorem splits_iff
    (hSize : 0 < size)
    (hUpper : Upper docs (keyAfter key descending) rows)
    (hSorted : SortedBy key descending rows) :
    Splits (keyAfter key descending) next size rows ↔
      Reachable size (rows.map key) := by
  induction hLength : rows.length using Nat.strongRecOn
    generalizing rows with
  | ind n ih =>
    cases hLast : (rows.take size).getLast? with
    | none =>
      have hNone : rows = [] := by
        rw [List.getLast?_eq_none_iff,
          List.take_eq_nil_iff] at hLast
        exact hLast.resolve_left (by omega)
      subst hNone
      exact iff_of_true .done (Or.inl (Nat.zero_le _))
    | some last =>
      have hRow : last ∈ rows :=
        List.mem_of_mem_take (List.mem_of_getLast? hLast)
      have hDoc := hUpper.subset last hRow
      have hBefore := before_last hSorted hLast
      have hSplit :
          Splits (keyAfter key descending) next size rows ↔
            (∀ d ∈ rows.drop size,
              keyAfter key descending last d = true) ∧
            Splits (keyAfter key descending) next size
              (next last) := by
        constructor
        · intro hSplits
          cases hSplits with
          | done => simp at hLast
          | more hOther _ hAfter hRest =>
            rw [hLast] at hOther
            cases hOther
            exact ⟨hAfter, hRest⟩
        · rintro ⟨hAfter, hRest⟩
          exact .more hLast hBefore hAfter hRest
      have hPos : 0 < rows.length :=
        List.length_pos_of_mem hRow
      -- The rows left after the page are fewer.
      have hRest :
          (∀ d ∈ rows.drop size,
            keyAfter key descending last d = true) →
          (Splits (keyAfter key descending) next size
              (next last) ↔
            Reachable size ((rows.map key).drop size)) := by
        intro hAfter
        have hKeys := hCursors.keys_next hUpper hSorted
          hLast hAfter
        have hFewer : (next last).length < n := by
          have hSame := congrArg List.length hKeys
          simp only [List.length_map, List.length_drop]
            at hSame
          omega
        rw [← hKeys]
        exact ih _ hFewer (hCursors.cursors.upper_next hDoc)
          (hCursors.sorted last hDoc) rfl
      rw [hSplit, and_congr_right_iff.mpr hRest]
      by_cases hShort : rows.length ≤ size
      · refine iff_of_true ⟨?_, Or.inl ?_⟩ (Or.inl ?_)
        · rw [List.drop_eq_nil_of_le hShort]
          exact fun _ h => nomatch h
        · rw [List.length_drop, List.length_map]
          omega
        · rwa [List.length_map]
      · have hLong : size < rows.length := by omega
        rw [after_iff hSize hSorted hLong hLast]
        exact reachable_drop hSize
          (by rwa [List.length_map])

/-
  The client is given every item once exactly if the keys
  allow it.
-/
theorem perm_iff
    (hSize : 0 < size)
    {result : List α}
    (hRows : rows.Perm docs)
    (hSorted : SortedBy key descending rows)
    (hPages : CursorPages next size rows result) :
    result.Perm docs ↔ Reachable size
        (orderedKeys descending (docs.map key)) := by
  have hUpper := hCursors.cursors.upper_of_perm hRows
  rw [← eq_orderedKeys (hRows.map key) hSorted.keys,
    ← hCursors.splits_iff hSize hUpper hSorted]
  constructor
  · intro hPerm
    exact hCursors.cursors.splits_of_perm
      (fun _ h _ hLast => before_last h hLast)
      hCursors.sorted hPages hUpper hSorted
      (hPerm.trans hRows.symm)
  · intro hSplits
    exact (hCursors.cursors.perm_of_splits hPages hUpper
      hSplits).trans hRows

end SortedCursors

end

end Paging
