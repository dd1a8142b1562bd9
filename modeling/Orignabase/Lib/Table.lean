import Mathlib.Algebra.BigOperators.Group.List.Basic
import Mathlib.Data.List.Nodup
import Mathlib.Tactic.Cases
import Mathlib.Algebra.Ring.Int.Defs
import Mathlib.Algebra.GroupWithZero.Nat

/-
  Tables of documents by key, in insertion order.

  Key definitions include:
    * `Table.get`
    * `Table.modify`
    * `Table.insert`
    * `Table.upsert`
    * `Table.total`

  Main results:
    * `Table.get_modify`
    * `Table.total_upsert`
-/

/- Rows with their keys. -/
structure Table (V : Type) where
  rows : List (String × V)
  deriving DecidableEq, Repr

namespace Table

variable {V : Type}

def get (t : Table V) (key : String) : Option V :=
  (t.rows.find? (fun row => row.1 = key)).map (·.2)

variable {t : Table V} {key : String} {row : String × V}

theorem mem_of_get
    {v : V}
    (hGet : t.get key = some v) :
    (key, v) ∈ t.rows := by
  rcases Option.map_eq_some_iff.mp hGet with
    ⟨row, hFind, rfl⟩
  have hKey : row.1 = key := by
    simpa using List.find?_some hFind
  rw [← hKey]
  exact List.mem_of_find?_eq_some hFind

theorem isSome_get_of_mem
    (hMem : row ∈ t.rows) :
    (t.get row.1).isSome = true := by
  unfold get
  rw [Option.isSome_map, List.find?_isSome]
  exact ⟨row, hMem, by simp⟩

/- Change the document of a key, if there is one. -/
def modify (t : Table V) (key : String) (f : V → V) :
    Table V :=
  ⟨t.rows.map (fun row =>
    if row.1 = key then (row.1, f row.2) else row)⟩

/- The rows after a change of one document. -/
theorem mem_modify
    {f : V → V}
    (hMem : row ∈ (t.modify key f).rows) :
    row ∈ t.rows ∨
      ∃ v, (key, v) ∈ t.rows ∧ row = (key, f v) := by
  rcases List.mem_map.mp hMem with ⟨old, hOld, rfl⟩
  by_cases hKey : old.1 = key
  · rw [if_pos hKey]
    exact Or.inr ⟨old.2, hKey ▸ hOld, by rw [hKey]⟩
  · rw [if_neg hKey]
    exact Or.inl hOld

def insert (t : Table V) (key : String) (v : V) :
    Table V :=
  ⟨t.rows ++ [(key, v)]⟩

/- Insert a document, or replace the one of the key. -/
def upsert (t : Table V) (key : String) (v : V) :
    Table V :=
  if (t.get key).isSome then t.modify key (fun _ => v)
  else t.insert key v

def erase (t : Table V) (key : String) : Table V :=
  ⟨t.rows.filter (fun row => row.1 ≠ key)⟩

theorem get_modify
    (t : Table V)
    (key other : String)
    (f : V → V) :
    (t.modify key f).get other =
      if other = key then (t.get other).map f
      else t.get other := by
  unfold get modify
  have hKeys :
      ((fun row : String × V => decide (row.1 = other)) ∘
        fun row =>
          if row.1 = key then (row.1, f row.2) else row) =
        fun row => decide (row.1 = other) := by
    funext row
    by_cases hRow : row.1 = key <;> simp [hRow]
  rw [List.find?_map, hKeys]
  cases hFind :
      t.rows.find? (fun row => decide (row.1 = other)) with
  | none => simp
  | some row =>
    have hRow : row.1 = other := by
      simpa using List.find?_some hFind
    by_cases hKey : other = key
    · simp [hRow, hKey]
    · simp [hRow, hKey]

@[simp] theorem get_modify_self
    (t : Table V)
    (key : String)
    (f : V → V) :
    (t.modify key f).get key = (t.get key).map f := by
  rw [get_modify, if_pos rfl]

theorem get_modify_of_ne
    (t : Table V)
    {other : String}
    (hNe : other ≠ key)
    (f : V → V) :
    (t.modify key f).get other = t.get other := by
  rw [get_modify, if_neg hNe]

theorem get_insert
    (t : Table V)
    (key other : String)
    (v : V) :
    (t.insert key v).get other =
      (t.get other).or
        (if other = key then some v else none) := by
  unfold get insert
  rw [List.find?_append]
  by_cases hKey : key = other
  · cases t.rows.find? (fun row => row.1 = other) <;>
      simp [hKey]
  · have hNe : other ≠ key := fun h => hKey h.symm
    cases t.rows.find? (fun row => row.1 = other) <;>
      simp [hKey, hNe]

/- Nothing changes for a key that is not there. -/
theorem modify_of_get_eq_none
    (hNone : t.get key = none)
    (f : V → V) :
    t.modify key f = t := by
  have hAbsent : ∀ row ∈ t.rows, row.1 ≠ key := by
    simpa [get, List.find?_eq_none] using hNone
  have hRows :
      t.rows.map (fun row =>
          if row.1 = key then (row.1, f row.2) else row) =
        t.rows := by
    rw [List.map_congr_left
      (fun row hRow => if_neg (hAbsent row hRow)),
      List.map_id']
  exact congrArg Table.mk hRows

/- A changed document can be found as before. -/
theorem find?_modify
    {p : V → Bool}
    {f : V → V}
    (hSame : ∀ v, p (f v) = p v)
    (key : String) :
    (t.modify key f).rows.find? (fun row => p row.2) =
      (t.rows.find? (fun row => p row.2)).map (fun row =>
        if row.1 = key then (row.1, f row.2) else row) := by
  unfold modify
  rw [List.find?_map]
  congr 2
  funext row
  by_cases hRow : row.1 = key <;> simp [hRow, hSame]

theorem get_upsert
    (t : Table V)
    (key other : String)
    (v : V) :
    (t.upsert key v).get other =
      if other = key then some v else t.get other := by
  unfold upsert
  cases hGet : t.get key with
  | none =>
    rw [Option.isSome_none, if_neg Bool.false_ne_true,
      get_insert]
    by_cases hKey : other = key
    · simp [hKey, hGet]
    · simp [hKey]
  | some old =>
    rw [Option.isSome_some, if_pos rfl, get_modify]
    by_cases hKey : other = key
    · simp [hKey, hGet]
    · simp [hKey]

/- The rows after a document is put under a key. -/
theorem mem_upsert
    {v : V}
    (hMem : row ∈ (t.upsert key v).rows) :
    row = (key, v) ∨ row ∈ t.rows := by
  unfold upsert at hMem
  split_ifs at hMem with hSome
  · rcases mem_modify hMem with hMem | ⟨old, _, rfl⟩
    · exact .inr hMem
    · exact .inl rfl
  · rcases List.mem_append.mp hMem with hMem | hMem
    · exact .inr hMem
    · exact .inl (List.mem_singleton.mp hMem)

/- The keys of a table. -/
def keys (t : Table V) : List String :=
  t.rows.map Prod.fst

theorem keys_modify
    (t : Table V)
    (key : String)
    (f : V → V) :
    (t.modify key f).keys = t.keys := by
  unfold keys modify
  rw [List.map_map]
  congr 1
  funext row
  by_cases hRow : row.1 = key <;> simp [hRow]

theorem get_of_mem
    (hKeys : t.keys.Nodup)
    (hMem : row ∈ t.rows) :
    t.get row.1 = some row.2 := by
  cases hGet : t.get row.1 with
  | none =>
    have hSome := isSome_get_of_mem hMem
    rw [hGet] at hSome
    cases hSome
  | some v =>
    have hSame :=
      List.inj_on_of_nodup_map hKeys (mem_of_get hGet) hMem
        rfl
    rw [← hSame]

theorem not_mem_keys_of_get_eq_none
    (hNone : t.get key = none) :
    key ∉ t.keys := by
  intro hMem
  rcases List.mem_map.mp hMem with ⟨row, hRow, rfl⟩
  have hSome := isSome_get_of_mem hRow
  rw [hNone] at hSome
  cases hSome

theorem nodup_upsert
    (hKeys : t.keys.Nodup)
    (key : String)
    (v : V) :
    (t.upsert key v).keys.Nodup := by
  unfold upsert
  split_ifs with hSome
  · rw [keys_modify]
    exact hKeys
  · have hNone : t.get key = none := by simpa using hSome
    simp only [keys, insert, List.map_append, List.map_cons,
      List.map_nil]
    rw [← List.concat_eq_append]
    exact hKeys.concat (not_mem_keys_of_get_eq_none hNone)

theorem nodup_insert
    (hKeys : t.keys.Nodup)
    (hNone : t.get key = none)
    (v : V) :
    (t.insert key v).keys.Nodup := by
  have hUpsert := nodup_upsert hKeys key v
  rwa [upsert, hNone, Option.isSome_none,
    if_neg Bool.false_ne_true] at hUpsert

/- The document of a key, if its row is kept. -/
theorem get_filter
    (hKeys : t.keys.Nodup)
    (p : String × V → Bool)
    (key : String) :
    (⟨t.rows.filter p⟩ : Table V).get key =
      (t.get key).filter (fun v => p (key, v)) := by
  have hFiltered :
      (⟨t.rows.filter p⟩ : Table V).keys.Nodup :=
    (List.filter_sublist.map _).nodup hKeys
  apply Option.ext
  intro v
  rw [Option.filter_eq_some_iff]
  constructor
  · intro hGet
    have hMem := List.mem_filter.mp (mem_of_get hGet)
    exact ⟨get_of_mem hKeys hMem.1, hMem.2⟩
  · rintro ⟨hGet, hKept⟩
    exact get_of_mem hFiltered
      (List.mem_filter.mpr ⟨mem_of_get hGet, hKept⟩)

/- Every document of a table, changed in one way. -/
theorem get_map
    (t : Table V)
    (f : V → V)
    (key : String) :
    (⟨t.rows.map (fun row => (row.1, f row.2))⟩ :
        Table V).get key =
      (t.get key).map f := by
  unfold get
  rw [List.find?_map, Option.map_map, Option.map_map]
  rfl

/- What the documents of a table count in all. -/
def total (t : Table V) (f : V → Int) : Int :=
  (t.rows.map (fun row => f row.2)).sum

theorem total_modify
    (hKeys : t.keys.Nodup)
    {old : V}
    (hGet : t.get key = some old)
    (f : V → Int)
    (v : V) :
    (t.modify key (fun _ => v)).total f =
      t.total f - f old + f v := by
  rcases t with ⟨rows⟩
  induction rows with
  | nil => cases hGet
  | cons row rest ih =>
    simp only [keys, List.map_cons, List.nodup_cons]
      at hKeys
    by_cases hRow : row.1 = key
    · -- No further row has the key.
      subst hRow
      have hOld : row.2 = old := by
        simpa [get] using hGet
      have hRest : (Table.mk rest).get row.1 = none := by
        rw [← Option.not_isSome_iff_eq_none]
        intro hSome
        rcases Option.isSome_iff_exists.mp hSome with
          ⟨w, hw⟩
        exact hKeys.1
          (List.mem_map.mpr ⟨_, mem_of_get hw, rfl⟩)
      have hSame := congrArg Table.rows
          (modify_of_get_eq_none hRest (fun _ => v))
      simp only [modify] at hSame
      simp only [total, modify, List.map_cons, if_true,
        List.sum_cons, hSame, hOld]
      omega
    · have hGetRest : (Table.mk rest).get key = some old := by
        simpa [get, List.find?_cons, hRow] using hGet
      have hTail := ih hKeys.2 hGetRest
      simp only [total, modify] at hTail
      simp only [total, modify, List.map_cons, hRow,
        if_false, List.sum_cons, hTail]
      omega

theorem total_upsert
    (hKeys : t.keys.Nodup)
    (f : V → Int)
    (key : String)
    (v : V) :
    (t.upsert key v).total f =
      t.total f - ((t.get key).map f).getD 0 + f v := by
  unfold upsert
  cases hGet : t.get key with
  | none =>
    simp [total, insert]
  | some old =>
    simpa using total_modify hKeys hGet f v

theorem get_erase
    (t : Table V)
    (key other : String) :
    (t.erase key).get other =
      if other = key then none else t.get other := by
  unfold get erase
  rw [List.find?_filter]
  by_cases hKey : other = key
  · rw [if_pos hKey, Option.map_eq_none_iff,
      List.find?_eq_none]
    intro row _
    simp [hKey]
  · rw [if_neg hKey]
    congr 2
    funext row
    by_cases hRow : row.1 = other
    · simp [hRow, hKey]
    · simp [hRow]

end Table
