import Orignabase.Lib.Table

/-
  Lists of fields, each a key and a value, as one text.

  A field starts where a separator ends the one before it,
  and its value after the first mark in it.  Read into a
  table, the last value of a key is the one that stays.

  Key definitions include:
    * `Field`
    * `render`
    * `pairs`
    * `readTable`

  Main results:
    * `pairs_render`
    * `get_readTable_render`
-/

--------
-- Fields
--------

namespace KeyValues

section

variable {sep mark : Char}

/- A key and a value that the separators do not cut. -/
structure Field (sep mark : Char) where
  key : String
  value : String
  key_plain : mark ∉ key.toList
  key_whole : sep ∉ key.toList
  value_whole : sep ∉ value.toList

def Field.text (f : Field sep mark) : List Char :=
  f.key.toList ++ mark :: f.value.toList

def render (fields : List (Field sep mark)) : String :=
  String.ofList ([sep].intercalate (fields.map Field.text))

/- The text before and after the first mark. -/
def splitOnce
    (mark : Char)
    (text : List Char) : Option (String × String) :=
  match text.dropWhile (fun c => c ≠ mark) with
  | [] => none
  | _ :: rest =>
    some (String.ofList (text.takeWhile fun c => c ≠ mark),
      String.ofList rest)

/- The parts of a text that have a mark, in their order. -/
def pairs
    (sep mark : Char)
    (text : String) : List (String × String) :=
  (text.toList.splitOn sep).filterMap (splitOnce mark)

theorem splitOnce_text (f : Field sep mark) :
    splitOnce mark f.text = some (f.key, f.value) := by
  have hKey : ∀ c ∈ f.key.toList,
      (decide (c ≠ mark)) = true := by
    intro c hMem
    rw [decide_eq_true_iff]
    rintro rfl
    exact f.key_plain hMem
  have hAfter :
      f.text.dropWhile (fun c => decide (c ≠ mark)) =
        mark :: f.value.toList := by
    rw [Field.text, List.dropWhile_append_of_pos hKey,
      List.dropWhile_cons_of_neg (by simp)]
  have hBefore :
      f.text.takeWhile (fun c => decide (c ≠ mark)) =
        f.key.toList := by
    rw [Field.text, List.takeWhile_append_of_pos hKey,
      List.takeWhile_cons_of_neg (by simp), List.append_nil]
  rw [splitOnce, hAfter, hBefore]
  simp only [String.ofList_toList]

theorem sep_not_mem_text
    (hApart : sep ≠ mark)
    (f : Field sep mark) :
    sep ∉ f.text := by
  rw [Field.text, List.mem_append, List.mem_cons]
  rintro (hKey | hMark | hValue)
  · exact f.key_whole hKey
  · exact hApart hMark
  · exact f.value_whole hValue

/- What was written is what is read. -/
theorem pairs_render
    (hApart : sep ≠ mark)
    {fields : List (Field sep mark)}
    (hSome : fields ≠ []) :
    pairs sep mark (render fields) =
      fields.map fun f => (f.key, f.value) := by
  have hSplit : ([sep].intercalate
      (fields.map Field.text)).splitOn sep =
        fields.map Field.text := by
    apply List.splitOn_intercalate
    · intro text hMem
      rcases List.mem_map.mp hMem with ⟨f, _, rfl⟩
      exact sep_not_mem_text hApart f
    · rwa [Ne, List.map_eq_nil_iff]
  rw [pairs, render, String.toList_ofList, hSplit,
    List.filterMap_map]
  rw [← List.filterMap_eq_map]
  congr 1
  funext f
  exact splitOnce_text f

end

--------
-- Tables of Fields
--------

/- The fields of a text by key, put in one after the other. -/
def readTable (sep mark : Char) (text : String) :
    Table String :=
  (pairs sep mark text).foldl
    (fun t pair => t.upsert pair.1 pair.2) ⟨[]⟩

/- The values of a key, in their order. -/
def values
    {sep mark : Char}
    (fields : List (Field sep mark))
    (key : String) : List String :=
  (fields.filter fun f => f.key = key).map Field.value

theorem get_foldl_upsert
    (ps : List (String × String))
    (t : Table String)
    (key : String) :
    (ps.foldl (fun t p => t.upsert p.1 p.2) t).get key =
      (((ps.filter fun p => p.1 = key).map
        Prod.snd).getLast?).or (t.get key) := by
  induction ps generalizing t with
  | nil => rfl
  | cons p rest ih =>
    rw [List.foldl_cons, ih, Table.get_upsert]
    by_cases hKey : p.1 = key
    · rw [if_pos hKey.symm, List.filter_cons_of_pos
        (by simpa using hKey), List.map_cons,
        List.getLast?_cons]
      cases ((rest.filter fun p => p.1 = key).map
        Prod.snd).getLast? with
      | none => rfl
      | some v => rfl
    · rw [if_neg (Ne.symm hKey), List.filter_cons_of_neg
        (by simpa using hKey)]

/- The last value of a key is the one that stays. -/
theorem get_readTable_render
    {sep mark : Char}
    (hApart : sep ≠ mark)
    {fields : List (Field sep mark)}
    (hSome : fields ≠ [])
    (key : String) :
    (readTable sep mark (render fields)).get key =
      (values fields key).getLast? := by
  rw [readTable, get_foldl_upsert, pairs_render hApart hSome,
    List.filter_map, List.map_map]
  exact Option.or_none

end KeyValues
