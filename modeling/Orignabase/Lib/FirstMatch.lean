import Mathlib.Data.List.Basic
import Mathlib.Data.List.Perm.Basic
import Mathlib.Tactic.Cases

/-
  Lists of rules of which the first one that fires decides.

  Key definitions include:
    * `FirstMatch.decision`
    * `FirstMatch.Unanimous`

  Main results:
    * `FirstMatch.decision_of_unanimous`
    * `FirstMatch.decision_perm_iff`
-/

namespace FirstMatch

variable {α β : Type} {fires : α → Bool} {verdict : α → β}
variable {default : β} {rules rules' : List α}

/- The verdict of the first rule that fires, if one does. -/
def decision
    (fires : α → Bool)
    (verdict : α → β)
    (default : β)
    (rules : List α) : β :=
  match rules.find? fires with
  | none => default
  | some rule => verdict rule

/- All rules that fire have the same verdict. -/
def Unanimous
    (fires : α → Bool)
    (verdict : α → β)
    (rules : List α) : Prop :=
  ∀ r ∈ rules, ∀ r' ∈ rules, fires r = true →
    fires r' = true → verdict r = verdict r'

variable {rule : α}

theorem decision_cons_of_fires
    (hFires : fires rule = true) :
    decision fires verdict default (rule :: rules) =
      verdict rule := by
  unfold decision
  rw [List.find?_cons_of_pos hFires]

theorem decision_cons_of_silent
    (hSilent : ¬ fires rule = true) :
    decision fires verdict default (rule :: rules) =
      decision fires verdict default rules := by
  unfold decision
  rw [List.find?_cons_of_neg hSilent]

theorem decision_of_silent
    (hSilent : ∀ r ∈ rules, ¬ fires r = true) :
    decision fires verdict default rules = default := by
  unfold decision
  rw [List.find?_eq_none.mpr hSilent]

/- A rule that fires speaks for all of them. -/
theorem decision_of_unanimous
    (hUnanimous : Unanimous fires verdict rules)
    (hMem : rule ∈ rules)
    (hFires : fires rule = true) :
    decision fires verdict default rules = verdict rule := by
  unfold decision
  cases hFind : rules.find? fires with
  | none =>
    exact absurd hFires
      (List.find?_eq_none.mp hFind rule hMem)
  | some first =>
    exact hUnanimous first
      (List.mem_of_find?_eq_some hFind) rule hMem
      (List.find?_some hFind) hFires

theorem Unanimous.perm
    (hUnanimous : Unanimous fires verdict rules)
    (hPerm : rules.Perm rules') :
    Unanimous fires verdict rules' := by
  intro r hr r' hr'
  exact hUnanimous r (hPerm.mem_iff.mpr hr) r'
    (hPerm.mem_iff.mpr hr')

theorem Unanimous.decision_perm
    (hUnanimous : Unanimous fires verdict rules)
    (hPerm : rules.Perm rules') :
    decision fires verdict default rules' =
      decision fires verdict default rules := by
  by_cases hFires : ∃ r ∈ rules, fires r = true
  · rcases hFires with ⟨r, hMem, hFires⟩
    rw [decision_of_unanimous hUnanimous hMem hFires,
      decision_of_unanimous (hUnanimous.perm hPerm)
        (hPerm.mem_iff.mp hMem) hFires]
  · have hSilent : ∀ r ∈ rules, ¬ fires r = true :=
      fun r hMem hFires' => hFires ⟨r, hMem, hFires'⟩
    rw [decision_of_silent hSilent,
      decision_of_silent fun r hMem =>
        hSilent r (hPerm.mem_iff.mpr hMem)]

/- Any rule that fires can be put in front. -/
theorem exists_perm_decision
    (verdict : α → β)
    (default : β)
    (hMem : rule ∈ rules)
    (hFires : fires rule = true) :
    ∃ rules', rules.Perm rules' ∧
      decision fires verdict default rules' =
        verdict rule := by
  rcases List.append_of_mem hMem with ⟨before, after, rfl⟩
  exact ⟨rule :: (before ++ after), List.perm_middle,
    decision_cons_of_fires hFires⟩

/- The order is irrelevant exactly where all agree. -/
theorem decision_perm_iff (default : β) :
    (∀ rules', rules.Perm rules' →
      decision fires verdict default rules' =
        decision fires verdict default rules) ↔
      Unanimous fires verdict rules := by
  constructor
  · intro hSame r hr r' hr' hFires hFires'
    rcases exists_perm_decision verdict default hr hFires with
      ⟨first, hFirst, hVerdict⟩
    rcases exists_perm_decision verdict default hr' hFires'
      with
      ⟨second, hSecond, hVerdict'⟩
    rw [← hVerdict, ← hVerdict', hSame first hFirst,
      hSame second hSecond]
  · intro hUnanimous rules' hPerm
    exact hUnanimous.decision_perm hPerm

end FirstMatch
