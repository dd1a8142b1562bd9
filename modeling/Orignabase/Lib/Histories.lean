import Mathlib.Data.List.Infix

/-
  Histories of events, applied one after the other, and what
  holds after every part of one.

  Key definitions include:
    * `History.after`
    * `History.Throughout`
    * `History.observed`

  Main results:
    * `History.always_of_step`
    * `History.always_iff`
    * `History.Throughout.invariant`
    * `History.observed_filter`
-/

--------
-- Histories
--------

namespace History

variable {S E : Type}

/- The state after the events, the first one first. -/
def after
    (step : S → E → S)
    (start : S)
    (events : List E) : S :=
  events.foldl step start

@[simp] theorem after_nil
    (step : S → E → S)
    (start : S) :
    after step start [] = start := rfl

@[simp] theorem after_append
    (step : S → E → S)
    (start : S)
    (past later : List E) :
    after step start (past ++ later) =
      after step (after step start past) later :=
  List.foldl_append

@[simp] theorem after_cons
    (step : S → E → S)
    (start : S)
    (e : E)
    (later : List E) :
    after step start (e :: later) =
      after step (step start e) later := rfl

variable {step : S → E → S} {start : S} {P : S → E → Prop}

/- What holds at first and is kept holds after any history. -/
theorem always_of_step
    {P : S → Prop}
    (hStart : P start)
    (hStep : ∀ s e, P s → P (step s e))
    (events : List E) :
    P (after step start events) := by
  induction events generalizing start with
  | nil => exact hStart
  | cons e rest ih => exact ih (hStep start e hStart)

/-
  A property of histories that is kept by exactly the events
  that are `Fine` holds after every part of a history exactly
  when all its events are.
-/
theorem always_iff
    {P : List E → Prop}
    {Fine : List E → E → Prop}
    (hStart : P [])
    (hStep : ∀ past e,
      P past → (P (past ++ [e]) ↔ Fine past e))
    (events : List E) :
    (∀ past, past <+: events → P past) ↔
      ∀ past e, past ++ [e] <+: events → Fine past e := by
  induction events using List.reverseRecOn with
  | nil =>
    constructor
    · intro _ past e hPast
      simp at hPast
    · intro _ past hPast
      rw [List.prefix_nil.mp hPast]
      exact hStart
  | append_singleton events last ih =>
    constructor
    · intro hAll past e hPast
      have hBefore : P past := by
        apply hAll past
        exact (List.prefix_append past [e]).trans hPast
      exact (hStep past e hBefore).mp (hAll _ hPast)
    · intro hFine past hPast
      have hEvents : ∀ past, past <+: events → P past := by
        apply ih.mpr
        intro past e hPast
        apply hFine past e
        exact hPast.trans (List.prefix_append events [last])
      rcases List.prefix_concat_iff.mp hPast with
        rfl | hPast
      · have hBefore :=
          hEvents events (List.prefix_refl events)
        exact (hStep events last hBefore).mpr
          (hFine events last (List.prefix_refl _))
      · exact hEvents past hPast

/- What holds of every event when it comes. -/
def Throughout
    (step : S → E → S)
    (start : S)
    (P : S → E → Prop)
    (events : List E) : Prop :=
  ∀ past e, past ++ [e] <+: events →
    P (after step start past) e

theorem throughout_nil :
    Throughout step start P [] := by
  intro past e hPast
  have hNil := List.prefix_nil.mp hPast
  cases List.append_ne_nil_of_right_ne_nil past
    (List.cons_ne_nil e []) hNil

theorem throughout_cons_iff
    {e : E}
    {rest : List E} :
    Throughout step start P (e :: rest) ↔
      P start e ∧ Throughout step (step start e) P rest := by
  constructor
  · intro hAll
    refine ⟨hAll [] e ⟨rest, rfl⟩, ?_⟩
    rintro past next ⟨later, rfl⟩
    exact hAll (e :: past) next ⟨later, rfl⟩
  · rintro ⟨hFirst, hRest⟩ past next ⟨later, hEq⟩
    cases past with
    | nil =>
      cases hEq
      exact hFirst
    | cons first past =>
      cases hEq
      exact hRest past next ⟨later, rfl⟩

/- What is kept by events as they come holds at the end. -/
theorem Throughout.invariant
    {I : S → Prop}
    {events : List E}
    (hAll : Throughout step start P events)
    (hStart : I start)
    (hStep : ∀ s e, I s → P s e → I (step s e)) :
    I (after step start events) := by
  induction events generalizing start with
  | nil => exact hStart
  | cons e rest ih =>
    rcases throughout_cons_iff.mp hAll with ⟨hFirst, hRest⟩
    exact ih hRest (hStep start e hStart hFirst)

end History

--------
-- Observations
--------

namespace History

variable {S E O : Type}

/- What can be seen of the events, in their order. -/
def observed
    (step : S → E → S)
    (sight : S → E → Option O) : S → List E → List O
  | _, [] => []
  | s, e :: rest =>
    (sight s e).toList ++
      observed step sight (step s e) rest

theorem observed_append
    {step : S → E → S}
    {sight : S → E → Option O}
    (s : S)
    (past later : List E) :
    observed step sight s (past ++ later) =
      observed step sight s past ++
        observed step sight (after step s past) later := by
  induction past generalizing s with
  | nil => rfl
  | cons e rest ih =>
    rw [List.cons_append, observed, observed, ih,
      after_cons, List.append_assoc]

/-
  Events that cannot be seen can be left out of a history if
  they lead to states that look like the states before them,
  and the other events keep the states alike.
-/
theorem observed_filter
    {step : S → E → S}
    {sight : S → E → Option O}
    (Alike : S → S → Prop)
    {kept : E → Bool}
    (hKept : ∀ s t e, kept e = true → Alike s t →
      Alike (step s e) (step t e))
    (hSight : ∀ s t e, kept e = true → Alike s t →
      sight s e = sight t e)
    (hUnseen : ∀ s e, kept e = false → sight s e = none)
    {events : List E}
    {s t : S}
    (hAlike : Alike s t)
    (hDropped : ∀ past e, past ++ [e] <+: events →
      kept e = false → ∀ u, Alike (after step s past) u →
        Alike (step (after step s past) e) u) :
    observed step sight s events =
      observed step sight t (events.filter kept) := by
  induction events generalizing s t with
  | nil => rfl
  | cons e rest ih =>
    have hLater : ∀ past e', past ++ [e'] <+: rest →
        kept e' = false →
        ∀ u, Alike (after step (step s e) past) u → Alike
            (step (after step (step s e) past) e') u := by
      intro past e' hPast
      apply hDropped (e :: past) e'
      exact List.cons_prefix_cons.mpr ⟨rfl, hPast⟩
    cases hKeep : kept e with
    | true =>
      rw [List.filter_cons_of_pos hKeep, observed,
        observed, hSight s t e hKeep hAlike,
        ih (hKept s t e hKeep hAlike) hLater]
    | false =>
      have hNext : Alike (step s e) t := by
        apply hDropped [] e _ hKeep t hAlike
        exact List.cons_prefix_cons.mpr
          ⟨rfl, List.nil_prefix⟩
      rw [List.filter_cons_of_neg
          (by rw [hKeep]; exact Bool.false_ne_true),
        observed, hUnseen s e hKeep, Option.toList_none,
        List.nil_append, ih hNext hLater]

end History
