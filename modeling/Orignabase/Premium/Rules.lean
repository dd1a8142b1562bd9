import Orignabase.Lib.Retry
import Orignabase.Premium.Subscriptions

/-
  How the handlers of subscriptions are executed, whatever
  else the world holds.

  Main results:
    * `leads_andThen`
    * `Asks.leads`
    * `leads_resolveSelf`
-/

--------
-- Reading
--------

namespace Orignabase.Premium

open Conc Handler

/- An operation that only reads. -/
def Op.isAsk : Op → Bool
  | .createStripeSubscription .. => false
  | o => o.isQuiet

section

variable {α β : Type}

/- A handler that only reads. -/
def Asks (p : Handler β) : Prop :=
  p.Uses (fun o => o.isAsk = true)

theorem asks_lift (r : Except Error β) : Asks (lift r) :=
  True.intro

theorem asks_requireSubscription (userId : String) :
    Asks (requireSubscription userId) := by
  refine Prog.Uses.bind ?_ ?_
  · refine ⟨rfl, fun r => ?_⟩
    rcases r with e | doc
    · change Prog.Uses _
          (andThen (lift (validateRecordId userId)) fun _ =>
            Db.findSubscriptionOf userId)
      refine Prog.Uses.bind trivial (fun r => ?_)
      rcases r with e | x
      · trivial
      · exact ⟨rfl, fun _ => trivial⟩
    · trivial
  · intro r
    rcases r with e | found
    · trivial
    · cases found <;> trivial

end

--------
-- Sequences
--------

section

variable {W α β : Type} {exec : Exec Op.Res Answer W}
variable {cond : StepCond Op.Res Answer W}
variable {post : W → Except Error α → Prop}
variable {tr : List (Event Op.Res Answer)} {w : W}

theorem leads_andThen
    {p : Handler β}
    {f : β → Handler α}
    {mid : W → Except Error β → Prop}
    (hFirst : p.Leads exec cond mid tr w)
    (hOk :
      ∀ tr w b, mid w (.ok b) →
        (f b).Leads exec cond post tr w)
    (hError : ∀ w e, mid w (.error e) → post w (.error e)) :
    (andThen p f).Leads exec cond post tr w := by
  refine Prog.Leads.bind hFirst ?_
  intro tr w r hMid
  cases r with
  | ok b => exact hOk tr w b hMid
  | error e => exact hError w e hMid

/- A handler that only reads before it goes on. -/
theorem Asks.leads
    {p : Handler β}
    {f : β → Handler α}
    (hAsks : Asks p)
    (hSame :
      ∀ o a, Op.isAsk o = true → (exec o a w).2 = w)
    (hStop : ∀ e, post w (.error e))
    (hNext : ∀ tr b, (f b).Leads exec cond post tr w) :
    (andThen p f).Leads exec cond post tr w := by
  refine leads_andThen
    (Prog.Leads.of_uses hAsks hSame) ?_ ?_
  · intro tr w' b hEq
    rw [hEq]
    exact hNext tr b
  · intro w' e hEq
    rw [hEq]
    exact hStop e

/- Who is resolved is the caller. -/
theorem leads_resolveSelf
    {userId : String}
    {provided : Option String}
    {f : String → Handler α}
    (hStop : ∀ e, post w (.error e))
    (hNext : ∀ tr, (f userId).Leads exec cond post tr w) :
    (andThen (lift (resolveSelfUserId { userId := userId }
          (provided.getD "") "userId")) f).Leads exec cond
      post tr w := by
  have hResolved :
      (lift (R := Op.Res)
        (resolveSelfUserId { userId := userId }
          (provided.getD "") "userId")).Leads exec cond
        (fun w' r => w' = w ∧ ∀ u, r = .ok u → u = userId)
        tr w := by
    refine ⟨rfl, ?_⟩
    intro u hResolve
    unfold resolveSelfUserId at hResolve
    split_ifs at hResolve
    exact (Except.ok.inj hResolve).symm
  refine leads_andThen hResolved ?_ ?_
  · rintro tr w' u ⟨rfl, hUser⟩
    rw [hUser u rfl]
    exact hNext tr
  · rintro w' e ⟨rfl, _⟩
    exact hStop e

end

/- Some row is found where there are rows. -/
theorem anyOf_isSome
    {V : Type}
    {rows : List V}
    (pick : ℕ)
    (hSome : rows ≠ []) :
    ∃ row ∈ rows, anyOf pick rows = some row := by
  have hLt : pick % rows.length < rows.length :=
    Nat.mod_lt _ (List.length_pos_of_ne_nil hSome)
  exact ⟨rows[pick % rows.length], List.getElem_mem hLt,
    List.getElem?_eq_getElem hLt⟩

end Orignabase.Premium
