import Orignabase.Orders.Writes

/-
  Requests that are executed one at a time: what a request
  has read is still stored when it writes.

  Key definitions include:
    * `Order.view`
    * `Agrees`

  Main results:
    * `agrees_inTurn`
-/

--------
-- The Part Of An Order That Inert Steps Keep
--------

namespace Orignabase

open Conc

/- An order up to the cumulative refund. -/
def Order.view (order : Order) : Order :=
  { order with cumulativeRefundedCents := none }

theorem Order.view_apply
    {patch : OrderPatch}
    (hItems : patch.items = none)
    (hStatus : patch.orderStatus = none)
    (hPayment : patch.paymentStatus = none)
    (hRestored : patch.stockRestored = none)
    (hIntent : patch.paymentIntentId = none)
    (hRefunded : patch.refundedAmountCents = none)
    (order : Order) :
    (patch.apply order).view = order.view := by
  simp [Order.view, OrderPatch.apply, hItems, hStatus,
    hPayment, hRestored, hIntent, hRefunded]

/- What the view still shows. -/
theorem Order.fields_of_view
    {order order' : Order}
    (hView : order.view = order'.view) :
    order.items = order'.items ∧
      order.orderStatus = order'.orderStatus ∧
      order.paymentStatus = order'.paymentStatus ∧
      order.paymentIntentId = order'.paymentIntentId := by
  simp only [Order.view, Order.mk.injEq] at hView
  exact ⟨hView.2.1, hView.2.2.1, hView.2.2.2.1,
    hView.2.2.2.2.2.1⟩

/- An inert step shows no order differently. -/
theorem view_exec
    {o : Op}
    (hInert : o.Inert)
    (a : Answer)
    (w : Store)
    (key : String) :
    ((exec o a w).2.orders.get key).map Order.view =
      (w.orders.get key).map Order.view := by
  cases hFault : a.fault with
  | true => rw [exec_fault o hFault]
  | false =>
    have hOk : (o.isRemote || !a.fault) = true := by
      simp [hFault]
    have hColumns := hInert.isColumnWrite
    cases hEdits : o.edits w with
    | none => rw [orders_exec hOk hColumns, hEdits]
    | some edit =>
      rcases edit with ⟨row, patch⟩
      rcases hInert.patch (Op.patch?_of_edits hEdits) with
        ⟨hItems, hStatus, hPayment, hRestored, hIntent,
          hRefunded⟩
      rw [order_of_edits hOk hColumns hEdits]
      split_ifs
      · rw [Option.map_map]
        congr 1
        funext order
        exact Order.view_apply hItems hStatus hPayment
          hRestored hIntent hRefunded order
      · rfl

--------
-- What Was Read Is Stored
--------

/- The reads of a past show the stored orders. -/
def Agrees (w : Store) (tr : Trace) : Prop :=
  ∀ id a order, ⟨.getOrder id, a, .ok order⟩ ∈ tr →
      (w.orders.get (docId "orders" id)).map Order.view =
        some order.view

theorem Agrees.step
    {o : Op}
    {w : Store}
    {tr : Trace}
    (hAgrees : Agrees w tr)
    (hInert : o.Inert)
    (a : Answer) :
    Agrees (exec o a w).2
      (⟨o, a, (exec o a w).1⟩ :: tr) := by
  intro id a' order hMem
  rw [view_exec hInert]
  rcases List.mem_cons.mp hMem with hNew | hOld
  · injection hNew with hOp _ hRes
    subst hOp
    have hOrder := order?_of_getOrder (eq_of_heq hRes).symm
    rw [show w.orders.get (docId "orders" id) = some order
      from hOrder]
    rfl
  · exact hAgrees id a' order hOld

/-
  With one request at a time, a request that has written
  nothing yet has read what is stored.
-/
theorem agrees_inTurn
    {cond : StepCond Op.Res Answer Store}
    {ps : List (Handler OrderReply)}
    {w₀ : Store}
    {c : OrderRun}
    (hInTurn : InTurn exec cond (Config.start w₀ ps) c) :
    ∀ (i : Nat) t, c.threads[i]? = some t →
      t.prog.isDone = false → Fresh t.trace →
        Agrees c.world t.trace := by
  induction hInTurn with
  | refl =>
    intro i t hThread _ _ id a order hMem
    simp only [Config.start, List.getElem?_map,
      Option.map_eq_some_iff] at hThread
    rcases hThread with ⟨p, _, rfl⟩
    exact absurd hMem List.not_mem_nil
  | @step c c' i a _ hStep _ hAlone ih =>
    rcases Config.step_eq_some_iff.mp hStep with
      ⟨tr, o, k, hGet, rfl⟩
    intro j t hThread hBusy hFresh
    by_cases hSame : i = j
    · subst hSame
      have hLt := (List.getElem?_eq_some_iff.mp hGet).1
      rw [List.getElem?_set_self hLt] at hThread
      cases hThread
      have hBefore : Fresh tr :=
        fun e hMem => hFresh e (List.mem_cons_of_mem _ hMem)
      exact (ih i _ hGet rfl hBefore).step
        (hFresh _ List.mem_cons_self) a
    · -- The other threads have read nothing or are done.
      rw [List.getElem?_set_ne hSame] at hThread
      rcases Config.alone_iff.mp hAlone j t hThread with
        hEq | hNone | hDone
      · exact absurd hEq.symm hSame
      · intro id a' order hMem
        rw [hNone] at hMem
        exact absurd hMem List.not_mem_nil
      · rw [hDone] at hBusy
        exact absurd hBusy.symm Bool.false_ne_true

/- The order that a request read, as it is stored. -/
theorem HasRead.stored
    {w : Store}
    {tr : Trace}
    {id : String}
    {order : Order}
    (hRead : HasRead tr id order)
    (hAgrees : Agrees w tr) :
    ∃ stored,
      w.orders.get (docId "orders" id) = some stored ∧
        stored.view = order.view := by
  rcases hRead.event with ⟨a, hMem⟩
  exact Option.map_eq_some_iff.mp (hAgrees id a order hMem)

end Orignabase
