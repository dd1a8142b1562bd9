import Orignabase.Orders.Refunds
import Orignabase.Store.Rules
import Mathlib.Algebra.Group.Prod
import Mathlib.Algebra.Order.Group.Int
import Mathlib.Tactic.Linarith
import Mathlib.Tactic.Ring

/-
  The accounts of item refunds under any interleaving.

  A request holds what it has reserved but not yet charged,
  and what it has charged but not yet recorded.  The stored
  cumulative refund is what the items record plus all
  holdings; the money moved by Stripe is what the items
  record plus the charged part.

  Key definitions include:
    * `refundedCents`
    * `refundedMoney`
    * `refundStep`
    * `Accounts`

  Main results:
    * `keeps_refundOrderItem`
    * `refunds_accounted`
-/

--------
-- Accounts
--------

namespace Orignabase

open Conc

/- The amounts recorded on the refunded items. -/
def refundedCents (items : List Item) : Int :=
  ((items.filter (fun it =>
    it.status = OrderStatus.refunded.asStr)).map
      (fun it => it.refundAmountCents.getD 0)).sum

/- The money that Stripe refunded for a payment intent. -/
def refundedMoney (w : Store) (paymentIntentId : String) :
    Int :=
  ((w.refunds.filter (fun r =>
    r.paymentIntentId = paymentIntentId)).map
      (fun r => r.amountCents.getD 0)).sum

/-
  The steps that keep the accounts.  A database statement
  does not fail; an unconditional write of the cumulative
  refund finds it as the request read it last, a write of the
  items finds them as the request read them first; an amount
  is reserved for an order with a payment intent and is not
  negative; and Stripe refunds under a key once.
-/
def refundStep
    (tr : Trace)
    (o : Op)
    (a : Answer)
    (w : Store) : Bool :=
  (o.isRemote || !a.fault) &&
    match o with
    | .updateOrder id patch =>
      (patch.cumulativeRefundedCents.isNone ||
        (w.order? id).map Order.cumulative =
          (lastOrder tr).map Order.cumulative) &&
        (patch.items.isNone ||
          (w.order? id).map Order.items =
            (firstOrder tr).map Order.items)
    | .casOrder _ patch (.cumulative expected) =>
      (firstOrder tr).any
          (fun order => order.paymentIntentId ≠ "") &&
        patch.cumulativeRefundedCents.any
          (fun new => expected ≤ new)
    | .stripeRefund _ _ key =>
      a.fault || w.refunds.all (fun r => r.key ≠ key)
    | _ => true

/- The step condition of a refund run. -/
def RefundStep : StepCond Op.Res Answer Store :=
  fun tr o a w => refundStep tr o a w = true

instance (tr : Trace) (o : Op) (a : Answer) (w : Store) :
    Decidable (RefundStep tr o a w) :=
  inferInstanceAs (Decidable (refundStep tr o a w = true))

/-
  Reserved and charged holdings against the order `oid` of
  the given total and payment intent.
-/
def Accounts
    (oid paymentIntentId : String)
    (total : Int)
    (w : Store)
    (held : ℕ × ℕ) : Prop :=
  ∃ order, w.order? oid = some order ∧
      order.totalAmountCents = total ∧
      order.paymentIntentId = paymentIntentId ∧
      order.cumulative =
        refundedCents order.items + held.1 + held.2 ∧
      refundedMoney w paymentIntentId =
        refundedCents order.items + held.2 ∧
      order.cumulative ≤ total ∧
      0 ≤ refundedCents order.items

theorem refundedMoney_append
    (w : Store)
    (key paymentIntentId : String)
    (amount : Int) :
    refundedMoney
        { w with
          refunds := w.refunds ++
              [⟨key, paymentIntentId, some amount⟩] }
        paymentIntentId =
      refundedMoney w paymentIntentId + amount := by
  simp [refundedMoney]

theorem refundedCents_cons
    (it : Item)
    (rest : List Item) :
    refundedCents (it :: rest) =
      (if it.status = OrderStatus.refunded.asStr then
        it.refundAmountCents.getD 0
      else 0) + refundedCents rest := by
  unfold refundedCents
  by_cases hStatus : it.status = OrderStatus.refunded.asStr
  · simp [hStatus]
  · simp [hStatus]

/- Recording a refund adds its amount. -/
theorem refundedCents_markRefunded
    {items : List Item}
    {item : Item}
    {productId : String}
    (hFind :
      items.find? (fun it => it.productId = productId) =
        some item)
    (hStatus : item.status ≠ OrderStatus.refunded.asStr)
    (now reason : String)
    (amount : Int)
    (refundId : Option String) :
    refundedCents
        (modifyFirst (fun it => it.productId = productId)
          (fun it =>
            it.markRefunded now reason amount refundId)
          items) =
      refundedCents items + amount := by
  induction items with
  | nil => simp at hFind
  | cons it rest ih =>
    by_cases hMatch : it.productId = productId
    · have hItem : it = item := by
        simpa [hMatch] using hFind
      subst hItem
      simp only [modifyFirst, hMatch, decide_true, if_true,
        refundedCents_cons, Item.markRefunded, hStatus,
        if_false, Option.getD_some]
      ring
    · have hRest :
          rest.find? (fun it => it.productId = productId) =
            some item := by
        simpa [hMatch] using hFind
      have hTail := ih hRest
      simp only [modifyFirst, hMatch, decide_false,
        Bool.false_eq_true, if_false, refundedCents_cons,
        hTail]
      ring

--------
-- The Steps Of A Refund
--------

section

variable {α : Type} {oid pi : String} {total : Int}
variable {post : Trace → ℕ × ℕ → α → Prop} {tr : Trace}
variable {g : ℕ × ℕ} {id : String}

/- A refund program that holds `g` after the past `tr`. -/
def KeepsRefund
    (oid pi : String)
    (total : Int)
    (post : Trace → ℕ × ℕ → α → Prop)
    (tr : Trace)
    (g : ℕ × ℕ)
    (p : Prog Op.Res α) : Prop :=
  p.Keeps exec RefundStep (Accounts oid pi total)
    (fun _ _ => True) post tr g

variable {w : Store} {amount : Int}

theorem fault_eq_false
    {o : Op}
    {a : Answer}
    (hCond : RefundStep tr o a w)
    (hLocal : o.isRemote = false) :
    a.fault = false := by
  simp only [RefundStep, refundStep, hLocal, Bool.false_or,
    Bool.and_eq_true, Bool.not_eq_true'] at hCond
  exact hCond.1

/- Operations that touch neither orders nor refunds. -/
def Op.sparesOrders (o : Op) : Prop :=
  o.isRead = true ∨
    ∃ id stock expected, o = .casProduct id stock expected

theorem accounts_of_sparesOrders
    {o : Op}
    (hSpares : o.sparesOrders)
    (a : Answer)
    {held : ℕ × ℕ}
    (hAccounts : Accounts oid pi total w held) :
    Accounts oid pi total (exec o a w).2 held := by
  rcases hSpares with hRead | ⟨id, stock, expected, rfl⟩
  · rw [exec_read hRead]
    exact hAccounts
  · rcases hAccounts with ⟨order, hOrder, hRest⟩
    have hSame :
        (exec (.casProduct id stock expected) a w).2 = w ∨
          (exec (.casProduct id stock expected) a w).2 =
            w.setStock id stock := by
      simp only [exec, Answer.guard]
      split_ifs
      · exact Or.inl rfl
      · exact Or.inr rfl
      · exact Or.inl rfl
    rcases hSame with hSame | hSame
    · rw [hSame]
      exact ⟨order, hOrder, hRest⟩
    · rw [hSame]
      exact ⟨order, hOrder, hRest⟩

theorem keepsRefund_getOrder
    {k : Op.Res (.getOrder id) → Prog Op.Res α}
    (hId : docId "orders" id = docId "orders" oid)
    (hNext :
      ∀ a order, order.totalAmountCents = total →
        order.paymentIntentId = pi →
        KeepsRefund oid pi total post
          (⟨.getOrder id, a, .ok order⟩ :: tr) g
          (k (.ok order))) :
    KeepsRefund oid pi total post tr g
      (.call (.getOrder id) k) := by
  apply keeps_read rfl trivial
  intro a w m hInv hCond
  rcases hInv with ⟨order, hOrder, hTotal, hIntent, _⟩
  have hFault := fault_eq_false hCond rfl
  have hOrder' : w.order? id = some order := by
    rw [w.order?_congr hId, hOrder]
  rw [exec_getOrder hFault hOrder']
  exact hNext a order hTotal hIntent

/- The accounts after a patch of the order. -/
theorem accounts_modifyOrder
    {order : Order}
    {held : ℕ × ℕ}
    (patch : OrderPatch)
    (hId : docId "orders" id = docId "orders" oid)
    (hOrder : w.order? oid = some order)
    (hTotal : order.totalAmountCents = total)
    (hIntent : (patch.apply order).paymentIntentId = pi)
    (hCum :
      (patch.apply order).cumulative =
        refundedCents (patch.apply order).items + held.1 +
          held.2)
    (hMoney :
      refundedMoney w pi =
        refundedCents (patch.apply order).items + held.2)
    (hCap : (patch.apply order).cumulative ≤ total)
    (hNonneg :
      0 ≤ refundedCents (patch.apply order).items) :
    Accounts oid pi total (w.modifyOrder id patch.apply)
      held := by
  refine ⟨patch.apply order, ?_, hTotal, hIntent, hCum,
    hMoney, hCap, hNonneg⟩
  rw [Store.order?_modifyOrder, if_pos hId.symm, hOrder]
  rfl

/- The field is created with the value it is read as. -/
theorem keepsRefund_initCumulative
    {k :
      Op.Res (.updateOrder id
        { cumulativeRefundedCents := some 0 }) →
        Prog Op.Res α}
    {last : Order}
    (hId : docId "orders" id = docId "orders" oid)
    (hLast : lastOrder tr = some last)
    (hMissing : last.cumulativeRefundedCents = none)
    (hNext :
      ∀ a, KeepsRefund oid pi total post (⟨.updateOrder id
            { cumulativeRefundedCents := some 0 }, a,
            .ok ()⟩ :: tr) g (k (.ok ()))) :
    KeepsRefund oid pi total post tr g
      (.call (.updateOrder id
          { cumulativeRefundedCents := some 0 }) k) := by
  refine ⟨trivial, ?_⟩
  intro a w m hInv hCond
  rcases hInv with
    ⟨order, hOrder, hTotal, hIntent, hCum, hMoney, hCap,
      hNonneg⟩
  have hFault := fault_eq_false hCond rfl
  have hOrder' : w.order? id = some order := by
    rw [w.order?_congr hId, hOrder]
  have hZero : order.cumulative = 0 := by
    have hLastZero : last.cumulative = 0 := by
      simp [Order.cumulative, hMissing]
    simpa [RefundStep, refundStep, hOrder', hLast,
      hLastZero, hFault] using hCond
  refine ⟨g, ?_, ?_⟩
  · rw [exec_updateOrder hFault hOrder']
    refine accounts_modifyOrder _ hId hOrder hTotal hIntent
      ?_ ?_ ?_ ?_
    · rw [hZero] at hCum
      simpa [Order.cumulative] using hCum
    · simpa using hMoney
    · rw [hZero] at hCap
      simpa [Order.cumulative] using hCap
    · simpa using hNonneg
  · rw [exec_updateOrder hFault hOrder']
    exact hNext a

/- The guarded update reserves the amount or does nothing. -/
theorem keepsRefund_reserve
    {cur : Int}
    {k :
      Op.Res (.casOrder id
        { cumulativeRefundedCents := some (cur + amount) }
        (.cumulative cur)) → Prog Op.Res α}
    {first : Order}
    (hId : docId "orders" id = docId "orders" oid)
    (hFirst : firstOrder tr = some first)
    (hCap : cur + amount ≤ total)
    (hReserved :
      ∀ a, 0 ≤ amount →
        first.paymentIntentId ≠ "" →
        KeepsRefund oid pi total post (⟨.casOrder id
            { cumulativeRefundedCents := some (cur + amount) }
            (.cumulative cur), a, .ok true⟩ :: tr)
          (amount.toNat, 0) (k (.ok true)))
    (hMissed :
      ∀ a, KeepsRefund oid pi total post (⟨.casOrder id
            { cumulativeRefundedCents := some (cur + amount) }
            (.cumulative cur), a, .ok false⟩ :: tr)
          0 (k (.ok false))) :
    KeepsRefund oid pi total post tr 0
      (.call (.casOrder id
          { cumulativeRefundedCents := some (cur + amount) }
          (.cumulative cur)) k) := by
  refine ⟨trivial, ?_⟩
  intro a w m hInv hCond
  rcases hInv with
    ⟨order, hOrder, hTotal, hIntent, hCum, hMoney, _,
      hNonneg⟩
  have hFault := fault_eq_false hCond rfl
  have hOrder' : w.order? id = some order := by
    rw [w.order?_congr hId, hOrder]
  have hArgs : first.paymentIntentId ≠ "" ∧ 0 ≤ amount := by
    simpa [RefundStep, refundStep, hFirst, hFault] using
      hCond
  rw [exec_casOrder hFault hOrder']
  by_cases hHolds :
      (OrderGuard.cumulative cur).holds order = true
  · have hCur :
        order.cumulativeRefundedCents = some cur := by
      simpa [OrderGuard.holds] using hHolds
    have hNat : (amount.toNat : Int) = amount :=
      Int.toNat_of_nonneg hArgs.2
    have hValue : order.cumulative = cur := by
      simp [Order.cumulative, hCur]
    rw [if_pos hHolds]
    refine ⟨(amount.toNat, 0), ?_,
      hReserved a hArgs.2 hArgs.1⟩
    refine accounts_modifyOrder _ hId hOrder hTotal hIntent
      ?_ ?_ ?_ ?_
    · simp only [OrderPatch.apply_items, Option.getD_none,
        Order.cumulative,
        OrderPatch.apply_cumulativeRefundedCents,
        Option.some_or, Option.getD_some]
      simp only [zero_add, Prod.fst_add, Prod.snd_add,
        Nat.cast_add, hValue] at hCum ⊢
      omega
    · simpa using hMoney
    · simpa [Order.cumulative] using hCap
    · simpa using hNonneg
  · rw [if_neg hHolds]
    exact ⟨0, ⟨order, hOrder, hTotal, hIntent, hCum, hMoney,
      by assumption, hNonneg⟩, hMissed a⟩

/- A charge turns the reservation into a charged amount. -/
theorem keepsRefund_charge
    {key : String}
    {k :
      Op.Res (.stripeRefund pi (some amount) key) →
        Prog Op.Res α}
    (hAmount : 0 ≤ amount)
    (hCharged :
      ∀ a refundId, KeepsRefund oid pi total post
          (⟨.stripeRefund pi (some amount) key, a,
            .ok refundId⟩ :: tr)
          (0, amount.toNat) (k (.ok refundId)))
    (hFailed :
      ∀ a e, KeepsRefund oid pi total post
          (⟨.stripeRefund pi (some amount) key, a,
            .error e⟩ :: tr)
          (amount.toNat, 0) (k (.error e))) :
    KeepsRefund oid pi total post tr (amount.toNat, 0)
      (.call (.stripeRefund pi (some amount) key) k) := by
  refine ⟨trivial, ?_⟩
  intro a w m hInv hCond
  cases hFault : a.fault with
  | true =>
    have hExec :
        exec (.stripeRefund pi (some amount) key) a w =
          (.error .fault, w) := by
      simp only [exec, Answer.guard, hFault]
      rfl
    rw [hExec]
    exact ⟨_, hInv, hFailed a _⟩
  | false =>
    have hFresh :
        w.refunds.any (fun r => r.key = key) = false := by
      simpa [RefundStep, refundStep, hFault, Op.isRemote]
        using hCond
    have hExec :
        exec (.stripeRefund pi (some amount) key) a w =
          (.ok a.refundId,
            { w with
              refunds :=
                w.refunds ++ [⟨key, pi, some amount⟩] }) := by
      simp only [exec, Answer.guard, hFault, hFresh]
      rfl
    rcases hInv with
      ⟨order, hOrder, hTotal, hIntent, hCum, hMoney, hCap,
        hNonneg⟩
    have hNat : (amount.toNat : Int) = amount :=
      Int.toNat_of_nonneg hAmount
    rw [hExec]
    refine ⟨(0, amount.toNat), ?_, hCharged a _⟩
    refine ⟨order, hOrder, hTotal, hIntent, ?_, ?_, hCap,
      hNonneg⟩
    · simp only [Prod.fst_add, Prod.snd_add,
        Nat.cast_add, Nat.cast_zero] at hCum ⊢
      omega
    · rw [refundedMoney_append]
      simp only [Prod.snd_add, Nat.cast_add,
        Nat.cast_zero] at hMoney ⊢
      omega

/- The rollback gives the reservation back. -/
theorem keepsRefund_rollback
    {last : Order}
    {k :
      Op.Res (.updateOrder id
        { cumulativeRefundedCents :=
            some (max (last.cumulative - amount) 0) }) →
        Prog Op.Res α}
    (hId : docId "orders" id = docId "orders" oid)
    (hAmount : 0 ≤ amount)
    (hLast : lastOrder tr = some last)
    (hNext :
      ∀ a, KeepsRefund oid pi total post (⟨.updateOrder id
            { cumulativeRefundedCents :=
                some (max (last.cumulative - amount) 0) },
            a, .ok ()⟩ :: tr) 0 (k (.ok ()))) :
    KeepsRefund oid pi total post tr (amount.toNat, 0)
      (.call (.updateOrder id
          { cumulativeRefundedCents :=
              some (max (last.cumulative - amount) 0) })
        k) := by
  refine ⟨trivial, ?_⟩
  intro a w m hInv hCond
  rcases hInv with
    ⟨order, hOrder, hTotal, hIntent, hCum, hMoney, hCap,
      hNonneg⟩
  have hFault := fault_eq_false hCond rfl
  have hOrder' : w.order? id = some order := by
    rw [w.order?_congr hId, hOrder]
  have hValue : last.cumulative = order.cumulative := by
    have hSame : order.cumulative = last.cumulative := by
      simpa [RefundStep, refundStep, hOrder', hLast, hFault]
        using hCond
    exact hSame.symm
  have hNat : (amount.toNat : Int) = amount :=
    Int.toNat_of_nonneg hAmount
  simp only [Prod.fst_add, Prod.snd_add, Nat.cast_add,
    Nat.cast_zero] at hCum hMoney
  rw [exec_updateOrder hFault hOrder']
  refine ⟨0, ?_, hNext a⟩
  refine accounts_modifyOrder _ hId hOrder hTotal hIntent
    ?_ ?_ ?_ ?_
  · simp only [OrderPatch.apply_items, Option.getD_none,
      Order.cumulative,
      OrderPatch.apply_cumulativeRefundedCents,
      Option.some_or, Option.getD_some, zero_add]
    rw [← Order.cumulative, hValue]
    omega
  · simpa using hMoney
  · simp only [Order.cumulative,
      OrderPatch.apply_cumulativeRefundedCents,
      Option.some_or, Option.getD_some]
    rw [← Order.cumulative, hValue]
    omega
  · simpa using hNonneg

/- Recording the refund settles the charged amount. -/
theorem keepsRefund_record
    {first : Order}
    {item : Item}
    {productId now reason : String}
    {refundId : Option String}
    {k :
      Op.Res (.updateOrder id
        { items :=
            some (modifyFirst
              (fun it => it.productId = productId)
              (fun it =>
                it.markRefunded now reason amount refundId)
              first.items) }) → Prog Op.Res α}
    (hId : docId "orders" id = docId "orders" oid)
    (hAmount : 0 ≤ amount)
    (hFirst : firstOrder tr = some first)
    (hFind :
      first.items.find?
          (fun it => it.productId = productId) =
        some item)
    (hStatus : item.status ≠ OrderStatus.refunded.asStr)
    (hNext :
      ∀ tr', KeepsRefund oid pi total post tr' 0
        (k (.ok ()))) :
    KeepsRefund oid pi total post tr (0, amount.toNat)
      (.call (.updateOrder id
          { items :=
              some (modifyFirst
                (fun it => it.productId = productId)
                (fun it =>
                  it.markRefunded now reason amount
                    refundId)
                first.items) }) k) := by
  refine ⟨trivial, ?_⟩
  intro a w m hInv hCond
  rcases hInv with
    ⟨order, hOrder, hTotal, hIntent, hCum, hMoney, hCap,
      hNonneg⟩
  have hFault := fault_eq_false hCond rfl
  have hOrder' : w.order? id = some order := by
    rw [w.order?_congr hId, hOrder]
  have hSame : order.items = first.items := by
    simpa [RefundStep, refundStep, hOrder', hFirst, hFault]
      using hCond
  have hSum :=
    refundedCents_markRefunded hFind hStatus now reason
      amount refundId
  have hNat : (amount.toNat : Int) = amount :=
    Int.toNat_of_nonneg hAmount
  simp only [Prod.fst_add, Prod.snd_add, Nat.cast_add,
    Nat.cast_zero, hSame] at hCum hMoney hNonneg
  rw [exec_updateOrder hFault hOrder']
  refine ⟨0, ?_, hNext _⟩
  refine accounts_modifyOrder _ hId hOrder hTotal hIntent
    ?_ ?_ ?_ ?_
  · simp only [OrderPatch.apply_items, Option.getD_some,
      Order.cumulative,
      OrderPatch.apply_cumulativeRefundedCents,
      Option.none_or, zero_add, hSum]
    rw [← Order.cumulative]
    omega
  · simp only [OrderPatch.apply_items, Option.getD_some,
      hSum, zero_add]
    omega
  · simpa [Order.cumulative] using hCap
  · simp only [OrderPatch.apply_items, Option.getD_some,
      hSum]
    omega

end

--------
-- A Whole Request
--------

open Handler

section

variable {oid pi : String} {total : Int}

/- A finished request holds nothing. -/
def Clear {α : Type} :
    Trace → ℕ × ℕ → α → Prop :=
  fun _ g _ => g = 0

theorem uses_restoreStock
    (message productId : String)
    (qty : Int)
    (attempts : Nat) :
    (restoreStock message productId qty attempts).Uses
      Op.sparesOrders := by
  induction attempts with
  | zero => trivial
  | succ attempts ih =>
    refine ⟨Or.inl rfl, ?_⟩
    intro r
    refine ⟨Or.inr ⟨_, _, _, rfl⟩, ?_⟩
    intro r'
    cases r' with
    | error e => trivial
    | ok restored =>
      cases restored with
      | false => exact ih
      | true => trivial

theorem uses_settleRefund
    (req : RefundItemRequest)
    (userId : String)
    (item : Item)
    (amount : Int)
    (refundId : Option String) :
    (settleRefund req userId item amount refundId).Uses
      Op.sparesOrders := by
  have hLog :
      (andThen (context
          (Db.createOrderEvent req.orderId userId
            "item_refunded")
          "Failed to log refund event: ")
        (fun _ =>
          ok (⟨true, amount, refundId, none⟩ :
            RefundItemResponse))).Uses
        Op.sparesOrders := by
    refine ⟨Or.inl rfl, ?_⟩
    intro r
    cases r <;> trivial
  unfold settleRefund
  split
  · apply Prog.Uses.bind (uses_restoreStock ..)
    intro r
    cases r with
    | error e => trivial
    | ok restored => exact hLog
  · refine ⟨Or.inl rfl, ?_⟩
    intro r
    cases r with
    | error e => trivial
    | ok u => exact hLog

theorem keepsRefund_settle
    (req : RefundItemRequest)
    (userId : String)
    (item : Item)
    (amount : Int)
    (refundId : Option String)
    (tr : Trace) :
    KeepsRefund oid pi total Clear tr 0
      (settleRefund req userId item amount refundId) := by
  apply Prog.Keeps.mono
    (Prog.Uses.keeps (uses_settleRefund ..) ?_ ?_ trivial)
  · intro tr g r hPost
    exact hPost.1
  · intro o a w m hSpares hInv
    exact accounts_of_sparesOrders hSpares a hInv
  · intro _ _ _ _
    trivial

/- What a reservation leaves the request with. -/
def Reserved (first : Order) (amount : Int) :
    Trace → ℕ × ℕ → Except Error Bool → Prop :=
  fun tr g r =>
    firstOrder tr = some first ∧
      if r = .ok true then
        g = (amount.toNat, 0) ∧ 0 ≤ amount ∧
          first.paymentIntentId ≠ ""
      else g = 0

variable {amount : Int} {first : Order} {tr : Trace}
variable {req : RefundItemRequest} {item : Item}

theorem keepsRefund_casCumulative
    {id : String}
    {curOrder : Order}
    {missed : Handler Bool}
    (hId : docId "orders" id = docId "orders" oid)
    (hFirst : firstOrder tr = some first)
    (hCap : curOrder.cumulative + amount ≤ total)
    (hMissed :
      ∀ tr, firstOrder tr = some first →
        KeepsRefund oid pi total (Reserved first amount)
          tr 0 missed) :
    KeepsRefund oid pi total (Reserved first amount) tr 0
      (casCumulative id amount curOrder missed) := by
  apply keepsRefund_reserve hId hFirst hCap
  · intro a hAmount hIntent
    refine ⟨trivial, firstOrder_cons_of_some hFirst _, ?_⟩
    rw [if_pos rfl]
    exact ⟨rfl, hAmount, hIntent⟩
  · intro a
    exact hMissed _ (firstOrder_cons_of_some hFirst _)

theorem keepsRefund_tryReserve
    {id : String}
    {curOrder : Order}
    {missed : Handler Bool}
    (hId : docId "orders" id = docId "orders" oid)
    (hFirst : firstOrder tr = some first)
    (hLast : lastOrder tr = some curOrder)
    (hTotal : curOrder.totalAmountCents = total)
    (hMissed :
      ∀ tr, firstOrder tr = some first →
        KeepsRefund oid pi total (Reserved first amount)
          tr 0 missed) :
    KeepsRefund oid pi total (Reserved first amount) tr 0
      (tryReserve id amount curOrder missed) := by
  unfold tryReserve
  split_ifs with hOver hMissing
  · exact ⟨trivial, hFirst, by simp⟩
  · rw [gt_iff_lt, not_lt, hTotal] at hOver
    apply keepsRefund_initCumulative hId hLast hMissing
    intro a
    exact keepsRefund_casCumulative hId
      (firstOrder_cons_of_some hFirst _) hOver hMissed
  · rw [gt_iff_lt, not_lt, hTotal] at hOver
    exact keepsRefund_casCumulative hId hFirst hOver hMissed

theorem keepsRefund_reserveRefund
    {id : String}
    (hId : docId "orders" id = docId "orders" oid)
    (attempts : Nat)
    (hFirst : firstOrder tr = some first) :
    KeepsRefund oid pi total (Reserved first amount) tr 0
      (reserveRefund id amount attempts) := by
  induction attempts generalizing tr with
  | zero => exact ⟨trivial, hFirst, by simp⟩
  | succ attempts ih =>
    apply keepsRefund_getOrder hId
    intro a order hTotal _
    apply keepsRefund_tryReserve hId
      (firstOrder_cons_of_some hFirst _) rfl hTotal
    intro tr hTr
    split_ifs
    · exact ⟨trivial, hTr, by simp⟩
    · exact ih hTr

theorem keepsRefund_refuseRefund
    {α : Type}
    {id : String}
    (hId : docId "orders" id = docId "orders" oid)
    (amount : Int)
    (tr : Trace) :
    KeepsRefund oid pi total Clear tr 0
      (refuseRefund id amount : Handler α) := by
  apply keepsRefund_getOrder hId
  intro a order _ _
  exact ⟨trivial, rfl⟩

theorem keepsRefund_rollbackRefund
    {α : Type}
    {id : String}
    (hId : docId "orders" id = docId "orders" oid)
    (hAmount : 0 ≤ amount)
    (stripeErr : Error)
    (tr : Trace) :
    KeepsRefund oid pi total Clear tr (amount.toNat, 0)
      (rollbackRefund id amount stripeErr : Handler α) := by
  apply keepsRefund_getOrder hId
  intro a order _ _
  apply keepsRefund_rollback hId hAmount rfl
  intro a'
  exact ⟨trivial, rfl⟩

theorem keepsRefund_recordRefund
    (hId :
      docId "orders" req.orderId = docId "orders" oid)
    (hAmount : 0 ≤ amount)
    (hFirst : firstOrder tr = some first)
    (hFind :
      first.items.find?
          (fun it => it.productId = req.productId) =
        some item)
    (hStatus : item.status ≠ OrderStatus.refunded.asStr)
    (userId reason : String)
    (refundId : Option String) :
    KeepsRefund oid pi total Clear tr (0, amount.toNat)
      (recordRefund req userId reason first.items item
        amount refundId) := by
  apply keeps_read rfl trivial
  intro a w m _ _
  apply keepsRefund_record hId hAmount
    (firstOrder_cons_of_some hFirst _) hFind hStatus
  intro tr'
  exact keepsRefund_settle ..

theorem keepsRefund_performRefund
    (hBare :
      docId "orders" (docId "orders" oid) =
        docId "orders" oid)
    (hId :
      docId "orders" req.orderId = docId "orders" oid)
    (hIntent : first.paymentIntentId = pi)
    (hFirst : firstOrder tr = some first)
    (hFind :
      first.items.find?
          (fun it => it.productId = req.productId) =
        some item)
    (hStatus : item.status ≠ OrderStatus.refunded.asStr)
    (userId : String)
    (amount : Int) :
    KeepsRefund oid pi total Clear tr 0
      (performRefund req userId first item amount) := by
  have hStripped :
      docId "orders" (docId "orders" req.orderId) =
        docId "orders" oid := by
    rw [hId, hBare]
  apply Prog.Keeps.bind
    (keepsRefund_reserveRefund hStripped 3 hFirst)
  rintro tr g r ⟨hTr, hHeld⟩ _
  cases r with
  | error e =>
    rw [if_neg (by simp)] at hHeld
    exact ⟨trivial, hHeld⟩
  | ok reserved =>
    cases reserved with
    | false =>
      rw [if_neg (by simp)] at hHeld
      subst hHeld
      exact keepsRefund_refuseRefund hId amount tr
    | true =>
      rw [if_pos rfl] at hHeld
      rcases hHeld with ⟨rfl, hAmount, hNonempty⟩
      subst hIntent
      simp only [Bool.not_true, Bool.false_eq_true,
        if_false, Handler.require, hNonempty, ne_eq,
        not_false_eq_true, decide_true, if_true]
      apply keepsRefund_charge hAmount
      · intro a refundId
        exact keepsRefund_recordRefund hId hAmount
          (firstOrder_cons_of_some hTr _) hFind hStatus
          _ _ _
      · intro a e
        exact keepsRefund_rollbackRefund hStripped
          hAmount e _

theorem keepsRefund_refundFoundItem
    (hBare :
      docId "orders" (docId "orders" oid) =
        docId "orders" oid)
    (hId :
      docId "orders" req.orderId = docId "orders" oid)
    (hIntent : first.paymentIntentId = pi)
    (hFirst : firstOrder tr = some first)
    (hFind :
      first.items.find?
          (fun it => it.productId = req.productId) =
        some item)
    (userId : String)
    (isAdmin : Bool) :
    KeepsRefund oid pi total Clear tr 0
      (refundFoundItem req userId first isAdmin item) := by
  apply keeps_require trivial rfl
  intro _
  apply keeps_require trivial rfl
  intro _
  apply keeps_require trivial rfl
  intro _
  by_cases hStatus :
      item.status = OrderStatus.refunded.asStr
  · rw [if_pos hStatus]
    exact ⟨trivial, rfl⟩
  rw [if_neg hStatus]
  have hRest :
      ∀ tr closed, firstOrder tr = some first →
        KeepsRefund oid pi total Clear tr 0
          (Handler.require (!closed) (.validation
              ("Return window expired. Returns not " ++
                "accepted after 30 days post-delivery."))
            (andThen
              (lift (calculateRefundAmountCents first item))
              fun amount =>
                performRefund req userId first item
                  amount)) := by
    intro tr closed hTr
    apply keeps_require trivial rfl
    intro _
    apply keeps_lift trivial
    · intro e _
      rfl
    · intro amount _
      exact keepsRefund_performRefund hBare hId hIntent hTr
        hFind hStatus userId amount
  unfold returnWindowClosed
  cases item.deliveredAt with
  | none => exact hRest tr false hFirst
  | some deliveredAt =>
    dsimp only
    split_ifs
    · apply keeps_read rfl trivial
      intro a w m _ _
      exact hRest _ _ (firstOrder_cons_of_some hFirst _)
    · exact hRest tr false hFirst

/- A refund request keeps the accounts. -/
theorem keeps_refundOrderItem
    (auth : AuthContext)
    (hBare :
      docId "orders" (docId "orders" oid) =
        docId "orders" oid)
    (hId :
      docId "orders" req.orderId = docId "orders" oid) :
    KeepsRefund oid pi total Clear [] 0
      (refundOrderItem auth req) := by
  apply keeps_lift trivial (fun _ _ => rfl)
  intro _ _
  apply keeps_lift trivial (fun _ _ => rfl)
  intro _ _
  apply keeps_read rfl trivial
  intro a w m _ _
  cases (exec (.rateLimit auth.userId "refund_order_item")
      a w).1 with
  | error e => exact ⟨trivial, rfl⟩
  | ok u =>
    apply keepsRefund_getOrder hId
    intro a' order _ hIntent
    apply keeps_isUserAdmin trivial
    intro a'' r isAdmin
    cases hFind :
        order.items.find?
          (fun it => it.productId = req.productId) with
    | none => exact ⟨trivial, rfl⟩
    | some item =>
      exact keepsRefund_refundFoundItem hBare hId hIntent
        rfl hFind auth.userId isAdmin

end

--------
-- Whole Runs
--------

/-
  The cumulative refund, the amounts recorded on the items
  and the money moved by Stripe agree.
-/
def RefundsAgree (w : Store) (order : Order) : Prop :=
  order.cumulative = refundedCents order.items ∧
    refundedCents order.items =
      refundedMoney w order.paymentIntentId

instance (w : Store) (order : Order) :
    Decidable (RefundsAgree w order) :=
  inferInstanceAs (Decidable (_ ∧ _))

/- The refund requests of a run. -/
def refundRequests
    (reqs : List (AuthContext × RefundItemRequest)) :
    List (Handler RefundItemResponse) :=
  reqs.map (fun r => refundOrderItem r.1 r.2)

/-
  From an order whose accounts agree, in every run of refund
  requests whose steps meet `RefundStep`, the money refunded
  stays within the order total, and the accounts agree again
  whenever no request is in progress.
-/
theorem refunds_accounted
    {w₀ : Store}
    (oid : String)
    {order₀ : Order}
    (hBare :
      docId "orders" (docId "orders" oid) =
        docId "orders" oid)
    (hOrder : w₀.order? oid = some order₀)
    (hAgree : RefundsAgree w₀ order₀)
    (hNonneg : 0 ≤ order₀.cumulative)
    (hCap : order₀.cumulative ≤ order₀.totalAmountCents)
    {reqs : List (AuthContext × RefundItemRequest)}
    (hReqs :
      ∀ r ∈ reqs,
        docId "orders" r.2.orderId = docId "orders" oid)
    {c :
      Config Op.Res Answer Store
        (Except Error RefundItemResponse)}
    (hReach :
      Reach exec RefundStep
        (Config.start w₀ (refundRequests reqs)) c) :
    ∃ order, c.world.order? oid = some order ∧
        order.totalAmountCents = order₀.totalAmountCents ∧
        order.paymentIntentId = order₀.paymentIntentId ∧
        refundedMoney c.world order.paymentIntentId ≤
          order.totalAmountCents ∧
        (c.Idle → RefundsAgree c.world order) := by
  have hInv :
      Accounts oid order₀.paymentIntentId
        order₀.totalAmountCents w₀ 0 := by
    refine ⟨order₀, hOrder, rfl, rfl, ?_, ?_, hCap, ?_⟩
    · simpa using hAgree.1
    · simpa using hAgree.2.symm
    · rw [← hAgree.1]
      exact hNonneg
  have hKeeps :
      ∀ p ∈ refundRequests reqs, p.Keeps exec RefundStep
          (Accounts oid order₀.paymentIntentId
            order₀.totalAmountCents)
          (fun _ _ => True) Clear [] 0 := by
    intro p hp
    rcases List.mem_map.mp hp with ⟨r, hr, rfl⟩
    exact keeps_refundOrderItem r.1 hBare (hReqs r hr)
  have hBalanced :=
    Reach.accounts (Balanced.start hInv hKeeps) hReach
  rcases hBalanced with
    ⟨gs, ⟨order, hNow, hTotal, hIntent, hCum, hMoney, hLe,
      _⟩, hAll⟩
  refine ⟨order, hNow, hTotal, hIntent, ?_, ?_⟩
  · rw [hIntent, hTotal, hMoney]
    omega
  · intro hDone
    have hZero : gs.sum = 0 :=
      Balanced.idle_map_sum (AddMonoidHom.id _)
        (fun _ _ _ hPost => hPost) hAll hDone
    rw [hZero] at hCum hMoney
    constructor
    · simpa using hCum
    · rw [hIntent, hMoney]
      simp

/- A paid order of two digital items. -/
def twoItemOrder : Order where
  orderId := "o1"
  items :=
    [{ productId := "p1", sellerId := some "s1",
       priceCents := 1000, quantity := some 1,
       isDigital := true },
     { productId := "p2", sellerId := some "s1",
       priceCents := 2000, quantity := some 1,
       isDigital := true }]
  orderStatus := some "confirmed"
  paymentStatus := "captured"
  paymentIntentId := "pi_1"
  buyerId := "b1"
  subtotalCents := 3000
  totalAmountCents := 3000
  cumulativeRefundedCents := some 0

def twoItemStore : Store where
  orders := ⟨[("o1", twoItemOrder)]⟩

/- The seller asks for the refund of one product. -/
def sellerRefund (productId : String) :
    AuthContext × RefundItemRequest :=
  ({ userId := "s1" }, { orderId := "o1", productId })

theorem refunds_accounted_one_request :
    ∃ c, Reach exec RefundStep
          (Config.start twoItemStore
            (refundRequests [sellerRefund "p1"])) c ∧
        c.Quiet ∧
        ∃ order, c.world.order? "o1" = some order ∧
            refundedMoney c.world order.paymentIntentId ≤
              order.totalAmountCents ∧
            RefundsAgree c.world order := by
  have hRun :
      ((Config.start twoItemStore
        (refundRequests [sellerRefund "p1"])).run exec
          (turns 0 10)).any (fun c => decide c.Quiet) =
        true := by decide
  rcases (Option.any_eq_true _ _).mp hRun with ⟨c, hRun, hQuiet⟩
  have hReach : Reach exec RefundStep _ c :=
    Reach.of_run hRun (by decide)
  have hDone : c.Quiet := of_decide_eq_true hQuiet
  rcases refunds_accounted "o1" (by decide) rfl
      (by decide) (by decide) (by decide) (by decide)
      hReach with
    ⟨order, hOrder, _, _, hMoney, hAgree⟩
  exact ⟨c, hReach, hDone, order, hOrder, hMoney,
    hAgree hDone.idle⟩

/-
  Two requests for different items: the second one writes
  back the items it read before the first one recorded its
  refund, and the record of the first refund is lost.
-/
theorem refunds_disagree_after_overlap :
    ∃ c order, Reach exec LocalOk
          (Config.start twoItemStore (refundRequests
              [sellerRefund "p1", sellerRefund "p2"])) c ∧
        c.Quiet ∧
        c.world.order? "o1" = some order ∧
        order.cumulative = 3000 ∧
        refundedMoney c.world order.paymentIntentId = 3000 ∧
        refundedCents order.items = 2000 ∧
        ¬ RefundsAgree c.world order := by
  have hRun :
      ((Config.start twoItemStore (refundRequests
          [sellerRefund "p1", sellerRefund "p2"])).run exec
            (turns 0 2 ++ turns 1 2 ++ turns 0 8 ++
              turns 1 8)).any
        (fun c =>
          decide c.Quiet &&
            (c.world.order? "o1").any (fun order =>
              decide (order.cumulative = 3000 ∧
                  refundedMoney c.world
                      order.paymentIntentId = 3000 ∧
                  refundedCents order.items = 2000 ∧
                  ¬ RefundsAgree c.world order))) =
        true := by decide
  rcases (Option.any_eq_true _ _).mp hRun with ⟨c, hRun, hEnd⟩
  rw [Bool.and_eq_true] at hEnd
  rcases (Option.any_eq_true _ _).mp hEnd.2 with
    ⟨order, hOrder, hFacts⟩
  exact ⟨c, order, Reach.of_run hRun (by decide),
    of_decide_eq_true hEnd.1, hOrder,
    of_decide_eq_true hFacts⟩

end Orignabase
