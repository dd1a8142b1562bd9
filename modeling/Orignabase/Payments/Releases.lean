import Orignabase.Orders.Units
import Orignabase.Payments.Redelivery
import Mathlib.Algebra.Group.Pi.Basic
import Mathlib.Algebra.Group.Prod
import Mathlib.Algebra.Order.Group.Int
import Mathlib.Data.List.Find
import Mathlib.Tactic.Ring

/-
  The stock and the coupon of one unpaid order, under any
  interleaving of the handlers of its events.

  A handler that has given the order up owes the units it has
  not restored yet and the release of the coupon.  The status
  of the order says what all handlers together have restored
  and owe.

  Key definitions include:
    * `releaseStep`
    * `Phase`
    * `Ledger`

  Main results:
    * `keepsLedger_routeEvent`
    * `reserved_stock_released`
-/

--------
-- The Ledger Of An Order
--------

namespace Orignabase

open Conc

/- The units of a product that a restore gives back. -/
def releasedOf (items : List Item) (product : String) : ℕ :=
  (items.map (fun it =>
    if it.isRestored = true ∧
        docId "products" it.productId = product then
      it.qty.toNat
    else 0)).sum

/- The row of the order is the only one its id selects. -/
def Store.Finds (w : Store) (id : String) : Prop :=
  ∀ row ∈ w.orders.rows,
    row.1 = docId "orders" id ∨ row.1 = id ∨
        row.2.orderId = docId "orders" id →
      row.1 = id

instance (w : Store) (id : String) :
    Decidable (w.Finds id) :=
  inferInstanceAs (Decidable (∀ row ∈ w.orders.rows, _))

/- The coupons without the time of redemption. -/
def CouponUse.owner (c : CouponUse) :
    String × String × String :=
  (c.couponCode, c.userId, c.orderId)

/-
  No statement fails.  A status that gives the order up is
  written over the status the handler expects, and a failed
  payment is reported only for an order without stock.  A
  coupon is not released while the order is confirmed.  The
  last attempt to restore stock finds the stock it read.
-/
def releaseStep
    (tr : Trace)
    (o : Op)
    (a : Answer)
    (w : Store) : Bool :=
  !a.fault &&
    match o with
    | .setOrderStatus id expected new =>
      new = OrderStatus.paymentAuthorized.asStr ||
        (w.orders.get id).any (fun order =>
          order.orderStatus.getD "" = expected &&
            (new ≠ OrderStatus.failed.asStr ||
              withoutStock order.items))
    | .casProduct id _ expected =>
      misses tr < 2 || (w.product? id).any (fun p =>
          p.stockQuantity = some expected)
    | .releaseCoupon id =>
      !w.holdsCoupon id ||
        (w.orders.get id).all (fun order =>
          order.orderStatus ≠
            some OrderStatus.paymentAuthorized.asStr)
    | _ => true

def ReleaseStep : StepCond Op.Res Answer Store :=
  fun tr o a w => releaseStep tr o a w = true

instance (tr : Trace) (o : Op) (a : Answer) (w : Store) :
    Decidable (ReleaseStep tr o a w) :=
  inferInstanceAs (Decidable (releaseStep tr o a w = true))

/-
  Units owed, units restored, coupons to release, and reads
  that found the order no longer pending.
-/
abbrev Dues :=
  (String → ℕ) × ((String → Int) × (ℕ × ℕ))

namespace Dues

/- The parts of the dues of a run add up. -/
def owed : Dues →+ (String → ℕ) where
  toFun g := g.1
  map_zero' := rfl
  map_add' _ _ := rfl

def putBack (product : String) : Dues →+ Int where
  toFun g := g.2.1 product
  map_zero' := rfl
  map_add' _ _ := rfl

def releases : Dues →+ ℕ where
  toFun g := g.2.2.1
  map_zero' := rfl
  map_add' _ _ := rfl

end Dues

/- What the handlers have restored and owe at a status. -/
inductive Phase
    (id : String)
    (items : List Item)
    (w₀ w : Store)
    (held : Dues) : Option String → Prop
  | pending
      (hOwed : held.1 = 0)
      (hPut : held.2.1 = 0)
      (hRest : held.2.2 = 0)
      (hKept :
        w.couponUses.map CouponUse.owner =
          w₀.couponUses.map CouponUse.owner) :
      Phase id items w₀ w held
        (some OrderStatus.pendingPayment.asStr)
  | confirmed
      (hOwed : held.1 = 0)
      (hPut : held.2.1 = 0)
      (hRelease : held.2.2.1 = 0)
      (hKept :
        w.couponUses.map CouponUse.owner =
          w₀.couponUses.map CouponUse.owner) :
      Phase id items w₀ w held
        (some OrderStatus.paymentAuthorized.asStr)
  | failed
      (hOwed : held.1 = 0)
      (hPut : held.2.1 = 0)
      (hStock : withoutStock items = true)
      (hCoupon :
        w.holdsCoupon id = true → 0 < held.2.2.1) :
      Phase id items w₀ w held
        (some OrderStatus.failed.asStr)
  | givenUp
      {status : OrderStatus}
      (hStatus : status = .cancelled ∨ status = .expired)
      (hUnits :
        ∀ product,
          held.2.1 product + (held.1 product : Int) =
            releasedOf items product)
      (hCoupon :
        w.holdsCoupon id = true → 0 < held.2.2.1) :
      Phase id items w₀ w held (some status.asStr)

structure Ledger
    (id : String)
    (items : List Item)
    (w₀ w : Store)
    (held : Dues) : Prop where
  finds : w.Finds id
  phase :
    ∃ order,
      w.orders.get id = some order ∧ order.items = items ∧
        Phase id items w₀ w held order.orderStatus
  stock :
    ∀ product,
      stockOf w product =
        stockOf w₀ product + held.2.1 product

--------
-- The Statements And The Ledger
--------

variable {id : String} {items : List Item} {w₀ w w' : Store}
variable {held : Dues}

theorem Store.Finds.findOrder (hFinds : w.Finds id) :
    w.findOrder id = w.orders.get id := by
  unfold Store.findOrder Table.get
  dsimp only
  congr 1
  have hSame :
      ∀ row ∈ w.orders.rows,
        (row.1 = docId "orders" id || row.1 = id ||
            row.2.orderId = docId "orders" id) =
          decide (row.1 = id) := by
    intro row hMem
    rw [Bool.eq_iff_iff]
    simp only [Bool.or_eq_true, decide_eq_true_eq]
    constructor
    · intro h
      apply hFinds row hMem
      rcases h with (h | h) | h
      · exact Or.inl h
      · exact Or.inr (Or.inl h)
      · exact Or.inr (Or.inr h)
    · intro h
      exact Or.inl (Or.inr h)
  exact List.find?_congr hSame

/- Changes that keep the order id of every row. -/
theorem Store.Finds.modify
    (hFinds : w.Finds id)
    (key : String)
    {f : Order → Order}
    (hId : ∀ order, (f order).orderId = order.orderId)
    (hOrders : w'.orders = w.orders.modify key f) :
    w'.Finds id := by
  intro row hMem hNames
  rw [hOrders] at hMem
  rcases List.mem_map.mp hMem with ⟨old, hOld, rfl⟩
  have hBefore := hFinds old hOld
  split_ifs at hNames ⊢
  · rw [hId] at hNames
    exact hBefore hNames
  · exact hBefore hNames

/- The phase depends on the coupons only. -/
theorem Phase.of_uses
    {status : Option String}
    (hPhase : Phase id items w₀ w held status)
    (hUses : w'.couponUses = w.couponUses) :
    Phase id items w₀ w' held status := by
  have hHolds : w'.holdsCoupon id = w.holdsCoupon id := by
    simp only [Store.holdsCoupon, hUses]
  cases hPhase with
  | pending hOwed hPut hRest hKept =>
    exact Phase.pending hOwed hPut hRest
      (by rw [hUses]; exact hKept)
  | confirmed hOwed hPut hRelease hKept =>
    exact Phase.confirmed hOwed hPut hRelease
      (by rw [hUses]; exact hKept)
  | failed hOwed hPut hStock hCoupon =>
    exact Phase.failed hOwed hPut hStock
      (by rw [hHolds]; exact hCoupon)
  | givenUp hStatus hUnits hCoupon =>
    exact Phase.givenUp hStatus hUnits
      (by rw [hHolds]; exact hCoupon)

/- Redeeming a coupon leaves its owner. -/
theorem Phase.redeem
    {status : Option String}
    (hPhase : Phase id items w₀ w held status)
    (hOwner :
      w'.couponUses.map CouponUse.owner =
        w.couponUses.map CouponUse.owner)
    (hHolds :
      w'.holdsCoupon id = true → w.holdsCoupon id = true) :
    Phase id items w₀ w' held status := by
  cases hPhase with
  | pending hOwed hPut hRest hKept =>
    exact Phase.pending hOwed hPut hRest
      (hOwner.trans hKept)
  | confirmed hOwed hPut hRelease hKept =>
    exact Phase.confirmed hOwed hPut hRelease
      (hOwner.trans hKept)
  | failed hOwed hPut hStock hCoupon =>
    exact Phase.failed hOwed hPut hStock
      (fun h => hCoupon (hHolds h))
  | givenUp hStatus hUnits hCoupon =>
    exact Phase.givenUp hStatus hUnits
      (fun h => hCoupon (hHolds h))

/- Statements that the ledger does not notice. -/
def Op.sparesLedger : Op → Prop
  | .setPaymentColumns .. | .setCheckoutSession ..
  | .redeemCoupon .. => True
  | o => o.isRead = true

/- A change of the orders that keeps items and status. -/
theorem Ledger.modify
    (hLedger : Ledger id items w₀ w held)
    (key : String)
    {f : Order → Order}
    (hId : ∀ order, (f order).orderId = order.orderId)
    (hItems : ∀ order, (f order).items = order.items)
    (hStatus :
      ∀ order, (f order).orderStatus = order.orderStatus) :
    Ledger id items w₀
      { w with orders := w.orders.modify key f } held := by
  rcases hLedger with ⟨hFinds, ⟨order, hGet, hSame, hPhase⟩,
    hStock⟩
  refine ⟨hFinds.modify key hId rfl, ?_, hStock⟩
  by_cases hKey : id = key
  · refine ⟨f order, ?_, (hItems order).trans hSame, ?_⟩
    · rw [Table.get_modify, if_pos hKey, hGet]
      rfl
    · rw [hStatus]
      exact hPhase.of_uses rfl
  · refine ⟨order, ?_, hSame, hPhase.of_uses rfl⟩
    rw [Table.get_modify, if_neg hKey]
    exact hGet

theorem ledger_redeem
    {orderId code now : String}
    {a : Answer}
    (hAns : a.fault = false)
    (hLedger : Ledger id items w₀ w held) :
    Ledger id items w₀
      (exec (.redeemCoupon orderId code now) a w).2 held := by
  simp only [exec, Answer.guard, hAns, Bool.false_eq_true,
    if_false]
  rcases hLedger with ⟨hFinds, ⟨order, hGet, hItems, hPhase⟩,
    hStock⟩
  refine ⟨hFinds, ⟨order, hGet, hItems, hPhase.redeem ?_ ?_⟩,
    hStock⟩
  · rw [List.map_map]
    apply List.map_congr_left
    intro c _
    simp only [Function.comp_apply]
    split_ifs <;> rfl
  · -- A coupon that is still held was held before.
    intro hHolds
    simp only [Store.holdsCoupon, List.any_map,
      List.any_eq_true, Function.comp_apply,
      decide_eq_true_eq] at hHolds ⊢
    rcases hHolds with ⟨c, hMem, hHeld⟩
    refine ⟨c, hMem, ?_⟩
    split_ifs at hHeld
    · exact absurd hHeld.2 (by simp)
    · exact hHeld

theorem ledger_of_spares
    {o : Op}
    {a : Answer}
    (hSpares : o.sparesLedger)
    (hAns : a.fault = false)
    (hLedger : Ledger id items w₀ w held) :
    Ledger id items w₀ (exec o a w).2 held := by
  by_cases hRead : o.isRead = true
  · rw [exec_read hRead]
    exact hLedger
  · cases o with
    | setPaymentColumns key intent => exact hLedger
    | setCheckoutSession key intent session =>
      simp only [exec, Answer.guard, hAns,
        Bool.false_eq_true, if_false]
      exact hLedger.modify key (fun _ => rfl)
        (fun _ => rfl) (fun _ => rfl)
    | redeemCoupon orderId code now =>
      exact ledger_redeem hAns hLedger
    | _ => exact absurd hSpares hRead

--------
-- Single Steps
--------

section

variable {α : Type} {id : String} {items : List Item}
variable {w₀ : Store} {post : Trace → Dues → α → Prop}
variable {tr : Trace}

/- The dues of a handler with the given past. -/
def dues
    (owed : String → ℕ)
    (release seen : ℕ)
    (tr : Trace) : Dues :=
  (owed, fun product => restored product tr, release, seen)

variable (id items w₀ post) in
/- A handler that keeps the ledger from these dues on. -/
def KeepsLedger
    (tr : Trace)
    (owed : String → ℕ)
    (release seen : ℕ)
    (p : Prog Op.Res α) : Prop :=
  p.Keeps exec ReleaseStep (Ledger id items w₀)
    (fun tr g => g.2.1 = fun product => restored product tr)
    post tr (dues owed release seen tr)

variable {a : Answer} {w : Store} {release seen : ℕ}

theorem ReleaseStep.fault
    {o : Op}
    (hStep : ReleaseStep tr o a w) :
    a.fault = false := by
  simp only [ReleaseStep, releaseStep, Bool.and_eq_true,
    Bool.not_eq_true'] at hStep
  exact hStep.1

/- An event that restores nothing changes no dues. -/
theorem dues_cons
    {e : Event Op.Res Answer}
    (hUnits : ∀ product, unitsOf product e = 0)
    (owed : String → ℕ)
    (release seen : ℕ) :
    dues owed release seen (e :: tr) =
      dues owed release seen tr := by
  unfold dues
  simp only [restored_cons_of_unitsOf hUnits]

theorem keepsLedger_spare
    {o : Op}
    {owed : String → ℕ}
    {k : Op.Res o → Prog Op.Res α}
    (hSpares : o.sparesLedger)
    (hUnits : ∀ a r product, unitsOf product ⟨o, a, r⟩ = 0)
    (hNext :
      ∀ a r,
        KeepsLedger id items w₀ post (⟨o, a, r⟩ :: tr) owed
          release seen (k r)) :
    KeepsLedger id items w₀ post tr owed release seen
      (.call o k) := by
  refine ⟨rfl, ?_⟩
  intro a w m hLedger hCond
  refine ⟨dues owed release seen tr,
    ledger_of_spares hSpares hCond.fault hLedger, ?_⟩
  have hRest := hNext a (exec o a w).1
  unfold KeepsLedger at hRest
  rw [dues_cons (hUnits a (exec o a w).1)] at hRest
  exact hRest

/- The order as a handler finds it. -/
theorem keepsLedger_findOrder
    {k : Op.Res (.findOrder id) → Prog Op.Res α}
    (hPending :
      ∀ a order, order.items = items →
        order.status = OrderStatus.pendingPayment.asStr →
        KeepsLedger id items w₀ post
          (⟨.findOrder id, a, .ok (some order)⟩ :: tr) 0 0 0
          (k (.ok (some order))))
    (hLater :
      ∀ a order,
        order.status ≠ OrderStatus.pendingPayment.asStr →
        KeepsLedger id items w₀ post
          (⟨.findOrder id, a, .ok (some order)⟩ :: tr) 0 0 1
          (k (.ok (some order)))) :
    KeepsLedger id items w₀ post tr 0 0 0
      (.call (.findOrder id) k) := by
  refine ⟨rfl, ?_⟩
  intro a w m hLedger hCond
  rcases hLedger with ⟨hFinds, ⟨order, hGet, hItems, hPhase⟩,
    hStock⟩
  have hExec :
      exec (.findOrder id) a w = (.ok (some order), w) := by
    simp only [exec, Answer.guard, hCond.fault,
      Bool.false_eq_true, if_false, hFinds.findOrder, hGet]
    rfl
  rw [hExec]
  have hUnits :
      ∀ product, unitsOf product
          ⟨.findOrder id, a, .ok (some order)⟩ = 0 :=
    fun _ => rfl
  by_cases hStatus :
      order.status = OrderStatus.pendingPayment.asStr
  · refine ⟨dues 0 0 0 tr,
      ⟨hFinds, ⟨order, hGet, hItems, hPhase⟩, hStock⟩, ?_⟩
    have hRest := hPending a order hItems hStatus
    unfold KeepsLedger at hRest
    rw [dues_cons hUnits] at hRest
    exact hRest
  · -- The order has left the pending status for good.
    refine ⟨dues 0 0 1 tr,
      ⟨hFinds, ⟨order, hGet, hItems, ?_⟩, hStock⟩, ?_⟩
    · generalize hNow : order.orderStatus = status at hPhase
      cases hPhase with
      | pending =>
        exact absurd (by rw [Order.status, hNow]; rfl)
          hStatus
      | confirmed hOwed hPut hRelease hKept =>
        exact Phase.confirmed hOwed hPut hRelease hKept
      | failed hOwed hPut hStock hCoupon =>
        exact Phase.failed hOwed hPut hStock hCoupon
      | givenUp hIs hUnits hCoupon =>
        exact Phase.givenUp hIs hUnits hCoupon
    · have hRest := hLater a order hStatus
      unfold KeepsLedger at hRest
      rw [dues_cons hUnits] at hRest
      exact hRest

/- The handlers together hold nothing while it is pending. -/
theorem Phase.of_pending
    {held : Dues}
    {status : Option String}
    (hPhase : Phase id items w₀ w held status)
    (hStatus :
      status.getD "" = OrderStatus.pendingPayment.asStr) :
    held.1 = 0 ∧ held.2.1 = 0 ∧ held.2.2 = 0 ∧
      w.couponUses.map CouponUse.owner =
        w₀.couponUses.map CouponUse.owner := by
  cases hPhase with
  | pending hOwed hPut hRest hKept =>
    exact ⟨hOwed, hPut, hRest, hKept⟩
  | confirmed => exact absurd hStatus (by decide)
  | failed => exact absurd hStatus (by decide)
  | givenUp hIs =>
    rcases hIs with rfl | rfl <;>
      exact absurd hStatus (by decide)

/- A status written over that of the order. -/
theorem Ledger.setStatus
    {held held' : Dues}
    {new : String}
    (hLedger : Ledger id items w₀ w held)
    (hPut : held'.2.1 = held.2.1)
    (hPhase : Phase id items w₀ w held' (some new)) :
    Ledger id items w₀
      { w with
        orders := w.orders.modify id
          (fun o => { o with orderStatus := some new }) }
      held' := by
  rcases hLedger with ⟨hFinds, ⟨order, hGet, hItems, _⟩,
    hStock⟩
  refine ⟨hFinds.modify id
    (f := fun o => { o with orderStatus := some new })
    (fun _ => rfl) rfl, ?_, ?_⟩
  · refine ⟨{ order with orderStatus := some new }, ?_,
      hItems, hPhase.of_uses rfl⟩
    rw [Table.get_modify_self, hGet]
    rfl
  · intro product
    rw [hPut]
    exact hStock product

theorem exec_setOrderStatus
    {expected new : String}
    (hAns : a.fault = false)
    (hFound :
      (w.orders.get id).any (fun o =>
        o.orderStatus.getD "" = expected) = true) :
    exec (.setOrderStatus id expected new) a w =
      (.ok true,
        { w with
          orders := w.orders.modify id
            (fun o => { o with orderStatus := some new }) }) :=
  by
  simp only [exec, Answer.guard, hAns, Bool.false_eq_true,
    if_false, hFound, if_true]
  rfl

/- What a write over the pending status finds. -/
theorem Ledger.pending
    {owed : String → ℕ}
    {m : Dues}
    (hLedger :
      Ledger id items w₀ w (dues owed release seen tr + m))
    (hFound :
      (w.orders.get id).any (fun o =>
        o.orderStatus.getD "" =
          OrderStatus.pendingPayment.asStr) = true) :
    m.1 = 0 ∧
      (dues owed release seen tr + m).2.1 = 0 ∧
      m.2.2 = 0 ∧
      w.couponUses.map CouponUse.owner =
        w₀.couponUses.map CouponUse.owner := by
  rcases hLedger.phase with ⟨order, hGet, _, hPhase⟩
  rw [hGet, Option.any_some, decide_eq_true_eq] at hFound
  rcases hPhase.of_pending hFound with
    ⟨hOwed, hPut, hRest, hKept⟩
  refine ⟨?_, hPut, ?_, hKept⟩
  · funext product
    have h := congrFun hOwed product
    simp only [Prod.fst_add, Pi.add_apply,
      Pi.zero_apply] at h ⊢
    omega
  · have h₁ : release + m.2.2.1 = 0 :=
      congrArg Prod.fst hRest
    have h₂ : seen + m.2.2.2 = 0 := congrArg Prod.snd hRest
    refine Prod.ext ?_ ?_
    · exact (Nat.add_eq_zero_iff.mp h₁).2
    · exact (Nat.add_eq_zero_iff.mp h₂).2

/- The order is given up: its units are owed from now on. -/
theorem keepsLedger_giveUp
    {status : OrderStatus}
    {k :
      Op.Res (.setOrderStatus id
            OrderStatus.pendingPayment.asStr status.asStr) →
        Prog Op.Res α}
    (hStatus : status = .cancelled ∨ status = .expired)
    (hNext :
      ∀ a, KeepsLedger id items w₀ post (⟨.setOrderStatus id
              OrderStatus.pendingPayment.asStr status.asStr,
            a, .ok true⟩ :: tr)
          (releasedOf items) 1 0 (k (.ok true))) :
    KeepsLedger id items w₀ post tr 0 0 0
      (.call
        (.setOrderStatus id OrderStatus.pendingPayment.asStr
          status.asStr) k) := by
  refine ⟨rfl, ?_⟩
  intro a w m hLedger hCond
  have hFound :
      (w.orders.get id).any (fun o =>
        o.orderStatus.getD "" =
          OrderStatus.pendingPayment.asStr) = true := by
    have hNot :
        status.asStr ≠
          OrderStatus.paymentAuthorized.asStr := by
      rcases hStatus with rfl | rfl <;> decide
    simp only [ReleaseStep, releaseStep, Bool.and_eq_true,
      Bool.or_eq_true, decide_eq_true_eq, hNot,
      false_or] at hCond
    rcases (Option.any_eq_true _ _).mp hCond.2 with
      ⟨order, hGet, hOrder⟩
    rw [hGet]
    exact (Bool.and_eq_true _ _ ▸ hOrder).1
  rcases hLedger.pending hFound with ⟨hOwed, hPut, hRest, _⟩
  rw [exec_setOrderStatus hCond.fault hFound]
  refine ⟨dues (releasedOf items) 1 0 tr,
    hLedger.setStatus rfl (Phase.givenUp hStatus ?_ ?_), ?_⟩
  · intro product
    have hZero := congrFun hPut product
    simp only [dues, Prod.snd_add, Prod.fst_add,
      Pi.add_apply, Pi.zero_apply, hOwed] at hZero ⊢
    rw [hZero]
    simp
  · intro _
    simp [dues]
  · have hNext' := hNext a
    unfold KeepsLedger at hNext'
    rw [dues_cons (fun _ => rfl)] at hNext'
    exact hNext'

/- A failed payment of an order without stock. -/
theorem keepsLedger_fail
    {k :
      Op.Res (.setOrderStatus id
            OrderStatus.pendingPayment.asStr
            OrderStatus.failed.asStr) →
        Prog Op.Res α}
    (hNext :
      ∀ a, KeepsLedger id items w₀ post (⟨.setOrderStatus id
              OrderStatus.pendingPayment.asStr
              OrderStatus.failed.asStr,
            a, .ok true⟩ :: tr)
          0 1 0 (k (.ok true))) :
    KeepsLedger id items w₀ post tr 0 0 0
      (.call
        (.setOrderStatus id OrderStatus.pendingPayment.asStr
          OrderStatus.failed.asStr) k) := by
  refine ⟨rfl, ?_⟩
  intro a w m hLedger hCond
  have hFault := hCond.fault
  simp only [ReleaseStep, releaseStep, Bool.and_eq_true,
    Bool.or_eq_true, decide_eq_true_eq,
    (by decide :
      OrderStatus.failed.asStr ≠
        OrderStatus.paymentAuthorized.asStr),
    false_or] at hCond
  rcases (Option.any_eq_true _ _).mp hCond.2 with
    ⟨order, hGet, hOrder⟩
  simp only [Bool.and_eq_true, decide_eq_true_eq, ne_eq,
    not_true_eq_false, decide_false, Bool.false_or] at hOrder
  have hFound :
      (w.orders.get id).any (fun o =>
        o.orderStatus.getD "" =
          OrderStatus.pendingPayment.asStr) = true := by
    rw [hGet]
    exact decide_eq_true hOrder.1
  have hItems : withoutStock items = true := by
    rcases hLedger.phase with ⟨order', hGet', hSame, _⟩
    cases hGet.symm.trans hGet'
    rw [← hSame]
    exact hOrder.2
  rcases hLedger.pending hFound with ⟨hOwed, hPut, hRest, _⟩
  rw [exec_setOrderStatus hFault hFound]
  refine ⟨dues 0 1 0 tr, hLedger.setStatus rfl
      (Phase.failed ?_ hPut hItems ?_), ?_⟩
  · funext product
    simp [dues, hOwed]
  · intro _
    simp [dues]
  · have hNext' := hNext a
    unfold KeepsLedger at hNext'
    rw [dues_cons (fun _ => rfl)] at hNext'
    exact hNext'

/- The order is confirmed, or was not pending any more. -/
theorem keepsLedger_confirm
    {k :
      Op.Res (.setOrderStatus id
            OrderStatus.pendingPayment.asStr
            OrderStatus.paymentAuthorized.asStr) →
        Prog Op.Res α}
    (hNext :
      ∀ a updated, KeepsLedger id items w₀ post
          (⟨.setOrderStatus id
              OrderStatus.pendingPayment.asStr
              OrderStatus.paymentAuthorized.asStr,
            a, .ok updated⟩ :: tr)
          0 0 0 (k (.ok updated))) :
    KeepsLedger id items w₀ post tr 0 0 0
      (.call
        (.setOrderStatus id OrderStatus.pendingPayment.asStr
          OrderStatus.paymentAuthorized.asStr) k) := by
  refine ⟨rfl, ?_⟩
  intro a w m hLedger hCond
  have hGoOn :
      ∀ updated, (k (.ok updated)).Keeps exec ReleaseStep
          (Ledger id items w₀)
          (fun tr g =>
            g.2.1 = fun product => restored product tr)
          post
          (⟨.setOrderStatus id
              OrderStatus.pendingPayment.asStr
              OrderStatus.paymentAuthorized.asStr,
            a, .ok updated⟩ :: tr) (dues 0 0 0 tr) := by
    intro updated
    have hNext' := hNext a updated
    unfold KeepsLedger at hNext'
    rw [dues_cons (fun _ => rfl)] at hNext'
    exact hNext'
  by_cases hFound :
      (w.orders.get id).any (fun o =>
        o.orderStatus.getD "" =
          OrderStatus.pendingPayment.asStr) = true
  · rcases hLedger.pending hFound with
      ⟨hOwed, hPut, hRest, hKept⟩
    rw [exec_setOrderStatus hCond.fault hFound]
    refine ⟨dues 0 0 0 tr, hLedger.setStatus rfl
        (Phase.confirmed ?_ hPut ?_ hKept), hGoOn true⟩
    · funext product
      simp [dues, hOwed]
    · have hNone : m.2.2.1 = 0 := congrArg Prod.fst hRest
      simp [dues, hNone]
  · have hExec :
        exec (.setOrderStatus id
              OrderStatus.pendingPayment.asStr
              OrderStatus.paymentAuthorized.asStr) a w =
          (.ok false, w) := by
      simp only [exec, Answer.guard, hCond.fault,
        Bool.false_eq_true, if_false, hFound]
      rfl
    rw [hExec]
    exact ⟨dues 0 0 0 tr, hLedger, hGoOn false⟩

/- One attempt to put units back. -/
theorem keepsLedger_casProduct
    {productId : String}
    {n : ℕ}
    {cur : Int}
    {extra : String → ℕ}
    {k :
      Op.Res (.casProduct productId (cur + n) cur) →
        Prog Op.Res α}
    (hSome : 0 < n)
    (hDone :
      ∀ a, KeepsLedger id items w₀ post
          (⟨.casProduct productId (cur + n) cur, a,
            .ok true⟩ :: tr)
          extra 1 0 (k (.ok true)))
    (hLost :
      ∀ a, misses tr < 2 → KeepsLedger id items w₀ post
          (⟨.casProduct productId (cur + n) cur, a,
            .ok false⟩ :: tr)
          (fun p =>
            (if docId "products" productId = p then n
              else 0) + extra p) 1 0
          (k (.ok false))) :
    KeepsLedger id items w₀ post tr
      (fun p =>
        (if docId "products" productId = p then n else 0) +
          extra p) 1 0
      (.call (.casProduct productId (cur + n) cur) k) := by
  refine ⟨rfl, ?_⟩
  intro a w m hLedger hCond
  have hFault := hCond.fault
  have hLast :
      misses tr < 2 ∨ (w.product? productId).any (fun p =>
          p.stockQuantity = some cur) = true := by
    simpa [ReleaseStep, releaseStep, hFault] using hCond
  by_cases hFound :
      (w.product? productId).any (fun p =>
        p.stockQuantity = some cur) = true
  · rw [exec_casProduct_found hFault hFound]
    refine ⟨_, ?_, hDone a⟩
    rcases hLedger with ⟨hFinds, ⟨order, hGet, hItems, hPhase⟩,
      hStock⟩
    refine ⟨hFinds, ⟨order, hGet, hItems, ?_⟩, ?_⟩
    · -- Units are owed, so the order has been given up.
      have hOwed :
          ∀ held : Dues, held = dues (fun p =>
                (if docId "products" productId = p then n
                  else 0) + extra p) 1 0 tr + m →
            held.1 ≠ 0 := by
        rintro held rfl hZero
        have h :=
          congrFun hZero (docId "products" productId)
        simp [dues] at h
        omega
      generalize hNow : order.orderStatus = status at hPhase
      cases hPhase with
      | pending hNone => exact absurd hNone (hOwed _ rfl)
      | confirmed hNone => exact absurd hNone (hOwed _ rfl)
      | failed hNone => exact absurd hNone (hOwed _ rfl)
      | givenUp hStatus hUnits hCoupon =>
        refine Phase.givenUp hStatus ?_ hCoupon
        intro product
        rw [← hUnits product]
        simp only [dues, Prod.fst_add, Prod.snd_add,
          Pi.add_apply, restored_cons_matched]
        split_ifs <;> push_cast <;> ring
    · intro product
      rw [stockOf_setStock hFound, hStock product]
      simp only [dues, Prod.fst_add, Prod.snd_add,
        Pi.add_apply, restored_cons_matched]
      ring
  · rw [exec_casProduct_lost hFault hFound]
    refine ⟨_, hLedger, ?_⟩
    have hRest := hLost a (hLast.resolve_right hFound)
    unfold KeepsLedger at hRest
    rw [dues_cons (fun p => by simp [unitsOf, matched])]
      at hRest
    exact hRest

/- A released coupon is not held any more. -/
theorem holdsCoupon_release
    (hAns : a.fault = false) :
    (exec (.releaseCoupon id) a w).2.holdsCoupon id =
      false := by
  simp only [exec, Answer.guard, hAns, Bool.false_eq_true,
    if_false, Store.holdsCoupon, List.any_filter,
    List.any_eq_false]
  intro c _ hBoth
  simp only [Bool.and_eq_true, decide_eq_true_eq] at hBoth
  exact hBoth.1 hBoth.2

/- The release of the coupon, owed or not. -/
theorem keepsLedger_release
    {k : Op.Res (.releaseCoupon id) → Prog Op.Res α}
    (hOne : 0 < release + seen)
    (hNext :
      ∀ a r, KeepsLedger id items w₀ post
          (⟨.releaseCoupon id, a, r⟩ :: tr) 0 0 seen
          (k r)) :
    KeepsLedger id items w₀ post tr 0 release seen
      (.call (.releaseCoupon id) k) := by
  refine ⟨rfl, ?_⟩
  intro a w m hLedger hCond
  have hFault := hCond.fault
  refine ⟨dues 0 0 seen tr, ?_, ?_⟩
  · have hGone :
        (exec (.releaseCoupon id) a w).2.holdsCoupon id =
          false := holdsCoupon_release hFault
    rcases hLedger with ⟨hFinds, ⟨order, hGet, hItems, hPhase⟩,
      hStock⟩
    have hTables :
        (exec (.releaseCoupon id) a w).2.orders = w.orders ∧
          (exec (.releaseCoupon id) a w).2.products =
            w.products := by
      simp [exec, Answer.guard, hFault]
    refine ⟨?_, ⟨order, ?_, hItems, ?_⟩, ?_⟩
    · unfold Store.Finds
      rw [hTables.1]
      exact hFinds
    · rw [hTables.1]
      exact hGet
    · generalize hNow : order.orderStatus = status at hPhase
      cases hPhase with
      | pending _ _ hRest =>
        have h₁ : release + m.2.2.1 = 0 :=
          congrArg Prod.fst hRest
        have h₂ : seen + m.2.2.2 = 0 :=
          congrArg Prod.snd hRest
        omega
      | confirmed hOwed hPut hRelease hKept =>
        have hNone : w.holdsCoupon id = false := by
          simpa [ReleaseStep, releaseStep, hFault, hGet,
            hNow] using hCond
        have h₁ : release + m.2.2.1 = 0 := hRelease
        refine Phase.confirmed hOwed hPut ?_ ?_
        · simp only [dues, Prod.snd_add, Prod.fst_add]
          omega
        · rw [releaseCoupon_eq hNone]
          exact hKept
      | failed hOwed hPut hStock hCoupon =>
        exact Phase.failed hOwed hPut hStock
          (fun h => absurd (hGone.symm.trans h)
            Bool.false_ne_true)
      | givenUp hStatus hUnits hCoupon =>
        exact Phase.givenUp hStatus hUnits
          (fun h => absurd (hGone.symm.trans h)
            Bool.false_ne_true)
    · intro product
      simp only [stockOf, hTables.2]
      exact hStock product
  · have hRest := hNext a (exec (.releaseCoupon id) a w).1
    unfold KeepsLedger at hRest
    rw [dues_cons (fun _ => rfl)] at hRest
    exact hRest

end

--------
-- Whole Handlers
--------

open Handler

section

variable {id : String} {items : List Item} {w₀ : Store}
variable {tr : Trace}

/- A finished handler owes nothing. -/
def Released.Settled {α : Type} : Trace → Dues → α → Prop :=
  fun _ g _ => g.1 = 0 ∧ g.2.2.1 = 0

/- A restore ends with the units put back. -/
theorem keepsLedger_restoreAttempts
    (productId : String)
    {n : ℕ}
    (extra : String → ℕ)
    {attempts : Nat}
    (hUnits : 0 < n)
    (hLeft : misses tr + attempts = 3)
    (hSome : 0 < attempts) :
    KeepsLedger id items w₀
      (fun tr g r =>
        g = dues extra 1 0 tr ∧ misses tr = 0 ∧ r = .ok true)
      tr
      (fun p =>
        (if docId "products" productId = p then n else 0) +
          extra p) 1 0
      (restoreAttempts productId n attempts) := by
  induction attempts generalizing tr with
  | zero => exact absurd hSome (Nat.lt_irrefl 0)
  | succ attempts ih =>
    have hSpares : (Op.getProduct productId).sparesLedger :=
      rfl
    apply keepsLedger_spare hSpares (fun _ _ _ => rfl)
    intro a r
    apply keepsLedger_casProduct hUnits
    · intro a'
      exact ⟨rfl, rfl, rfl, rfl⟩
    · intro a' hMisses
      apply ih
      · simp only [misses, missed, if_true]
        omega
      · simp only [misses] at hMisses
        omega

theorem releasedOf_cons
    (item : Item)
    (rest : List Item) :
    releasedOf (item :: rest) = fun p =>
      (if item.isRestored = true ∧
          docId "products" item.productId = p then
        item.qty.toNat
      else 0) + releasedOf rest p := by
  funext p
  simp [releasedOf]

/- The restores of an order that is given up. -/
theorem keepsLedger_restoreStock
    (rest : List Item)
    (hMisses : misses tr = 0) :
    KeepsLedger id items w₀
      (fun tr g r => g = dues 0 1 0 tr ∧ r = .ok ())
      tr (releasedOf rest) 1 0
      (restoreStockForOrder rest) := by
  induction rest generalizing tr with
  | nil => exact ⟨rfl, rfl, rfl⟩
  | cons item rest ih =>
    unfold restoreStockForOrder
    rw [releasedOf_cons]
    by_cases hRestored : item.isRestored = true
    · rw [if_pos hRestored]
      have hQty : 0 < item.qty := by
        simp only [Item.isRestored, Bool.and_eq_true,
          decide_eq_true_eq] at hRestored
        exact hRestored.2
      have hNat : (item.qty.toNat : Int) = item.qty :=
        Int.toNat_of_nonneg (le_of_lt hQty)
      have hPos : 0 < item.qty.toNat := by omega
      simp only [hRestored, true_and]
      apply Prog.Keeps.bind (hNat ▸
        keepsLedger_restoreAttempts item.productId
          (releasedOf rest) hPos
          (by rw [hMisses]) (by decide : 0 < 3))
      rintro tr' g r ⟨rfl, hMisses', rfl⟩ _
      exact ih hMisses'
    · rw [if_neg hRestored]
      simp only [hRestored, Bool.false_eq_true, false_and,
        if_false, zero_add]
      exact ih hMisses

theorem keepsLedger_releaseCoupon
    {release seen : ℕ}
    (hOne : 0 < release + seen) :
    KeepsLedger id items w₀ Released.Settled tr 0 release
      seen (releaseCouponReservation id) := by
  apply keepsLedger_release hOne
  intro a r
  exact ⟨rfl, rfl, rfl⟩

theorem keepsLedger_giveUpOrder
    {status : OrderStatus}
    (hStatus : status = .cancelled ∨ status = .expired) :
    KeepsLedger id items w₀ Released.Settled tr 0 0 0
      (giveUpOrder status id) := by
  apply keepsLedger_findOrder
  · intro a order hItems hPending
    have hFirst :
        KeepsLedger id items w₀
          (fun tr g r => g = dues 0 1 0 tr ∧ r = .ok ())
          (⟨.findOrder id, a, .ok (some order)⟩ :: tr) 0 0 0
          (giveUp status id order) := by
      unfold giveUp
      rw [if_pos hPending]
      apply keepsLedger_giveUp hStatus
      intro a'
      rw [← hItems]
      exact keepsLedger_restoreStock order.items rfl
    apply Prog.Keeps.bind hFirst
    rintro tr' g r ⟨rfl, rfl⟩ _
    exact keepsLedger_releaseCoupon (by decide)
  · intro a order hLater
    have hFirst :
        KeepsLedger id items w₀
          (fun tr g r => g = dues 0 0 1 tr ∧ r = .ok ())
          (⟨.findOrder id, a, .ok (some order)⟩ :: tr) 0 0 1
          (giveUp status id order) := by
      unfold giveUp
      rw [if_neg hLater]
      exact ⟨rfl, rfl, rfl⟩
    apply Prog.Keeps.bind hFirst
    rintro tr' g r ⟨rfl, rfl⟩ _
    exact keepsLedger_releaseCoupon (by decide)

/- Operations that the ledger does not notice at all. -/
def Op.unnoticed (o : Op) : Prop :=
  o.sparesLedger ∧
    ∀ a r product, unitsOf product ⟨o, a, r⟩ = 0

/- The rest of a handler that the ledger does not notice. -/
theorem keepsLedger_uses
    {α : Type}
    {p : Prog Op.Res α}
    (hUses : p.Uses Op.unnoticed) :
    KeepsLedger id items w₀ Released.Settled tr 0 0 0 p := by
  induction p generalizing tr with
  | ret r => exact ⟨rfl, rfl, rfl⟩
  | call o k ih =>
    apply keepsLedger_spare hUses.1.1 hUses.1.2
    intro a r
    exact ih r (hUses.2 r)

theorem keepsLedger_failPayment :
    KeepsLedger id items w₀ Released.Settled tr 0 0 0
      (failPayment id) := by
  apply keepsLedger_findOrder
  · intro a order _ hPending
    have hFirst :
        KeepsLedger id items w₀
          (fun tr g r => g = dues 0 1 0 tr ∧ r = .ok ())
          (⟨.findOrder id, a, .ok (some order)⟩ :: tr) 0 0 0
          (markFailed id order) := by
      unfold markFailed
      rw [if_pos hPending]
      apply keepsLedger_fail
      intro a'
      exact ⟨rfl, rfl, rfl⟩
    apply Prog.Keeps.bind hFirst
    rintro tr' g r ⟨rfl, rfl⟩ _
    exact keepsLedger_releaseCoupon (by decide)
  · intro a order hLater
    have hFirst :
        KeepsLedger id items w₀
          (fun tr g r => g = dues 0 0 1 tr ∧ r = .ok ())
          (⟨.findOrder id, a, .ok (some order)⟩ :: tr) 0 0 1
          (markFailed id order) := by
      unfold markFailed
      rw [if_neg hLater]
      exact ⟨rfl, rfl, rfl⟩
    apply Prog.Keeps.bind hFirst
    rintro tr' g r ⟨rfl, rfl⟩ _
    exact keepsLedger_releaseCoupon (by decide)

theorem keepsLedger_confirmOrder
    {orderId : String}
    {next : Order → Handler Unit}
    (hId : orderId = id)
    (hNext : ∀ order, (next order).Uses Op.unnoticed) :
    KeepsLedger id items w₀ Released.Settled tr 0 0 0
      (andThen (findOrderByMetadataId orderId) fun order =>
        confirmOrder orderId order (next order)) := by
  subst hId
  apply keepsLedger_findOrder
  · intro a order _ hPending
    have hIf :
        KeepsLedger orderId items w₀ Released.Settled
          (⟨.findOrder orderId, a, .ok (some order)⟩ :: tr)
          0 0 0 (confirmOrder orderId order (next order)) := by
      unfold confirmOrder
      rw [if_neg (not_not.mpr hPending)]
      apply keepsLedger_confirm
      intro a' updated
      cases updated with
      | false => exact ⟨rfl, rfl, rfl⟩
      | true => exact keepsLedger_uses (hNext order)
    exact hIf
  · intro a order hLater
    have hIf :
        KeepsLedger orderId items w₀ Released.Settled
          (⟨.findOrder orderId, a, .ok (some order)⟩ :: tr)
          0 0 1 (confirmOrder orderId order (next order)) := by
      unfold confirmOrder
      rw [if_pos hLater]
      exact ⟨rfl, rfl, rfl⟩
    exact hIf

theorem unnoticed_markCouponRedeemed
    (upper : String → String)
    (orderId couponCode : String) :
    (markCouponRedeemed upper orderId couponCode).Uses
      Op.unnoticed := by
  unfold markCouponRedeemed
  split_ifs
  · trivial
  · exact ⟨⟨rfl, fun _ _ _ => rfl⟩,
      fun _ => ⟨⟨trivial, fun _ _ _ => rfl⟩,
        fun _ => trivial⟩⟩

theorem unnoticed_sendEmails (orderId : String) :
    (sendPaymentAuthorizedEmails orderId).Uses
      Op.unnoticed :=
  ⟨⟨rfl, fun _ _ _ => rfl⟩, fun _ => trivial⟩

end

/- The order that the metadata of an event names. -/
def StripeWebhookEvent.orderId? (event : StripeWebhookEvent) :
    Option String :=
  (event.object.bind EventObject.metadata).bind
    Metadata.orderId

variable {event : StripeWebhookEvent}

theorem eventData_orderId
    {noId noMetadata : String}
    {e : EventData}
    (hData :
      eventData noId noMetadata event.object = .ok e) :
    event.orderId? = some e.orderId := by
  unfold eventData at hData
  split at hData
  · cases hData
  · rename_i object hObject
    split at hData
    · cases hData
    · split at hData
      · cases hData
      · rename_i metadata hMetadata
        split at hData
        · cases hData
        · rename_i orderId hOrder
          cases hData
          simp [StripeWebhookEvent.orderId?, hObject,
            hMetadata, hOrder]

section

variable {id : String} {items : List Item} {w₀ : Store}

/- The check of an event, and the handler after it. -/
theorem keepsLedger_event
    {noId noMetadata : String}
    {f : EventData → Handler Unit}
    (hEvent : event.orderId? = some id)
    (hNext :
      ∀ e : EventData, e.orderId = id →
        KeepsLedger id items w₀ Released.Settled [] 0 0 0
          (f e)) :
    KeepsLedger id items w₀ Released.Settled [] 0 0 0
      (andThen
        (lift (eventData noId noMetadata event.object)) f) := by
  cases hData : eventData noId noMetadata event.object with
  | error e => exact ⟨rfl, rfl, rfl⟩
  | ok e =>
    apply hNext
    exact Option.some.inj
      ((eventData_orderId hData).symm.trans hEvent)

/- The handler of every event keeps the ledger. -/
theorem keepsLedger_routeEvent
    (upper : String → String)
    (hEvent : event.orderId? = some id) :
    KeepsLedger id items w₀ Released.Settled [] 0 0 0
      (routeEvent upper event) := by
  have hCompleted :
      KeepsLedger id items w₀ Released.Settled [] 0 0 0
        (handleCheckoutSessionCompleted upper
          event.object) := by
    apply keepsLedger_event hEvent
    intro e hId
    apply keepsLedger_confirmOrder hId
    intro order
    refine uses_andThen
      ⟨⟨trivial, fun _ _ _ => rfl⟩, fun _ => trivial⟩ ?_
    intro _
    refine uses_andThen (unnoticed_markCouponRedeemed ..) ?_
    intro _
    apply Prog.Uses.bind
    · split_ifs
      · exact ⟨⟨rfl, fun _ _ _ => rfl⟩, fun _ => trivial⟩
      · trivial
    · intro _
      exact unnoticed_sendEmails e.orderId
  unfold routeEvent
  cases event.type with
  | paymentIntentSucceeded =>
    apply keepsLedger_event hEvent
    intro e hId
    apply keepsLedger_confirmOrder hId
    intro order
    refine uses_andThen
      ⟨⟨trivial, fun _ _ _ => rfl⟩, fun _ => trivial⟩ ?_
    intro _
    refine uses_andThen (unnoticed_markCouponRedeemed ..) ?_
    intro _
    exact unnoticed_sendEmails e.orderId
  | paymentIntentFailed =>
    apply keepsLedger_event hEvent
    intro e hId
    rw [hId]
    exact keepsLedger_giveUpOrder (Or.inl rfl)
  | paymentIntentCanceled =>
    apply keepsLedger_event hEvent
    intro e hId
    rw [hId]
    exact keepsLedger_giveUpOrder (Or.inl rfl)
  | checkoutSessionCompleted => exact hCompleted
  | checkoutSessionExpired =>
    apply keepsLedger_event hEvent
    intro e hId
    rw [hId]
    exact keepsLedger_giveUpOrder (Or.inr rfl)
  | asyncPaymentSucceeded => exact hCompleted
  | asyncPaymentFailed =>
    apply keepsLedger_event hEvent
    intro e hId
    rw [hId]
    exact keepsLedger_failPayment
  | unhandled => exact ⟨rfl, rfl, rfl⟩

end

--------
-- Whole Runs
--------

/- The product is sold in physical items of the list only. -/
def isPhysicalIn (items : List Item) (product : String) :
    Bool :=
  items.all (fun it =>
    docId "products" it.productId ≠ product ||
      (!it.isDigital && it.productId ≠ ""))

theorem releasedOf_eq_reservedOf
    {items : List Item}
    {product : String}
    (hProduct : isPhysicalIn items product = true) :
    releasedOf items product = reservedOf items product := by
  induction items with
  | nil => rfl
  | cons it rest ih =>
    simp only [isPhysicalIn, List.all_cons,
      Bool.and_eq_true] at hProduct
    have hRest := ih hProduct.2
    have hItem :
        (if it.isRestored = true ∧
            docId "products" it.productId = product then
          it.qty.toNat
        else 0) = it.units product := by
      by_cases hIs : docId "products" it.productId = product
      · have hPhysical :
            it.isDigital = false ∧ it.productId ≠ "" := by
          simpa [hIs] using hProduct.1
        by_cases hQty : 0 < it.qty
        · simp [Item.isRestored, Item.units, hPhysical, hIs,
            hQty]
        · have hNone : it.qty.toNat = 0 :=
            Int.toNat_of_nonpos (not_lt.mp hQty)
          simp [Item.units, hNone]
      · simp [Item.units, hIs]
    simp only [releasedOf, reservedOf, List.map_cons,
      List.sum_cons] at hRest ⊢
    rw [hItem, hRest]

/- A run of the handlers of events. -/
abbrev EventRun :=
  Config Op.Res Answer Store (Except Error Unit)

def eventRun
    (upper : String → String)
    (w : Store)
    (events : List StripeWebhookEvent) : EventRun :=
  Config.start w (events.map (routeEvent upper))

theorem ledger_start
    {id : String}
    {w₀ : Store}
    {order₀ : Order}
    (hFinds : w₀.Finds id)
    (hOrder : w₀.orders.get id = some order₀)
    (hPending :
      order₀.orderStatus =
        some OrderStatus.pendingPayment.asStr) :
    Ledger id order₀.items w₀ w₀ 0 := by
  refine ⟨hFinds, ⟨order₀, hOrder, rfl, ?_⟩, ?_⟩
  · rw [hPending]
    exact Phase.pending rfl rfl rfl rfl
  · intro product
    exact (add_zero _).symm

/- The ledger at the end of a run. -/
theorem ledger_run
    {upper : String → String}
    {id : String}
    {w₀ : Store}
    {order₀ : Order}
    (hFinds : w₀.Finds id)
    (hOrder : w₀.orders.get id = some order₀)
    (hPending :
      order₀.orderStatus =
        some OrderStatus.pendingPayment.asStr)
    {events : List StripeWebhookEvent}
    (hEvents :
      ∀ event ∈ events, event.orderId? = some id)
    {c : EventRun}
    (hReach :
      Reach exec ReleaseStep (eventRun upper w₀ events) c) :
    ∃ held : Dues, Ledger id order₀.items w₀ c.world held ∧
        (∀ product,
          held.2.1 product = restoredTotal c product) ∧
        (c.Idle → held.1 = 0 ∧ held.2.2.1 = 0) := by
  have hKeeps :
      ∀ p ∈ events.map (routeEvent upper),
        p.Keeps exec ReleaseStep (Ledger id order₀.items w₀)
          (fun tr g =>
            g.2.1 = fun product => restored product tr)
          Released.Settled [] 0 := by
    intro p hp
    rcases List.mem_map.mp hp with ⟨event, hEvent, rfl⟩
    exact keepsLedger_routeEvent upper (hEvents event hEvent)
  rcases Reach.accounts
      (Balanced.start (ledger_start hFinds hOrder hPending)
        hKeeps) hReach with
    ⟨gs, hLedger, hAll⟩
  refine ⟨gs.sum, hLedger, ?_, ?_⟩
  · intro product
    apply Balanced.map_sum (Dues.putBack product)
      (restored product) ?_ hAll
    intro tr g hLink
    exact congrFun hLink product
  · intro hIdle
    refine ⟨?_, ?_⟩
    · exact Balanced.idle_map_sum Dues.owed
        (fun _ _ _ hPost => hPost.1) hAll hIdle
    · exact Balanced.idle_map_sum Dues.releases
        (fun _ _ _ hPost => hPost.2) hAll hIdle

/-
  In every run of handlers of events of one pending order,
  whose steps meet `ReleaseStep`: while the order is
  confirmed, nothing of its stock has been restored and all
  coupons are kept; once no handler is in progress and it is
  cancelled, expired or failed, the units of its physical
  items have been put back once and its unredeemed coupon is
  gone; and the stock has grown by the units put back.
-/
theorem reserved_stock_released
    {upper : String → String}
    {id : String}
    {w₀ : Store}
    {order₀ : Order}
    (hFinds : w₀.Finds id)
    (hOrder : w₀.orders.get id = some order₀)
    (hPending :
      order₀.orderStatus =
        some OrderStatus.pendingPayment.asStr)
    {events : List StripeWebhookEvent}
    (hEvents :
      ∀ event ∈ events, event.orderId? = some id)
    {c : EventRun}
    (hReach :
      Reach exec ReleaseStep (eventRun upper w₀ events) c) :
    ∃ order, c.world.orders.get id = some order ∧
        (∀ product, stockOf c.world product =
            stockOf w₀ product + restoredTotal c product) ∧
        (order.orderStatus =
            some OrderStatus.paymentAuthorized.asStr →
          (∀ product, restoredTotal c product = 0) ∧
            c.world.couponUses.map CouponUse.owner =
              w₀.couponUses.map CouponUse.owner) ∧
        (c.Idle → ∀ status ∈
            [OrderStatus.cancelled, OrderStatus.expired,
              OrderStatus.failed],
            order.orderStatus = some status.asStr →
              (∀ product,
                isPhysicalIn order₀.items product = true →
                  restoredTotal c product =
                    reservedOf order₀.items product) ∧
                c.world.holdsCoupon id = false) := by
  rcases ledger_run hFinds hOrder hPending hEvents hReach with
    ⟨held, hLedger, hPut, hIdle⟩
  rcases hLedger.phase with ⟨order, hGet, hItems, hPhase⟩
  refine ⟨order, hGet, ?_, ?_, ?_⟩
  · intro product
    rw [hLedger.stock, hPut]
  · intro hStatus
    rw [hStatus] at hPhase
    generalize hText :
      some OrderStatus.paymentAuthorized.asStr = text
      at hPhase
    cases hPhase with
    | pending => exact absurd hText (by decide)
    | confirmed hOwed hNone hRelease hKept =>
      refine ⟨?_, hKept⟩
      intro product
      rw [← hPut, hNone]
      rfl
    | failed => exact absurd hText (by decide)
    | givenUp hIs =>
      rcases hIs with rfl | rfl <;>
        exact absurd hText (by decide)
  · intro hDone status hMem hStatus
    rcases hIdle hDone with ⟨hOwed, hRelease⟩
    rw [hStatus] at hPhase
    have hOther :
        ∀ other : OrderStatus, other = .pendingPayment ∨
              other = .paymentAuthorized →
            status.asStr ≠ other.asStr := by
      intro other hIs hText
      have hSame := OrderStatus.asStr_injective hText
      subst hSame
      rcases hIs with rfl | rfl <;> simp at hMem
    generalize hText : some status.asStr = text at hPhase
    cases hPhase with
    | pending =>
      exact absurd (Option.some.inj hText)
        (hOther _ (Or.inl rfl))
    | confirmed =>
      exact absurd (Option.some.inj hText)
        (hOther _ (Or.inr rfl))
    | failed _ hNone hStock hCoupon =>
      refine ⟨?_, ?_⟩
      · intro product _
        rw [← hPut, hNone, reservedOf_withoutStock hStock]
        rfl
      · rw [Bool.eq_false_iff]
        intro hHolds
        have hPos := hCoupon hHolds
        omega
    | givenUp hIs hUnits hCoupon =>
      refine ⟨?_, ?_⟩
      · intro product hPhysical
        have hSum := hUnits product
        rw [hOwed, releasedOf_eq_reservedOf hPhysical,
          hPut] at hSum
        simpa using hSum
      · rw [Bool.eq_false_iff]
        intro hHolds
        have hPos := hCoupon hHolds
        omega

/- The payment fails, and the session is completed. -/
def failedAndCompleted : List StripeWebhookEvent :=
  [failedEvent, orderEvent .checkoutSessionCompleted "evt_2"]

theorem reserved_stock_released_failed :
    ∃ c, Reach exec ReleaseStep
          (eventRun String.toUpper unpaidStore
            failedAndCompleted) c ∧
        c.Quiet ∧
        restoredTotal c "p1" = 2 ∧
        c.world.holdsCoupon "o1" = false := by
  have hRun :
      ((eventRun String.toUpper unpaidStore
        failedAndCompleted).run exec
          (turns 0 5 ++ turns 1 1)).any (fun c =>
            decide c.Quiet &&
              (c.world.orders.get "o1").any (fun order =>
                order.orderStatus =
                  some OrderStatus.cancelled.asStr)) =
        true := by decide
  rcases (Option.any_eq_true _ _).mp hRun with
    ⟨c, hRun, hEnd⟩
  rw [Bool.and_eq_true, decide_eq_true_eq] at hEnd
  rcases (Option.any_eq_true _ _).mp hEnd.2 with
    ⟨order, hGet, hStatus⟩
  have hReach : Reach exec ReleaseStep _ c :=
    Reach.of_run hRun (by decide)
  rcases reserved_stock_released (by decide)
      (rfl : unpaidStore.orders.get "o1" = some unpaidOrder)
      (by decide) (by decide) hReach with
    ⟨order', hGet', _, _, hIdle⟩
  cases hGet.symm.trans hGet'
  have hOver := hIdle hEnd.1.idle .cancelled (by decide)
      (of_decide_eq_true hStatus)
  refine ⟨c, hReach, hEnd.1, ?_, hOver.2⟩
  rw [hOver.1 "p1" (by decide)]
  decide

/-
  The handler of the failed payment reads the pending order,
  then the session is completed and the order confirmed; the
  handler goes on and restores the stock of a paid order.
-/
theorem stock_restored_for_confirmed :
    ∃ c order, Reach exec NoFault
          (eventRun String.toUpper unpaidStore
            failedAndCompleted) c ∧
        c.Quiet ∧
        c.world.orders.get "o1" = some order ∧
        order.orderStatus =
          some OrderStatus.paymentAuthorized.asStr ∧
        restoredTotal c "p1" = 2 := by
  have hRun :
      ((eventRun String.toUpper unpaidStore
        failedAndCompleted).run exec
          (turns 0 1 ++ turns 1 7 ++ turns 0 4)).any
            (fun c =>
              decide (c.Quiet ∧ restoredTotal c "p1" = 2) &&
                (c.world.orders.get "o1").any (fun order =>
                  order.orderStatus = some
                      OrderStatus.paymentAuthorized.asStr)) =
        true := by decide
  rcases (Option.any_eq_true _ _).mp hRun with
    ⟨c, hRun, hEnd⟩
  rw [Bool.and_eq_true, decide_eq_true_eq] at hEnd
  rcases (Option.any_eq_true _ _).mp hEnd.2 with
    ⟨order, hGet, hStatus⟩
  exact ⟨c, order, Reach.of_run hRun (by decide),
    hEnd.1.1, hGet, of_decide_eq_true hStatus, hEnd.1.2⟩

end Orignabase
