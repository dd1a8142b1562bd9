import Orignabase.Orders.Units
import Orignabase.Payments.RefundEvents
import Orignabase.Payments.Redelivery
import Mathlib.Algebra.BigOperators.Fin
import Mathlib.Algebra.Order.BigOperators.Group.Finset
import Mathlib.Data.Fintype.BigOperators
import Mathlib.Tactic.Ring

/-
  The refund events of one payment, delivered once each in
  any order.

  Charge events store the amount refunded at their time,
  refund events the sum of the records so far, and each
  overwrites what the one before it stored.  So the last
  delivery decides.

  Key definitions include:
    * `RefundEvent`
    * `DeliveredOnce`
    * `RefundsStored`
    * `LastIsCurrent`

  Main results:
    * `ends_syncOrderRefundState`
    * `ends_refundEvent`
    * `refund_events_stored_iff`
-/

--------
-- Stock Restored Without Failures
--------

namespace Orignabase

open Conc Handler

/- The units of a product that an item puts back. -/
def Item.restoredUnits (item : Item) (product : String) :
    ℕ :=
  if item.isRestored = true ∧
      docId "products" item.productId = product then
    item.qty.toNat
  else 0

def restoredUnitsOf
    (items : List Item)
    (product : String) : ℕ :=
  (items.map (fun it => it.restoredUnits product)).sum

/- The product of the item has a stored stock. -/
def Store.stocks (w : Store) (item : Item) : Bool :=
  (w.product? item.productId).any
    (fun p => p.stockQuantity.isSome)

def Stocked (w : Store) (items : List Item) : Prop :=
  ∀ item ∈ items, item.isRestored = true →
    w.stocks item = true

instance (w : Store) (items : List Item) :
    Decidable (Stocked w items) :=
  inferInstanceAs (Decidable (∀ item ∈ items, _))

/- A write to a stored stock adds and removes none. -/
theorem stocks_setStock
    {w : Store}
    {id : String}
    {cur : Int}
    (hStock :
      (w.product? id).any (fun p =>
        p.stockQuantity = some cur) = true)
    (stock : Int)
    (item : Item) :
    (w.setStock id stock).stocks item = w.stocks item := by
  rcases (Option.any_eq_true _ _).mp hStock with
    ⟨found, hFound, hIs⟩
  have hIs : found.stockQuantity = some cur := by
    simpa using hIs
  unfold Store.stocks Store.product? Store.setStock
  rw [Table.get_modify]
  split_ifs with hSame
  · have hGet :
        w.products.get (docId "products" item.productId) =
          some found := by
      rw [hSame]
      exact hFound
    simp [hGet, hIs]
  · rfl

section

variable {tr tr' : Trace} {w w' : Store}

theorem ends_restoreAttempts_stocked
    {productId : String}
    {quantity stock : Int}
    {attempts : Nat}
    {r : Except Error Bool}
    (hStock :
      (w.product? productId).any (fun p =>
        p.stockQuantity = some stock) = true)
    (hEnds :
      Prog.Ends exec NoFault tr w
        (restoreAttempts productId quantity (attempts + 1))
        tr' w' r) :
    w' = w.setStock productId (stock + quantity) ∧
      r = .ok true := by
  rcases (Option.any_eq_true _ _).mp hStock with
    ⟨product, hProduct, hIs⟩
  have hRead : product.stock = stock := by
    simp [Product.stock, of_decide_eq_true hIs]
  rcases Prog.Ends.call_iff.mp hEnds with ⟨a, hAns, hEnds⟩
  have hCur :
      readStock (exec (.getProduct productId) a w).1 =
        stock := by
    simp only [exec, Answer.guard, show a.fault = false from
      hAns, Bool.false_eq_true, if_false, hProduct]
    exact hRead
  rw [exec_read rfl] at hEnds
  generalize (exec (.getProduct productId) a w).1 = read
    at hEnds hCur
  rcases Prog.Ends.call_iff.mp hEnds with ⟨a', hAns', hEnds⟩
  rw [← hCur] at hStock ⊢
  rw [exec_casProduct_found hAns' hStock] at hEnds
  rcases Prog.Ends.ret_iff.mp hEnds with ⟨_, rfl, rfl⟩
  exact ⟨rfl, rfl⟩

theorem ends_restoreAttempts_unstocked
    {productId : String}
    {quantity : Int}
    {attempts : Nat}
    {r : Except Error Bool}
    (hStock :
      (w.product? productId).any (fun p =>
        p.stockQuantity.isSome) = false)
    (hEnds :
      Prog.Ends exec NoFault tr w
        (restoreAttempts productId quantity attempts) tr' w'
        r) :
    w' = w ∧ r = .ok false := by
  induction attempts generalizing tr with
  | zero =>
    rcases Prog.Ends.ret_iff.mp hEnds with ⟨_, rfl, rfl⟩
    exact ⟨rfl, rfl⟩
  | succ attempts ih =>
    rcases Prog.Ends.call_iff.mp hEnds with ⟨a, _, hEnds⟩
    rw [exec_read rfl] at hEnds
    generalize (exec (.getProduct productId) a w).1 = read
      at hEnds
    rcases Prog.Ends.call_iff.mp hEnds with
      ⟨a', hAns, hEnds⟩
    have hLost :
        ¬ (w.product? productId).any (fun p =>
          p.stockQuantity = some (readStock read)) =
            true := by
      intro hFound
      rcases (Option.any_eq_true _ _).mp hFound with
        ⟨product, hProduct, hIs⟩
      rw [hProduct, Option.any_some,
        of_decide_eq_true hIs] at hStock
      cases hStock
    rw [exec_casProduct_lost hAns hLost] at hEnds
    exact ih hEnds

/-
  What a complete restore does: with all stocks stored, every
  unit is put back; otherwise it ends in an error.
-/
structure RestoreEnded
    (w w' : Store)
    (items : List Item)
    (r : Except Error Unit) : Prop where
  orders : w'.orders = w.orders
  records : w'.refundRecords = w.refundRecords
  stocks : ∀ item, w'.stocks item = w.stocks item
  stocked :
    Stocked w items →
      r = .ok () ∧
        ∀ product,
          stockOf w' product =
            stockOf w product +
              restoredUnitsOf items product
  unstocked : ¬ Stocked w items → ∃ e, r = .error e

theorem stocked_cons
    {item : Item}
    {rest : List Item} :
    Stocked w (item :: rest) ↔
      (item.isRestored = true → w.stocks item = true) ∧
        Stocked w rest := by
  simp [Stocked]

theorem Stocked.congr
    {items : List Item}
    (hSame : ∀ item, w'.stocks item = w.stocks item) :
    Stocked w' items ↔ Stocked w items := by
  simp only [Stocked, hSame]

theorem restoredUnitsOf_cons
    (item : Item)
    (rest : List Item)
    (product : String) :
    restoredUnitsOf (item :: rest) product =
      item.restoredUnits product +
        restoredUnitsOf rest product := by
  simp [restoredUnitsOf]

theorem ends_restoreStockForOrder
    {items : List Item}
    {r : Except Error Unit}
    (hEnds :
      Prog.Ends exec NoFault tr w
        (restoreStockForOrder items) tr' w' r) :
    RestoreEnded w w' items r := by
  induction items generalizing tr w with
  | nil =>
    rcases Prog.Ends.ret_iff.mp hEnds with ⟨_, rfl, rfl⟩
    constructor
    · rfl
    · rfl
    · intro item
      rfl
    · intro _
      exact ⟨rfl, fun product => by simp [restoredUnitsOf]⟩
    · intro hNot
      exact absurd (fun _ hMem => nomatch hMem) hNot
  | cons item rest ih =>
    unfold restoreStockForOrder at hEnds
    split_ifs at hEnds with hRestored
    · rcases Prog.Ends.bind_iff.mp hEnds with
        ⟨tr₁, w₁, r₁, hFirst, hRest⟩
      cases hItem : w.stocks item with
      | false =>
        rcases ends_restoreAttempts_unstocked hItem hFirst
          with ⟨rfl, rfl⟩
        rcases Prog.Ends.ret_iff.mp hRest with ⟨_, rfl, rfl⟩
        constructor
        · rfl
        · rfl
        · intro item
          rfl
        · intro hAll
          rw [(stocked_cons.mp hAll).1 hRestored] at hItem
          cases hItem
        · intro _
          exact ⟨_, rfl⟩
      | true =>
        rcases (Option.any_eq_true _ _).mp hItem with
          ⟨product, hProduct, hSome⟩
        rcases Option.isSome_iff_exists.mp hSome with
          ⟨stock, hStock⟩
        have hFound :
            (w.product? item.productId).any (fun p =>
              p.stockQuantity = some stock) = true := by
          simp [hProduct, hStock]
        rcases ends_restoreAttempts_stocked hFound hFirst
          with ⟨rfl, rfl⟩
        have hTail := ih hRest
        have hQty : item.qty = (item.qty.toNat : Int) := by
          simp only [Item.isRestored, Bool.and_eq_true,
            decide_eq_true_eq] at hRestored
          omega
        have hStocks := stocks_setStock hFound
          (stock + item.qty)
        constructor
        · exact hTail.orders
        · exact hTail.records
        · intro other
          rw [hTail.stocks, hStocks]
        · intro hAll
          have hRestAll := (Stocked.congr hStocks).mpr
              (stocked_cons.mp hAll).2
          rcases hTail.stocked hRestAll with ⟨hOk, hUnits⟩
          refine ⟨hOk, ?_⟩
          intro product
          rw [hUnits, hQty, stockOf_setStock hFound,
            restoredUnitsOf_cons]
          simp only [Item.restoredUnits, hRestored,
            true_and]
          push_cast
          ring
        · intro hNot
          apply hTail.unstocked
          intro hRestAll
          exact hNot (stocked_cons.mpr ⟨fun _ => hItem,
              (Stocked.congr hStocks).mp hRestAll⟩)
    · have hTail := ih hEnds
      constructor
      · exact hTail.orders
      · exact hTail.records
      · exact hTail.stocks
      · intro hAll
        rcases hTail.stocked (stocked_cons.mp hAll).2 with
          ⟨hOk, hUnits⟩
        refine ⟨hOk, ?_⟩
        intro product
        rw [hUnits, restoredUnitsOf_cons]
        simp [Item.restoredUnits, hRestored]
      · intro hNot
        apply hTail.unstocked
        intro hRestAll
        exact hNot (stocked_cons.mpr
          ⟨fun h => absurd h hRestored, hRestAll⟩)

end

--------
-- Writing The Refund State
--------

/- The row that `find_order_by_payment_intent` selects. -/
def Store.orderOfIntent
    (w : Store)
    (paymentIntentId : String) : Option (String × Order) :=
  w.orders.rows.find? (fun row =>
    row.2.paymentIntentId = paymentIntentId)

/- How storing a refunded amount can end. -/
inductive SyncEnded
    (paymentIntentId : String)
    (amount : Int)
    (w w' : Store) : Prop
  | absent
      (hNone :
        paymentIntentId = "" ∨
          w.orderOfIntent paymentIntentId = none)
      (hSame : w' = w)
  | refused
      {id : String}
      {order : Order}
      (hFound :
        w.orderOfIntent paymentIntentId = some (id, order))
      (hOver : order.totalAmountCents < amount)
      (hSame : w' = w)
  | failed
      {id : String}
      {order : Order}
      (hFound :
        w.orderOfIntent paymentIntentId = some (id, order))
      (hRestores : order.restoresStock amount = true)
      (hStock : ¬ Stocked w order.items)
      (hOrders : w'.orders = w.orders)
      (hRecords : w'.refundRecords = w.refundRecords)
      (hStocks : ∀ item, w'.stocks item = w.stocks item)
  | written
      {id : String}
      {order : Order}
      (hSome : paymentIntentId ≠ "")
      (hFound :
        w.orderOfIntent paymentIntentId = some (id, order))
      (hStock :
        order.restoresStock amount = true →
          Stocked w order.items)
      (hOrders :
        w'.orders =
          w.orders.modify (docId "orders" id)
            (order.refundPatch amount).apply)
      (hRecords : w'.refundRecords = w.refundRecords)
      (hStocks : ∀ item, w'.stocks item = w.stocks item)
      (hUnits :
        ∀ product,
          stockOf w' product =
            stockOf w product +
              if order.restoresStock amount = true then
                (restoredUnitsOf order.items product : Int)
              else 0)

section

variable {tr tr' : Trace} {w w' : Store}

theorem world_updateOrder
    {id : String}
    {patch : OrderPatch}
    {a : Answer}
    (hAns : a.fault = false) :
    (exec (.updateOrder id patch) a w).2 =
      w.modifyOrder id patch.apply := by
  simp only [exec, Answer.guard, hAns, Bool.false_eq_true,
    if_false]
  cases hOrder : w.order? id with
  | some order => rfl
  | none =>
    unfold Store.modifyOrder
    rw [Table.modify_of_get_eq_none hOrder]

theorem exec_findOrderByIntent
    {a : Answer}
    (hAns : a.fault = false)
    (paymentIntentId : String) :
    exec (.findOrderByIntent paymentIntentId) a w =
      (.ok (w.orderOfIntent paymentIntentId), w) := by
  simp only [exec, Answer.guard, hAns, Bool.false_eq_true,
    if_false]
  rfl

variable {amount : Int} {r : Except Error Unit}

/- The part that restores the stock, if any. -/
theorem ends_restorePart
    {order : Order}
    (hEnds :
      Prog.Ends exec NoFault tr w
        (if order.restoresStock amount = true then
          restoreStockForOrder order.items
        else ok ()) tr' w' r) :
    RestoreEnded w w'
      (if order.restoresStock amount = true then order.items
      else []) r := by
  split_ifs at hEnds ⊢
  · exact ends_restoreStockForOrder hEnds
  · exact ends_restoreStockForOrder hEnds

theorem ends_writeRefundState
    {paymentIntentId id : String}
    {order : Order}
    (hSome : paymentIntentId ≠ "")
    (hFound :
      w.orderOfIntent paymentIntentId = some (id, order))
    (hEnds :
      Prog.Ends exec NoFault tr w
        (writeRefundState id order amount) tr' w' r) :
    SyncEnded paymentIntentId amount w w' := by
  unfold writeRefundState require at hEnds
  by_cases hOver :
      decide (amount ≤ order.totalAmountCents) = true
  · rw [if_pos hOver] at hEnds
    rcases Prog.Ends.bind_iff.mp hEnds with
      ⟨tr₁, w₁, r₁, hRestore, hWrite⟩
    have hRestored := ends_restorePart hRestore
    by_cases hStock :
        order.restoresStock amount = true →
          Stocked w order.items
    · have hAll :
          Stocked w
            (if order.restoresStock amount = true then
              order.items
            else []) := by
        split_ifs with hFull
        · exact hStock hFull
        · exact fun _ hMem => nomatch hMem
      rcases hRestored.stocked hAll with ⟨rfl, hUnits⟩
      rcases Prog.Ends.call_iff.mp hWrite with
        ⟨a, hAns, hWrite⟩
      rcases Prog.Ends.ret_iff.mp hWrite with ⟨_, rfl, _⟩
      rw [world_updateOrder hAns]
      refine .written hSome hFound hStock ?_
        hRestored.records hRestored.stocks ?_
      · simp only [Store.modifyOrder, hRestored.orders]
      · intro product
        have hProduct :
            stockOf (w₁.modifyOrder id
              (order.refundPatch amount).apply) product =
                _ :=
          hUnits product
        split_ifs at hProduct ⊢
        · exact hProduct
        · simpa [restoredUnitsOf] using hProduct
    · -- Without a stored stock the restore fails.
      rw [Classical.not_imp] at hStock
      rw [if_pos hStock.1] at hRestored
      rcases hRestored.unstocked hStock.2 with ⟨e, rfl⟩
      rcases Prog.Ends.ret_iff.mp hWrite with ⟨_, rfl, _⟩
      exact .failed hFound hStock.1 hStock.2
        hRestored.orders hRestored.records hRestored.stocks
  · rw [if_neg hOver] at hEnds
    rcases Prog.Ends.ret_iff.mp hEnds with ⟨_, rfl, _⟩
    have hOver : order.totalAmountCents < amount := by
      simpa using hOver
    exact .refused hFound hOver rfl

theorem ends_syncOrderRefundState
    {paymentIntentId : String}
    (hEnds :
      Prog.Ends exec NoFault tr w
        (syncOrderRefundState paymentIntentId amount) tr' w'
        r) :
    SyncEnded paymentIntentId amount w w' := by
  unfold syncOrderRefundState at hEnds
  split_ifs at hEnds with hBlank
  · rcases Prog.Ends.ret_iff.mp hEnds with ⟨_, rfl, _⟩
    exact .absent (Or.inl hBlank) rfl
  · rcases Prog.Ends.call_iff.mp hEnds with ⟨a, hAns, hEnds⟩
    rw [exec_findOrderByIntent hAns] at hEnds
    cases hFound : w.orderOfIntent paymentIntentId with
    | none =>
      rw [hFound] at hEnds
      rcases Prog.Ends.ret_iff.mp hEnds with ⟨_, rfl, _⟩
      exact .absent (Or.inr hFound) rfl
    | some row =>
      rw [hFound] at hEnds
      exact ends_writeRefundState hBlank hFound hEnds

end

--------
-- Refunds And Their Events
--------

/- A refund of a payment that Stripe performed. -/
structure StripeRefund where
  id : String
  amountCents : Int
  deriving DecidableEq, Repr

/-
  The events for the refund of an index: the charge with the
  amount refunded by then, and the refund itself.
-/
inductive RefundEvent
  | charged (k : ℕ)
  | created (k : ℕ)
  | updated (k : ℕ)
  deriving DecidableEq, Repr

namespace RefundEvent

def index : RefundEvent → ℕ
  | charged k => k
  | created k => k
  | updated k => k

/- The event leaves a record of the refund. -/
def records (k : ℕ) : RefundEvent → Bool
  | charged _ => false
  | created j => j = k
  | updated j => j = k

end RefundEvent

/- The amount refunded up to the refund of an index. -/
def cumulativeCents
    (refunds : List StripeRefund)
    (k : ℕ) : Int :=
  ((refunds.take (k + 1)).map StripeRefund.amountCents).sum

def totalCents (refunds : List StripeRefund) : Int :=
  (refunds.map StripeRefund.amountCents).sum

def StripeRefund.object
    (refund : StripeRefund)
    (paymentIntentId : String) : RefundObject where
  id := some refund.id
  amount := some refund.amountCents
  status := some "succeeded"
  paymentIntent := some paymentIntentId

/- The record that the events of a refund leave. -/
def StripeRefund.record
    (refund : StripeRefund)
    (paymentIntentId : String) : RefundRecord where
  amountCents := refund.amountCents
  status := "succeeded"
  paymentIntentId := paymentIntentId

def RefundEvent.handler
    (paymentIntentId chargeId : String)
    (refunds : List StripeRefund) :
    RefundEvent → Handler Unit
  | .charged k =>
    handleChargeRefunded
      (some
        { id := some chargeId
          paymentIntent := some paymentIntentId
          amountRefunded :=
            some (cumulativeCents refunds k) })
  | .created k =>
    handleRefundCreated
      (refunds[k]?.map (·.object paymentIntentId))
  | .updated k =>
    handleRefundUpdated
      (refunds[k]?.map (·.object paymentIntentId))

/-
  Every refund was told by one charge event and by at least
  one of its own events, none of them twice.
-/
structure DeliveredOnce
    (refunds : List StripeRefund)
    (events : List RefundEvent) : Prop where
  indices : ∀ e ∈ events, e.index < refunds.length
  nodup : events.Nodup
  charges :
    ∀ k < refunds.length, RefundEvent.charged k ∈ events
  records :
    ∀ k < refunds.length, events.any (·.records k) = true

--------
-- Records
--------

/- What a record counts for a payment. -/
def countedCents
    (paymentIntentId : String)
    (record : RefundRecord) : Int :=
  if record.status = "succeeded" ∧
      record.paymentIntentId = paymentIntentId then
    record.amountCents
  else 0

theorem succeededCents_eq_total
    (t : Table RefundRecord)
    (paymentIntentId : String) :
    succeededCents
        ((t.rows.map (·.2)).filter
          (fun r => r.paymentIntentId = paymentIntentId)) =
      t.total (countedCents paymentIntentId) := by
  rcases t with ⟨rows⟩
  unfold succeededCents Table.total
  induction rows with
  | nil => rfl
  | cons row rest ih =>
    by_cases hIntent :
        row.2.paymentIntentId = paymentIntentId
    · by_cases hStatus : row.2.status = "succeeded"
      · simp [countedCents, hIntent, hStatus] at ih ⊢
        exact ih
      · simp [countedCents, hIntent, hStatus] at ih ⊢
        exact ih
    · simp [countedCents, hIntent] at ih ⊢
      exact ih

section

variable (refunds : List StripeRefund)

/- The refund of an index is on record after the events. -/
def recorded (events : List RefundEvent) (k : ℕ) : Bool :=
  events.any (·.records k)

/- The amount on record after the events. -/
def recordedCents (events : List RefundEvent) : Int :=
  ∑ k : Fin refunds.length,
    if recorded events k = true then
      refunds[k].amountCents
    else 0

/- The records are those of the events so far. -/
structure Recorded
    (paymentIntentId : String)
    (events : List RefundEvent)
    (w : Store) : Prop where
  keys : w.refundRecords.keys.Nodup
  kept :
    ∀ k : Fin refunds.length,
      ((w.refundRecords.get
          (docId "refunds" refunds[k].id)).map
        (countedCents paymentIntentId)).getD 0 =
        if recorded events k = true then
          refunds[k].amountCents
        else 0
  sum :
    w.refundRecords.total (countedCents paymentIntentId) =
      recordedCents refunds events

end

variable {refunds : List StripeRefund}

theorem recorded_concat
    (events : List RefundEvent)
    (e : RefundEvent)
    (k : ℕ) :
    recorded (events ++ [e]) k =
      (recorded events k || e.records k) := by
  simp [recorded]

variable {e : RefundEvent}

/- One more refund on record. -/
theorem recordedCents_concat
    (events : List RefundEvent)
    {k : Fin refunds.length}
    (hRecords : ∀ j : ℕ, e.records j = decide (j = k)) :
    recordedCents refunds (events ++ [e]) =
      recordedCents refunds events -
        (if recorded events k = true then
          refunds[k].amountCents
        else 0) + refunds[k].amountCents := by
  unfold recordedCents
  rw [← Finset.add_sum_erase _ _ (Finset.mem_univ k),
    ← Finset.add_sum_erase (a := k) (s := Finset.univ)
      (f := fun j : Fin refunds.length =>
        if recorded events j = true then
          refunds[j].amountCents
        else 0) (Finset.mem_univ k)]
  have hOthers :
      ∀ j ∈ Finset.univ.erase k,
        (if recorded (events ++ [e]) j = true then
          refunds[j].amountCents
        else 0) =
          if recorded events j = true then
            refunds[j].amountCents
          else 0 := by
    intro j hMem
    have hNe : (j : ℕ) ≠ k :=
      fun h => Finset.ne_of_mem_erase hMem (Fin.ext h)
    rw [recorded_concat, hRecords, decide_eq_false hNe,
      Bool.or_false]
  rw [Finset.sum_congr rfl hOthers, recorded_concat,
    hRecords, decide_eq_true rfl, Bool.or_true, if_pos rfl]
  ring

theorem recordedCents_eq_of_charge
    (events : List RefundEvent)
    (hRecords : ∀ j : ℕ, e.records j = false) :
    recordedCents refunds (events ++ [e]) =
      recordedCents refunds events := by
  unfold recordedCents
  simp only [recorded_concat, hRecords, Bool.or_false]

namespace Recorded

variable {paymentIntentId : String}
variable {events : List RefundEvent} {w : Store}

/- An event that leaves no record. -/
theorem skip
    (h : Recorded refunds paymentIntentId events w)
    (hRecords : ∀ j : ℕ, e.records j = false) :
    Recorded refunds paymentIntentId (events ++ [e]) w := by
  constructor
  · exact h.keys
  · intro k
    rw [recorded_concat, hRecords, Bool.or_false]
    exact h.kept k
  · rw [recordedCents_eq_of_charge _ hRecords]
    exact h.sum

/- An event that leaves the record of its refund. -/
theorem upsert
    (h : Recorded refunds paymentIntentId events w)
    (hIds :
      Function.Injective (fun k : Fin refunds.length =>
        docId "refunds" refunds[k].id))
    {k : Fin refunds.length}
    (hRecords : ∀ j : ℕ, e.records j = decide (j = k))
    {record : RefundRecord}
    (hCounted :
      countedCents paymentIntentId record =
        refunds[k].amountCents) :
    Recorded refunds paymentIntentId (events ++ [e])
      { w with
        refundRecords := w.refundRecords.upsert
            (docId "refunds" refunds[k].id) record } := by
  constructor
  · exact Table.nodup_upsert h.keys _ _
  · intro j
    rw [recorded_concat, hRecords, Table.get_upsert]
    by_cases hSame : j = k
    · subst hSame
      simp [hCounted]
    · have hNe : (j : ℕ) ≠ k := fun hEq => hSame (Fin.ext hEq)
      have hKey :
          docId "refunds" refunds[j].id ≠
            docId "refunds" refunds[k].id :=
        fun hEq => hSame (hIds hEq)
      rw [if_neg hKey, decide_eq_false hNe, Bool.or_false]
      exact h.kept j
  · rw [Table.total_upsert h.keys, h.sum, h.kept k, hCounted,
      recordedCents_concat events hRecords]

end Recorded

--------
-- Amounts
--------

variable {refunds : List StripeRefund}
variable {events : List RefundEvent}

theorem totalCents_eq_sum :
    totalCents refunds =
      ∑ k : Fin refunds.length, refunds[k].amountCents :=
  (Fin.sum_univ_fun_getElem refunds
    StripeRefund.amountCents).symm

section

variable (hPositive : ∀ r ∈ refunds, 0 < r.amountCents)

include hPositive

theorem amount_pos (k : Fin refunds.length) :
    0 < refunds[k].amountCents :=
  hPositive _ (List.getElem_mem _)

theorem recordedCents_le :
    recordedCents refunds events ≤ totalCents refunds := by
  rw [totalCents_eq_sum]
  apply Finset.sum_le_sum
  intro k _
  split_ifs
  · exact le_rfl
  · exact (amount_pos hPositive k).le

theorem recordedCents_pos
    {k : Fin refunds.length}
    (hRecorded : recorded events k = true) :
    0 < recordedCents refunds events := by
  apply Finset.sum_pos'
  · intro j _
    split_ifs
    · exact (amount_pos hPositive j).le
    · exact le_rfl
  · refine ⟨k, Finset.mem_univ k, ?_⟩
    rw [if_pos hRecorded]
    exact amount_pos hPositive k

/- The first refunds are less than all of them. -/
theorem cumulativeCents_lt
    {k : ℕ}
    (hLess : k + 1 < refunds.length) :
    cumulativeCents refunds k < totalCents refunds := by
  have hSplit :
      totalCents refunds = cumulativeCents refunds k +
          ((refunds.drop (k + 1)).map
            StripeRefund.amountCents).sum := by
    unfold totalCents cumulativeCents
    rw [← List.sum_append, ← List.map_append,
      List.take_append_drop]
  have hRest :
      0 < ((refunds.drop (k + 1)).map
        StripeRefund.amountCents).sum := by
    apply List.sum_pos
    · intro amount hMem
      rcases List.mem_map.mp hMem with ⟨r, hr, rfl⟩
      exact hPositive r (List.mem_of_mem_drop hr)
    · simp [hLess]
  omega

end

theorem recordedCents_all
    (hAll :
      ∀ k < refunds.length, recorded events k = true) :
    recordedCents refunds events = totalCents refunds := by
  rw [totalCents_eq_sum]
  apply Finset.sum_congr rfl
  intro k _
  rw [if_pos (hAll k k.isLt)]

theorem cumulativeCents_last
    {k : ℕ}
    (hLast : k + 1 = refunds.length) :
    cumulativeCents refunds k = totalCents refunds := by
  unfold cumulativeCents totalCents
  rw [hLast, List.take_length]

/- The amount that the last delivered event stores. -/
def syncedCents
    (refunds : List StripeRefund)
    (events : List RefundEvent) : Option Int :=
  events.getLast?.map fun e =>
    match e with
    | .charged k => cumulativeCents refunds k
    | _ => recordedCents refunds events

--------
-- One Delivery
--------

section

variable {tr tr' : Trace} {w w' : Store}
variable {refunds : List StripeRefund}
variable {events : List RefundEvent}
variable {paymentIntentId chargeId : String}

theorem reads_storeRefundId (refundId : String) :
    (storeRefundId refundId paymentIntentId).Uses
      (fun o => o.isRead = true) := by
  unfold storeRefundId
  split_ifs
  · trivial
  · refine ⟨rfl, ?_⟩
    intro r
    rcases r with e | found
    · trivial
    · cases found with
      | none => trivial
      | some row =>
        change Prog.Uses _ (if row.1 = "" then Prog.ret ()
            else
              (Db.setRefundColumn row.1 refundId).bind
                fun _ => Prog.ret ())
        split_ifs
        · trivial
        · exact ⟨rfl, fun _ => trivial⟩

/- Storing the refund id changes nothing. -/
theorem ends_storeRefundId
    {refundId : String}
    (hEnds :
      Prog.Ends exec NoFault tr w
        (storeRefundId refundId paymentIntentId) tr' w' ()) :
    w' = w :=
  hEnds.preserves (I := fun x => x = w)
    (reads_storeRefundId refundId)
    (fun _ a _ hRead hSame => by
      rw [exec_read hRead a, hSame]) rfl

/- The record of a refund is written, and then counted. -/
def Store.withRecord
    (w : Store)
    (id : String)
    (record : RefundRecord) : Store :=
  { w with
    refundRecords :=
      w.refundRecords.upsert (docId "refunds" id) record }

theorem ends_upsertRefundRecord
    {id : String}
    {record : RefundRecord}
    {next : Handler Unit}
    {r : Except Error Unit}
    (hEnds :
      Prog.Ends exec NoFault tr w
        (andThen (Db.upsertRefundRecord id record)
          fun _ => next) tr' w' r) :
    ∃ tr₁,
      Prog.Ends exec NoFault tr₁ (w.withRecord id record)
        next tr' w' r := by
  rcases Prog.Ends.call_iff.mp hEnds with ⟨a, hAns, hEnds⟩
  have hExec :
      exec (.upsertRefundRecord id record) a w =
        (.ok (), w.withRecord id record) := by
    simp only [exec, Answer.guard, show a.fault = false
      from hAns, Bool.false_eq_true, if_false]
    rfl
  rw [hExec] at hEnds
  exact ⟨_, hEnds⟩

/- A refund on record is counted with all the others. -/
theorem ends_countRefund
    {record : RefundRecord}
    {r : Except Error Unit}
    (hStatus : record.status = "succeeded")
    (hIntent : record.paymentIntentId = paymentIntentId)
    (hRecorded : Recorded refunds paymentIntentId events w)
    (hPos : 0 < recordedCents refunds events)
    (hEnds :
      Prog.Ends exec NoFault tr w (countRefund record) tr' w'
        r) :
    SyncEnded paymentIntentId (recordedCents refunds events)
      w w' := by
  unfold countRefund at hEnds
  rw [if_pos hStatus, hIntent] at hEnds
  unfold syncOrderRefundStateFromRecords at hEnds
  by_cases hBlank : paymentIntentId = ""
  · rw [if_pos hBlank] at hEnds
    exact .absent (Or.inl hBlank)
      (Prog.Ends.ret_iff.mp hEnds).2.1
  · rw [if_neg hBlank] at hEnds
    rcases Prog.Ends.call_iff.mp hEnds with ⟨a, hAns, hEnds⟩
    have hSum :
        succeededCents (readRecords
              (exec (.refundRecords paymentIntentId) a w).1) =
          recordedCents refunds events := by
      simp only [exec, Answer.guard, show a.fault = false
        from hAns, Bool.false_eq_true, if_false]
      exact (succeededCents_eq_total _ _).trans hRecorded.sum
    rw [exec_read rfl] at hEnds
    change Prog.Ends exec NoFault _ w
        (if succeededCents (readRecords
            (exec (.refundRecords paymentIntentId) a w).1) >
              0 then
          syncOrderRefundState paymentIntentId
            (succeededCents (readRecords
              (exec (.refundRecords paymentIntentId) a w).1))
        else ok ()) tr' w' r at hEnds
    rw [hSum, if_pos hPos] at hEnds
    exact ends_syncOrderRefundState hEnds

/-
  What the delivery of the last event stores: first its
  record, if it has one, then the amount it makes of it.
-/
def DeliveryEnded
    (refunds : List StripeRefund)
    (paymentIntentId : String)
    (events : List RefundEvent)
    (w w' : Store) : Prop :=
  ∃ w₁ amount, w₁.orders = w.orders ∧
      w₁.products = w.products ∧
      Recorded refunds paymentIntentId events w₁ ∧
      syncedCents refunds events = some amount ∧
      SyncEnded paymentIntentId amount w₁ w'

section

variable (hPositive : ∀ r ∈ refunds, 0 < r.amountCents)
variable
  (hIds :
    Function.Injective (fun k : Fin refunds.length =>
      docId "refunds" refunds[k].id))
variable {e : RefundEvent} {r : Except Error Unit}
variable
  (hRecorded : Recorded refunds paymentIntentId events w)

include hPositive hIds hRecorded

/- Both events of a refund itself count it alike. -/
theorem ends_counted
    {k : ℕ}
    (hLt : k < refunds.length)
    (hRecords : ∀ j, e.records j = decide (k = j))
    (hSynced :
      syncedCents refunds (events ++ [e]) =
        some (recordedCents refunds (events ++ [e])))
    (hEnds :
      Prog.Ends exec NoFault tr (w.withRecord refunds[k].id
          (refunds[k].record paymentIntentId))
        (countRefund (refunds[k].record paymentIntentId))
        tr' w' r) :
    DeliveryEnded refunds paymentIntentId (events ++ [e]) w
      w' := by
  have hNew :
      Recorded refunds paymentIntentId (events ++ [e])
        (w.withRecord refunds[k].id
          (refunds[k].record paymentIntentId)) :=
    hRecorded.upsert hIds (k := ⟨k, hLt⟩)
      (fun j => by simp [hRecords, eq_comm])
      (by simp [countedCents, StripeRefund.record])
  have hPos : 0 < recordedCents refunds (events ++ [e]) := by
    apply recordedCents_pos hPositive (k := ⟨k, hLt⟩)
    simp [recorded_concat, hRecords]
  exact ⟨w.withRecord _ _, _, rfl, rfl, hNew, hSynced,
    ends_countRefund rfl rfl hNew hPos hEnds⟩

theorem ends_refundEvent
    (hIndex : e.index < refunds.length)
    (hEnds :
      Prog.Ends exec NoFault tr w
        (e.handler paymentIntentId chargeId refunds) tr' w'
        r) :
    DeliveryEnded refunds paymentIntentId (events ++ [e]) w
      w' := by
  cases e with
  | charged k =>
    refine ⟨w, cumulativeCents refunds k, rfl, rfl,
      hRecorded.skip (fun _ => rfl),
      by simp [syncedCents], ?_⟩
    rcases Prog.Ends.call_iff.mp hEnds with ⟨a, hAns, hEnds⟩
    rw [exec_findOrderByIntent hAns] at hEnds
    cases hFound : w.orderOfIntent paymentIntentId with
    | none =>
      rw [hFound] at hEnds
      exact .absent (Or.inr hFound)
        (Prog.Ends.ret_iff.mp hEnds).2.1
    | some row =>
      rw [hFound] at hEnds
      exact ends_syncOrderRefundState hEnds
  | created k =>
    have hLt : k < refunds.length := hIndex
    simp only [RefundEvent.handler,
      List.getElem?_eq_getElem hLt, Option.map_some]
      at hEnds
    rcases ends_upsertRefundRecord hEnds with ⟨tr₁, hEnds⟩
    rcases Prog.Ends.bind_iff.mp hEnds with
      ⟨tr₂, w₂, _, hStore, hCount⟩
    rw [ends_storeRefundId hStore] at hCount
    exact ends_counted hPositive hIds hRecorded hLt
      (fun _ => rfl) (by simp [syncedCents]) hCount
  | updated k =>
    have hLt : k < refunds.length := hIndex
    simp only [RefundEvent.handler,
      List.getElem?_eq_getElem hLt, Option.map_some]
      at hEnds
    rcases ends_upsertRefundRecord hEnds with ⟨tr₁, hEnds⟩
    exact ends_counted hPositive hIds hRecorded hLt
      (fun _ => rfl) (by simp [syncedCents]) hEnds

end

end

--------
-- All Deliveries
--------

/-
  A confirmed order before the first event of a refund of the
  payment: keys are unique, and no refund is on record.
-/
structure BeforeRefunds
    (w : Store)
    (key paymentIntentId : String)
    (order : Order) : Prop where
  stored : w.orders.get key = some order
  status :
    order.orderStatus =
      some OrderStatus.paymentAuthorized.asStr
  unrestored : order.stockRestored = false
  orderKeys : w.orders.keys.Nodup
  bareKeys :
    ∀ row ∈ w.orders.rows, docId "orders" row.1 = row.1
  recordKeys : w.refundRecords.keys.Nodup
  unrecorded :
    ∀ row ∈ w.refundRecords.rows,
      countedCents paymentIntentId row.2 = 0

/- Refunds of the payment of an order. -/
structure StripeRefunds
    (order : Order)
    (refunds : List StripeRefund) : Prop where
  ids :
    Function.Injective (fun k : Fin refunds.length =>
      docId "refunds" refunds[k].id)
  positive : ∀ r ∈ refunds, 0 < r.amountCents
  sum : totalCents refunds ≤ order.totalAmountCents

/- The status of an order with so much refunded. -/
def Order.refundStatus
    (order : Order)
    (refundedAmountCents : Int) : OrderStatus :=
  if refundedAmountCents = order.totalAmountCents then
    .refunded
  else .partiallyRefunded

/- The order stores what Stripe refunded. -/
structure RefundsStored
    (w w' : Store)
    (key : String)
    (order : Order)
    (refunds : List StripeRefund) : Prop where
  stored :
    ∃ stored,
      w'.orders.get key = some stored ∧
        stored.refundedAmountCents =
          some (totalCents refunds) ∧
        stored.paymentStatus =
          (order.refundStatus (totalCents refunds)).asStr ∧
        stored.orderStatus =
          some
            (order.refundStatus (totalCents refunds)).asStr
  stock :
    ∀ product,
      stockOf w' product =
        stockOf w product +
          if totalCents refunds = order.totalAmountCents then
            (restoredUnitsOf order.items product : Int)
          else 0

/-
  The order is found by its payment, the last event is not
  the charge of an earlier refund, and what a full refund
  restores has a stored stock.
-/
structure LastIsCurrent
    (w : Store)
    (key paymentIntentId : String)
    (order : Order)
    (refunds : List StripeRefund)
    (events : List RefundEvent) : Prop where
  intent : paymentIntentId ≠ ""
  found :
    w.orderOfIntent paymentIntentId = some (key, order)
  last :
    ∃ e,
      events.getLast? = some e ∧
        ∀ k, e = .charged k → k + 1 = refunds.length
  stocked :
    totalCents refunds = order.totalAmountCents →
      Stocked w order.items

section

variable {w w' : Store} {refunds : List StripeRefund}
variable {events : List RefundEvent}
variable {key paymentIntentId : String} {order : Order}

theorem Recorded.start
    (hBefore : BeforeRefunds w key paymentIntentId order) :
    Recorded refunds paymentIntentId [] w := by
  constructor
  · exact hBefore.recordKeys
  · intro k
    cases hGet :
        w.refundRecords.get
          (docId "refunds" refunds[k].id) with
    | none => rfl
    | some record =>
      exact hBefore.unrecorded _ (Table.mem_of_get hGet)
  · have hZero : recordedCents refunds [] = 0 :=
      Finset.sum_eq_zero (fun _ _ => rfl)
    rw [hZero]
    apply List.sum_eq_zero
    intro amount hMem
    rcases List.mem_map.mp hMem with ⟨row, hRow, rfl⟩
    exact hBefore.unrecorded row hRow

variable {amount : Int} {stored : Order}

theorem SyncEnded.records
    (hSync : SyncEnded paymentIntentId amount w w') :
    w'.refundRecords = w.refundRecords := by
  cases hSync with
  | absent _ hSame => rw [hSame]
  | refused _ _ hSame => rw [hSame]
  | failed _ _ _ _ hRecords _ => exact hRecords
  | written _ _ _ _ hRecords _ _ => exact hRecords

theorem Recorded.congr
    (hRecorded : Recorded refunds paymentIntentId events w)
    (hSame : w'.refundRecords = w.refundRecords) :
    Recorded refunds paymentIntentId events w' := by
  constructor
  · rw [hSame]
    exact hRecorded.keys
  · rw [hSame]
    exact hRecorded.kept
  · rw [hSame]
    exact hRecorded.sum

@[simp] theorem refundPatch_paymentIntentId
    (order : Order)
    (amount : Int) :
    (order.refundPatch amount).paymentIntentId = none := by
  unfold Order.refundPatch
  split_ifs <;> rfl

/- The order of a payment stays the order of the payment. -/
theorem orderOfIntent_modify
    {patch : OrderPatch}
    (hIntent : patch.paymentIntentId = none)
    (hOrders : w'.orders = w.orders.modify key patch.apply)
    (intent : String) :
    w'.orderOfIntent intent =
      (w.orderOfIntent intent).map (fun row =>
        if row.1 = key then (row.1, patch.apply row.2)
        else row) := by
  unfold Store.orderOfIntent
  rw [hOrders]
  exact Table.find?_modify
    (p := fun o : Order => o.paymentIntentId = intent)
    (fun o => by simp [hIntent]) key

/- The last amount is at most what was refunded in all. -/
theorem syncedCents_le
    (hPositive : ∀ r ∈ refunds, 0 < r.amountCents)
    (hIndices : ∀ e ∈ events, e.index < refunds.length)
    (hSynced : syncedCents refunds events = some amount) :
    amount ≤ totalCents refunds := by
  rcases Option.map_eq_some_iff.mp hSynced with
    ⟨e, hLast, rfl⟩
  have hIndex := hIndices e (List.mem_of_getLast? hLast)
  cases e with
  | charged k =>
    have hLt : k < refunds.length := hIndex
    rcases Nat.lt_or_eq_of_le (Nat.succ_le_of_lt hLt) with
      hLess | hEq
    · exact (cumulativeCents_lt hPositive hLess).le
    · exact (cumulativeCents_last hEq).le
  | created k => exact recordedCents_le hPositive
  | updated k => exact recordedCents_le hPositive

/-
  Where the order stands after some events, when it is found
  by its payment.
-/
structure Standing
    (w₀ : Store)
    (key paymentIntentId : String)
    (order : Order)
    (refunds : List StripeRefund)
    (events : List RefundEvent)
    (w : Store)
    (stored : Order) : Prop where
  records : Recorded refunds paymentIntentId events w
  found :
    w.orderOfIntent paymentIntentId = some (key, stored)
  get : w.orders.get key = some stored
  items : stored.items = order.items
  total : stored.totalAmountCents = order.totalAmountCents
  stocks : ∀ item, w.stocks item = w₀.stocks item
  restored :
    stored.stockRestored = true →
      totalCents refunds = order.totalAmountCents ∧
        Stocked w₀ order.items ∧
        ∀ product,
          stockOf w product =
            stockOf w₀ product +
              restoredUnitsOf order.items product
  unrestored :
    stored.stockRestored = false →
      (totalCents refunds = order.totalAmountCents →
        Stocked w₀ order.items) →
      ∀ product, stockOf w product = stockOf w₀ product
  synced :
    ∀ amount, syncedCents refunds events = some amount →
      (order.isFullRefund amount = true →
        Stocked w₀ order.items) →
      ∃ before, stored = (order.refundPatch amount).apply before
  unstocked :
    ¬ Stocked w₀ order.items →
      stored.orderStatus ≠ some OrderStatus.refunded.asStr

theorem refundPatch_congr
    (hTotal :
      stored.totalAmountCents = order.totalAmountCents)
    (amount : Int) :
    stored.refundPatch amount = order.refundPatch amount := by
  simp [Order.refundPatch, Order.isFullRefund, hTotal]

theorem Standing.start
    (hBefore : BeforeRefunds w key paymentIntentId order)
    (hFound :
      w.orderOfIntent paymentIntentId = some (key, order)) :
    Standing w key paymentIntentId order refunds [] w
      order where
  records := Recorded.start hBefore
  found := hFound
  get := hBefore.stored
  items := rfl
  total := rfl
  stocks := fun _ => rfl
  restored := by
    intro hTrue
    rw [hBefore.unrestored] at hTrue
    cases hTrue
  unrestored := fun _ _ _ => rfl
  synced := fun _ hSynced => nomatch hSynced
  unstocked := by
    intro _
    rw [hBefore.status]
    decide

theorem stocks_congr
    (hProducts : w'.products = w.products)
    (item : Item) :
    w'.stocks item = w.stocks item := by
  unfold Store.stocks Store.product?
  rw [hProducts]

theorem stockOf_congr
    (hProducts : w'.products = w.products)
    (product : String) :
    stockOf w' product = stockOf w product := by
  unfold stockOf
  rw [hProducts]

/- A full refund is a refund of the whole payment. -/
theorem totalCents_of_isFullRefund
    (hFull : order.isFullRefund amount = true)
    (hAmount : amount ≤ totalCents refunds)
    (hSum : totalCents refunds ≤ order.totalAmountCents) :
    totalCents refunds = order.totalAmountCents := by
  simp only [Order.isFullRefund, Bool.and_eq_true,
    decide_eq_true_eq] at hFull
  omega

/- A delivery that stores its amount. -/
theorem Standing.written
    {w₀ w₁ : Store}
    {stored : Order}
    {e : RefundEvent}
    {amount : Int}
    (hStanding :
      Standing w₀ key paymentIntentId order refunds events w
        stored)
    (hRecorded :
      Recorded refunds paymentIntentId (events ++ [e]) w')
    (hSynced :
      syncedCents refunds (events ++ [e]) = some amount)
    (hAmount : amount ≤ totalCents refunds)
    (hSum : totalCents refunds ≤ order.totalAmountCents)
    (hBefore₁ : w₁.orders = w.orders)
    (hBefore₂ : w₁.products = w.products)
    (hStock :
      stored.restoresStock amount = true →
        Stocked w₁ stored.items)
    (hOrders :
      w'.orders = w₁.orders.modify key
          (stored.refundPatch amount).apply)
    (hStocks : ∀ item, w'.stocks item = w₁.stocks item)
    (hUnits :
      ∀ product, stockOf w' product = stockOf w₁ product +
            if stored.restoresStock amount = true then
              (restoredUnitsOf stored.items product : Int)
            else 0) :
    Standing w₀ key paymentIntentId order refunds
      (events ++ [e]) w'
      ((order.refundPatch amount).apply stored) := by
  have hSame :
      stored.isFullRefund amount =
        order.isFullRefund amount := by
    simp [Order.isFullRefund, hStanding.total]
  have hPatch := refundPatch_congr hStanding.total amount
  rw [hPatch, hBefore₁] at hOrders
  have hStocks₀ : ∀ item, w'.stocks item = w₀.stocks item := by
    intro item
    rw [hStocks, stocks_congr hBefore₂, hStanding.stocks]
  have hRestored :
      order.isFullRefund amount = true →
        Stocked w₀ order.items ∧ ∀ product,
            stockOf w' product = stockOf w₀ product +
                restoredUnitsOf order.items product := by
    intro hFull
    cases hFlag : stored.stockRestored with
    | true =>
      rcases hStanding.restored hFlag with
        ⟨_, hStocked, hEarlier⟩
      refine ⟨hStocked, ?_⟩
      intro product
      rw [hUnits, stockOf_congr hBefore₂, hEarlier,
        if_neg (by simp [Order.restoresStock, hFlag]),
        add_zero]
    | false =>
      have hNow : stored.restoresStock amount = true := by
        simp [Order.restoresStock, hSame, hFull, hFlag]
      have hStocked : Stocked w₀ order.items := by
        rw [← hStanding.items]
        apply (Stocked.congr _).mp (hStock hNow)
        intro item
        rw [stocks_congr hBefore₂, hStanding.stocks]
      refine ⟨hStocked, ?_⟩
      intro product
      rw [hUnits, stockOf_congr hBefore₂,
        hStanding.unrestored hFlag (fun _ => hStocked),
        if_pos hNow, hStanding.items]
  have hKept :
      ¬ order.isFullRefund amount = true → ∀ product,
          stockOf w' product = stockOf w product := by
    intro hPart product
    rw [hUnits, stockOf_congr hBefore₂,
      if_neg (by simp [Order.restoresStock, hSame, hPart]),
      add_zero]
  constructor
  · exact hRecorded
  · rw [orderOfIntent_modify (refundPatch_paymentIntentId ..)
      hOrders, hStanding.found]
    simp
  · rw [hOrders, Table.get_modify_self, hStanding.get]
    rfl
  · rw [OrderPatch.apply_items, ← hStanding.items]
    unfold Order.refundPatch
    split_ifs <;> rfl
  · exact hStanding.total
  · exact hStocks₀
  · intro hFlag
    by_cases hFull : order.isFullRefund amount = true
    · exact ⟨totalCents_of_isFullRefund hFull hAmount hSum,
        hRestored hFull⟩
    · have hOld : stored.stockRestored = true := by
        simpa [Order.refundPatch, hFull] using hFlag
      rcases hStanding.restored hOld with
        ⟨hTotal, hStocked, hEarlier⟩
      refine ⟨hTotal, hStocked, ?_⟩
      intro product
      rw [hKept hFull, hEarlier]
  · intro hFlag hAll product
    have hPart : ¬ order.isFullRefund amount = true := by
      intro hFull
      simp [Order.refundPatch, hFull] at hFlag
    have hOld : stored.stockRestored = false := by
      simpa [Order.refundPatch, hPart] using hFlag
    rw [hKept hPart, hStanding.unrestored hOld hAll]
  · intro other hOther _
    rw [hSynced, Option.some.injEq] at hOther
    exact ⟨stored, by rw [hOther]⟩
  · intro hNot
    have hPart : ¬ order.isFullRefund amount = true :=
      fun hFull => hNot (hRestored hFull).1
    simp only [OrderPatch.apply_orderStatus,
      Order.refundPatch, if_neg hPart, Option.some_or]
    decide

/- One delivery, when the order is found by its payment. -/
theorem Standing.step
    {w₀ : Store}
    {stored : Order}
    {e : RefundEvent}
    (hIntent : paymentIntentId ≠ "")
    (hKey : docId "orders" key = key)
    (hRefunds : StripeRefunds order refunds)
    (hIndices :
      ∀ x ∈ events ++ [e], x.index < refunds.length)
    (hStanding :
      Standing w₀ key paymentIntentId order refunds events w
        stored)
    (hEnded :
      DeliveryEnded refunds paymentIntentId (events ++ [e]) w
        w') :
    ∃ stored', Standing w₀ key paymentIntentId order refunds
        (events ++ [e]) w' stored' := by
  rcases hEnded with
    ⟨w₁, amount, hOrders₁, hProducts₁, hRecorded, hSynced,
      hSync⟩
  have hAmount :=
    syncedCents_le hRefunds.positive hIndices hSynced
  have hFound₁ :
      w₁.orderOfIntent paymentIntentId =
        some (key, stored) := by
    unfold Store.orderOfIntent
    rw [hOrders₁]
    exact hStanding.found
  have hRecorded' := hRecorded.congr hSync.records
  have hStocks₁ : ∀ item, w₁.stocks item = w₀.stocks item := by
    intro item
    rw [stocks_congr hProducts₁, hStanding.stocks]
  cases hSync with
  | absent hNone _ =>
    rcases hNone with hBlank | hNone
    · exact absurd hBlank hIntent
    · rw [hFound₁] at hNone
      cases hNone
  | refused hFound hOver _ =>
    rw [hFound₁] at hFound
    cases hFound
    rw [hStanding.total] at hOver
    have hSum := hRefunds.sum
    omega
  | failed hFound hRestores hStock hOrders _ hStocks =>
    rw [hFound₁] at hFound
    cases hFound
    have hNot : ¬ Stocked w₀ order.items := by
      rw [← hStanding.items, ← Stocked.congr hStocks₁]
      exact hStock
    simp only [Order.restoresStock, Bool.and_eq_true,
      Bool.not_eq_true'] at hRestores
    have hFull : order.isFullRefund amount = true := by
      rw [← hRestores.1]
      simp [Order.isFullRefund, hStanding.total]
    have hWhole :=
      totalCents_of_isFullRefund hFull hAmount hRefunds.sum
    refine ⟨stored, hRecorded', ?_, ?_, hStanding.items,
      hStanding.total, ?_, ?_, ?_, ?_, ?_⟩
    · unfold Store.orderOfIntent
      rw [hOrders]
      exact hFound₁
    · rw [hOrders, hOrders₁]
      exact hStanding.get
    · intro item
      rw [hStocks, hStocks₁]
    · intro hFlag
      exact absurd (hStanding.restored hFlag).2.1 hNot
    · intro _ hAll
      exact absurd (hAll hWhole) hNot
    · intro other hOther hAll
      cases hSynced.symm.trans hOther
      exact absurd (hAll hFull) hNot
    · exact hStanding.unstocked
  | written _ hFound hStock hOrders _ hStocks hUnits =>
    rw [hFound₁] at hFound
    cases hFound
    rw [hKey] at hOrders
    exact ⟨_, hStanding.written hRecorded' hSynced hAmount
      hRefunds.sum hOrders₁ hProducts₁ hStock hOrders
      hStocks hUnits⟩

/- One delivery, when another order or none is found. -/
theorem get_of_deliveryEnded
    (hNot :
      paymentIntentId = "" ∨
        ∀ row, w.orderOfIntent paymentIntentId = some row →
          docId "orders" row.1 ≠ key)
    (hEnded :
      DeliveryEnded refunds paymentIntentId events w w') :
    w'.orders.get key = w.orders.get key ∧
      (w'.orderOfIntent paymentIntentId).map (·.1) =
        (w.orderOfIntent paymentIntentId).map (·.1) := by
  rcases hEnded with ⟨w₁, amount, hOrders₁, _, _, _, hSync⟩
  have hIntent₁ :
      w₁.orderOfIntent paymentIntentId =
        w.orderOfIntent paymentIntentId := by
    unfold Store.orderOfIntent
    rw [hOrders₁]
  rw [← hOrders₁, ← hIntent₁]
  rw [← hIntent₁] at hNot
  cases hSync with
  | absent _ hSame =>
    rw [hSame]
    exact ⟨rfl, rfl⟩
  | refused _ _ hSame =>
    rw [hSame]
    exact ⟨rfl, rfl⟩
  | failed _ _ _ hOrders _ _ =>
    unfold Store.orderOfIntent
    rw [hOrders]
    exact ⟨rfl, rfl⟩
  | @written id found hSome hFound _ hOrders _ _ _ =>
    rcases hNot with hBlank | hOther
    · exact absurd hBlank hSome
    · constructor
      · rw [hOrders]
        exact Table.get_modify_of_ne _
          (hOther _ hFound).symm _
      · rw [orderOfIntent_modify
          (refundPatch_paymentIntentId ..) hOrders, hFound]
        simp only [Option.map_some]
        split_ifs <;> rfl

/- All deliveries, when the order is found. -/
theorem standing_series
    {chargeId : String}
    (hBefore : BeforeRefunds w key paymentIntentId order)
    (hRefunds : StripeRefunds order refunds)
    (hIndices : ∀ e ∈ events, e.index < refunds.length)
    (hIntent : paymentIntentId ≠ "")
    (hFound :
      w.orderOfIntent paymentIntentId = some (key, order))
    (hSeries :
      Series exec NoFault
        (RefundEvent.handler paymentIntentId chargeId
          refunds) w events w') :
    ∃ stored,
      Standing w key paymentIntentId order refunds events w'
        stored := by
  have hKey : docId "orders" key = key :=
    hBefore.bareKeys _ (List.mem_of_find?_eq_some hFound)
  apply hSeries.holds (P := fun done w' =>
      ∃ stored,
        Standing w key paymentIntentId order refunds done w'
          stored)
  · exact ⟨order, Standing.start hBefore hFound⟩
  · rintro done e hDone w₁ tr w₂ r ⟨stored, hStanding⟩ hEnds
    have hSoFar :
        ∀ x ∈ done ++ [e], x.index < refunds.length :=
      fun x hMem => hIndices x (hDone.subset hMem)
    have hEnded :=
      ends_refundEvent hRefunds.positive hRefunds.ids
        hStanding.records
        (hSoFar e (by simp)) hEnds
    exact hStanding.step hIntent hKey hRefunds hSoFar hEnded

/- All deliveries, when the order is not found. -/
theorem get_series
    {chargeId : String}
    (hBefore : BeforeRefunds w key paymentIntentId order)
    (hRefunds : StripeRefunds order refunds)
    (hIndices : ∀ e ∈ events, e.index < refunds.length)
    (hNot :
      ¬ (paymentIntentId ≠ "" ∧
        w.orderOfIntent paymentIntentId =
          some (key, order)))
    (hSeries :
      Series exec NoFault
        (RefundEvent.handler paymentIntentId chargeId
          refunds) w events w') :
    w'.orders.get key = some order := by
  have hOther :
      paymentIntentId = "" ∨ ∀ id,
          (w.orderOfIntent paymentIntentId).map (·.1) =
              some id →
            docId "orders" id ≠ key := by
    by_cases hBlank : paymentIntentId = ""
    · exact Or.inl hBlank
    · right
      intro id hId hSame
      rcases Option.map_eq_some_iff.mp hId with
        ⟨row, hRow, rfl⟩
      have hMem : row ∈ w.orders.rows :=
        List.mem_of_find?_eq_some hRow
      rw [hBefore.bareKeys row hMem] at hSame
      have hGet := Table.get_of_mem hBefore.orderKeys hMem
      rw [hSame, hBefore.stored, Option.some.injEq] at hGet
      apply hNot
      refine ⟨hBlank, ?_⟩
      rw [hRow, ← hSame, hGet]
  have hAll :
      Recorded refunds paymentIntentId events w' ∧
        w'.orders.get key = some order ∧
        (w'.orderOfIntent paymentIntentId).map (·.1) =
          (w.orderOfIntent paymentIntentId).map (·.1) := by
    apply hSeries.holds (P := fun done w' =>
        Recorded refunds paymentIntentId done w' ∧
          w'.orders.get key = some order ∧
          (w'.orderOfIntent paymentIntentId).map (·.1) =
            (w.orderOfIntent paymentIntentId).map (·.1))
    · exact ⟨Recorded.start hBefore, hBefore.stored, rfl⟩
    · rintro done e hDone w₁ tr w₂ r
        ⟨hRecorded, hGet, hIntent⟩ hEnds
      have hEnded :=
        ends_refundEvent hRefunds.positive hRefunds.ids
          hRecorded
          (hIndices e (hDone.subset (by simp))) hEnds
      have hNotNow :
          paymentIntentId = "" ∨ ∀ row,
              w₁.orderOfIntent paymentIntentId = some row →
                docId "orders" row.1 ≠ key := by
        rcases hOther with hBlank | hOther
        · exact Or.inl hBlank
        · right
          intro row hRow
          apply hOther
          rw [← hIntent, hRow]
          rfl
      have hNext := get_of_deliveryEnded hNotNow hEnded
      rcases hEnded with ⟨_, _, _, _, hRecorded', _, hSync⟩
      refine ⟨hRecorded'.congr hSync.records, ?_, ?_⟩
      · rw [hNext.1, hGet]
      · rw [hNext.2, hIntent]
  exact hAll.2.1

/- What the last event stores is the refunded total. -/
theorem syncedCents_eq_total
    (hDelivered : DeliveredOnce refunds events)
    (hLast :
      ∃ e, events.getLast? = some e ∧
          ∀ k, e = .charged k → k + 1 = refunds.length) :
    syncedCents refunds events =
      some (totalCents refunds) := by
  rcases hLast with ⟨e, hLast, hCharge⟩
  unfold syncedCents
  rw [hLast, Option.map_some, Option.some.injEq]
  cases e with
  | charged k => exact cumulativeCents_last (hCharge k rfl)
  | created k => exact recordedCents_all hDelivered.records
  | updated k => exact recordedCents_all hDelivered.records

/- The last event decides whether the total is stored. -/
theorem last_of_refundsStored
    {w₀ : Store}
    (hRefunds : StripeRefunds order refunds)
    (hIndices : ∀ e ∈ events, e.index < refunds.length)
    (hStatus :
      order.orderStatus =
        some OrderStatus.paymentAuthorized.asStr)
    (hEmpty : events = [] → stored = order)
    (hStanding :
      Standing w₀ key paymentIntentId order refunds events w
        stored)
    (hAmount :
      stored.refundedAmountCents = some (totalCents refunds))
    (hNew :
      stored.orderStatus ≠
        some OrderStatus.paymentAuthorized.asStr) :
    ∃ e, events.getLast? = some e ∧
        ∀ k, e = .charged k → k + 1 = refunds.length := by
  cases hLast : events.getLast? with
  | none =>
    rw [hEmpty (List.getLast?_eq_none_iff.mp hLast)] at hNew
    exact absurd hStatus hNew
  | some e =>
    refine ⟨e, rfl, ?_⟩
    rintro k rfl
    by_contra hNe
    have hLt : k < refunds.length :=
      hIndices _ (List.mem_of_getLast? hLast)
    have hLess := cumulativeCents_lt hRefunds.positive
        (show k + 1 < refunds.length by omega)
    have hSum := hRefunds.sum
    have hSynced :
        syncedCents refunds events =
          some (cumulativeCents refunds k) := by
      simp [syncedCents, hLast]
    have hPart :
        ¬ order.isFullRefund (cumulativeCents refunds k) =
          true := by
      simp only [Order.isFullRefund, Bool.and_eq_true,
        decide_eq_true_eq]
      omega
    rcases hStanding.synced _ hSynced
        (fun hFull => absurd hFull hPart) with
      ⟨before, rfl⟩
    simp only [Order.refundPatch, if_neg hPart,
      OrderPatch.apply_refundedAmountCents, Option.some_or,
      Option.some.injEq] at hAmount
    omega

/- With the total stored last, all is stored. -/
theorem Standing.refundsStored
    {w₀ : Store}
    (hPositive : 0 < totalCents refunds)
    (hSum : totalCents refunds ≤ order.totalAmountCents)
    (hStanding :
      Standing w₀ key paymentIntentId order refunds events w
        stored)
    (hSynced :
      syncedCents refunds events = some (totalCents refunds))
    (hStocked :
      totalCents refunds = order.totalAmountCents →
        Stocked w₀ order.items) :
    RefundsStored w₀ w key order refunds := by
  have hFull :
      order.isFullRefund (totalCents refunds) = true ↔
        totalCents refunds = order.totalAmountCents := by
    simp only [Order.isFullRefund, Bool.and_eq_true,
      decide_eq_true_eq]
    omega
  rcases hStanding.synced _ hSynced
      (fun h => hStocked (hFull.mp h)) with
    ⟨before, rfl⟩
  by_cases hWhole :
      totalCents refunds = order.totalAmountCents
  · have hIs := hFull.mpr hWhole
    constructor
    · refine ⟨_, hStanding.get, ?_, ?_, ?_⟩
      · simp [Order.refundPatch, hIs]
      · simp only [OrderPatch.apply_paymentStatus,
          Order.refundPatch, if_pos hIs, Order.refundStatus,
          if_pos hWhole]
        rfl
      · simp only [OrderPatch.apply_orderStatus,
          Order.refundPatch, if_pos hIs, Order.refundStatus,
          if_pos hWhole, Option.some_or]
    · intro product
      rw [if_pos hWhole]
      apply (hStanding.restored ?_).2.2
      simp [Order.refundPatch, hIs]
  · have hPart :
        ¬ order.isFullRefund (totalCents refunds) = true :=
      fun h => hWhole (hFull.mp h)
    constructor
    · refine ⟨_, hStanding.get, ?_, ?_, ?_⟩
      · simp [Order.refundPatch, hPart]
      · simp only [OrderPatch.apply_paymentStatus,
          Order.refundPatch, if_neg hPart, Order.refundStatus,
          if_neg hWhole]
        rfl
      · simp only [OrderPatch.apply_orderStatus,
          Order.refundPatch, if_neg hPart, Order.refundStatus,
          if_neg hWhole, Option.some_or]
    · intro product
      rw [if_neg hWhole, add_zero]
      apply hStanding.unrestored ?_ hStocked
      by_contra hFlag
      exact hWhole
        (hStanding.restored (by simpa using hFlag)).1

/-
  After all events of all refunds, delivered one after the
  other in any order, the order stores what was refunded
  exactly if the last of them was current.
-/
theorem refund_events_stored_iff
    {chargeId : String}
    (hBefore : BeforeRefunds w key paymentIntentId order)
    (hRefunds : StripeRefunds order refunds)
    (hDelivered : DeliveredOnce refunds events) :
    (∃ w', Series exec NoFault
        (RefundEvent.handler paymentIntentId chargeId
          refunds) w events w') ∧
      ∀ w', Series exec NoFault
            (RefundEvent.handler paymentIntentId chargeId
              refunds) w events w' →
          (RefundsStored w w' key order refunds ↔
            LastIsCurrent w key paymentIntentId order refunds
              events) := by
  refine ⟨Series.exists (fun _ _ _ => ⟨{}, rfl⟩) events w,
    ?_⟩
  intro w' hSeries
  constructor
  · intro hStored
    rcases hStored.stored with
      ⟨stored, hGet, hAmount, _, hStatus⟩
    have hNew :
        stored.orderStatus ≠
          some OrderStatus.paymentAuthorized.asStr := by
      rw [hStatus]
      unfold Order.refundStatus
      split_ifs <;> decide
    by_cases hFound :
        paymentIntentId ≠ "" ∧
          w.orderOfIntent paymentIntentId = some (key, order)
    · rcases standing_series hBefore hRefunds
          hDelivered.indices hFound.1 hFound.2 hSeries with
        ⟨stored', hStanding⟩
      cases hGet.symm.trans hStanding.get
      have hEmpty : events = [] → stored = order := by
        rintro rfl
        cases hSeries
        cases hGet.symm.trans hBefore.stored
        rfl
      refine ⟨hFound.1, hFound.2, ?_, ?_⟩
      · exact last_of_refundsStored hRefunds
          hDelivered.indices hBefore.status hEmpty hStanding
          hAmount hNew
      · intro hWhole
        by_contra hNot
        apply hStanding.unstocked hNot
        rw [hStatus, Order.refundStatus, if_pos hWhole]
    · have hSame :=
        get_series hBefore hRefunds hDelivered.indices hFound
          hSeries
      cases hGet.symm.trans hSame
      exact absurd hBefore.status hNew
  · intro hCurrent
    rcases standing_series hBefore hRefunds
        hDelivered.indices hCurrent.intent hCurrent.found
        hSeries with
      ⟨stored, hStanding⟩
    have hPositive : 0 < totalCents refunds := by
      rcases hCurrent.last with ⟨e, hLast, _⟩
      have hIndex :=
        hDelivered.indices e (List.mem_of_getLast? hLast)
      apply List.sum_pos
      · intro amount hMem
        rcases List.mem_map.mp hMem with ⟨r, hr, rfl⟩
        exact hRefunds.positive r hr
      · intro hNil
        rw [List.map_eq_nil_iff.mp hNil] at hIndex
        exact absurd hIndex (Nat.not_lt_zero _)
    exact hStanding.refundsStored hPositive hRefunds.sum
      (syncedCents_eq_total hDelivered hCurrent.last)
      hCurrent.stocked

end

--------
-- Two Refunds Of One Order
--------

def paidOrder : Order where
  items := [{ productId := "p1", quantity := some 2 }]
  orderStatus := some "confirmed"
  paymentStatus := "captured"
  paymentIntentId := "pi_1"
  totalAmountCents := 100

def paidStore : Store where
  orders := ⟨[("o1", paidOrder)]⟩
  products := ⟨[("p1", { stockQuantity := some 5 })]⟩

def twoRefunds : List StripeRefund :=
  [⟨"re_1", 40⟩, ⟨"re_2", 60⟩]

theorem beforeRefunds_paidStore :
    BeforeRefunds paidStore "o1" "pi_1" paidOrder where
  stored := by decide
  status := by decide
  unrestored := by decide
  orderKeys := by decide
  bareKeys := by decide
  recordKeys := by decide
  unrecorded := by decide

theorem stripeRefunds_twoRefunds :
    StripeRefunds paidOrder twoRefunds where
  ids := by decide
  positive := by decide
  sum := by decide

theorem refund_events_stored_last_current :
    ∃ w', Series exec NoFault
          (RefundEvent.handler "pi_1" "ch_1" twoRefunds)
          paidStore
          [.charged 1, .created 1, .charged 0, .created 0]
          w' ∧
        RefundsStored paidStore w' "o1" paidOrder
          twoRefunds := by
  have hDelivered :
      DeliveredOnce twoRefunds
        [.charged 1, .created 1, .charged 0, .created 0] :=
    ⟨by decide, by decide, by decide, by decide⟩
  rcases @refund_events_stored_iff _ _ _ _ _ _ "ch_1"
      beforeRefunds_paidStore stripeRefunds_twoRefunds
      hDelivered with
    ⟨⟨w', hSeries⟩, hIff⟩
  refine ⟨w', hSeries, (hIff w' hSeries).mpr ?_⟩
  exact ⟨by decide, by decide,
    ⟨.created 0, rfl, fun _ h => nomatch h⟩,
    fun _ => by decide⟩

/- The charge of the first refund comes last. -/
theorem refund_events_stored_late_charge :
    BeforeRefunds paidStore "o1" "pi_1" paidOrder ∧
      StripeRefunds paidOrder twoRefunds ∧
      DeliveredOnce twoRefunds
        [.created 0, .created 1, .charged 1, .charged 0] ∧
      ∃ w', Series exec NoFault
            (RefundEvent.handler "pi_1" "ch_1" twoRefunds)
            paidStore
            [.created 0, .created 1, .charged 1, .charged 0]
            w' ∧
          ¬ RefundsStored paidStore w' "o1" paidOrder
            twoRefunds := by
  refine ⟨beforeRefunds_paidStore, stripeRefunds_twoRefunds,
    ⟨by decide, by decide, by decide, by decide⟩, ?_⟩
  have hPlay :
      (Series.play exec NoFault
        (RefundEvent.handler "pi_1" "ch_1" twoRefunds)
        (List.replicate 9 {}) paidStore
        [.created 0, .created 1, .charged 1,
          .charged 0]).any
        (fun w' =>
          (w'.orders.get "o1").map
            Order.refundedAmountCents =
              some (some 40)) = true := by
    decide
  rcases (Option.any_eq_true _ _).mp hPlay with
    ⟨w', hRun, hAmount⟩
  refine ⟨w', Series.of_play hRun, ?_⟩
  intro hStored
  rcases hStored.stored with ⟨stored, hGet, hTotal, _⟩
  rw [hGet, Option.map_some, hTotal] at hAmount
  revert hAmount
  decide

end Orignabase
