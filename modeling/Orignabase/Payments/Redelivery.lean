import Orignabase.Lib.Retry
import Orignabase.Payments.Webhooks
import Orignabase.Store.Rules

/-
  Events that are delivered again after a failed delivery.

  Key definitions include:
    * `deliveryStep`

  Main results:
    * `atomic_routeEvent`
    * `webhook_exactly_once`
-/

--------
-- Steps Of A Delivery
--------

namespace Orignabase

open Conc

/- The order holds a coupon that is not redeemed. -/
def Store.holdsCoupon (w : Store) (orderId : String) : Bool :=
  w.couponUses.any (fun c =>
    c.orderId = orderId ∧ c.redeemedAt = none)

/-
  Any read, the status update and the deduplication may fail,
  and so may the clearing of the cart and the mails.  The
  statements after the status update do not fail, except for
  the release of a coupon that is not held; a failed delivery
  can be taken back; the update of the payment columns is not
  reached; and the last attempt to restore stock finds the
  stock it read.
-/
def deliveryStep
    (tr : Trace)
    (o : Op)
    (a : Answer)
    (w : Store) : Bool :=
  match o with
  | .casProduct id _ expected =>
    !a.fault && (misses tr < 2 ||
        (w.product? id).any (fun p =>
          p.stockQuantity = some expected))
  | .setPaymentColumns .. => false
  | .setCheckoutSession .. | .redeemCoupon ..
  | .deleteWebhookEvent .. => !a.fault
  | .releaseCoupon orderId =>
    !a.fault || !w.holdsCoupon orderId
  | _ => true

def DeliveryStep : StepCond Op.Res Answer Store :=
  fun tr o a w => deliveryStep tr o a w = true

instance (tr : Trace) (o : Op) (a : Answer) (w : Store) :
    Decidable (DeliveryStep tr o a w) :=
  inferInstanceAs (Decidable (deliveryStep tr o a w = true))

--------
-- Single Statements
--------

open Handler

variable {tr tr' : Trace} {w w' : Store}

variable {α : Type}

theorem andThen_eq_bind
    {β : Type}
    (p : Handler α)
    (f : α → Handler β) :
    andThen p f = p.bind (orElse f) := by
  unfold andThen
  congr 1
  funext r
  cases r <;> rfl

/- A statement that is tried without failing. -/
theorem free_perform
    {o : Op}
    {k : Op.Res o → Handler α}
    {x : α}
    (a : Answer)
    (hAns : a.fault = false)
    (hRest :
      Free exec NoFault (exec o a w).2
        (k (exec o a w).1) w' x) :
    Free exec NoFault w (.call o k) w' x :=
  Free.call (fun _ => hAns) hRest

theorem atomic_findOrder (orderId : String) :
    ∀ tr' w' r, Prog.Ends exec DeliveryStep tr w
          (findOrderByMetadataId orderId) tr' w' r →
        w' = w ∧
          ((∃ e, r = .error e) ∨ ∃ order, r = .ok order ∧
              Free exec NoFault w
                (findOrderByMetadataId orderId) w order) := by
  intro tr' w' r hEnds
  rcases Prog.Ends.call_iff.mp hEnds with ⟨a, _, hRest⟩
  cases hAns : a.fault with
  | true =>
    simp only [exec, Answer.guard, hAns, if_true] at hRest
    rcases Prog.Ends.ret_iff.mp hRest with ⟨_, rfl, rfl⟩
    exact ⟨rfl, Or.inl ⟨_, rfl⟩⟩
  | false =>
    simp only [exec, Answer.guard, hAns, Bool.false_eq_true,
      if_false] at hRest
    cases hFind : w.findOrder orderId with
    | none =>
      rw [hFind] at hRest
      rcases Prog.Ends.ret_iff.mp hRest with ⟨_, rfl, rfl⟩
      exact ⟨rfl, Or.inl ⟨_, rfl⟩⟩
    | some order =>
      rw [hFind] at hRest
      rcases Prog.Ends.ret_iff.mp hRest with ⟨_, rfl, rfl⟩
      refine ⟨rfl, Or.inr ⟨order, rfl, ?_⟩⟩
      apply free_perform a hAns
      simp only [exec, Answer.guard, hAns,
        Bool.false_eq_true, if_false, hFind]
      exact Free.ret _ _

theorem atomic_setOrderStatus
    (id expected new : String) :
    Atomic exec DeliveryStep NoFault tr w
      (Db.setOrderStatus id expected new) := by
  intro tr' w' r hEnds
  rcases Prog.Ends.call_iff.mp hEnds with ⟨a, _, hRest⟩
  rcases Prog.Ends.ret_iff.mp hRest with ⟨_, rfl, rfl⟩
  cases hAns : a.fault with
  | true =>
    rw [exec_fault _ hAns]
    left
    exact ⟨Error.fault, by
      simp [exec, Answer.guard, hAns], rfl⟩
  | false =>
    right
    by_cases hHolds :
        (w.orders.get id).any
          (fun o => o.orderStatus.getD "" = expected) = true
    · refine ⟨true, by
        simp [exec, Answer.guard, hAns, hHolds], ?_⟩
      apply free_perform a hAns
      simp only [exec, Answer.guard, hAns,
        Bool.false_eq_true, if_false, hHolds, if_true]
      exact Free.ret _ _
    · refine ⟨false, by
        simp [exec, Answer.guard, hAns, hHolds], ?_⟩
      apply free_perform a hAns
      simp only [exec, Answer.guard, hAns,
        Bool.false_eq_true, if_false, hHolds]
      exact Free.ret _ _

/- A statement that does not fail after the update. -/
theorem sure_setCheckoutSession
    (id intent session : String) :
    Sure exec DeliveryStep NoFault tr w
      (Db.setCheckoutSession id intent session) := by
  intro tr' w' r hEnds
  rcases Prog.Ends.call_iff.mp hEnds with ⟨a, hCond, hRest⟩
  rcases Prog.Ends.ret_iff.mp hRest with ⟨_, rfl, rfl⟩
  have hAns : a.fault = false := by
    simpa [DeliveryStep, deliveryStep] using hCond
  refine ⟨(), by simp [exec, Answer.guard, hAns], ?_⟩
  apply free_perform a hAns
  simp only [exec, Answer.guard, hAns, Bool.false_eq_true,
    if_false]
  exact Free.ret _ _

theorem sure_redeemCoupon
    (orderId code now : String) :
    Sure exec DeliveryStep NoFault tr w
      (Db.redeemCoupon orderId code now) := by
  intro tr' w' r hEnds
  rcases Prog.Ends.call_iff.mp hEnds with ⟨a, hCond, hRest⟩
  rcases Prog.Ends.ret_iff.mp hRest with ⟨_, rfl, rfl⟩
  have hAns : a.fault = false := by
    simpa [DeliveryStep, deliveryStep] using hCond
  refine ⟨(), by simp [exec, Answer.guard, hAns], ?_⟩
  apply free_perform a hAns
  simp only [exec, Answer.guard, hAns, Bool.false_eq_true,
    if_false]
  exact Free.ret _ _

theorem sure_markCouponRedeemed
    (upper : String → String)
    (orderId couponCode : String) :
    Sure exec DeliveryStep NoFault tr w
      (markCouponRedeemed upper orderId couponCode) := by
  unfold markCouponRedeemed
  split_ifs
  · exact Sure.ret ()
  · intro tr' w' r hEnds
    rcases Prog.Ends.call_iff.mp hEnds with ⟨a, _, hRest⟩
    rcases sure_redeemCoupon _ _ _ _ _ _ hRest with
      ⟨x, rfl, hFree⟩
    exact ⟨x, rfl,
      free_perform { a with fault := false } rfl hFree⟩

/- Releasing a coupon that is not held changes nothing. -/
theorem releaseCoupon_eq
    {orderId : String}
    (hNone : w.holdsCoupon orderId = false)
    (a : Answer) :
    (exec (.releaseCoupon orderId) a w).2 = w := by
  cases hAns : a.fault with
  | true => rw [exec_fault _ hAns]
  | false =>
    have hKeep :
        w.couponUses.filter (fun c =>
          ¬ (c.orderId = orderId ∧
            c.redeemedAt = none)) = w.couponUses := by
      rw [List.filter_eq_self]
      intro c hMem
      simp only [Store.holdsCoupon,
        List.any_eq_false] at hNone
      have hOther := hNone c hMem
      simp only [decide_eq_true_eq] at hOther
      simp only [hOther, not_false_eq_true, decide_true]
    simp only [exec, Answer.guard, hAns,
      Bool.false_eq_true, if_false]
    rw [hKeep]

theorem sure_releaseCoupon (orderId : String) :
    Sure exec DeliveryStep NoFault tr w
      (releaseCouponReservation orderId) := by
  intro tr' w' r hEnds
  rcases Prog.Ends.call_iff.mp hEnds with ⟨a, hCond, hRest⟩
  rcases Prog.Ends.ret_iff.mp hRest with ⟨_, rfl, rfl⟩
  refine ⟨(), rfl, ?_⟩
  cases hAns : a.fault with
  | false => exact free_perform a hAns (Free.ret _ _)
  | true =>
    have hNone : w.holdsCoupon orderId = false := by
      simpa [DeliveryStep, deliveryStep, hAns] using hCond
    have hSame := releaseCoupon_eq hNone
    rw [hSame]
    apply free_perform {} rfl
    rw [hSame]
    exact Free.ret _ _

/- A statement whose failure is only logged. -/
theorem sure_ignored
    {o : Op}
    {p : Handler α}
    (hSame : ∀ a, (exec o a w).2 = w)
    (hNext : ∀ tr', Sure exec DeliveryStep NoFault tr' w p) :
    Sure exec DeliveryStep NoFault tr w
      (.call o (fun _ => p)) := by
  intro tr' w' r hEnds
  rcases Prog.Ends.call_iff.mp hEnds with ⟨a, _, hRest⟩
  rw [hSame] at hRest
  rcases hNext _ tr' w' r hRest with ⟨x, rfl, hFree⟩
  refine ⟨x, rfl, ?_⟩
  apply free_perform {} rfl
  rw [hSame]
  exact hFree

theorem sure_sendEmails (orderId : String) :
    Sure exec DeliveryStep NoFault tr w
      (sendPaymentAuthorizedEmails orderId) := by
  apply sure_ignored
  · intro a
    simp only [exec, Answer.guard]
    split_ifs <;> rfl
  · intro tr'
    exact Sure.ret ()

theorem sure_afterPayment (buyerId orderId : String) :
    Sure exec DeliveryStep NoFault tr w
      ((if buyerId ≠ "" then Db.clearCart buyerId
        else ok ()).bind fun _ =>
          sendPaymentAuthorizedEmails orderId) := by
  split_ifs
  · apply sure_ignored
    · intro a
      simp only [exec, Answer.guard]
      split_ifs <;> rfl
    · intro tr'
      exact sure_sendEmails orderId
  · exact sure_sendEmails orderId

--------
-- Stock
--------

variable {tr tr' : Trace} {w w' : Store}

variable {stock : Int}

theorem exec_casProduct_found
    {id : String}
    {expected : Int}
    {a : Answer}
    (hAns : a.fault = false)
    (hFound :
      (w.product? id).any (fun p =>
        p.stockQuantity = some expected) = true) :
    exec (.casProduct id stock expected) a w =
      (.ok true, w.setStock id stock) := by
  simp only [exec, Answer.guard, hAns, Bool.false_eq_true,
    if_false, hFound, if_true]
  rfl

theorem exec_casProduct_lost
    {id : String}
    {expected : Int}
    {a : Answer}
    (hAns : a.fault = false)
    (hLost :
      ¬ (w.product? id).any (fun p =>
        p.stockQuantity = some expected) = true) :
    exec (.casProduct id stock expected) a w =
      (.ok false, w) := by
  simp only [exec, Answer.guard, hAns, Bool.false_eq_true,
    if_false, hLost]
  rfl

/- The restores all end with the units put back. -/
theorem ends_restoreAttempts
    {productId : String}
    {quantity : Int}
    {attempts : Nat}
    {r : Except Error Bool}
    (hLeft : misses tr + attempts = 3)
    (hSome : 0 < attempts)
    (hEnds :
      Prog.Ends exec DeliveryStep tr w
        (restoreAttempts productId quantity attempts) tr' w'
        r) :
    ∃ stock,
      (w.product? productId).any (fun p =>
          p.stockQuantity = some stock) = true ∧
        w' = w.setStock productId (stock + quantity) ∧
        r = .ok true ∧ misses tr' = 0 := by
  induction attempts generalizing tr with
  | zero => exact absurd hSome (Nat.lt_irrefl 0)
  | succ attempts ih =>
    rcases Prog.Ends.call_iff.mp hEnds with ⟨a, _, hEnds⟩
    have hWorld :
        (exec (.getProduct productId) a w).2 = w := by
      simp only [exec, Answer.guard]
      split_ifs <;> rfl
    rw [hWorld] at hEnds
    generalize (exec (.getProduct productId) a w).1 = read
      at hEnds
    rcases Prog.Ends.call_iff.mp hEnds with
      ⟨a', hCond, hEnds⟩
    simp only [DeliveryStep, deliveryStep,
      Bool.and_eq_true, Bool.not_eq_true', Bool.or_eq_true,
      decide_eq_true_eq] at hCond
    by_cases hFound :
        (w.product? productId).any (fun p =>
          p.stockQuantity = some (readStock read)) = true
    · rw [exec_casProduct_found hCond.1 hFound] at hEnds
      rcases Prog.Ends.ret_iff.mp hEnds with ⟨rfl, rfl, rfl⟩
      exact ⟨_, hFound, rfl, rfl, rfl⟩
    · -- A miss leaves another attempt.
      have hMisses : misses tr < 2 := by
        rcases hCond.2 with hFew | hHit
        · exact hFew
        · exact absurd hHit hFound
      rw [exec_casProduct_lost hCond.1 hFound] at hEnds
      apply ih _ _ hEnds
      · simp only [misses, missed, if_true]
        omega
      · omega

theorem free_restoreAttempts
    {productId : String}
    (hStock :
      (w.product? productId).any (fun p =>
        p.stockQuantity = some stock) = true)
    (quantity : Int)
    (attempts : Nat) :
    Free exec NoFault w
      (restoreAttempts productId quantity (attempts + 1))
      (w.setStock productId (stock + quantity)) true := by
  rcases (Option.any_eq_true _ _).mp hStock with
    ⟨product, hProduct, hIs⟩
  have hRead : product.stock = stock := by
    simp [Product.stock, of_decide_eq_true hIs]
  apply free_perform {} rfl
  apply free_perform {} rfl
  simp only [exec, Answer.guard, Bool.false_eq_true,
    if_false, hProduct, readStock, hRead, Option.any_some,
    hIs, if_true]
  exact Free.ret _ _

theorem sure_restoreStock
    (items : List Item)
    (hMisses : misses tr = 0) :
    Sure exec DeliveryStep NoFault tr w
      (restoreStockForOrder items) := by
  induction items generalizing tr w with
  | nil => exact Sure.ret ()
  | cons item rest ih =>
    unfold restoreStockForOrder
    split_ifs
    · rw [andThen_eq_bind]
      apply Sure.bind
      · intro tr₁ w₁ r hEnds
        rcases ends_restoreAttempts (by rw [hMisses])
            (by decide) hEnds with
          ⟨stock, hStock, rfl, rfl, _⟩
        exact ⟨true, rfl, free_restoreAttempts hStock _ _⟩
      · intro tr₁ w₁ x hEnds
        rcases ends_restoreAttempts (by rw [hMisses])
            (by decide) hEnds with
          ⟨_, _, _, hTrue, hMisses'⟩
        cases hTrue
        exact ih hMisses'
    · exact ih hMisses

--------
-- Handlers
--------

variable {tr : Trace} {w : Store}

variable {β : Type}

/- A check of the event, and the handler after it. -/
theorem atomic_lift
    {α : Type}
    {check : Except Error α}
    {f : α → Handler β}
    (hNext : ∀ x, check = .ok x →
      Atomic exec DeliveryStep NoFault tr w (f x)) :
    Atomic exec DeliveryStep NoFault tr w
      (andThen (lift check) f) := by
  cases hCheck : check with
  | error e => exact Atomic.fail e
  | ok x => exact hNext x hCheck

/- The order is found, and the handler goes on. -/
theorem atomic_withOrder
    {orderId : String}
    {f : Order → Handler β}
    (hNext : ∀ tr' order,
      Atomic exec DeliveryStep NoFault tr' w (f order)) :
    Atomic exec DeliveryStep NoFault tr w
      (andThen (findOrderByMetadataId orderId) f) := by
  rw [andThen_eq_bind]
  apply Atomic.bind
  · intro tr' w' r hEnds
    rcases atomic_findOrder orderId tr' w' r hEnds with
      ⟨rfl, ⟨e, rfl⟩ | ⟨order, rfl, hFree⟩⟩
    · exact Or.inl ⟨e, rfl, rfl⟩
    · exact Or.inr ⟨order, rfl, hFree⟩
  · intro tr' w' order hEnds
    exact Or.inr
      ⟨(atomic_findOrder orderId tr' w' _ hEnds).1,
        hNext tr' order⟩

/- The status is updated, and the rest is sure. -/
theorem atomic_afterStatus
    {id expected new : String}
    {f : Bool → Handler β}
    (hNext : ∀ tr' w' updated, misses tr' = 0 →
      Sure exec DeliveryStep NoFault tr' w' (f updated)) :
    Atomic exec DeliveryStep NoFault tr w
      (andThen (Db.setOrderStatus id expected new) f) := by
  rw [andThen_eq_bind]
  apply Atomic.bind (atomic_setOrderStatus id expected new)
  intro tr' w' updated hEnds
  left
  apply hNext
  rcases Prog.Ends.call_iff.mp hEnds with ⟨a, _, hRest⟩
  rcases Prog.Ends.ret_iff.mp hRest with ⟨rfl, _, _⟩
  rfl

theorem atomic_confirmOrder
    {orderId : String}
    {order : Order}
    {next : Handler Unit}
    (hNext : ∀ tr' w',
      Sure exec DeliveryStep NoFault tr' w' next) :
    Atomic exec DeliveryStep NoFault tr w
      (confirmOrder orderId order next) := by
  unfold confirmOrder
  split_ifs
  · exact (Sure.ret ()).atomic
  · apply atomic_afterStatus
    intro tr' w' updated _
    cases updated with
    | false => exact Sure.ret ()
    | true => exact hNext tr' w'

theorem atomic_paymentIntentSucceeded
    (upper : String → String)
    (object : Option EventObject) :
    Atomic exec DeliveryStep NoFault tr w
      (handlePaymentIntentSucceeded upper object) := by
  apply atomic_lift
  intro e _
  apply atomic_withOrder
  intro tr' order
  apply atomic_confirmOrder
  -- The columns are never written.
  intro tr₁ w₁ tr₂ w₂ r hEnds
  rcases Prog.Ends.call_iff.mp hEnds with ⟨a, hCond, _⟩
  simp [DeliveryStep, deliveryStep] at hCond

theorem atomic_checkoutSessionCompleted
    (upper : String → String)
    (object : Option EventObject) :
    Atomic exec DeliveryStep NoFault tr w
      (handleCheckoutSessionCompleted upper object) := by
  apply atomic_lift
  intro e _
  apply atomic_withOrder
  intro tr' order
  apply atomic_confirmOrder
  intro tr₁ w₁
  rw [andThen_eq_bind]
  apply Sure.bind (sure_setCheckoutSession _ _ _)
  intro tr₂ w₂ _ _
  rw [andThen_eq_bind]
  apply Sure.bind (sure_markCouponRedeemed _ _ _)
  intro tr₃ w₃ _ _
  exact sure_afterPayment _ _

theorem atomic_giveUpOrder
    (newStatus : OrderStatus)
    (orderId : String) :
    Atomic exec DeliveryStep NoFault tr w
      (giveUpOrder newStatus orderId) := by
  apply atomic_withOrder
  intro tr' order
  rw [andThen_eq_bind]
  apply Atomic.bind
  · unfold giveUp
    split_ifs
    · apply atomic_afterStatus
      intro tr'' w' _ hMisses
      exact sure_restoreStock order.items hMisses
    · exact (Sure.ret ()).atomic
  · intro tr'' w' _ _
    exact Or.inl (sure_releaseCoupon orderId)

theorem atomic_failPayment (orderId : String) :
    Atomic exec DeliveryStep NoFault tr w
      (failPayment orderId) := by
  apply atomic_withOrder
  intro tr' order
  rw [andThen_eq_bind]
  apply Atomic.bind
  · unfold markFailed
    split_ifs
    · apply atomic_afterStatus
      intro tr'' w' _ _
      exact Sure.ret ()
    · exact (Sure.ret ()).atomic
  · intro tr'' w' _ _
    exact Or.inl (sure_releaseCoupon orderId)

/- Every handler does all it has to do, or nothing. -/
theorem atomic_routeEvent
    (upper : String → String)
    (event : StripeWebhookEvent) :
    Atomic exec DeliveryStep NoFault tr w
      (routeEvent upper event) := by
  unfold routeEvent
  cases event.type with
  | paymentIntentSucceeded =>
    exact atomic_paymentIntentSucceeded upper event.object
  | paymentIntentFailed =>
    apply atomic_lift
    intro e _
    exact atomic_giveUpOrder .cancelled e.orderId
  | paymentIntentCanceled =>
    apply atomic_lift
    intro e _
    exact atomic_giveUpOrder .cancelled e.orderId
  | checkoutSessionCompleted =>
    exact atomic_checkoutSessionCompleted upper event.object
  | checkoutSessionExpired =>
    apply atomic_lift
    intro e _
    exact atomic_giveUpOrder .expired e.orderId
  | asyncPaymentSucceeded =>
    exact atomic_checkoutSessionCompleted upper event.object
  | asyncPaymentFailed =>
    apply atomic_lift
    intro e _
    exact atomic_failPayment e.orderId
  | unhandled => exact (Sure.ret ()).atomic

--------
-- Deliveries
--------

variable {tr : Trace} {w : Store}

/- The event has been taken in. -/
def Store.recordEvent (w : Store) (id : String) : Store :=
  { w with webhookEvents := w.webhookEvents ++ [id] }

variable {a : Answer}

theorem exec_createWebhookEvent
    {id : String}
    (hAns : a.fault = false)
    (hNew : id ∉ w.webhookEvents) :
    exec (.createWebhookEvent id) a w =
      (.ok true, w.recordEvent id) := by
  simp only [exec, Answer.guard, hAns, Bool.false_eq_true,
    if_false, List.contains_eq_mem, hNew, decide_false]
  rfl

/- Taking the event back leaves the store as it was. -/
theorem exec_deleteWebhookEvent
    {id : String}
    (hPlain : docId "webhook_events" id = id)
    (hAns : a.fault = false)
    (hNew : id ∉ w.webhookEvents) :
    (exec (.deleteWebhookEvent id) a (w.recordEvent id)).2 =
      w := by
  have hKept :
      (w.webhookEvents ++ [id]).filter (· ≠ id) =
        w.webhookEvents := by
    rw [List.filter_append, List.filter_eq_self.mpr]
    · simp
    · intro other hMem
      exact decide_eq_true
        (fun hSame => hNew (hSame ▸ hMem))
  have hThere : id ∈ w.webhookEvents ++ [id] := by simp
  simp only [exec, Answer.guard, hAns, Bool.false_eq_true,
    if_false, hPlain, Store.recordEvent,
    List.contains_eq_mem, hThere, decide_true, if_true]
  rw [hKept]

/- Operations that leave the recorded events alone. -/
def Op.sparesEvents : Op → Prop
  | .createWebhookEvent _ | .deleteWebhookEvent _ => False
  | _ => True

theorem webhookEvents_exec
    {o : Op}
    (hSpares : o.sparesEvents)
    (a : Answer)
    (w : Store) :
    (exec o a w).2.webhookEvents = w.webhookEvents := by
  cases o with
  | createWebhookEvent id => exact hSpares.elim
  | deleteWebhookEvent id => exact hSpares.elim
  | _ =>
    simp only [exec, Answer.guard] <;>
      split_ifs <;>
      first
      | rfl
      | (split <;> rfl)

/- The statements on an order that is given up. -/
def Op.givesUp : Op → Prop
  | .findOrder _ | .setOrderStatus .. | .getProduct _
  | .casProduct .. | .releaseCoupon _ => True
  | _ => False

theorem Op.sparesEvents_of_givesUp
    (o : Op)
    (hGives : o.givesUp) :
    o.sparesEvents := by
  cases o with
  | createWebhookEvent id => exact hGives
  | deleteWebhookEvent id => exact hGives
  | _ => trivial

theorem uses_restoreAttempts
    (productId : String)
    (quantity : Int)
    (attempts : Nat) :
    (restoreAttempts productId quantity attempts).Uses
      Op.givesUp := by
  induction attempts with
  | zero => trivial
  | succ attempts ih =>
    refine ⟨trivial, ?_⟩
    intro r
    refine uses_andThen ⟨trivial, fun _ => trivial⟩ ?_
    intro restored
    cases restored with
    | true => trivial
    | false => exact ih

theorem uses_restoreStockForOrder (items : List Item) :
    (restoreStockForOrder items).Uses Op.givesUp := by
  induction items with
  | nil => trivial
  | cons item rest ih =>
    unfold restoreStockForOrder
    split_ifs
    · refine uses_andThen (uses_restoreAttempts ..) ?_
      intro restored
      cases restored with
      | true => exact ih
      | false => trivial
    · exact ih

theorem uses_findOrder (orderId : String) :
    (findOrderByMetadataId orderId).Uses Op.givesUp := by
  refine uses_andThen ⟨trivial, fun _ => trivial⟩ ?_
  intro row
  cases row <;> trivial

theorem uses_giveUpOrder
    (newStatus : OrderStatus)
    (orderId : String) :
    (giveUpOrder newStatus orderId).Uses Op.givesUp := by
  refine uses_andThen (uses_findOrder orderId) ?_
  intro order
  apply uses_andThen
  · unfold giveUp
    split_ifs
    · refine uses_andThen ⟨trivial, fun _ => trivial⟩ ?_
      intro _
      exact uses_restoreStockForOrder order.items
    · trivial
  · intro _
    exact ⟨trivial, fun _ => trivial⟩

theorem uses_failPayment (orderId : String) :
    (failPayment orderId).Uses Op.givesUp := by
  refine uses_andThen (uses_findOrder orderId) ?_
  intro order
  apply uses_andThen
  · unfold markFailed
    split_ifs
    · exact uses_andThen ⟨trivial, fun _ => trivial⟩
        (fun _ => trivial)
    · trivial
  · intro _
    exact ⟨trivial, fun _ => trivial⟩

theorem uses_markCouponRedeemed
    (upper : String → String)
    (orderId couponCode : String) :
    (markCouponRedeemed upper orderId couponCode).Uses
      Op.sparesEvents := by
  unfold markCouponRedeemed
  split_ifs
  · trivial
  · exact ⟨trivial, fun _ => ⟨trivial, fun _ => trivial⟩⟩

theorem uses_confirmOrder
    {orderId : String}
    {order : Order}
    {next : Handler Unit}
    (hNext : next.Uses Op.sparesEvents) :
    (confirmOrder orderId order next).Uses
      Op.sparesEvents := by
  unfold confirmOrder
  split_ifs
  · trivial
  · refine uses_andThen ⟨trivial, fun _ => trivial⟩ ?_
    intro updated
    cases updated with
    | false => trivial
    | true => exact hNext

theorem uses_paymentIntentSucceeded
    (upper : String → String)
    (object : Option EventObject) :
    (handlePaymentIntentSucceeded upper object).Uses
      Op.sparesEvents := by
  refine uses_andThen trivial ?_
  intro e
  refine uses_andThen ((uses_findOrder e.orderId).mono
      Op.sparesEvents_of_givesUp) ?_
  intro order
  apply uses_confirmOrder
  refine uses_andThen ⟨trivial, fun _ => trivial⟩ ?_
  intro _
  refine uses_andThen (uses_markCouponRedeemed ..) ?_
  intro _
  exact ⟨trivial, fun _ => trivial⟩

theorem uses_checkoutSessionCompleted
    (upper : String → String)
    (object : Option EventObject) :
    (handleCheckoutSessionCompleted upper object).Uses
      Op.sparesEvents := by
  refine uses_andThen trivial ?_
  intro e
  refine uses_andThen ((uses_findOrder e.orderId).mono
      Op.sparesEvents_of_givesUp) ?_
  intro order
  apply uses_confirmOrder
  refine uses_andThen ⟨trivial, fun _ => trivial⟩ ?_
  intro _
  refine uses_andThen (uses_markCouponRedeemed ..) ?_
  intro _
  apply Prog.Uses.bind
  · split_ifs
    · exact ⟨trivial, fun _ => trivial⟩
    · trivial
  · intro _
    exact ⟨trivial, fun _ => trivial⟩

/- No handler touches the recorded events. -/
theorem uses_routeEvent
    (upper : String → String)
    (event : StripeWebhookEvent) :
    (routeEvent upper event).Uses Op.sparesEvents := by
  unfold routeEvent
  cases event.type with
  | paymentIntentSucceeded =>
    exact uses_paymentIntentSucceeded upper event.object
  | checkoutSessionCompleted =>
    exact uses_checkoutSessionCompleted upper event.object
  | asyncPaymentSucceeded =>
    exact uses_checkoutSessionCompleted upper event.object
  | asyncPaymentFailed =>
    refine uses_andThen trivial ?_
    intro e
    exact (uses_failPayment e.orderId).mono
      Op.sparesEvents_of_givesUp
  | unhandled => trivial
  | _ =>
    refine uses_andThen trivial ?_
    intro e
    exact (uses_giveUpOrder ..).mono
      Op.sparesEvents_of_givesUp

/- What the first delivery of an event can come to. -/
theorem ends_handleStripeWebhook
    {upper : String → String}
    {event : StripeWebhookEvent}
    {w' : Store}
    {tr' : Trace}
    {r : Except Error WebhookReply}
    (hPlain : docId "webhook_events" event.id = event.id)
    (hNew : event.id ∉ w.webhookEvents)
    (hEnds :
      Prog.Ends exec DeliveryStep tr w
        (handleStripeWebhook upper event) tr' w' r) :
    (∃ e, r = .error e ∧ w' = w) ∨
      r = .ok .ok ∧ event.id ∈ w'.webhookEvents ∧
        Free exec NoFault w (handleStripeWebhook upper event)
          w' WebhookReply.ok := by
  unfold handleStripeWebhook tryStoreWebhookEventAtomic
    require at hEnds ⊢
  split_ifs at hEnds ⊢ with hId
  · rcases Prog.Ends.call_iff.mp hEnds with ⟨a, _, hEnds⟩
    cases hAns : a.fault with
    | true =>
      simp only [exec, Answer.guard, hAns, if_true] at hEnds
      rcases Prog.Ends.ret_iff.mp hEnds with ⟨_, rfl, rfl⟩
      exact Or.inl ⟨_, rfl, rfl⟩
    | false =>
      rw [exec_createWebhookEvent hAns hNew] at hEnds
      have hRun :
          Prog.Ends exec DeliveryStep
            (⟨.createWebhookEvent event.id, a,
              .ok true⟩ :: tr)
            (w.recordEvent event.id)
            ((routeEvent upper event).bind
              (finishDelivery event)) tr' w' r := hEnds
      rcases Prog.Ends.bind_iff.mp hRun with
        ⟨tr₁, w₁, s, hRoute, hRest⟩
      rcases atomic_routeEvent upper event tr₁ w₁ s hRoute
        with ⟨e, rfl, rfl⟩ | ⟨x, rfl, hFree⟩
      · rcases Prog.Ends.call_iff.mp hRest with
          ⟨a', hCond, hRest⟩
        rcases Prog.Ends.ret_iff.mp hRest with ⟨_, rfl, rfl⟩
        have hAns' : a'.fault = false := by
          simpa [DeliveryStep, deliveryStep] using hCond
        exact Or.inl ⟨e, rfl,
          exec_deleteWebhookEvent hPlain hAns' hNew⟩
      · rcases Prog.Ends.ret_iff.mp hRest with
          ⟨_, rfl, rfl⟩
        refine Or.inr ⟨rfl, ?_, ?_⟩
        · apply Prog.Ends.preserves (I := fun w : Store =>
              event.id ∈ w.webhookEvents)
            (uses_routeEvent upper event) ?_ hRoute
          · simp [Store.recordEvent]
          · intro o b v hSpares hMem
            rw [webhookEvents_exec hSpares]
            exact hMem
        · apply free_perform a hAns
          rw [exec_createWebhookEvent hAns hNew]
          intro tr₀
          rcases hFree tr₀ with ⟨tr₂, hFree⟩
          exact ⟨tr₂, hFree.bind (Prog.Ends.ret ..)⟩
  · rcases Prog.Ends.ret_iff.mp hEnds with ⟨_, rfl, rfl⟩
    exact Or.inl ⟨_, rfl, rfl⟩

/- An event that was taken in changes nothing again. -/
theorem eq_of_recorded
    {upper : String → String}
    {event : StripeWebhookEvent}
    {w' : Store}
    {tr' : Trace}
    {r : Except Error WebhookReply}
    (hOld : event.id ∈ w.webhookEvents)
    (hEnds :
      Prog.Ends exec DeliveryStep tr w
        (handleStripeWebhook upper event) tr' w' r) :
    w' = w := by
  unfold handleStripeWebhook tryStoreWebhookEventAtomic
    require at hEnds
  split_ifs at hEnds with hId
  · rcases Prog.Ends.call_iff.mp hEnds with ⟨a, _, hEnds⟩
    cases hAns : a.fault with
    | true =>
      simp only [exec, Answer.guard, hAns, if_true] at hEnds
      exact (Prog.Ends.ret_iff.mp hEnds).2.1
    | false =>
      simp only [exec, Answer.guard, hAns,
        Bool.false_eq_true, if_false, List.contains_eq_mem,
        hOld, decide_true, if_true] at hEnds
      exact (Prog.Ends.ret_iff.mp hEnds).2.1
  · exact (Prog.Ends.ret_iff.mp hEnds).2.1

/-
  An event is delivered any number of times, by steps that
  meet `DeliveryStep`.  If the last delivery is answered, the
  store is that of one delivery without any failure.
-/
theorem webhook_exactly_once
    {upper : String → String}
    {event : StripeWebhookEvent}
    {w₀ w : Store}
    {replies : List (Except Error WebhookReply)}
    {reply : WebhookReply}
    (hPlain : docId "webhook_events" event.id = event.id)
    (hNew : event.id ∉ w₀.webhookEvents)
    (hRuns :
      Repeats exec DeliveryStep
        (handleStripeWebhook upper event) w₀ replies w)
    (hLast : replies.getLast? = some (.ok reply)) :
    ∃ tr once, Prog.Ends exec NoFault [] w₀
        (handleStripeWebhook upper event) tr w
        (.ok once) := by
  have hFree :
      ∃ once, Free exec NoFault w₀
          (handleStripeWebhook upper event) w once := by
    apply Repeats.once
      (fun v => event.id ∉ v.webhookEvents) ?_ ?_ ?_ hRuns
      hNew hLast
    · intro v hFresh tr' v' r hEnds
      rcases ends_handleStripeWebhook hPlain hFresh hEnds with
        hError | ⟨rfl, _, hFree⟩
      · exact Or.inl hError
      · exact Or.inr ⟨_, rfl, hFree⟩
    · intro v tr' v' x hFresh hEnds hStill
      rcases ends_handleStripeWebhook hPlain hFresh hEnds with
        ⟨e, hError, _⟩ | ⟨_, hRecorded, _⟩
      · cases hError
      · exact hStill hRecorded
    · intro v tr' v' r hOld hEnds
      exact eq_of_recorded (not_not.mp hOld) hEnds
  rcases hFree with ⟨once, hFree⟩
  rcases hFree [] with ⟨tr, hEnds⟩
  exact ⟨tr, once, hEnds⟩

def stockOfProduct (w : Store) (id : String) : Option Int :=
  (w.product? id).bind Product.stockQuantity

/- An unpaid order of two units of one product. -/
def unpaidOrder : Order where
  orderId := "o1"
  items :=
    [{ productId := "p1", sellerId := some "s1",
       priceCents := 1000, quantity := some 2 }]
  orderStatus := some "pending"
  paymentStatus := "pending"
  buyerId := "b1"

def unpaidStore : Store where
  orders := ⟨[("o1", unpaidOrder)]⟩
  products := ⟨[("p1", { stockQuantity := some 7 })]⟩
  couponUses := [⟨"SAVE10", "b1", "o1", none⟩]

/- An event of the given type for the order. -/
def orderEvent (type : EventType) (id : String) :
    StripeWebhookEvent where
  id
  type
  object := some
    { id := some "pi_1"
      metadata := some
        { orderId := some "o1"
          couponCode := some "save10" } }

def failedEvent : StripeWebhookEvent :=
  orderEvent .paymentIntentFailed "evt_1"

/- The first delivery cannot read the order. -/
theorem webhook_exactly_once_read_failed :
    ∃ w tr once, Repeats exec DeliveryStep
          (handleStripeWebhook String.toUpper failedEvent)
          unpaidStore [.error .fault, .ok .ok] w ∧
        stockOfProduct w "p1" = some 9 ∧
        w.couponUses = [] ∧
        Prog.Ends exec NoFault [] unpaidStore
          (handleStripeWebhook String.toUpper failedEvent) tr
          w (.ok once) := by
  have hSecond :
      (Prog.play exec DeliveryStep (List.replicate 6 {}) []
        unpaidStore
        (handleStripeWebhook String.toUpper failedEvent)).any
          (fun out =>
            decide (stockOfProduct out.1 "p1" = some 9 ∧
                out.1.couponUses = [] ∧ out.2 = .ok .ok)) =
        true := by decide
  rcases (Option.any_eq_true _ _).mp hSecond with
    ⟨⟨w, r⟩, hPlay, hEnd⟩
  rcases of_decide_eq_true hEnd with ⟨hStock, hUses, hReply⟩
  dsimp only at hReply
  subst hReply
  have hFirst :
      Prog.play exec DeliveryStep
          [{}, { fault := true }, {}] [] unpaidStore
          (handleStripeWebhook String.toUpper failedEvent) =
        some (unpaidStore, .error .fault) := by
    decide
  have hRuns := Repeats.of_play hFirst
      (Repeats.of_play hPlay (Repeats.nil w))
  rcases webhook_exactly_once (by decide) (by decide) hRuns
      rfl with
    ⟨tr, once, hEnds⟩
  exact ⟨w, tr, once, hRuns, hStock, hUses, hEnds⟩

/- Statements of which only the failure is left open. -/
def Op.isSteady : Op → Prop
  | .createWebhookEvent _ | .deleteWebhookEvent _ => True
  | o => o.givesUp

theorem exec_of_isSteady
    {o : Op}
    {a' : Answer}
    (hSteady : o.isSteady)
    (hAns : a.fault = false)
    (hAns' : a'.fault = false)
    (w : Store) :
    exec o a w = exec o a' w := by
  cases o <;>
    first
    | exact hSteady.elim
    | (simp only [exec, Answer.guard, hAns, hAns']
       rfl)

theorem uses_failedEvent (upper : String → String) :
    (handleStripeWebhook upper failedEvent).Uses
      Op.isSteady := by
  have hSteady : ∀ o : Op, o.givesUp → o.isSteady := by
    intro o hGives
    cases o <;> first | exact hGives | trivial
  refine uses_andThen ⟨trivial, fun _ => trivial⟩ ?_
  intro isNew
  cases isNew with
  | false => trivial
  | true =>
    apply Prog.Uses.bind
    · exact (uses_giveUpOrder .cancelled "o1").mono hSteady
    · intro r
      cases r with
      | ok _ => trivial
      | error e => exact ⟨trivial, fun _ => trivial⟩

/-
  The stock of the cancelled order cannot be restored at the
  first delivery.  The second finds the order cancelled and
  is answered: the two units never come back, as they do
  without the failure.
-/
theorem webhook_loses_restore :
    ∃ w, Repeats exec AnyStep
          (handleStripeWebhook String.toUpper failedEvent)
          unpaidStore [.error .fault, .ok .ok] w ∧
        stockOfProduct w "p1" = some 7 ∧
        ∀ tr w' r, Prog.Ends exec NoFault [] unpaidStore
              (handleStripeWebhook String.toUpper failedEvent)
              tr w' r →
            stockOfProduct w' "p1" = some 9 := by
  have hRuns :
      ((Prog.play exec AnyStep
        [{}, {}, {}, {}, { fault := true }, {}] []
        unpaidStore
        (handleStripeWebhook String.toUpper
          failedEvent)).any (fun first =>
            first.2 = .error .fault &&
              (Prog.play exec AnyStep [{}, {}, {}] []
                first.1
                (handleStripeWebhook String.toUpper
                  failedEvent)).any (fun second =>
                    second.2 = .ok .ok &&
                      stockOfProduct second.1 "p1" =
                        some 7))) = true := by decide
  have hFree :
      (Prog.play exec NoFault (List.replicate 6 {}) []
        unpaidStore
        (handleStripeWebhook String.toUpper failedEvent)).any
          (fun out => stockOfProduct out.1 "p1" = some 9) =
        true := by decide
  rcases (Option.any_eq_true _ _).mp hRuns with
    ⟨⟨w₁, r₁⟩, hFirst, h⟩
  rw [Bool.and_eq_true, decide_eq_true_eq] at h
  rcases (Option.any_eq_true _ _).mp h.2 with
    ⟨⟨w, r₂⟩, hSecond, hEnd⟩
  rw [Bool.and_eq_true, decide_eq_true_eq,
    decide_eq_true_eq] at hEnd
  rcases (Option.any_eq_true _ _).mp hFree with
    ⟨⟨w₉, r₉⟩, hPlay, hNine⟩
  rcases Prog.Ends.of_play hPlay with ⟨tr₉, hEnds₉⟩
  obtain rfl : r₁ = .error .fault := h.1
  obtain rfl : r₂ = .ok .ok := hEnd.1
  refine ⟨w, Repeats.of_play hFirst
      (Repeats.of_play hSecond (Repeats.nil w)),
    hEnd.2, ?_⟩
  intro tr w' r hEnds
  have hSame : w' = w₉ ∧ r = r₉ := by
    apply Prog.Ends.unique (uses_failedEvent String.toUpper)
      ?_ hEnds hEnds₉
    intro o _ _ a a' v hSteady hAns hAns'
    exact exec_of_isSteady hSteady hAns hAns' v
  rw [hSame.1]
  exact of_decide_eq_true hNine

end Orignabase
