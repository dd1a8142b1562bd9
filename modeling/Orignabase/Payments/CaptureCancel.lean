import Orignabase.Orders.Refunds
import Orignabase.Payments.Capture
import Orignabase.Store.Rules
import Mathlib.Algebra.Order.Group.Multiset

/-
  Captures and cancellations of one order at once.

  Both handlers decide on a snapshot, call Stripe and write
  later.  A request that has called Stripe and has not yet
  written owes the write; the stored order agrees with Stripe
  up to what is owed.

  Key definitions include:
    * `Duty`
    * `Agreement`
    * `PaymentStep`
    * `CaptureAgrees`

  Main results:
    * `keeps_capturePayment`
    * `keeps_cancelOrder`
    * `capture_cancel_agree`
-/

--------
-- What Stripe Did
--------

namespace Orignabase

namespace Store

def captured (w : Store) (pi : String) : Bool :=
  w.captures.any (fun c => c.paymentIntentId = pi)

def refunded (w : Store) (pi : String) : Bool :=
  w.refunds.any (fun r => r.paymentIntentId = pi)

def released (w : Store) (pi : String) : Bool :=
  w.cancelledIntents.contains pi

end Store

/- What a request still has to write, or knows. -/
inductive Duty
  | capture
  | refund
  | release
  | seen
  deriving DecidableEq, Repr

/-
  How the stored statuses of an order stand to what Stripe did
  with its payment, given what the requests owe.
-/
structure Agreement
    (captured refunded released : Bool)
    (owed : Multiset Duty)
    (status payment : String) : Prop where
  exclusive : captured = true → released = false
  refund_captured : refunded = true → captured = true
  owes_capture : Duty.capture ∈ owed → captured = true
  owes_refund : Duty.refund ∈ owed → refunded = true
  owes_release : Duty.release ∈ owed → released = true
  has_seen :
    Duty.seen ∈ owed →
      status = OrderStatus.processing.asStr ∨
        status = OrderStatus.cancelled.asStr
  stores_capture :
    captured = true → refunded = false →
      payment = "captured" ∨ Duty.capture ∈ owed
  captured_of_stored :
    payment = "captured" →
      captured = true ∧
        status = OrderStatus.processing.asStr ∧
        (refunded = true → Duty.refund ∈ owed)
  stores_refund :
    refunded = true →
      status = OrderStatus.cancelled.asStr ∨
        Duty.refund ∈ owed
  cancelled :
    status = OrderStatus.cancelled.asStr →
      released = true ∨ refunded = true
  payments :
    status = OrderStatus.cancelled.asStr ∨
      payment = "authorized" ∨ payment = "captured" ∨
        payment = "CANCEL_FAILED"

variable {owed : Multiset Duty} {pi : String} {o : Op}
variable {w : Store}

theorem mem_owed
    {duty own : Duty} :
    duty ∈ {own} + owed ↔ duty = own ∨ duty ∈ owed := by
  simp

theorem mem_owed_both
    {duty first second : Duty} :
    duty ∈ {first, second} + owed ↔
      duty = first ∨ duty = second ∨ duty ∈ owed := by
  simp

namespace Agreement

variable {captured refunded released : Bool}
variable {owed : Multiset Duty} {status payment : String}

/- The first capture succeeds. -/
theorem captures
    (h : Agreement false refunded released owed status
      payment)
    (hFree : released = false) :
    Agreement true refunded released
      ({Duty.capture} + owed) status payment := by
  constructor <;> grind -ring -linarith -lia
    [Agreement, mem_owed, mem_owed_both]

/- A capture with a key that succeeded before. -/
theorem repeats
    (h : Agreement true refunded released owed status
      payment) :
    Agreement true refunded released
      ({Duty.capture} + owed) status payment := by
  constructor <;> grind -ring -linarith -lia
    [Agreement, mem_owed, mem_owed_both]

/- The captured payment is written. -/
theorem writesCapture
    (h : Agreement captured refunded released
      ({Duty.capture} + owed) status payment)
    (hOpen : status ≠ OrderStatus.cancelled.asStr) :
    Agreement captured refunded released owed
      OrderStatus.processing.asStr "captured" := by
  constructor <;> grind -ring -linarith -lia
    [Agreement, mem_owed, mem_owed_both, OrderStatus.asStr]

/- A captured payment was read. -/
theorem sees
    (h : Agreement captured refunded released owed status
      payment)
    (hPayment : payment = "captured") :
    Agreement captured refunded released
      ({Duty.seen} + owed) status payment := by
  constructor <;> grind -ring -linarith -lia
    [Agreement, mem_owed, mem_owed_both]

/- The refund of a captured payment succeeds. -/
theorem refunds
    (h : Agreement true refunded released
      ({Duty.seen} + owed) status payment) :
    Agreement true true released
      ({Duty.refund, Duty.seen} + owed) status payment := by
  constructor <;> grind -ring -linarith -lia
    [Agreement, mem_owed, mem_owed_both]

/- The payment intent is cancelled. -/
theorem releases
    (h : Agreement false refunded released owed status
      payment) :
    Agreement false refunded true ({Duty.release} + owed)
      status payment := by
  constructor <;> grind -ring -linarith -lia
    [Agreement, mem_owed, mem_owed_both]

/- A payment that is not captured is put in quarantine. -/
theorem quarantines
    (h : Agreement captured refunded released owed status
      payment)
    (hPayment : payment ≠ "captured") :
    Agreement captured refunded released owed status
      "CANCEL_FAILED" := by
  constructor <;> grind -ring -linarith -lia
    [Agreement, mem_owed, mem_owed_both]

/- The order of a refunded payment is cancelled. -/
theorem cancelsRefunded
    (h : Agreement captured refunded released
      ({Duty.refund, Duty.seen} + owed) status payment) :
    Agreement captured refunded released owed
      OrderStatus.cancelled.asStr "refunded" := by
  constructor <;> grind -ring -linarith -lia
    [Agreement, mem_owed, mem_owed_both]

/- The order of a cancelled payment is cancelled. -/
theorem cancelsReleased
    (h : Agreement captured refunded released
      ({Duty.release} + owed) status payment) :
    Agreement captured refunded released owed
      OrderStatus.cancelled.asStr "cancelled" := by
  constructor <;> grind -ring -linarith -lia
    [Agreement, mem_owed, mem_owed_both]

theorem missesReleased
    (h : Agreement captured refunded released
      ({Duty.release} + owed) status payment) :
    Agreement captured refunded released owed status
      payment := by
  constructor <;> grind -ring -linarith -lia
    [Agreement, mem_owed, mem_owed_both]

/- Another request cancelled the order first. -/
theorem missesRefunded
    (h : Agreement captured refunded released
      ({Duty.refund, Duty.seen} + owed) status payment)
    (hMissed : status ≠ OrderStatus.processing.asStr) :
    Agreement captured refunded released owed status
      payment := by
  constructor <;> grind -ring -linarith -lia
    [Agreement, mem_owed, mem_owed_both, OrderStatus.asStr]

end Agreement

/- The agreement of a stored order with its payment. -/
def Settlement
    (id pi : String)
    (w : Store)
    (owed : Multiset Duty) : Prop :=
  ∃ order, w.orders.get id = some order ∧
      order.paymentIntentId = pi ∧
      Agreement (w.captured pi) (w.refunded pi)
        (w.released pi) owed order.status
        order.paymentStatus

--------
-- Steps
--------

open Conc

/-
  A payment intent is captured or cancelled once, by the call
  that comes first; only a captured one is refunded, and a key
  stands for one payment intent.
-/
def stripeOnce (o : Op) (a : Answer) (w : Store) : Bool :=
  match o with
  | .stripeCapture pi key =>
    w.captures.contains ⟨key, pi⟩ ||
      !(w.captured pi || w.released pi) || a.fault
  | .stripeCancelPi pi =>
    !(w.captured pi || w.released pi) || a.fault
  | .stripeRefund pi _ key =>
    (w.captured pi && w.refunds.all (fun r =>
        r.key ≠ key || r.paymentIntentId = pi)) || a.fault
  | _ => true

def StripeOnce : StepCond Op.Res Answer Store :=
  fun _ o a w => stripeOnce o a w = true

instance (tr : Trace) (o : Op) (a : Answer) (w : Store) :
    Decidable (StripeOnce tr o a w) :=
  inferInstanceAs (Decidable (_ = true))

/-
  The write of a capture takes effect and finds the order not
  cancelled; the quarantine finds no captured payment; the
  cancellation takes effect and was not decided on a payment
  in quarantine.
-/
def writesInTime
    (tr : Trace)
    (o : Op)
    (a : Answer)
    (w : Store) : Bool :=
  match o with
  | .updateOrder id patch =>
    if patch.paymentStatus = some "captured" then
      !a.fault && (w.order? id).all (fun order =>
          order.status ≠ OrderStatus.cancelled.asStr)
    else
      a.fault || (w.order? id).all (fun order =>
          order.paymentStatus ≠ "captured")
  | .casOrder .. =>
    !a.fault && (firstOrder tr).all (fun order =>
        order.paymentStatus ≠ "CANCEL_FAILED")
  | _ => true

def PaymentStep : StepCond Op.Res Answer Store :=
  fun tr o a w =>
    (stripeOnce o a w && writesInTime tr o a w) = true

instance (tr : Trace) (o : Op) (a : Answer) (w : Store) :
    Decidable (PaymentStep tr o a w) :=
  inferInstanceAs (Decidable (_ = true))

/- Operations that touch neither orders nor payments. -/
def Op.Aside : Op → Prop
  | .casProduct .. => True
  | o => o.isRead = true

theorem settlement_aside
    {id : String}
    (hAside : o.Aside)
    (a : Answer)
    (hNow : Settlement id pi w owed) :
    Settlement id pi (exec o a w).2 owed := by
  cases o with
  | casProduct product stock expected =>
    simp only [exec, Answer.guard]
    split_ifs <;> exact hNow
  | _ =>
    rw [exec_read hAside]
    exact hNow

--------
-- Requests
--------

open Handler

/- Nothing that a request holds has to be written. -/
def Discharged (owed : Multiset Duty) : Prop :=
  Duty.capture ∉ owed ∧ Duty.refund ∉ owed

/- A request on the order keeps the agreement. -/
def KeepsSettlement
    {α : Type}
    (id pi : String)
    (tr : Trace)
    (g : Multiset Duty)
    (p : Prog Op.Res α) : Prop :=
  p.Keeps exec PaymentStep (Settlement id pi)
    (fun _ _ => True) (fun _ g _ => Discharged g) tr g

section

variable {α β : Type} {id pi : String} {tr : Trace}
variable {g : Multiset Duty}

theorem settles_bind
    {p : Prog Op.Res β}
    {f : β → Prog Op.Res α}
    (hUses : p.Uses Op.Aside)
    (hNext :
      ∀ tr' b, Prog.Extends Op.Aside tr tr' →
        KeepsSettlement id pi tr' g (f b)) :
    KeepsSettlement id pi tr g (p.bind f) := by
  refine Prog.Keeps.bind (hUses.keeps ?_ ?_ trivial) ?_
  · intro o a w m hAside hNow
    exact settlement_aside hAside a hNow
  · intro _ _ _ _
    trivial
  · rintro tr' _ b ⟨rfl, hExtends⟩ _
    exact hNext tr' b hExtends

theorem settles_andThen
    {p : Handler β}
    {f : β → Handler α}
    (hUses : p.Uses Op.Aside)
    (hDone : Discharged g)
    (hNext :
      ∀ tr' b, Prog.Extends Op.Aside tr tr' →
        KeepsSettlement id pi tr' g (f b)) :
    KeepsSettlement id pi tr g (andThen p f) := by
  apply settles_bind hUses
  intro tr' r hExtends
  cases r with
  | error e => exact ⟨trivial, hDone⟩
  | ok b => exact hNext tr' b hExtends

theorem settles_of_uses
    {p : Prog Op.Res α}
    (hUses : p.Uses Op.Aside)
    (hDone : Discharged g) :
    KeepsSettlement id pi tr g p := by
  refine (hUses.keeps ?_ ?_ trivial).mono ?_
  · intro o a w m hAside hNow
    exact settlement_aside hAside a hNow
  · intro _ _ _ _
    trivial
  · rintro tr' _ b ⟨rfl, _⟩
    exact hDone

theorem discharged_zero : Discharged 0 :=
  ⟨Multiset.notMem_zero _, Multiset.notMem_zero _⟩

theorem discharged_seen : Discharged {Duty.seen} := by
  simp [Discharged]

/- What a request holds once it has read the order. -/
def heldOf (order : Order) : Multiset Duty :=
  if order.paymentStatus = "captured" then {Duty.seen} else 0

theorem discharged_read (order : Order) :
    Discharged (heldOf order) := by
  unfold heldOf
  split_ifs
  · exact discharged_seen
  · exact discharged_zero

/- The order as it is read. -/
theorem settles_getOrder
    {orderId : String}
    {f : Order → Handler α}
    {e : Error}
    (hId : docId "orders" orderId = id)
    (hNext :
      ∀ a order, order.paymentIntentId = pi →
        (order.paymentStatus = "captured" →
          order.status = OrderStatus.processing.asStr) →
        (order.status = OrderStatus.cancelled.asStr ∨
          order.paymentStatus = "authorized" ∨
          order.paymentStatus = "captured" ∨
          order.paymentStatus = "CANCEL_FAILED") →
        KeepsSettlement id pi
          (⟨.getOrder orderId, a, .ok order⟩ :: tr)
          (heldOf order) (f order)) :
    KeepsSettlement id pi tr 0
      (andThen
        (mapErr (Db.getOrder orderId) (fun _ => e)) f) := by
  refine ⟨trivial, ?_⟩
  intro a w m hNow _
  rw [exec_read rfl]
  cases hRead : (exec (.getOrder orderId) a w).1 with
  | error e' => exact ⟨0, hNow, trivial, discharged_zero⟩
  | ok order =>
    rcases hNow with ⟨stored, hGet, hPi, hAgree⟩
    have hOrder := order?_of_getOrder hRead
    rw [Store.order?, hId, hGet] at hOrder
    cases hOrder
    refine ⟨_, ?_, hNext a order hPi ?_ hAgree.payments⟩
    · refine ⟨order, hGet, hPi, ?_⟩
      rw [zero_add] at hAgree
      unfold heldOf
      split_ifs with hCaptured
      · exact hAgree.sees hCaptured
      · rw [zero_add]
        exact hAgree
    · intro hCaptured
      exact (hAgree.captured_of_stored hCaptured).2.1

end

--------
-- Captures
--------

variable {patch : OrderPatch} {key : String}

section

variable {id pi : String} {tr : Trace}

variable {w : Store} {a : Answer}

/- The order row is written, the payment is left alone. -/
theorem Settlement.modify
    {owed : Multiset Duty}
    {orderId : String}
    {order : Order}
    (hId : docId "orders" orderId = id)
    (hGet : w.orders.get id = some order)
    (hPi : (patch.apply order).paymentIntentId = pi)
    (hAgree :
      Agreement (w.captured pi) (w.refunded pi)
        (w.released pi) owed (patch.apply order).status
        (patch.apply order).paymentStatus) :
    Settlement id pi (w.modifyOrder orderId patch.apply)
      owed := by
  refine ⟨patch.apply order, ?_, hPi, hAgree⟩
  simp only [Store.modifyOrder, hId]
  rw [Table.get_modify_self, hGet]
  rfl

theorem settlement_stripeCapture
    {m : Multiset Duty}
    (hNow : Settlement id pi w m)
    (hCond : PaymentStep tr (.stripeCapture pi key) a w)
    (hReply :
      (exec (.stripeCapture pi key) a w).1 =
        .ok "succeeded") :
    Settlement id pi (exec (.stripeCapture pi key) a w).2
      ({Duty.capture} + m) := by
  rcases hNow with ⟨order, hGet, hPi, hAgree⟩
  simp only [PaymentStep, stripeOnce, writesInTime,
    Bool.and_true, Bool.or_eq_true,
    Bool.not_eq_true', Bool.or_eq_false_iff] at hCond
  simp only [exec, Answer.guard] at hReply ⊢
  split_ifs at hReply ⊢ with hFault hUsed hSucceeded
  · -- The key was used before: the payment is captured.
    have hCaptured : w.captured pi = true :=
      List.any_eq_true.mpr
        ⟨⟨key, pi⟩, List.contains_iff_mem.mp hUsed, by simp⟩
    refine ⟨order, hGet, hPi, ?_⟩
    rw [hCaptured] at hAgree ⊢
    exact hAgree.repeats
  · rcases hCond with (hUsed' | ⟨hFirst, hFree⟩) | hFault'
    · exact absurd hUsed' hUsed
    · refine ⟨order, hGet, hPi, ?_⟩
      rw [hFirst] at hAgree
      have hNew :
          Store.captured
              { w with
                captures := w.captures ++ [⟨key, pi⟩] } pi =
            true := by
        simp [Store.captured]
      rw [hNew]
      exact hAgree.captures hFree
    · exact absurd hFault' hFault
  · exact absurd (Except.ok.inj hReply) hSucceeded

theorem stripeCapture_failed
    {pi : String}
    (hReply :
      (exec (.stripeCapture pi key) a w).1 ≠
        .ok "succeeded") :
    (exec (.stripeCapture pi key) a w).2 = w := by
  simp only [exec, Answer.guard] at hReply ⊢
  split_ifs at hReply ⊢ with hFault hUsed hSucceeded
  · rfl
  · rfl
  · exact absurd (congrArg Except.ok hSucceeded) hReply
  · rfl

/- The write after a capture. -/
theorem settlement_writeCapture
    {orderId : String}
    {m : Multiset Duty}
    (hPatch :
      patch =
        { orderStatus := some OrderStatus.processing.asStr
          paymentStatus := some "captured"
          paymentIntentId := some pi })
    (hId : docId "orders" orderId = id)
    (hNow : Settlement id pi w ({Duty.capture} + m))
    (hCond :
      PaymentStep tr (.updateOrder orderId patch) a w) :
    exec (.updateOrder orderId patch) a w =
        (.ok (), w.modifyOrder orderId patch.apply) ∧
      Settlement id pi (w.modifyOrder orderId patch.apply)
        m := by
  subst hPatch
  rcases hNow with ⟨order, hGet, hPi, hAgree⟩
  have hOrder : w.order? orderId = some order := by
    rw [Store.order?, hId, hGet]
  simp only [PaymentStep, stripeOnce, writesInTime, if_true,
    Bool.true_and, Bool.and_eq_true, Bool.not_eq_true',
    hOrder, Option.all_some, decide_eq_true_eq] at hCond
  refine ⟨exec_updateOrder hCond.1 hOrder _, ?_⟩
  exact Settlement.modify hId hGet rfl
    (hAgree.writesCapture hCond.2)

theorem settles_captureIntent
    {req : CapturePaymentRequest}
    (hId : docId "orders" req.orderId = id) :
    KeepsSettlement id pi tr 0 (captureIntent req pi) := by
  refine ⟨trivial, ?_⟩
  intro a w m hNow hCond
  rw [zero_add] at hNow
  by_cases hReply :
      (exec (.stripeCapture pi (req.orderId ++ "_capture")) a
        w).1 = .ok "succeeded"
  · refine ⟨{Duty.capture},
      settlement_stripeCapture hNow hCond hReply, ?_⟩
    rw [hReply]
    refine ⟨trivial, ?_⟩
    intro a' w' m' hNow' hCond'
    rcases settlement_writeCapture rfl hId hNow' hCond' with
      ⟨hExec, hDone⟩
    refine ⟨0, ?_, ?_⟩
    · rw [hExec, zero_add]
      exact hDone
    · rw [hExec]
      exact ⟨trivial, discharged_zero⟩
  · refine ⟨0, ?_, ?_⟩
    · rw [stripeCapture_failed hReply, zero_add]
      exact hNow
    · generalize (exec (.stripeCapture pi _) a w).1 = r
        at hReply
      cases r with
      | error e => exact ⟨trivial, discharged_zero⟩
      | ok status =>
        refine keeps_require trivial discharged_zero ?_
        intro hSucceeded
        exact absurd
          (congrArg Except.ok (of_decide_eq_true hSucceeded))
          hReply

theorem keeps_capturePayment
    {auth : AuthContext}
    {req : CapturePaymentRequest}
    (hPi : pi ≠ "")
    (hId : docId "orders" req.orderId = id) :
    KeepsSettlement id pi [] 0 (capturePayment auth req) := by
  apply keeps_lift trivial (fun _ _ => discharged_zero)
  intro _ _
  apply keeps_lift trivial (fun _ _ => discharged_zero)
  intro userId _
  apply keeps_lift trivial (fun _ _ => discharged_zero)
  intro _ _
  apply settles_andThen
  · exact uses_perform rfl
  · exact discharged_zero
  intro tr₁ _ _
  apply settles_getOrder hId
  intro a order hIntent _ _
  apply keeps_require trivial (discharged_read order)
  intro _
  apply keeps_require trivial (discharged_read order)
  intro _
  apply keeps_require trivial (discharged_read order)
  intro hAuthorized
  have hPayment : order.paymentStatus = "authorized" :=
    of_decide_eq_true hAuthorized
  have hResolve :
      resolvePaymentIntent order = ok pi := by
    simp [resolvePaymentIntent, hIntent, hPi]
  have hHeld : heldOf order = 0 := by
    simp [heldOf, hPayment]
  rw [hHeld, hResolve]
  exact settles_captureIntent hId

end

--------
-- Cancellations
--------

section

variable {id pi : String} {tr : Trace} {g : Multiset Duty}

variable {orderId : String} {a : Answer} {w : Store}
variable {m : Multiset Duty} {req : CancelOrderRequest}
variable {userId : String} {order : Order}

/- Stripe failed: the payment goes into quarantine. -/
theorem settles_quarantine
    {α : Type}
    {e : Error}
    (hId : docId "orders" orderId = id)
    (hDone : Discharged g) :
    KeepsSettlement id pi tr g
      (quarantine (α := α) orderId e) := by
  refine ⟨trivial, ?_⟩
  intro a w m hNow hCond
  refine ⟨g, ?_, trivial, hDone⟩
  by_cases hFault : a.fault = true
  · rw [exec_fault _ hFault]
    exact hNow
  · rcases hNow with ⟨order, hGet, hPi, hAgree⟩
    have hOrder : w.order? orderId = some order := by
      rw [Store.order?, hId, hGet]
    have hPayment : order.paymentStatus ≠ "captured" := by
      simpa [PaymentStep, stripeOnce, writesInTime, hFault,
        hOrder] using hCond
    rw [exec_updateOrder (by simpa using hFault) hOrder]
    exact Settlement.modify hId hGet hPi
      (hAgree.quarantines hPayment)

theorem settlement_stripeRefund
    (hFault : a.fault = false)
    (hNow : Settlement id pi w ({Duty.seen} + m))
    (hCond : PaymentStep tr (.stripeRefund pi none key) a w) :
    Settlement id pi
      (exec (.stripeRefund pi none key) a w).2
      ({Duty.refund, Duty.seen} + m) := by
  rcases hNow with ⟨order, hGet, hPi, hAgree⟩
  simp only [PaymentStep, stripeOnce, writesInTime, hFault,
    Bool.and_true, Bool.or_false, Bool.and_eq_true,
    List.all_eq_true, Bool.or_eq_true, decide_eq_true_eq]
    at hCond
  rcases hCond with ⟨hCaptured, hKeys⟩
  rw [hCaptured] at hAgree
  simp only [exec, Answer.guard, hFault, Bool.false_eq_true,
    if_false]
  split_ifs with hUsed
  · rcases List.any_eq_true.mp hUsed with ⟨r, hMem, hKey⟩
    have hSame : r.paymentIntentId = pi := by
      rcases hKeys r hMem with hNe | hSame
      · exact absurd (of_decide_eq_true hKey) hNe
      · exact hSame
    have hRefunded : w.refunded pi = true :=
      List.any_eq_true.mpr ⟨r, hMem, by simp [hSame]⟩
    refine ⟨order, hGet, hPi, ?_⟩
    rw [hCaptured, hRefunded]
    exact hAgree.refunds
  · refine ⟨order, hGet, hPi, ?_⟩
    have hRefunded :
        Store.refunded
            { w with
              refunds := w.refunds ++ [⟨key, pi, none⟩] }
            pi = true := by
      simp [Store.refunded]
    have hCaptured' :
        Store.captured
            { w with
              refunds := w.refunds ++ [⟨key, pi, none⟩] }
            pi = true := hCaptured
    rw [hRefunded, hCaptured']
    exact hAgree.refunds

theorem settlement_stripeCancelPi
    (hFault : a.fault = false)
    (hNow : Settlement id pi w m)
    (hCond : PaymentStep tr (.stripeCancelPi pi) a w) :
    Settlement id pi (exec (.stripeCancelPi pi) a w).2
      ({Duty.release} + m) := by
  rcases hNow with ⟨order, hGet, hPi, hAgree⟩
  simp only [PaymentStep, stripeOnce, writesInTime, hFault,
    Bool.and_true, Bool.or_false, Bool.not_eq_true',
    Bool.or_eq_false_iff] at hCond
  simp only [exec, Answer.guard, hFault, Bool.false_eq_true,
    if_false]
  refine ⟨order, hGet, hPi, ?_⟩
  have hReleased :
      Store.released
          { w with
            cancelledIntents := w.cancelledIntents ++ [pi] }
          pi = true := by
    simp [Store.released]
  have hCaptured :
      Store.captured
          { w with
            cancelledIntents := w.cancelledIntents ++ [pi] }
          pi = false := hCond.1
  rw [hCond.1] at hAgree
  rw [hReleased, hCaptured]
  exact hAgree.releases

theorem aside_restoreStock
    (message productId : String)
    (qty : Int)
    (attempts : Nat) :
    (restoreStock message productId qty attempts).Uses
      Op.Aside := by
  induction attempts with
  | zero => trivial
  | succ attempts ih =>
    refine ⟨rfl, ?_⟩
    intro r
    refine ⟨trivial, ?_⟩
    intro r'
    cases r' with
    | error e => trivial
    | ok restored =>
      cases restored with
      | false => exact ih
      | true => trivial

theorem aside_restoreItems (items : List Item) :
    (restoreItems items).Uses Op.Aside := by
  induction items with
  | nil => trivial
  | cons item rest ih =>
    unfold restoreItems
    split_ifs
    · exact uses_andThen (aside_restoreStock _ _ _ _)
        (fun _ => ih)
    · exact ih

/- The cancellation, given what its write does. -/
theorem settles_finishCancel
    {paymentStatus : String}
    (hWrite :
      ∀ a w m, Settlement id pi w (g + m) → PaymentStep tr
          (.casOrder req.orderId
            { orderStatus := some OrderStatus.cancelled.asStr
              paymentStatus := some paymentStatus
              stockRestored := some true }
            (.status order.status)) a w →
        Settlement id pi (exec (.casOrder req.orderId
              { orderStatus :=
                  some OrderStatus.cancelled.asStr
                paymentStatus := some paymentStatus
                stockRestored := some true }
              (.status order.status)) a w).2 m) :
    KeepsSettlement id pi tr g
      (finishCancel req userId order paymentStatus) := by
  refine ⟨trivial, ?_⟩
  intro a w m hNow hCond
  refine ⟨0, ?_, ?_⟩
  · rw [zero_add]
    exact hWrite a w m hNow hCond
  · generalize (exec (.casOrder req.orderId _ _) a w).1 = r
    apply settles_of_uses ?_ discharged_zero
    cases r with
    | error e => trivial
    | ok updated =>
      refine uses_require ?_
      refine uses_andThen ?_ ?_
      · split_ifs
        · trivial
        · exact aside_restoreItems _
      intro _
      refine uses_andThen ?_ (fun _ => trivial)
      refine uses_mapErr ?_ _
      exact uses_perform rfl

/- The compare-and-set of a cancellation. -/
theorem settlement_casOrder
    {expected paymentStatus : String}
    (hId : docId "orders" orderId = id)
    (hFault : a.fault = false)
    (hGet : w.orders.get id = some order)
    (hPi : order.paymentIntentId = pi)
    (hHit :
      order.status = expected →
        Agreement (w.captured pi) (w.refunded pi)
          (w.released pi) m OrderStatus.cancelled.asStr
          paymentStatus)
    (hMiss :
      order.orderStatus ≠ some expected →
        Agreement (w.captured pi) (w.refunded pi)
          (w.released pi) m order.status
          order.paymentStatus) :
    Settlement id pi
      (exec (.casOrder orderId
          { orderStatus := some OrderStatus.cancelled.asStr
            paymentStatus := some paymentStatus
            stockRestored := some true }
          (.status expected)) a w).2 m := by
  have hOrder : w.order? orderId = some order := by
    rw [Store.order?, hId, hGet]
  rw [exec_casOrder hFault hOrder]
  split_ifs with hGuard
  · have hStatus : order.orderStatus = some expected := by
      simpa [OrderGuard.holds] using hGuard
    refine Settlement.modify hId hGet hPi (hHit ?_)
    rw [Order.status, hStatus, Option.getD_some]
  · refine ⟨order, hGet, hPi, hMiss ?_⟩
    simpa [OrderGuard.holds] using hGuard

theorem fault_of_casOrder
    {guard : OrderGuard}
    (hCond :
      PaymentStep tr (.casOrder orderId patch guard) a w)
    (hFirst : firstOrder tr = some order) :
    a.fault = false ∧
      order.paymentStatus ≠ "CANCEL_FAILED" := by
  simpa [PaymentStep, stripeOnce, writesInTime, hFirst]
    using hCond

/- What becomes of the payment depends on its state. -/
theorem releasePayment_captured
    {req : CancelOrderRequest}
    {order : Order}
    (hPi : pi ≠ "")
    (hIntent : order.paymentIntentId = pi)
    (hPayment : order.paymentStatus = "captured") :
    releasePayment req order =
      (Db.stripeRefund pi none
        ("refund_" ++ req.orderId)).bind fun r =>
      match r with
      | .ok _ => ok "refunded"
      | .error e => quarantine req.orderId e := by
  unfold releasePayment
  rw [hIntent]
  exact if_pos ⟨hPayment, hPi⟩

theorem releasePayment_authorized
    {req : CancelOrderRequest}
    {order : Order}
    (hPi : pi ≠ "")
    (hIntent : order.paymentIntentId = pi)
    (hPayment : order.paymentStatus = "authorized") :
    releasePayment req order =
      (Db.stripeCancelPi pi).bind fun r =>
      match r with
      | .ok _ => ok "cancelled"
      | .error e => quarantine req.orderId e := by
  have hOther : order.paymentStatus ≠ "captured" := by
    rw [hPayment]
    decide
  unfold releasePayment
  rw [hIntent, if_neg (fun h => hOther h.1)]
  exact if_pos ⟨hPayment, hPi⟩

/- A captured payment: refund, then cancel. -/
theorem settles_cancelCaptured
    (hPi : pi ≠ "")
    (hId : docId "orders" req.orderId = id)
    (hFirst : firstOrder tr = some order)
    (hIntent : order.paymentIntentId = pi)
    (hPayment : order.paymentStatus = "captured")
    (hStatus : order.status = OrderStatus.processing.asStr) :
    KeepsSettlement id pi tr {Duty.seen}
      (andThen (releasePayment req order)
        (finishCancel req userId order)) := by
  rw [releasePayment_captured hPi hIntent hPayment]
  refine ⟨trivial, ?_⟩
  intro a w m hNow hCond
  by_cases hFault : a.fault = true
  · refine ⟨{Duty.seen}, ?_, ?_⟩
    · rw [exec_fault _ hFault]
      exact hNow
    · have hFail :
          (exec (.stripeRefund pi none
            ("refund_" ++ req.orderId)) a w).1 =
            .error .fault := by
        simp only [exec, Answer.guard, hFault]
        rfl
      rw [hFail]
      exact settles_quarantine hId discharged_seen
  · rw [Bool.not_eq_true] at hFault
    refine ⟨{Duty.refund, Duty.seen},
      settlement_stripeRefund hFault hNow hCond, ?_⟩
    have hOk :
        (exec (.stripeRefund pi none
          ("refund_" ++ req.orderId)) a w).1 =
          .ok a.refundId := by
      simp only [exec, Answer.guard, hFault]
      rfl
    rw [hOk]
    apply settles_finishCancel
    intro a' w' m' hNow' hCond'
    have hFirst' := firstOrder_cons_of_some hFirst
      ⟨.stripeRefund pi none ("refund_" ++ req.orderId), a,
        .ok a.refundId⟩
    rcases hNow' with ⟨stored, hGet, hPi', hAgree⟩
    apply settlement_casOrder hId
      (fault_of_casOrder hCond' hFirst').1 hGet hPi'
    · intro _
      exact hAgree.cancelsRefunded
    · intro hMissed
      apply hAgree.missesRefunded
      intro hProcessing
      rw [hStatus] at hMissed
      unfold Order.status at hProcessing
      cases hText : stored.orderStatus with
      | none =>
        rw [hText] at hProcessing
        exact absurd hProcessing (by decide)
      | some text =>
        rw [hText] at hProcessing hMissed
        exact hMissed (congrArg some hProcessing)

/- An authorised payment: cancel it, then the order. -/
theorem settles_cancelAuthorized
    (hPi : pi ≠ "")
    (hId : docId "orders" req.orderId = id)
    (hFirst : firstOrder tr = some order)
    (hIntent : order.paymentIntentId = pi)
    (hPayment : order.paymentStatus = "authorized") :
    KeepsSettlement id pi tr 0
      (andThen (releasePayment req order)
        (finishCancel req userId order)) := by
  rw [releasePayment_authorized hPi hIntent hPayment]
  refine ⟨trivial, ?_⟩
  intro a w m hNow hCond
  rw [zero_add] at hNow
  by_cases hFault : a.fault = true
  · refine ⟨0, ?_, ?_⟩
    · rw [exec_fault _ hFault, zero_add]
      exact hNow
    · have hFail :
          (exec (.stripeCancelPi pi) a w).1 =
            .error .fault := by
        simp only [exec, Answer.guard, hFault]
        rfl
      rw [hFail]
      exact settles_quarantine hId discharged_zero
  · rw [Bool.not_eq_true] at hFault
    refine ⟨{Duty.release},
      settlement_stripeCancelPi hFault hNow hCond, ?_⟩
    have hOk :
        (exec (.stripeCancelPi pi) a w).1 = .ok () := by
      simp only [exec, Answer.guard, hFault]
      rfl
    rw [hOk]
    apply settles_finishCancel
    intro a' w' m' hNow' hCond'
    have hFirst' := firstOrder_cons_of_some hFirst
      ⟨.stripeCancelPi pi, a, .ok ()⟩
    rcases hNow' with ⟨stored, hGet, hPi', hAgree⟩
    apply settlement_casOrder hId
      (fault_of_casOrder hCond' hFirst').1 hGet hPi'
    · intro _
      exact hAgree.cancelsReleased
    · intro _
      exact hAgree.missesReleased

/- A payment in quarantine is not cancelled. -/
theorem settles_cancelQuarantined
    (hFirst : firstOrder tr = some order)
    (hPayment : order.paymentStatus = "CANCEL_FAILED") :
    KeepsSettlement id pi tr 0
      (andThen (releasePayment req order)
        (finishCancel req userId order)) := by
  have hRelease :
      releasePayment req order = ok "cancelled" := by
    simp [releasePayment, hPayment]
  rw [hRelease]
  apply settles_finishCancel
  intro a w m _ hCond
  exact absurd hPayment (fault_of_casOrder hCond hFirst).2

theorem keeps_cancelOrder
    {auth : AuthContext}
    (hPi : pi ≠ "")
    (hId : docId "orders" req.orderId = id) :
    KeepsSettlement id pi [] 0 (cancelOrder auth req) := by
  apply keeps_lift trivial (fun _ _ => discharged_zero)
  intro userId _
  apply keeps_lift trivial (fun _ _ => discharged_zero)
  intro _ _
  refine ⟨trivial, ?_⟩
  intro a w m hNow _
  rw [exec_read rfl]
  refine ⟨0, hNow, ?_⟩
  generalize (exec (.rateLimit userId _) a w).1 = r
  cases r with
  | error e => exact ⟨trivial, discharged_zero⟩
  | ok u =>
    apply settles_getOrder hId
    intro a' order hIntent hProcessing hPayments
    have hDone := discharged_read order
    have hFirst :
        firstOrder
            (⟨.getOrder req.orderId, a', .ok order⟩ ::
              [⟨.rateLimit userId "cancel_order", a,
                .ok u⟩]) =
          some order := rfl
    apply keeps_require trivial hDone
    intro _
    apply keeps_require trivial hDone
    intro _
    apply keeps_require trivial hDone
    intro _
    apply keeps_require trivial hDone
    intro hCancellable
    apply keeps_require trivial hDone
    intro _
    rcases hPayments with hStatus | hPayment | hPayment |
      hPayment
    · rw [hStatus] at hCancellable
      exact absurd hCancellable (by decide)
    · have hHeld : heldOf order = 0 := by
        simp [heldOf, hPayment]
      rw [hHeld]
      exact settles_cancelAuthorized hPi hId hFirst hIntent
        hPayment
    · have hHeld : heldOf order = {Duty.seen} := by
        simp [heldOf, hPayment]
      rw [hHeld]
      exact settles_cancelCaptured hPi hId hFirst hIntent
        hPayment (hProcessing hPayment)
    · have hHeld : heldOf order = 0 := by
        simp [heldOf, hPayment]
      rw [hHeld]
      exact settles_cancelQuarantined hFirst hPayment

end

--------
-- Cancelled Orders
--------

/- Writes of a status only as the two requests make them. -/
def Op.KeepsCancelled : Op → Prop
  | .updateOrder _ patch =>
    patch.orderStatus = none ∨
      patch.paymentStatus = some "captured"
  | .casOrder _ patch _ =>
    patch.orderStatus = some OrderStatus.cancelled.asStr
  | .setOrderStatus .. => False
  | _ => True

/- The order is stored as cancelled. -/
def Store.isCancelled (w : Store) (id : String) : Prop :=
  (w.orders.get id).map Order.status =
    some OrderStatus.cancelled.asStr

theorem cancelled_modify
    {id orderId : String}
    (hPatch :
      docId "orders" orderId = id →
        patch.orderStatus = none ∨ patch.orderStatus =
            some OrderStatus.cancelled.asStr)
    (hNow : w.isCancelled id) :
    (w.modifyOrder orderId patch.apply).isCancelled id := by
  unfold Store.isCancelled Store.modifyOrder at *
  dsimp only
  rw [Table.get_modify]
  split_ifs with hRow
  · rcases Option.map_eq_some_iff.mp hNow with
      ⟨order, hGet, hStatus⟩
    rw [hGet, Option.map_some, Option.map_some]
    rcases hPatch hRow.symm with hNone | hSome
    · simpa [Order.status, hNone] using hStatus
    · simp [Order.status, hSome]
  · exact hNow

theorem cancelled_exec
    {id : String}
    {tr : Trace}
    {a : Answer}
    (hKeeps : o.KeepsCancelled)
    (hCond : PaymentStep tr o a w)
    (hNow : w.isCancelled id) :
    (exec o a w).2.isCancelled id := by
  cases o with
  | updateOrder orderId patch =>
    simp only [exec, Answer.guard]
    split_ifs with hFault
    · exact hNow
    · split
      · rename_i order hOrder
        apply cancelled_modify ?_ hNow
        intro hId
        rcases hKeeps with hNone | hCaptured
        · exact Or.inl hNone
        · -- A capture is not written to a cancelled order.
          simp only [PaymentStep, stripeOnce, writesInTime,
            hCaptured, if_true, hOrder, Option.all_some,
            Bool.true_and, Bool.and_eq_true,
            decide_eq_true_eq] at hCond
          unfold Store.isCancelled at hNow
          unfold Store.order? at hOrder
          rw [← hId, hOrder] at hNow
          exact absurd (Option.some.inj hNow) hCond.2
      · exact hNow
  | casOrder orderId patch guard =>
    simp only [exec, Answer.guard]
    split_ifs
    · exact hNow
    · exact cancelled_modify (fun _ => Or.inr hKeeps) hNow
    · exact hNow
  | setOrderStatus key expected new => exact hKeeps.elim
  | setCheckoutSession key pi session =>
    unfold Store.isCancelled
    rw [map_get_exec]
    · exact hNow
    · exact fun _ => rfl
  | _ =>
    unfold Store.isCancelled
    rw [map_get_exec]
    · exact hNow
    · trivial

theorem Op.Aside.keepsCancelled
    (hAside : o.Aside) :
    o.KeepsCancelled := by
  cases o <;> trivial

theorem keepsCancelled_capturePayment
    (auth : AuthContext)
    (req : CapturePaymentRequest) :
    (capturePayment auth req).Uses Op.KeepsCancelled := by
  refine uses_andThen trivial (fun _ => ?_)
  refine uses_andThen trivial (fun userId => ?_)
  refine uses_andThen trivial (fun _ => ?_)
  refine uses_andThen ?_ (fun _ => ?_)
  · exact uses_perform trivial
  refine uses_andThen ?_ (fun order => ?_)
  · exact uses_mapErr (uses_perform trivial) _
  refine uses_require (uses_require (uses_require ?_))
  refine uses_andThen ?_ (fun pi => ?_)
  · unfold resolvePaymentIntent
    split_ifs
    · refine uses_require (uses_andThen ?_ (fun _ => ?_))
      · exact uses_mapErr (uses_perform trivial) _
      · exact uses_require trivial
    · trivial
  refine uses_andThen ?_ (fun status => uses_require ?_)
  · exact uses_mapErr (uses_perform trivial) _
  refine uses_andThen ?_ (fun _ => trivial)
  refine uses_mapErr ?_ _
  exact uses_perform (Or.inr rfl)

theorem keepsCancelled_quarantine
    {α : Type}
    (orderId : String)
    (e : Error) :
    (quarantine (α := α) orderId e).Uses
      Op.KeepsCancelled :=
  ⟨Or.inl rfl, fun _ => trivial⟩

theorem keepsCancelled_releasePayment
    (req : CancelOrderRequest)
    (order : Order) :
    (releasePayment req order).Uses Op.KeepsCancelled := by
  unfold releasePayment
  split_ifs
  · refine ⟨trivial, fun r => ?_⟩
    cases r with
    | error e => exact keepsCancelled_quarantine _ _
    | ok u => trivial
  · refine ⟨trivial, fun r => ?_⟩
    cases r with
    | error e => exact keepsCancelled_quarantine _ _
    | ok u => trivial
  · trivial

theorem keepsCancelled_cancelOrder
    (auth : AuthContext)
    (req : CancelOrderRequest) :
    (cancelOrder auth req).Uses Op.KeepsCancelled := by
  refine uses_andThen trivial (fun userId => ?_)
  refine uses_andThen trivial (fun _ => ?_)
  refine uses_andThen ?_ (fun _ => ?_)
  · exact uses_perform trivial
  refine uses_andThen ?_ (fun order => ?_)
  · exact uses_mapErr (uses_perform trivial) _
  refine uses_require (uses_require (uses_require
    (uses_require (uses_require ?_))))
  refine uses_andThen
    (keepsCancelled_releasePayment req order) ?_
  intro paymentStatus
  refine uses_andThen ?_ (fun updated => uses_require ?_)
  · refine uses_mapErr ?_ _
    exact uses_perform rfl
  refine uses_andThen ?_ (fun _ => ?_)
  · split_ifs
    · trivial
    · exact (aside_restoreItems _).mono
        (fun _ hAside => hAside.keepsCancelled)
  refine uses_andThen ?_ (fun _ => trivial)
  exact uses_mapErr (uses_perform trivial) _

--------
-- Whole Runs
--------

inductive PaymentCall
  | capture (auth : AuthContext) (req : CapturePaymentRequest)
  | cancel (auth : AuthContext) (req : CancelOrderRequest)
  deriving DecidableEq, Repr

inductive PaymentReply
  | capture (response : CapturePaymentResponse)
  | cancel (response : CancelOrderResponse)
  deriving DecidableEq, Repr

namespace PaymentCall

def orderId : PaymentCall → String
  | .capture _ req => req.orderId
  | .cancel _ req => req.orderId

def handler : PaymentCall → Handler PaymentReply
  | .capture auth req =>
    (capturePayment auth req).map
      (Except.map PaymentReply.capture)
  | .cancel auth req =>
    (cancelOrder auth req).map
      (Except.map PaymentReply.cancel)

end PaymentCall

abbrev PaymentRun :=
  Config Op.Res Answer Store (Except Error PaymentReply)

def paymentRun (w : Store) (calls : List PaymentCall) :
    PaymentRun :=
  Config.start w (calls.map PaymentCall.handler)

/- An order with an authorised payment. -/
structure IsAuthorized
    (w : Store)
    (id pi : String)
    (order : Order) : Prop where
  stored : w.orders.get id = some order
  payment : order.paymentStatus = "authorized"
  intent : order.paymentIntentId = pi
  named : pi ≠ ""
  uncancelled : order.status ≠ OrderStatus.cancelled.asStr
  uncaptured : w.captured pi = false
  unrefunded : w.refunded pi = false
  unreleased : w.released pi = false

theorem IsAuthorized.settlement
    {id : String}
    {order : Order}
    (hStart : IsAuthorized w id pi order) :
    Settlement id pi w 0 := by
  refine ⟨order, hStart.stored, hStart.intent, ?_⟩
  rw [hStart.uncaptured, hStart.unrefunded,
    hStart.unreleased, hStart.payment]
  have hOpen := hStart.uncancelled
  constructor <;> simp [hOpen]

theorem keeps_paymentCall
    {id : String}
    (hPi : pi ≠ "")
    {call : PaymentCall}
    (hId : docId "orders" call.orderId = id) :
    KeepsSettlement id pi [] 0 call.handler := by
  cases call with
  | capture auth req =>
    apply Prog.Keeps.bind (keeps_capturePayment hPi hId)
    intro tr g r hDone _
    exact ⟨trivial, hDone⟩
  | cancel auth req =>
    apply Prog.Keeps.bind (keeps_cancelOrder hPi hId)
    intro tr g r hDone _
    exact ⟨trivial, hDone⟩

theorem keepsCancelled_paymentCall (call : PaymentCall) :
    call.handler.Uses Op.KeepsCancelled := by
  cases call with
  | capture auth req =>
    exact (keepsCancelled_capturePayment auth req).bind
      (fun _ => trivial)
  | cancel auth req =>
    exact (keepsCancelled_cancelOrder auth req).bind
      (fun _ => trivial)

/-
  The stored order and its payment intent.  When all requests
  have ended, the payment is stored as captured exactly if it
  is captured and not refunded, and the order is cancelled
  only if the payment was cancelled or refunded; and an order
  that is cancelled stays so.
-/
structure CaptureAgrees
    (cond : StepCond Op.Res Answer Store)
    (id pi : String)
    (c : PaymentRun) : Prop where
  settled :
    c.Quiet →
      ∃ order,
        c.world.orders.get id = some order ∧
          (order.paymentStatus = "captured" ↔
            c.world.captured pi = true ∧
              c.world.refunded pi = false) ∧
          (order.status = OrderStatus.cancelled.asStr →
            c.world.released pi = true ∨
              c.world.refunded pi = true)
  final :
    ∀ c', Reach exec cond c c' →
      c.world.isCancelled id → c'.world.isCancelled id

section

variable {w : Store} {id pi : String} {order₀ : Order}
variable {calls : List PaymentCall} {c : PaymentRun}

theorem settlement_run
    (hStart : IsAuthorized w id pi order₀)
    (hCalls :
      ∀ call ∈ calls, docId "orders" call.orderId = id)
    (hReach :
      Reach exec PaymentStep (paymentRun w calls) c)
    (hQuiet : c.Quiet) :
    ∃ owed,
      Settlement id pi c.world owed ∧ Discharged owed := by
  have hKeeps :
      ∀ p ∈ calls.map PaymentCall.handler,
        p.Keeps exec PaymentStep (Settlement id pi)
          (fun _ _ => True) (fun _ g _ => Discharged g) []
          0 := by
    intro p hp
    rcases List.mem_map.mp hp with ⟨call, hCall, rfl⟩
    exact keeps_paymentCall hStart.named (hCalls call hCall)
  rcases Reach.accounts
      (Balanced.start hStart.settlement hKeeps) hReach with
    ⟨gs, hNow, hAll⟩
  refine ⟨gs.sum, hNow, ?_, ?_⟩
  · rw [← Multiset.count_eq_zero]
    refine Balanced.idle_map_sum
      (Multiset.countAddMonoidHom Duty.capture) ?_ hAll
      hQuiet.idle
    intro _ g _ hDone
    exact Multiset.count_eq_zero.mpr hDone.1
  · rw [← Multiset.count_eq_zero]
    refine Balanced.idle_map_sum
      (Multiset.countAddMonoidHom Duty.refund) ?_ hAll
      hQuiet.idle
    intro _ g _ hDone
    exact Multiset.count_eq_zero.mpr hDone.2

/-
  In every run of captures and cancellations of an authorised
  order whose writes all come in time, the stored order agrees
  with Stripe.
-/
theorem capture_cancel_agree
    (hStart : IsAuthorized w id pi order₀)
    (hCalls :
      ∀ call ∈ calls, docId "orders" call.orderId = id)
    (hReach :
      Reach exec PaymentStep (paymentRun w calls) c) :
    CaptureAgrees PaymentStep id pi c := by
  refine ⟨?_, ?_⟩
  · intro hQuiet
    rcases settlement_run hStart hCalls hReach hQuiet with
      ⟨owed, ⟨order, hGet, _, hAgree⟩, hCapture, hRefund⟩
    refine ⟨order, hGet, ⟨?_, ?_⟩, hAgree.cancelled⟩
    · intro hStored
      rcases hAgree.captured_of_stored hStored with
        ⟨hCaptured, _, hOwes⟩
      refine ⟨hCaptured, ?_⟩
      rw [Bool.eq_false_iff]
      intro hRefunded
      exact hRefund (hOwes hRefunded)
    · rintro ⟨hCaptured, hUnrefunded⟩
      rcases hAgree.stores_capture hCaptured hUnrefunded with
        hStored | hOwes
      · exact hStored
      · exact absurd hOwes hCapture
  · intro c' hLater hCancelled
    have hUses : c.Uses Op.KeepsCancelled := by
      apply hReach.uses (Config.uses_start ?_ w)
      intro p hp
      rcases List.mem_map.mp hp with ⟨call, _, rfl⟩
      exact keepsCancelled_paymentCall call
    exact hLater.holds_of_uses hUses
      (fun _ _ _ _ hKeeps hCond hNow =>
        cancelled_exec hKeeps hCond hNow) hCancelled

end

/- A confirmed order whose payment is authorised. -/
def authorizedOrder : Order where
  orderId := "o1"
  items :=
    [{ productId := "p1", sellerId := some "s1",
       priceCents := 1000, quantity := some 2 }]
  orderStatus := some OrderStatus.paymentAuthorized.asStr
  paymentStatus := "authorized"
  paymentIntentId := "pi_1"
  buyerId := "b1"

def authorizedStore : Store where
  orders := ⟨[("o1", authorizedOrder)]⟩
  products := ⟨[("p1", { stockQuantity := some 7 })]⟩

theorem isAuthorized_authorizedStore :
    IsAuthorized authorizedStore "o1" "pi_1"
      authorizedOrder where
  stored := rfl
  payment := rfl
  intent := rfl
  named := by decide
  uncancelled := by decide
  uncaptured := rfl
  unrefunded := rfl
  unreleased := rfl

/- The seller captures the payment and cancels the order. -/
def captureAndCancel : List PaymentCall :=
  [.capture { userId := "s1" } { orderId := "o1" },
    .cancel { userId := "s1" } { orderId := "o1" }]

/- The steps of an undisturbed capture. -/
def captureTurns : List (Nat × Answer) :=
  turns 0 2 ++ [(0, { reply := "succeeded" })] ++ turns 0 1

/- The payment is captured, then the order is cancelled. -/
theorem capture_cancel_agree_refunded :
    ∃ c order, Reach exec PaymentStep
          (paymentRun authorizedStore captureAndCancel) c ∧
        c.Quiet ∧
        c.world.orders.get "o1" = some order ∧
        order.status = OrderStatus.cancelled.asStr ∧
        order.paymentStatus ≠ "captured" ∧
        (c.world.released "pi_1" = true ∨
          c.world.refunded "pi_1" = true) := by
  have hRun :
      ((paymentRun authorizedStore captureAndCancel).run exec
        (captureTurns ++ turns 1 7)).any (fun c =>
          decide c.Quiet && c.world.refunded "pi_1" &&
            (c.world.orders.get "o1").any (fun order =>
              order.status = OrderStatus.cancelled.asStr)) =
        true := by decide
  rcases (Option.any_eq_true _ _).mp hRun with ⟨c, hRun, hEnd⟩
  simp only [Bool.and_eq_true, decide_eq_true_eq,
    Option.any_eq_true] at hEnd
  rcases hEnd with ⟨⟨hQuiet, hRefunded⟩, order, hGet, hStatus⟩
  have hReach : Reach exec PaymentStep _ c :=
    Reach.of_run hRun (by decide)
  rcases (capture_cancel_agree isAuthorized_authorizedStore
      (by decide) hReach).settled hQuiet with
    ⟨order', hGet', hCaptured, hCancelled⟩
  cases hGet.symm.trans hGet'
  refine ⟨c, order, hReach, hQuiet, hGet, hStatus, ?_,
    hCancelled hStatus⟩
  intro hStored
  have hNot := (hCaptured.mp hStored).2
  rw [hRefunded] at hNot
  cases hNot

/-
  The cancellation reads the authorised payment, the capture
  runs to its end, and Stripe refuses to cancel: the
  quarantine replaces the status of a captured payment.
-/
theorem captured_payment_quarantined :
    ∃ c, Reach exec StripeOnce
          (paymentRun authorizedStore captureAndCancel) c ∧
        c.Quiet ∧
        c.world.captured "pi_1" = true ∧
        c.world.refunded "pi_1" = false ∧
        ¬ CaptureAgrees StripeOnce "o1" "pi_1" c := by
  have hRun :
      ((paymentRun authorizedStore captureAndCancel).run exec
        (turns 1 2 ++ captureTurns ++
          [(1, { fault := true })] ++ turns 1 1)).any
          (fun c =>
            decide c.Quiet && c.world.captured "pi_1" &&
              !c.world.refunded "pi_1" &&
              (c.world.orders.get "o1").any (fun order =>
                order.paymentStatus = "CANCEL_FAILED")) =
        true := by decide
  rcases (Option.any_eq_true _ _).mp hRun with ⟨c, hRun, hEnd⟩
  simp only [Bool.and_eq_true, decide_eq_true_eq,
    Bool.not_eq_true', Option.any_eq_true] at hEnd
  rcases hEnd with
    ⟨⟨⟨hQuiet, hCaptured⟩, hUnrefunded⟩, order, hGet, hStatus⟩
  have hReach : Reach exec StripeOnce _ c :=
    Reach.of_run hRun (by decide)
  refine ⟨c, hReach, hQuiet, hCaptured, hUnrefunded, ?_⟩
  intro hAgrees
  rcases hAgrees.settled hQuiet with ⟨order', hGet', hIff, _⟩
  cases hGet.symm.trans hGet'
  have hStored := hIff.mpr ⟨hCaptured, hUnrefunded⟩
  rw [hStatus] at hStored
  exact absurd hStored (by decide)

end Orignabase
