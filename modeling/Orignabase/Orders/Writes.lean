import Orignabase.Lib.Runs
import Orignabase.Orders.Calls
import Orignabase.Store.Rules

/-
  What each request on an order can write, and after which
  reads.

  Key definitions include:
    * `Op.Inert`
    * `HasRead`
    * `Writes`
    * `Follows`

  Main results:
    * `follows_handler`
-/

--------
-- Writes
--------

namespace Orignabase

open Conc

/-
  Operations that change no product and, of an order, neither
  the items nor a status.
-/
def Op.Inert : Op → Prop
  | .updateOrder _ patch | .casOrder _ patch _ =>
    patch.items = none ∧ patch.orderStatus = none ∧
      patch.paymentStatus = none ∧
      patch.stockRestored = none ∧
      patch.paymentIntentId = none ∧
      patch.refundedAmountCents = none
  | .stripeRefund .. | .stripeCancelPi .. => True
  | o => o.isRead = true

/- Nothing of note has been written so far. -/
def Fresh (tr : Trace) : Prop :=
  ∀ e ∈ tr, e.op.Inert

theorem Fresh.cons
    {tr : Trace}
    {e : Event Op.Res Answer}
    (hFresh : Fresh tr)
    (hInert : e.op.Inert) :
    Fresh (e :: tr) := by
  intro e' hMem
  rcases List.mem_cons.mp hMem with rfl | hOld
  · exact hInert
  · exact hFresh e' hOld

/- The request read the order and has written nothing. -/
structure HasRead (tr : Trace) (id : String)
    (order : Order) : Prop where
  first : firstOrder tr = some order
  row : orderOf tr = some (docId "orders" id)
  event : ∃ a, ⟨.getOrder id, a, .ok order⟩ ∈ tr
  fresh : Fresh tr

theorem HasRead.cons
    {tr : Trace}
    {id : String}
    {order : Order}
    {e : Event Op.Res Answer}
    (hRead : HasRead tr id order)
    (hInert : e.op.Inert) :
    HasRead (e :: tr) id order where
  first := firstOrder_cons_of_some hRead.first e
  row := orderOf_cons_of_some hRead.row e
  event := by
    rcases hRead.event with ⟨a, hMem⟩
    exact ⟨a, List.mem_cons_of_mem _ hMem⟩
  fresh := hRead.fresh.cons hInert

variable {order : Order} {auth : AuthContext}

theorem HasRead.extends
    {tr tr' : Trace}
    {id : String}
    (hRead : HasRead tr id order)
    (hExtends : Prog.Extends Op.Inert tr tr') :
    HasRead tr' id order := by
  induction hExtends with
  | refl => exact hRead
  | cons _ hOp ih => exact ih.cons hOp

/- The caller was found to be an administrator. -/
def SaysAdmin (tr : Trace) (userId : String) : Prop :=
  ∃ a user, ⟨.getUser userId, a, .ok user⟩ ∈ tr ∧
      user.roles.contains "admin" = true

/- Nobody else sells an item of the order. -/
def Order.isSoleSeller (order : Order) (userId : String) :
    Bool :=
  order.items.any (fun it => it.seller = userId) &&
    (sellerIds order.items).length ≤ 1

/- The payment that a cancellation leaves behind. -/
inductive Released
    (req : CancelOrderRequest)
    (order : Order)
    (tr : Trace) : String → Prop
  | refunded
      {a : Answer}
      {refundId : Option String}
      (hStatus : order.paymentStatus = "captured")
      (hIntent : order.paymentIntentId ≠ "")
      (hEvent :
        ⟨.stripeRefund order.paymentIntentId none
          ("refund_" ++ req.orderId), a, .ok refundId⟩ ∈
            tr) :
      Released req order tr "refunded"
  | released
      {a : Answer}
      (hStatus : order.paymentStatus = "authorized")
      (hIntent : order.paymentIntentId ≠ "")
      (hEvent :
        ⟨.stripeCancelPi order.paymentIntentId, a, .ok ()⟩ ∈
          tr) :
      Released req order tr "cancelled"
  | none
      (hNone :
        (order.paymentStatus = "captured" ∨
          order.paymentStatus = "authorized") →
        order.paymentIntentId = "") :
      Released req order tr "cancelled"

/- The writes of the requests on orders. -/
inductive Writes : OrderCall → Trace → Op → Prop
  | refund
      {auth : AuthContext}
      {req : RefundItemRequest}
      {tr : Trace}
      {order : Order}
      {item : Item}
      (now reason : String)
      (amount : Int)
      (refundId : Option String)
      (hRead : HasRead tr req.orderId order)
      (hFind :
        order.items.find?
            (fun it => it.productId = req.productId) =
          some item) :
      Writes (.refundItem auth req) tr
        (.updateOrder req.orderId
          { items :=
              some (modifyFirst
                (fun it => it.productId = req.productId)
                (fun it =>
                  it.markRefunded now reason amount
                    refundId)
                order.items) })
  | receipt
      {auth : AuthContext}
      {req : ConfirmItemReceiptRequest}
      {tr : Trace}
      {order : Order}
      (now : String)
      (hRead : HasRead tr req.orderId order) :
      Writes (.confirmReceipt auth req) tr
        (.casOrder req.orderId (receiptPatch req order now)
          (.status order.status))
  | itemStatus
      {auth : AuthContext}
      {req : UpdateItemStatusRequest}
      {tr : Trace}
      {order : Order}
      (new : DeliveryStatus)
      (now : String)
      (hRead : HasRead tr req.orderId order) :
      Writes (.setItemStatus auth req) tr
        (.updateOrder req.orderId
          (itemStatusPatch req order new now))
  | sellerShipped
      {auth : AuthContext}
      {req : UpdateOrderStatusRequest}
      {tr : Trace}
      {order : Order}
      {oldStatus : OrderStatus}
      (now : String)
      (hRead : HasRead tr req.orderId order)
      (hOld :
        OrderStatus.parse
            (order.orderStatus.getD "pending") =
          some oldStatus)
      (hValid :
        isValidOrderTransition oldStatus .shipped = true)
      (hSeller :
        order.items.any (fun it => it.seller = auth.userId) =
          true) :
      Writes (.setOrderStatus auth req) tr
        (.updateOrder req.orderId
          (sellerShippedPatch req auth.userId order now))
  | orderStatus
      {auth : AuthContext}
      {req : UpdateOrderStatusRequest}
      {tr : Trace}
      {order : Order}
      {isAdmin : Bool}
      {oldStatus newStatus : OrderStatus}
      (now : String)
      (hRead : HasRead tr req.orderId order)
      (hOld :
        OrderStatus.parse
            (order.orderStatus.getD "pending") =
          some oldStatus)
      (hNew :
        OrderStatus.parse req.newStatus = some newStatus)
      (hValid :
        isValidOrderTransition oldStatus newStatus = true)
      (hAdmin : isAdmin = true → SaysAdmin tr auth.userId)
      (hMember :
        isAdmin = true ∨
          order.isSoleSeller auth.userId = true)
      (hDelivered :
        newStatus = .delivered → isAdmin = true) :
      Writes (.setOrderStatus auth req) tr
        (.casOrder (docId "orders" req.orderId)
          (orderStatusPatch req order isAdmin newStatus now)
          (.status oldStatus.asStr))
  | quarantine
      {auth : AuthContext}
      {req : CancelOrderRequest}
      {tr : Trace}
      {order : Order}
      (hRead : HasRead tr req.orderId order)
      (hStatus : cancellable order.status = true) :
      Writes (.cancel auth req) tr
        (.updateOrder req.orderId
          { paymentStatus := some "CANCEL_FAILED" })
  | cancel
      {auth : AuthContext}
      {req : CancelOrderRequest}
      {tr : Trace}
      {order : Order}
      {paymentStatus : String}
      (hRead : HasRead tr req.orderId order)
      (hStatus : cancellable order.status = true)
      (hReleased : Released req order tr paymentStatus) :
      Writes (.cancel auth req) tr
        (.casOrder req.orderId
          { orderStatus := some OrderStatus.cancelled.asStr
            paymentStatus := some paymentStatus
            stockRestored := some true }
          (.status order.status))
  | restock
      {call : OrderCall}
      {tr : Trace}
      (hCall : call.restores = true)
      (productId : String)
      (stock expected : Int) :
      Writes call tr (.casProduct productId stock expected)

/- A request calls inert operations and its writes. -/
def May (call : OrderCall) (tr : Trace) (o : Op) : Prop :=
  o.Inert ∨ Writes call tr o

variable {o : Op}

theorem Op.Inert.isColumnWrite
    (hInert : o.Inert) :
    o.isColumnWrite = false := by
  cases o with
  | setOrderStatus id expected new =>
    exact absurd hInert Bool.false_ne_true
  | setCheckoutSession id intent session =>
    exact absurd hInert Bool.false_ne_true
  | _ => rfl

theorem May.isColumnWrite
    {call : OrderCall}
    {tr : Trace}
    (hMay : May call tr o) :
    o.isColumnWrite = false := by
  rcases hMay with hInert | hWrites
  · exact hInert.isColumnWrite
  · cases hWrites <;> rfl

namespace Op

theorem Inert.patch
    {patch : OrderPatch}
    (hInert : o.Inert)
    (hPatch : o.patch? = some patch) :
    patch.items = none ∧ patch.orderStatus = none ∧
      patch.paymentStatus = none ∧
      patch.stockRestored = none ∧
      patch.paymentIntentId = none ∧
      patch.refundedAmountCents = none := by
  cases o with
  | updateOrder id patch' =>
    rw [← Option.some.inj hPatch]
    exact hInert
  | casOrder id patch' guard =>
    rw [← Option.some.inj hPatch]
    exact hInert
  | _ => simp [patch?] at hPatch

end Op

--------
-- Following A Request
--------

open Handler

/- A database statement failed. -/
def Faulty (tr : Trace) : Prop :=
  ∃ e ∈ tr, (e.op.isRemote || !e.ans.fault) = false

/- The items were written by the event. -/
def writesItems : Event Op.Res Answer → Bool
  | ⟨.updateOrder _ patch, _, r⟩ =>
    patch.items.isSome && Except.isOk r
  | ⟨.casOrder _ patch _, _, r⟩ =>
    patch.items.isSome && matched r
  | _ => false

def wrote (tr : Trace) : Bool :=
  tr.any writesItems

theorem writesItems_of_inert
    {e : Event Op.Res Answer}
    (hInert : e.op.Inert) :
    writesItems e = false := by
  rcases e with ⟨o, a, r⟩
  cases o with
  | updateOrder id patch =>
    simp [writesItems, hInert.1]
  | casOrder id patch guard =>
    simp [writesItems, hInert.1]
  | _ => rfl

theorem wrote_cons
    (e : Event Op.Res Answer)
    (tr : Trace) :
    wrote (e :: tr) = (writesItems e || wrote tr) := rfl

theorem wrote_cons_of_inert
    {e : Event Op.Res Answer}
    (hInert : e.op.Inert)
    (tr : Trace) :
    wrote (e :: tr) = wrote tr := by
  simp [wrote, writesItems_of_inert hInert]

theorem wrote_extends
    {tr tr' : Trace}
    (hExtends : Prog.Extends Op.Inert tr tr') :
    wrote tr' = wrote tr := by
  induction hExtends with
  | refl => rfl
  | cons _ hOp ih => rw [wrote_cons_of_inert hOp, ih]

theorem Fresh.wrote
    {tr : Trace}
    (hFresh : Fresh tr) :
    wrote tr = false := by
  unfold Orignabase.wrote
  rw [List.any_eq_false]
  intro e hMem
  rw [writesItems_of_inert (hFresh e hMem)]
  exact Bool.false_ne_true

/- The reply says that items were changed. -/
def reportsChange
    {α : Type}
    (changes : α → Bool) : Except Error α → Bool
  | .ok a => changes a
  | .error _ => false

/-
  Unless a statement failed, the reply says whether the items
  were written; a request that ends in an error wrote none.
-/
def Reported
    {α : Type}
    (changes : α → Bool)
    (tr : Trace)
    (r : Except Error α) : Prop :=
  Faulty tr ∨ wrote tr = reportsChange changes r

variable {userId : String}

section

variable {α β : Type} {call : OrderCall}
variable {changes : α → Bool} {tr : Trace}

/- The request stays within its writes and reports them. -/
def Follows
    (call : OrderCall)
    (changes : α → Bool)
    (tr : Trace)
    (p : Handler α) : Prop :=
  p.Along Happens (May call) (Reported changes) tr

theorem follows_require
    {check : Bool}
    {e : Error}
    {next : Handler α}
    (hWrote : wrote tr = false)
    (hNext :
      check = true → Follows call changes tr next) :
    Follows call changes tr (require check e next) := by
  cases check with
  | false => exact Or.inr hWrote
  | true => exact hNext rfl

theorem follows_lift
    {r : Except Error β}
    {f : β → Handler α}
    (hWrote : wrote tr = false)
    (hNext :
      ∀ b, r = .ok b → Follows call changes tr (f b)) :
    Follows call changes tr (andThen (lift r) f) := by
  cases r with
  | error e => exact Or.inr hWrote
  | ok b => exact hNext b rfl

/- An inert part of a handler, then the rest. -/
theorem follows_bind
    {p : Prog Op.Res β}
    {f : β → Handler α}
    (hUses : p.Uses Op.Inert)
    (hNext :
      ∀ tr' b, Prog.Extends Op.Inert tr tr' →
        Follows call changes tr' (f b)) :
    Follows call changes tr (p.bind f) := by
  apply Prog.Along.bind (hUses.along ?_)
  · intro tr' b hExtends
    exact hNext tr' b hExtends
  · intro tr' o _ hInert
    exact Or.inl hInert

theorem follows_andThen
    {p : Handler β}
    {f : β → Handler α}
    (hWrote : wrote tr = false)
    (hUses : p.Uses Op.Inert)
    (hNext :
      ∀ tr' b, Prog.Extends Op.Inert tr tr' →
        Follows call changes tr' (f b)) :
    Follows call changes tr (andThen p f) := by
  apply follows_bind hUses
  intro tr' r hExtends
  cases r with
  | error e =>
    exact Or.inr ((wrote_extends hExtends).trans hWrote)
  | ok b => exact hNext tr' b hExtends

/- The limiter comes first in every request. -/
theorem follows_rateLimit
    {action : String}
    {f : Unit → Handler α}
    (hNext :
      ∀ tr, Fresh tr → orderOf tr = none →
        firstOrder tr = none →
        Follows call changes tr (f ())) :
    Follows call changes []
      (andThen (Db.rateLimit userId action) f) := by
  refine ⟨Or.inl rfl, ?_⟩
  intro a r _
  cases r with
  | error e => exact Or.inr rfl
  | ok u =>
    apply hNext
    · intro e hMem
      rw [List.mem_singleton.mp hMem]
      rfl
    · rfl
    · rfl

theorem follows_getOrder
    {id : String}
    {f : Order → Handler α}
    (hFresh : Fresh tr)
    (hRow : orderOf tr = none)
    (hNone : firstOrder tr = none)
    (hNext :
      ∀ tr order, HasRead tr id order →
        Follows call changes tr (f order)) :
    Follows call changes tr
      (andThen (mapErr (Db.getOrder id)
          (fun _ => .notFound "Order not found")) f) := by
  have hInert : (Op.getOrder id).Inert := rfl
  refine ⟨Or.inl hInert, ?_⟩
  intro a r _
  cases r with
  | error e => exact Or.inr (hFresh.cons hInert).wrote
  | ok order =>
    apply hNext
    refine ⟨?_, ?_, ⟨a, List.mem_cons_self⟩,
      hFresh.cons hInert⟩
    · simp only [firstOrder, hNone, Option.none_or]
      rfl
    · simp only [orderOf, hRow, Option.none_or]

/- Who asks is read from the user record. -/
theorem follows_isUserAdmin
    {id : String}
    {order : Order}
    {f : Bool → Handler α}
    (hRead : HasRead tr id order)
    (hNext :
      ∀ tr isAdmin, HasRead tr id order →
        (isAdmin = true → SaysAdmin tr userId) →
        Follows call changes tr (f isAdmin)) :
    Follows call changes tr
      ((isUserAdmin userId).bind f) := by
  have hInert : (Op.getUser userId).Inert := rfl
  refine ⟨Or.inl hInert, ?_⟩
  intro a r _
  cases r with
  | error e =>
    exact hNext _ false (hRead.cons hInert)
      (fun h => absurd h Bool.false_ne_true)
  | ok user =>
    refine hNext _ _ (hRead.cons hInert) ?_
    intro hAdmin
    exact ⟨a, user, List.mem_cons_self, hAdmin⟩

/- A guarded write, and the rest for both outcomes. -/
theorem follows_casOrder
    {id message : String}
    {patch : OrderPatch}
    {guard : OrderGuard}
    {f : Bool → Handler α}
    (hWrites : Writes call tr (.casOrder id patch guard))
    (hWrote : wrote tr = false)
    (hDone :
      ∀ tr', wrote tr' = patch.items.isSome →
        Follows call changes tr' (f true))
    (hLost :
      ∀ tr', wrote tr' = false →
        Follows call changes tr' (f false)) :
    Follows call changes tr
      (andThen (context (Db.casOrder id patch guard) message)
        f) := by
  refine ⟨Or.inr hWrites, ?_⟩
  intro a r _
  cases r with
  | error e =>
    have hNow :
        wrote (⟨.casOrder id patch guard, a, .error e⟩ ::
          tr) = false := by
      rw [wrote_cons, hWrote, Bool.or_false]
      exact Bool.and_false _
    exact Or.inr hNow
  | ok updated =>
    cases updated with
    | false =>
      apply hLost
      rw [wrote_cons, hWrote, Bool.or_false]
      exact Bool.and_false _
    | true =>
      apply hDone
      rw [wrote_cons, hWrote, Bool.or_false]
      exact Bool.and_true _

theorem follows_updateOrder
    {id message : String}
    {patch : OrderPatch}
    {f : Unit → Handler α}
    (hWrites : Writes call tr (.updateOrder id patch))
    (hWrote : wrote tr = false)
    (hDone :
      ∀ tr', wrote tr' = patch.items.isSome →
        Follows call changes tr' (f ())) :
    Follows call changes tr
      (andThen (context (Db.updateOrder id patch) message)
        f) := by
  refine ⟨Or.inr hWrites, ?_⟩
  intro a r _
  cases r with
  | error e =>
    have hNow :
        wrote (⟨.updateOrder id patch, a, .error e⟩ ::
          tr) = false := by
      rw [wrote_cons, hWrote, Bool.or_false]
      exact Bool.and_false _
    exact Or.inr hNow
  | ok u =>
    apply hDone
    rw [wrote_cons, hWrote, Bool.or_false]
    exact Bool.and_true _

end

--------
-- Status Requests
--------

variable {tr : Trace}

namespace ConfirmItemReceiptResponse

def changesItems (r : ConfirmItemReceiptResponse) : Bool :=
  r.message = none

end ConfirmItemReceiptResponse

namespace UpdateItemStatusResponse

def changesItems (_ : UpdateItemStatusResponse) : Bool :=
  true

end UpdateItemStatusResponse

namespace UpdateOrderStatusResponse

def changesItems (r : UpdateOrderStatusResponse) : Bool :=
  r.allItemsShipped.isSome ||
    r.newStatus = OrderStatus.shipped.asStr ||
    r.newStatus = OrderStatus.delivered.asStr

end UpdateOrderStatusResponse

theorem inert_createOrderEvent
    (orderId userId eventType : String) :
    (Db.createOrderEvent orderId userId eventType).Uses
      Op.Inert :=
  ⟨rfl, fun _ => trivial⟩

theorem follows_recordReceipt
    {req : ConfirmItemReceiptRequest}
    (hRead : HasRead tr req.orderId order)
    (userId : String) :
    Follows (.confirmReceipt auth req)
      ConfirmItemReceiptResponse.changesItems tr
      (recordReceipt req userId order) := by
  have hInert : Op.utcNow.Inert := rfl
  refine ⟨Or.inl hInert, ?_⟩
  intro a now _
  have hNow : HasRead (⟨.utcNow, a, now⟩ :: tr) _ _ :=
    hRead.cons hInert
  apply follows_casOrder (Writes.receipt now hNow)
    hNow.fresh.wrote
  · intro tr' hWrote
    apply follows_bind (inert_createOrderEvent ..)
    intro tr'' _ hExtends
    exact Or.inr ((wrote_extends hExtends).trans hWrote)
  · intro tr' hWrote
    exact Or.inr hWrote

theorem follows_confirmItemReceipt
    (auth : AuthContext)
    (req : ConfirmItemReceiptRequest) :
    Follows (.confirmReceipt auth req)
      ConfirmItemReceiptResponse.changesItems []
      (confirmItemReceipt auth req) := by
  apply follows_lift rfl
  intro _ _
  apply follows_lift rfl
  intro _ _
  apply follows_lift rfl
  intro _ _
  apply follows_rateLimit
  intro tr hFresh hRow hNone
  apply follows_getOrder hFresh hRow hNone
  intro tr order hRead
  have hWrote := hRead.fresh.wrote
  apply follows_require hWrote
  intro _
  cases hFind :
      order.items.find?
        (fun it => it.productId = req.productId) with
  | none => exact Or.inr hWrote
  | some item =>
    apply follows_require hWrote
    intro _
    split_ifs
    · exact Or.inr hWrote
    · apply follows_require hWrote
      intro _
      exact follows_recordReceipt hRead auth.userId

theorem follows_writeItemStatus
    {req : UpdateItemStatusRequest}
    (hRead : HasRead tr req.orderId order)
    (userId : String)
    (new : DeliveryStatus) :
    Follows (.setItemStatus auth req)
      UpdateItemStatusResponse.changesItems tr
      (writeItemStatus req userId order new) := by
  have hInert : Op.utcNow.Inert := rfl
  refine ⟨Or.inl hInert, ?_⟩
  intro a now _
  have hNow : HasRead (⟨.utcNow, a, now⟩ :: tr) _ _ :=
    hRead.cons hInert
  apply follows_updateOrder (Writes.itemStatus new now hNow)
    hNow.fresh.wrote
  intro tr' hWrote
  apply follows_bind (inert_createOrderEvent ..)
  intro tr'' _ hExtends
  exact Or.inr ((wrote_extends hExtends).trans hWrote)

theorem follows_updateItemStatus
    (auth : AuthContext)
    (req : UpdateItemStatusRequest) :
    Follows (.setItemStatus auth req)
      UpdateItemStatusResponse.changesItems []
      (updateItemStatus auth req) := by
  apply follows_lift rfl
  intro _ _
  apply follows_lift rfl
  intro _ _
  apply follows_lift rfl
  intro _ _
  apply follows_lift rfl
  intro _ _
  apply follows_rateLimit
  intro tr hFresh hRow hNone
  cases DeliveryStatus.fromStr req.newStatus with
  | none => exact Or.inr hFresh.wrote
  | some new =>
    apply follows_getOrder hFresh hRow hNone
    intro tr order hRead
    apply follows_require hRead.fresh.wrote
    intro _
    apply follows_isUserAdmin hRead
    intro tr isAdmin hRead _
    have hWrote := hRead.fresh.wrote
    cases order.items.find?
        (fun it => it.productId = req.productId) with
    | none => exact Or.inr hWrote
    | some item =>
      apply follows_require hWrote
      intro _
      apply follows_require hWrote
      intro _
      apply follows_require hWrote
      intro _
      apply follows_require hWrote
      intro _
      exact follows_writeItemStatus hRead auth.userId new

theorem inert_notify
    (notified : Prop)
    [Decidable notified]
    (orderId : String) :
    (if notified then Db.notify orderId
      else ok ()).Uses Op.Inert := by
  split_ifs
  · exact ⟨rfl, fun _ => trivial⟩
  · trivial

theorem follows_shipSellerItems
    {req : UpdateOrderStatusRequest}
    {oldStatus : OrderStatus}
    (hRead : HasRead tr req.orderId order)
    (hOld :
      OrderStatus.parse (order.orderStatus.getD "pending") =
        some oldStatus)
    (hValid :
      isValidOrderTransition oldStatus .shipped = true) :
    Follows (.setOrderStatus auth req)
      UpdateOrderStatusResponse.changesItems tr
      (shipSellerItems req auth.userId order oldStatus) := by
  have hInert : Op.utcNow.Inert := rfl
  refine ⟨Or.inl hInert, ?_⟩
  intro a now _
  have hNow : HasRead (⟨.utcNow, a, now⟩ :: tr) _ _ :=
    hRead.cons hInert
  apply follows_require hNow.fresh.wrote
  intro hSeller
  apply follows_updateOrder
    (Writes.sellerShipped now hNow hOld hValid hSeller)
    hNow.fresh.wrote
  intro tr' hWrote
  apply follows_bind (inert_notify ..)
  intro tr'' _ hExtends
  exact Or.inr ((wrote_extends hExtends).trans hWrote)

/- Items go along with exactly two of the new statuses. -/
theorem orderStatusPatch_items
    (req : UpdateOrderStatusRequest)
    (order : Order)
    {isAdmin : Bool}
    {newStatus : OrderStatus}
    (hDelivered : newStatus = .delivered → isAdmin = true)
    (now : String) :
    (orderStatusPatch req order isAdmin newStatus
        now).items.isSome =
      UpdateOrderStatusResponse.changesItems
        ⟨true, newStatus.asStr, none⟩ := by
  simp only [orderStatusPatch, cascadeItems]
  cases newStatus with
  | delivered =>
    rw [hDelivered rfl]
    rfl
  | _ => simp; decide

theorem follows_writeOrderStatus
    {req : UpdateOrderStatusRequest}
    {isAdmin : Bool}
    {oldStatus newStatus : OrderStatus}
    (hRead : HasRead tr req.orderId order)
    (hOld :
      OrderStatus.parse (order.orderStatus.getD "pending") =
        some oldStatus)
    (hNew : OrderStatus.parse req.newStatus = some newStatus)
    (hValid :
      isValidOrderTransition oldStatus newStatus = true)
    (hAdmin : isAdmin = true → SaysAdmin tr auth.userId)
    (hMember :
      isAdmin = true ∨ order.isSoleSeller auth.userId = true)
    (hDelivered : newStatus = .delivered → isAdmin = true)
    (userId : String) :
    Follows (.setOrderStatus auth req)
      UpdateOrderStatusResponse.changesItems tr
      (writeOrderStatus req userId order isAdmin oldStatus
        newStatus) := by
  have hInert : Op.utcNow.Inert := rfl
  refine ⟨Or.inl hInert, ?_⟩
  intro a now _
  have hNow : HasRead (⟨.utcNow, a, now⟩ :: tr) _ _ :=
    hRead.cons hInert
  have hAdmin' :
      isAdmin = true →
        SaysAdmin (⟨.utcNow, a, now⟩ :: tr) auth.userId := by
    intro h
    rcases hAdmin h with ⟨a', user, hMem, hRole⟩
    exact ⟨a', user, List.mem_cons_of_mem _ hMem, hRole⟩
  apply follows_casOrder
    (Writes.orderStatus now hNow hOld hNew hValid hAdmin'
      hMember hDelivered)
    hNow.fresh.wrote
  · intro tr₁ hWrote
    have hItems :=
      orderStatusPatch_items req order hDelivered now
    apply follows_bind (inert_createOrderEvent ..)
    intro tr₂ _ hLog
    apply follows_bind (inert_notify ..)
    intro tr₃ _ hNotify
    have hSame : wrote tr₃ = wrote tr₁ := by
      rw [wrote_extends hNotify, wrote_extends hLog]
    exact Or.inr (hSame.trans (hWrote.trans hItems))
  · intro tr' hWrote
    exact Or.inr hWrote

/- The checks on a caller who is no administrator. -/
theorem isSoleSeller_of_checks
    (hMember :
      (!(order.items.filter
        (fun it => it.seller = userId)).isEmpty) = true)
    (hOthers :
      (!(!(order.items.filter
          (fun it => it.seller = userId)).isEmpty &&
        !false &&
        (sellerIds order.items).length > 1)) = true) :
    order.isSoleSeller userId = true := by
  rw [hMember] at hOthers
  simp only [Order.isSoleSeller, Bool.and_eq_true,
    decide_eq_true_eq]
  constructor
  · simpa using hMember
  · simpa using hOthers

theorem follows_updateOrderStatus
    (auth : AuthContext)
    (req : UpdateOrderStatusRequest) :
    Follows (.setOrderStatus auth req)
      UpdateOrderStatusResponse.changesItems []
      (updateOrderStatus auth req) := by
  apply follows_lift rfl
  intro _ _
  apply follows_lift rfl
  intro _ _
  apply follows_lift rfl
  intro _ _
  apply follows_rateLimit
  intro tr hFresh hRow hNone
  cases hNew : OrderStatus.parse req.newStatus with
  | none => exact Or.inr hFresh.wrote
  | some newStatus =>
    apply follows_getOrder hFresh hRow hNone
    intro tr order hRead
    dsimp only
    cases hOld :
        OrderStatus.parse
          (order.orderStatus.getD "pending") with
    | none => exact Or.inr hRead.fresh.wrote
    | some oldStatus =>
      apply follows_require hRead.fresh.wrote
      intro _
      apply follows_isUserAdmin hRead
      intro tr isAdmin hRead hAdmin
      have hWrote := hRead.fresh.wrote
      apply follows_require hWrote
      intro hMember
      apply follows_require hWrote
      intro hSeller
      apply follows_require hWrote
      intro hOthers
      split
      · exact Or.inr hWrote
      · apply follows_require hWrote
        intro hValid
        split_ifs with hShip
        · have hShipped : newStatus = .shipped := by
            simp only [Bool.and_eq_true,
              decide_eq_true_eq] at hShip
            exact hShip.2
          rw [hShipped] at hValid
          exact follows_shipSellerItems hRead hOld hValid
        · have hDelivered :
              newStatus = .delivered → isAdmin = true := by
            rintro rfl
            cases isAdmin with
            | true => rfl
            | false =>
              rw [Bool.false_or] at hMember
              simp [hMember] at hSeller
          have hSole :
              isAdmin = true ∨
                order.isSoleSeller auth.userId =
                  true := by
            cases isAdmin with
            | true => exact Or.inl rfl
            | false =>
              right
              rw [Bool.false_or] at hMember
              exact isSoleSeller_of_checks hMember hOthers
          exact follows_writeOrderStatus hRead hOld hNew
            hValid hAdmin hSole hDelivered auth.userId

--------
-- Refunds And Cancellations
--------

variable {tr : Trace} {call : OrderCall}

variable {a : Answer} {orderId : String}
variable {auth : AuthContext} {req : RefundItemRequest}

theorem Happens.casProduct
    {id : String}
    {stock expected : Int}
    {r : Except Error Bool}
    (hHappens :
      Happens ⟨.casProduct id stock expected, a, r⟩)
    (hFault : a.fault = false) :
    ∃ b, r = .ok b := by
  rcases hHappens with ⟨w, hRes⟩
  refine ⟨(w.product? id).any
    (fun p => p.stockQuantity = some expected), hRes.trans ?_⟩
  simp only [exec, Answer.guard, hFault]
  by_cases hMatch :
      (w.product? id).any
        (fun p => p.stockQuantity = some expected) = true
  · rw [if_neg Bool.false_ne_true, if_pos hMatch, hMatch]
  · rw [if_neg Bool.false_ne_true, if_neg hMatch]
    rw [Bool.eq_false_iff.mpr hMatch]

theorem Happens.createOrderEvent
    {userId eventType : String}
    {r : Except Error Unit}
    (hHappens :
      Happens
        ⟨.createOrderEvent orderId userId eventType, a, r⟩)
    (hFault : a.fault = false) :
    r = .ok () := by
  rcases hHappens with ⟨w, hRes⟩
  refine hRes.trans ?_
  simp only [exec, Answer.guard, hFault]
  rfl

theorem Happens.revokeLicenses
    {productId : String}
    {r : Except Error Unit}
    (hHappens :
      Happens ⟨.revokeLicenses orderId productId, a, r⟩)
    (hFault : a.fault = false) :
    r = .ok () := by
  rcases hHappens with ⟨w, hRes⟩
  refine hRes.trans ?_
  simp only [exec, Answer.guard, hFault]
  rfl

theorem Faulty.head
    {o : Op}
    {r : o.Res}
    (hLocal : o.isRemote = false)
    (hFault : a.fault = true)
    (tr : Trace) :
    Faulty (⟨o, a, r⟩ :: tr) :=
  ⟨_, List.mem_cons_self, by simp [hLocal, hFault]⟩

/-
  A restore leaves the items alone, and only a statement that
  failed makes it fail.
-/
def RestoreEnds
    {α : Type}
    (tr tr' : Trace)
    (r : Except Error α) : Prop :=
  wrote tr' = wrote tr ∧ ∀ e, r = .error e → Faulty tr'

theorem along_restoreStock
    (hCall : call.restores = true)
    (message productId : String)
    (qty : Int)
    (attempts : Nat) :
    (restoreStock message productId qty attempts).Along
      Happens (May call) (RestoreEnds tr) tr := by
  have hGeneral :
      ∀ tr', wrote tr' = wrote tr →
        (restoreStock message productId qty attempts).Along
          Happens (May call) (RestoreEnds tr) tr' := by
    induction attempts with
    | zero =>
      intro tr' hSame
      exact ⟨hSame, fun _ h => nomatch h⟩
    | succ attempts ih =>
      intro tr' hSame
      refine ⟨Or.inl rfl, ?_⟩
      intro a r _
      refine ⟨Or.inr (Writes.restock hCall _ _ _), ?_⟩
      intro a' r' hHappens
      cases hFault : a'.fault with
      | true =>
        have hFaulty := fun tr =>
          Faulty.head (r := r') rfl hFault tr
        cases r' with
        | error e => exact ⟨hSame, fun _ _ => hFaulty _⟩
        | ok restored =>
          cases restored with
          | true =>
            exact ⟨hSame, fun _ h => nomatch h⟩
          | false => exact ih _ hSame
      | false =>
        rcases hHappens.casProduct hFault with
          ⟨restored, rfl⟩
        cases restored with
        | true => exact ⟨hSame, fun _ h => nomatch h⟩
        | false => exact ih _ hSame
  exact hGeneral tr rfl

theorem along_restoreItems
    (hCall : call.restores = true)
    (items : List Item) :
    (restoreItems items).Along Happens (May call)
      (RestoreEnds tr) tr := by
  have hGeneral :
      ∀ tr', wrote tr' = wrote tr →
        (restoreItems items).Along Happens (May call)
          (RestoreEnds tr) tr' := by
    induction items with
    | nil =>
      intro tr' hSame
      exact ⟨hSame, fun _ h => nomatch h⟩
    | cons item rest ih =>
      intro tr' hSame
      unfold restoreItems
      split_ifs
      · apply Prog.Along.bind
          (along_restoreStock hCall _ _ _ _)
        rintro tr'' r ⟨hSame', hEnds⟩
        cases r with
        | error e =>
          exact ⟨hSame'.trans hSame, fun _ _ => hEnds e rfl⟩
        | ok restored =>
          exact ih tr'' (hSame'.trans hSame)
      · exact ih tr' hSame
  exact hGeneral tr rfl

/- The log entry that ends a request. -/
theorem follows_log
    {α : Type}
    {changes : α → Bool}
    {a : α}
    (hReported : wrote tr = changes a)
    (orderId userId eventType message : String) :
    Follows call changes tr
      (andThen (context
          (Db.createOrderEvent orderId userId eventType)
          message) fun _ => ok a) := by
  refine ⟨Or.inl rfl, ?_⟩
  intro ans r hHappens
  cases hFault : ans.fault with
  | true =>
    cases r with
    | error e =>
      exact Or.inl (Faulty.head rfl hFault tr)
    | ok u => exact Or.inr hReported
  | false =>
    rw [hHappens.createOrderEvent hFault]
    exact Or.inr hReported

namespace RefundItemResponse

def changesItems (r : RefundItemResponse) : Bool :=
  r.alreadyRefunded ≠ some true

end RefundItemResponse

theorem follows_settleRefund
    (hWrote : wrote tr = true)
    (userId : String)
    (item : Item)
    (amount : Int)
    (refundId : Option String) :
    Follows (.refundItem auth req)
      RefundItemResponse.changesItems tr
      (settleRefund req userId item amount refundId) := by
  unfold settleRefund
  split
  · apply Prog.Along.bind (along_restoreStock rfl _ _ _ _)
    rintro tr' r ⟨hSame, hEnds⟩
    cases r with
    | error e => exact Or.inl (hEnds e rfl)
    | ok restored =>
      exact follows_log (hSame.trans hWrote) ..
  · refine ⟨Or.inl rfl, ?_⟩
    intro a r hHappens
    cases hFault : a.fault with
    | true =>
      cases r with
      | error e =>
        exact Or.inl (Faulty.head rfl hFault tr)
      | ok u => exact follows_log hWrote ..
    | false =>
      rw [hHappens.revokeLicenses hFault]
      exact follows_log hWrote ..

theorem follows_recordRefund
    {order : Order}
    {item : Item}
    (hRead : HasRead tr req.orderId order)
    (hFind :
      order.items.find?
          (fun it => it.productId = req.productId) =
        some item)
    (userId reason : String)
    (amount : Int)
    (refundId : Option String) :
    Follows (.refundItem auth req)
      RefundItemResponse.changesItems tr
      (recordRefund req userId reason order.items item amount
        refundId) := by
  have hInert : Op.utcNow.Inert := rfl
  refine ⟨Or.inl hInert, ?_⟩
  intro a now _
  have hNow : HasRead (⟨.utcNow, a, now⟩ :: tr) _ _ :=
    hRead.cons hInert
  apply follows_updateOrder
    (Writes.refund now reason amount refundId hNow hFind)
    hNow.fresh.wrote
  intro tr' hWrote
  exact follows_settleRefund hWrote userId item amount
    refundId

theorem inert_casCumulative
    {amount : Int}
    {curOrder : Order}
    {missed : Handler Bool}
    (hMissed : missed.Uses Op.Inert) :
    (casCumulative orderId amount curOrder missed).Uses
      Op.Inert := by
  refine ⟨⟨rfl, rfl, rfl, rfl, rfl, rfl⟩, ?_⟩
  intro r
  cases r with
  | error e => trivial
  | ok updated =>
    cases updated with
    | true => trivial
    | false => exact hMissed

theorem inert_tryReserve
    {amount : Int}
    {curOrder : Order}
    {missed : Handler Bool}
    (hMissed : missed.Uses Op.Inert) :
    (tryReserve orderId amount curOrder missed).Uses
      Op.Inert := by
  unfold tryReserve
  split_ifs
  · trivial
  · refine ⟨⟨rfl, rfl, rfl, rfl, rfl, rfl⟩, ?_⟩
    intro r
    exact inert_casCumulative hMissed
  · exact inert_casCumulative hMissed

theorem inert_reserveRefund
    (orderId : String)
    (amount : Int)
    (attempts : Nat) :
    (reserveRefund orderId amount attempts).Uses
      Op.Inert := by
  induction attempts with
  | zero => trivial
  | succ attempts ih =>
    refine ⟨rfl, ?_⟩
    intro r
    cases r with
    | error e => trivial
    | ok curOrder =>
      apply inert_tryReserve
      split_ifs
      · trivial
      · exact ih

theorem inert_returnWindowClosed
    (isAdmin : Bool)
    (item : Item) :
    (returnWindowClosed isAdmin item).Uses Op.Inert := by
  unfold returnWindowClosed
  cases item.deliveredAt with
  | none => trivial
  | some deliveredAt =>
    dsimp only
    split_ifs
    · exact ⟨rfl, fun _ => trivial⟩
    · trivial

theorem follows_performRefund
    {order : Order}
    {item : Item}
    (hRead : HasRead tr req.orderId order)
    (hFind :
      order.items.find?
          (fun it => it.productId = req.productId) =
        some item)
    (userId : String)
    (amount : Int) :
    Follows (.refundItem auth req)
      RefundItemResponse.changesItems tr
      (performRefund req userId order item amount) := by
  apply follows_andThen hRead.fresh.wrote
    (inert_reserveRefund ..)
  intro tr' reserved hExtends
  have hNow := hRead.extends hExtends
  cases reserved with
  | false =>
    refine ⟨Or.inl rfl, ?_⟩
    intro a r _
    exact Or.inr hNow.fresh.wrote
  | true =>
    apply follows_require hNow.fresh.wrote
    intro _
    refine ⟨Or.inl trivial, ?_⟩
    intro a r _
    have hCharged :
        HasRead (⟨.stripeRefund order.paymentIntentId
            (some amount)
            ("refund_" ++ req.orderId ++ "_" ++
              req.productId), a, r⟩ :: tr') _ _ :=
      hNow.cons trivial
    cases r with
    | ok refundId =>
      exact follows_recordRefund hCharged hFind _ _ _ _
    | error e =>
      refine ⟨Or.inl rfl, ?_⟩
      intro a' r' _
      refine ⟨Or.inl ⟨rfl, rfl, rfl, rfl, rfl, rfl⟩, ?_⟩
      intro a'' r'' _
      exact Or.inr hCharged.fresh.wrote

theorem follows_refundOrderItem
    (auth : AuthContext)
    (req : RefundItemRequest) :
    Follows (.refundItem auth req)
      RefundItemResponse.changesItems []
      (refundOrderItem auth req) := by
  apply follows_lift rfl
  intro _ _
  apply follows_lift rfl
  intro _ _
  apply follows_rateLimit
  intro tr hFresh hRow hNone
  apply follows_getOrder hFresh hRow hNone
  intro tr order hRead
  apply follows_isUserAdmin hRead
  intro tr isAdmin hRead _
  have hWrote := hRead.fresh.wrote
  cases hFind :
      order.items.find?
        (fun it => it.productId = req.productId) with
  | none => exact Or.inr hWrote
  | some item =>
    apply follows_require hWrote
    intro _
    apply follows_require hWrote
    intro _
    apply follows_require hWrote
    intro _
    split_ifs
    · exact Or.inr hWrote
    · apply follows_bind (inert_returnWindowClosed ..)
      intro tr' closed hExtends
      have hNow := hRead.extends hExtends
      apply follows_require hNow.fresh.wrote
      intro _
      apply follows_lift hNow.fresh.wrote
      intro amount _
      exact follows_performRefund hNow hFind auth.userId
        amount

--------
-- Cancellation
--------

variable {tr : Trace}

/- A payment that Stripe did not release. -/
theorem follows_quarantine
    {α : Type}
    {changes : α → Bool}
    {auth : AuthContext}
    {req : CancelOrderRequest}
    {order : Order}
    (hRead : HasRead tr req.orderId order)
    (hStatus : cancellable order.status = true)
    (e : Error) :
    Follows (.cancel auth req) changes tr
      (quarantine req.orderId e) := by
  refine ⟨Or.inr (Writes.quarantine hRead hStatus), ?_⟩
  intro a r _
  exact Or.inr hRead.fresh.wrote

theorem follows_finishCancel
    {auth : AuthContext}
    {req : CancelOrderRequest}
    {order : Order}
    {paymentStatus : String}
    (hRead : HasRead tr req.orderId order)
    (hStatus : cancellable order.status = true)
    (hReleased : Released req order tr paymentStatus)
    (userId : String) :
    Follows (.cancel auth req) (fun _ => false) tr
      (finishCancel req userId order paymentStatus) := by
  apply follows_casOrder
    (Writes.cancel hRead hStatus hReleased)
    hRead.fresh.wrote
  · intro tr' hWrote
    have hNone : wrote tr' = false := hWrote
    cases hFlag : order.stockRestored with
    | true =>
      apply follows_log
      exact hNone
    | false =>
      apply Prog.Along.bind
        (along_restoreItems rfl order.items)
      rintro tr'' r ⟨hSame, hEnds⟩
      cases r with
      | error e => exact Or.inl (hEnds e rfl)
      | ok u =>
        apply follows_log
        exact hSame.trans hNone
  · intro tr' hWrote
    exact Or.inr hWrote

theorem follows_cancelOrder
    (auth : AuthContext)
    (req : CancelOrderRequest) :
    Follows (.cancel auth req) (fun _ => false) []
      (cancelOrder auth req) := by
  apply follows_lift rfl
  intro userId _
  apply follows_lift rfl
  intro _ _
  apply follows_rateLimit
  intro tr hFresh hRow hNone
  apply follows_getOrder hFresh hRow hNone
  intro tr order hRead
  have hWrote := hRead.fresh.wrote
  apply follows_require hWrote
  intro _
  apply follows_require hWrote
  intro _
  apply follows_require hWrote
  intro _
  apply follows_require hWrote
  intro hStatus
  apply follows_require hWrote
  intro _
  unfold releasePayment
  split_ifs with hCaptured hAuthorized
  · have hInert :
        (Op.stripeRefund order.paymentIntentId none
          ("refund_" ++ req.orderId)).Inert := trivial
    refine ⟨Or.inl hInert, ?_⟩
    intro a r _
    cases r with
    | error e =>
      exact follows_quarantine (hRead.cons hInert) hStatus e
    | ok refundId =>
      exact follows_finishCancel (hRead.cons hInert) hStatus
        (.refunded hCaptured.1 hCaptured.2
          List.mem_cons_self)
        userId
  · have hInert :
        (Op.stripeCancelPi order.paymentIntentId).Inert :=
      trivial
    refine ⟨Or.inl hInert, ?_⟩
    intro a r _
    cases r with
    | error e =>
      exact follows_quarantine (hRead.cons hInert) hStatus e
    | ok u =>
      exact follows_finishCancel (hRead.cons hInert) hStatus
        (.released hAuthorized.1 hAuthorized.2
          List.mem_cons_self)
        userId
  · apply follows_finishCancel hRead hStatus (.none ?_)
    intro hPaid
    by_contra hIntent
    rcases hPaid with h | h
    · exact hCaptured ⟨h, hIntent⟩
    · exact hAuthorized ⟨h, hIntent⟩

--------
-- All Requests
--------

namespace OrderReply

/- The request says that it changed items. -/
def changesItems : OrderReply → Bool
  | .refundItem r => r.changesItems
  | .cancel _ => false
  | .confirmReceipt r => r.changesItems
  | .setOrderStatus r => r.changesItems
  | .setItemStatus r => r.changesItems

end OrderReply

theorem Follows.map
    {α β : Type}
    {call : OrderCall}
    {changes : α → Bool}
    {changes' : β → Bool}
    {p : Handler α}
    {f : α → β}
    {tr : Trace}
    (hFollows : Follows call changes tr p)
    (hSame : ∀ a, changes' (f a) = changes a) :
    Follows call changes' tr (p.map (Except.map f)) := by
  apply Prog.Along.bind hFollows
  intro tr' r hReported
  cases r with
  | error e => exact hReported
  | ok a =>
    rcases hReported with hFaulty | hWrote
    · exact Or.inl hFaulty
    · exact Or.inr (hWrote.trans (hSame a).symm)

/- Every request stays within its writes. -/
theorem follows_handler (call : OrderCall) :
    Follows call OrderReply.changesItems [] call.handler := by
  cases call with
  | refundItem auth req =>
    exact (follows_refundOrderItem auth req).map
      (fun _ => rfl)
  | cancel auth req =>
    exact (follows_cancelOrder auth req).map (fun _ => rfl)
  | confirmReceipt auth req =>
    exact (follows_confirmItemReceipt auth req).map
      (fun _ => rfl)
  | setOrderStatus auth req =>
    exact (follows_updateOrderStatus auth req).map
      (fun _ => rfl)
  | setItemStatus auth req =>
    exact (follows_updateItemStatus auth req).map
      (fun _ => rfl)

variable {cond : StepCond Op.Res Answer Store}
variable {calls : List OrderCall} {w₀ : Store}
variable {c : OrderRun}

/- In every run, all requests do. -/
theorem follows_run
    (hReach :
      Reach exec cond
        (Config.start w₀ (calls.map OrderCall.handler)) c) :
    ∀ (i : Nat) t, c.threads[i]? = some t →
      ∃ call, calls[i]? = some call ∧
        Follows call OrderReply.changesItems t.trace
          t.prog := by
  apply Reach.along ?_ ?_ hReach
  · intro tr o a w _
    exact ⟨w, rfl⟩
  · intro call _
    exact follows_handler call

/- Without failed statements no past has one. -/
theorem not_faulty_run
    (hCond :
      ∀ tr o a w, cond tr o a w → LocalOk tr o a w)
    (hReach :
      Reach exec cond
        (Config.start w₀ (calls.map OrderCall.handler)) c)
    {t : Thread Op.Res Answer (Except Error OrderReply)}
    (hThread : t ∈ c.threads) :
    ¬ Faulty t.trace := by
  rintro ⟨e, hMem, hFault⟩
  have hOk :=
    hReach.events (P := fun e =>
      (e.op.isRemote || !e.ans.fault) = true) hCond t
      hThread e hMem
  rw [hFault] at hOk
  exact Bool.false_ne_true hOk

/- What the thread that steps may do. -/
theorem may_of_thread
    {tr : Trace}
    {o : Op}
    {k : o.Res → Handler OrderReply}
    {i : Nat}
    (hReach :
      Reach exec cond
        (Config.start w₀ (calls.map OrderCall.handler)) c)
    (hThread : c.threads[i]? = some ⟨tr, .call o k⟩) :
    ∃ call, calls[i]? = some call ∧ May call tr o := by
  rcases follows_run hReach i _ hThread with
    ⟨call, hCall, hFollows⟩
  exact ⟨call, hCall, hFollows.1⟩

end Orignabase
