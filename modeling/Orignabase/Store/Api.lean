import Orignabase.Core.Validate
import Orignabase.Lib.Prog
import Orignabase.Lib.Table
import Orignabase.Store.Documents

/-
  The statements and remote calls of the order handlers, each
  one atomic step on the shared store
  (`ob-database/src/pg_store.rs`, `update_document_cas` and
  the SQL of `webhooks.rs`).

  Key definitions include:
    * `Store`
    * `Op`
    * `Answer`
    * `exec`
    * `Handler`
-/

--------
-- The Store
--------

namespace Orignabase

/- A refund that Stripe carried out. -/
structure Refund where
  key : String
  paymentIntentId : String
  amountCents : Option Int
  deriving DecidableEq, Repr

/- A capture that Stripe carried out. -/
structure Capture where
  key : String
  paymentIntentId : String
  deriving DecidableEq, Repr

/- The database and the payments it stands for. -/
structure Store where
  orders : Table Order := ⟨[]⟩
  products : Table Product := ⟨[]⟩
  users : Table User := ⟨[]⟩
  couponUses : List CouponUse := []
  webhookEvents : List String := []
  refundRecords : Table RefundRecord := ⟨[]⟩
  returnRequests : Table ReturnRequest := ⟨[]⟩
  refunds : List Refund := []
  cancelledIntents : List String := []
  captures : List Capture := []
  deriving DecidableEq, Repr

/- A record id without its collection in front. -/
def docId (collection id : String) : String :=
  (Text.stripPrefix (collection ++ ":") id).getD id

namespace Store

def order? (s : Store) (id : String) : Option Order :=
  s.orders.get (docId "orders" id)

def product? (s : Store) (id : String) : Option Product :=
  s.products.get (docId "products" id)

def modifyOrder
    (s : Store)
    (id : String)
    (f : Order → Order) : Store :=
  { s with orders := s.orders.modify (docId "orders" id) f }

def setStock (s : Store) (id : String) (stock : Int) :
    Store :=
  { s with
    products := s.products.modify (docId "products" id)
        (fun p => { p with stockQuantity := some stock }) }

/- The row that `find_order_by_metadata_id` selects. -/
def findOrder (s : Store) (orderId : String) :
    Option Order :=
  let orderKey := docId "orders" orderId
  (s.orders.rows.find? (fun row =>
    row.1 = orderKey || row.1 = orderId ||
      row.2.orderId = orderKey)).map (·.2)

end Store

--------
-- Operations
--------

/- The field a compare-and-set update of an order tests. -/
inductive OrderGuard
  | status (expected : String)
  | cumulative (expected : Int)
  deriving DecidableEq, Repr

/- A missing field is NULL and never matches. -/
def OrderGuard.holds (guard : OrderGuard) (order : Order) :
    Bool :=
  match guard with
  | .status expected => order.orderStatus = some expected
  | .cumulative expected =>
    order.cumulativeRefundedCents = some expected

inductive Op
  | rateLimit (userId action : String)
  | utcNow
  | returnWindowExpired (deliveredAt : String)
  | getUser (id : String)
  | getOrder (id : String)
  | updateOrder (id : String) (patch : OrderPatch)
  | casOrder
      (id : String)
      (patch : OrderPatch)
      (guard : OrderGuard)
  | getProduct (id : String)
  | casProduct (id : String) (stock expected : Int)
  | revokeLicenses (orderId productId : String)
  | createOrderEvent (orderId userId eventType : String)
  | notify (orderId : String)
  | stripeRefund
      (paymentIntentId : String)
      (amountCents : Option Int)
      (key : String)
  | stripeCancelPi (paymentIntentId : String)
  | createWebhookEvent (id : String)
  | deleteWebhookEvent (id : String)
  | findOrder (orderId : String)
  | setOrderStatus (id expected new : String)
  | setPaymentColumns (id paymentIntentId : String)
  | setCheckoutSession
      (id paymentIntentId sessionId : String)
  | redeemCoupon (orderId couponCode now : String)
  | releaseCoupon (orderId : String)
  | clearCart (buyerId : String)
  | findOrderByIntent (paymentIntentId : String)
  | setRefundColumn (id refundId : String)
  | upsertRefundRecord (id : String) (record : RefundRecord)
  | refundRecords (paymentIntentId : String)
  | getCheckoutSession (sessionId : String)
  | stripeCapture (paymentIntentId key : String)
  | newId
  | findReturn (orderId productId buyerId : String)
  | createReturn (doc : ReturnRequest)
  | getReturn (id : String)
  | setReturnStatus
      (id status : String)
      (refundAmountCents : Option Int)
  | acquireCronLock (job : String)
  | releaseCronLock (job : String)
  | alertCronFailure (job : String)
  | expiredOrders
  | addStock (productId : String) (quantity : Int)
  | staleReturns
  deriving DecidableEq, Repr

namespace Op

def Res : Op → Type
  | .rateLimit .. => Except Error Unit
  | .utcNow => String
  | .returnWindowExpired .. => Bool
  | .getUser .. => Except Error User
  | .getOrder .. => Except Error Order
  | .updateOrder .. => Except Error Unit
  | .casOrder .. => Except Error Bool
  | .getProduct .. => Except Error Product
  | .casProduct .. => Except Error Bool
  | .revokeLicenses .. => Except Error Unit
  | .createOrderEvent .. => Except Error Unit
  | .notify .. => Except Error Unit
  | .stripeRefund .. => Except Error (Option String)
  | .stripeCancelPi .. => Except Error Unit
  | .createWebhookEvent .. => Except Error Bool
  | .deleteWebhookEvent .. => Except Error Unit
  | .findOrder .. => Except Error (Option Order)
  | .setOrderStatus .. => Except Error Bool
  | .setPaymentColumns .. => Except Error Unit
  | .setCheckoutSession .. => Except Error Unit
  | .redeemCoupon .. => Except Error Unit
  | .releaseCoupon .. => Except Error Unit
  | .clearCart .. => Except Error Unit
  | .findOrderByIntent .. =>
    Except Error (Option (String × Order))
  | .setRefundColumn .. => Except Error Unit
  | .upsertRefundRecord .. => Except Error Unit
  | .refundRecords .. => Except Error (List RefundRecord)
  | .getCheckoutSession .. => Except Error String
  | .stripeCapture .. => Except Error String
  | .newId => String
  | .findReturn .. => Except Error (Option ReturnRequest)
  | .createReturn .. => Except Error Unit
  | .getReturn .. => Except Error ReturnRequest
  | .setReturnStatus .. => Except Error Unit
  | .acquireCronLock .. => Bool
  | .releaseCronLock .. => Except Error Unit
  | .alertCronFailure .. => Except Error Unit
  | .expiredOrders => Except Error (List (String × Order))
  | .addStock .. => Except Error Unit
  | .staleReturns =>
    Except Error (List (String × ReturnRequest))

end Op

/-
  What the environment decides about one step.  `due` are the
  rows that a job finds old enough, `pick` is the row that a
  query for one row returns, `reply` the text of a remote
  answer.
-/
structure Answer where
  fault : Bool := false
  allowed : Bool := true
  expired : Bool := false
  now : String := ""
  refundId : Option String := none
  newId : String := ""
  reply : String := ""
  due : List String := []
  pick : Nat := 0
  deriving DecidableEq, Repr

def Error.fault : Error := .database "Query failed"

/- A statement that fails leaves the store as it was. -/
def Answer.guard
    {α : Type}
    (a : Answer)
    (w : Store)
    (result : Except Error α × Store) :
    Except Error α × Store :=
  if a.fault then (.error .fault, w) else result

def exec : Conc.Exec Op.Res Answer Store
  | .rateLimit .., a, w =>
    a.guard w
      (if a.allowed then .ok ()
      else .error (.validation
        "Rate limit exceeded. Please try again later."), w)
  | .utcNow, a, w => (a.now, w)
  | .returnWindowExpired .., a, w => (a.expired, w)
  | .getUser id, a, w =>
    a.guard w
      (match w.users.get (docId "users" id) with
      | some user => .ok user
      | none => .error (.notFound "not found"), w)
  | .getOrder id, a, w =>
    a.guard w
      (match w.order? id with
      | some order => .ok order
      | none => .error (.notFound "not found"), w)
  | .updateOrder id patch, a, w =>
    a.guard w
      (match w.order? id with
      | some _ => (.ok (), w.modifyOrder id patch.apply)
      | none => (.error (.notFound "not found"), w))
  | .casOrder id patch guard, a, w =>
    a.guard w
      (if (w.order? id).any guard.holds then
        (.ok true, w.modifyOrder id patch.apply)
      else (.ok false, w))
  | .getProduct id, a, w =>
    a.guard w
      (match w.product? id with
      | some product => .ok product
      | none => .error (.notFound "not found"), w)
  | .casProduct id stock expected, a, w =>
    a.guard w
      (if (w.product? id).any
          (fun p => p.stockQuantity = some expected) then
        (.ok true, w.setStock id stock)
      else (.ok false, w))
  | .revokeLicenses .., a, w => a.guard w (.ok (), w)
  | .createOrderEvent .., a, w => a.guard w (.ok (), w)
  | .notify .., a, w => a.guard w (.ok (), w)
  | .stripeRefund pi amount key, a, w =>
    -- A key that was used before moves no money again.
    a.guard w
      (.ok a.refundId,
        if w.refunds.any (fun r => r.key = key) then w
        else
          { w with
            refunds := w.refunds ++ [⟨key, pi, amount⟩] })
  | .stripeCancelPi pi, a, w =>
    a.guard w
      (.ok (),
        { w with
          cancelledIntents := w.cancelledIntents ++ [pi] })
  | .createWebhookEvent id, a, w =>
    a.guard w
      (if w.webhookEvents.contains id then (.ok false, w)
      else
        (.ok true,
          { w with
            webhookEvents := w.webhookEvents ++ [id] }))
  | .deleteWebhookEvent id, a, w =>
    let key := docId "webhook_events" id
    a.guard w
      (if w.webhookEvents.contains key then
        (.ok (),
          { w with
            webhookEvents :=
              w.webhookEvents.filter (· ≠ key) })
      else (.error (.notFound "not found"), w))
  | .findOrder orderId, a, w =>
    a.guard w (.ok (w.findOrder orderId), w)
  | .setOrderStatus id expected new, a, w =>
    a.guard w
      (if (w.orders.get id).any
          (fun o => o.orderStatus.getD "" = expected) then
        (.ok true,
          { w with
            orders := w.orders.modify id (fun o =>
                { o with orderStatus := some new }) })
      else (.ok false, w))
  | .setPaymentColumns .., _, w =>
    -- The table has no such columns.
    (.error (.database
      ("Query failed: column paymentintentid of " ++
        "relation orders does not exist")), w)
  | .setCheckoutSession id pi session, a, w =>
    a.guard w
      (.ok (),
        { w with
          orders := w.orders.modify id (fun o =>
            { o with
              paymentIntentId := pi
              checkoutSessionId := session }) })
  | .redeemCoupon orderId code now, a, w =>
    a.guard w
      (.ok (),
        { w with
          couponUses := w.couponUses.map (fun c =>
            if c.orderId = orderId ∧ c.couponCode = code
            then { c with redeemedAt := some now }
            else c) })
  | .releaseCoupon orderId, a, w =>
    a.guard w
      (.ok (),
        { w with
          couponUses := w.couponUses.filter (fun c =>
            ¬ (c.orderId = orderId ∧
              c.redeemedAt = none)) })
  | .clearCart .., a, w => a.guard w (.ok (), w)
  | .findOrderByIntent pi, a, w =>
    a.guard w
      (.ok (w.orders.rows.find? (fun row =>
        row.2.paymentIntentId = pi)), w)
  | .setRefundColumn .., _, w =>
    -- The table has no such column.
    (.error (.database
      ("Query failed: column refundid of " ++
        "relation orders does not exist")), w)
  | .upsertRefundRecord id record, a, w =>
    a.guard w
      (.ok (),
        { w with
          refundRecords :=
            w.refundRecords.upsert (docId "refunds" id)
              record })
  | .refundRecords pi, a, w =>
    a.guard w
      (.ok ((w.refundRecords.rows.map (·.2)).filter
        (fun r => r.paymentIntentId = pi)), w)
  | .getCheckoutSession .., a, w => a.guard w (.ok a.reply, w)
  | .stripeCapture pi key, a, w =>
    -- A key that was used before repeats its result.
    a.guard w
      (if w.captures.contains ⟨key, pi⟩ then
        (.ok "succeeded", w)
      else
        (.ok a.reply,
          if a.reply = "succeeded" then
            { w with
              captures := w.captures ++ [⟨key, pi⟩] }
          else w))
  | .newId, a, w => (a.newId, w)
  | .findReturn orderId productId buyerId, a, w =>
    a.guard w
      (.ok ((w.returnRequests.rows.map (·.2)).filter
        (fun r =>
          r.orderId = orderId && r.productId = productId &&
            r.buyerId = buyerId))[a.pick]?, w)
  | .createReturn doc, a, w =>
    a.guard w
      (if (w.returnRequests.get a.newId).isSome then
        (.error (.validation
          ("Document already exists in collection " ++
            "return_requests: " ++ a.newId)), w)
      else
        (.ok (),
          { w with
            returnRequests :=
              w.returnRequests.insert a.newId doc }))
  | .getReturn id, a, w =>
    a.guard w
      (match w.returnRequests.get
            (docId "return_requests" id) with
      | some doc => .ok doc
      | none => .error (.notFound "not found"), w)
  | .setReturnStatus id status amount, a, w =>
    let key := docId "return_requests" id
    a.guard w
      (if (w.returnRequests.get key).isSome then
        (.ok (),
          { w with
            returnRequests :=
              w.returnRequests.modify key (fun r =>
                { r with
                  returnStatus := status
                  returnRefundAmountCents := amount.or
                      r.returnRefundAmountCents }) })
      else (.error (.notFound "not found"), w))
  | .acquireCronLock .., a, w => (a.allowed, w)
  | .releaseCronLock .., a, w => a.guard w (.ok (), w)
  | .alertCronFailure .., a, w => a.guard w (.ok (), w)
  | .expiredOrders, a, w =>
    a.guard w
      (.ok (w.orders.rows.filter (fun row =>
        ["authorized", "awaiting_payment"].contains
            row.2.paymentStatus &&
          ["pending", "confirmed"].contains row.2.status &&
          a.due.contains row.1)), w)
  | .addStock id quantity, a, w =>
    a.guard w
      (.ok (),
        { w with
          products := w.products.modify id (fun p =>
            { p with
              stockQuantity :=
                some (p.stock + quantity) }) })
  | .staleReturns, a, w =>
    a.guard w
      (.ok (w.returnRequests.rows.filter (fun row =>
        row.2.returnStatus = "requested" &&
          a.due.contains row.1)), w)

/- A failed step leaves the store as it was. -/
theorem exec_fault
    {a : Answer}
    (o : Op)
    (hFault : a.fault = true)
    (w : Store) :
    (exec o a w).2 = w := by
  cases o <;> simp [exec, Answer.guard, hFault]

--------
-- Handlers
--------

open Conc

/- A handler: a program that may end in an error. -/
abbrev Handler (α : Type) :=
  Prog Op.Res (Except Error α)

namespace Handler

variable {O : Type} {R : O → Type} {α β : Type}

def ok (a : α) : Prog R (Except Error α) := .ret (.ok a)

def fail (e : Error) : Prog R (Except Error α) :=
  .ret (.error e)

/- Go on unless the first part ended in an error. -/
def andThen
    (p : Prog R (Except Error α))
    (f : α → Prog R (Except Error β)) :
    Prog R (Except Error β) :=
  p.bind (fun r =>
    match r with
    | .ok a => f a
    | .error e => fail e)

/- Replace the error, as `map_err` does. -/
def mapErr
    (p : Prog R (Except Error α))
    (f : Error → Error) : Prog R (Except Error α) :=
  p.bind (fun r =>
    match r with
    | .ok a => ok a
    | .error e => fail (f e))

/- A check that stops the handler. -/
def require
    (check : Bool)
    (e : Error)
    (next : Prog R (Except Error α)) :
    Prog R (Except Error α) :=
  if check then next else fail e

/- A validation without operations. -/
def lift (r : Except Error α) : Prog R (Except Error α) :=
  .ret r

/- A database error with the failed statement in front. -/
def context
    (p : Prog R (Except Error α))
    (message : String) : Prog R (Except Error α) :=
  mapErr p (fun e => .database (message ++ e.display))

end Handler

/- The operations as handlers. -/
namespace Db

abbrev rateLimit (userId action : String) : Handler Unit :=
  Prog.perform (Op.rateLimit userId action)

abbrev utcNow : Prog Op.Res String :=
  Prog.perform Op.utcNow

abbrev returnWindowExpired (deliveredAt : String) :
    Prog Op.Res Bool :=
  Prog.perform (Op.returnWindowExpired deliveredAt)

abbrev getUser (id : String) : Handler User :=
  Prog.perform (Op.getUser id)

abbrev getOrder (id : String) : Handler Order :=
  Prog.perform (Op.getOrder id)

abbrev updateOrder (id : String) (patch : OrderPatch) :
    Handler Unit :=
  Prog.perform (Op.updateOrder id patch)

abbrev casOrder
    (id : String)
    (patch : OrderPatch)
    (guard : OrderGuard) : Handler Bool :=
  Prog.perform (Op.casOrder id patch guard)

abbrev getProduct (id : String) : Handler Product :=
  Prog.perform (Op.getProduct id)

abbrev casProduct (id : String) (stock expected : Int) :
    Handler Bool :=
  Prog.perform (Op.casProduct id stock expected)

abbrev revokeLicenses (orderId productId : String) :
    Handler Unit :=
  Prog.perform (Op.revokeLicenses orderId productId)

abbrev createOrderEvent
    (orderId userId eventType : String) : Handler Unit :=
  Prog.perform (Op.createOrderEvent orderId userId eventType)

abbrev notify (orderId : String) : Handler Unit :=
  Prog.perform (Op.notify orderId)

abbrev stripeRefund
    (paymentIntentId : String)
    (amountCents : Option Int)
    (key : String) : Handler (Option String) :=
  Prog.perform
    (Op.stripeRefund paymentIntentId amountCents key)

abbrev stripeCancelPi (paymentIntentId : String) :
    Handler Unit :=
  Prog.perform (Op.stripeCancelPi paymentIntentId)

abbrev createWebhookEvent (id : String) : Handler Bool :=
  Prog.perform (Op.createWebhookEvent id)

abbrev deleteWebhookEvent (id : String) : Handler Unit :=
  Prog.perform (Op.deleteWebhookEvent id)

abbrev findOrder (orderId : String) :
    Handler (Option Order) :=
  Prog.perform (Op.findOrder orderId)

abbrev setOrderStatus (id expected new : String) :
    Handler Bool :=
  Prog.perform (Op.setOrderStatus id expected new)

abbrev setPaymentColumns (id paymentIntentId : String) :
    Handler Unit :=
  Prog.perform (Op.setPaymentColumns id paymentIntentId)

abbrev setCheckoutSession
    (id paymentIntentId sessionId : String) :
    Handler Unit :=
  Prog.perform
    (Op.setCheckoutSession id paymentIntentId sessionId)

abbrev redeemCoupon (orderId couponCode now : String) :
    Handler Unit :=
  Prog.perform (Op.redeemCoupon orderId couponCode now)

abbrev releaseCoupon (orderId : String) : Handler Unit :=
  Prog.perform (Op.releaseCoupon orderId)

abbrev clearCart (buyerId : String) : Handler Unit :=
  Prog.perform (Op.clearCart buyerId)

abbrev findOrderByIntent (paymentIntentId : String) :
    Handler (Option (String × Order)) :=
  Prog.perform (Op.findOrderByIntent paymentIntentId)

abbrev setRefundColumn (id refundId : String) :
    Handler Unit :=
  Prog.perform (Op.setRefundColumn id refundId)

abbrev upsertRefundRecord
    (id : String)
    (record : RefundRecord) : Handler Unit :=
  Prog.perform (Op.upsertRefundRecord id record)

abbrev refundRecords (paymentIntentId : String) :
    Handler (List RefundRecord) :=
  Prog.perform (Op.refundRecords paymentIntentId)

abbrev getCheckoutSession (sessionId : String) :
    Handler String :=
  Prog.perform (Op.getCheckoutSession sessionId)

abbrev stripeCapture (paymentIntentId key : String) :
    Handler String :=
  Prog.perform (Op.stripeCapture paymentIntentId key)

abbrev newId : Prog Op.Res String :=
  Prog.perform Op.newId

abbrev findReturn (orderId productId buyerId : String) :
    Handler (Option ReturnRequest) :=
  Prog.perform (Op.findReturn orderId productId buyerId)

abbrev createReturn (doc : ReturnRequest) : Handler Unit :=
  Prog.perform (Op.createReturn doc)

abbrev getReturn (id : String) : Handler ReturnRequest :=
  Prog.perform (Op.getReturn id)

abbrev setReturnStatus
    (id status : String)
    (refundAmountCents : Option Int) : Handler Unit :=
  Prog.perform
    (Op.setReturnStatus id status refundAmountCents)

abbrev acquireCronLock (job : String) : Prog Op.Res Bool :=
  Prog.perform (Op.acquireCronLock job)

abbrev releaseCronLock (job : String) : Handler Unit :=
  Prog.perform (Op.releaseCronLock job)

abbrev alertCronFailure (job : String) : Handler Unit :=
  Prog.perform (Op.alertCronFailure job)

abbrev expiredOrders : Handler (List (String × Order)) :=
  Prog.perform Op.expiredOrders

abbrev addStock (productId : String) (quantity : Int) :
    Handler Unit :=
  Prog.perform (Op.addStock productId quantity)

abbrev staleReturns :
    Handler (List (String × ReturnRequest)) :=
  Prog.perform Op.staleReturns

end Db

def validateUid (field value : String) :
    Except Error Unit :=
  if value = "" then
    .error (.validation (field ++ " cannot be empty"))
  else if value.utf8ByteSize > 128 then
    .error (.validation (field ++ " is too long"))
  else .ok ()

def validateString
    (field value : String)
    (maxLen : Nat) : Except Error Unit :=
  if value = "" then
    .error (.validation (field ++ " cannot be empty"))
  else if value.utf8ByteSize > maxLen then
    .error (.validation
      (field ++ " exceeds max length of " ++
        toString maxLen))
  else .ok ()

/- The caller of a request. -/
structure AuthContext where
  userId : String
  roles : List String := []
  authenticated : Bool := true
  deriving DecidableEq, Repr

def resolveSelfUserId
    (auth : AuthContext)
    (provided fieldName : String) : Except Error String :=
  if !auth.authenticated || auth.userId = "" then
    .error (.auth "Authentication required")
  else if provided ≠ "" && provided ≠ auth.userId then
    .error (.forbidden
      (fieldName ++ " must match the authenticated user"))
  else .ok auth.userId

/- A missing user record is not an administrator. -/
def isUserAdmin (userId : String) :
    Prog Op.Res Bool :=
  (Db.getUser userId).bind fun r =>
  match r with
  | .ok user => .ret (user.roles.contains "admin")
  | .error _ => .ret false

end Orignabase
