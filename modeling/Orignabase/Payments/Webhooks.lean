import Orignabase.Store.Api

/-
  The webhook of the payment provider and its handlers for
  payment intents and checkout sessions
  (`ob-handlers/src/payments/webhooks.rs`).

  Key definitions include:
    * `StripeWebhookEvent`
    * `restoreStockForOrder`
    * `routeEvent`
    * `handleStripeWebhook`
-/

--------
-- Events
--------

namespace Orignabase

/-
  The event types of payment intents and checkout sessions.
  Those without a handler are accepted and ignored.
-/
inductive EventType
  | paymentIntentSucceeded
  | paymentIntentFailed
  | paymentIntentCanceled
  | checkoutSessionCompleted
  | checkoutSessionExpired
  | asyncPaymentSucceeded
  | asyncPaymentFailed
  | unhandled
  deriving DecidableEq, Repr

/- Types of other objects belong to other handlers. -/
def EventType.parse (text : String) : Option EventType :=
  match text with
  | "payment_intent.succeeded" => some paymentIntentSucceeded
  | "payment_intent.payment_failed" =>
    some paymentIntentFailed
  | "payment_intent.canceled" => some paymentIntentCanceled
  | "checkout.session.completed" =>
    some checkoutSessionCompleted
  | "checkout.session.expired" => some checkoutSessionExpired
  | "checkout.session.async_payment_succeeded" =>
    some asyncPaymentSucceeded
  | "checkout.session.async_payment_failed" =>
    some asyncPaymentFailed
  | _ =>
    if (Text.stripPrefix "payment_intent." text).isSome ||
        (Text.stripPrefix "checkout.session." text).isSome
    then some unhandled
    else none

structure Metadata where
  orderId : Option String := none
  couponCode : Option String := none
  deriving DecidableEq, Repr

/- The payment intent or session of an event. -/
structure EventObject where
  id : Option String := none
  paymentIntent : Option String := none
  metadata : Option Metadata := none
  deriving DecidableEq, Repr

structure StripeWebhookEvent where
  id : String
  type : EventType
  object : Option EventObject
  deriving DecidableEq, Repr

/- What the handlers take from an event. -/
structure EventData where
  objectId : String
  paymentIntentId : String
  orderId : String
  couponCode : String
  deriving DecidableEq, Repr

/- The checks of an event, with the texts of the object. -/
def eventData
    (noId noMetadata : String)
    (object : Option EventObject) : Except Error EventData :=
  match object with
  | none => .error (.validation "No object in event data")
  | some object =>
    match object.id with
    | none => .error (.validation noId)
    | some objectId =>
      match object.metadata with
      | none => .error (.validation noMetadata)
      | some metadata =>
        match metadata.orderId with
        | none =>
          .error (.validation "No order_id in metadata")
        | some orderId =>
          .ok
            { objectId
              paymentIntentId :=
                object.paymentIntent.getD ""
              orderId
              couponCode := metadata.couponCode.getD "" }

def paymentIntentData :
    Option EventObject → Except Error EventData :=
  eventData "No payment intent ID"
    "No metadata in payment intent"

def checkoutSessionData :
    Option EventObject → Except Error EventData :=
  eventData "No session ID" "No metadata in checkout session"

--------
-- Parts Of The Handlers
--------

open Conc Handler

def findOrderByMetadataId (orderId : String) :
    Handler Order :=
  andThen (Db.findOrder orderId) fun row =>
  match row with
  | some order => ok order
  | none =>
    fail (.notFound ("Order " ++ orderId ++ " not found"))

/- A product that cannot be read has no stock. -/
def readStock :
    Except Error Product → Int
  | .ok product => product.stock
  | .error _ => 0

/- The attempts to restore one item. -/
def restoreAttempts
    (productId : String)
    (quantity : Int) : Nat → Handler Bool
  | 0 => ok false
  | attempts + 1 =>
    (Db.getProduct productId).bind fun r =>
    let currentStock := readStock r
    andThen
      (Db.casProduct productId (currentStock + quantity)
        currentStock) fun restored =>
    if restored then ok true
    else restoreAttempts productId quantity attempts

/- An item whose stock is restored, digital or not. -/
def Item.isRestored (item : Item) : Bool :=
  item.productId ≠ "" && item.qty > 0

/- `restore_stock_for_order`, for the items it still has. -/
def restoreStockForOrder : List Item → Handler Unit
  | [] => ok ()
  | item :: rest =>
    if item.isRestored then
      andThen (restoreAttempts item.productId item.qty 3)
        fun restored =>
      require restored
        (.database
          ("Failed to restore stock for product " ++
            item.productId)) <|
      restoreStockForOrder rest
    else restoreStockForOrder rest

/- `upper` is the upper-casing of the coupon codes. -/
def markCouponRedeemed
    (upper : String → String)
    (orderId couponCode : String) : Handler Unit :=
  if couponCode = "" then ok ()
  else
    Db.utcNow.bind fun now =>
    Db.redeemCoupon orderId (upper couponCode) now

/- A reservation that cannot be released is only logged. -/
def releaseCouponReservation (orderId : String) :
    Handler Unit :=
  (Db.releaseCoupon orderId).bind fun _ => ok ()

/- The mails of a paid order; a failure is only logged. -/
def sendPaymentAuthorizedEmails (orderId : String) :
    Handler Unit :=
  (Db.notify orderId).bind fun _ => ok ()

--------
-- Handlers
--------

/-
  Confirm an order that was read as pending, and go on if it
  still was.
-/
def confirmOrder
    (orderId : String)
    (order : Order)
    (next : Handler Unit) : Handler Unit :=
  if order.status ≠ OrderStatus.pendingPayment.asStr then
    ok ()
  else
    andThen (Db.setOrderStatus orderId
        OrderStatus.pendingPayment.asStr
        OrderStatus.paymentAuthorized.asStr) fun updated =>
    if !updated then ok () else next

/- `payment_intent.succeeded` -/
def handlePaymentIntentSucceeded
    (upper : String → String)
    (object : Option EventObject) : Handler Unit :=
  andThen (lift (paymentIntentData object)) fun e =>
  andThen (findOrderByMetadataId e.orderId) fun order =>
  confirmOrder e.orderId order <|
  andThen (Db.setPaymentColumns e.orderId e.objectId)
    fun _ =>
  andThen (markCouponRedeemed upper e.orderId e.couponCode)
    fun _ =>
  sendPaymentAuthorizedEmails e.orderId

/- `checkout.session.completed` -/
def handleCheckoutSessionCompleted
    (upper : String → String)
    (object : Option EventObject) : Handler Unit :=
  andThen (lift (checkoutSessionData object)) fun e =>
  andThen (findOrderByMetadataId e.orderId) fun order =>
  confirmOrder e.orderId order <|
  andThen (Db.setCheckoutSession e.orderId e.paymentIntentId
      e.objectId) fun _ =>
  andThen (markCouponRedeemed upper e.orderId e.couponCode)
    fun _ =>
  (if order.buyerId ≠ "" then Db.clearCart order.buyerId
    else ok ()).bind fun _ =>
  sendPaymentAuthorizedEmails e.orderId

/- `checkout.session.async_payment_succeeded` -/
def handleCheckoutSessionAsyncPaymentSucceeded
    (upper : String → String)
    (object : Option EventObject) : Handler Unit :=
  handleCheckoutSessionCompleted upper object

/-
  Give the order up if it was read as pending, whether or not
  the status could be written.
-/
def giveUp
    (newStatus : OrderStatus)
    (orderId : String)
    (order : Order) : Handler Unit :=
  if order.status = OrderStatus.pendingPayment.asStr then
    andThen (Db.setOrderStatus orderId
        OrderStatus.pendingPayment.asStr newStatus.asStr)
      fun _ => restoreStockForOrder order.items
  else ok ()

/- Give a pending order up and release its coupon. -/
def giveUpOrder
    (newStatus : OrderStatus)
    (orderId : String) : Handler Unit :=
  andThen (findOrderByMetadataId orderId) fun order =>
  andThen (giveUp newStatus orderId order) fun _ =>
  releaseCouponReservation orderId

/- `payment_intent.payment_failed` -/
def handlePaymentIntentFailed
    (object : Option EventObject) : Handler Unit :=
  andThen (lift (paymentIntentData object)) fun e =>
  giveUpOrder .cancelled e.orderId

/- `payment_intent.canceled` -/
def handlePaymentIntentCanceled
    (object : Option EventObject) : Handler Unit :=
  andThen (lift (paymentIntentData object)) fun e =>
  giveUpOrder .cancelled e.orderId

/- `checkout.session.expired` -/
def handleCheckoutSessionExpired
    (object : Option EventObject) : Handler Unit :=
  andThen (lift (checkoutSessionData object)) fun e =>
  giveUpOrder .expired e.orderId

/- The status of a failed payment; no stock is restored. -/
def markFailed (orderId : String) (order : Order) :
    Handler Unit :=
  if order.status = OrderStatus.pendingPayment.asStr then
    andThen (Db.setOrderStatus orderId
        OrderStatus.pendingPayment.asStr
        OrderStatus.failed.asStr) fun _ => ok ()
  else ok ()

def failPayment (orderId : String) : Handler Unit :=
  andThen (findOrderByMetadataId orderId) fun order =>
  andThen (markFailed orderId order) fun _ =>
  releaseCouponReservation orderId

/- `checkout.session.async_payment_failed` -/
def handleCheckoutSessionAsyncPaymentFailed
    (object : Option EventObject) : Handler Unit :=
  andThen (lift (checkoutSessionData object)) fun e =>
  failPayment e.orderId

def routeEvent
    (upper : String → String)
    (event : StripeWebhookEvent) : Handler Unit :=
  match event.type with
  | .paymentIntentSucceeded =>
    handlePaymentIntentSucceeded upper event.object
  | .paymentIntentFailed =>
    handlePaymentIntentFailed event.object
  | .paymentIntentCanceled =>
    handlePaymentIntentCanceled event.object
  | .checkoutSessionCompleted =>
    handleCheckoutSessionCompleted upper event.object
  | .checkoutSessionExpired =>
    handleCheckoutSessionExpired event.object
  | .asyncPaymentSucceeded =>
    handleCheckoutSessionAsyncPaymentSucceeded upper
      event.object
  | .asyncPaymentFailed =>
    handleCheckoutSessionAsyncPaymentFailed event.object
  | .unhandled => ok ()

/- The first delivery of an event stores its id. -/
def tryStoreWebhookEventAtomic
    (event : StripeWebhookEvent) : Handler Bool :=
  require (event.id ≠ "" && event.id.utf8ByteSize ≤ 512)
    (.validation "Invalid webhook event ID") <|
  Db.createWebhookEvent event.id

inductive WebhookReply
  | ok
  | duplicate
  deriving DecidableEq, Repr

/-
  The reply to a delivery.  A failed handler takes the stored
  id back, so that the event is delivered again.
-/
def finishDelivery (event : StripeWebhookEvent) :
    Except Error Unit → Handler WebhookReply
  | .ok _ => ok .ok
  | .error e =>
    (Db.deleteWebhookEvent event.id).bind fun _ => fail e

/- One delivery of a verified event. -/
def handleStripeWebhook
    (upper : String → String)
    (event : StripeWebhookEvent) : Handler WebhookReply :=
  andThen (tryStoreWebhookEventAtomic event) fun isNew =>
  if !isNew then ok .duplicate
  else
    (routeEvent upper event).bind (finishDelivery event)

end Orignabase
