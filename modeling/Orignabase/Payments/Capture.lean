import Orignabase.Store.Api

/-
  The capture of an authorised payment
  (`ob-handlers/src/payments/capture.rs`).

  Key definitions include:
    * `resolvePaymentIntent`
    * `capturePayment`
-/

namespace Orignabase

open Conc Handler

structure CapturePaymentRequest where
  orderId : String
  userId : String := ""
  deriving DecidableEq, Repr

structure CapturePaymentResponse where
  success : Bool
  orderId : String
  paymentStatus : String
  orderStatus : String
  deriving DecidableEq, Repr

/- The seller of the first item stands for the order. -/
def Order.firstSeller (order : Order) : String :=
  (order.items.head?.bind (·.sellerId)).getD ""

/- A blank seller or buyer on record lets everybody in. -/
def mayCapture
    (auth : AuthContext)
    (userId : String)
    (order : Order) : Bool :=
  !((order.firstSeller ≠ "" && order.firstSeller ≠ userId) &&
    (order.buyerId ≠ "" && order.buyerId ≠ userId) &&
    !auth.roles.contains "admin")

/- The payment intent of the order, or of its session. -/
def resolvePaymentIntent (order : Order) :
    Handler String :=
  if order.paymentIntentId = "" then
    require (order.checkoutSessionId ≠ "") (.internal
        "Order has no payment intent or checkout session") <|
    andThen
      (mapErr (Db.getCheckoutSession order.checkoutSessionId)
        (fun _ =>
          .internal "Failed to fetch checkout session"))
      fun pi =>
    require (pi ≠ "")
      (.internal "Checkout session has no payment intent")
      (ok pi)
  else ok order.paymentIntentId

/- Capture at Stripe, then write the order. -/
def captureIntent
    (req : CapturePaymentRequest)
    (pi : String) : Handler CapturePaymentResponse :=
  andThen
    (mapErr (Db.stripeCapture pi (req.orderId ++ "_capture"))
      (fun _ =>
        .internal "Failed to capture payment with Stripe"))
    fun stripeStatus =>
  require (stripeStatus = "succeeded") (.internal
      ("Payment capture returned status: " ++
        stripeStatus)) <|
  andThen (context (Db.updateOrder req.orderId
        { orderStatus := some OrderStatus.processing.asStr
          paymentStatus := some "captured"
          paymentIntentId := some pi })
      "Failed to update order: ") fun _ =>
  ok ⟨true, req.orderId, "captured",
    OrderStatus.processing.asStr⟩

/- `POST /api/payments/capture` -/
def capturePayment
    (auth : AuthContext)
    (req : CapturePaymentRequest) :
    Handler CapturePaymentResponse :=
  andThen (lift (validateUid "orderId" req.orderId))
    fun _ =>
  andThen (lift (resolveSelfUserId auth req.userId "userId"))
    fun userId =>
  andThen (lift (validateUid "userId" userId)) fun _ =>
  andThen (Db.rateLimit userId "capture_payment") fun _ =>
  andThen (mapErr (Db.getOrder req.orderId) (fun _ =>
        .notFound ("Order " ++ req.orderId ++ " not found")))
    fun order =>
  require (mayCapture auth userId order) (.forbidden
      ("Only the buyer, seller, or admin can capture " ++
        "payment for this order")) <|
  require
    (order.status = OrderStatus.paymentAuthorized.asStr ||
      order.status =
        OrderStatus.awaitingShippingApproval.asStr)
    (.validation
      ("Cannot capture payment for order in status '" ++
        order.status ++ "'. Expected confirmed or " ++
        "awaiting_shipping_approval")) <|
  require (order.paymentStatus = "authorized") (.validation
      ("Cannot capture payment with payment status '" ++
        order.paymentStatus ++ "'")) <|
  andThen (resolvePaymentIntent order) fun pi =>
  captureIntent req pi

end Orignabase
