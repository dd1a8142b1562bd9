import Orignabase.Orders.Refunds

/-
  Return requests of buyers
  (`ob-handlers/src/orders/returns.rs` and the job
  `escalate_stale_return_requests` of
  `ob-handlers/src/cron/mod.rs`).

  Key definitions include:
    * `validReturnTransitions`
    * `createReturnRequest`
    * `approveReturnRequest`
    * `rejectReturnRequest`
    * `escalateReturnRequest`
    * `escalateStaleReturnRequests`
-/

--------
-- Return Statuses
--------

namespace Orignabase

def validReturnTransitions : String → List String
  | "requested" => ["approved", "rejected"]
  | "approved" => ["label_issued", "received"]
  | "label_issued" => ["received"]
  | "received" => ["refunded"]
  | _ => []

/- The request is over. -/
def ReturnRequest.isSettled (r : ReturnRequest) : Bool :=
  r.returnStatus = "rejected" || r.returnStatus = "refunded"

--------
-- Opening A Request
--------

open Conc Handler

/-
  The reason is the sanitised text, cut to its length and
  without the white space around it.
-/
structure CreateReturnRequest where
  orderId : String
  productId : String
  userId : String
  returnReason : String
  deriving DecidableEq, Repr

structure CreateReturnResponse where
  success : Bool
  returnId : String
  deriving DecidableEq, Repr

def returnWindowDays : Nat := 30

/- An item without a date is within the window. -/
def outsideReturnWindow (item : Item) : Prog Op.Res Bool :=
  match item.deliveredAt with
  | some deliveredAt => Db.returnWindowExpired deliveredAt
  | none => .ret false

/- A request that is still open refuses a second one. -/
def checkExisting
    (req : CreateReturnRequest)
    (userId : String) : Handler Unit :=
  (Db.findReturn req.orderId req.productId userId).bind
    fun r =>
  match r with
  | .ok (some existing) =>
    require existing.isSettled (.validation
        "A return request already exists for this item")
      (ok ())
  | _ => ok ()

/- Store the request; the reply names its own id. -/
def storeReturn
    (req : CreateReturnRequest)
    (userId : String)
    (item : Item) : Handler CreateReturnResponse :=
  Db.newId.bind fun returnId =>
  andThen (context (Db.createReturn
        { returnId
          orderId := req.orderId
          buyerId := userId
          sellerId := item.seller
          productId := req.productId
          quantity := some item.qty
          returnStatus := "requested" })
      "Failed to create return request: ") fun _ =>
  ok ⟨true, returnId⟩

/- The checks on the item that was found. -/
def returnItem
    (req : CreateReturnRequest)
    (userId : String)
    (item : Item) : Handler CreateReturnResponse :=
  require (!item.isDigital)
    (.validation "Digital products cannot be returned") <|
  require (item.status = DeliveryStatus.delivered.asStr)
    (.validation
      ("Item must be marked as delivered before " ++
        "requesting a return")) <|
  (outsideReturnWindow item).bind fun expired =>
  require (!expired) (.validation
      ("Return window expired. Returns must be requested " ++
        "within " ++ toString returnWindowDays ++
        " days of delivery.")) <|
  andThen (checkExisting req userId) fun _ =>
  storeReturn req userId item

/- `POST /api/returns/create` -/
def createReturnRequest
    (auth : AuthContext)
    (req : CreateReturnRequest) :
    Handler CreateReturnResponse :=
  andThen (lift (validateUid "orderId" req.orderId))
    fun _ =>
  andThen (lift (validateUid "productId" req.productId))
    fun _ =>
  andThen (lift (resolveSelfUserId auth req.userId "userId"))
    fun userId =>
  andThen (Db.rateLimit userId "create_return_request")
    fun _ =>
  require (req.returnReason ≠ "")
    (.validation "returnReason is required") <|
  andThen (mapErr (Db.getOrder req.orderId)
      (fun _ => .notFound "Order not found")) fun order =>
  require (order.userId = userId) (.forbidden
      "You can only return items from your own orders") <|
  match order.items.find?
      (fun it => it.productId = req.productId) with
  | none =>
    fail (.notFound "Item not found in this order")
  | some item => returnItem req userId item

--------
-- Answering A Request
--------

structure ApproveReturnReq where
  returnId : String
  userId : String
  action : String := "approve"
  deriving DecidableEq, Repr

structure ReturnStatusResponse where
  success : Bool
  newStatus : String
  deriving DecidableEq, Repr

/- Write a status without anything else. -/
def moveReturn
    (returnId newStatus : String) :
    Handler ReturnStatusResponse :=
  andThen
    (context (Db.setReturnStatus returnId newStatus none)
      "Failed to update return: ") fun _ =>
  ok ⟨true, newStatus⟩

/- The stock of the returned units. -/
def restoreReturned (productId : String) (qty : Int) :
    Handler Unit :=
  let message :=
    "Failed to restore stock for returned product " ++
      productId ++ ": "
  if productId ≠ "" && qty > 0 then
    andThen (restoreStock message productId qty 3)
      fun restored =>
    require restored
      (.database (message ++ "concurrent modification"))
      (ok ())
  else ok ()

/- After the refund: the stock, the request, the order. -/
def recordReturn
    (returnId userId : String)
    (doc : ReturnRequest)
    (order : Order)
    (amount : Int)
    (refundId : Option String)
    (now : String) : Handler ReturnStatusResponse :=
  let updatedItems :=
    modifyFirst (fun it => it.productId = doc.productId)
      (fun it =>
        it.markRefunded now "Return approved" amount refundId)
      order.items
  andThen
    (restoreReturned doc.productId (doc.quantity.getD 1))
    fun _ =>
  andThen (context
      (Db.setReturnStatus returnId "refunded" (some amount))
      "Failed to update refunded return request: ") fun _ =>
  andThen (context (Db.updateOrder doc.orderId
        { items := some updatedItems })
      "Failed to update refunded order item: ") fun _ =>
  andThen (context (Db.createOrderEvent doc.orderId userId
        "return_received_and_refunded")
      "Failed to log return refund event: ") fun _ =>
  ok ⟨true, "refunded"⟩

/- An order without a payment is refunded without Stripe. -/
def refundReturn
    (returnId : String)
    (doc : ReturnRequest)
    (order : Order)
    (amount : Int) : Handler (Option String) :=
  if order.paymentIntentId ≠ "" then
    Db.stripeRefund order.paymentIntentId (some amount)
      ("return_refund_" ++ returnId ++ "_" ++ doc.productId)
  else ok none

/- The item is back: refund it. -/
def markReceived
    (returnId userId now : String)
    (doc : ReturnRequest) : Handler ReturnStatusResponse :=
  andThen (mapErr (Db.getOrder doc.orderId)
      (fun _ => .notFound "Order not found")) fun order =>
  match order.items.find?
      (fun it => it.productId = doc.productId) with
  | none => fail (.notFound "Item not found in order")
  | some item =>
    andThen (lift (calculateRefundAmountCents order item))
      fun amount =>
    andThen (refundReturn returnId doc order amount)
      fun refundId =>
    recordReturn returnId userId doc order amount refundId
      now

/- The action that the seller or an administrator chose. -/
def performAction
    (req : ApproveReturnReq)
    (userId now : String)
    (doc : ReturnRequest) : Handler ReturnStatusResponse :=
  let valid := validReturnTransitions doc.returnStatus
  match req.action with
  | "approve" =>
    require (valid.contains "approved") (.validation
        ("Cannot approve return in status '" ++
          doc.returnStatus ++ "'")) <|
    moveReturn req.returnId "approved"
  | "issue_label" =>
    require (valid.contains "label_issued") (.validation
        ("Cannot issue label from status '" ++
          doc.returnStatus ++ "'")) <|
    moveReturn req.returnId "label_issued"
  | "mark_received" =>
    require (valid.contains "received") (.validation
        ("Cannot mark received from status '" ++
          doc.returnStatus ++ "'")) <|
    markReceived req.returnId userId now doc
  | other =>
    fail (.validation
      ("Unknown action: " ++ other ++ ". Must be " ++
        "'approve', 'issue_label', or 'mark_received'."))

/- Read the request; only seller and administrator go on. -/
def answerReturn
    (returnId userId verb : String)
    (next : ReturnRequest → Handler ReturnStatusResponse) :
    Handler ReturnStatusResponse :=
  (isUserAdmin userId).bind fun isAdmin =>
  andThen (mapErr (Db.getReturn returnId)
      (fun _ => .notFound "Return request not found"))
    fun doc =>
  require (isAdmin || userId = doc.sellerId) (.forbidden
      ("Only the seller or admin can " ++ verb ++
        " return requests")) <|
  next doc

/- `POST /api/returns/approve` -/
def approveReturnRequest
    (auth : AuthContext)
    (req : ApproveReturnReq) :
    Handler ReturnStatusResponse :=
  andThen (lift (validateUid "returnId" req.returnId))
    fun _ =>
  andThen (lift (resolveSelfUserId auth req.userId "userId"))
    fun userId =>
  andThen (Db.rateLimit userId "approve_return_request")
    fun _ =>
  answerReturn req.returnId userId "approve" fun doc =>
  Db.utcNow.bind fun now =>
  performAction req userId now doc

structure RejectReturnReq where
  returnId : String
  userId : String
  deriving DecidableEq, Repr

/- `POST /api/returns/reject` -/
def rejectReturnRequest
    (auth : AuthContext)
    (req : RejectReturnReq) :
    Handler ReturnStatusResponse :=
  andThen (lift (validateUid "returnId" req.returnId))
    fun _ =>
  andThen (lift (resolveSelfUserId auth req.userId "userId"))
    fun userId =>
  andThen (Db.rateLimit userId "reject_return_request")
    fun _ =>
  answerReturn req.returnId userId "reject" fun doc =>
  require
    ((validReturnTransitions doc.returnStatus).contains
      "rejected")
    (.validation ("Cannot reject return in status '" ++
        doc.returnStatus ++ "'")) <|
  moveReturn req.returnId "rejected"

--------
-- Escalation
--------

/- The reason is the sanitised and trimmed text. -/
structure EscalateReturnReq where
  returnId : String
  userId : String
  escalationReason : String
  deriving DecidableEq, Repr

/- `POST /api/returns/escalate` -/
def escalateReturnRequest
    (auth : AuthContext)
    (req : EscalateReturnReq) :
    Handler ReturnStatusResponse :=
  andThen (lift (validateUid "returnId" req.returnId))
    fun _ =>
  andThen (lift (resolveSelfUserId auth req.userId "userId"))
    fun userId =>
  andThen (Db.rateLimit userId "escalate_return_request")
    fun _ =>
  require (req.escalationReason ≠ "")
    (.validation "escalationReason is required") <|
  andThen (mapErr (Db.getReturn req.returnId)
      (fun _ => .notFound "Return request not found"))
    fun doc =>
  require (doc.buyerId = userId)
    (.forbidden "Only the buyer can escalate this return") <|
  require
    (["requested", "approved"].contains doc.returnStatus)
    (.validation
      ("Return can only be escalated from requested or " ++
        "approved state")) <|
  andThen (Db.setReturnStatus req.returnId "escalated" none)
    fun _ =>
  andThen (Db.notify doc.orderId) fun _ =>
  ok ⟨true, "escalated"⟩

/- A failed update is passed over. -/
def escalateAll :
    List (String × ReturnRequest) → Handler Unit
  | [] => ok ()
  | row :: rest =>
    (Db.setReturnStatus row.1 "escalated" none).bind
      fun _ => escalateAll rest

/- The body of a job, alone under its lock. -/
def underCronLock (job : String) (body : Handler Unit) :
    Handler Unit :=
  (Db.acquireCronLock job).bind fun acquired =>
  if acquired then
    body.bind fun result =>
    (match result with
      | .ok _ => ok ()
      | .error _ => Db.alertCronFailure job).bind fun _ =>
    (Db.releaseCronLock job).bind fun _ => ok ()
  else ok ()

/- The job for requests that no seller answered. -/
def escalateStaleReturnRequests : Handler Unit :=
  underCronLock "escalate_stale_return_requests" <|
  andThen Db.staleReturns escalateAll

end Orignabase
