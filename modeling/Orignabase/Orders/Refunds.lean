import Orignabase.Store.Api

/-
  Refunds of single items and cancellation of whole orders
  (`ob-handlers/src/orders/refunds.rs`).

  Key definitions include:
    * `calculateRefundAmountCents`
    * `restoreStock`
    * `refundOrderItem`
    * `cancelOrder`
-/

--------
-- Refund Amounts
--------

namespace Orignabase

/- The first entry that satisfies the test is changed. -/
def modifyFirst
    {α : Type}
    (test : α → Bool)
    (f : α → α) : List α → List α
  | [] => []
  | x :: rest =>
    if test x then f x :: rest
    else x :: modifyFirst test f rest

/-
  The share of an item in the discounted subtotal, the
  shipping cost and the tax.  Division truncates toward
  zero, as on `i64`.
-/
def calculateRefundAmountCents
    (order : Order)
    (item : Item) : Except Error Int :=
  let full := item.priceCents * item.qty
  let itemSubtotal :=
    if order.subtotalCents > 0 ∧
        order.discountAmountCents > 0 then
      let discounted :=
        max (order.subtotalCents - order.discountAmountCents)
          0
      (full * discounted +
        order.subtotalCents.tdiv 2).tdiv order.subtotalCents
    else full
  if order.subtotalCents ≤ 0 then
    .error (.validation
      ("Order subtotal must be positive to calculate " ++
        "proportional refund"))
  else
    let share (amount : Int) := (amount * itemSubtotal +
        order.subtotalCents.tdiv 2).tdiv order.subtotalCents
    let shippingRefund := item.itemShippingCents.getD
        (share order.shippingCostCents)
    let proportionalTax := share order.taxAmountCents
    .ok (itemSubtotal + proportionalTax + shippingRefund)

--------
-- Restoring Stock
--------

open Conc Handler

/-
  Add a quantity to the stock by compare-and-set, reading the
  stock afresh at each of the remaining attempts.  The result
  says whether an attempt succeeded.
-/
def restoreStock
    (message productId : String)
    (qty : Int) : Nat → Handler Bool
  | 0 => ok false
  | attempts + 1 =>
    (Db.getProduct productId).bind fun r =>
    let curStock :=
      match r with
      | .ok product => product.stock
      | .error _ => 0
    andThen (context
        (Db.casProduct productId (curStock + qty) curStock)
        message) fun restored =>
    if restored then ok true
    else restoreStock message productId qty attempts

--------
-- Item Refund
--------

/- The reason is the sanitised text, if one was given. -/
structure RefundItemRequest where
  orderId : String
  productId : String
  reason : Option String := none
  deriving DecidableEq, Repr

structure RefundItemResponse where
  success : Bool
  refundAmountCents : Int
  refundId : Option String
  alreadyRefunded : Option Bool
  deriving DecidableEq, Repr

/-
  Compare-and-set the cumulative refund of the order as it
  was read; `missed` goes on after a concurrent change.
-/
def casCumulative
    (orderId : String)
    (amount : Int)
    (curOrder : Order)
    (missed : Handler Bool) : Handler Bool :=
  andThen (context (Db.casOrder orderId
        { cumulativeRefundedCents :=
            some (curOrder.cumulative + amount) }
        (.cumulative curOrder.cumulative))
      "Failed to reserve refund: ") fun updated =>
  if updated then ok true else missed

/-
  One attempt to reserve the amount under the cap; `false`
  means that the cap would be exceeded.
-/
def tryReserve
    (orderId : String)
    (amount : Int)
    (curOrder : Order)
    (missed : Handler Bool) : Handler Bool :=
  if curOrder.cumulative + amount >
      curOrder.totalAmountCents then
    ok false
  -- The field must exist for the guard to match.
  else if curOrder.cumulativeRefundedCents = none then
    (Db.updateOrder orderId
      { cumulativeRefundedCents := some 0 }).bind fun _ =>
    casCumulative orderId amount curOrder missed
  else casCumulative orderId amount curOrder missed

/- Reserve the amount, with the given attempts left. -/
def reserveRefund (orderId : String) (amount : Int) :
    Nat → Handler Bool
  | 0 => ok false
  | attempts + 1 =>
    andThen
      (context (Db.getOrder orderId)
        "Failed to read order: ") fun curOrder =>
    tryReserve orderId amount curOrder
      (if attempts = 0 then
        fail (.validation
          ("Concurrent refund modification " ++
            "detected. Please retry."))
      else reserveRefund orderId amount attempts)

/- The cap was exceeded: report the stored amounts. -/
def refuseRefund
    {α : Type}
    (orderId : String)
    (amount : Int) : Handler α :=
  (Db.getOrder orderId).bind fun current =>
  let cumulative :=
    match current with
    | .ok order => order.cumulative
    | .error _ => 0
  let total :=
    match current with
    | .ok order => order.totalAmountCents
    | .error _ => 0
  fail (.validation ("Cumulative refund (" ++
      toString (cumulative + amount) ++
      " cents) would exceed order total (" ++
      toString total ++ " cents)"))

/- Give a reservation back after Stripe failed. -/
def rollbackRefund
    {α : Type}
    (orderId : String)
    (amount : Int)
    (stripeErr : Error) : Handler α :=
  (Db.getOrder orderId).bind fun r =>
  let cumulative :=
    match r with
    | .ok order => order.cumulative
    | .error _ => 0
  (Db.updateOrder orderId
    { cumulativeRefundedCents :=
        some (max (cumulative - amount) 0) }).bind
  fun _ => fail stripeErr

/- The refunded form of an item. -/
def Item.markRefunded
    (item : Item)
    (now reason : String)
    (amount : Int)
    (refundId : Option String) : Item :=
  { item with
    status := OrderStatus.refunded.asStr
    refundedAt := some now
    refundReason := some reason
    refundAmountCents := some amount
    refundId := refundId.or item.refundId }

/- Neither flag nor type marks the item as digital. -/
def Item.isPhysical (item : Item) : Bool :=
  !(item.isDigital ||
    ["software", "book", "digital"].contains
      item.productType)

/- After the refund: licences or stock, then the log. -/
def settleRefund
    (req : RefundItemRequest)
    (userId : String)
    (item : Item)
    (amount : Int)
    (refundId : Option String) :
    Handler RefundItemResponse :=
  let log : Handler RefundItemResponse := andThen (context
        (Db.createOrderEvent req.orderId userId
          "item_refunded")
        "Failed to log refund event: ") fun _ =>
    ok ⟨true, amount, refundId, none⟩
  if item.isPhysical then
    andThen (restoreStock
        "Failed to restore stock for refunded item: "
        req.productId item.qty 3) fun _ => log
  else
    andThen (context
        (Db.revokeLicenses req.orderId req.productId)
        ("Failed to revoke digital licenses for " ++
          "refunded item: ")) fun _ => log

/- Record a refund that Stripe carried out. -/
def recordRefund
    (req : RefundItemRequest)
    (userId reason : String)
    (items : List Item)
    (item : Item)
    (amount : Int)
    (refundId : Option String) :
    Handler RefundItemResponse :=
  Db.utcNow.bind fun now =>
  let updatedItems :=
    modifyFirst (fun it => it.productId = req.productId)
      (fun it => it.markRefunded now reason amount refundId)
      items
  andThen (context (Db.updateOrder req.orderId
        { items := some updatedItems })
      "Failed to update refunded order: ") fun _ =>
  settleRefund req userId item amount refundId

/- Reserve, charge and record the refund of an item. -/
def performRefund
    (req : RefundItemRequest)
    (userId : String)
    (order : Order)
    (item : Item)
    (amount : Int) : Handler RefundItemResponse :=
  let reason := req.reason.getD "Item refund requested"
  let orderIdStripped := docId "orders" req.orderId
  andThen (reserveRefund orderIdStripped amount 3)
    fun reserved =>
  if !reserved then refuseRefund req.orderId amount
  else
    require (order.paymentIntentId ≠ "")
      (.validation "No payment intent found") <|
    (Db.stripeRefund order.paymentIntentId (some amount)
      ("refund_" ++ req.orderId ++ "_" ++
        req.productId)).bind fun r =>
    match r with
    | .ok refundId =>
      recordRefund req userId reason order.items item
        amount refundId
    | .error e => rollbackRefund orderIdStripped amount e

/- The item may no longer be returned. -/
def returnWindowClosed (isAdmin : Bool) (item : Item) :
    Prog Op.Res Bool :=
  match item.deliveredAt with
  | some deliveredAt =>
    if !isAdmin &&
        item.status = OrderStatus.delivered.asStr then
      Db.returnWindowExpired deliveredAt
    else .ret false
  | none => .ret false

/- The checks on the order and the item that was found. -/
def refundFoundItem
    (req : RefundItemRequest)
    (userId : String)
    (order : Order)
    (isAdmin : Bool)
    (item : Item) : Handler RefundItemResponse :=
  require (isAdmin || item.seller = userId) (.forbidden
      "Only seller of the item or admin can issue refunds") <|
  require (order.paymentStatus = "captured")
    (.validation "Cannot refund uncaptured payment") <|
  require (order.payoutStatus ≠ "processing") (.validation
      ("Cannot refund item while payout is currently " ++
        "processing. Please try again later.")) <|
  if item.status = OrderStatus.refunded.asStr then
    ok ⟨true, 0, none, some true⟩
  else
    (returnWindowClosed isAdmin item).bind fun closed =>
    require (!closed) (.validation
        ("Return window expired. Returns not accepted " ++
          "after 30 days post-delivery.")) <|
    andThen (lift (calculateRefundAmountCents order item))
      fun amount => performRefund req userId order item amount

/- `POST /api/orders/refund-item` -/
def refundOrderItem
    (auth : AuthContext)
    (req : RefundItemRequest) :
    Handler RefundItemResponse :=
  andThen (lift (validateUid "orderId" req.orderId))
    fun _ =>
  andThen (lift (validateUid "productId" req.productId))
    fun _ =>
  andThen (Db.rateLimit auth.userId "refund_order_item")
    fun _ =>
  andThen (mapErr (Db.getOrder req.orderId)
      (fun _ => .notFound "Order not found")) fun order =>
  (isUserAdmin auth.userId).bind fun isAdmin =>
  match order.items.find?
      (fun it => it.productId = req.productId) with
  | none =>
    fail (.notFound ("Product " ++ req.productId ++
        " not found in order"))
  | some item =>
    refundFoundItem req auth.userId order isAdmin item

--------
-- Order Cancellation
--------

structure CancelOrderRequest where
  orderId : String
  userId : String := ""
  deriving DecidableEq, Repr

structure CancelOrderResponse where
  success : Bool
  refunded : Bool
  deriving DecidableEq, Repr

/- Statuses from which an order may be cancelled. -/
def cancellable (status : String) : Bool :=
  ["pending", "confirmed", "awaiting_shipping_approval",
    "processing"].contains status

/- Quarantine for manual review after Stripe failed. -/
def quarantine
    {α : Type}
    (orderId : String)
    (e : Error) : Handler α :=
  (Db.updateOrder orderId
    { paymentStatus := some "CANCEL_FAILED" }).bind
  fun _ => fail e

/-
  Refund or release the payment.  The result is the new
  payment status.
-/
def releasePayment (req : CancelOrderRequest)
    (order : Order) : Handler String :=
  if order.paymentStatus = "captured" ∧
      order.paymentIntentId ≠ "" then
    (Db.stripeRefund order.paymentIntentId none
      ("refund_" ++ req.orderId)).bind fun r =>
    match r with
    | .ok _ => ok "refunded"
    | .error e => quarantine req.orderId e
  else if order.paymentStatus = "authorized" ∧
      order.paymentIntentId ≠ "" then
    (Db.stripeCancelPi order.paymentIntentId).bind fun r =>
    match r with
    | .ok _ => ok "cancelled"
    | .error e => quarantine req.orderId e
  else ok "cancelled"

/- Restore the stock of the items that are not digital. -/
def restoreItems : List Item → Handler Unit
  | [] => ok ()
  | item :: rest =>
    if !item.isDigital && item.productId ≠ "" &&
        item.qty > 0 then
      andThen
        (restoreStock
          ("Failed to restore stock for product " ++
            item.productId ++ ": ")
          item.productId item.qty 3) fun _ =>
      restoreItems rest
    else restoreItems rest

/- The payment is settled: cancel and restore the stock. -/
def finishCancel
    (req : CancelOrderRequest)
    (userId : String)
    (order : Order)
    (paymentStatus : String) : Handler CancelOrderResponse :=
  andThen (context (Db.casOrder req.orderId
        { orderStatus := some OrderStatus.cancelled.asStr
          paymentStatus := some paymentStatus
          stockRestored := some true }
        (.status order.status))
      "Failed to update cancelled order: ") fun updated =>
  require updated (.validation
      ("Order status changed concurrently — please " ++
        "retry cancellation")) <|
  andThen (if order.stockRestored then ok ()
      else restoreItems order.items) fun _ =>
  andThen (context (Db.createOrderEvent req.orderId userId
        "order_cancelled")
      "Failed to log order cancellation: ") fun _ =>
  ok ⟨true, paymentStatus = "refunded"⟩

/- The buyer on record, the owner where there is none. -/
def Order.buyer (order : Order) : String :=
  if order.buyerId ≠ "" then order.buyerId
  else order.userId

/- `POST /api/orders/cancel` -/
def cancelOrder
    (auth : AuthContext)
    (req : CancelOrderRequest) :
    Handler CancelOrderResponse :=
  andThen (lift (resolveSelfUserId auth req.userId "userId"))
    fun userId =>
  andThen (lift (validateUid "orderId" req.orderId))
    fun _ =>
  andThen (Db.rateLimit userId "cancel_order") fun _ =>
  andThen (mapErr (Db.getOrder req.orderId)
      (fun _ => .notFound "Order not found")) fun order =>
  require (!order.archived)
    (.validation "Cannot cancel archived order") <|
  let isAdmin := auth.roles.contains "admin"
  let isBuyer : Bool := order.buyer = userId
  let sellerItems :=
    order.items.filter (fun it => it.seller = userId)
  let isSeller := !sellerItems.isEmpty
  require (isAdmin || isBuyer || isSeller) (.forbidden
      "Only buyer, seller, or admin can cancel order") <|
  require (!(isSeller && !isBuyer && !isAdmin &&
      sellerItems.length < order.items.length))
    (.forbidden
      ("Cannot cancel a multi-seller order. Use item " ++
        "refund to cancel your items only.")) <|
  require (cancellable order.status) (.validation
      ("Cannot cancel order with status: " ++
        order.status)) <|
  require (!(isBuyer && !isAdmin && !isSeller &&
      ! ["pending", "confirmed"].contains order.status))
    (.validation
      ("Order cannot be cancelled at this stage. Contact " ++
        "support if there is an issue.")) <|
  andThen (releasePayment req order) fun paymentStatus =>
  finishCancel req userId order paymentStatus

end Orignabase
