import Orignabase.Orders.Refunds

/-
  Status changes of orders and of their items
  (`ob-handlers/src/orders/status.rs`).

  Key definitions include:
    * `isValidOrderTransition`
    * `confirmItemReceipt`
    * `updateOrderStatus`
    * `updateItemStatus`
-/

--------
-- Transition Graphs
--------

namespace Orignabase

/- Item transitions open to sellers. -/
def isValidItemTransition :
    DeliveryStatus → DeliveryStatus → Bool
  | .pending, .shipped => true
  | .shipped, .delivered => true
  | .delivered, .refunded => true
  | _, _ => false

def isValidOrderTransition :
    OrderStatus → OrderStatus → Bool
  | .pendingPayment, .paymentAuthorized => true
  | .pendingPayment, .cancelled => true
  | .pendingPayment, .failed => true
  | .paymentAuthorized, .processing => true
  | .paymentAuthorized, .awaitingShippingApproval => true
  | .paymentAuthorized, .cancelled => true
  | .awaitingShippingApproval, .processing => true
  | .awaitingShippingApproval, .cancelled => true
  | .processing, .shipped => true
  | .processing, .cancelled => true
  | .shipped, .delivered => true
  | .shipped, .returnRequested => true
  | .delivered, .returnRequested => true
  | .delivered, .refunded => true
  | .returnRequested, .returnApproved => true
  | .returnRequested, .returnRejected => true
  | .returnApproved, .returned => true
  | .returned, .refunded => true
  | _, _ => false

def allItemsDelivered (items : List Item) : Bool :=
  items.all (fun it =>
    it.status = DeliveryStatus.delivered.asStr)

def allItemsShipped (items : List Item) : Bool :=
  items.all (fun it =>
    it.status = DeliveryStatus.shipped.asStr ||
      it.status = DeliveryStatus.delivered.asStr)

--------
-- Receipt Confirmation
--------

open Conc Handler

structure ConfirmItemReceiptRequest where
  orderId : String
  productId : String
  deriving DecidableEq, Repr

structure ConfirmItemReceiptResponse where
  success : Bool
  allDelivered : Bool
  message : Option String
  deriving DecidableEq, Repr

def shouldPromoteOrderToDelivered
    (paymentStatus : String)
    (allDelivered : Bool) : Bool :=
  allDelivered && paymentStatus = "captured"

/- The received form of an item. -/
def Item.confirmReceipt (item : Item) (now : String) :
    Item :=
  { item with
    status := DeliveryStatus.delivered.asStr
    deliveredAt := some now
    confirmedByBuyer := true }

/- The items with the confirmed one among them. -/
def receiptItems
    (req : ConfirmItemReceiptRequest)
    (order : Order)
    (now : String) : List Item :=
  modifyFirst (fun it => it.productId = req.productId)
    (fun it => it.confirmReceipt now) order.items

def receiptPatch
    (req : ConfirmItemReceiptRequest)
    (order : Order)
    (now : String) : OrderPatch where
  items := some (receiptItems req order now)
  orderStatus :=
    if shouldPromoteOrderToDelivered order.paymentStatus
        (allItemsDelivered (receiptItems req order now)) then
      some OrderStatus.delivered.asStr
    else none

/- Write the confirmed item unless the status moved. -/
def recordReceipt
    (req : ConfirmItemReceiptRequest)
    (userId : String)
    (order : Order) : Handler ConfirmItemReceiptResponse :=
  Db.utcNow.bind fun now =>
  andThen (context
      (Db.casOrder req.orderId (receiptPatch req order now)
        (.status order.status))
      "Failed to update order: ") fun updated =>
  require updated (.validation
      "Order was modified concurrently — please retry") <|
  (Db.createOrderEvent req.orderId userId
    "item_receipt_confirmed").bind fun _ =>
  ok ⟨true, allItemsDelivered (receiptItems req order now),
    none⟩

/- `POST /api/orders/confirm-receipt` -/
def confirmItemReceipt
    (auth : AuthContext)
    (req : ConfirmItemReceiptRequest) :
    Handler ConfirmItemReceiptResponse :=
  andThen (lift (validateUid "orderId" req.orderId))
    fun _ =>
  andThen (lift (validateUid "productId" req.productId))
    fun _ =>
  andThen (lift (validateUid "userId" auth.userId)) fun _ =>
  andThen (Db.rateLimit auth.userId "confirm_item_receipt")
    fun _ =>
  andThen (mapErr (Db.getOrder req.orderId)
      (fun _ => .notFound "Order not found")) fun order =>
  require (order.userId = auth.userId)
    (.forbidden "Only the order owner can confirm receipt") <|
  match order.items.find?
      (fun it => it.productId = req.productId) with
  | none => fail (.notFound "Item not found in order")
  | some item =>
    require (item.seller ≠ auth.userId) (.forbidden
        ("Sellers cannot confirm receipt of their own " ++
          "items")) <|
    if item.status = DeliveryStatus.delivered.asStr then
      ok ⟨true, false,
        some "Item already marked as delivered"⟩
    else
      require (item.status = DeliveryStatus.shipped.asStr)
        (.validation
          ("Cannot confirm receipt: item must be " ++
            "shipped first (current: " ++ item.status ++
            ")")) <|
      recordReceipt req auth.userId order

--------
-- Order Status
--------

/- Tracking number and carrier are the sanitised texts. -/
structure UpdateOrderStatusRequest where
  orderId : String
  newStatus : String
  trackingNumber : Option String := none
  carrier : Option String := none
  deriving DecidableEq, Repr

structure UpdateOrderStatusResponse where
  success : Bool
  newStatus : String
  allItemsShipped : Option Bool
  deriving DecidableEq, Repr

/- The shipped form of an item in an order update. -/
def Item.ship
    (item : Item)
    (req : UpdateOrderStatusRequest)
    (now : String) : Item :=
  { item with
    status := DeliveryStatus.shipped.asStr
    shippedAt := some now
    trackingNumber :=
      req.trackingNumber.or item.trackingNumber
    shippingCarrier :=
      if req.trackingNumber.isSome then
        some (req.carrier.getD "")
      else item.shippingCarrier }

/- The items with those of the seller shipped. -/
def sellerShippedItems
    (req : UpdateOrderStatusRequest)
    (userId : String)
    (order : Order)
    (now : String) : List Item :=
  order.items.map (fun it =>
    if it.seller = userId then it.ship req now else it)

def sellerShippedPatch
    (req : UpdateOrderStatusRequest)
    (userId : String)
    (order : Order)
    (now : String) : OrderPatch where
  items := some (sellerShippedItems req userId order now)
  orderStatus :=
    if allItemsShipped
        (sellerShippedItems req userId order now) then
      some OrderStatus.shipped.asStr
    else none

/- A seller ships the own items of a one-seller order. -/
def shipSellerItems
    (req : UpdateOrderStatusRequest)
    (userId : String)
    (order : Order)
    (oldStatus : OrderStatus) :
    Handler UpdateOrderStatusResponse :=
  Db.utcNow.bind fun now =>
  require (order.items.any (fun it => it.seller = userId))
    (.forbidden "No items belong to this seller") <|
  let allShipped :=
    allItemsShipped (sellerShippedItems req userId order now)
  andThen (context (Db.updateOrder req.orderId
        (sellerShippedPatch req userId order now))
      "Failed to update order: ") fun _ =>
  (if allShipped && req.trackingNumber.isSome then
      Db.notify req.orderId
    else ok ()).bind fun _ =>
  ok ⟨true,
      if allShipped then OrderStatus.shipped.asStr
      else oldStatus.asStr,
      some allShipped⟩

/- The items written along with a new order status. -/
def cascadeItems
    (req : UpdateOrderStatusRequest)
    (isAdmin : Bool)
    (newStatus : OrderStatus)
    (items : List Item)
    (now : String) : Option (List Item) :=
  if newStatus = .shipped then
    some (items.map (fun it =>
      if it.status ≠ DeliveryStatus.delivered.asStr ∧
          it.status ≠ DeliveryStatus.refunded.asStr then
        it.ship req now
      else it))
  else if isAdmin ∧ newStatus = .delivered then
    some (items.map (fun it =>
      { it with
        status := DeliveryStatus.delivered.asStr
        deliveredAt := some now }))
  else none

def orderStatusPatch
    (req : UpdateOrderStatusRequest)
    (order : Order)
    (isAdmin : Bool)
    (newStatus : OrderStatus)
    (now : String) : OrderPatch where
  items := cascadeItems req isAdmin newStatus order.items now
  orderStatus := some newStatus.asStr

/- Write the new status unless the status moved. -/
def writeOrderStatus
    (req : UpdateOrderStatusRequest)
    (userId : String)
    (order : Order)
    (isAdmin : Bool)
    (oldStatus newStatus : OrderStatus) :
    Handler UpdateOrderStatusResponse :=
  Db.utcNow.bind fun now =>
  andThen (context (Db.casOrder (docId "orders" req.orderId)
        (orderStatusPatch req order isAdmin newStatus now)
        (.status oldStatus.asStr))
      "Failed to update order: ") fun updated =>
  require updated (.validation
      ("Order status changed concurrently — expected '" ++
        oldStatus.asStr ++ "', please retry")) <|
  (Db.createOrderEvent req.orderId userId
    ("order_status_updated_to_" ++
      newStatus.asStr)).bind fun _ =>
  (if newStatus = .shipped ∧ req.trackingNumber.isSome ∨
      newStatus = .delivered then
      Db.notify req.orderId
    else ok ()).bind fun _ =>
  ok ⟨true, newStatus.asStr, none⟩

/- The seller ids that occur in the items. -/
def sellerIds (items : List Item) : List String :=
  (items.filterMap Item.sellerId).dedup

/- The restrictions on shipping an order. -/
def shippingError
    (order : Order)
    (sellerItems : List Item) : Option Error :=
  if sellerItems.any Item.isDigital then
    some (.validation
      "Digital products cannot be manually shipped")
  else if order.shippingApproval = some "pending" then
    some (.validation
      ("Cannot ship: shipping cost approval is pending " ++
        "from buyer"))
  else if order.shippingApproval = some "rejected" then
    some (.validation
      "Cannot ship: buyer rejected the shipping cost")
  else none

/- The checks once caller and statuses are known. -/
def changeOrderStatus
    (req : UpdateOrderStatusRequest)
    (userId : String)
    (order : Order)
    (isAdmin : Bool)
    (oldStatus newStatus : OrderStatus) :
    Handler UpdateOrderStatusResponse :=
  let sellerItems :=
    order.items.filter (fun it => it.seller = userId)
  let isSeller := !sellerItems.isEmpty
  require (isAdmin || isSeller) (.forbidden
      "Only seller or admin can update order status") <|
  require
    (!(isSeller && !isAdmin && newStatus = .delivered))
    (.forbidden
      ("Sellers cannot mark orders as delivered. Use " ++
        "per-item status updates or wait for buyer " ++
        "confirmation.")) <|
  require (!(isSeller && !isAdmin &&
      (sellerIds order.items).length > 1))
    (.validation
      ("Multi-seller order: use update_item_status to " ++
        "update per-item status instead of order-level " ++
        "status.")) <|
  match
    if newStatus = .shipped then
      shippingError order sellerItems
    else none with
  | some e => fail e
  | none =>
    require (isValidOrderTransition oldStatus newStatus)
      (.validation
        ("Invalid transition from " ++ oldStatus.asStr ++
          " to " ++ newStatus.asStr)) <|
    if isSeller && !isAdmin && newStatus = .shipped then
      shipSellerItems req userId order oldStatus
    else
      writeOrderStatus req userId order isAdmin oldStatus
        newStatus

/- `POST /api/orders/update-status` -/
def updateOrderStatus
    (auth : AuthContext)
    (req : UpdateOrderStatusRequest) :
    Handler UpdateOrderStatusResponse :=
  andThen (lift (validateUid "orderId" req.orderId))
    fun _ =>
  andThen (lift (validateUid "userId" auth.userId)) fun _ =>
  andThen (lift (validateString "newStatus" req.newStatus 50))
    fun _ =>
  andThen (Db.rateLimit auth.userId "update_order_status")
    fun _ =>
  match OrderStatus.parse req.newStatus with
  | none =>
    fail (.validation "Invalid order status provided")
  | some newStatus =>
    andThen (mapErr (Db.getOrder req.orderId)
        (fun _ => .notFound "Order not found"))
      fun order =>
    let oldStatusStr := order.orderStatus.getD "pending"
    match OrderStatus.parse oldStatusStr with
    | none =>
      fail (.internal
        ("Unknown stored status: " ++ oldStatusStr))
    | some oldStatus =>
      require (!order.archived)
        (.validation "Cannot update archived order") <|
      (isUserAdmin auth.userId).bind fun isAdmin =>
      changeOrderStatus req auth.userId order isAdmin
        oldStatus newStatus

--------
-- Item Status
--------

structure UpdateItemStatusRequest where
  orderId : String
  productId : String
  newStatus : String
  trackingNumber : Option String := none
  carrier : Option String := none
  deriving DecidableEq, Repr

structure UpdateItemStatusResponse where
  success : Bool
  itemStatus : String
  allItemsDelivered : Bool
  allItemsShipped : Bool
  deriving DecidableEq, Repr

/- The item with its new delivery status. -/
def Item.setDelivery
    (item : Item)
    (req : UpdateItemStatusRequest)
    (new : DeliveryStatus)
    (now : String) : Item :=
  match new with
  | .shipped =>
    { item with
      status := new.asStr
      shippedAt := some now
      trackingNumber :=
        req.trackingNumber.or item.trackingNumber
      shippingCarrier :=
        req.carrier.or item.shippingCarrier }
  | .delivered =>
    { item with
      status := new.asStr
      deliveredAt := some now }
  | _ => { item with status := new.asStr }

/- The order status that the item states promote to. -/
def promotedStatus
    (order : Order)
    (allDelivered allShipped : Bool) : Option String :=
  if allDelivered ∧
      order.status ≠ OrderStatus.delivered.asStr then
    if order.paymentStatus = "captured" then
      some OrderStatus.delivered.asStr
    else none
  else if allShipped ∧ ¬ allDelivered then
    if OrderStatus.parse order.status = some .processing ∨
        OrderStatus.parse order.status =
          some .paymentAuthorized then
      some OrderStatus.shipped.asStr
    else none
  else none

/- The items with the changed one among them. -/
def itemStatusItems
    (req : UpdateItemStatusRequest)
    (order : Order)
    (new : DeliveryStatus)
    (now : String) : List Item :=
  modifyFirst (fun it => it.productId = req.productId)
    (fun it => it.setDelivery req new now) order.items

def itemStatusPatch
    (req : UpdateItemStatusRequest)
    (order : Order)
    (new : DeliveryStatus)
    (now : String) : OrderPatch where
  items := some (itemStatusItems req order new now)
  orderStatus := promotedStatus order
      (allItemsDelivered (itemStatusItems req order new now))
      (allItemsShipped (itemStatusItems req order new now))

/- Write the item and the promoted order status. -/
def writeItemStatus
    (req : UpdateItemStatusRequest)
    (userId : String)
    (order : Order)
    (new : DeliveryStatus) :
    Handler UpdateItemStatusResponse :=
  Db.utcNow.bind fun now =>
  let items := itemStatusItems req order new now
  andThen (context (Db.updateOrder req.orderId
        (itemStatusPatch req order new now))
      "Failed to update order: ") fun _ =>
  (Db.createOrderEvent req.orderId userId
    ("item_status_updated_to_" ++ new.asStr)).bind fun _ =>
  ok ⟨true, new.asStr, allItemsDelivered items,
    allItemsShipped items⟩

/- The checks on the item that was found. -/
def changeItemStatus
    (req : UpdateItemStatusRequest)
    (userId : String)
    (order : Order)
    (isAdmin : Bool)
    (item : Item)
    (new : DeliveryStatus) :
    Handler UpdateItemStatusResponse :=
  let isItemSeller : Bool := item.seller = userId
  let current :=
    (DeliveryStatus.fromStr item.status).getD .pending
  require (isAdmin || isItemSeller) (.forbidden
      ("Only the item seller or admin can update item " ++
        "status")) <|
  require (!(isItemSeller && !isAdmin && new = .delivered))
    (.forbidden
      ("Sellers cannot mark items as delivered. Buyer " ++
        "must confirm receipt.")) <|
  require (isAdmin || isValidItemTransition current new)
    (.validation ("Invalid item status transition from " ++
        item.status ++ " to " ++ req.newStatus)) <|
  require (!(new = .shipped && req.trackingNumber.isNone &&
      order.deliverySpeed ≠ "pickup"))
    (.validation
      "Tracking number required for shipped status") <|
  writeItemStatus req userId order new

/- `POST /api/orders/update-item-status` -/
def updateItemStatus
    (auth : AuthContext)
    (req : UpdateItemStatusRequest) :
    Handler UpdateItemStatusResponse :=
  andThen (lift (validateUid "orderId" req.orderId))
    fun _ =>
  andThen (lift (validateUid "productId" req.productId))
    fun _ =>
  andThen (lift (validateUid "userId" auth.userId)) fun _ =>
  andThen (lift (validateString "newStatus" req.newStatus 20))
    fun _ =>
  andThen (Db.rateLimit auth.userId "update_item_status")
    fun _ =>
  match DeliveryStatus.fromStr req.newStatus with
  | none =>
    fail (.validation
      ("Status must be one of: pending, shipped, " ++
        "delivered, refunded. Got: " ++ req.newStatus))
  | some new =>
    andThen (mapErr (Db.getOrder req.orderId)
        (fun _ => .notFound "Order not found"))
      fun order =>
    require (!order.archived)
      (.validation "Cannot update archived order") <|
    (isUserAdmin auth.userId).bind fun isAdmin =>
    match order.items.find?
        (fun it => it.productId = req.productId) with
    | none =>
      fail (.notFound ("Product " ++ req.productId ++
          " not found in order"))
    | some item =>
      changeItemStatus req auth.userId order isAdmin
        item new

end Orignabase
