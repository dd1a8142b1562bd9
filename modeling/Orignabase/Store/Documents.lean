import Orignabase.Lib.Text
import Mathlib.Tactic.Cases

/-
  The documents of the order subsystem
  (`ob-handlers/src/shared/schema.rs`).

  A text field that is read through `str_field` is a string,
  blank when the field is missing; an optional field is one
  whose absence some handler or statement can observe.

  Key definitions include:
    * `OrderStatus`
    * `Item`
    * `Order`
    * `OrderPatch`
-/

--------
-- Statuses
--------

namespace Orignabase

inductive OrderStatus
  | pendingPayment
  | paymentAuthorized
  | awaitingShippingApproval
  | processing
  | shipped
  | delivered
  | inTransit
  | cancelled
  | refunded
  | partiallyRefunded
  | disputed
  | expired
  | failed
  | returnRequested
  | returnApproved
  | returnRejected
  | returned
  | archived
  deriving DecidableEq, Repr

namespace OrderStatus

def asStr : OrderStatus → String
  | pendingPayment => "pending"
  | paymentAuthorized => "confirmed"
  | awaitingShippingApproval => "awaiting_shipping_approval"
  | processing => "processing"
  | shipped => "shipped"
  | inTransit => "in_transit"
  | delivered => "delivered"
  | cancelled => "cancelled"
  | refunded => "refunded"
  | partiallyRefunded => "partially_refunded"
  | disputed => "disputed"
  | expired => "expired"
  | failed => "failed"
  | returnRequested => "return_requested"
  | returnApproved => "return_approved"
  | returnRejected => "return_rejected"
  | returned => "returned"
  | archived => "archived"

def all : List OrderStatus :=
  [pendingPayment, paymentAuthorized,
    awaitingShippingApproval, processing, shipped,
    delivered, inTransit, cancelled, refunded,
    partiallyRefunded, disputed, expired, failed,
    returnRequested, returnApproved, returnRejected,
    returned, archived]

theorem mem_all (s : OrderStatus) : s ∈ all := by
  cases s <;> decide

theorem asStr_injective {s t : OrderStatus}
    (hText : s.asStr = t.asStr) : s = t := by
  revert hText
  cases s <;> cases t <;> decide

/- `parse_order_status`: the inverse of the stored text. -/
def parse (text : String) : Option OrderStatus :=
  all.find? (fun s => s.asStr = text)

theorem asStr_of_parse
    {text : String}
    {s : OrderStatus}
    (hParse : parse text = some s) :
    s.asStr = text := by
  simpa using List.find?_some hParse

@[simp] theorem parse_asStr (s : OrderStatus) :
    parse s.asStr = some s := by
  cases s <;> decide

end OrderStatus

/- The delivery status of one item. -/
inductive DeliveryStatus
  | pending
  | shipped
  | delivered
  | refunded
  deriving DecidableEq, Repr

namespace DeliveryStatus

def asStr : DeliveryStatus → String
  | pending => "pending"
  | shipped => "shipped"
  | delivered => "delivered"
  | refunded => "refunded"

def fromStr : String → Option DeliveryStatus
  | "pending" => some pending
  | "shipped" => some shipped
  | "delivered" => some delivered
  | "refunded" => some refunded
  | _ => none

end DeliveryStatus

--------
-- Documents
--------

/- One line of an order. -/
structure Item where
  productId : String := ""
  sellerId : Option String := none
  status : String := ""
  priceCents : Int := 0
  quantity : Option Int := none
  itemShippingCents : Option Int := none
  isDigital : Bool := false
  productType : String := ""
  shippedAt : Option String := none
  trackingNumber : Option String := none
  shippingCarrier : Option String := none
  deliveredAt : Option String := none
  confirmedByBuyer : Bool := false
  refundedAt : Option String := none
  refundReason : Option String := none
  refundAmountCents : Option Int := none
  refundId : Option String := none
  deriving DecidableEq, Repr

namespace Item

/- The quantity, one when the field is missing. -/
def qty (item : Item) : Int :=
  item.quantity.getD 1

def seller (item : Item) : String :=
  item.sellerId.getD ""

end Item

structure Order where
  orderId : String := ""
  items : List Item := []
  orderStatus : Option String := none
  paymentStatus : String := ""
  payoutStatus : String := ""
  paymentIntentId : String := ""
  checkoutSessionId : String := ""
  couponCode : Option String := none
  idempotencyKey : String := ""
  buyerId : String := ""
  userId : String := ""
  subtotalCents : Int := 0
  discountAmountCents : Int := 0
  shippingCostCents : Int := 0
  taxAmountCents : Int := 0
  totalAmountCents : Int := 0
  platformFeeTotalCents : Int := 0
  cumulativeRefundedCents : Option Int := none
  refundedAmountCents : Option Int := none
  stockRestored : Bool := false
  archived : Bool := false
  shippingApproval : Option String := none
  deliverySpeed : String := ""
  deriving DecidableEq, Repr

namespace Order

def status (order : Order) : String :=
  order.orderStatus.getD ""

def cumulative (order : Order) : Int :=
  order.cumulativeRefundedCents.getD 0

end Order

structure Product where
  stockQuantity : Option Int := none
  priceCents : Int := 0
  sellerId : String := ""
  lifecycleStatus : String := ""
  isDigital : Bool := false
  isAgeRestricted : Bool := false
  isPerishable : Bool := false
  isLocalDeliveryOnly : Bool := false
  shipFromProvince : String := ""
  shipFromCountry : String := ""
  deriving DecidableEq, Repr

namespace Product

def stock (product : Product) : Int :=
  product.stockQuantity.getD 0

end Product

structure User where
  roles : List String := []
  suspended : Bool := false
  deriving DecidableEq, Repr

/- A coupon held by an order, redeemed once it is paid. -/
structure CouponUse where
  couponCode : String
  userId : String
  orderId : String
  redeemedAt : Option String := none
  deriving DecidableEq, Repr

/- The request of a buyer to return one item of an order. -/
structure ReturnRequest where
  returnId : String := ""
  orderId : String := ""
  buyerId : String := ""
  sellerId : String := ""
  productId : String := ""
  quantity : Option Int := none
  returnStatus : String := ""
  returnRefundAmountCents : Option Int := none
  deriving DecidableEq, Repr

/- A refund of the payment provider, as its events tell. -/
structure RefundRecord where
  amountCents : Int
  status : String
  paymentIntentId : String
  deriving DecidableEq, Repr

/-
  The fields an update merges into an order.  Fields that are
  only written, such as audit timestamps, are left out.
-/
structure OrderPatch where
  items : Option (List Item) := none
  orderStatus : Option String := none
  paymentStatus : Option String := none
  paymentIntentId : Option String := none
  cumulativeRefundedCents : Option Int := none
  refundedAmountCents : Option Int := none
  stockRestored : Option Bool := none
  deriving DecidableEq, Repr

namespace OrderPatch

def apply (patch : OrderPatch) (order : Order) : Order :=
  { order with
    items := patch.items.getD order.items
    orderStatus := patch.orderStatus.or order.orderStatus
    paymentStatus :=
      patch.paymentStatus.getD order.paymentStatus
    paymentIntentId :=
      patch.paymentIntentId.getD order.paymentIntentId
    cumulativeRefundedCents :=
      patch.cumulativeRefundedCents.or
        order.cumulativeRefundedCents
    refundedAmountCents :=
      patch.refundedAmountCents.or order.refundedAmountCents
    stockRestored :=
      patch.stockRestored.getD order.stockRestored }

@[simp] theorem apply_items
    (patch : OrderPatch)
    (order : Order) :
    (patch.apply order).items =
      patch.items.getD order.items := rfl

@[simp] theorem apply_orderStatus
    (patch : OrderPatch)
    (order : Order) :
    (patch.apply order).orderStatus =
      patch.orderStatus.or order.orderStatus := rfl

@[simp] theorem apply_paymentStatus
    (patch : OrderPatch)
    (order : Order) :
    (patch.apply order).paymentStatus =
      patch.paymentStatus.getD order.paymentStatus := rfl

@[simp] theorem apply_paymentIntentId
    (patch : OrderPatch)
    (order : Order) :
    (patch.apply order).paymentIntentId =
      patch.paymentIntentId.getD order.paymentIntentId := rfl

@[simp] theorem apply_cumulativeRefundedCents
    (patch : OrderPatch)
    (order : Order) :
    (patch.apply order).cumulativeRefundedCents =
      patch.cumulativeRefundedCents.or
        order.cumulativeRefundedCents := rfl

@[simp] theorem apply_refundedAmountCents
    (patch : OrderPatch)
    (order : Order) :
    (patch.apply order).refundedAmountCents =
      patch.refundedAmountCents.or
        order.refundedAmountCents := rfl

@[simp] theorem apply_stockRestored
    (patch : OrderPatch)
    (order : Order) :
    (patch.apply order).stockRestored =
      patch.stockRestored.getD order.stockRestored := rfl

end OrderPatch

end Orignabase
