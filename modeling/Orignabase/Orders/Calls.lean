import Orignabase.Orders.Status

/-
  The requests on an order as one type, so that a run can mix
  them.

  Key definitions include:
    * `OrderCall`
    * `OrderCall.handler`
-/

namespace Orignabase

open Conc

inductive OrderCall
  | refundItem (auth : AuthContext) (req : RefundItemRequest)
  | cancel (auth : AuthContext) (req : CancelOrderRequest)
  | confirmReceipt
      (auth : AuthContext)
      (req : ConfirmItemReceiptRequest)
  | setOrderStatus
      (auth : AuthContext)
      (req : UpdateOrderStatusRequest)
  | setItemStatus
      (auth : AuthContext)
      (req : UpdateItemStatusRequest)
  deriving DecidableEq, Repr

/- The answer to a request. -/
inductive OrderReply
  | refundItem (response : RefundItemResponse)
  | cancel (response : CancelOrderResponse)
  | confirmReceipt (response : ConfirmItemReceiptResponse)
  | setOrderStatus (response : UpdateOrderStatusResponse)
  | setItemStatus (response : UpdateItemStatusResponse)
  deriving DecidableEq, Repr

namespace OrderCall

def handler : OrderCall → Handler OrderReply
  | .refundItem auth req =>
    (refundOrderItem auth req).map
      (Except.map OrderReply.refundItem)
  | .cancel auth req =>
    (cancelOrder auth req).map
      (Except.map OrderReply.cancel)
  | .confirmReceipt auth req =>
    (confirmItemReceipt auth req).map
      (Except.map OrderReply.confirmReceipt)
  | .setOrderStatus auth req =>
    (updateOrderStatus auth req).map
      (Except.map OrderReply.setOrderStatus)
  | .setItemStatus auth req =>
    (updateItemStatus auth req).map
      (Except.map OrderReply.setItemStatus)

/- The two requests that give stock back. -/
def restores : OrderCall → Bool
  | .refundItem .. | .cancel .. => true
  | _ => false

/- The two requests that close an order. -/
def closes : OrderCall → Bool
  | .setOrderStatus .. | .cancel .. => true
  | _ => false

/- The requests that change items. -/
def editsItems : OrderCall → Bool
  | .cancel .. => false
  | _ => true

end OrderCall

/- A run of requests on orders. -/
abbrev OrderRun :=
  Config Op.Res Answer Store (Except Error OrderReply)

end Orignabase
