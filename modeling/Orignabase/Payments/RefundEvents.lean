import Orignabase.Payments.Webhooks

/-
  The handlers for refunds of the payment provider
  (`ob-handlers/src/payments/webhooks.rs`).

  A charge event tells the amount refunded so far, a refund
  event the amount of one refund.  Currency, reason and the
  id of the last refund are only written, and the former
  record of a refund is read only to date a new one.

  Key definitions include:
    * `syncOrderRefundState`
    * `syncOrderRefundStateFromRecords`
    * `handleChargeRefunded`
    * `handleRefundCreated`
    * `handleRefundUpdated`
-/

--------
-- Objects Of Refund Events
--------

namespace Orignabase

/- The charge of a `charge.refunded` event. -/
structure ChargeObject where
  id : Option String := none
  paymentIntent : Option String := none
  amountRefunded : Option Int := none
  deriving DecidableEq, Repr

/- The refund of a `refund.*` event. -/
structure RefundObject where
  id : Option String := none
  amount : Option Int := none
  status : Option String := none
  paymentIntent : Option String := none
  deriving DecidableEq, Repr

/- The payment and the amount of a charge event. -/
def chargeData :
    Option ChargeObject → Except Error (String × Int)
  | none => .error (.validation "No object in event data")
  | some charge =>
    match charge.id with
    | none => .error (.validation "No charge ID")
    | some _ =>
      match charge.paymentIntent with
      | none =>
        .error (.validation
          "No payment intent ID in charge")
      | some paymentIntentId =>
        match charge.amountRefunded with
        | none =>
          .error (.validation "No refund amount in charge")
        | some amount => .ok (paymentIntentId, amount)

/- The id and the record of a refund event. -/
def refundData (defaultStatus : String) :
    Option RefundObject →
      Except Error (String × RefundRecord)
  | none => .error (.validation "No object in event data")
  | some refund =>
    match refund.id with
    | none => .error (.validation "No refund ID")
    | some refundId =>
      .ok
        (refundId,
          { amountCents := refund.amount.getD 0
            status := refund.status.getD defaultStatus
            paymentIntentId :=
              refund.paymentIntent.getD "" })

--------
-- The Refund State Of An Order
--------

open Conc Handler

namespace Order

def isFullRefund
    (order : Order)
    (refundedAmountCents : Int) : Bool :=
  refundedAmountCents ≥ order.totalAmountCents &&
    order.totalAmountCents > 0

/- The refund of so much restores the stock. -/
def restoresStock
    (order : Order)
    (refundedAmountCents : Int) : Bool :=
  order.isFullRefund refundedAmountCents &&
    !order.stockRestored

/- What the refund of so much writes. -/
def refundPatch
    (order : Order)
    (refundedAmountCents : Int) : OrderPatch :=
  if order.isFullRefund refundedAmountCents then
    { refundedAmountCents := some refundedAmountCents
      paymentStatus := some "refunded"
      orderStatus := some OrderStatus.refunded.asStr
      stockRestored := some true }
  else
    { refundedAmountCents := some refundedAmountCents
      paymentStatus := some "partially_refunded"
      orderStatus :=
        some OrderStatus.partiallyRefunded.asStr }

end Order

/- The part of `sync_order_refund_state` for a found order. -/
def writeRefundState
    (orderId : String)
    (order : Order)
    (refundedAmountCents : Int) : Handler Unit :=
  require (refundedAmountCents ≤ order.totalAmountCents)
    (.validation
      ("Refund amount " ++ toString refundedAmountCents ++
        " exceeds order total " ++
        toString order.totalAmountCents)) <|
  andThen (if order.restoresStock refundedAmountCents then
      restoreStockForOrder order.items
    else ok ()) fun _ =>
  Db.updateOrder orderId
    (order.refundPatch refundedAmountCents)

def syncOrderRefundState
    (paymentIntentId : String)
    (refundedAmountCents : Int) : Handler Unit :=
  if paymentIntentId = "" then ok ()
  else
    andThen (Db.findOrderByIntent paymentIntentId) fun row =>
    match row with
    | none => ok ()
    | some (orderId, order) =>
      writeRefundState orderId order refundedAmountCents

/- The amount of the records that succeeded. -/
def succeededCents (records : List RefundRecord) : Int :=
  ((records.filter (fun r => r.status = "succeeded")).map
    RefundRecord.amountCents).sum

/- Records that cannot be read count for nothing. -/
def readRecords :
    Except Error (List RefundRecord) → List RefundRecord
  | .ok records => records
  | .error _ => []

def syncOrderRefundStateFromRecords
    (paymentIntentId : String) : Handler Unit :=
  if paymentIntentId = "" then ok ()
  else
    (Db.refundRecords paymentIntentId).bind fun r =>
    let refundedAmountCents := succeededCents (readRecords r)
    if refundedAmountCents > 0 then
      syncOrderRefundState paymentIntentId
        refundedAmountCents
    else ok ()

--------
-- Handlers
--------

/- `charge.refunded` -/
def handleChargeRefunded
    (object : Option ChargeObject) : Handler Unit :=
  andThen (lift (chargeData object)) fun e =>
  andThen (Db.findOrderByIntent e.1) fun row =>
  require row.isSome (.notFound
      ("Order not found for payment intent " ++ e.1)) <|
  syncOrderRefundState e.1 e.2

/-
  The order of a new refund gets its id in a column that the
  table does not have; the error is dropped.
-/
def storeRefundId
    (refundId paymentIntentId : String) :
    Prog Op.Res Unit :=
  if paymentIntentId = "" then .ret ()
  else
    (Db.findOrderByIntent paymentIntentId).bind fun r =>
    match r with
    | .ok (some (orderId, _)) =>
      if orderId = "" then .ret ()
      else
        (Db.setRefundColumn orderId refundId).bind fun _ =>
        .ret ()
    | _ => .ret ()

/- A refund that succeeded is counted. -/
def countRefund (record : RefundRecord) : Handler Unit :=
  if record.status = "succeeded" then
    syncOrderRefundStateFromRecords record.paymentIntentId
  else ok ()

/- `refund.created` -/
def handleRefundCreated
    (object : Option RefundObject) : Handler Unit :=
  andThen (lift (refundData "pending" object)) fun e =>
  andThen (Db.upsertRefundRecord e.1 e.2) fun _ =>
  (storeRefundId e.1 e.2.paymentIntentId).bind fun _ =>
  countRefund e.2

/- `refund.updated` -/
def handleRefundUpdated
    (object : Option RefundObject) : Handler Unit :=
  andThen (lift (refundData "unknown" object)) fun e =>
  andThen (Db.upsertRefundRecord e.1 e.2) fun _ =>
  countRefund e.2

end Orignabase
