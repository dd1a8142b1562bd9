import Orignabase.Checkout.Placed
import Orignabase.Lib.Either

/-
  The redemption of a coupon
  (`ob-handlers/src/coupons/mod.rs`), beside the checkout.

  Key definitions include:
    * `RedeemOp`
    * `redeemCoupon`
    * `CouponCall`
    * `execCoupons`
-/

--------
-- Operations
--------

namespace Orignabase

open Conc

inductive RedeemOp
  | rateLimit (userId : String)
  | getCoupon (code : String)
  | isPast (expiresAt : String)
  | casUsedCount (code : String) (expected value : Int)
  | setUsedCount (code : String) (value : Int)
  | createUse (entry : Redemption)
  deriving DecidableEq, Repr

def RedeemOp.Res : RedeemOp → Type
  | .rateLimit .. => Except Error Unit
  | .getCoupon .. => Except Error Coupon
  | .isPast .. => Bool
  | .casUsedCount .. => Except Error Bool
  | .setUsedCount .. => Except Error Unit
  | .createUse .. => Except Error Unit

namespace Shop

def coupon? (w : Shop) (code : String) : Option Coupon :=
  w.coupons.get (docId "coupons" code)

def setUsedCount (w : Shop) (code : String) (value : Int) :
    Shop :=
  { w with
    coupons :=
      w.coupons.modify (docId "coupons" code) (fun c =>
        { c with usedCount := some value }) }

end Shop

def execRedeem :
    Conc.Exec RedeemOp.Res CheckoutAnswer Shop
  | .rateLimit .., a, w =>
    a.guard w
      (if a.allowed then .ok ()
      else .error (.validation
        "Rate limit exceeded. Please try again later."), w)
  | .getCoupon code, a, w =>
    a.guard w
      (match w.coupon? code with
      | some coupon => .ok coupon
      | none => .error (.notFound "not found"), w)
  | .isPast .., a, w => (a.past, w)
  | .casUsedCount code expected value, a, w =>
    a.guard w
      (if (w.coupon? code).any
          (fun c => c.usedCount = some expected) then
        (.ok true, w.setUsedCount code value)
      else (.ok false, w))
  | .setUsedCount code value, a, w =>
    a.guard w
      (if (w.coupon? code).isSome then
        (.ok (), w.setUsedCount code value)
      else (.error (.notFound "not found"), w))
  | .createUse entry, a, w =>
    a.guard w
      (.ok (),
        { w with redemptions := w.redemptions ++ [entry] })

--------
-- The Handler
--------

open Handler

structure RedeemCouponRequest where
  code : String
  orderId : String
  userId : String
  deriving DecidableEq, Repr

structure RedeemCouponResponse where
  success : Bool
  redeemed : Bool
  deriving DecidableEq, Repr

/- A handler of the redemption. -/
abbrev RedeemHandler (α : Type) :=
  Prog RedeemOp.Res (Except Error α)

def redeemIsPast (coupon : Coupon) : Prog RedeemOp.Res Bool :=
  match coupon.expiresAt with
  | some expiresAt => Prog.perform (RedeemOp.isPast expiresAt)
  | none => .ret false

/-
  Count one more use.  With a limit the counter must still be
  as it was read; without one it is overwritten.
-/
def countUse (code : String) (coupon : Coupon) :
    RedeemHandler Bool :=
  let current := coupon.usedCount.getD 0
  match coupon.maxUses with
  | some limit =>
    if limit ≤ current then ok false
    else
      context
        (Prog.perform (RedeemOp.casUsedCount code current
          (current + 1)))
        "Failed to redeem coupon: "
  | none =>
    andThen (context
        (Prog.perform (RedeemOp.setUsedCount code
          (current + 1)))
        "Failed to redeem coupon: ") fun _ =>
    ok true

/- `POST /api/coupons/redeem` -/
def redeemCoupon
    (t : TextCase)
    (auth : AuthContext)
    (req : RedeemCouponRequest) :
    RedeemHandler RedeemCouponResponse :=
  andThen (lift (validateUid "userId" req.userId)) fun _ =>
  andThen (lift (validateUid "orderId" req.orderId)) fun _ =>
  andThen (lift (resolveSelfUserId auth req.userId "userId"))
    fun userId =>
  andThen (Prog.perform (RedeemOp.rateLimit userId)) fun _ =>
  let code := normalizeCouponCode t req.code
  require (code ≠ "") (.validation "code is required") <|
  andThen (mapErr (Prog.perform (RedeemOp.getCoupon code))
      (fun _ => .notFound "Coupon not found")) fun coupon =>
  (redeemIsPast coupon).bind fun past =>
  if past then ok ⟨true, false⟩
  else
    andThen (countUse code coupon) fun counted =>
    require counted (.validation "Coupon fully redeemed") <|
    andThen (context (Prog.perform (RedeemOp.createUse
          ⟨code, userId, req.orderId⟩))
        "Failed to redeem coupon: ") fun _ =>
    ok ⟨true, true⟩

--------
-- Requests
--------

/- A request to the checkout or to the redemption. -/
inductive CouponCall
  | checkout (call : CheckoutCall)
  | redeem
      (text : TextCase)
      (auth : AuthContext)
      (req : RedeemCouponRequest)

inductive CouponReply
  | checkout (response : CheckoutResponse)
  | redeem (response : RedeemCouponResponse)
  deriving DecidableEq, Repr

abbrev CouponRes := Either CheckoutOp.Res RedeemOp.Res

/- The past of a request, latest event first. -/
abbrev CouponTrace := List (Event CouponRes CheckoutAnswer)

abbrev CouponConfig :=
  Config CouponRes CheckoutAnswer Shop
    (Except Error CouponReply)

def CouponCall.body :
    CouponCall → Prog CouponRes (Except Error CouponReply)
  | .checkout call =>
    (call.handler.map (Except.map .checkout)).left
  | .redeem text auth req =>
    ((redeemCoupon text auth req).map
      (Except.map .redeem)).right

def execCoupons : Conc.Exec CouponRes CheckoutAnswer Shop :=
  Exec.either execCheckout execRedeem

def couponRun (w : Shop) (calls : List CouponCall) :
    CouponConfig :=
  Config.start w (calls.map CouponCall.body)

end Orignabase
