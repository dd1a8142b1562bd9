import Orignabase.Checkout.Coupons
import Orignabase.Lib.Overflow
import Orignabase.Lib.Retry
import Orignabase.Payments.Webhooks

/-
  The quote of a coupon before the checkout, and the creation
  of coupons (`ob-handlers/src/coupons/mod.rs`).

  Key definitions include:
    * `computeDiscount`
    * `applyCoupon`
    * `createCoupon`
    * `Step`
-/

--------
-- Discount
--------

namespace Orignabase

namespace CouponQuotes

/- `^[A-Z0-9]{4,20}$` -/
def isValidCouponCode (code : String) : Bool :=
  code.toList.all (fun c => c.isUpper || c.isDigit) &&
    4 ≤ code.toList.length && code.toList.length ≤ 20

/- A free shipping is discounted elsewhere. -/
def computeDiscount
    (discountType : String)
    (value : DiscountValue)
    (cartSubtotalCents : ℤ) : ℤ :=
  if cartSubtotalCents ≤ 100 then 0
  else
    match discountType with
    | "percentage" | "percent" =>
      let millipercent := min value.thousandfold 90000
      let discount :=
        (cartSubtotalCents * millipercent).tdiv 100000
      if cartSubtotalCents - discount < 100 then
        cartSubtotalCents - 100
      else discount
    | "fixed_amount" | "fixed_cents" =>
      min value.whole (cartSubtotalCents - 100)
    | "free_shipping" => 0
    | _ => 0

/- The same on numbers of 64 bits. -/
def computeDiscount64
    (checked : Bool)
    (discountType : String)
    (value : DiscountValue)
    (cartSubtotalCents : ℤ) : Option ℤ :=
  if cartSubtotalCents ≤ 100 then some 0
  else
    match discountType with
    | "percentage" | "percent" =>
      let millipercent := min value.thousandfold 90000
      (I64.mul checked cartSubtotalCents millipercent).bind
        fun product =>
      let discount := product.tdiv 100000
      (I64.sub checked cartSubtotalCents discount).bind
        fun rest =>
      if rest < 100 then
        I64.sub checked cartSubtotalCents 100
      else some discount
    | "fixed_amount" | "fixed_cents" =>
      (I64.sub checked cartSubtotalCents 100).map
        (min value.whole)
    | "free_shipping" => some 0
    | _ => some 0

--------
-- The Quote
--------

open Conc Handler

inductive ApplyOp
  | rateLimit (userId : String)
  | getCoupon (code : String)
  | findCoupon (code : String)
  | isPast (expiresAt : String)
  | countUses (couponId userId : String)
  deriving DecidableEq, Repr

def ApplyOp.Res : ApplyOp → Type
  | .rateLimit .. => Except Error Unit
  | .getCoupon .. => Except Error Coupon
  | .findCoupon .. => Except Error (Option Coupon)
  | .isPast .. => Bool
  | .countUses .. => Except Error ℤ

/- A broken literal finds whatever it then asks for. -/
structure ApplyAnswer extends CheckoutAnswer where
  found : ℤ := 0
  deriving DecidableEq, Repr

/- A text that the escaping of literals leaves alone. -/
def plain (text : String) : Bool :=
  text.toList.all (fun c => c != '\'' && c != '\\')

def execApply : Conc.Exec ApplyOp.Res ApplyAnswer Shop
  | .rateLimit .., a, w =>
    a.guard w
      (if a.allowed then .ok ()
      else .error (.validation
        "Rate limit exceeded. Please try again later."), w)
  | .getCoupon code, a, w =>
    a.guard w
      (match w.coupon? code with
      | some coupon => .ok coupon
      | none => .error (.notFound "not found"), w)
  | .findCoupon code, a, w =>
    a.guard w
      (.ok ((w.coupons.rows.map (·.2)).find?
        (fun c => c.code = code)), w)
  | .isPast .., a, w => (a.past, w)
  | .countUses couponId userId, a, w =>
    a.guard w
      (.ok (if plain couponId && plain userId then
          w.userUses couponId userId
        else a.found), w)

/- A handler of the quote. -/
abbrev ApplyHandler (α : Type) :=
  Prog ApplyOp.Res (Except Error α)

structure ApplyCouponRequest where
  code : String
  orderSubtotalCents : ℤ
  sellerIds : Option (List String)
  userId : String
  deriving DecidableEq, Repr

structure ApplyCouponResponse where
  valid : Bool
  discountAmountCents : ℤ
  discountType : String
  discountValue : DiscountValue
  couponCode : String
  deriving DecidableEq, Repr

/- By its id first, then by its code. -/
def fetchCoupon (code : String) : ApplyHandler Coupon :=
  (Prog.perform (ApplyOp.getCoupon code)).bind fun r =>
  match r with
  | .ok coupon => ok coupon
  | .error _ =>
    andThen (mapErr (Prog.perform (ApplyOp.findCoupon code))
        (fun _ => .notFound couponUnavailable)) fun found =>
    match found with
    | some coupon => ok coupon
    | none => fail (.notFound couponUnavailable)

def isExpired (coupon : Coupon) : Prog ApplyOp.Res Bool :=
  match coupon.expiresAt with
  | some expiresAt =>
    Prog.perform (ApplyOp.isPast expiresAt)
  | none => .ret false

def Coupon.type (coupon : Coupon) : String :=
  (coupon.couponType.or coupon.discountType).getD ""

/- `POST /api/coupons/apply` -/
def applyCoupon
    (t : TextCase)
    (auth : AuthContext)
    (req : ApplyCouponRequest) :
    ApplyHandler ApplyCouponResponse :=
  andThen (lift (validateUid "userId" req.userId)) fun _ =>
  andThen (lift (resolveSelfUserId auth req.userId "userId"))
    fun userId =>
  andThen (Prog.perform (ApplyOp.rateLimit userId)) fun _ =>
  let code := t.normalize req.code
  require (isValidCouponCode code)
    (.validation couponUnavailable) <|
  require (0 ≤ req.orderSubtotalCents) (.validation
      "cartSubtotalCents must be a non-negative integer") <|
  andThen (fetchCoupon code) fun coupon =>
  require coupon.isActive (.validation couponUnavailable) <|
  (isExpired coupon).bind fun expired =>
  require (!expired) (.validation couponUnavailable) <|
  require (coupon.maxUses.all (coupon.usedCount.getD 0 < ·))
    (.validation couponUnavailable) <|
  (Prog.perform (ApplyOp.countUses code userId)).bind
    fun userUses =>
  require
    (countOrZero userUses < coupon.maxUsesPerUser.getD 1)
    (.validation
      "You've reached the maximum uses for this coupon") <|
  require
    (coupon.sellerId.all (req.sellerIds.getD []).contains)
    (.validation couponUnavailable) <|
  require
    (coupon.minOrderCents.all (· ≤ req.orderSubtotalCents))
    (.validation
      ("Cart subtotal does not meet the minimum order " ++
        "requirement for this coupon")) <|
  ok
    { valid := true
      discountAmountCents :=
        computeDiscount (Coupon.type coupon)
          coupon.discountValue req.orderSubtotalCents
      discountType := Coupon.type coupon
      discountValue := coupon.discountValue
      couponCode := code }

--------
-- Creation
--------

inductive CreateOp
  | rateLimit (userId : String)
  | getUser (userId : String)
  | getCoupon (code : String)
  | upsertCoupon (code : String) (coupon : Coupon)
  deriving DecidableEq, Repr

def CreateOp.Res : CreateOp → Type
  | .rateLimit .. => Except Error Unit
  | .getUser .. => Except Error User
  | .getCoupon .. => Except Error Coupon
  | .upsertCoupon .. => Except Error Unit

def execCreate : Conc.Exec CreateOp.Res CheckoutAnswer Shop
  | .rateLimit .., a, w =>
    a.guard w
      (if a.allowed then .ok ()
      else .error (.validation
        "Rate limit exceeded. Please try again later."), w)
  | .getUser userId, a, w =>
    a.guard w
      (match w.store.users.get (docId "users" userId) with
      | some user => .ok user
      | none => .error (.notFound "not found"), w)
  | .getCoupon code, a, w =>
    a.guard w
      (match w.coupon? code with
      | some coupon => .ok coupon
      | none => .error (.notFound "not found"), w)
  | .upsertCoupon code coupon, a, w =>
    a.guard w
      (.ok (),
        { w with
          coupons := w.coupons.upsert (docId "coupons" code)
              coupon })

/- A handler of the creation. -/
abbrev CreateHandler (α : Type) :=
  Prog CreateOp.Res (Except Error α)

structure CreateCouponRequest where
  code : String
  discountType : String
  discountValue : ℤ
  minOrderCents : Option ℤ := none
  maxUsesTotal : Option ℤ := none
  maxUsesPerUser : Option ℤ := none
  expiresAt : Option String := none
  sellerId : Option String := none
  isActive : Bool := true
  userId : String
  deriving DecidableEq, Repr

structure CreateCouponResponse where
  success : Bool
  id : String
  couponCode : String
  created : Bool
  deriving DecidableEq, Repr

/-
  What the code takes from a number without a fraction.  A
  number beyond 64 bits is cut to the greatest of them.
-/
def integerValue (value : ℤ) : DiscountValue where
  thousandfold := 1000 * value
  whole := min value (2 ^ 63 - 1)

def isPercent (discountType : String) : Bool :=
  ["percentage", "percent"].contains discountType

def isFixed (discountType : String) : Bool :=
  ["fixed_amount", "fixed_cents"].contains discountType

def validTypes : List String :=
  ["percentage", "percent", "fixed_amount", "fixed_cents",
    "free_shipping"]

/- A fixed discount needs a minimum order above it. -/
def checkMinOrder
    (checked : Bool)
    (req : CreateCouponRequest) : Except Error Unit :=
  if isFixed req.discountType then
    match
      I64.add checked (integerValue req.discountValue).whole
        500 with
    | none =>
      -- The addition ends a checked build.
      .error (.internal "attempt to add with overflow")
    | some minRequired =>
      check (req.minOrderCents.all (minRequired ≤ ·))
        (.validation
          ("Fixed coupon requires minOrderCents >= " ++
            toString minRequired))
  else .ok ()

def checkCoupon
    (checked : Bool)
    (req : CreateCouponRequest) : Except Error Unit := do
  check (validTypes.contains req.discountType)
    (.validation ("discountType must be one of: " ++
        Text.join ", " validTypes))
  check (0 < req.discountValue)
    (.validation "discountValue must be a positive number")
  check
    (!isPercent req.discountType ||
      (1 ≤ req.discountValue && req.discountValue ≤ 90))
    (.validation "Percent discount must be between 1 and 90")
  check
    (!isFixed req.discountType || 100 ≤ req.discountValue)
    (.validation
      "Fixed discount must be at least 100 cents ($1.00)")
  checkMinOrder checked req
  check (req.minOrderCents.all (0 ≤ ·))
    (.validation
      "minOrderCents must be a non-negative integer")
  check (req.maxUsesTotal.all (1 ≤ ·))
    (.validation "maxUsesTotal must be a positive integer")

/- `rfc3339` reads a time and writes it again. -/
def couponDoc
    (rfc3339 : String → Option String)
    (code : String)
    (req : CreateCouponRequest) : Coupon where
  code
  isActive := req.isActive
  expiresAt := req.expiresAt.bind rfc3339
  sellerId := req.sellerId
  minOrderCents := req.minOrderCents
  maxUses := req.maxUsesTotal
  maxUsesPerUser := some (req.maxUsesPerUser.getD 1)
  usedCount := some 0
  couponType := some req.discountType
  discountValue := integerValue req.discountValue

/- `POST /api/admin/coupons/create` -/
def createCoupon
    (checked : Bool)
    (t : TextCase)
    (rfc3339 : String → Option String)
    (auth : AuthContext)
    (req : CreateCouponRequest) :
    CreateHandler CreateCouponResponse :=
  andThen (lift (validateUid "userId" req.userId)) fun _ =>
  andThen (lift (resolveSelfUserId auth req.userId "userId"))
    fun userId =>
  andThen (Prog.perform (CreateOp.rateLimit userId)) fun _ =>
  andThen (mapErr (Prog.perform (CreateOp.getUser userId))
      (fun _ => .notFound "User not found")) fun user =>
  require (user.roles.contains "admin")
    (.forbidden "Admin access required") <|
  let code := t.normalize req.code
  require (isValidCouponCode code) (.validation
      "Code must be 4-20 uppercase alphanumeric characters") <|
  andThen (lift (checkCoupon checked req)) fun _ =>
  (Prog.perform (CreateOp.getCoupon code)).bind
    fun existing =>
  require (!Except.isOk existing) (.validation
      ("Coupon code '" ++ code ++ "' already exists")) <|
  andThen (context (Prog.perform (CreateOp.upsertCoupon code
        (couponDoc rfc3339 code req)))
      "Failed to create coupon: ") fun _ =>
  ok
    { success := true
      id := "coupons:" ++ code
      couponCode := code
      created := true }

--------
-- Histories
--------

/- No statement fails. -/
def Undisturbed
    {Op : Type}
    {Res : Op → Type} : StepCond Res CheckoutAnswer Shop :=
  fun _ _ a _ => a.fault = false

/-
  A request that changes coupons or their uses, from its start
  to its end.
-/
inductive Step (checked : Bool) (t : TextCase) :
    Shop → Shop → Prop
  | create
      {w w' : Shop}
      {rfc3339 : String → Option String}
      {auth : AuthContext}
      {req : CreateCouponRequest}
      {tr : List (Event CreateOp.Res CheckoutAnswer)}
      {r : Except Error CreateCouponResponse}
      (hEnds :
        Prog.Ends execCreate Undisturbed [] w
          (createCoupon checked t rfc3339 auth req) tr w' r) :
      Step checked t w w'
  | checkout
      {w w' : Shop}
      {call : CheckoutCall}
      {tr : CheckoutTrace}
      {r : Except Error CheckoutResponse}
      (hText : call.config.text = t)
      (hEnds :
        Prog.Ends execCheckout Undisturbed [] w call.handler
          tr w' r) :
      Step checked t w w'
  | redeem
      {w w' : Shop}
      {auth : AuthContext}
      {req : RedeemCouponRequest}
      {tr : List (Event RedeemOp.Res CheckoutAnswer)}
      {r : Except Error RedeemCouponResponse}
      (hEnds :
        Prog.Ends execRedeem Undisturbed [] w
          (redeemCoupon t auth req) tr w' r) :
      Step checked t w w'
  | mark
      {w : Shop}
      {orderId couponCode : String}
      {tr : Trace}
      {store : Store}
      {r : Except Error Unit}
      (hEnds :
        Prog.Ends exec NoFault [] w.store
          (markCouponRedeemed t.upper orderId couponCode)
          tr store r) :
      Step checked t w { w with store }
  | release
      {w : Shop}
      {orderId : String}
      {tr : Trace}
      {store : Store}
      {r : Except Error Unit}
      (hEnds :
        Prog.Ends exec NoFault [] w.store
          (releaseCouponReservation orderId) tr store r) :
      Step checked t w { w with store }

/- What the environment says at one time. -/
def checkoutAt (past : String → Bool) :
    CheckoutOp → CheckoutAnswer
  | .isPast expiresAt => { past := past expiresAt }
  | _ => {}

def applyAt (past : String → Bool) : ApplyOp → ApplyAnswer
  | .isPast expiresAt => { past := past expiresAt }
  | _ => {}

/- What the checkout makes of a code at one time. -/
def checkoutQuote
    (t : TextCase)
    (past : String → Bool)
    (w : Shop)
    (code userId : String)
    (sellerIds : List String)
    (subtotal : ℤ) : Except Error (String × ℤ) :=
  (Prog.settle execCheckout (checkoutAt past) w
    (validateCheckoutCoupon t code userId subtotal
      sellerIds)).1

/- What the quote makes of it, below the rate limit. -/
def applyQuote
    (t : TextCase)
    (past : String → Bool)
    (w : Shop)
    (auth : AuthContext)
    (code userId : String)
    (sellerIds : List String)
    (subtotal : ℤ) : Except Error ApplyCouponResponse :=
  (Prog.settle execApply (applyAt past) w
    (applyCoupon t auth
      { code
        orderSubtotalCents := subtotal
        sellerIds := some sellerIds
        userId })).1

end CouponQuotes

end Orignabase
