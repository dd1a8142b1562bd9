import Orignabase.Checkout.Pricing
import Orignabase.Core.Json
import Orignabase.Store.Api

/-
  The creation of a checkout session with its order
  (`ob-handlers/src/payments/checkout.rs`,
  `ob-database/src/transaction.rs`).

  Key definitions include:
    * `Shop`
    * `CheckoutOp`
    * `Transaction.commit`
    * `orderDoc`
    * `createCheckoutSession`
-/

--------
-- Transactions
--------

namespace Orignabase

/- The row id of a coupon use. -/
def CouponUse.rowId (entry : CouponUse) : String :=
  entry.orderId ++ ":" ++ entry.couponCode ++ ":" ++ entry.userId

inductive Statement
  | insertOrder (id : String) (doc : Order)
  | insertCouponUse (entry : CouponUse)
  | reserveStock (productId : String) (quantity : Int)
  deriving DecidableEq, Repr

/-
  The effect of a statement with the number of rows it
  affects; `none` when it fails.
-/
def Statement.run (s : Statement) (w : Store) :
    Option (Nat × Store) :=
  match s with
  | .insertOrder id doc =>
    if (w.orders.get id).isSome then none
    else
      some (1, { w with orders := w.orders.insert id doc })
  | .insertCouponUse entry =>
    if w.couponUses.any (fun c => c.rowId = entry.rowId) then
      none
    else
      some (1, { w with couponUses := w.couponUses ++ [entry] })
  | .reserveStock id quantity =>
    match (w.products.get id).bind (·.stockQuantity) with
    | some stock =>
      if quantity ≤ stock then
        some (1,
          { w with
            products := w.products.modify id (fun p =>
              { p with
                stockQuantity :=
                  some (stock - quantity) }) })
      else some (0, w)
    | none => some (0, w)

namespace Transaction

/- All statements in order, or none of them. -/
def runAll : List Statement → Store →
    Option (List Nat × Store)
  | [], w => some ([], w)
  | s :: rest, w =>
    match s.run w with
    | none => none
    | some (n, w') =>
      (runAll rest w').map (fun out =>
        (n :: out.1, out.2))

/- What `commit` reports of one statement. -/
def rowsAffected (n : Nat) : Value :=
  .object [("rows_affected", .number ⟨false, n, [], none⟩)]

def commit (queries : List Statement) (w : Store) :
    Except Error (List Value) × Store :=
  match runAll queries w with
  | some (counts, w') => (.ok (counts.map rowsAffected), w')
  | none =>
    (.error (.database "Transaction query failed"), w)

end Transaction

--------
-- The Shop
--------

structure Coupon where
  code : String := ""
  isActive : Bool := false
  expiresAt : Option String := none
  sellerId : Option String := none
  minOrderCents : Option Int := none
  maxUses : Option Int := none
  maxUsesPerUser : Option Int := none
  usedCount : Option Int := none
  couponType : Option String := none
  discountType : Option String := none
  discountValue : DiscountValue := ⟨0, 0⟩
  deriving DecidableEq, Repr

/- What a session is created with at Stripe. -/
structure SessionParams where
  orderId : String
  userId : String
  couponCode : Option String
  subtotalCents : Int
  shippingCostCents : Int
  taxAmountCents : Int
  deriving DecidableEq, Repr

/- What Stripe answers. -/
structure StripeSession where
  id : Option String
  url : Option String
  deriving DecidableEq, Repr

/- A session Stripe created, by its idempotency key. -/
structure SessionRecord where
  key : String
  params : SessionParams
  session : StripeSession
  deriving DecidableEq, Repr

/- A use of a coupon that `redeem_coupon` recorded. -/
structure Redemption where
  couponId : String
  userId : String
  orderId : String
  deriving DecidableEq, Repr

/-
  The store with the coupons and the sessions at Stripe.  The
  rows of `coupon_uses` are those of the store, which belong to
  orders, and the redemptions.
-/
structure Shop where
  store : Store := {}
  coupons : Table Coupon := ⟨[]⟩
  redemptions : List Redemption := []
  sessions : List SessionRecord := []
  deriving DecidableEq, Repr

namespace Shop

def session? (w : Shop) (key : String) :
    Option SessionRecord :=
  w.sessions.find? (fun r => r.key = key)

/- The row that the query for duplicates selects. -/
def duplicate? (w : Shop) (buyerId key : String) :
    Option Order :=
  (w.store.orders.rows.map (·.2)).find? (fun o =>
    o.buyerId = buyerId && o.idempotencyKey = key)

/- The rows of `coupon_uses` with the id of a coupon. -/
def uses (w : Shop) (code : String) : Nat :=
  w.store.couponUses.countP (fun c => c.couponCode = code) +
    w.redemptions.countP (fun c => c.couponId = code)

def userUses (w : Shop) (code userId : String) : Nat :=
  w.store.couponUses.countP (fun c =>
      c.couponCode = code && c.userId = userId) +
    w.redemptions.countP (fun c =>
      c.couponId = code && c.userId = userId)

end Shop

inductive CheckoutOp
  | validateTurnstileToken (token : String)
  | rateLimit (userId : String)
  | getProduct (id : String)
  | getSeller (id : String)
  | getCoupon (code : String)
  | findCoupon (code : String)
  | isPast (expiresAt : String)
  | countUses (couponCode : String)
  | countUserUses (couponCode userId : String)
  | timestampMillis
  | findDuplicate (buyerId key : String)
  | newOrderId
  | createSession (key : String) (params : SessionParams)
  | commit (queries : List Statement)
  deriving DecidableEq, Repr

namespace CheckoutOp

def Res : CheckoutOp → Type
  | .validateTurnstileToken .. => Except Error Unit
  | .rateLimit .. => Except Error Unit
  | .getProduct .. => Except Error (String × Product)
  | .getSeller .. => Except Error User
  | .getCoupon .. => Except Error Coupon
  | .findCoupon .. => Except Error (Option Coupon)
  | .isPast .. => Bool
  | .countUses .. => Except Error Int
  | .countUserUses .. => Except Error Int
  | .timestampMillis => Int
  | .findDuplicate .. => Except Error (Option Order)
  | .newOrderId => String
  | .createSession .. => Except Error StripeSession
  | .commit .. => Except Error (List Value)

end CheckoutOp

/- What the environment decides about one step. -/
structure CheckoutAnswer where
  fault : Bool := false
  allowed : Bool := true
  past : Bool := false
  millis : Int := 0
  orderId : String := ""
  session : StripeSession := ⟨none, none⟩
  deriving DecidableEq, Repr

/- A statement that fails leaves the shop as it was. -/
def CheckoutAnswer.guard
    {α : Type}
    (a : CheckoutAnswer)
    (w : Shop)
    (result : Except Error α × Shop) :
    Except Error α × Shop :=
  if a.fault then (.error .fault, w) else result

def execCheckout :
    Conc.Exec CheckoutOp.Res CheckoutAnswer Shop
  | .validateTurnstileToken .., a, w =>
    a.guard w
      (if a.allowed then .ok ()
      else .error (.forbidden
        "Turnstile verification failed"), w)
  | .rateLimit .., a, w =>
    a.guard w
      (if a.allowed then .ok ()
      else .error (.validation
        "Rate limit exceeded. Please try again later."), w)
  | .getProduct id, a, w =>
    let key := docId "products" id
    a.guard w
      (match w.store.products.get key with
      | some product => .ok (key, product)
      | none => .error (.notFound "not found"), w)
  | .getSeller id, a, w =>
    a.guard w
      (match w.store.users.get (docId "users" id) with
      | some user => .ok user
      | none => .error (.notFound "not found"), w)
  | .getCoupon code, a, w =>
    a.guard w
      (match w.coupons.get (docId "coupons" code) with
      | some coupon => .ok coupon
      | none => .error (.notFound "not found"), w)
  | .findCoupon code, a, w =>
    a.guard w
      (.ok ((w.coupons.rows.map (·.2)).find?
        (fun c => c.code = code)), w)
  | .isPast .., a, w => (a.past, w)
  | .countUses code, a, w =>
    a.guard w (.ok (w.uses code), w)
  | .countUserUses code userId, a, w =>
    a.guard w (.ok (w.userUses code userId), w)
  | .timestampMillis, a, w => (a.millis, w)
  | .findDuplicate buyerId key, a, w =>
    a.guard w (.ok (w.duplicate? buyerId key), w)
  | .newOrderId, a, w => (a.orderId, w)
  | .createSession key params, a, w =>
    a.guard w
      (match w.session? key with
      | some earlier =>
        -- A key is bound to its first parameters.
        (if earlier.params = params then
          .ok earlier.session
        else .error (.internal
          "Failed to create payment session"), w)
      | none =>
        (.ok a.session,
          { w with
            sessions :=
              w.sessions ++ [⟨key, params, a.session⟩] }))
  | .commit queries, a, w =>
    a.guard w
      (let out := Transaction.commit queries w.store
      (out.1, { w with store := out.2 }))

--------
-- Requests
--------

open Conc

structure CartItem where
  productId : String
  quantity : Nat
  deriving DecidableEq, Repr

structure ShippingAddress where
  street : String
  city : String
  state : String
  postalCode : String
  country : String
  deriving DecidableEq, Repr

structure CreateCheckoutRequest where
  items : List CartItem
  shippingAddress : ShippingAddress
  userId : String := ""
  subtotalCents : Int
  couponCode : Option String := none
  eulaAccepted : Bool := false
  ageVerificationAccepted : Bool := false
  idempotencyKey : Option String := none
  turnstileToken : Option String := none
  deriving DecidableEq, Repr

structure CheckoutResponse where
  sessionId : String
  orderId : String
  checkoutUrl : Option String
  success : Bool
  duplicate : Bool
  taxAmountCents : Int
  deriving DecidableEq, Repr

/- What the server is configured with. -/
structure CheckoutConfig where
  text : TextCase
  turnstileSecretKey : Bool
  testMode : Bool
  stripeSecretKey : Bool

/- A handler of the checkout. -/
abbrev CheckoutHandler (α : Type) :=
  Prog CheckoutOp.Res (Except Error α)

/- A check of a request without operations. -/
def check (test : Bool) (e : Error) : Except Error Unit :=
  if test then .ok () else .error e

def maxCartItems : Nat := 30

def maxItemQuantity : Nat := 100

def maxCheckoutSubtotalCents : Int := 10000000

def checkCartItem (item : CartItem) : Except Error Unit := do
  check (item.productId ≠ "")
    (.validation "Each item must have a productId")
  let _ ← validateDocumentId item.productId
  check (item.quantity ≠ 0 && item.quantity ≤ maxItemQuantity)
    (.validation
      ("Invalid quantity for product " ++ item.productId))

/- The result is the province. -/
def checkRequest
    (t : TextCase)
    (req : CreateCheckoutRequest) : Except Error String := do
  check (!req.items.isEmpty) (.validation "No items in cart")
  check (req.items.length ≤ maxCartItems)
    (.validation
      ("Cart exceeds maximum of " ++ toString maxCartItems ++
        " items"))
  req.items.forM checkCartItem
  check (0 ≤ req.subtotalCents)
    (.validation "Subtotal cannot be negative")
  check (req.subtotalCents ≤ maxCheckoutSubtotalCents)
    (.validation "Subtotal exceeds maximum allowed ($100,000)")
  validateString "street" req.shippingAddress.street 200
  validateString "city" req.shippingAddress.city 200
  validateString "postalCode" req.shippingAddress.postalCode
    20
  let country := normalizeCountry t req.shippingAddress.country
  check (isActiveShippingCountry t country)
    (.validation
      "Shipping is currently available within Canada only")
  let province := normalizeProvince t req.shippingAddress.state
  check (validProvinces.contains province)
    (.validation ("Invalid province '" ++ province ++
        "'. Must be one of: " ++
        Text.join ", " validProvinces))
  let postal :=
    normalizePostalCode t req.shippingAddress.postalCode
  check (isValidCanadianPostal t postal)
    (.validation "Invalid Canadian postal code format")
  .ok province

/- The first product read whose id ends with the line's. -/
def findProduct
    (rows : List (String × Product))
    (cartItem : CartItem) : Except Error Product :=
  match rows.find? (fun row =>
      Text.endsWith row.1 cartItem.productId) with
  | some row => .ok row.2
  | none =>
    .error (.notFound
      ("Product " ++ cartItem.productId ++ " not found"))

/- The checks of one cart line against its product. -/
def validateItem
    (req : CreateCheckoutRequest)
    (userId : String)
    (rows : List (String × Product))
    (cartItem : CartItem) : Except Error ValidatedItem := do
  let product ← findProduct rows cartItem
  check (product.lifecycleStatus = "active")
    (.validation ("Product " ++ cartItem.productId ++
        " is not available for purchase"))
  check (cartItem.quantity ≤ product.stock)
    (.validation ("Insufficient stock for product " ++
        cartItem.productId ++ ". Available: " ++
        toString product.stock))
  check (0 < product.priceCents)
    (.validation ("Product " ++ cartItem.productId ++
        " has invalid price"))
  let userIdShort := docId "users" userId
  check (product.sellerId ≠ userIdShort)
    (.validation
      ("Cannot purchase your own products (seller: " ++
        product.sellerId ++ ", buyer: " ++ userIdShort ++
        ")"))
  check
    (!product.isAgeRestricted || req.ageVerificationAccepted)
    (.validation
      "Age verification required for restricted items")
  check (!product.isDigital || req.eulaAccepted)
    (.validation
      "EULA acceptance required for digital products")
  .ok
    { productId := cartItem.productId
      quantity := some cartItem.quantity
      priceCents := product.priceCents
      sellerId := some product.sellerId
      isDigital := product.isDigital
      isPerishable := product.isPerishable
      isLocalDeliveryOnly := product.isLocalDeliveryOnly
      shipFromProvince := product.shipFromProvince
      shipFromCountry := product.shipFromCountry }

/- The price of a line. -/
def Item.lineCents (item : Item) : Int :=
  item.priceCents * item.qty

def rawSubtotal (items : List ValidatedItem) : Int :=
  (items.map (fun item => item.toItem.lineCents)).sum

def uniqueSellerIds (items : List ValidatedItem) :
    List String :=
  (items.map (fun item => item.toItem.seller)).dedup

--------
-- The Order
--------

/- The amounts of an order. -/
structure Amounts where
  subtotalCents : Int
  discountCents : Int
  shippingCents : Int
  taxCents : Int
  deriving DecidableEq, Repr

def Amounts.total (amounts : Amounts) : Int :=
  amounts.subtotalCents + amounts.shippingCents +
    amounts.taxCents

def quote
    (t : TextCase)
    (province : String)
    (items : List ValidatedItem)
    (discount : Int) : Except Error Amounts := do
  let subtotal := rawSubtotal items - discount
  let shipping ←
    calculateShippingCostCents t subtotal province items
  .ok ⟨subtotal, discount, shipping,
      calculateTaxCents (subtotal + shipping) province⟩

/- The document of a new order. -/
def orderDoc
    (orderId userId key sessionId : String)
    (items : List ValidatedItem)
    (couponCode : Option String)
    (amounts : Amounts) : Order :=
  { orderId
    buyerId := userId
    orderStatus := some OrderStatus.pendingPayment.asStr
    paymentStatus := "awaiting_payment"
    items := items.map ValidatedItem.toItem
    subtotalCents := amounts.subtotalCents
    couponCode
    discountAmountCents := amounts.discountCents
    taxAmountCents := amounts.taxCents
    shippingCostCents := amounts.shippingCents
    totalAmountCents := amounts.total
    platformFeeTotalCents :=
      platformFeeCents amounts.subtotalCents
    idempotencyKey := key
    checkoutSessionId := sessionId }

/- The line takes part in the reservation. -/
def Item.isReserved (item : Item) : Bool :=
  !item.isDigital && (validateDocumentId item.productId).isOk &&
    0 < item.qty

/- The reservations, with their places in the transaction. -/
def reservations : List Item → Nat →
    List Statement × List (Nat × String)
  | [], _ => ([], [])
  | item :: rest, index =>
    if item.isReserved then
      let (queries, places) := reservations rest (index + 1)
      (.reserveStock item.productId item.qty :: queries,
        (index, item.productId) :: places)
    else reservations rest index

/- The statements before the reservations. -/
def insertions (orderId userId : String) (doc : Order) :
    List Statement :=
  .insertOrder orderId doc ::
    match doc.couponCode with
    | some code =>
      [.insertCouponUse
        { couponCode := code, userId, orderId }]
    | none => []

/- A result without rows, as the handler recognises it. -/
def isEmptyResult : Option Value → Bool
  | some (.array items) => items.isEmpty
  | some .null => true
  | none => true
  | _ => false

--------
-- The Handler
--------

open Handler

/- The documents that can be read, in the order of the cart. -/
def loadProducts : List CartItem →
    Prog CheckoutOp.Res (List (String × Product))
  | [] => .ret []
  | item :: rest =>
    (Prog.perform (CheckoutOp.getProduct
      item.productId)).bind fun r =>
    (loadProducts rest).bind fun rows =>
    match r with
    | .ok row => .ret (row :: rows)
    | .error _ => .ret rows

/- A seller that cannot be read is not suspended. -/
def checkSellers : List String → CheckoutHandler Unit
  | [] => ok ()
  | sellerId :: rest =>
    (Prog.perform (CheckoutOp.getSeller sellerId)).bind
      fun r =>
    match r with
    | .ok seller =>
      require (!seller.suspended)
        (.validation
          ("Seller " ++ sellerId ++ " is suspended"))
        (checkSellers rest)
    | .error _ => checkSellers rest

def couponUnavailable : String :=
  "Coupon invalid or unavailable"

/- By its id, else by its code. -/
def loadCoupon (code : String) : CheckoutHandler Coupon :=
  (Prog.perform (CheckoutOp.getCoupon code)).bind fun r =>
  match r with
  | .ok coupon => ok coupon
  | .error _ =>
    andThen
      (mapErr (Prog.perform (CheckoutOp.findCoupon code))
        (fun _ => .notFound couponUnavailable)) fun found =>
    match found with
    | some coupon => ok coupon
    | none => fail (.notFound couponUnavailable)

def couponIsPast (coupon : Coupon) :
    Prog CheckoutOp.Res Bool :=
  match coupon.expiresAt with
  | some expiresAt =>
    Prog.perform (CheckoutOp.isPast expiresAt)
  | none => .ret false

/- A count that cannot be read is zero. -/
def countOrZero : Except Error Int → Int
  | .ok n => n
  | .error _ => 0

/- The result is the code and the discount. -/
def validateCheckoutCoupon
    (t : TextCase)
    (couponCode userId : String)
    (rawSubtotalCents : Int)
    (sellerIds : List String) :
    CheckoutHandler (String × Int) :=
  let code := normalizeCouponCode t couponCode
  require (isValidCouponCode code)
    (.validation couponUnavailable) <|
  andThen (loadCoupon code) fun coupon =>
  require coupon.isActive (.validation couponUnavailable) <|
  (couponIsPast coupon).bind fun past =>
  require (!past) (.validation couponUnavailable) <|
  require (coupon.sellerId.all sellerIds.contains)
    (.validation couponUnavailable) <|
  require (coupon.minOrderCents.all (· ≤ rawSubtotalCents))
    (.validation
      ("Cart subtotal does not meet the minimum order " ++
        "requirement for this coupon")) <|
  (Prog.perform (CheckoutOp.countUses code)).bind fun uses =>
  require (coupon.maxUses.all (countOrZero uses < ·))
    (.validation couponUnavailable) <|
  (Prog.perform (CheckoutOp.countUserUses code userId)).bind
    fun userUses =>
  require
    (countOrZero userUses < coupon.maxUsesPerUser.getD 1)
    (.validation
      "You've reached the maximum uses for this coupon") <|
  let discountType :=
    (coupon.couponType.or coupon.discountType).getD ""
  ok (code, computeCouponDiscountCents discountType
      coupon.discountValue rawSubtotalCents)

/- The coupon of the request, if it names one. -/
def resolveCoupon
    (t : TextCase)
    (req : CreateCheckoutRequest)
    (userId : String)
    (items : List ValidatedItem) :
    CheckoutHandler (Option String × Int) :=
  match (req.couponCode.map (normalizeCouponCode t)).filter
      (· ≠ "") with
  | some couponCode =>
    andThen (validateCheckoutCoupon t couponCode userId
        (rawSubtotal items) (uniqueSellerIds items))
      fun found => ok (some found.1, found.2)
  | none => ok (none, 0)

def resolveKey (req : CreateCheckoutRequest) (userId : String) :
    Prog CheckoutOp.Res String :=
  match req.idempotencyKey with
  | some key => .ret key
  | none =>
    (Prog.perform CheckoutOp.timestampMillis).bind
      fun (millis : Int) =>
    .ret ("checkout_" ++ userId ++ "_" ++ toString millis)

/- An order that was stored under the key before. -/
def findDuplicate (userId key : String) :
    Prog CheckoutOp.Res (Option Order) :=
  (Prog.perform (CheckoutOp.findDuplicate userId key)).bind
    fun r =>
  match r with
  | .ok found => .ret found
  | .error _ => .ret none

def duplicateResponse (order : Order) : CheckoutResponse :=
  { sessionId := order.checkoutSessionId
    orderId := order.orderId
    checkoutUrl := none
    success := true
    duplicate := true
    taxAmountCents := order.taxAmountCents }

/- Every reservation is checked for an empty result. -/
def verifyReservations
    (results : List Value)
    (response : CheckoutResponse) :
    List (Nat × String) → CheckoutHandler CheckoutResponse
  | [] => ok response
  | (index, productId) :: rest =>
    if isEmptyResult results[index]? then
      fail (.validation
        ("Insufficient stock for product " ++ productId ++
          ". Please reduce quantity or remove from cart."))
    else verifyReservations results response rest

/- Store the order and reserve its stock. -/
def placeOrder
    (orderId userId : String)
    (doc : Order)
    (response : CheckoutResponse) :
    CheckoutHandler CheckoutResponse :=
  let head := insertions orderId userId doc
  let (queries, places) := reservations doc.items head.length
  andThen (context
      (Prog.perform (CheckoutOp.commit (head ++ queries)))
      ("Failed to create order and reserve stock " ++
        "(atomic transaction): ")) fun results =>
  verifyReservations results response places

/- The session at Stripe, then the order. -/
def openSession
    (config : CheckoutConfig)
    (userId key : String)
    (items : List ValidatedItem)
    (couponCode : Option String)
    (amounts : Amounts) : CheckoutHandler CheckoutResponse :=
  require config.stripeSecretKey
    (.config "Missing required secret: stripe_secret_key") <|
  (Prog.perform CheckoutOp.newOrderId).bind fun orderId =>
  andThen (Prog.perform (CheckoutOp.createSession key
      { orderId, userId, couponCode
        subtotalCents := amounts.subtotalCents
        shippingCostCents := amounts.shippingCents
        taxAmountCents := amounts.taxCents })) fun session =>
  match session.id with
  | none =>
    fail (.internal "Missing session ID from Stripe")
  | some sessionId =>
    placeOrder orderId userId
      (orderDoc orderId userId key sessionId items
        couponCode amounts)
      { sessionId, orderId
        checkoutUrl := session.url
        success := true
        duplicate := false
        taxAmountCents := amounts.taxCents }

/- A validated cart: prices, coupon, duplicates, session. -/
def checkoutCart
    (config : CheckoutConfig)
    (req : CreateCheckoutRequest)
    (userId province : String)
    (items : List ValidatedItem) :
    CheckoutHandler CheckoutResponse :=
  require ((uniqueSellerIds items).length ≤ 1) (.validation
      ("Multi-seller carts require separate checkout " ++
        "sessions per seller.")) <|
  andThen (checkSellers (uniqueSellerIds items)) fun _ =>
  andThen (resolveCoupon config.text req userId items)
    fun coupon =>
  let subtotal := rawSubtotal items - coupon.2
  require
    (subtotalMatchesWithTolerance req.subtotalCents subtotal)
    (.validation
      ("Subtotal mismatch. Expected ~" ++ toString subtotal ++
        " cents, got " ++ toString req.subtotalCents ++
        " cents")) <|
  (resolveKey req userId).bind fun key =>
  (findDuplicate userId key).bind fun existing =>
  match existing with
  | some order => ok (duplicateResponse order)
  | none =>
    andThen (lift (quote config.text province items coupon.2))
      fun amounts =>
    openSession config userId key items coupon.1 amounts

/- The token of a client that is no bot. -/
def checkTurnstile
    (config : CheckoutConfig)
    (req : CreateCheckoutRequest) : CheckoutHandler Unit :=
  match req.turnstileToken with
  | some token =>
    if config.turnstileSecretKey then
      Prog.perform (CheckoutOp.validateTurnstileToken token)
    else
      require config.testMode (.forbidden
          ("Turnstile secret not configured — cannot " ++
            "validate token"))
        (ok ())
  | none =>
    require config.testMode
      (.validation "Turnstile token is required") (ok ())

/- `POST /api/checkout/session` -/
def createCheckoutSession
    (config : CheckoutConfig)
    (auth : AuthContext)
    (req : CreateCheckoutRequest) :
    CheckoutHandler CheckoutResponse :=
  andThen (checkTurnstile config req) fun _ =>
  andThen (lift (resolveSelfUserId auth req.userId "userId"))
    fun userId =>
  andThen (lift (validateUid "userId" userId)) fun _ =>
  andThen (Prog.perform (CheckoutOp.rateLimit userId))
    fun _ =>
  andThen (lift (checkRequest config.text req))
    fun province =>
  (loadProducts req.items).bind fun rows =>
  require (rows.length = req.items.length)
    (.notFound "One or more products not found") <|
  andThen
    (lift (req.items.mapM (validateItem req userId rows)))
    fun items => checkoutCart config req userId province items

end Orignabase
