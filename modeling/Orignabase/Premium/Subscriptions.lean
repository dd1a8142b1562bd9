import Orignabase.Premium.Store

/-
  The requests and webhooks of premium subscriptions
  (`ob-handlers/src/payments/subscriptions.rs`).

  Key definitions include:
    * `createSubscription`
    * `cancelSubscription`
    * `subscriptionStatus`
    * `reactivateSubscription`
    * `routeSubscriptionWebhook`
    * `isSubscriptionBenefitsActive`
-/

--------
-- Requests And Responses
--------

namespace Orignabase.Premium

structure CreateSubscriptionRequest where
  userId : Option String := none
  interval : Option String := none
  paymentMethodId : Option String := none
  deriving DecidableEq, Repr

structure CreateSubscriptionResponse where
  success : Bool
  subscriptionId : Option String
  checkoutUrl : Option String
  clientSecret : Option String
  status : String
  deriving DecidableEq, Repr

/- A request about the subscription of the caller. -/
structure SubscriptionRequest where
  userId : Option String := none
  deriving DecidableEq, Repr

structure CancelSubscriptionResponse where
  success : Bool
  status : String
  deriving DecidableEq, Repr

structure SubscriptionStatusResponse where
  success : Bool
  isPremium : Bool
  status : String
  currentPeriodEnd : Option String
  stripeSubscriptionId : Option String
  deriving DecidableEq, Repr

structure ReactivateSubscriptionResponse where
  success : Bool
  status : String
  deriving DecidableEq, Repr

--------
-- Helpers
--------

open Conc Handler Timestamp

def subscriptionBenefitsDelayHours : Int := 48

def maxEarlyCancels : Int := 3

def earlyCancelDays : Int := 7

def normalizeSubscriptionInterval
    (interval : Option String) : Except Error String :=
  let text := Text.toAsciiLowercase
      (Text.trim (interval.getD "monthly"))
  if ["month", "monthly"].contains text then .ok "month"
  else if
      ["year", "yearly", "annual", "annually"].contains text
    then .ok "year"
  else
    .error (.validation
      ("interval must be one of monthly/yearly; got " ++
        text))

/- The id of a user without its collection in front. -/
def rawUserId (userId : String) : String :=
  (Text.stripPrefix "users:" userId).getD userId

def validateRecordId (id : String) : Except Error String :=
  if id = "" then
    .error (.validation "Record ID cannot be empty")
  else if id.utf8ByteSize > 512 then
    .error (.validation "Record ID too long (max 512)")
  else
    match id.splitOn ":" with
    | [collection, recordId] =>
      if collection = "" then
        .error
          (.validation "Collection name cannot be empty")
      else
        (validateIdentifier collection).bind fun _ =>
        if recordId = "" then
          .error
            (.validation "Record ID part cannot be empty")
        else
          (validateDocumentId recordId).bind fun _ => .ok id
    | _ =>
      .error (.validation
        ("Record ID '" ++ id ++ "' must be in format " ++
          "'collection:record_id'"))

/- The customer of a user, made if there is none yet. -/
def ensureCustomer (userId : String) : Handler String :=
  andThen (mapErr (Db.getUser userId) (fun _ =>
        .notFound ("User " ++ userId ++ " not found")))
    fun user =>
  if user.customerId ≠ "" then ok user.customerId
  else
    andThen (mapErr (Db.createCustomer userId) (fun _ =>
          .internal "Failed to create Stripe customer"))
      fun customer =>
    match customer with
    | none =>
      fail (.internal "Missing customer ID from Stripe")
    | some customerId =>
      andThen (Db.updateUser userId
          { customerId := some customerId })
        fun _ => ok customerId

/- By the id of the user, else by the buyer. -/
def getUserSubscription (userId : String) :
    Handler (Option Subscription) :=
  (Db.getSubscription (rawUserId userId)).bind fun r =>
  match r with
  | .ok doc => ok (some doc)
  | .error _ =>
    andThen (lift (validateRecordId userId)) fun _ =>
    Db.findSubscriptionOf userId

def requireSubscription (userId : String) :
    Handler Subscription :=
  andThen (getUserSubscription userId) fun found =>
  match found with
  | some doc => ok doc
  | none => fail (.notFound "No subscription found")

def Subscription.stripeId (doc : Subscription) : String :=
  doc.stripeSubscriptionId.getD ""

/- The status under its first name, else its second. -/
def Subscription.statusOr
    (doc : Subscription)
    (default : String) : String :=
  (doc.status.or doc.subscriptionStatus).getD default

/- The caller, known by name and within the limits. -/
def asSelf
    {α : Type}
    (auth : AuthContext)
    (provided : Option String)
    (action : String)
    (body : String → Handler α) : Handler α :=
  andThen (lift
      (resolveSelfUserId auth (provided.getD "") "userId"))
    fun userId =>
  andThen (lift (validateUid "userId" userId)) fun _ =>
  andThen (Db.rateLimit userId action) fun _ =>
  body userId

--------
-- Creation
--------

/- Without a payment method: a page where the buyer pays. -/
def checkoutSubscription
    (userId customerId interval : String) :
    Handler CreateSubscriptionResponse :=
  andThen (Db.getUser userId) fun user =>
  require (!user.roles.contains "seller") (.validation
      ("Seller accounts cannot currently subscribe to " ++
        "Premium.")) <|
  andThen (mapErr (Db.createCheckout customerId interval)
      (fun _ =>
        .internal
          ("Failed to create subscription checkout " ++
            "session")))
    fun session =>
  require (session.1 ≠ "")
    (.internal "Stripe did not return a checkout URL") <|
  -- Only the page and its time are stored.
  (Db.updateUser userId {}).bind fun _ =>
  ok ⟨true, some session.2, some session.1, none,
    "checkout_pending"⟩

/- The document of a subscription that was just made. -/
def newSubscription
    (userId : String)
    (sub : StripeSubscription)
    (created : String)
    (now : Int) : SubscriptionPatch :=
  let status :=
    if sub.status.getD "incomplete" = Status.active.asStr
    then Status.active.asStr
    else "incomplete"
  { buyerId := some userId
    stripeSubscriptionId := some (sub.id.getD "")
    status := some status
    subscriptionStatus := some status
    currentPeriodEnd := some (sub.currentPeriodEnd.getD 0)
    benefitsActiveAt := some
        (secondOf now + subscriptionBenefitsDelayHours * 3600)
    createdAt := some created }

/- With a payment method: a subscription at once. -/
def payForSubscription
    (userId customerId interval methodId : String) :
    Handler CreateSubscriptionResponse :=
  andThen (mapErr (Db.attachMethod methodId customerId)
      (fun _ =>
        .internal "Failed to attach payment method"))
    fun _ =>
  (Db.setDefaultMethod methodId customerId).bind fun _ =>
  andThen
    (mapErr (Db.createStripeSubscription customerId interval)
      (fun _ => .internal "Failed to create subscription"))
    fun sub =>
  Db.utcNow.bind fun created =>
  Db.utcNow.bind fun now =>
  andThen (context (Db.upsertSubscription (rawUserId userId)
        (newSubscription userId sub (toRfc3339 created) now))
      "Failed to store subscription: ") fun _ =>
  let status := sub.status.getD "incomplete"
  let response : CreateSubscriptionResponse :=
    ⟨true, some (sub.id.getD ""), none, sub.clientSecret,
      status⟩
  if status = Status.active.asStr then
    (Db.updateUser userId { isPremium := some true }).bind
      fun _ => ok response
  else ok response

/- `POST /api/subscriptions/create` -/
def createSubscription
    (auth : AuthContext)
    (req : CreateSubscriptionRequest) :
    Handler CreateSubscriptionResponse :=
  andThen (lift
      (resolveSelfUserId auth (req.userId.getD "") "userId"))
    fun userId =>
  andThen (lift (normalizeSubscriptionInterval req.interval))
    fun interval =>
  andThen (lift (validateUid "userId" userId)) fun _ =>
  andThen (lift (match req.paymentMethodId with
      | some methodId =>
        validateUid "paymentMethodId" methodId
      | none => .ok ()))
    fun _ =>
  andThen (Db.rateLimit userId "create_subscription") fun _ =>
  (Db.earlyCancelCount userId).bind fun counted =>
  require ((counted.toOption.join).getD 0 < maxEarlyCancels)
    (.validation
      ("Too many short-term subscriptions. Please contact " ++
        "support@orignagta.ca.")) <|
  andThen (Db.activeSubscription userId) fun existing =>
  match existing with
  | some id =>
    fail (.validation
      ("User already has an active subscription: " ++ id))
  | none =>
    andThen (ensureCustomer userId) fun customerId =>
    match req.paymentMethodId with
    | none =>
      checkoutSubscription userId customerId interval
    | some methodId =>
      payForSubscription userId customerId interval methodId

--------
-- Cancellation And Reactivation
--------

def cancelPendingPatch : SubscriptionPatch where
  status := some Status.cancelPending.asStr
  subscriptionStatus := some Status.cancelPending.asStr

/- The second of an RFC 3339 text, which the library reads. -/
abbrev ParseRfc3339 := String → Option Int

/- `POST /api/subscriptions/cancel` -/
def cancelSubscription
    (parse : ParseRfc3339)
    (auth : AuthContext)
    (req : SubscriptionRequest) :
    Handler CancelSubscriptionResponse :=
  asSelf auth req.userId "cancel_subscription" fun userId =>
  andThen (requireSubscription userId) fun doc =>
  require (doc.stripeId ≠ "")
    (.internal "Subscription has no Stripe ID") <|
  if doc.statusOr "" = Status.cancelled.asStr then
    ok ⟨true, Status.cancelled.asStr⟩
  else
    andThen (mapErr
        (Db.setCancelAtPeriodEnd doc.stripeId true)
        (fun _ =>
          .internal "Failed to cancel subscription"))
      fun _ =>
    Db.utcNow.bind fun now =>
    let created := (doc.createdAt.bind parse).getD 0
    let days := Int.tdiv (secondOf now - created) 86400
    (if days < earlyCancelDays then
        Db.countEarlyCancel userId
      else ok ()).bind fun _ =>
    -- The user stays premium until the subscription ends.
    (Db.updateSubscription (rawUserId userId)
      cancelPendingPatch).bind fun _ =>
    ok ⟨true, Status.cancelPending.asStr⟩

def reactivatePatch : SubscriptionPatch where
  status := some Status.active.asStr
  subscriptionStatus := some Status.active.asStr

/- `POST /api/subscriptions/reactivate` -/
def reactivateSubscription
    (auth : AuthContext)
    (req : SubscriptionRequest) :
    Handler ReactivateSubscriptionResponse :=
  asSelf auth req.userId "reactivate_subscription"
    fun userId =>
  andThen (requireSubscription userId) fun doc =>
  require (doc.stripeId ≠ "")
    (.internal "Subscription has no Stripe ID") <|
  if doc.statusOr "" = Status.active.asStr then
    ok ⟨true, Status.active.asStr⟩
  else
    require (doc.statusOr "" ≠ Status.expired.asStr)
      (.validation
        ("Cannot reactivate an expired subscription. " ++
          "Please create a new one.")) <|
    andThen (mapErr
        (Db.setCancelAtPeriodEnd doc.stripeId false)
        (fun _ =>
          .internal "Failed to reactivate subscription"))
      fun _ =>
    (Db.updateSubscription (rawUserId userId)
      reactivatePatch).bind fun _ =>
    (Db.updateUser userId { isPremium := some true }).bind
      fun _ => ok ⟨true, Status.active.asStr⟩

--------
-- Readings
--------

/- The text of a second, empty outside the calendar. -/
def periodEndText (second : Int) : String :=
  let year := yearOf (second * nanosPerSecond)
  if -262143 ≤ year && year ≤ 262142 then
    toRfc3339 (second * nanosPerSecond)
  else ""

/- `POST /api/subscriptions/status` -/
def subscriptionStatus
    (auth : AuthContext)
    (req : SubscriptionRequest) :
    Handler SubscriptionStatusResponse :=
  asSelf auth req.userId "subscription_status" fun userId =>
  andThen (getUserSubscription userId) fun found =>
  match found with
  | none => ok ⟨true, false, "none", none, none⟩
  | some doc =>
    let status := doc.statusOr "unknown"
    ok ⟨true, status = Status.active.asStr, status,
      doc.currentPeriodEnd.map periodEndText,
      doc.stripeSubscriptionId⟩

def i64Max : Int := 2 ^ 63 - 1

/- A row without a readable time is never due. -/
def isSubscriptionBenefitsActive (userId : String) :
    Prog Op.Res Bool :=
  (Db.benefitsRow userId).bind fun r =>
  match r with
  | .ok (some row) =>
    let benefitsAt :=
      (row.benefitsActiveAt.value.bind Value.asI64).getD
        i64Max
    Db.utcNow.bind fun now =>
    .ret (benefitsAt ≤ secondOf now)
  | _ => .ret false

--------
-- Webhooks
--------

/-
  The data of a Stripe event.  No handler reads which
  subscription it is about.
-/
structure EventData where
  customer : Option String := none
  subscriptionId : String := ""
  status : Option String := none
  currentPeriodEnd : Option Int := none
  deriving DecidableEq, Repr

/- The id under its first name, else that of the row. -/
def extractUid (row : String × User) : String :=
  row.2.uid.getD row.1

/- The user of the customer; without one, nothing is done. -/
def forCustomer
    (data : EventData)
    (body : String → Handler Unit) : Handler Unit :=
  match data.customer with
  | none => ok ()
  | some customerId =>
    andThen (Db.findUserByCustomer customerId) fun found =>
    match found with
    | none => ok ()
    | some row => body (extractUid row)

def handleSubscriptionCreated (data : EventData) :
    Handler Unit :=
  forCustomer data fun uid =>
  Db.utcNow.bind fun now =>
  Db.updateUser uid
    { isPremium := some true
      premiumSince := some (some (toRfc3339 now)) }

def handleSubscriptionUpdated (data : EventData) :
    Handler Unit :=
  forCustomer data fun uid =>
  let status := data.status.getD "unknown"
  Db.updateSubscription (rawUserId uid)
    { status := some status
      subscriptionStatus := some status
      currentPeriodEnd :=
        some (data.currentPeriodEnd.getD 0) }

def handleSubscriptionDeleted (data : EventData) :
    Handler Unit :=
  forCustomer data fun uid =>
  Db.utcNow.bind fun now =>
  andThen (Db.updateUser (rawUserId uid)
      { isPremium := some false
        premiumExpiresAt := some (some (toRfc3339 now)) })
    fun _ =>
  Db.updateSubscription (rawUserId uid)
    { status := some Status.cancelled.asStr
      subscriptionStatus := some Status.cancelled.asStr }

def handleInvoicePaymentFailed (data : EventData) :
    Handler Unit :=
  forCustomer data fun uid =>
  andThen (Db.updateUser (rawUserId uid) {}) fun _ =>
  andThen (Db.updateSubscription (rawUserId uid)
      { status := some Status.pastDue.asStr
        subscriptionStatus := some Status.pastDue.asStr })
    fun _ =>
  (Db.notifyPaymentFailed (rawUserId uid)).bind fun _ => ok ()

def routeSubscriptionWebhook
    (eventType : String)
    (data : EventData) : Handler Unit :=
  if eventType = "customer.subscription.created" then
    handleSubscriptionCreated data
  else if eventType = "customer.subscription.updated" then
    handleSubscriptionUpdated data
  else if eventType = "customer.subscription.deleted" then
    handleSubscriptionDeleted data
  else if eventType = "invoice.payment_failed" then
    handleInvoicePaymentFailed data
  else ok ()

end Orignabase.Premium
