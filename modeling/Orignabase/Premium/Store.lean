import Orignabase.Core.Json
import Orignabase.Lib.Timestamp
import Orignabase.Store.Api

/-
  The documents of premium subscriptions and the statements
  and remote calls on them
  (`ob-handlers/src/payments/subscriptions.rs`,
  `ob-database/src/pg_store.rs`).

  Times are instants in nanoseconds; periods end at whole
  seconds.

  Key definitions include:
    * `Subscription`
    * `Store`
    * `Op`
    * `exec`
-/

--------
-- Documents
--------

namespace Orignabase.Premium

/- `SubscriptionStatus` -/
inductive Status
  | active
  | cancelled
  | cancelPending
  | pastDue
  | expired
  deriving DecidableEq, Repr

def Status.asStr : Status → String
  | active => "active"
  | cancelled => "cancelled"
  | cancelPending => "cancel_pending"
  | pastDue => "past_due"
  | expired => "expired"

/- The subscription of a user, under the id of the user. -/
structure Subscription where
  buyerId : String := ""
  stripeSubscriptionId : Option String := none
  status : Option String := none
  subscriptionStatus : Option String := none
  currentPeriodEnd : Option Int := none
  benefitsActiveAt : Option Int := none
  createdAt : Option String := none
  deriving DecidableEq, Repr

structure User where
  uid : Option String := none
  customerId : String := ""
  roles : List String := []
  isPremium : Bool := false
  premiumExpiresAt : Option String := none
  stripeSubscriptionId : Option String := none
  premiumSince : Option String := none
  deriving DecidableEq, Repr

/- A delivered webhook event, stored at a second. -/
structure StoredEvent where
  timestamp : Int
  deriving DecidableEq, Repr

structure SubscriptionPatch where
  buyerId : Option String := none
  stripeSubscriptionId : Option String := none
  status : Option String := none
  subscriptionStatus : Option String := none
  currentPeriodEnd : Option Int := none
  benefitsActiveAt : Option Int := none
  createdAt : Option String := none
  deriving DecidableEq, Repr

/- A field that is set to null is set to `some none`. -/
structure UserPatch where
  customerId : Option String := none
  isPremium : Option Bool := none
  premiumExpiresAt : Option (Option String) := none
  stripeSubscriptionId : Option (Option String) := none
  premiumSince : Option (Option String) := none
  deriving DecidableEq, Repr

namespace SubscriptionPatch

def apply (patch : SubscriptionPatch) (doc : Subscription) :
    Subscription where
  buyerId := patch.buyerId.getD doc.buyerId
  stripeSubscriptionId :=
    patch.stripeSubscriptionId.or doc.stripeSubscriptionId
  status := patch.status.or doc.status
  subscriptionStatus :=
    patch.subscriptionStatus.or doc.subscriptionStatus
  currentPeriodEnd :=
    patch.currentPeriodEnd.or doc.currentPeriodEnd
  benefitsActiveAt :=
    patch.benefitsActiveAt.or doc.benefitsActiveAt
  createdAt := patch.createdAt.or doc.createdAt

end SubscriptionPatch

namespace UserPatch

def apply (patch : UserPatch) (user : User) : User :=
  { user with
    customerId := patch.customerId.getD user.customerId
    isPremium := patch.isPremium.getD user.isPremium
    premiumExpiresAt :=
      patch.premiumExpiresAt.getD user.premiumExpiresAt
    stripeSubscriptionId := patch.stripeSubscriptionId.getD
        user.stripeSubscriptionId
    premiumSince :=
      patch.premiumSince.getD user.premiumSince }

end UserPatch

--------
-- Columns
--------

/- A column of a row that has no document. -/
inductive Column
  | int8 (n : Option Int)
  | text (s : Option String)
  deriving DecidableEq, Repr

def intValue (n : Int) : Value :=
  .number
    { negative := decide (n < 0)
      int := n.natAbs }

/-
  The value that `rows_to_values` makes of a column: a number
  only of an integer column, and nothing of a missing value.
-/
def Column.value : Column → Option Value
  | .int8 n => n.map intValue
  | .text s => s.map .string

def Value.asI64 : Value → Option Int
  | .number n =>
    if n.frac.isEmpty && n.exp.isNone then
      some (if n.negative then - (n.int : Int) else n.int)
    else none
  | _ => none

/- The row of the benefits query, all of its columns texts. -/
structure BenefitsRow where
  benefitsActiveAt : Column
  status : Column
  deriving DecidableEq, Repr

/- A field of a document as `->>` gives it. -/
def fieldText (field : Option Int) : Option String :=
  field.map toString

--------
-- Operations
--------

structure Store where
  users : Table User := ⟨[]⟩
  subscriptions : Table Subscription := ⟨[]⟩
  webhookEvents : Table StoredEvent := ⟨[]⟩
  deriving DecidableEq, Repr

/- What Stripe answers to a new subscription. -/
structure StripeSubscription where
  id : Option String := none
  status : Option String := none
  currentPeriodEnd : Option Int := none
  clientSecret : Option String := none
  deriving DecidableEq, Repr

inductive Op
  | rateLimit (userId action : String)
  | utcNow
  | earlyCancelCount (userId : String)
  | countEarlyCancel (userId : String)
  | activeSubscription (userId : String)
  | getUser (id : String)
  | updateUser (id : String) (patch : UserPatch)
  | findUserByCustomer (customerId : String)
  | getSubscription (id : String)
  | findSubscriptionOf (userId : String)
  | updateSubscription
      (id : String)
      (patch : SubscriptionPatch)
  | upsertSubscription
      (id : String)
      (patch : SubscriptionPatch)
  | benefitsRow (userId : String)
  | createCustomer (userId : String)
  | createCheckout (customerId interval : String)
  | attachMethod (methodId customerId : String)
  | setDefaultMethod (methodId customerId : String)
  | createStripeSubscription (customerId interval : String)
  | setCancelAtPeriodEnd
      (stripeSubscriptionId : String)
      (cancel : Bool)
  | notifyPaymentFailed (userId : String)
  | acquireCronLock (job : String)
  | releaseCronLock (job : String)
  | alertCronFailure (job : String)
  | expiredSubscriptions (now : String)
  | staleWebhookEvents (cutoff : String)
  | createWebhookEvent (id : String) (timestamp : Int)
  | deleteWebhookEvent (id : String)
  deriving DecidableEq, Repr

namespace Op

def Res : Op → Type
  | .rateLimit .. => Except Error Unit
  | .utcNow => Int
  | .earlyCancelCount .. => Except Error (Option Int)
  | .countEarlyCancel .. => Except Error Unit
  | .activeSubscription .. => Except Error (Option String)
  | .getUser .. => Except Error User
  | .updateUser .. => Except Error Unit
  | .findUserByCustomer .. =>
    Except Error (Option (String × User))
  | .getSubscription .. => Except Error Subscription
  | .findSubscriptionOf .. =>
    Except Error (Option Subscription)
  | .updateSubscription .. => Except Error Unit
  | .upsertSubscription .. => Except Error Unit
  | .benefitsRow .. => Except Error (Option BenefitsRow)
  | .createCustomer .. => Except Error (Option String)
  | .createCheckout .. => Except Error (String × String)
  | .attachMethod .. => Except Error Unit
  | .setDefaultMethod .. => Except Error Unit
  | .createStripeSubscription .. =>
    Except Error StripeSubscription
  | .setCancelAtPeriodEnd .. => Except Error Unit
  | .notifyPaymentFailed .. => Except Error Unit
  | .acquireCronLock .. => Bool
  | .releaseCronLock .. => Except Error Unit
  | .alertCronFailure .. => Except Error Unit
  | .expiredSubscriptions .. =>
    Except Error (List (String × Subscription))
  | .staleWebhookEvents .. => Except Error (List String)
  | .createWebhookEvent .. => Except Error Bool
  | .deleteWebhookEvent .. => Except Error Unit

end Op

/-
  What the environment decides about one step.  `first` are
  the ids that a query with a limit returns first, `text` and
  `other` are texts of a remote answer.
-/
structure Answer where
  fault : Bool := false
  allowed : Bool := true
  now : Int := 0
  first : List String := []
  text : String := ""
  other : String := ""
  customerId : Option String := none
  subscription : StripeSubscription := {}
  pick : ℕ := 0
  deriving DecidableEq, Repr

/- A statement that fails leaves the store as it was. -/
def Answer.guard
    {α : Type}
    (a : Answer)
    (w : Store)
    (result : Except Error α × Store) :
    Except Error α × Store :=
  if a.fault then (.error .fault, w) else result

/- Any one of the rows, for a query with a limit of one. -/
def anyOf {V : Type} (pick : ℕ) (rows : List V) : Option V :=
  rows[pick % rows.length]?

/- The rows of a query with a limit, in any order. -/
def limited
    {V : Type}
    (n : ℕ)
    (first : List String)
    (rows : List (String × V)) : List (String × V) :=
  (rows.filter (fun row => first.contains row.1) ++
    rows.filter (fun row => !first.contains row.1)).take n

/- A subscription that `sync_expired_subscriptions` selects. -/
def Subscription.isExpired
    (doc : Subscription)
    (now : String) : Bool :=
  (fieldText doc.currentPeriodEnd).any
      (fun text => Text.lt text now) &&
    doc.status.any (["active", "past_due"].contains ·)

/- An event that `cleanup_stale_webhook_events` selects. -/
def StoredEvent.isStale
    (event : StoredEvent)
    (cutoff : String) : Bool :=
  Text.le (toString event.timestamp) cutoff

def Subscription.isActive (doc : Subscription) : Bool :=
  doc.status = some "active" ||
    doc.subscriptionStatus = some "active"

def missingColumn (name : String) : Error :=
  .database
    ("Query failed: column " ++ name ++ " does not exist")

def exec : Conc.Exec Op.Res Answer Store
  | .rateLimit .., a, w =>
    a.guard w
      (if a.allowed then .ok ()
      else .error (.validation
        "Rate limit exceeded. Please try again later."), w)
  | .utcNow, a, w => (a.now, w)
  | .earlyCancelCount .., _, w =>
    -- The table has no such column.
    (.error (missingColumn "earlycancelcount"), w)
  | .countEarlyCancel .., _, w =>
    -- The statement is not SQL.
    (.error (.database "Query failed: syntax error"), w)
  | .activeSubscription userId, a, w =>
    a.guard w
      (.ok ((anyOf a.pick
        (w.subscriptions.rows.filter (fun row =>
          row.2.buyerId = userId &&
            row.2.isActive))).map (·.1)), w)
  | .getUser id, a, w =>
    a.guard w
      (match w.users.get (docId "users" id) with
      | some user => .ok user
      | none => .error (.notFound "not found"), w)
  | .updateUser id patch, a, w =>
    let key := docId "users" id
    a.guard w
      (if (w.users.get key).isSome then
        (.ok (),
          { w with
            users := w.users.modify key patch.apply })
      else (.error (.notFound "not found"), w))
  | .findUserByCustomer customerId, a, w =>
    a.guard w
      (.ok (anyOf a.pick (w.users.rows.filter (fun row =>
          row.2.customerId = customerId))), w)
  | .getSubscription id, a, w =>
    a.guard w
      (match w.subscriptions.get (docId "subscriptions" id)
        with
      | some doc => .ok doc
      | none => .error (.notFound "not found"), w)
  | .findSubscriptionOf userId, a, w =>
    -- Which of the rows is the newest is left open.
    a.guard w
      (.ok ((anyOf a.pick
        (w.subscriptions.rows.filter (fun row =>
          row.2.buyerId = userId))).map (·.2)), w)
  | .updateSubscription id patch, a, w =>
    let key := docId "subscriptions" id
    a.guard w
      (if (w.subscriptions.get key).isSome then
        (.ok (),
          { w with
            subscriptions :=
              w.subscriptions.modify key patch.apply })
      else (.error (.notFound "not found"), w))
  | .upsertSubscription id patch, a, w =>
    let key := docId "subscriptions" id
    a.guard w
      (.ok (),
        { w with
          subscriptions := w.subscriptions.upsert key
              (patch.apply
                ((w.subscriptions.get key).getD {})) })
  | .benefitsRow userId, a, w =>
    a.guard w
      (.ok ((anyOf a.pick
        (w.subscriptions.rows.filter (fun row =>
          row.2.buyerId = userId &&
            row.2.isActive))).map (fun row =>
              { benefitsActiveAt :=
                  .text (fieldText row.2.benefitsActiveAt)
                status := .text row.2.status })), w)
  | .createCustomer .., a, w =>
    a.guard w (.ok a.customerId, w)
  | .createCheckout .., a, w =>
    a.guard w (.ok (a.text, a.other), w)
  | .attachMethod .., a, w => a.guard w (.ok (), w)
  | .setDefaultMethod .., a, w => a.guard w (.ok (), w)
  | .createStripeSubscription .., a, w =>
    a.guard w (.ok a.subscription, w)
  | .setCancelAtPeriodEnd .., a, w => a.guard w (.ok (), w)
  | .notifyPaymentFailed .., a, w => a.guard w (.ok (), w)
  | .acquireCronLock .., a, w => (a.allowed, w)
  | .releaseCronLock .., a, w => a.guard w (.ok (), w)
  | .alertCronFailure .., a, w => a.guard w (.ok (), w)
  | .expiredSubscriptions now, a, w =>
    a.guard w
      (.ok (limited 50 a.first
        (w.subscriptions.rows.filter (fun row =>
          row.2.isExpired now))), w)
  | .staleWebhookEvents cutoff, a, w =>
    a.guard w
      (.ok ((limited 500 a.first
        (w.webhookEvents.rows.filter (fun row =>
          row.2.isStale cutoff))).map (·.1)), w)
  | .createWebhookEvent id timestamp, a, w =>
    a.guard w
      (if (w.webhookEvents.get id).isSome then
        (.ok false, w)
      else
        (.ok true,
          { w with
            webhookEvents :=
              w.webhookEvents.insert id ⟨timestamp⟩ }))
  | .deleteWebhookEvent id, a, w =>
    let key := docId "webhook_events" id
    a.guard w
      (if (w.webhookEvents.get key).isSome then
        (.ok (),
          { w with
            webhookEvents := w.webhookEvents.erase key })
      else (.error (.notFound "not found"), w))

/- An operation that changes no document. -/
def Op.isQuiet : Op → Bool
  | .updateUser .. | .updateSubscription ..
  | .upsertSubscription .. | .createWebhookEvent ..
  | .deleteWebhookEvent .. => false
  | _ => true

theorem exec_quiet
    {o : Op}
    (hQuiet : o.isQuiet = true)
    (a : Answer)
    (w : Store) :
    (exec o a w).2 = w := by
  cases o <;> simp only [Op.isQuiet, Bool.false_eq_true]
    at hQuiet <;>
    simp only [exec, Answer.guard, apply_ite Prod.snd,
      ite_self]

--------
-- Handlers
--------

open Conc

/- A handler on the documents of subscriptions. -/
abbrev Handler (α : Type) :=
  Prog Op.Res (Except Error α)

/- The operations as handlers. -/
namespace Db

abbrev rateLimit (userId action : String) : Handler Unit :=
  Prog.perform (Op.rateLimit userId action)

abbrev utcNow : Prog Op.Res Int :=
  Prog.perform Op.utcNow

abbrev earlyCancelCount (userId : String) :
    Handler (Option Int) :=
  Prog.perform (Op.earlyCancelCount userId)

abbrev countEarlyCancel (userId : String) : Handler Unit :=
  Prog.perform (Op.countEarlyCancel userId)

abbrev activeSubscription (userId : String) :
    Handler (Option String) :=
  Prog.perform (Op.activeSubscription userId)

abbrev getUser (id : String) : Handler User :=
  Prog.perform (Op.getUser id)

abbrev updateUser (id : String) (patch : UserPatch) :
    Handler Unit :=
  Prog.perform (Op.updateUser id patch)

abbrev findUserByCustomer (customerId : String) :
    Handler (Option (String × User)) :=
  Prog.perform (Op.findUserByCustomer customerId)

abbrev getSubscription (id : String) :
    Handler Subscription :=
  Prog.perform (Op.getSubscription id)

abbrev findSubscriptionOf (userId : String) :
    Handler (Option Subscription) :=
  Prog.perform (Op.findSubscriptionOf userId)

abbrev updateSubscription
    (id : String)
    (patch : SubscriptionPatch) : Handler Unit :=
  Prog.perform (Op.updateSubscription id patch)

abbrev upsertSubscription
    (id : String)
    (patch : SubscriptionPatch) : Handler Unit :=
  Prog.perform (Op.upsertSubscription id patch)

abbrev benefitsRow (userId : String) :
    Handler (Option BenefitsRow) :=
  Prog.perform (Op.benefitsRow userId)

abbrev createCustomer (userId : String) :
    Handler (Option String) :=
  Prog.perform (Op.createCustomer userId)

abbrev createCheckout (customerId interval : String) :
    Handler (String × String) :=
  Prog.perform (Op.createCheckout customerId interval)

abbrev attachMethod (methodId customerId : String) :
    Handler Unit :=
  Prog.perform (Op.attachMethod methodId customerId)

abbrev setDefaultMethod (methodId customerId : String) :
    Handler Unit :=
  Prog.perform (Op.setDefaultMethod methodId customerId)

abbrev createStripeSubscription
    (customerId interval : String) :
    Handler StripeSubscription :=
  Prog.perform
    (Op.createStripeSubscription customerId interval)

abbrev setCancelAtPeriodEnd
    (stripeSubscriptionId : String)
    (cancel : Bool) : Handler Unit :=
  Prog.perform
    (Op.setCancelAtPeriodEnd stripeSubscriptionId cancel)

abbrev notifyPaymentFailed (userId : String) :
    Handler Unit :=
  Prog.perform (Op.notifyPaymentFailed userId)

abbrev acquireCronLock (job : String) : Prog Op.Res Bool :=
  Prog.perform (Op.acquireCronLock job)

abbrev releaseCronLock (job : String) : Handler Unit :=
  Prog.perform (Op.releaseCronLock job)

abbrev alertCronFailure (job : String) : Handler Unit :=
  Prog.perform (Op.alertCronFailure job)

abbrev expiredSubscriptions (now : String) :
    Handler (List (String × Subscription)) :=
  Prog.perform (Op.expiredSubscriptions now)

abbrev staleWebhookEvents (cutoff : String) :
    Handler (List String) :=
  Prog.perform (Op.staleWebhookEvents cutoff)

abbrev createWebhookEvent
    (id : String)
    (timestamp : Int) : Handler Bool :=
  Prog.perform (Op.createWebhookEvent id timestamp)

abbrev deleteWebhookEvent (id : String) : Handler Unit :=
  Prog.perform (Op.deleteWebhookEvent id)

end Db

end Orignabase.Premium
