import Orignabase.Premium.Store

/-
  The jobs that act on times
  (`ob-handlers/src/cron/mod.rs`), and the events that one of
  them removes (`ob-handlers/src/payments/webhooks.rs`).

  Key definitions include:
    * `syncExpiredSubscriptions`
    * `cleanupStaleWebhookEvents`
    * `tryStoreWebhookEventAtomic`
-/

--------
-- Handlers
--------

namespace Orignabase.Premium

open Conc Handler Timestamp

/- The body of a job, alone under its lock. -/
def underCronLock (job : String) (body : Handler Unit) :
    Handler Unit :=
  (Db.acquireCronLock job).bind fun acquired =>
  if acquired then
    body.bind fun result =>
    (match result with
      | .ok _ => ok ()
      | .error _ => Db.alertCronFailure job).bind fun _ =>
    (Db.releaseCronLock job).bind fun _ => ok ()
  else ok ()

/- `normalize_record_id`: what follows the first colon. -/
def normalizeRecordId (rawId : String) : String :=
  if rawId.toList.contains ':' then
    String.ofList
      ((rawId.toList.dropWhile (· ≠ ':')).drop 1)
  else rawId

--------
-- Expired Subscriptions
--------

/- A subscription whose end was not told by an event. -/
def expirePatch : SubscriptionPatch where
  status := some Status.expired.asStr

def revokePatch : UserPatch where
  isPremium := some false
  premiumExpiresAt := some none
  stripeSubscriptionId := some none
  premiumSince := some none

/- Failed updates are passed over. -/
def expireAll :
    List (String × Subscription) → Handler Unit
  | [] => ok ()
  | row :: rest =>
    let uid := normalizeRecordId row.1
    if uid = "" then expireAll rest
    else
      (Db.updateSubscription uid expirePatch).bind fun _ =>
      (Db.updateUser uid revokePatch).bind fun _ =>
      expireAll rest

def syncExpiredSubscriptions : Handler Unit :=
  underCronLock "sync_expired_subscriptions" <|
  Db.utcNow.bind fun now =>
  andThen (Db.expiredSubscriptions (toRfc3339 now)) expireAll

--------
-- Webhook Events
--------

def webhookEventRetentionDays : Int := 7

/- The retention period in nanoseconds. -/
def retention : Int :=
  webhookEventRetentionDays * 86400 * nanosPerSecond

def deleteAll : List String → Handler Unit
  | [] => ok ()
  | id :: rest =>
    if id = "" then deleteAll rest
    else
      (Db.deleteWebhookEvent id).bind fun _ =>
      deleteAll rest

def cleanupStaleWebhookEvents : Handler Unit :=
  underCronLock "cleanup_stale_webhook_events" <|
  Db.utcNow.bind fun now =>
  andThen
    (Db.staleWebhookEvents (toRfc3339 (now - retention)))
    deleteAll

/- The first delivery of an event stores its id and second. -/
def tryStoreWebhookEventAtomic (id : String) :
    Handler Bool :=
  Db.utcNow.bind fun now =>
  require (id ≠ "" && id.utf8ByteSize ≤ 512)
    (.validation "Invalid webhook event ID") <|
  Db.createWebhookEvent id (secondOf now)

end Orignabase.Premium
