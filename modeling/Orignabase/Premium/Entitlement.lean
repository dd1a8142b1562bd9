import Orignabase.Premium.Rules

/-
  What a user of a paid subscription is told, over the whole
  life of the subscription.

  Stripe's side is part of the world: which subscription the
  user has, and until when it is paid.  It changes with the
  calls of the handlers and with the events that Stripe
  reports.

  Key definitions include:
    * `Account`
    * `Side`
    * `Journey`
    * `Entitled`

  Main results:
    * `not_benefits`
    * `entitled_of_journey`
-/

--------
-- The Subscription At Stripe
--------

namespace Orignabase.Premium

open Conc Handler Timestamp

/- A subscription that has not ended, paid to a second. -/
structure Live where
  id : String
  status : String
  paidUntil : Int
  since : Int
  announced : Bool := false
  deriving DecidableEq, Repr

/- The subscription of one user. -/
inductive Account
  | none
  | live (sub : Live)
  | ended (id : String)
  deriving DecidableEq, Repr

/- Active, and paid up to a time later than `now`. -/
def Live.isPaid (sub : Live) (now : Int) : Bool :=
  sub.status = Status.active.asStr &&
    now < sub.paidUntil * nanosPerSecond

/- The delay of the benefits in nanoseconds. -/
def benefitsDelay : Int :=
  subscriptionBenefitsDelayHours * 3600 * nanosPerSecond

/- The benefits are due. -/
def Live.isDue (sub : Live) (now : Int) : Bool :=
  sub.since + benefitsDelay ≤ now

namespace Account

def isLive (id : String) : Account → Bool
  | .live sub => sub.id = id
  | _ => false

def isPaid (now : Int) : Account → Bool
  | .live sub => sub.isPaid now
  | _ => false

def isDue (now : Int) : Account → Bool
  | .live sub => sub.isDue now
  | _ => false

def isAnnounced : Account → Bool
  | .live sub => sub.announced
  | _ => false

def isEnded : Account → Bool
  | .ended _ => true
  | _ => false

/- The subscription that Stripe has just made. -/
def begin (sub : StripeSubscription) (now : Int) : Account :=
  .live
    { id := sub.id.getD ""
      status := sub.status.getD "incomplete"
      paidUntil := sub.currentPeriodEnd.getD 0
      since := now }

end Account

--------
-- The World With Stripe
--------

structure Side where
  store : Store := {}
  account : Account := .none
  now : Int := 0
  deriving DecidableEq, Repr

/-
  An operation together with what it does at Stripe.  Stripe
  changes no subscription that is not live.
-/
def sideExec : Exec Op.Res Answer Side
  | .utcNow, _, s => (s.now, s)
  | .createStripeSubscription .., a, s =>
    if a.fault then (.error .fault, s)
    else
      (.ok a.subscription,
        { s with
          account := .begin a.subscription s.now })
  | .setCancelAtPeriodEnd id _, a, s =>
    if a.fault || !s.account.isLive id then
      (.error .fault, s)
    else (.ok (), s)
  | o, a, s =>
    ((exec o a s.store).1,
      { s with store := (exec o a s.store).2 })

/- An operation that asks Stripe. -/
def Op.isRemote : Op → Bool
  | .createCustomer .. | .createCheckout ..
  | .attachMethod .. | .setDefaultMethod ..
  | .createStripeSubscription ..
  | .setCancelAtPeriodEnd .. => true
  | _ => false

/- No statement fails. -/
def Steady : StepCond Op.Res Answer Side :=
  fun _ o a _ => o.isRemote = true ∨ a.fault = false

/- Neither a statement nor the limit on requests fails. -/
def Granted : StepCond Op.Res Answer Side :=
  fun _ _ a _ => a.fault = false ∧ a.allowed = true

def Op.isCancel : Op → Bool
  | .setCancelAtPeriodEnd _ cancel => cancel
  | _ => false

/- Nor is a subscription cancelled while it is paid. -/
def Uncancelled : StepCond Op.Res Answer Side :=
  fun tr o a s =>
    Steady tr o a s ∧ (o.isCancel = true →
        a.fault = true ∨ s.account.isPaid s.now = false)

instance Steady.decidable
    (tr : List (Event Op.Res Answer))
    (o : Op)
    (a : Answer)
    (s : Side) : Decidable (Steady tr o a s) :=
  inferInstanceAs (Decidable (_ ∨ _))

instance Granted.decidable
    (tr : List (Event Op.Res Answer))
    (o : Op)
    (a : Answer)
    (s : Side) : Decidable (Granted tr o a s) :=
  inferInstanceAs (Decidable (_ ∧ _))

instance Uncancelled.decidable
    (tr : List (Event Op.Res Answer))
    (o : Op)
    (a : Answer)
    (s : Side) : Decidable (Uncancelled tr o a s) :=
  inferInstanceAs (Decidable (_ ∧ _))

--------
-- Journeys
--------

/- A request of the user. -/
inductive Request
  | create (req : CreateSubscriptionRequest)
  | cancel (req : SubscriptionRequest)
  | reactivate (req : SubscriptionRequest)
  deriving DecidableEq, Repr

def Request.handler
    (parse : ParseRfc3339)
    (auth : AuthContext) : Request → Handler Unit
  | .create req =>
    andThen (createSubscription auth req) fun _ => ok ()
  | .cancel req =>
    andThen (cancelSubscription parse auth req) fun _ =>
      ok ()
  | .reactivate req =>
    andThen (reactivateSubscription auth req) fun _ =>
      ok ()

inductive EventKind
  | created
  | updated
  | deleted
  | paymentFailed
  deriving DecidableEq, Repr

def EventKind.name : EventKind → String
  | .created => "customer.subscription.created"
  | .updated => "customer.subscription.updated"
  | .deleted => "customer.subscription.deleted"
  | .paymentFailed => "invoice.payment_failed"

structure StripeEvent where
  kind : EventKind
  data : EventData
  deriving DecidableEq, Repr

/- A subscription that was made on the page of Stripe. -/
def StripeEvent.first (event : StripeEvent) (now : Int) :
    Live where
  id := event.data.subscriptionId
  status := event.data.status.getD "unknown"
  paidUntil := event.data.currentPeriodEnd.getD 0
  since := now
  announced := true

/- What the event reports to have happened at Stripe. -/
def Account.learn
    (event : StripeEvent)
    (now : Int)
    (account : Account) : Account :=
  match event.kind, account with
  | .created, .live sub =>
    if sub.id = event.data.subscriptionId then
      .live { sub with announced := true }
    else .live (event.first now)
  | .created, _ => .live (event.first now)
  | .updated, .live sub =>
    .live
      { sub with
        status := event.data.status.getD "unknown"
        paidUntil := event.data.currentPeriodEnd.getD 0 }
  | .deleted, .live sub => .ended sub.id
  | .paymentFailed, .live sub =>
    .live { sub with status := Status.pastDue.asStr }
  | _, account => account

/-
  The causal order: a subscription is announced first, once
  it has ended not again, and the other events are about an
  announced subscription.
-/
def StripeEvent.follows
    (event : StripeEvent)
    (account : Account) : Bool :=
  match event.kind with
  | .created =>
    account ≠ .ended event.data.subscriptionId
  | _ =>
    account.isLive event.data.subscriptionId &&
      account.isAnnounced

def StripeEvent.handler (event : StripeEvent) :
    Handler Unit :=
  routeSubscriptionWebhook event.kind.name event.data

/- What can happen next, apart from the answers. -/
inductive Move
  | wait (now : Int)
  | call (request : Request)
  | event (event : StripeEvent)
  deriving DecidableEq, Repr

section

variable (parse : ParseRfc3339) (userId : String)
variable (cond : StepCond Op.Res Answer Side)
variable (may : Side → Move → Prop)

/- One step of the user, of Stripe or of the clock. -/
inductive Step : Side → Side → Prop
  | wait
      {s : Side}
      {now : Int}
      (hMay : may s (.wait now))
      (hLater : s.now ≤ now) :
      Step s { s with now := now }
  | call
      {s s' : Side}
      {request : Request}
      {tr : List (Event Op.Res Answer)}
      {r : Except Error Unit}
      (hMay : may s (.call request))
      (hEnds :
        Prog.Ends sideExec cond [] s
          (request.handler parse { userId := userId }) tr s'
          r) :
      Step s s'
  | event
      {s s' : Side}
      {event : StripeEvent}
      {tr : List (Event Op.Res Answer)}
      {r : Except Error Unit}
      (hMay : may s (.event event))
      (hFollows : event.follows s.account = true)
      (hEnds :
        Prog.Ends sideExec cond []
          { s with account := s.account.learn event s.now }
          event.handler tr s' r) :
      Step s s'

/- Steps one at a time. -/
inductive Journey (s₀ : Side) : Side → Prop
  | refl : Journey s₀ s₀
  | step
      {s s' : Side}
      (hJourney : Journey s₀ s)
      (hStep : Step parse userId cond may s s') :
      Journey s₀ s'

end

--------
-- What The User Is Told
--------

def Store.isPremium (w : Store) (key : String) : Bool :=
  (w.users.get key).any (·.isPremium)

/- Every answer about the status says whether it is premium. -/
def Reports
    (s : Side)
    (userId : String)
    (premium : Bool) : Prop :=
  ∀ tr s' r, Prog.Ends sideExec Granted [] s
        (subscriptionStatus { userId := userId } {}) tr s' r →
      ∃ response,
        r = .ok response ∧ response.isPremium = premium

def Benefits
    (s : Side)
    (userId : String)
    (active : Bool) : Prop :=
  ∀ tr s' r, Prog.Ends sideExec Granted [] s
        (isSubscriptionBenefitsActive userId) tr s' r →
      r = active

/-
  Whoever has paid is told so; whose subscription has ended
  is told so.
-/
structure Entitled
    (userId key : String)
    (s : Side) : Prop where
  paid :
    s.account.isPaid s.now = true →
      s.store.isPremium key = true ∧
        Reports s userId true ∧
        (s.account.isDue s.now = true →
          Benefits s userId true)
  ended :
    s.account.isEnded = true →
      s.store.isPremium key = false ∧
        Reports s userId false ∧
        Benefits s userId false

--------
-- Favourable Steps
--------

def Store.status (w : Store) (key : String) :
    Option String :=
  (w.subscriptions.get key).bind (·.status)

/- The customer of an event is this user and no other. -/
def Finds
    (w : Store)
    (data : EventData)
    (key : String) : Prop :=
  ∃ customer, data.customer = some customer ∧
      (∃ row ∈ w.users.rows, row.2.customerId = customer) ∧
      ∀ row ∈ w.users.rows, row.2.customerId = customer →
        docId "users" (extractUid row) = key

/-
  No subscription is paid when its benefits are due; one that
  was made on the page of Stripe is not paid yet, unless the
  document says so; an event that grants or ends premium
  finds the user and the document.
-/
def Favourable (key : String) : Side → Move → Prop
  | s, .wait now =>
    s.account.isPaid now = true →
      s.account.isDue now = false
  | _, .call _ => True
  | s, .event event =>
    match event.kind with
    | .created =>
      Finds s.store event.data key ∧
        (s.account.isLive event.data.subscriptionId = true ∨
          s.account.isPaid s.now = false ∧
            ((event.first s.now).isPaid s.now = true →
              s.store.status key =
                some Status.active.asStr))
    | .updated =>
      (s.account.learn event s.now).isPaid s.now = true →
        Finds s.store event.data key ∧
          (s.store.subscriptions.get key).isSome = true ∧
          s.account.isDue s.now = false
    | .deleted =>
      Finds s.store event.data key ∧
        (s.store.subscriptions.get key).isSome = true
    | .paymentFailed => True

/- What favourable steps preserve. -/
structure Sound (userId key : String) (s : Side) : Prop where
  user : (s.store.users.get key).isSome = true
  owner :
    ∀ doc, s.store.subscriptions.get key = some doc →
      doc.buyerId = userId
  paid :
    s.account.isPaid s.now = true →
      s.store.isPremium key = true ∧
        s.store.status key = some Status.active.asStr ∧
        s.account.isDue s.now = false
  announced :
    s.account.isAnnounced = true →
      s.store.isPremium key = true
  ended :
    s.account.isEnded = true →
      s.store.isPremium key = false ∧
        s.store.status key = some Status.cancelled.asStr

/- The id of a user and the key of the documents. -/
structure IsUser (userId key : String) : Prop where
  ne : userId ≠ ""
  short : userId.utf8ByteSize ≤ 128
  named : docId "users" userId = key
  bareUser : docId "users" key = key
  bare : docId "subscriptions" key = key

--------
-- Symbolic Steps
--------

section

variable {α β : Type} {cond : StepCond Op.Res Answer Side}
variable {post : Side → Except Error α → Prop}
variable {tr : List (Event Op.Res Answer)} {s : Side}

theorem sideExec_ask
    {o : Op}
    (hAsk : o.isAsk = true)
    (a : Answer)
    (s : Side) :
    (sideExec o a s).2 = s := by
  cases o <;> simp only [Op.isAsk, Op.isQuiet,
    Bool.false_eq_true] at hAsk <;>
    simp only [sideExec, exec, Answer.guard,
      apply_ite Prod.snd, ite_self]

theorem leads_ask
    {γ : Type}
    {post : Side → γ → Prop}
    {o : Op}
    {k : Op.Res o → Prog Op.Res γ}
    (hAsk : o.isAsk = true)
    (hNext :
      ∀ tr r, (k r).Leads sideExec cond post tr s) :
    (Prog.call o k).Leads sideExec cond post tr s :=
  Prog.Leads.skip (fun a => sideExec_ask hAsk a s) hNext

theorem leads_asks
    {p : Handler β}
    {f : β → Handler α}
    (hAsks : Asks p)
    (hStop : ∀ e, post s (.error e))
    (hNext :
      ∀ tr b, (f b).Leads sideExec cond post tr s) :
    (andThen p f).Leads sideExec cond post tr s :=
  hAsks.leads (fun _ a hAsk => sideExec_ask hAsk a s) hStop
    hNext

/- The caller is the user, and nothing is changed so far. -/
theorem leads_asSelf
    {userId : String}
    {provided : Option String}
    {action : String}
    {body : String → Handler α}
    (hStop : ∀ e, post s (.error e))
    (hBody :
      ∀ tr, (body userId).Leads sideExec cond post tr s) :
    (asSelf { userId := userId } provided action
      body).Leads sideExec cond post tr s := by
  refine leads_resolveSelf hStop (fun tr => ?_)
  refine leads_asks (asks_lift _) hStop (fun tr _ => ?_)
  exact leads_asks ⟨rfl, fun _ => trivial⟩ hStop
    (fun tr _ => hBody tr)

end

--------
-- Edits
--------

variable {patch : UserPatch} {text : String}

namespace Side

def editUser (s : Side) (id : String) (patch : UserPatch) :
    Side :=
  { s with
    store :=
      { s.store with
        users := s.store.users.modify (docId "users" id)
            patch.apply } }

def editSubscription
    (s : Side)
    (id : String)
    (patch : SubscriptionPatch) : Side :=
  { s with
    store :=
      { s.store with
        subscriptions := s.store.subscriptions.modify
            (docId "subscriptions" id) patch.apply } }

variable {s : Side} {id key : String}

@[simp] theorem isSome_editUser (patch : UserPatch) :
    ((s.editUser id patch).store.users.get key).isSome =
      (s.store.users.get key).isSome := by
  simp only [editUser, Table.get_modify]
  split_ifs <;> simp

@[simp] theorem isPremium_editSubscription
    (patch : SubscriptionPatch) :
    (s.editSubscription id patch).store.isPremium key =
      s.store.isPremium key := rfl

@[simp] theorem status_editUser (patch : UserPatch) :
    (s.editUser id patch).store.status key =
      s.store.status key := rfl

theorem isPremium_editUser_none
    (hPatch : patch.isPremium = none) :
    (s.editUser id patch).store.isPremium key =
      s.store.isPremium key := by
  simp only [editUser, Store.isPremium, Table.get_modify]
  split_ifs
  · cases s.store.users.get key <;>
      simp [UserPatch.apply, hPatch]
  · rfl

theorem isPremium_editUser_some
    {premium : Bool}
    (hPatch : patch.isPremium = some premium)
    (hId : docId "users" id = key)
    (hUser : (s.store.users.get key).isSome = true) :
    (s.editUser id patch).store.isPremium key = premium := by
  rcases Option.isSome_iff_exists.mp hUser with ⟨user, hGet⟩
  simp [editUser, Store.isPremium, hId, hGet,
    UserPatch.apply, hPatch]

theorem status_editSubscription
    {patch : SubscriptionPatch}
    (hPatch : patch.status = some text)
    (hId : docId "subscriptions" id = key)
    (hDoc :
      (s.store.subscriptions.get key).isSome = true) :
    (s.editSubscription id patch).store.status key =
      some text := by
  rcases Option.isSome_iff_exists.mp hDoc with ⟨doc, hGet⟩
  simp [editSubscription, Store.status, hId, hGet,
    SubscriptionPatch.apply, hPatch]

/- No edit gives a subscription to another buyer. -/
theorem owner_editSubscription
    {patch : SubscriptionPatch}
    {userId : String}
    (hPatch : patch.buyerId = none)
    (hOwner :
      ∀ doc, s.store.subscriptions.get key = some doc →
        doc.buyerId = userId)
    (doc : Subscription)
    (hGet :
      (s.editSubscription id patch).store.subscriptions.get
        key = some doc) :
    doc.buyerId = userId := by
  simp only [editSubscription, Table.get_modify] at hGet
  split_ifs at hGet
  · rcases Option.map_eq_some_iff.mp hGet with
      ⟨old, hOld, rfl⟩
    simpa [SubscriptionPatch.apply, hPatch] using
      hOwner old hOld
  · exact hOwner doc hGet

end Side

theorem isSome_of_status
    {w : Store}
    {key : String}
    (hStatus : w.status key = some text) :
    (w.subscriptions.get key).isSome = true := by
  unfold Store.status at hStatus
  cases hGet : w.subscriptions.get key with
  | none => simp [hGet] at hStatus
  | some doc => rfl

section

variable {γ : Type} {post : Side → γ → Prop}
variable {tr : List (Event Op.Res Answer)} {s : Side}

variable {k : Except Error Unit → Prog Op.Res γ}

theorem leads_updateUser
    {id : String}
    (hNext :
      ∀ tr r,
        ((s.store.users.get (docId "users" id)).isSome =
            true → r = .ok ()) →
          (k r).Leads sideExec Uncancelled post tr
            (s.editUser id patch)) :
    (Prog.call (Op.updateUser id patch) k).Leads sideExec
      Uncancelled post tr s := by
  intro a hCond
  have hFault : a.fault = false := by
    simpa [Steady, Op.isRemote] using hCond.1
  cases hSome :
      (s.store.users.get (docId "users" id)).isSome with
  | true =>
    have hExec :
        sideExec (.updateUser id patch) a s =
          (.ok (), s.editUser id patch) := by
      simp [sideExec, exec, Answer.guard, hFault, hSome,
        Side.editUser]
    rw [hExec]
    exact hNext _ _ (fun _ => rfl)
  | false =>
    have hNone :
        s.store.users.get (docId "users" id) = none := by
      simpa using hSome
    have hExec :
        sideExec (.updateUser id patch) a s =
          (.error (.notFound "not found"),
            s.editUser id patch) := by
      simp [sideExec, exec, Answer.guard, hFault, hNone,
        Side.editUser, Table.modify_of_get_eq_none]
    rw [hExec]
    exact hNext _ _ (fun hYes => by simp [hSome] at hYes)

theorem leads_updateSubscription
    {id : String}
    {patch : SubscriptionPatch}
    (hNext :
      ∀ tr r, (k r).Leads sideExec Uncancelled post tr
          (s.editSubscription id patch)) :
    (Prog.call (Op.updateSubscription id patch) k).Leads
      sideExec Uncancelled post tr s := by
  intro a hCond
  have hFault : a.fault = false := by
    simpa [Steady, Op.isRemote] using hCond.1
  have hExec :
      (sideExec (.updateSubscription id patch) a s).2 =
        s.editSubscription id patch := by
    cases hSome :
        (s.store.subscriptions.get
          (docId "subscriptions" id)).isSome with
    | true =>
      simp [sideExec, exec, Answer.guard, hFault, hSome,
        Side.editSubscription]
    | false =>
      have hNone :
          s.store.subscriptions.get
            (docId "subscriptions" id) = none := by
        simpa using hSome
      simp [sideExec, exec, Answer.guard, hFault, hNone,
        Side.editSubscription,
        Table.modify_of_get_eq_none]
  rw [hExec]
  exact hNext _ _

/- Stripe changes only what is live. -/
theorem leads_setCancel
    {id : String}
    {cancel : Bool}
    (hStop :
      ∀ tr e, (k (.error e)).Leads sideExec Uncancelled post
        tr s)
    (hNext :
      ∀ tr, s.account.isLive id = true →
        (cancel = true → s.account.isPaid s.now = false) →
          (k (.ok ())).Leads sideExec Uncancelled post tr
            s) :
    (Prog.call (Op.setCancelAtPeriodEnd id cancel) k).Leads
      sideExec Uncancelled post tr s := by
  intro a hCond
  by_cases hRefused :
      (a.fault || !s.account.isLive id) = true
  · have hExec :
        sideExec (.setCancelAtPeriodEnd id cancel) a s =
          (.error .fault, s) := by
      simp only [sideExec, if_pos hRefused]
    rw [hExec]
    exact hStop _ _
  · have hExec :
        sideExec (.setCancelAtPeriodEnd id cancel) a s =
          (.ok (), s) := by
      simp only [sideExec, if_neg hRefused]
    rw [hExec]
    simp only [Bool.or_eq_true, Bool.not_eq_true',
      not_or, Bool.not_eq_false] at hRefused
    refine hNext _ hRefused.2 ?_
    intro hCancel
    rcases hCond.2 hCancel with hFault | hUnpaid
    · exact absurd hFault hRefused.1
    · exact hUnpaid

end

--------
-- Requests Keep The Promise
--------

variable {tr : List (Event Op.Res Answer)}

section

variable {userId key : String} {s : Side}

theorem IsUser.subscriptionKey (hUser : IsUser userId key) :
    docId "subscriptions" (rawUserId userId) = key := by
  have hRaw : rawUserId userId = key := hUser.named
  rw [hRaw, hUser.bare]

theorem Account.not_ended_of_isLive
    {account : Account}
    {id : String}
    (hLive : account.isLive id = true) :
    account.isEnded = false := by
  cases account <;> simp_all [Account.isLive, isEnded]

/- A user who is as premium as before. -/
theorem Sound.editUser
    (hSound : Sound userId key s)
    (hPatch : patch.isPremium = none)
    (id : String) :
    Sound userId key (s.editUser id patch) where
  user := by
    rw [Side.isSome_editUser]
    exact hSound.user
  owner := hSound.owner
  paid := by
    rw [Side.isPremium_editUser_none hPatch]
    exact hSound.paid
  announced := by
    rw [Side.isPremium_editUser_none hPatch]
    exact hSound.announced
  ended := by
    rw [Side.isPremium_editUser_none hPatch]
    exact hSound.ended

/- Before it is paid, a subscription may say anything. -/
theorem Sound.editSubscription
    {patch : SubscriptionPatch}
    (hSound : Sound userId key s)
    (hPatch : patch.buyerId = none)
    (hUnpaid : s.account.isPaid s.now = false)
    (hOn : s.account.isEnded = false)
    (id : String) :
    Sound userId key (s.editSubscription id patch) where
  user := hSound.user
  owner := Side.owner_editSubscription hPatch hSound.owner
  paid := by
    intro hPaid
    rw [show (s.editSubscription id patch).account =
      s.account from rfl] at hPaid
    exact absurd (hUnpaid.symm.trans hPaid)
      Bool.false_ne_true
  announced := hSound.announced
  ended := by
    intro hEnded
    exact absurd (hOn.symm.trans hEnded) Bool.false_ne_true

theorem sound_cancel
    {parse : ParseRfc3339}
    {req : SubscriptionRequest}
    (hSound : Sound userId key s) :
    (cancelSubscription parse { userId := userId }
      req).Leads sideExec Uncancelled
      (fun s' _ => Sound userId key s') tr s := by
  refine leads_asSelf (fun _ => hSound) (fun tr => ?_)
  refine leads_asks (asks_requireSubscription userId)
    (fun _ => hSound) (fun tr doc => ?_)
  unfold require
  split_ifs
  · exact hSound
  · refine leads_setCancel (fun _ _ => hSound) ?_
    intro tr hLive hUnpaid
    refine leads_ask rfl (fun tr now => ?_)
    have hRest :
        ∀ tr, (Prog.bind
            (Db.updateSubscription (rawUserId userId)
              cancelPendingPatch)
            fun _ =>
              ok (R := Op.Res)
                (CancelSubscriptionResponse.mk true
                  Status.cancelPending.asStr)).Leads sideExec
            Uncancelled (fun s' _ => Sound userId key s') tr
            s := by
      intro tr
      refine leads_updateSubscription (fun tr _ => ?_)
      exact hSound.editSubscription rfl (hUnpaid rfl)
        (Account.not_ended_of_isLive hLive) _
    change Prog.Leads sideExec Uncancelled _ tr s (Prog.bind
          (if Int.tdiv (secondOf now -
                    (doc.createdAt.bind parse).getD 0)
                  86400 < earlyCancelDays
            then Db.countEarlyCancel userId
            else ok ()) _)
    split_ifs
    · exact leads_ask rfl (fun tr _ => hRest tr)
    · exact hRest _
  · exact hSound

theorem sound_reactivate
    {req : SubscriptionRequest}
    (hUser : IsUser userId key)
    (hSound : Sound userId key s) :
    (reactivateSubscription { userId := userId }
      req).Leads sideExec Uncancelled
      (fun s' _ => Sound userId key s') tr s := by
  refine leads_asSelf (fun _ => hSound) (fun tr => ?_)
  refine leads_asks (asks_requireSubscription userId)
    (fun _ => hSound) (fun tr doc => ?_)
  unfold require
  split_ifs
  · exact hSound
  · refine leads_setCancel (fun _ _ => hSound) ?_
    intro tr hLive _
    refine leads_updateSubscription (fun tr _ => ?_)
    refine leads_updateUser (fun tr _ _ => ?_)
    have hPremium :
        ((s.editSubscription (rawUserId userId)
          reactivatePatch).editUser userId
            { isPremium := some true }).store.isPremium
          key = true :=
      Side.isPremium_editUser_some rfl hUser.named
        hSound.user
    exact
      { user := by
          rw [Side.isSome_editUser]
          exact hSound.user
        owner := Side.owner_editSubscription rfl hSound.owner
        paid := by
          intro hPaid
          have hBefore := hSound.paid hPaid
          refine ⟨hPremium, ?_, hBefore.2.2⟩
          exact Side.status_editSubscription rfl
            hUser.subscriptionKey
            (isSome_of_status hBefore.2.1)
        announced := fun _ => hPremium
        ended := by
          intro hEnded
          exact absurd
            ((Account.not_ended_of_isLive hLive).symm.trans
              hEnded) Bool.false_ne_true }
  · exact hSound
  · exact hSound

end

--------
-- Creation Keeps The Promise
--------

variable {now : Int}

section

variable {userId key : String} {s : Side}

/- Whoever is active is found to be. -/
theorem activeSubscription_of_status
    {a : Answer}
    (hSound : Sound userId key s)
    (hStatus :
      s.store.status key = some Status.active.asStr)
    (hFault : a.fault = false) :
    ∃ id, sideExec (.activeSubscription userId) a s =
        (.ok (some id), s) := by
  rcases Option.isSome_iff_exists.mp
      (isSome_of_status hStatus) with ⟨doc, hGet⟩
  have hActive : doc.isActive = true := by
    simp only [Store.status, hGet, Option.bind_some]
      at hStatus
    simp [Subscription.isActive, hStatus, Status.asStr]
  have hRow :
      (key, doc) ∈
        s.store.subscriptions.rows.filter (fun row =>
          row.2.buyerId = userId && row.2.isActive) := by
    simp [Table.mem_of_get hGet, hSound.owner doc hGet,
      hActive]
  rcases anyOf_isSome a.pick (List.ne_nil_of_mem hRow) with
    ⟨row, _, hRow⟩
  refine ⟨row.1, ?_⟩
  simp [sideExec, exec, Answer.guard, hFault, hRow]

variable {tr : List (Event Op.Res Answer)}

theorem leads_ensureCustomer
    (hSound : Sound userId key s)
    (hUnpaid : s.account.isPaid s.now = false) :
    (ensureCustomer userId).Leads sideExec Uncancelled
      (fun s' _ =>
        Sound userId key s' ∧
          s'.account.isPaid s'.now = false) tr s := by
  have hSame := And.intro hSound hUnpaid
  refine leads_asks ⟨rfl, fun r => ?_⟩ (fun _ => hSame)
    (fun tr user => ?_)
  · rcases r with e | user <;> trivial
  · by_cases hHas : user.customerId ≠ ""
    · rw [if_pos hHas]
      exact hSame
    · rw [if_neg hHas]
      refine leads_asks ⟨rfl, fun r => ?_⟩ (fun _ => hSame)
        (fun tr customer => ?_)
      · rcases r with e | customer <;> trivial
      · cases customer with
        | none => exact hSame
        | some customerId =>
          refine leads_updateUser (fun tr r _ => ?_)
          have hEdit :
              Sound userId key (s.editUser userId
                  { customerId := some customerId }) :=
            hSound.editUser rfl userId
          rcases r with e | _
          · exact ⟨hEdit, hUnpaid⟩
          · exact ⟨hEdit, hUnpaid⟩

theorem leads_checkoutSubscription
    {customerId interval : String}
    (hSound : Sound userId key s) :
    (checkoutSubscription userId customerId
      interval).Leads sideExec Uncancelled
      (fun s' _ => Sound userId key s') tr s := by
  refine leads_asks ⟨rfl, fun _ => trivial⟩
    (fun _ => hSound) (fun tr user => ?_)
  unfold require
  split_ifs
  · refine leads_asks ⟨rfl, fun r => ?_⟩ (fun _ => hSound)
      (fun tr session => ?_)
    · rcases r with e | session <;> trivial
    · split_ifs
      · refine leads_updateUser (fun tr _ _ => ?_)
        exact hSound.editUser rfl userId
      · exact hSound
  · exact hSound

/- The world after a new subscription was stored. -/
def Side.stored
    (s : Side)
    (userId : String)
    (sub : StripeSubscription)
    (patch : SubscriptionPatch) : Side :=
  let id := docId "subscriptions" (rawUserId userId)
  { s with
    account := .begin sub s.now
    store :=
      { s.store with
        subscriptions := s.store.subscriptions.upsert id
            (patch.apply
              ((s.store.subscriptions.get id).getD {})) } }

/- A subscription that is paid at once is granted at once. -/
theorem Sound.stored
    {sub : StripeSubscription}
    {created : String}
    (hUser : IsUser userId key)
    (hSound : Sound userId key s)
    {s' : Side}
    (hStore :
      s'.store.subscriptions = (s.stored userId sub
          (newSubscription userId sub created
            now)).store.subscriptions)
    (hUsers :
      (s'.store.users.get key).isSome =
        (s.store.users.get key).isSome)
    (hAccount : s'.account = .begin sub s.now)
    (hNow : s'.now = s.now)
    (hPremium :
      sub.status.getD "incomplete" = Status.active.asStr →
        s'.store.isPremium key = true) :
    Sound userId key s' := by
  have hGet :
      s'.store.subscriptions.get key = some
          ((newSubscription userId sub created now).apply
            ((s.store.subscriptions.get key).getD {})) := by
    rw [hStore]
    simp only [Side.stored, hUser.subscriptionKey,
      Table.get_upsert, if_pos]
  constructor
  · rw [hUsers]
    exact hSound.user
  · intro doc hDoc
    rw [hGet] at hDoc
    rw [← Option.some.inj hDoc]
    rfl
  · intro hPaid
    rw [hAccount, hNow] at *
    have hActive :
        sub.status.getD "incomplete" =
          Status.active.asStr := by
      simp only [Account.begin, Account.isPaid, Live.isPaid,
        Bool.and_eq_true, decide_eq_true_eq] at hPaid
      exact hPaid.1
    refine ⟨hPremium hActive, ?_, ?_⟩
    · simp [Store.status, hGet, newSubscription, hActive,
        SubscriptionPatch.apply]
    · simp only [Account.begin, Account.isDue, Live.isDue,
        decide_eq_false_iff_not]
      have hDelay : 0 < benefitsDelay := by decide
      omega
  · rw [hAccount]
    intro hAnnounced
    cases hAnnounced
  · rw [hAccount]
    intro hEnded
    cases hEnded

theorem leads_payForSubscription
    {customerId interval methodId : String}
    (hUser : IsUser userId key)
    (hSound : Sound userId key s) :
    (payForSubscription userId customerId interval
      methodId).Leads sideExec Uncancelled
      (fun s' _ => Sound userId key s') tr s := by
  refine leads_asks ⟨rfl, fun r => ?_⟩ (fun _ => hSound)
    (fun tr _ => ?_)
  · rcases r with e | _ <;> trivial
  refine leads_ask rfl (fun tr _ => ?_)
  intro a _
  cases hFault : a.fault with
  | true =>
    have hExec :
        sideExec
          (.createStripeSubscription customerId interval)
          a s = (.error .fault, s) := by
      simp [sideExec, hFault]
    rw [hExec]
    exact hSound
  | false =>
    have hExec :
        sideExec
          (.createStripeSubscription customerId interval)
          a s =
          (.ok a.subscription,
            { s with
              account :=
                .begin a.subscription s.now }) := by
      simp [sideExec, hFault]
    rw [hExec]
    refine leads_ask rfl (fun tr created => ?_)
    refine leads_ask rfl (fun tr now => ?_)
    intro b hCond
    have hStep : b.fault = false := by
      simpa [Steady, Op.isRemote] using hCond.1
    have hUpsert :
        sideExec (.upsertSubscription (rawUserId userId)
            (newSubscription userId a.subscription
              (toRfc3339 created) now)) b
          { s with
            account := .begin a.subscription s.now } =
          (.ok (), s.stored userId a.subscription
              (newSubscription userId a.subscription
                (toRfc3339 created) now)) := by
      simp [sideExec, exec, Answer.guard, hStep,
        Side.stored]
    rw [hUpsert]
    change Prog.Leads sideExec Uncancelled _ _ _
        (if a.subscription.status.getD "incomplete" =
            Status.active.asStr
          then _ else _)
    split_ifs with hActive
    · refine leads_updateUser (fun tr _ _ => ?_)
      refine Sound.stored hUser hSound rfl ?_ rfl rfl ?_
      · exact Side.isSome_editUser _
      · intro _
        exact Side.isPremium_editUser_some rfl hUser.named
          hSound.user
    · refine Sound.stored hUser hSound rfl rfl rfl rfl ?_
      intro hYes
      exact absurd hYes hActive

theorem sound_create
    {req : CreateSubscriptionRequest}
    (hUser : IsUser userId key)
    (hSound : Sound userId key s) :
    (createSubscription { userId := userId }
      req).Leads sideExec Uncancelled
      (fun s' _ => Sound userId key s') tr s := by
  unfold createSubscription
  generalize normalizeSubscriptionInterval req.interval =
    interval
  refine leads_resolveSelf (fun _ => hSound) (fun tr => ?_)
  refine leads_asks (asks_lift _) (fun _ => hSound)
    (fun tr interval => ?_)
  refine leads_asks (asks_lift _) (fun _ => hSound)
    (fun tr _ => ?_)
  refine leads_asks (asks_lift _) (fun _ => hSound)
    (fun tr _ => ?_)
  refine leads_asks ⟨rfl, fun _ => trivial⟩
    (fun _ => hSound) (fun tr _ => ?_)
  refine leads_ask rfl (fun tr counted => ?_)
  change Prog.Leads sideExec Uncancelled _ _ _
      (require _ _ _)
  unfold require
  split_ifs
  · cases hPaid : s.account.isPaid s.now with
    | true =>
      -- The query finds the paid subscription.
      intro a hCond
      have hFault : a.fault = false := by
        simpa [Steady, Op.isRemote] using hCond.1
      rcases activeSubscription_of_status hSound
          (hSound.paid hPaid).2.1 hFault with ⟨id, hExec⟩
      rw [hExec]
      exact hSound
    | false =>
      refine leads_asks ⟨rfl, fun _ => trivial⟩
        (fun _ => hSound) (fun tr existing => ?_)
      cases existing with
      | some id => exact hSound
      | none =>
        refine leads_andThen
          (leads_ensureCustomer hSound hPaid) ?_ ?_
        · rintro tr s' customerId ⟨hSound', _⟩
          cases req.paymentMethodId with
          | none =>
            exact leads_checkoutSubscription hSound'
          | some methodId =>
            exact leads_payForSubscription hUser hSound'
        · rintro s' e ⟨hSound', _⟩
          exact hSound'
  · exact hSound

end

--------
-- Events Keep The Promise
--------

section

variable {userId key : String} {s : Side}
variable {post : Side → Except Error Unit → Prop}
variable {tr : List (Event Op.Res Answer)}

variable {data : EventData}

/- An event whose customer is the user. -/
theorem leads_forCustomer
    {body : String → Handler Unit}
    (hFinds : Finds s.store data key)
    (hBody :
      ∀ tr uid, docId "users" uid = key →
        (body uid).Leads sideExec Uncancelled post tr s) :
    (forCustomer data body).Leads sideExec Uncancelled post
      tr s := by
  rcases hFinds with ⟨customer, hCustomer, hRow, hAll⟩
  unfold forCustomer
  rw [hCustomer]
  intro a hCond
  have hFault : a.fault = false := by
    simpa [Steady, Op.isRemote] using hCond.1
  have hSome :
      s.store.users.rows.filter (fun row =>
        row.2.customerId = customer) ≠ [] := by
    rcases hRow with ⟨row, hMem, hEq⟩
    have hFiltered :
        row ∈ s.store.users.rows.filter (fun row =>
          row.2.customerId = customer) := by
      simp [hMem, hEq]
    exact List.ne_nil_of_mem hFiltered
  rcases anyOf_isSome a.pick hSome with ⟨row, hMem, hAny⟩
  have hExec :
      sideExec (.findUserByCustomer customer) a s =
        (.ok (some row), s) := by
    simp [sideExec, exec, Answer.guard, hFault, hAny]
  rw [hExec]
  simp only [List.mem_filter, decide_eq_true_eq] at hMem
  exact hBody _ _ (hAll row hMem.1 hMem.2)

/- An event that may be about anyone. -/
theorem leads_forCustomer_any
    {body : String → Handler Unit}
    (hStop : ∀ r, post s r)
    (hBody :
      ∀ tr uid,
        (body uid).Leads sideExec Uncancelled post tr s) :
    (forCustomer data body).Leads sideExec Uncancelled post
      tr s := by
  unfold forCustomer
  cases data.customer with
  | none => exact hStop _
  | some customer =>
    refine leads_asks ⟨rfl, fun _ => trivial⟩
      (fun e => hStop _) (fun tr found => ?_)
    cases found with
    | none => exact hStop _
    | some row => exact hBody tr _

/- The world in which an event is delivered. -/
def Side.learned (s : Side) (event : StripeEvent) : Side :=
  { s with account := s.account.learn event s.now }

/- What is announced is known, or begins now. -/
theorem Account.learn_created
    (account : Account)
    (data : EventData)
    (now : Int) :
    (∃ sub, account = .live sub ∧
        account.learn ⟨.created, data⟩ now =
          .live { sub with announced := true }) ∨
      account.isLive data.subscriptionId = false ∧
        account.learn ⟨.created, data⟩ now =
          .live (StripeEvent.first ⟨.created, data⟩ now) := by
  cases account with
  | none => exact Or.inr ⟨rfl, rfl⟩
  | ended id => exact Or.inr ⟨rfl, rfl⟩
  | live sub =>
    by_cases hId : sub.id = data.subscriptionId
    · left
      refine ⟨sub, rfl, ?_⟩
      simp [Account.learn, hId]
    · right
      simp [Account.learn, Account.isLive, hId]

/- A subscription that begins now has no benefits yet. -/
theorem Live.isDue_first
    (event : StripeEvent)
    (now : Int) :
    (event.first now).isDue now = false := by
  have hDelay : 0 < benefitsDelay := by decide
  have hLater : ¬ now + benefitsDelay ≤ now := by omega
  exact decide_eq_false hLater

theorem sound_created
    (hSound : Sound userId key s)
    (hMay : Favourable key s (.event ⟨.created, data⟩)) :
    (StripeEvent.handler ⟨.created, data⟩).Leads sideExec
      Uncancelled (fun s' _ => Sound userId key s') tr
      (s.learned ⟨.created, data⟩) := by
  rcases hMay with ⟨hFinds, hNew⟩
  have hHere :
      Finds (s.learned ⟨.created, data⟩).store data key :=
    hFinds
  change (handleSubscriptionCreated data).Leads sideExec
      Uncancelled _ tr _
  refine leads_forCustomer hHere ?_
  intro tr uid hUid
  refine leads_ask rfl (fun tr now => ?_)
  refine leads_updateUser (fun tr _ _ => ?_)
  have hPremium :
      ((s.learned ⟨.created, data⟩).editUser uid
        { isPremium := some true
          premiumSince :=
            some (some (toRfc3339 now)) }).store.isPremium
        key = true :=
    Side.isPremium_editUser_some rfl hUid hSound.user
  constructor
  · rw [Side.isSome_editUser]
    exact hSound.user
  · exact hSound.owner
  · intro hPaid
    refine ⟨hPremium, ?_⟩
    change
      (s.account.learn ⟨.created, data⟩ s.now).isPaid s.now =
        true at hPaid
    change s.store.status key = _ ∧
        (s.account.learn ⟨.created, data⟩ s.now).isDue
          s.now = false
    rcases s.account.learn_created data s.now with
      ⟨sub, hLive, hLearn⟩ | ⟨hOther, hLearn⟩
    · rw [hLearn] at hPaid ⊢
      have hBefore := hSound.paid (by rw [hLive]; exact hPaid)
      rw [hLive] at hBefore
      exact hBefore.2
    · rw [hLearn] at hPaid ⊢
      refine ⟨?_, Live.isDue_first _ _⟩
      rcases hNew with hKnown | ⟨_, hDoc⟩
      · exact absurd (hOther.symm.trans hKnown)
          Bool.false_ne_true
      · exact hDoc hPaid
  · intro _
    exact hPremium
  · intro hEnded
    change
      (s.account.learn ⟨.created, data⟩ s.now).isEnded =
        true at hEnded
    rcases s.account.learn_created data s.now with
      ⟨sub, _, hLearn⟩ | ⟨_, hLearn⟩
    · rw [hLearn] at hEnded
      cases hEnded
    · rw [hLearn] at hEnded
      cases hEnded

/- The subscription that an event follows. -/
theorem StripeEvent.live_of_follows
    {event : StripeEvent}
    {account : Account}
    (hKind : event.kind ≠ .created)
    (hFollows : event.follows account = true) :
    ∃ sub, account = .live sub ∧ sub.announced = true := by
  have hBoth :
      account.isLive event.data.subscriptionId = true ∧
        account.isAnnounced = true := by
    cases hName : event.kind with
    | created => exact absurd hName hKind
    | updated => simpa [follows, hName] using hFollows
    | deleted => simpa [follows, hName] using hFollows
    | paymentFailed => simpa [follows, hName] using hFollows
  cases account with
  | none => cases hBoth.1
  | ended id => cases hBoth.1
  | live sub => exact ⟨sub, rfl, hBoth.2⟩

/- The same subscription, with another status and period. -/
theorem Sound.changed
    {sub sub' : Live}
    (hSound : Sound userId key s)
    (hLive : s.account = .live sub)
    (hAnnounced : sub.announced = true)
    (hUnpaid : sub'.isPaid s.now = false) :
    Sound userId key { s with account := .live sub' } where
  user := hSound.user
  owner := hSound.owner
  paid := fun hPaid =>
    absurd (hUnpaid.symm.trans hPaid) Bool.false_ne_true
  announced := fun _ =>
    hSound.announced (by rw [hLive]; exact hAnnounced)
  ended := fun hEnded => by cases hEnded

theorem sound_updated
    (hUser : IsUser userId key)
    (hSound : Sound userId key s)
    (hFollows :
      StripeEvent.follows ⟨.updated, data⟩ s.account = true)
    (hMay : Favourable key s (.event ⟨.updated, data⟩)) :
    (StripeEvent.handler ⟨.updated, data⟩).Leads sideExec
      Uncancelled (fun s' _ => Sound userId key s') tr
      (s.learned ⟨.updated, data⟩) := by
  rcases StripeEvent.live_of_follows (by simp) hFollows with
    ⟨sub, hLive, hAnnounced⟩
  have hLearn :
      s.account.learn ⟨.updated, data⟩ s.now = .live
          { sub with
            status := data.status.getD "unknown"
            paidUntil :=
              data.currentPeriodEnd.getD 0 } := by
    rw [hLive]
    rfl
  change (handleSubscriptionUpdated data).Leads sideExec
      Uncancelled _ tr _
  cases hPaid :
      (s.account.learn ⟨.updated, data⟩ s.now).isPaid
        s.now with
  | false =>
    have hChanged :
        Sound userId key (s.learned ⟨.updated, data⟩) := by
      unfold Side.learned
      rw [hLearn] at hPaid ⊢
      exact hSound.changed hLive hAnnounced hPaid
    refine leads_forCustomer_any (fun _ => hChanged) ?_
    intro tr uid
    refine leads_updateSubscription (fun tr _ => ?_)
    refine hChanged.editSubscription rfl hPaid ?_ _
    change
      (s.account.learn ⟨.updated, data⟩ s.now).isEnded =
        false
    rw [hLearn]
    rfl
  | true =>
    rcases hMay hPaid with ⟨hFinds, hDoc, hDue⟩
    have hHere :
        Finds (s.learned ⟨.updated, data⟩).store data
          key := hFinds
    refine leads_forCustomer hHere ?_
    intro tr uid hUid
    refine leads_updateSubscription (fun tr _ => ?_)
    have hKey :
        docId "subscriptions" (rawUserId uid) = key := by
      have hRaw : rawUserId uid = key := hUid
      rw [hRaw, hUser.bare]
    have hPremium : s.store.isPremium key = true :=
      hSound.announced (by rw [hLive]; exact hAnnounced)
    have hActive :
        data.status.getD "unknown" =
          Status.active.asStr := by
      rw [hLearn] at hPaid
      simp only [Account.isPaid, Live.isPaid,
        Bool.and_eq_true, decide_eq_true_eq] at hPaid
      exact hPaid.1
    constructor
    · exact hSound.user
    · exact Side.owner_editSubscription rfl hSound.owner
    · intro _
      refine ⟨hPremium, ?_, ?_⟩
      · exact Side.status_editSubscription
          (congrArg some hActive) hKey hDoc
      · change
          (s.account.learn ⟨.updated, data⟩ s.now).isDue
            s.now = false
        rw [hLearn]
        rw [hLive] at hDue
        exact hDue
    · intro _
      exact hPremium
    · intro hEnded
      change
        (s.account.learn ⟨.updated, data⟩ s.now).isEnded =
          true at hEnded
      rw [hLearn] at hEnded
      cases hEnded

theorem sound_deleted
    (hUser : IsUser userId key)
    (hSound : Sound userId key s)
    (hFollows :
      StripeEvent.follows ⟨.deleted, data⟩ s.account = true)
    (hMay : Favourable key s (.event ⟨.deleted, data⟩)) :
    (StripeEvent.handler ⟨.deleted, data⟩).Leads sideExec
      Uncancelled (fun s' _ => Sound userId key s') tr
      (s.learned ⟨.deleted, data⟩) := by
  rcases StripeEvent.live_of_follows (by simp) hFollows with
    ⟨sub, hLive, _⟩
  rcases hMay with ⟨hFinds, hDoc⟩
  have hHere :
      Finds (s.learned ⟨.deleted, data⟩).store data key :=
    hFinds
  have hLearn :
      s.account.learn ⟨.deleted, data⟩ s.now =
        .ended sub.id := by
    rw [hLive]
    rfl
  change (handleSubscriptionDeleted data).Leads sideExec
      Uncancelled _ tr _
  refine leads_forCustomer hHere ?_
  intro tr uid hUid
  have hRaw : rawUserId uid = key := hUid
  rw [hRaw]
  refine leads_ask rfl (fun tr now => ?_)
  refine leads_updateUser (fun tr r hFound => ?_)
  have hOk : r = .ok () := by
    apply hFound
    rw [hUser.bareUser]
    exact hSound.user
  rw [hOk]
  refine leads_updateSubscription (fun tr _ => ?_)
  constructor
  · change
      ((Side.editUser _ key _).store.users.get key).isSome =
        true
    rw [Side.isSome_editUser]
    exact hSound.user
  · exact Side.owner_editSubscription rfl hSound.owner
  · intro hPaid
    change
      (s.account.learn ⟨.deleted, data⟩ s.now).isPaid s.now =
        true at hPaid
    rw [hLearn] at hPaid
    cases hPaid
  · intro hAnnounced
    change
      (s.account.learn ⟨.deleted, data⟩ s.now).isAnnounced =
        true at hAnnounced
    rw [hLearn] at hAnnounced
    cases hAnnounced
  · intro _
    constructor
    · exact Side.isPremium_editUser_some rfl hUser.bareUser
        hSound.user
    · exact Side.status_editSubscription rfl hUser.bare hDoc

theorem sound_paymentFailed
    (hSound : Sound userId key s)
    (hFollows :
      StripeEvent.follows ⟨.paymentFailed, data⟩ s.account =
        true) :
    (StripeEvent.handler ⟨.paymentFailed, data⟩).Leads
      sideExec Uncancelled (fun s' _ => Sound userId key s')
      tr (s.learned ⟨.paymentFailed, data⟩) := by
  rcases StripeEvent.live_of_follows (by simp) hFollows with
    ⟨sub, hLive, hAnnounced⟩
  have hLearn :
      s.account.learn ⟨.paymentFailed, data⟩ s.now = .live
          { sub with
            status := Status.pastDue.asStr } := by
    rw [hLive]
    rfl
  have hChanged :
      Sound userId key
        (s.learned ⟨.paymentFailed, data⟩) := by
    unfold Side.learned
    rw [hLearn]
    exact hSound.changed hLive hAnnounced rfl
  change (handleInvoicePaymentFailed data).Leads sideExec
      Uncancelled _ tr _
  refine leads_forCustomer_any (fun _ => hChanged) ?_
  intro tr uid
  have hUserEdit :
      Sound userId key
        ((s.learned ⟨.paymentFailed, data⟩).editUser
          (rawUserId uid) {}) :=
    hChanged.editUser rfl _
  refine leads_updateUser (fun tr r _ => ?_)
  rcases r with e | _
  · exact hUserEdit
  · refine leads_updateSubscription (fun tr r => ?_)
    have hUnpaid :
        (s.account.learn ⟨.paymentFailed, data⟩
          s.now).isPaid s.now = false := by
      rw [hLearn]
      rfl
    have hOn :
        (s.account.learn ⟨.paymentFailed, data⟩
          s.now).isEnded = false := by
      rw [hLearn]
      rfl
    have hEdit :
        Sound userId key
          (((s.learned ⟨.paymentFailed, data⟩).editUser
              (rawUserId uid) {}).editSubscription
            (rawUserId uid)
            { status := some Status.pastDue.asStr
              subscriptionStatus :=
                some Status.pastDue.asStr }) :=
      hUserEdit.editSubscription rfl hUnpaid hOn _
    rcases r with e | _
    · exact hEdit
    · exact leads_ask rfl (fun tr _ => hEdit)

end

--------
-- Whole Journeys
--------

section

variable {parse : ParseRfc3339} {userId key : String}
variable {s s' : Side}

theorem Live.isPaid_of_later
    {sub : Live}
    {now' : Int}
    (hPaid : sub.isPaid now' = true)
    (hLater : now ≤ now') :
    sub.isPaid now = true := by
  simp only [Live.isPaid, Bool.and_eq_true,
    decide_eq_true_eq] at hPaid ⊢
  exact ⟨hPaid.1, by omega⟩

theorem sound_wait
    (hSound : Sound userId key s)
    (hMay : Favourable key s (.wait now))
    (hLater : s.now ≤ now) :
    Sound userId key { s with now := now } where
  user := hSound.user
  owner := hSound.owner
  paid := by
    intro hPaid
    have hBefore : s.account.isPaid s.now = true := by
      cases hAccount : s.account with
      | none => simp [hAccount, Account.isPaid] at hPaid
      | ended id => simp [hAccount, Account.isPaid] at hPaid
      | live sub =>
        simp only [hAccount] at hPaid
        exact Live.isPaid_of_later hPaid hLater
    have hOld := hSound.paid hBefore
    exact ⟨hOld.1, hOld.2.1, hMay hPaid⟩
  announced := hSound.announced
  ended := hSound.ended

/- A request that ends as its handler does. -/
theorem leads_ignore
    {α : Type}
    {p : Handler α}
    {P : Side → Prop}
    (hLeads :
      p.Leads sideExec Uncancelled (fun s' _ => P s') tr s) :
    (andThen p fun _ => ok ()).Leads sideExec Uncancelled
      (fun s' _ => P s') tr s :=
  leads_andThen hLeads (fun _ _ _ hP => hP)
    (fun _ _ hP => hP)

theorem sound_step
    (hUser : IsUser userId key)
    (hSound : Sound userId key s)
    (hStep :
      Step parse userId Uncancelled (Favourable key) s s') :
    Sound userId key s' := by
  cases hStep with
  | wait hMay hLater => exact sound_wait hSound hMay hLater
  | @call _ request tr r hMay hEnds =>
    cases request with
    | create req =>
      exact (leads_ignore
        (sound_create hUser hSound)).of_ends hEnds
    | cancel req =>
      exact (leads_ignore
        (sound_cancel hSound)).of_ends hEnds
    | reactivate req =>
      exact (leads_ignore
        (sound_reactivate hUser hSound)).of_ends hEnds
  | @event _ event tr r hMay hFollows hEnds =>
    rcases event with ⟨kind, data⟩
    cases kind with
    | created =>
      exact (sound_created hSound hMay).of_ends hEnds
    | updated =>
      exact (sound_updated hUser hSound hFollows
        hMay).of_ends hEnds
    | deleted =>
      exact (sound_deleted hUser hSound hFollows
        hMay).of_ends hEnds
    | paymentFailed =>
      exact (sound_paymentFailed hSound
        hFollows).of_ends hEnds

theorem sound_journey
    {s₀ : Side}
    (hUser : IsUser userId key)
    (hStart : Sound userId key s₀)
    (hJourney :
      Journey parse userId Uncancelled (Favourable key) s₀
        s) :
    Sound userId key s := by
  induction hJourney with
  | refl => exact hStart
  | step _ hStep ih => exact sound_step hUser ih hStep

end

--------
-- The Readings
--------

section

variable {userId key : String} {s : Side}

theorem Column.asI64_text (text : Option String) :
    ((Column.text text).value.bind Value.asI64) = none := by
  cases text <;> rfl

/- The clock is never at the largest second. -/
def Side.inTime (s : Side) : Prop :=
  secondOf s.now < i64Max

instance (s : Side) : Decidable s.inTime :=
  inferInstanceAs (Decidable (_ < _))

/- The benefits are active for no one. -/
theorem not_benefits
    (hTime : s.inTime)
    (userId : String) :
    Benefits s userId false := by
  intro tr s' r hEnds
  have hLeads :
      (isSubscriptionBenefitsActive userId).Leads sideExec
        Granted (fun _ r => r = false) [] s := by
    intro a hCond
    rw [show (sideExec (.benefitsRow userId) a s).2 = s from
      sideExec_ask rfl a s]
    have hExec :
        (sideExec (.benefitsRow userId) a s).1 =
          .ok ((anyOf a.pick
            (s.store.subscriptions.rows.filter (fun row =>
              row.2.buyerId = userId &&
                row.2.isActive))).map (fun row =>
                  { benefitsActiveAt :=
                      .text
                        (fieldText row.2.benefitsActiveAt)
                    status := .text row.2.status })) := by
      simp only [sideExec, exec, Answer.guard, hCond.1,
        Bool.false_eq_true, if_false]
      rfl
    rw [hExec]
    cases anyOf a.pick
        (s.store.subscriptions.rows.filter (fun row =>
          row.2.buyerId = userId && row.2.isActive)) with
    | none => rfl
    | some row =>
      intro b _
      change decide (((Column.text
            (fieldText row.2.benefitsActiveAt)).value.bind
              Value.asI64).getD i64Max ≤
            secondOf s.now) = false
      rw [Column.asI64_text]
      exact decide_eq_false (Int.not_le.mpr hTime)
  exact hLeads.of_ends hEnds

/- The status of the document is the status reported. -/
theorem reports_of_status
    (hUser : IsUser userId key)
    (hStatus : s.store.status key = some text) :
    Reports s userId (text = Status.active.asStr) := by
  intro tr s' r hEnds
  rcases Option.isSome_iff_exists.mp
      (isSome_of_status hStatus) with ⟨doc, hGet⟩
  have hText : doc.statusOr "unknown" = text := by
    simp only [Store.status, hGet, Option.bind_some]
      at hStatus
    simp [Subscription.statusOr, hStatus]
  have hLeads :
      (subscriptionStatus { userId := userId } {}).Leads
        sideExec Granted
        (fun _ r =>
          ∃ response, r = .ok response ∧
            response.isPremium =
              decide (text = Status.active.asStr)) [] s := by
    have hSelf :
        resolveSelfUserId { userId := userId } "" "userId" =
          .ok userId := by
      simp [resolveSelfUserId, hUser.ne]
    have hValid :
        validateUid "userId" userId = .ok () := by
      unfold validateUid
      rw [if_neg hUser.ne, if_neg (Nat.not_lt.mpr hUser.short)]
    unfold subscriptionStatus asSelf
    rw [Option.getD_none, hSelf]
    change (andThen (lift (validateUid "userId" userId))
        _).Leads sideExec Granted _ [] s
    rw [hValid]
    intro a hCond
    have hLimit :
        sideExec (.rateLimit userId "subscription_status") a
          s = (.ok (), s) := by
      simp [sideExec, exec, Answer.guard, hCond.1, hCond.2]
    rw [hLimit]
    intro b hCond'
    have hRead :
        sideExec (.getSubscription (rawUserId userId)) b s =
          (.ok doc, s) := by
      simp [sideExec, exec, Answer.guard, hCond'.1,
        hUser.subscriptionKey, hGet]
    rw [hRead]
    refine ⟨_, rfl, ?_⟩
    change
      decide (doc.statusOr "unknown" = Status.active.asStr) =
        _
    rw [hText]
  exact hLeads.of_ends hEnds

theorem Sound.entitled
    (hUser : IsUser userId key)
    (hSound : Sound userId key s)
    (hTime : s.inTime) :
    Entitled userId key s where
  paid := by
    intro hPaid
    rcases hSound.paid hPaid with ⟨hPremium, hStatus, hDue⟩
    refine ⟨hPremium, ?_, ?_⟩
    · exact reports_of_status hUser hStatus
    · intro hYes
      exact absurd (hDue.symm.trans hYes) Bool.false_ne_true
  ended := by
    intro hEnded
    rcases hSound.ended hEnded with ⟨hPremium, hStatus⟩
    refine ⟨hPremium, ?_, not_benefits hTime userId⟩
    exact reports_of_status hUser hStatus

end

/- Before any subscription: a user, and no one else's. -/
structure Start (userId key : String) (s : Side) : Prop where
  user : (s.store.users.get key).isSome = true
  owner :
    ∀ doc, s.store.subscriptions.get key = some doc →
      doc.buyerId = userId
  account : s.account = .none

/-
  Along favourable steps a user who has paid is told so, and
  one whose subscription has ended too.
-/
theorem entitled_of_journey
    {parse : ParseRfc3339}
    {userId key : String}
    {s₀ s : Side}
    (hUser : IsUser userId key)
    (hStart : Start userId key s₀)
    (hJourney :
      Journey parse userId Uncancelled (Favourable key) s₀ s)
    (hTime : s.inTime) :
    Entitled userId key s := by
  have hSound : Sound userId key s₀ := by
    constructor
    · exact hStart.user
    · exact hStart.owner
    · rw [hStart.account]
      exact nofun
    · rw [hStart.account]
      exact nofun
    · rw [hStart.account]
      exact nofun
  exact (sound_journey hUser hSound hJourney).entitled hUser
    hTime

/- A user with a customer at Stripe. -/
def newcomer : Side where
  store := { users := ⟨[("u1", { customerId := "cus_1" })]⟩ }
  now := 1760000000000000000

/- A card that pays at once, until 2026. -/
def paysAtOnce : Answer where
  subscription :=
    { id := some "sub_1"
      status := some "active"
      currentPeriodEnd := some 1790000000 }

def withCard : Request :=
  .create { paymentMethodId := some "pm_1" }

/- The newcomer once the subscription is stored. -/
def subscriber : Side :=
  ((Prog.play sideExec Uncancelled
    (List.replicate 12 paysAtOnce) [] newcomer
    (withCard.handler (fun _ => none)
      { userId := "u1" })).map (·.1)).getD {}

theorem isUser_u1 : IsUser "u1" "u1" := by
  constructor <;> decide

theorem start_newcomer : Start "u1" "u1" newcomer where
  user := by decide
  owner := by
    intro doc hGet
    cases hGet
  account := rfl

theorem journey_subscriber
    {cond : StepCond Op.Res Answer Side}
    {may : Side → Move → Prop}
    (hCond :
      ∀ tr o a s, Uncancelled tr o a s → cond tr o a s)
    (hMay : may newcomer (.call withCard)) :
    Journey (fun _ => none) "u1" cond may newcomer
      subscriber := by
  have hPlay :
      Prog.play sideExec Uncancelled
        (List.replicate 12 paysAtOnce) [] newcomer
        (withCard.handler (fun _ => none)
          { userId := "u1" }) =
        some (subscriber, .ok ()) := by
    decide
  rcases Prog.Ends.of_play hPlay with ⟨tr, hEnds⟩
  exact Journey.step Journey.refl
    (Step.call hMay (hEnds.of_cond hCond))

theorem entitled_of_journey_subscriber :
    subscriber.account.isPaid subscriber.now = true ∧
      Entitled "u1" "u1" subscriber := by
  refine ⟨by decide, ?_⟩
  exact entitled_of_journey isUser_u1 start_newcomer
    (journey_subscriber (fun _ _ _ _ hCond => hCond) trivial)
    (by decide)

/- The subscriber has cancelled at the end of the period. -/
def cancelled : Side :=
  ((Prog.play sideExec Steady (List.replicate 8 {}) []
    subscriber
    ((Request.cancel {}).handler (fun _ => none)
      { userId := "u1" })).map (·.1)).getD {}

/- A paid period that is told to be over. -/
theorem not_entitled_after_cancel :
    ¬ ∀ parse userId key s₀ s, IsUser userId key →
      Start userId key s₀ →
      Journey parse userId Steady (fun _ _ => True) s₀ s →
      s.inTime →
        Entitled userId key s := by
  intro hAll
  have hFirst :
      Journey (fun _ => none) "u1" Steady (fun _ _ => True)
        newcomer subscriber :=
    journey_subscriber (fun _ _ _ _ hCond => hCond.1) trivial
  have hPlay :
      Prog.play sideExec Steady (List.replicate 8 {}) []
        subscriber
        ((Request.cancel {}).handler (fun _ => none)
          { userId := "u1" }) = some (cancelled, .ok ()) := by
    decide
  rcases Prog.Ends.of_play hPlay with ⟨tr, hEnds⟩
  have hEntitled :=
    hAll _ "u1" "u1" newcomer cancelled isUser_u1
      start_newcomer
      (hFirst.step (Step.call trivial hEnds))
      (by decide)
  have hStatus :
      Prog.play sideExec Granted (List.replicate 2 {}) []
        cancelled
        (subscriptionStatus { userId := "u1" } {}) =
        some (cancelled, .ok ⟨true, false, "cancel_pending",
              some (periodEndText 1790000000),
              some "sub_1"⟩) := by
    decide
  rcases Prog.Ends.of_play hStatus with ⟨tr', hReport⟩
  rcases (hEntitled.paid (by decide)).2.1 _ _ _
      hReport with ⟨response, hOk, hPremium⟩
  rw [← Except.ok.inj hOk] at hPremium
  exact absurd hPremium Bool.false_ne_true

end Orignabase.Premium
