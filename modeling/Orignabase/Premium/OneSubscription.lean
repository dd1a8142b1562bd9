import Orignabase.Premium.Rules

/-
  How many subscriptions a user has at Stripe.

  Every call that creates a subscription makes a new one.
  Whether there is one already is asked of the document, and
  only an active one is found.

  Key definitions include:
    * `Billing`
    * `OneLive`
    * `Prompt`

  Main results:
    * `oneLive_of_inTurn`
-/

--------
-- The Subscriptions That Were Made
--------

namespace Orignabase.Premium

open Conc Handler

/- The documents, and what was made for the user at Stripe. -/
structure Billing where
  store : Store := {}
  made : List StripeSubscription := []
  deriving DecidableEq, Repr

namespace Billing

def exec : Exec Op.Res Answer Billing
  | .createStripeSubscription .., a, b =>
    if a.fault then (.error .fault, b)
    else
      (.ok a.subscription,
        { b with made := a.subscription :: b.made })
  | o, a, b =>
    ((Premium.exec o a b.store).1,
      { b with store := (Premium.exec o a b.store).2 })

end Billing

/- Neither cancelled nor expired, in the words of Stripe. -/
def StripeSubscription.isLive (sub : StripeSubscription) :
    Bool :=
  ! ["canceled", "incomplete_expired"].contains
    (sub.status.getD "incomplete")

def Billing.live (b : Billing) : List StripeSubscription :=
  b.made.filter (·.isLive)

/- At most one is live, and that one is stored. -/
structure OneLive (key : String) (b : Billing) : Prop where
  few : b.live.length ≤ 1
  stored :
    ∀ sub ∈ b.live,
      (b.store.subscriptions.get key).bind
          (·.stripeSubscriptionId) = some (sub.id.getD "")

/- An operation that asks Stripe. -/
def Op.asksStripe : Op → Bool
  | .createCustomer .. | .createCheckout ..
  | .attachMethod .. | .setDefaultMethod ..
  | .createStripeSubscription ..
  | .setCancelAtPeriodEnd .. => true
  | _ => false

def Op.isCreation : Op → Bool
  | .createStripeSubscription .. => true
  | _ => false

/-
  No statement fails, and no subscription is made while an
  earlier one is live and not active.
-/
def Prompt : StepCond Op.Res Answer Billing :=
  fun _ o a b =>
    if o.isCreation then
      a.fault = true ∨
        ∀ sub ∈ b.live, sub.status = some "active"
    else o.asksStripe = true ∨ a.fault = false

instance Prompt.decidable
    (tr : List (Event Op.Res Answer))
    (o : Op)
    (a : Answer)
    (b : Billing) : Decidable (Prompt tr o a b) := by
  unfold Prompt
  infer_instance

--------
-- One Request
--------

namespace Billing

section

variable {userId key : String} {b : Billing}

/- What is live is stored, and found if it is active. -/
structure Kept (userId key : String) (b : Billing) :
    Prop where
  few : b.live.length ≤ 1
  stored :
    ∀ sub ∈ b.live, ∃ doc,
      b.store.subscriptions.get key = some doc ∧
        doc.stripeSubscriptionId = some (sub.id.getD "") ∧
        doc.buyerId = userId ∧
        (sub.status = some "active" → doc.isActive = true)

/- Only the documents of subscriptions matter. -/
theorem Kept.congr
    {b' : Billing}
    (hKept : Kept userId key b)
    (hMade : b'.made = b.made)
    (hSame : b'.store.subscriptions = b.store.subscriptions) :
    Kept userId key b' := by
  constructor
  · unfold Billing.live
    rw [hMade]
    exact hKept.few
  · unfold Billing.live
    rw [hMade, hSame]
    exact hKept.stored

theorem exec_ask
    {o : Op}
    (hAsk : o.isAsk = true)
    (a : Answer)
    (b : Billing) :
    (Billing.exec o a b).2 = b := by
  cases o <;> simp only [Op.isAsk, Op.isQuiet,
    Bool.false_eq_true] at hAsk <;>
    simp only [Billing.exec, Premium.exec, Answer.guard,
      apply_ite Prod.snd, ite_self]

section

variable {α β γ : Type}
variable {cond : StepCond Op.Res Answer Billing}
variable {tr : List (Event Op.Res Answer)}

theorem leads_ask
    {post : Billing → γ → Prop}
    {o : Op}
    {k : Op.Res o → Prog Op.Res γ}
    (hAsk : o.isAsk = true)
    (hNext :
      ∀ tr r, (k r).Leads Billing.exec cond post tr b) :
    (Prog.call o k).Leads Billing.exec cond post tr b :=
  Prog.Leads.skip (fun a => exec_ask hAsk a b) hNext

theorem leads_asks
    {post : Billing → Except Error α → Prop}
    {p : Handler β}
    {f : β → Handler α}
    (hAsks : Asks p)
    (hStop : ∀ e, post b (.error e))
    (hNext :
      ∀ tr x, (f x).Leads Billing.exec cond post tr b) :
    (andThen p f).Leads Billing.exec cond post tr b :=
  hAsks.leads (fun _ a hAsk => exec_ask hAsk a b) hStop hNext

/- A change of a user changes nothing that matters here. -/
theorem leads_updateUser
    {post : Billing → γ → Prop}
    {id : String}
    {patch : UserPatch}
    {k : Except Error Unit → Prog Op.Res γ}
    (hNext :
      ∀ tr r b', b'.made = b.made →
        b'.store.subscriptions = b.store.subscriptions →
          (k r).Leads Billing.exec cond post tr b') :
    (Prog.call (Op.updateUser id patch) k).Leads Billing.exec
      cond post tr b := by
  intro a _
  refine hNext _ _ _ rfl ?_
  simp only [Billing.exec, Premium.exec, Answer.guard]
  split_ifs <;> rfl

end

/- Until a subscription is made, nothing that matters. -/
def Untouched (b b' : Billing) : Prop :=
  b'.made = b.made ∧
    b'.store.subscriptions = b.store.subscriptions

variable {tr : List (Event Op.Res Answer)}

theorem leads_ensureCustomer :
    (ensureCustomer userId).Leads Billing.exec Prompt
      (fun b' _ => Untouched b b') tr b := by
  have hSame : Untouched b b := ⟨rfl, rfl⟩
  refine leads_asks ⟨rfl, fun r => ?_⟩ (fun _ => hSame)
    (fun tr user => ?_)
  · rcases r with e | user <;> trivial
  · by_cases hHas : user.customerId ≠ ""
    · rw [if_pos hHas]
      exact hSame
    · rw [if_neg hHas]
      refine leads_asks ⟨rfl, fun r => ?_⟩ (fun _ => hSame)
        (fun tr customer => ?_)
      · rcases r with e | customer <;> trivial
      · cases customer with
        | none => exact hSame
        | some customerId =>
          refine leads_updateUser (fun tr r b' h h' => ?_)
          rcases r with e | _
          · exact ⟨h, h'⟩
          · exact ⟨h, h'⟩

theorem leads_checkoutSubscription
    {customerId interval : String}
    (hKept : Kept userId key b) :
    (checkoutSubscription userId customerId
      interval).Leads Billing.exec Prompt
      (fun b' _ => Kept userId key b') tr b := by
  refine leads_asks ⟨rfl, fun _ => trivial⟩
    (fun _ => hKept) (fun tr user => ?_)
  unfold require
  split_ifs
  · refine leads_asks ⟨rfl, fun r => ?_⟩ (fun _ => hKept)
      (fun tr session => ?_)
    · rcases r with e | session <;> trivial
    · split_ifs
      · exact leads_updateUser
          (fun tr _ b' h h' => hKept.congr h h')
      · exact hKept
  · exact hKept

/- A subscription that is made where none is live. -/
theorem Kept.made
    {b' : Billing}
    {sub : StripeSubscription}
    {created : String}
    {now : Int}
    (hKey :
      docId "subscriptions" (rawUserId userId) = key)
    (hNone : b.live = [])
    (hMade : b'.made = sub :: b.made)
    (hStore :
      b'.store.subscriptions = b.store.subscriptions.upsert
          (docId "subscriptions" (rawUserId userId))
          ((newSubscription userId sub created now).apply
            ((b.store.subscriptions.get
              (docId "subscriptions"
                (rawUserId userId))).getD {}))) :
    Kept userId key b' := by
  have hLive : b'.live = [sub].filter (·.isLive) := by
    unfold Billing.live at hNone ⊢
    rw [hMade, List.filter_cons, hNone]
    simp [List.filter_cons]
  constructor
  · rw [hLive]
    exact List.length_filter_le _ _
  · intro sub' hMem
    rw [hLive] at hMem
    have hSub : sub' = sub := by
      simpa using List.mem_of_mem_filter hMem
    subst hSub
    rw [hStore, hKey, Table.get_upsert, if_pos rfl]
    refine ⟨_, rfl, rfl, rfl, ?_⟩
    intro hActive
    simp [Subscription.isActive, SubscriptionPatch.apply,
      newSubscription, hActive, Status.asStr]

theorem leads_payForSubscription
    {customerId interval methodId : String}
    (hKey :
      docId "subscriptions" (rawUserId userId) = key)
    (hKept : Kept userId key b)
    (hInactive :
      ∀ sub ∈ b.live, sub.status ≠ some "active") :
    (payForSubscription userId customerId interval
      methodId).Leads Billing.exec Prompt
      (fun b' _ => Kept userId key b') tr b := by
  refine leads_asks ⟨rfl, fun r => ?_⟩ (fun _ => hKept)
    (fun tr _ => ?_)
  · rcases r with e | _ <;> trivial
  refine leads_ask rfl (fun tr _ => ?_)
  intro a hCond
  cases hFault : a.fault with
  | true =>
    have hExec :
        Billing.exec
          (.createStripeSubscription customerId interval)
          a b = (.error .fault, b) := by
      simp [Billing.exec, hFault]
    rw [hExec]
    exact hKept
  | false =>
    -- All that is live would be active, so nothing is.
    have hNone : b.live = [] := by
      rcases hCond with hYes | hActive
      · exact absurd (hFault.symm.trans hYes)
          Bool.false_ne_true
      · refine List.eq_nil_iff_forall_not_mem.mpr ?_
        intro sub hMem
        exact hInactive sub hMem (hActive sub hMem)
    have hExec :
        Billing.exec
          (.createStripeSubscription customerId interval)
          a b =
          (.ok a.subscription,
            { b with
              made := a.subscription :: b.made }) := by
      simp [Billing.exec, hFault]
    rw [hExec]
    refine leads_ask rfl (fun tr created => ?_)
    refine leads_ask rfl (fun tr now => ?_)
    intro d hCond'
    have hStep : d.fault = false := by
      simpa [Prompt, Op.isCreation, Op.asksStripe]
        using hCond'
    have hUpsert :
        (Billing.exec
          (.upsertSubscription (rawUserId userId)
            (newSubscription userId a.subscription
              (Timestamp.toRfc3339 created) now)) d
          { b with
            made := a.subscription :: b.made }).1 =
          .ok () := by
      simp only [Billing.exec, Premium.exec, Answer.guard,
        hStep, Bool.false_eq_true, if_false]
      rfl
    rw [hUpsert]
    change Prog.Leads Billing.exec Prompt _ _ _
        (if a.subscription.status.getD "incomplete" =
            Status.active.asStr
          then _ else _)
    have hSubs :
        (Billing.exec
          (.upsertSubscription (rawUserId userId)
            (newSubscription userId a.subscription
              (Timestamp.toRfc3339 created) now)) d
          { b with
            made := a.subscription ::
                b.made }).2.store.subscriptions =
          b.store.subscriptions.upsert
            (docId "subscriptions" (rawUserId userId))
            ((newSubscription userId a.subscription
              (Timestamp.toRfc3339 created) now).apply
              ((b.store.subscriptions.get
                (docId "subscriptions"
                  (rawUserId userId))).getD {})) := by
      simp [Billing.exec, Premium.exec, Answer.guard, hStep]
    split_ifs
    · refine leads_updateUser (fun tr _ b' h h' => ?_)
      exact Kept.made hKey hNone h (h'.trans hSubs)
    · exact Kept.made hKey hNone rfl hSubs

/- An active subscription that is live is found. -/
theorem activeSubscription_of_live
    {a : Answer}
    {sub : StripeSubscription}
    (hKept : Kept userId key b)
    (hMem : sub ∈ b.live)
    (hActive : sub.status = some "active")
    (hFault : a.fault = false) :
    ∃ id, Billing.exec (.activeSubscription userId) a b =
        (.ok (some id), b) := by
  rcases hKept.stored sub hMem with
    ⟨doc, hGet, _, hBuyer, hFound⟩
  have hRow :
      (key, doc) ∈
        b.store.subscriptions.rows.filter (fun row =>
          row.2.buyerId = userId && row.2.isActive) := by
    simp [Table.mem_of_get hGet, hBuyer, hFound hActive]
  rcases anyOf_isSome a.pick (List.ne_nil_of_mem hRow) with
    ⟨row, _, hAny⟩
  refine ⟨row.1, ?_⟩
  simp [Billing.exec, Premium.exec, Answer.guard, hFault,
    hAny]

theorem kept_create
    {req : CreateSubscriptionRequest}
    (hKey :
      docId "subscriptions" (rawUserId userId) = key)
    (hKept : Kept userId key b) :
    (createSubscription { userId := userId }
      req).Leads Billing.exec Prompt
      (fun b' _ => Kept userId key b') tr b := by
  unfold createSubscription
  generalize normalizeSubscriptionInterval req.interval =
    interval
  refine leads_resolveSelf (fun _ => hKept) (fun tr => ?_)
  refine leads_asks (asks_lift _) (fun _ => hKept)
    (fun tr interval => ?_)
  refine leads_asks (asks_lift _) (fun _ => hKept)
    (fun tr _ => ?_)
  refine leads_asks (asks_lift _) (fun _ => hKept)
    (fun tr _ => ?_)
  refine leads_asks ⟨rfl, fun _ => trivial⟩
    (fun _ => hKept) (fun tr _ => ?_)
  refine leads_ask rfl (fun tr counted => ?_)
  change
    Prog.Leads Billing.exec Prompt _ _ _ (require _ _ _)
  unfold require
  split_ifs
  · by_cases hSome :
        ∃ sub ∈ b.live, sub.status = some "active"
    · rcases hSome with ⟨sub, hMem, hActive⟩
      intro a hCond
      have hFault : a.fault = false := by
        simpa [Prompt, Op.isCreation, Op.asksStripe]
          using hCond
      rcases activeSubscription_of_live hKept hMem hActive
          hFault with ⟨id, hExec⟩
      rw [hExec]
      exact hKept
    · refine leads_asks ⟨rfl, fun _ => trivial⟩
        (fun _ => hKept) (fun tr existing => ?_)
      cases existing with
      | some id => exact hKept
      | none =>
        refine leads_andThen leads_ensureCustomer ?_ ?_
        · rintro tr b' customerId ⟨hMade, hSame⟩
          have hKept' := hKept.congr hMade hSame
          cases req.paymentMethodId with
          | none =>
            exact leads_checkoutSubscription hKept'
          | some methodId =>
            refine leads_payForSubscription hKey hKept' ?_
            intro sub hMem hActive
            refine hSome ⟨sub, ?_, hActive⟩
            unfold Billing.live at hMem ⊢
            rw [hMade] at hMem
            exact hMem
        · rintro b' e ⟨hMade, hSame⟩
          exact hKept.congr hMade hSame
  · exact hKept

end

end Billing

--------
-- Requests One At A Time
--------

abbrev Creations :=
  Config Op.Res Answer Billing
    (Except Error CreateSubscriptionResponse)

/- The requests of one user. -/
def creations
    (userId : String)
    (reqs : List CreateSubscriptionRequest) :
    List (Handler CreateSubscriptionResponse) :=
  reqs.map (createSubscription { userId := userId })

/-
  Requests that do not overlap leave at most one live
  subscription, which is the stored one.
-/
theorem oneLive_of_inTurn
    {userId key : String}
    {reqs : List CreateSubscriptionRequest}
    {b : Billing}
    {c : Creations}
    (hKey :
      docId "subscriptions" (rawUserId userId) = key)
    (hStart : b.live = [])
    (hInTurn :
      InTurn Billing.exec Prompt
        (Config.start b (creations userId reqs)) c)
    (hIdle : c.Idle) :
    OneLive key c.world := by
  have hKept : Billing.Kept userId key c.world := by
    refine hInTurn.holds ?_ ?_ hIdle
    · intro p hMem b tr b' r hKept hEnds
      rcases List.mem_map.mp hMem with ⟨req, _, rfl⟩
      exact (Billing.kept_create hKey hKept).of_ends hEnds
    · constructor
      · rw [hStart]
        exact Nat.zero_le 1
      · intro sub hSub
        rw [hStart] at hSub
        cases hSub
  constructor
  · exact hKept.few
  · intro sub hMem
    rcases hKept.stored sub hMem with ⟨doc, hGet, hId, _⟩
    rw [hGet]
    exact hId

/- A user with a customer, and nothing made at Stripe. -/
def nothingMade : Billing where
  store := { users := ⟨[("u1", { customerId := "cus_1" })]⟩ }

def payNow : CreateSubscriptionRequest where
  paymentMethodId := some "pm_1"

/- The steps of a request; Stripe makes the subscription. -/
def payTurns
    (i n : ℕ)
    (id status : String) : List (ℕ × Answer) :=
  List.replicate n (i,
      { subscription :=
          { id := some id
            status := some status } })

/- The second request finds the first subscription. -/
theorem oneLive_of_inTurn_twice :
    ∃ c, InTurn Billing.exec Prompt
        (Config.start nothingMade
          (creations "u1" [payNow, payNow])) c ∧
        c.Quiet ∧ c.world.live.length = 1 ∧
        OneLive "u1" c.world := by
  have hRun :
      ((Config.start nothingMade
          (creations "u1" [payNow, payNow])).run
        Billing.exec
        (payTurns 0 11 "sub_1" "active" ++
          payTurns 1 3 "sub_2" "active")).any (fun c =>
            decide c.Quiet &&
              decide (c.world.live.length = 1)) = true := by
    decide
  rcases (Option.any_eq_true _ _).mp hRun with
    ⟨c, hRun, hEnd⟩
  simp only [Bool.and_eq_true, decide_eq_true_eq] at hEnd
  have hInTurn :
      InTurn Billing.exec Prompt (Config.start nothingMade
          (creations "u1" [payNow, payNow])) c :=
    InTurn.of_run InTurn.refl hRun (by decide)
      (by decide)
  refine ⟨c, hInTurn, hEnd.1, hEnd.2, ?_⟩
  exact oneLive_of_inTurn (by decide) rfl hInTurn
    hEnd.1.idle

/-
  Both requests pass the check before either stores its
  subscription.
-/
theorem not_oneLive_overlapping :
    ¬ ∀ userId key reqs (b : Billing) (c : Creations),
      docId "subscriptions" (rawUserId userId) = key →
      (∀ req ∈ reqs,
        CreateSubscriptionRequest.paymentMethodId req ≠
          none) →
      b.live = [] →
      Reach Billing.exec (fun _ _ a _ => a.fault = false)
        (Config.start b (creations userId reqs)) c →
      c.Idle →
        OneLive key c.world := by
  intro hAll
  have hRun :
      ((Config.start nothingMade
          (creations "u1" [payNow, payNow])).run
        Billing.exec
        (payTurns 0 3 "sub_1" "active" ++
          payTurns 1 11 "sub_2" "active" ++
          payTurns 0 8 "sub_1" "active")).any (fun c =>
            decide c.Quiet &&
              decide (c.world.live.length = 2)) = true := by
    decide
  rcases (Option.any_eq_true _ _).mp hRun with
    ⟨c, hRun, hEnd⟩
  simp only [Bool.and_eq_true, decide_eq_true_eq] at hEnd
  have hReach :
      Reach Billing.exec (fun _ _ a _ => a.fault = false)
        (Config.start nothingMade
          (creations "u1" [payNow, payNow])) c :=
    Reach.of_run hRun (by decide)
  have hFew :=
    (hAll "u1" "u1" [payNow, payNow] nothingMade c (by decide)
      (by decide) rfl hReach hEnd.1.idle).few
  omega

end Orignabase.Premium
