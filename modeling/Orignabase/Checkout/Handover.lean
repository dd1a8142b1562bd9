import Orignabase.Checkout.Placed
import Orignabase.Lib.Retry
import Orignabase.Orders.Returns
import Orignabase.Orders.Status
import Orignabase.Payments.Capture
import Orignabase.Payments.Webhooks

/-
  What the other handlers find on an order of the checkout.

  The confirmation of a payment and the return of an item
  depend on fields of the order that no handler writes: the
  payment status stays the one of the checkout, and the order
  never has the user id that a return asks for.

  Key definitions include:
    * `PaymentReady`
    * `deliveryRun`

  Main results:
    * `payment_never_ready`
    * `returns_never_open`
-/

--------
-- Confirmed Payments
--------

namespace Orignabase

open Conc Handler

/- What capture and cancellation need of a paid order. -/
def PaymentReady (order : Order) : Prop :=
  order.orderStatus =
      some OrderStatus.paymentAuthorized.asStr ∧
    order.paymentIntentId ≠ "" ∧
    order.paymentStatus = "authorized"

/- Deliveries of events, repeated or not, at once or not. -/
def deliveryRun
    (upper : String → String)
    (w : Store)
    (events : List StripeWebhookEvent) :
    Config Op.Res Answer Store
      (Except Error WebhookReply) :=
  Config.start w (events.map (handleStripeWebhook upper))

/- The two events that confirm a payment. -/
def StripeWebhookEvent.confirms
    (event : StripeWebhookEvent) : Bool :=
  event.type = .checkoutSessionCompleted ||
    event.type = .paymentIntentSucceeded

/- An operation that writes no payment status. -/
def Op.SparesPayment (o : Op) : Prop :=
  o.Spares Order.paymentStatus

theorem sparesPayment_findOrder (orderId : String) :
    (findOrderByMetadataId orderId).Uses Op.SparesPayment := by
  refine uses_andThen ?_ ?_
  · exact uses_perform trivial
  · intro row
    cases row <;> trivial

theorem sparesPayment_confirmOrder
    {orderId : String}
    {order : Order}
    {next : Handler Unit}
    (hNext : next.Uses Op.SparesPayment) :
    (confirmOrder orderId order next).Uses
      Op.SparesPayment := by
  unfold confirmOrder
  split_ifs
  · trivial
  · refine uses_andThen ?_ ?_
    · exact uses_perform (fun _ => rfl)
    · intro updated
      cases updated with
      | false => trivial
      | true => exact hNext

theorem sparesPayment_markCouponRedeemed
    (upper : String → String)
    (orderId couponCode : String) :
    (markCouponRedeemed upper orderId couponCode).Uses
      Op.SparesPayment := by
  unfold markCouponRedeemed
  split_ifs
  · trivial
  · exact ⟨trivial, fun _ => uses_perform trivial⟩

theorem sparesPayment_sendEmails (orderId : String) :
    (sendPaymentAuthorizedEmails orderId).Uses
      Op.SparesPayment :=
  ⟨trivial, fun _ => trivial⟩

theorem sparesPayment_succeeded
    (upper : String → String)
    (object : Option EventObject) :
    (handlePaymentIntentSucceeded upper object).Uses
      Op.SparesPayment := by
  refine uses_andThen trivial ?_
  intro e
  refine uses_andThen (sparesPayment_findOrder _) ?_
  intro order
  apply sparesPayment_confirmOrder
  refine uses_andThen ?_ ?_
  · exact uses_perform trivial
  intro _
  refine uses_andThen
    (sparesPayment_markCouponRedeemed _ _ _) ?_
  intro _
  exact sparesPayment_sendEmails _

theorem sparesPayment_completed
    (upper : String → String)
    (object : Option EventObject) :
    (handleCheckoutSessionCompleted upper object).Uses
      Op.SparesPayment := by
  refine uses_andThen trivial ?_
  intro e
  refine uses_andThen (sparesPayment_findOrder _) ?_
  intro order
  apply sparesPayment_confirmOrder
  refine uses_andThen ?_ ?_
  · exact uses_perform (fun _ => rfl)
  intro _
  refine uses_andThen
    (sparesPayment_markCouponRedeemed _ _ _) ?_
  intro _
  refine Prog.Uses.bind ?_ (fun _ => ?_)
  · split_ifs
    · exact uses_perform trivial
    · trivial
  · exact sparesPayment_sendEmails _

theorem sparesPayment_delivery
    (upper : String → String)
    {event : StripeWebhookEvent}
    (hConfirms : event.confirms = true) :
    (handleStripeWebhook upper event).Uses
      Op.SparesPayment := by
  have hRoute :
      (routeEvent upper event).Uses Op.SparesPayment := by
    simp only [StripeWebhookEvent.confirms, Bool.or_eq_true,
      decide_eq_true_eq] at hConfirms
    unfold routeEvent
    rcases hConfirms with hType | hType
    · rw [hType]
      exact sparesPayment_completed upper event.object
    · rw [hType]
      exact sparesPayment_succeeded upper event.object
  refine uses_andThen ?_ ?_
  · exact uses_require (uses_perform trivial)
  intro isNew
  cases isNew with
  | false => trivial
  | true =>
    refine hRoute.bind ?_
    intro r
    cases r with
    | ok u => trivial
    | error e => exact ⟨trivial, fun _ => trivial⟩

variable {auth : AuthContext}

/- A payment that is not authorised is not captured. -/
theorem capture_refused
    {id : String}
    {w : Store}
    {order : Order}
    (hGet : w.orders.get id = some order)
    (hPayment : order.paymentStatus ≠ "authorized")
    {req : CapturePaymentRequest}
    (hId : docId "orders" req.orderId = id)
    {tr : Trace}
    {w' : Store}
    {r : Except Error CapturePaymentResponse}
    (hEnds :
      Prog.Ends exec AnyStep [] w (capturePayment auth req)
        tr w' r) :
    ∃ e, r = .error e := by
  rcases ends_lift hEnds with hError | ⟨_, _, hEnds⟩
  · exact hError
  rcases ends_lift hEnds with hError | ⟨userId, _, hEnds⟩
  · exact hError
  rcases ends_lift hEnds with hError | ⟨_, _, hEnds⟩
  · exact hError
  rcases Prog.Ends.call_iff.mp hEnds with ⟨a, _, hEnds⟩
  rw [exec_read rfl] at hEnds
  generalize (exec (.rateLimit userId _) a w).1 = limit
    at hEnds
  cases limit with
  | error e =>
    rcases Prog.Ends.ret_iff.mp hEnds with ⟨_, _, rfl⟩
    exact ⟨e, rfl⟩
  | ok u =>
    rcases Prog.Ends.call_iff.mp hEnds with ⟨b, _, hEnds⟩
    rw [exec_read rfl] at hEnds
    cases hRead : (exec (.getOrder req.orderId) b w).1 with
    | error e =>
      rw [hRead] at hEnds
      rcases Prog.Ends.ret_iff.mp hEnds with ⟨_, _, rfl⟩
      exact ⟨_, rfl⟩
    | ok found =>
      have hFound : found = order := by
        have hOrder := order?_of_getOrder hRead
        rw [Store.order?, hId, hGet] at hOrder
        exact (Option.some.inj hOrder).symm
      rw [hRead, hFound] at hEnds
      rcases ends_require hEnds with hError | ⟨_, hEnds⟩
      · exact hError
      rcases ends_require hEnds with hError | ⟨_, hEnds⟩
      · exact hError
      rcases ends_require hEnds with
        hError | ⟨hAuthorized, _⟩
      · exact hError
      exact absurd (of_decide_eq_true hAuthorized) hPayment

section

variable {cond : StepCond CheckoutOp.Res CheckoutAnswer Shop}
variable {shop : Shop} {calls : List CheckoutCall}
variable {c₀ : Config CheckoutOp.Res CheckoutAnswer Shop
  (Except Error CheckoutResponse)}
variable {t₀ : Thread CheckoutOp.Res CheckoutAnswer
  (Except Error CheckoutResponse)}

/-
  After any deliveries of the events that confirm a payment,
  in any order and overlap, an order of the checkout does not
  carry an authorised payment: it cannot be captured, and a
  cancellation releases nothing at Stripe.
-/
theorem payment_never_ready
    (hCheckout :
      Reach execCheckout cond (checkoutRun shop calls) c₀)
    (hThread : t₀ ∈ c₀.threads)
    {id : String}
    {order₀ : Order}
    (hPlaced : (id, order₀) ∈ placements t₀.trace)
    {w : Store}
    (hStored : w.orders.get id = some order₀)
    {upper : String → String}
    {events : List StripeWebhookEvent}
    (hEvents : ∀ event ∈ events, event.confirms = true)
    {c : Config Op.Res Answer Store
      (Except Error WebhookReply)}
    (hReach :
      Reach exec AnyStep (deliveryRun upper w events) c) :
    ∃ order, c.world.orders.get id = some order ∧
        ¬ PaymentReady order ∧
        (∀ req, releasePayment req order = ok "cancelled") ∧
        ∀ auth req tr w' r,
          docId "orders" req.orderId = id →
          Prog.Ends exec AnyStep [] c.world
            (capturePayment auth req) tr w' r →
              ∃ e, r = .error e := by
  have hNew := placed_of_run hCheckout hThread hPlaced
  have hKept :
      (c.world.orders.get id).map Order.paymentStatus =
        some "awaiting_payment" := by
    have hUses :
        ∀ p ∈ events.map (handleStripeWebhook upper),
          p.Uses Op.SparesPayment := by
      intro p hp
      rcases List.mem_map.mp hp with ⟨event, hEvent, rfl⟩
      exact sparesPayment_delivery upper
        (hEvents event hEvent)
    have hStep :
        ∀ tr o a w, o.SparesPayment → AnyStep tr o a w →
          (w.orders.get id).map Order.paymentStatus =
              some "awaiting_payment" →
            ((exec o a w).2.orders.get id).map
                Order.paymentStatus =
              some "awaiting_payment" := by
      intro _ o a w hSpares _ hInv
      rw [map_get_exec hSpares, hInv]
    apply hReach.holds_of_uses (Config.uses_start hUses w)
      hStep
    change (w.orders.get id).map _ = _
    rw [hStored, Option.map_some, hNew.paymentStatus]
  rcases Option.map_eq_some_iff.mp hKept with
    ⟨order, hGet, hStatus⟩
  refine ⟨order, hGet, ?_, ?_, ?_⟩
  · rintro ⟨_, _, hAuthorized⟩
    rw [hStatus] at hAuthorized
    exact absurd hAuthorized (by decide)
  · intro req
    simp [releasePayment, hStatus]
  · intro auth req tr w' r hId hEnds
    exact capture_refused hGet (by rw [hStatus]; decide) hId
      hEnds

end

/- The events of a payment for the order `o1`. -/
def paidEvents : List StripeWebhookEvent :=
  [{ id := "evt_1"
     type := .checkoutSessionCompleted
     object := some
      { id := some "cs_1"
        paymentIntent := some "pi_1"
        metadata := some { orderId := some "o1" } } },
    { id := "evt_2"
      type := .paymentIntentSucceeded
      object := some
        { id := some "pi_1"
          metadata := some { orderId := some "o1" } } }]

/- Every delivery was answered, and the order is confirmed. -/
def allConfirmed
    (d : Config Op.Res Answer Store
      (Except Error WebhookReply)) : Bool :=
  d.threads.all (fun t =>
    match t.prog with
    | .ret (.ok .ok) => true
    | _ => false) &&
  (d.world.orders.get "o1").any (fun order =>
    order.orderStatus =
        some OrderStatus.paymentAuthorized.asStr &&
      order.paymentIntentId = "pi_1" &&
      order.paymentStatus = "awaiting_payment")

/- The order of one buyer, and its payment. -/
theorem checkout_of_one :
    ∃ c₀ t₀ order₀ c, Reach execCheckout AnyCheckoutStep
          (checkoutRun tenDollarShop
            [ontarioCall [⟨"p1", 2⟩] 2000 "k1"]) c₀ ∧
        t₀ ∈ c₀.threads ∧
        ("o1", order₀) ∈ placements t₀.trace ∧
        c₀.world.store.orders.get "o1" = some order₀ ∧
        Reach exec AnyStep
          (deliveryRun id c₀.world.store paidEvents) c ∧
        allConfirmed c = true := by
  have hRun :
      ((checkoutRun tenDollarShop
        [ontarioCall [⟨"p1", 2⟩] 2000 "k1"]).run execCheckout
          (checkoutTurns 0 1 "o1")).any (fun c =>
            c.threads.any (fun t =>
              (placements t.trace).any (fun placed =>
                placed.1 = "o1" &&
                  c.world.store.orders.get "o1" =
                    some placed.2)) &&
            ((deliveryRun id c.world.store paidEvents).run
              exec (turns 0 6 ++ turns 1 2)).any
                allConfirmed) =
        true := by decide
  rcases (Option.any_eq_true _ _).mp hRun with
    ⟨c₀, hRun, hEnd⟩
  rw [Bool.and_eq_true, List.any_eq_true] at hEnd
  rcases hEnd with ⟨⟨t₀, hThread, hPlaced⟩, hPaid⟩
  rcases List.any_eq_true.mp hPlaced with
    ⟨⟨id, order₀⟩, hMem, hOrder⟩
  simp only [Bool.and_eq_true, decide_eq_true_eq] at hOrder
  rcases hOrder with ⟨rfl, hStored⟩
  rcases (Option.any_eq_true _ _).mp hPaid with
    ⟨c, hDeliver, hConfirmed⟩
  exact ⟨c₀, t₀, order₀, c,
    Reach.of_run hRun (by decide), hThread, hMem,
    hStored, Reach.of_run hDeliver (meets_anyStep _ _),
    hConfirmed⟩

theorem payment_never_ready_delivered :
    ∃ c₀ c order, Reach execCheckout AnyCheckoutStep
          (checkoutRun tenDollarShop
            [ontarioCall [⟨"p1", 2⟩] 2000 "k1"]) c₀ ∧
        Reach exec AnyStep
          (deliveryRun id c₀.world.store paidEvents) c ∧
        c.world.orders.get "o1" = some order ∧
        ∀ req, releasePayment req order = ok "cancelled" := by
  rcases checkout_of_one with
    ⟨c₀, t₀, order₀, c, hCheckout, hThread, hPlaced, hStored,
      hReach, _⟩
  rcases payment_never_ready hCheckout hThread hPlaced hStored
      (by decide) hReach with ⟨order, hGet, _, hRelease, _⟩
  exact ⟨c₀, c, order, hCheckout, hReach, hGet, hRelease⟩

/-
  Both events of the payment are answered and the order is
  confirmed with its payment intent, but its payment status is
  still that of the checkout.
-/
theorem confirmed_payment_unready :
    ∃ c₀ c order, Reach execCheckout AnyCheckoutStep
          (checkoutRun tenDollarShop
            [ontarioCall [⟨"p1", 2⟩] 2000 "k1"]) c₀ ∧
        Reach exec AnyStep
          (deliveryRun id c₀.world.store paidEvents) c ∧
        allConfirmed c = true ∧
        c.world.orders.get "o1" = some order ∧
        ¬ PaymentReady order := by
  rcases checkout_of_one with
    ⟨c₀, _, _, c, hCheckout, _, _, _, hReach, hConfirmed⟩
  have hOrder := hConfirmed
  simp only [allConfirmed, Bool.and_eq_true,
    Option.any_eq_true, decide_eq_true_eq] at hOrder
  rcases hOrder with ⟨_, order, hGet, _, hStatus⟩
  refine ⟨c₀, c, order, hCheckout, hReach, hConfirmed, hGet,
    ?_⟩
  rintro ⟨_, _, hAuthorized⟩
  rw [hStatus] at hAuthorized
  exact absurd hAuthorized (by decide)

--------
-- Return Requests
--------

/- No operation writes the user id of an order. -/
theorem spares_userId (o : Op) : o.Spares Order.userId := by
  cases o <;> first | trivial | exact fun _ => rfl

theorem ne_blank_of_resolveSelfUserId
    {provided field userId : String}
    (hUser :
      resolveSelfUserId auth provided field = .ok userId) :
    userId ≠ "" := by
  unfold resolveSelfUserId at hUser
  split_ifs at hUser with hAuth
  cases hUser
  simp only [Bool.or_eq_true, not_or, decide_eq_true_eq]
    at hAuth
  exact hAuth.2

/- The order is stored without a user id. -/
def BlankUser (id : String) (w : Store) : Prop :=
  (w.orders.get id).map Order.userId = some ""

theorem along_createReturnRequest
    {id : String}
    {req : CreateReturnRequest}
    (hOrder : docId "orders" req.orderId = id) :
    (createReturnRequest auth req).Along
      (fun e =>
        ∃ w, BlankUser id w ∧ e.res = (exec e.op e.ans w).1)
      (fun _ _ => True) (fun _ r => ∃ e, r = .error e) [] := by
  apply along_lift (fun e _ => ⟨e, rfl⟩)
  intro _ _
  apply along_lift (fun e _ => ⟨e, rfl⟩)
  intro _ _
  apply along_lift (fun e _ => ⟨e, rfl⟩)
  intro userId hUser
  refine ⟨trivial, ?_⟩
  intro a limit _
  cases limit with
  | error e => exact ⟨e, rfl⟩
  | ok u =>
    apply along_require ⟨_, rfl⟩
    intro _
    refine ⟨trivial, ?_⟩
    rintro b found ⟨w, hBlank, hRead⟩
    cases found with
    | error e => exact ⟨_, rfl⟩
    | ok order =>
      apply along_require ⟨_, rfl⟩
      intro hOwn
      have hGet := order?_of_getOrder hRead.symm
      rw [Store.order?, hOrder] at hGet
      unfold BlankUser at hBlank
      rw [hGet] at hBlank
      have hUserId : order.userId = "" :=
        Option.some.inj hBlank
      have hSame : order.userId = userId :=
        of_decide_eq_true hOwn
      exact absurd (hSame.symm.trans hUserId)
        (ne_blank_of_resolveSelfUserId hUser)

section

variable {cond : StepCond CheckoutOp.Res CheckoutAnswer Shop}
variable {shop : Shop} {calls : List CheckoutCall}
variable {c₀ : Config CheckoutOp.Res CheckoutAnswer Shop
  (Except Error CheckoutResponse)}
variable {t₀ : Thread CheckoutOp.Res CheckoutAnswer
  (Except Error CheckoutResponse)}

/-
  Whatever other programs run on the store of an order of the
  checkout, and whatever they make of its items, a request to
  return an item of it ends in an error.
-/
theorem returns_never_open
    (hCheckout :
      Reach execCheckout cond (checkoutRun shop calls) c₀)
    (hThread₀ : t₀ ∈ c₀.threads)
    {id : String}
    {order₀ : Order}
    (hPlaced : (id, order₀) ∈ placements t₀.trace)
    {w : Store}
    (hStored : w.orders.get id = some order₀)
    {α : Type}
    {programs : List (Handler α)}
    {i : Nat}
    {auth : AuthContext}
    {req : CreateReturnRequest}
    {reply : CreateReturnResponse → α}
    (hRequest :
      programs[i]? =
        some ((createReturnRequest auth req).map
          (Except.map reply)))
    (hOrder : docId "orders" req.orderId = id)
    {c : Config Op.Res Answer Store (Except Error α)}
    (hReach :
      Reach exec AnyStep (Config.start w programs) c)
    {t : Thread Op.Res Answer (Except Error α)}
    (hThread : c.threads[i]? = some t)
    {r : Except Error α}
    (hDone : t.prog = .ret r) :
    ∃ e, r = .error e := by
  have hNew := placed_of_run hCheckout hThread₀ hPlaced
  have hBlank : BlankUser id w := by
    unfold BlankUser
    rw [hStored, Option.map_some, hNew.userId]
  have hStep :
      ∀ tr o a w, AnyStep tr o a w → BlankUser id w →
        BlankUser id (exec o a w).2 := by
    intro _ o a w _ hInv
    exact (map_get_exec (spares_userId o) a w id).trans hInv
  have hAssumed := hReach.assume hStep hBlank
  let target : Handler α :=
    (createReturnRequest auth req).map (Except.map reply)
  have hAlong :
      ∀ p ∈ programs, p.Along (fun e =>
            ∃ w, BlankUser id w ∧
              e.res = (exec e.op e.ans w).1)
          (fun _ _ => True)
          (fun _ r => p = target → ∃ e, r = .error e) [] := by
    intro p _
    by_cases hTarget : p = target
    · subst hTarget
      apply Prog.Along.bind
        (along_createReturnRequest hOrder)
      rintro tr _ ⟨e, rfl⟩ _
      exact ⟨e, rfl⟩
    · exact (Prog.Along.any p []).mono (fun _ _ h => h)
        (fun _ _ _ hSame => absurd hSame hTarget)
  have hStart :
      Config.start w programs =
        (Config.start w (programs.map (fun p => p)) :
          Config Op.Res Answer Store (Except Error α)) := by
    rw [List.map_id']
  rw [hStart] at hAssumed
  rcases hAssumed.along
      (fun _ _ _ w hCond => ⟨w, hCond.2, rfl⟩) hAlong i t
      hThread with ⟨p, hp, hEnd⟩
  rw [hDone] at hEnd
  exact hEnd (Option.some.inj (hp.symm.trans hRequest))

end

/- An administrator delivers, and the buyer asks for a return. -/
def deliverAndReturn : List (Handler Unit) :=
  [(updateItemStatus { userId := "admin" }
      { orderId := "o1", productId := "p1"
        newStatus := "delivered" }).map
      (Except.map (fun _ => ())),
    (createReturnRequest { userId := "u1" }
      { orderId := "o1", productId := "p1", userId := "u1"
        returnReason := "broken" }).map
      (Except.map (fun _ => ()))]

/- The store of a shop, with an administrator. -/
def withAdmin (w : Store) : Store :=
  { w with users := ⟨[("admin", { roles := ["admin"] })]⟩ }

/- The buyer's request has ended on a delivered item. -/
def refusedReturn
    (c : Config Op.Res Answer Store (Except Error Unit)) :
    Bool :=
  (c.world.orders.get "o1").any (fun order =>
    order.buyerId = "u1" && order.items.all (fun item =>
        item.status = DeliveryStatus.delivered.asStr &&
          !item.isDigital)) &&
  c.world.returnRequests.rows.isEmpty &&
  match c.threads with
  | [⟨_, .ret (.ok _)⟩, ⟨_, .ret (.error _)⟩] => true
  | _ => false

/- The order of one buyer, delivered. -/
theorem checkout_delivered :
    ∃ c₀ t₀ order₀ c, Reach execCheckout AnyCheckoutStep
          (checkoutRun tenDollarShop
            [ontarioCall [⟨"p1", 2⟩] 2000 "k1"]) c₀ ∧
        t₀ ∈ c₀.threads ∧
        ("o1", order₀) ∈ placements t₀.trace ∧
        c₀.world.store.orders.get "o1" = some order₀ ∧
        Reach exec AnyStep
          (Config.start (withAdmin c₀.world.store)
            deliverAndReturn) c ∧
        refusedReturn c = true := by
  have hRun :
      ((checkoutRun tenDollarShop
        [ontarioCall [⟨"p1", 2⟩] 2000 "k1"]).run execCheckout
          (checkoutTurns 0 1 "o1")).any (fun c =>
            c.threads.any (fun t =>
              (placements t.trace).any (fun placed =>
                placed.1 = "o1" &&
                  c.world.store.orders.get "o1" =
                    some placed.2)) &&
            ((Config.start (withAdmin c.world.store)
              deliverAndReturn).run exec
                (turns 0 6 ++ turns 1 2)).any
                refusedReturn) =
        true := by decide
  rcases (Option.any_eq_true _ _).mp hRun with
    ⟨c₀, hRun, hEnd⟩
  rw [Bool.and_eq_true, List.any_eq_true] at hEnd
  rcases hEnd with ⟨⟨t₀, hThread, hPlaced⟩, hAsked⟩
  rcases List.any_eq_true.mp hPlaced with
    ⟨⟨id, order₀⟩, hMem, hOrder⟩
  simp only [Bool.and_eq_true, decide_eq_true_eq] at hOrder
  rcases hOrder with ⟨rfl, hStored⟩
  rcases (Option.any_eq_true _ _).mp hAsked with
    ⟨c, hDeliver, hRefused⟩
  exact ⟨c₀, t₀, order₀, c,
    Reach.of_run hRun (by decide), hThread, hMem,
    hStored, Reach.of_run hDeliver (meets_anyStep _ _),
    hRefused⟩

theorem returns_never_open_delivered :
    ∃ c₀ c t r e, Reach execCheckout AnyCheckoutStep
          (checkoutRun tenDollarShop
            [ontarioCall [⟨"p1", 2⟩] 2000 "k1"]) c₀ ∧
        Reach exec AnyStep
          (Config.start (withAdmin c₀.world.store)
            deliverAndReturn) c ∧
        c.threads[1]? = some t ∧
        t.prog = .ret r ∧
        r = .error e := by
  rcases checkout_delivered with
    ⟨c₀, t₀, order₀, c, hCheckout, hThread, hPlaced, hStored,
      hReach, hRefused⟩
  unfold refusedReturn at hRefused
  rw [Bool.and_eq_true] at hRefused
  rcases hRefused with ⟨_, hReplies⟩
  split at hReplies
  · rename_i tr u tr' e hThreads
    have hSecond :
        c.threads[1]? = some ⟨tr', .ret (.error e)⟩ := by
      rw [hThreads]
      rfl
    have hRequest :
        deliverAndReturn[1]? =
          some ((createReturnRequest { userId := "u1" }
            { orderId := "o1", productId := "p1"
              userId := "u1", returnReason := "broken" }).map
              (Except.map (fun _ => ()))) := rfl
    rcases returns_never_open hCheckout hThread hPlaced
        (w := withAdmin c₀.world.store) hStored hRequest rfl
        hReach hSecond rfl with ⟨e', hError⟩
    exact ⟨c₀, c, _, _, e', hCheckout, hReach, hSecond, rfl,
      hError⟩
  · cases hReplies

/-
  A physical item of a checkout was delivered just now and has
  no return yet, and the request of its buyer is refused.
-/
theorem delivered_item_not_returned :
    ∃ c₀ c, Reach execCheckout AnyCheckoutStep
          (checkoutRun tenDollarShop
            [ontarioCall [⟨"p1", 2⟩] 2000 "k1"]) c₀ ∧
        Reach exec AnyStep
          (Config.start (withAdmin c₀.world.store)
            deliverAndReturn) c ∧
        refusedReturn c = true := by
  rcases checkout_delivered with
    ⟨c₀, _, _, c, hCheckout, _, _, _, hReach, hRefused⟩
  exact ⟨c₀, c, hCheckout, hReach, hRefused⟩

end Orignabase
