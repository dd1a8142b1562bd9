import Orignabase.Checkout.Session
import Orignabase.Lib.Fallible
import Orignabase.Lib.Runs
import Orignabase.Store.Rules
import Mathlib.Algebra.Order.BigOperators.Group.List
import Mathlib.Data.List.Dedup

/-
  What every order that a checkout stores looks like, and
  what a request to the checkout can call.

  Key definitions include:
    * `Placed`
    * `MayCheckout`
    * `CheckoutOutcome`

  Main results:
    * `along_createCheckoutSession`
-/

--------
-- Checks
--------

namespace Orignabase

theorem of_check
    {test : Bool}
    {e : Error}
    {u : Unit}
    (hCheck : check test e = .ok u) :
    test = true := by
  cases test with
  | false => cases hCheck
  | true => rfl

theorem forall_of_forall₂
    {α β : Type}
    {P : β → Prop}
    {xs : List α}
    {ys : List β}
    (hAll : List.Forall₂ (fun _ y => P y) xs ys) :
    ∀ y ∈ ys, P y := by
  induction hAll with
  | nil => simp
  | cons hHead _ ih =>
    intro y hMem
    rcases List.mem_cons.mp hMem with rfl | hRest
    · exact hHead
    · exact ih y hRest

--------
-- Orders
--------

/- A line as the checkout writes it. -/
structure Item.IsNew (item : Item) : Prop where
  named : (validateDocumentId item.productId).isOk = true
  price : 0 < item.priceCents
  qty : 0 < item.qty
  shipping : item.itemShippingCents = none
  status : item.status = ""
  type : item.productType = ""

/- An order as the checkout writes it. -/
structure Placed (order : Order) : Prop where
  nonempty : order.items ≠ []
  line : ∀ item ∈ order.items, item.IsNew
  subtotal :
    order.subtotalCents =
      (order.items.map Item.lineCents).sum -
        order.discountAmountCents
  subtotal_pos : 0 < order.subtotalCents
  shipping : 0 ≤ order.shippingCostCents
  tax : 0 ≤ order.taxAmountCents
  total :
    order.totalAmountCents =
      order.subtotalCents + order.shippingCostCents +
        order.taxAmountCents
  platformFee :
    order.platformFeeTotalCents =
      platformFeeCents order.subtotalCents
  orderStatus :
    order.orderStatus = some OrderStatus.pendingPayment.asStr
  paymentStatus : order.paymentStatus = "awaiting_payment"
  paymentIntentId : order.paymentIntentId = ""
  userId : order.userId = ""
  cumulative : order.cumulativeRefundedCents = none
  stockRestored : order.stockRestored = false

theorem lineCents_pos
    {item : Item}
    (hNew : item.IsNew) :
    0 < item.lineCents :=
  Int.mul_pos hNew.price hNew.qty

theorem sum_lineCents_pos
    {items : List Item}
    (hNonempty : items ≠ [])
    (hNew : ∀ item ∈ items, item.IsNew) :
    0 < (items.map Item.lineCents).sum := by
  have hAll :
      ∀ items : List Item, (∀ item ∈ items, item.IsNew) →
        0 ≤ (items.map Item.lineCents).sum := by
    intro items hNew
    apply List.sum_nonneg
    intro cents hMem
    rcases List.mem_map.mp hMem with ⟨item, hItem, rfl⟩
    exact (lineCents_pos (hNew item hItem)).le
  cases items with
  | nil => exact absurd rfl hNonempty
  | cons item rest =>
    have hHead :=
      lineCents_pos (hNew item List.mem_cons_self)
    have hRest := hAll rest (fun it hIt =>
      hNew it (List.mem_cons_of_mem _ hIt))
    rw [List.map_cons, List.sum_cons]
    omega

--------
-- Validated Carts
--------

/- The line of an order that stands for a cart line. -/
def IsLineOf (cart : CartItem) (item : Item) : Prop :=
  item.productId = cart.productId ∧ item.qty = cart.quantity

variable {req : CreateCheckoutRequest}

variable {t : TextCase}

theorem cart_of_checkRequest
    {province : String}
    (hCheck : checkRequest t req = .ok province) :
    req.items ≠ [] ∧ ∀ cart ∈ req.items,
        (validateDocumentId cart.productId).isOk = true ∧
          cart.quantity ≠ 0 := by
  rcases Fallible.of_bind_ok hCheck with ⟨_, hSome, hCheck⟩
  rcases Fallible.of_bind_ok hCheck with ⟨_, _, hCheck⟩
  rcases Fallible.of_bind_ok hCheck with ⟨_, hAll, _⟩
  refine ⟨?_, ?_⟩
  · intro hEmpty
    simpa [hEmpty] using of_check hSome
  · intro cart hMem
    have hCart := Fallible.of_forM hAll cart hMem
    rcases Fallible.of_bind_ok hCart with ⟨_, _, hCart⟩
    rcases Fallible.of_bind_ok hCart with ⟨id, hId, hCart⟩
    have hQuantity := of_check hCart
    simp only [Bool.and_eq_true, decide_eq_true_eq]
      at hQuantity
    rw [hId]
    exact ⟨rfl, hQuantity.1⟩

/- A cart line that passes its checks. -/
theorem line_of_validateItem
    {userId : String}
    {rows : List (String × Product)}
    {cart : CartItem}
    {item : ValidatedItem}
    (hItem : validateItem req userId rows cart = .ok item)
    (hNamed : (validateDocumentId cart.productId).isOk = true)
    (hQuantity : cart.quantity ≠ 0) :
    item.toItem.IsNew ∧ IsLineOf cart item.toItem := by
  rcases Fallible.of_bind_ok hItem with ⟨product, _, hItem⟩
  rcases Fallible.of_bind_ok hItem with ⟨_, _, hItem⟩
  rcases Fallible.of_bind_ok hItem with ⟨_, _, hItem⟩
  rcases Fallible.of_bind_ok hItem with ⟨_, hPrice, hItem⟩
  rcases Fallible.of_bind_ok hItem with ⟨_, _, hItem⟩
  rcases Fallible.of_bind_ok hItem with ⟨_, _, hItem⟩
  rcases Fallible.of_bind_ok hItem with ⟨_, _, hItem⟩
  cases hItem
  refine ⟨⟨hNamed, ?_, ?_, rfl, rfl, rfl⟩, rfl, rfl⟩
  · simpa using of_check hPrice
  · simp only [Item.qty, Option.getD_some]
    omega

/- The lines of a cart that passes all checks. -/
structure IsCart
    (req : CreateCheckoutRequest)
    (items : List ValidatedItem) : Prop where
  nonempty : items ≠ []
  line : ∀ item ∈ items, item.toItem.IsNew
  cart :
    List.Forall₂ (fun c (item : ValidatedItem) =>
      IsLineOf c item.toItem) req.items items

theorem isCart_of_mapM
    {province userId : String}
    {rows : List (String × Product)}
    {items : List ValidatedItem}
    (hCheck : checkRequest t req = .ok province)
    (hItems :
      req.items.mapM (validateItem req userId rows) =
        .ok items) :
    IsCart req items := by
  rcases cart_of_checkRequest hCheck with ⟨hSome, hCart⟩
  have hAll := Fallible.forall₂_of_mapM hItems
  have hLines :
      List.Forall₂ (fun c (item : ValidatedItem) =>
        item.toItem.IsNew ∧ IsLineOf c item.toItem)
        req.items items := by
    generalize req.items = carts at hAll hCart
    clear hItems
    induction hAll with
    | nil => exact List.Forall₂.nil
    | cons hHead _ ih =>
      refine List.Forall₂.cons ?_ (ih ?_)
      · rcases hCart _ List.mem_cons_self with
          ⟨hNamed, hQuantity⟩
        exact line_of_validateItem hHead hNamed hQuantity
      · intro cart hMem
        exact hCart cart (List.mem_cons_of_mem _ hMem)
  refine ⟨?_, ?_, hLines.imp (fun _ _ h => h.2)⟩
  · rintro rfl
    exact hSome (List.forall₂_nil_right_iff.mp hLines)
  · exact forall_of_forall₂ (hLines.imp (fun _ _ h => h.1))

--------
-- What A Request Can Call
--------

open Conc Handler

/- A request to the checkout. -/
structure CheckoutCall where
  config : CheckoutConfig
  auth : AuthContext
  req : CreateCheckoutRequest

def CheckoutCall.handler (call : CheckoutCall) :
    CheckoutHandler CheckoutResponse :=
  createCheckoutSession call.config call.auth call.req

/- The past of a request, latest event first. -/
abbrev CheckoutTrace :=
  List (Event CheckoutOp.Res CheckoutAnswer)

def CheckoutHappens
    (e : Event CheckoutOp.Res CheckoutAnswer) : Prop :=
  ∃ w, e.res = (execCheckout e.op e.ans w).1

def CheckoutOp.isCommit : CheckoutOp → Bool
  | .commit _ => true
  | _ => false

/- Operations that do not touch the store. -/
def CheckoutOp.Quiet (o : CheckoutOp) : Prop :=
  o.isCommit = false

/- The order that an event stored. -/
def placedBy :
    Event CheckoutOp.Res CheckoutAnswer →
      Option (String × Order)
  | ⟨.commit (.insertOrder id doc :: _), _, r⟩ =>
    if Except.isOk r then some (id, doc) else none
  | _ => none

/- The orders that a request stored. -/
def placements (tr : CheckoutTrace) :
    List (String × Order) :=
  tr.filterMap placedBy

theorem placements_cons_quiet
    {e : Event CheckoutOp.Res CheckoutAnswer}
    (hQuiet : e.op.Quiet)
    (tr : CheckoutTrace) :
    placements (e :: tr) = placements tr := by
  rcases e with ⟨o, a, r⟩
  cases o with
  | commit queries => cases hQuiet
  | _ => rfl

theorem placements_extends
    {tr tr' : CheckoutTrace}
    (hExtends : Prog.Extends CheckoutOp.Quiet tr tr') :
    placements tr' = placements tr := by
  induction hExtends with
  | refl => rfl
  | cons _ hOp ih =>
    rw [placements_cons_quiet hOp, ih]

theorem placements_cons_placed
    (id userId : String)
    (doc : Order)
    (queries : List Statement)
    (a : CheckoutAnswer)
    (results : List Value)
    (tr : CheckoutTrace) :
    placements
        (⟨.commit (insertions id userId doc ++ queries), a,
          .ok results⟩ :: tr) =
      (id, doc) :: placements tr := rfl

/- The transaction that stores the order of a request. -/
structure IsPlacement
    (call : CheckoutCall)
    (tr : CheckoutTrace)
    (queries : List Statement)
    (doc : Order) : Prop where
  placed : Placed doc
  shape :
    queries =
      insertions doc.orderId call.auth.userId doc ++
        (reservations doc.items
          (insertions doc.orderId call.auth.userId
            doc).length).1
  buyer : doc.buyerId = call.auth.userId
  cart : List.Forall₂ IsLineOf call.req.items doc.items
  seller :
    ∃ seller, ∀ item ∈ doc.items, item.seller = seller
  key :
    ∀ key, call.req.idempotencyKey = some key →
      doc.idempotencyKey = key
  session :
    ∃ params a session,
      ⟨.createSession doc.idempotencyKey params, a,
        .ok session⟩ ∈ tr ∧ params.orderId = doc.orderId

theorem IsPlacement.cons
    {call : CheckoutCall}
    {tr : CheckoutTrace}
    {queries : List Statement}
    {doc : Order}
    (hDoc : IsPlacement call tr queries doc)
    (e : Event CheckoutOp.Res CheckoutAnswer) :
    IsPlacement call (e :: tr) queries doc := by
  rcases hDoc.session with ⟨params, a, session, hMem, hId⟩
  exact
    { hDoc with
      session :=
        ⟨params, a, session, List.mem_cons_of_mem _ hMem,
          hId⟩ }

/- A request stores at most one order, in one transaction. -/
def MayCheckout
    (call : CheckoutCall)
    (tr : CheckoutTrace)
    (o : CheckoutOp) : Prop :=
  o.Quiet ∨ ∃ queries doc,
      o = .commit queries ∧ placements tr = [] ∧
        IsPlacement call tr queries doc

/- What a reply says about the stored orders. -/
inductive CheckoutOutcome
    (call : CheckoutCall)
    (tr : CheckoutTrace) :
    Except Error CheckoutResponse → Prop
  | refused
      {e : Error}
      (hNone : placements tr = []) :
      CheckoutOutcome call tr (.error e)
  | duplicate
      {a : CheckoutAnswer}
      {key : String}
      {order : Order}
      (hNone : placements tr = [])
      (hEvent :
        ⟨.findDuplicate call.auth.userId key, a,
          .ok (some order)⟩ ∈ tr)
      (hKey :
        ∀ given, call.req.idempotencyKey = some given →
          key = given) :
      CheckoutOutcome call tr (.ok (duplicateResponse order))
  | placed
      {response : CheckoutResponse}
      {queries : List Statement}
      {doc : Order}
      (hSuccess : response.success = true)
      (hNew : response.duplicate = false)
      (hOrder : placements tr = [(response.orderId, doc)])
      (hDoc : IsPlacement call tr queries doc) :
      CheckoutOutcome call tr (.ok response)

section

variable {α β : Type} {call : CheckoutCall}
variable {tr : CheckoutTrace}
variable {post :
  CheckoutTrace → Except Error α → Prop}

/- A part of the handler that does not touch the store. -/
theorem checkout_bind
    {p : Prog CheckoutOp.Res β}
    {f : β → CheckoutHandler α}
    (hUses : p.Uses CheckoutOp.Quiet)
    (hNext :
      ∀ tr' b, Prog.Extends CheckoutOp.Quiet tr tr' →
        (f b).Along CheckoutHappens (MayCheckout call) post
          tr') :
    (p.bind f).Along CheckoutHappens (MayCheckout call) post
      tr := by
  apply Prog.Along.bind (hUses.along ?_)
  · intro tr' b hExtends
    exact hNext tr' b hExtends
  · intro tr' o _ hQuiet
    exact Or.inl hQuiet

theorem checkout_andThen
    {p : CheckoutHandler β}
    {f : β → CheckoutHandler α}
    (hUses : p.Uses CheckoutOp.Quiet)
    (hFail :
      ∀ tr' e, Prog.Extends CheckoutOp.Quiet tr tr' →
        post tr' (.error e))
    (hNext :
      ∀ tr' b, Prog.Extends CheckoutOp.Quiet tr tr' →
        (f b).Along CheckoutHappens (MayCheckout call) post
          tr') :
    (andThen p f).Along CheckoutHappens (MayCheckout call)
      post tr := by
  apply checkout_bind hUses
  intro tr' r hExtends
  cases r with
  | error e => exact hFail tr' e hExtends
  | ok b => exact hNext tr' b hExtends

end

--------
-- Following A Request
--------

section

variable {call : CheckoutCall} {tr : CheckoutTrace}

theorem uses_loadProducts (items : List CartItem) :
    (loadProducts items).Uses CheckoutOp.Quiet := by
  induction items with
  | nil => trivial
  | cons item rest ih =>
    refine ⟨rfl, ?_⟩
    intro r
    apply ih.bind
    intro rows
    cases r <;> trivial

theorem uses_checkSellers (sellers : List String) :
    (checkSellers sellers).Uses CheckoutOp.Quiet := by
  induction sellers with
  | nil => trivial
  | cons seller rest ih =>
    refine ⟨rfl, ?_⟩
    intro r
    cases r with
    | error e => exact ih
    | ok user => exact uses_require ih

theorem uses_loadCoupon (code : String) :
    (loadCoupon code).Uses CheckoutOp.Quiet := by
  refine ⟨rfl, ?_⟩
  intro r
  cases r with
  | ok coupon => trivial
  | error e =>
    apply uses_andThen
    · apply uses_mapErr
      exact uses_perform rfl
    · intro found
      cases found <;> trivial

theorem uses_couponIsPast (coupon : Coupon) :
    (couponIsPast coupon).Uses CheckoutOp.Quiet := by
  unfold couponIsPast
  cases coupon.expiresAt with
  | none => trivial
  | some expiresAt => exact uses_perform rfl

theorem uses_checkTurnstile
    (config : CheckoutConfig)
    (req : CreateCheckoutRequest) :
    (checkTurnstile config req).Uses CheckoutOp.Quiet := by
  unfold checkTurnstile
  cases req.turnstileToken with
  | none => exact uses_require trivial
  | some token =>
    cases config.turnstileSecretKey with
    | false => exact uses_require trivial
    | true => exact uses_perform rfl

/- An accepted coupon leaves something to pay. -/
def LeavesRest
    (raw : Int)
    (tr : CheckoutTrace)
    (r : Except Error (String × Int)) : Prop :=
  placements tr = [] ∧ ∀ found, r = .ok found → found.2 < raw

theorem LeavesRest.fail
    {raw : Int}
    (hNone : placements tr = [])
    (e : Error) :
    LeavesRest raw tr (.error e) :=
  ⟨hNone, fun _ h => nomatch h⟩

theorem along_validateCheckoutCoupon
    (t : TextCase)
    (couponCode userId : String)
    {raw : Int}
    (sellers : List String)
    (hRaw : 0 < raw)
    (hNone : placements tr = []) :
    (validateCheckoutCoupon t couponCode userId raw
      sellers).Along CheckoutHappens (MayCheckout call)
      (LeavesRest raw) tr := by
  apply along_require (LeavesRest.fail hNone _)
  intro _
  apply checkout_andThen (uses_loadCoupon _)
  · intro tr' e hExtends
    exact LeavesRest.fail
      ((placements_extends hExtends).trans hNone) e
  intro tr₁ coupon hExtends
  replace hNone := (placements_extends hExtends).trans hNone
  apply along_require (LeavesRest.fail hNone _)
  intro _
  apply checkout_bind (uses_couponIsPast coupon)
  intro tr₂ past hExtends
  replace hNone := (placements_extends hExtends).trans hNone
  apply along_require (LeavesRest.fail hNone _)
  intro _
  apply along_require (LeavesRest.fail hNone _)
  intro _
  apply along_require (LeavesRest.fail hNone _)
  intro _
  apply checkout_bind
  · exact uses_perform rfl
  intro tr₃ uses hExtends
  replace hNone := (placements_extends hExtends).trans hNone
  apply along_require (LeavesRest.fail hNone _)
  intro _
  apply checkout_bind
  · exact uses_perform rfl
  intro tr₄ userUses hExtends
  replace hNone := (placements_extends hExtends).trans hNone
  apply along_require (LeavesRest.fail hNone _)
  intro _
  refine ⟨hNone, ?_⟩
  intro found hFound
  cases hFound
  exact discount_lt _ _ hRaw

variable {items : List ValidatedItem} {province : String}
variable {discount : Int}

/- The coupon of the request, or none. -/
theorem along_resolveCoupon
    (t : TextCase)
    (req : CreateCheckoutRequest)
    (userId : String)
    (hRaw : 0 < rawSubtotal items)
    (hNone : placements tr = []) :
    (resolveCoupon t req userId items).Along CheckoutHappens
      (MayCheckout call)
      (fun tr' r =>
        placements tr' = [] ∧ ∀ found, r = .ok found →
            found.2 < rawSubtotal items) tr := by
  unfold resolveCoupon
  split
  · apply Prog.Along.bind
      (along_validateCheckoutCoupon t _ userId _ hRaw hNone)
    intro tr' r hRest
    cases r with
    | error e => exact ⟨hRest.1, fun _ h => nomatch h⟩
    | ok found =>
      refine ⟨hRest.1, ?_⟩
      intro pair hPair
      cases hPair
      exact hRest.2 found rfl
  · refine ⟨hNone, ?_⟩
    intro pair hPair
    cases hPair
    exact hRaw

/- The reservations of a transaction and their places. -/
theorem places_lt
    {items : List Item}
    {index place : Nat}
    {productId : String}
    (hMem :
      (place, productId) ∈ (reservations items index).2) :
    place < index + (reservations items index).1.length := by
  induction items generalizing index with
  | nil => exact absurd hMem List.not_mem_nil
  | cons item rest ih =>
    unfold reservations at hMem ⊢
    split_ifs at hMem ⊢
    · simp only [List.mem_cons, List.length_cons] at hMem ⊢
      rcases hMem with hHead | hRest
      · cases hHead
        omega
      · have := ih hRest
        omega
    · exact ih hMem

/-
  The results of a transaction are objects, which the handler
  never takes for an empty result.
-/
theorem verifyReservations_eq
    (counts : List Nat)
    (response : CheckoutResponse)
    {places : List (Nat × String)}
    (hPlaces : ∀ p ∈ places, p.1 < counts.length) :
    verifyReservations
        (counts.map Transaction.rowsAffected) response
        places =
      ok response := by
  induction places with
  | nil => rfl
  | cons p rest ih =>
    rcases p with ⟨index, productId⟩
    have hIndex := hPlaces _ List.mem_cons_self
    have hGet :
        (counts.map Transaction.rowsAffected)[index]? =
          some (Transaction.rowsAffected
            (counts.get ⟨index, hIndex⟩)) := by
      simp [List.getElem?_eq_getElem hIndex]
    unfold verifyReservations
    rw [hGet]
    exact ih (fun q hq =>
      hPlaces q (List.mem_cons_of_mem _ hq))

theorem runAll_length
    {queries : List Statement}
    {w w' : Store}
    {counts : List Nat}
    (hRun :
      Transaction.runAll queries w = some (counts, w')) :
    counts.length = queries.length := by
  induction queries generalizing w counts with
  | nil =>
    cases hRun
    rfl
  | cons q rest ih =>
    unfold Transaction.runAll at hRun
    split at hRun
    · cases hRun
    · rcases Option.map_eq_some_iff.mp hRun with
        ⟨out, hOut, hEq⟩
      cases hEq
      simp [ih hOut]

/- What a transaction reports when it succeeds. -/
theorem results_of_happens
    {queries : List Statement}
    {a : CheckoutAnswer}
    {results : List Value}
    (hHappens :
      CheckoutHappens ⟨.commit queries, a, .ok results⟩) :
    ∃ counts : List Nat,
      results = counts.map Transaction.rowsAffected ∧
        counts.length = queries.length := by
  rcases hHappens with ⟨w, hRes⟩
  simp only [execCheckout, CheckoutAnswer.guard,
    Transaction.commit] at hRes
  split_ifs at hRes
  cases hRun : Transaction.runAll queries w.store with
  | none =>
    rw [hRun] at hRes
    cases hRes
  | some out =>
    rw [hRun] at hRes
    exact ⟨out.1, Except.ok.inj hRes, runAll_length hRun⟩

theorem along_placeOrder
    {orderId : String}
    {doc : Order}
    {response : CheckoutResponse}
    (hNone : placements tr = [])
    (hDoc :
      IsPlacement call tr
        (insertions doc.orderId call.auth.userId doc ++
          (reservations doc.items
            (insertions doc.orderId call.auth.userId
              doc).length).1) doc)
    (hId : doc.orderId = orderId)
    (hSuccess : response.success = true)
    (hNew : response.duplicate = false)
    (hResponse : response.orderId = orderId) :
    (placeOrder orderId call.auth.userId doc response).Along
      CheckoutHappens (MayCheckout call)
      (CheckoutOutcome call) tr := by
  subst hId
  refine ⟨Or.inr ⟨_, doc, rfl, hNone, hDoc⟩, ?_⟩
  intro a r hHappens
  cases r with
  | error e => exact CheckoutOutcome.refused hNone
  | ok results =>
    rcases results_of_happens hHappens with
      ⟨counts, rfl, hLength⟩
    have hPlaces :
        ∀ p ∈ (reservations doc.items
          (insertions doc.orderId call.auth.userId
            doc).length).2,
          p.1 < counts.length := by
      intro p hMem
      rw [hLength, List.length_append]
      exact places_lt hMem
    change (verifyReservations _ response _).Along _ _ _ _
    rw [verifyReservations_eq counts response hPlaces]
    refine .placed hSuccess hNew ?_ (hDoc.cons _)
    rw [placements_cons_placed, hNone, hResponse]

theorem placed_orderDoc
    {req : CreateCheckoutRequest}
    {amounts : Amounts}
    (hCart : IsCart req items)
    (hDiscount : discount < rawSubtotal items)
    (hQuote : quote t province items discount = .ok amounts)
    (orderId userId key sessionId : String)
    (couponCode : Option String) :
    Placed
      (orderDoc orderId userId key sessionId items couponCode
        amounts) := by
  rcases Fallible.of_bind_ok hQuote with
    ⟨shipping, hShipping, hAmounts⟩
  cases hAmounts
  have hShip := shipping_nonneg hShipping
  have hPositive : 0 < rawSubtotal items - discount := by
    omega
  have hLines :
      (items.map (fun item => item.toItem.lineCents)).sum =
        ((items.map ValidatedItem.toItem).map
          Item.lineCents).sum := by
    rw [List.map_map]
    rfl
  refine
    { nonempty := ?_
      line := ?_
      subtotal := ?_
      subtotal_pos := hPositive
      shipping := hShip
      tax := tax_nonneg (by omega) _
      total := rfl
      platformFee := rfl
      orderStatus := rfl
      paymentStatus := rfl
      paymentIntentId := rfl
      userId := rfl
      cumulative := rfl
      stockRestored := rfl }
  · simpa [orderDoc] using hCart.nonempty
  · intro item hMem
    rcases List.mem_map.mp hMem with ⟨v, hv, rfl⟩
    exact hCart.line v hv
  · change rawSubtotal items - discount = _
    rw [rawSubtotal, hLines]
    rfl

/- The lines of a cart without a second seller. -/
theorem seller_of_unique
    (hOne : (uniqueSellerIds items).length ≤ 1) :
    ∃ seller, ∀ item ∈ items.map ValidatedItem.toItem,
        item.seller = seller := by
  have hMem :
      ∀ item ∈ items.map ValidatedItem.toItem,
        item.seller ∈ uniqueSellerIds items := by
    intro item hItem
    rcases List.mem_map.mp hItem with ⟨v, hV, rfl⟩
    exact List.mem_dedup.mpr
      (List.mem_map_of_mem (f := fun item : ValidatedItem =>
        item.toItem.seller) hV)
  cases hSellers : uniqueSellerIds items with
  | nil =>
    refine ⟨"", ?_⟩
    intro item hItem
    have hIn := hMem item hItem
    rw [hSellers] at hIn
    exact absurd hIn List.not_mem_nil
  | cons seller rest =>
    refine ⟨seller, ?_⟩
    intro item hItem
    have hIn := hMem item hItem
    rw [hSellers] at hIn hOne
    have hRest : rest = [] :=
      List.eq_nil_of_length_eq_zero (by
        rw [List.length_cons] at hOne
        omega)
    rw [hRest] at hIn
    exact List.mem_singleton.mp hIn

theorem along_openSession
    {amounts : Amounts}
    {key : String}
    (couponCode : Option String)
    (hNone : placements tr = [])
    (hCart : IsCart call.req items)
    (hOne : (uniqueSellerIds items).length ≤ 1)
    (hDiscount : discount < rawSubtotal items)
    (hQuote :
      quote call.config.text province items discount =
        .ok amounts)
    (hKey :
      ∀ given, call.req.idempotencyKey = some given →
        key = given) :
    (openSession call.config call.auth.userId key items
      couponCode amounts).Along CheckoutHappens
      (MayCheckout call) (CheckoutOutcome call) tr := by
  apply along_require (.refused hNone)
  intro _
  refine ⟨Or.inl rfl, ?_⟩
  intro a orderId _
  refine ⟨Or.inl rfl, ?_⟩
  intro a' r _
  cases r with
  | error e => exact CheckoutOutcome.refused hNone
  | ok session =>
    rcases session with ⟨sessionId, url⟩
    cases sessionId with
    | none => exact CheckoutOutcome.refused hNone
    | some sessionId =>
      refine along_placeOrder hNone ?_ rfl rfl rfl rfl
      refine
        { placed := placed_orderDoc hCart hDiscount
            hQuote _ _ _ _ _
          shape := rfl
          buyer := rfl
          cart := ?_
          seller := ?_
          key := hKey
          session := ⟨_, a', _, List.mem_cons_self, rfl⟩ }
      · exact List.forall₂_map_right_iff.mpr hCart.cart
      · exact seller_of_unique hOne

/- The key is that of the client, if it sent one. -/
theorem along_resolveKey
    (hNone : placements tr = []) :
    (resolveKey call.req call.auth.userId).Along
      CheckoutHappens (MayCheckout call)
      (fun tr' key =>
        placements tr' = [] ∧
          ∀ given, call.req.idempotencyKey = some given →
            key = given) tr := by
  unfold resolveKey
  cases hGiven : call.req.idempotencyKey with
  | none =>
    refine ⟨Or.inl rfl, ?_⟩
    intro a millis _
    exact ⟨hNone, fun _ h => nomatch h⟩
  | some key =>
    refine ⟨hNone, ?_⟩
    intro given hEq
    exact Option.some.inj hEq

/- No duplicate was found. -/
theorem along_quoted
    {key : String}
    (couponCode : Option String)
    (hNone : placements tr = [])
    (hCart : IsCart call.req items)
    (hOne : (uniqueSellerIds items).length ≤ 1)
    (hDiscount : discount < rawSubtotal items)
    (hKey :
      ∀ given, call.req.idempotencyKey = some given →
        key = given) :
    (andThen
      (lift (quote call.config.text province items discount))
      fun amounts =>
        openSession call.config call.auth.userId key items
          couponCode amounts).Along CheckoutHappens
      (MayCheckout call) (CheckoutOutcome call) tr := by
  apply along_lift (fun _ _ => .refused hNone)
  intro amounts hQuote
  exact along_openSession couponCode hNone hCart hOne
    hDiscount hQuote hKey

theorem along_checkoutCart
    (hNone : placements tr = [])
    (hCart : IsCart call.req items) :
    (checkoutCart call.config call.req call.auth.userId
      province items).Along CheckoutHappens
      (MayCheckout call) (CheckoutOutcome call) tr := by
  have hRaw : 0 < rawSubtotal items := by
    have hNonempty :
        items.map ValidatedItem.toItem ≠ [] := by
      simpa using hCart.nonempty
    have hSum := sum_lineCents_pos hNonempty
      (by simpa using hCart.line)
    rwa [List.map_map] at hSum
  apply along_require (.refused hNone)
  intro hOne
  replace hOne := of_decide_eq_true hOne
  apply checkout_andThen (uses_checkSellers _)
  · intro tr' e hExtends
    exact .refused
      ((placements_extends hExtends).trans hNone)
  intro tr₁ _ hExtends
  replace hNone := (placements_extends hExtends).trans hNone
  apply Prog.Along.bind
    (along_resolveCoupon _ _ _ hRaw hNone)
  intro tr₂ r hCoupon
  cases r with
  | error e => exact CheckoutOutcome.refused hCoupon.1
  | ok coupon =>
    have hDiscount := hCoupon.2 coupon rfl
    apply along_require (.refused hCoupon.1)
    intro _
    apply Prog.Along.bind (along_resolveKey hCoupon.1)
    intro tr₃ key hKey
    refine ⟨Or.inl rfl, ?_⟩
    intro a r _
    cases r with
    | error e =>
      exact along_quoted coupon.1 hKey.1 hCart hOne
        hDiscount hKey.2
    | ok found =>
      cases found with
      | some order =>
        exact .duplicate hKey.1 List.mem_cons_self hKey.2
      | none =>
        exact along_quoted coupon.1 hKey.1 hCart hOne
          hDiscount hKey.2

theorem along_createCheckoutSession :
    call.handler.Along CheckoutHappens (MayCheckout call)
      (CheckoutOutcome call) [] := by
  have hFail :
      ∀ (tr' : CheckoutTrace) (e : Error),
        Prog.Extends CheckoutOp.Quiet [] tr' →
        CheckoutOutcome call tr' (.error e) := by
    intro tr' e hExtends
    exact .refused (placements_extends hExtends)
  apply checkout_andThen (uses_checkTurnstile _ _)
  · exact hFail
  intro tr₁ _ hExtends
  have hNone := placements_extends hExtends
  apply along_lift (fun _ _ => .refused hNone)
  intro userId hUser
  have hSelf : userId = call.auth.userId :=
    eq_of_resolveSelfUserId hUser
  subst hSelf
  apply along_lift (fun _ _ => .refused hNone)
  intro _ _
  apply checkout_andThen
  · exact uses_perform rfl
  · intro tr' e hExtends
    exact .refused
      ((placements_extends hExtends).trans hNone)
  intro tr₂ _ hExtends
  replace hNone := (placements_extends hExtends).trans hNone
  apply along_lift (fun _ _ => .refused hNone)
  intro province hCheck
  apply checkout_bind (uses_loadProducts _)
  intro tr₃ rows hExtends
  replace hNone := (placements_extends hExtends).trans hNone
  apply along_require (.refused hNone)
  intro _
  apply along_lift (fun _ _ => .refused hNone)
  intro items hItems
  exact along_checkoutCart hNone
    (isCart_of_mapM hCheck hItems)

end

--------
-- Runs Of Requests
--------

/- Requests that are about to start. -/
def checkoutRun (w : Shop) (calls : List CheckoutCall) :
    Config CheckoutOp.Res CheckoutAnswer Shop
      (Except Error CheckoutResponse) :=
  Config.start w (calls.map CheckoutCall.handler)

/- Steps of any kind, failed statements included. -/
def AnyCheckoutStep :
    StepCond CheckoutOp.Res CheckoutAnswer Shop :=
  fun _ _ _ _ => True

instance
    (tr : CheckoutTrace)
    (o : CheckoutOp)
    (a : CheckoutAnswer)
    (w : Shop) :
    Decidable (AnyCheckoutStep tr o a w) :=
  .isTrue trivial

section

variable {cond : StepCond CheckoutOp.Res CheckoutAnswer Shop}
variable {w : Shop} {calls : List CheckoutCall}
variable {c : Config CheckoutOp.Res CheckoutAnswer Shop
  (Except Error CheckoutResponse)}

/- Every thread is a request that keeps to its calls. -/
theorem checkout_thread
    (hReach : Reach execCheckout cond (checkoutRun w calls) c)
    {i : Nat}
    {t : Thread CheckoutOp.Res CheckoutAnswer
      (Except Error CheckoutResponse)}
    (hThread : c.threads[i]? = some t) :
    ∃ call, calls[i]? = some call ∧
        t.prog.Along CheckoutHappens (MayCheckout call)
          (CheckoutOutcome call) t.trace ∧
        Could (MayCheckout call) t.trace := by
  have hValid :
      ∀ tr o a w, cond tr o a w →
        CheckoutHappens ⟨o, a, (execCheckout o a w).1⟩ :=
    fun _ _ _ w _ => ⟨w, rfl⟩
  have hAlong :
      ∀ call ∈ calls,
        call.handler.Along CheckoutHappens (MayCheckout call)
          (CheckoutOutcome call) [] :=
    fun _ _ => along_createCheckoutSession
  rcases hReach.along hValid hAlong i t hThread with
    ⟨call, hCall, hNow⟩
  exact ⟨call, hCall, hNow,
    hReach.could hValid hAlong i t hThread call hCall⟩

/- The orders that a request stored were its own. -/
theorem placement_of_could
    {call : CheckoutCall}
    {tr : CheckoutTrace}
    {id : String}
    {doc : Order}
    (hCould : Could (MayCheckout call) tr)
    (hMem : (id, doc) ∈ placements tr) :
    id = doc.orderId ∧
      ∃ queries, IsPlacement call tr queries doc := by
  induction tr with
  | nil => exact absurd hMem List.not_mem_nil
  | cons e tr ih =>
    rcases e with ⟨o, a, r⟩
    have hPast :
        (id, doc) ∈ placements tr → id = doc.orderId ∧
            ∃ queries,
              IsPlacement call (⟨o, a, r⟩ :: tr) queries
                doc := by
      intro hOld
      rcases ih hCould.2 hOld with ⟨hId, queries, hDoc⟩
      exact ⟨hId, queries, hDoc.cons _⟩
    rcases hCould.1 with hQuiet | hPlaces
    · rw [placements_cons_quiet hQuiet] at hMem
      exact hPast hMem
    · rcases hPlaces with ⟨queries, doc', rfl, hNone, hDoc⟩
      cases hDoc.shape
      cases r with
      | error e => exact hPast hMem
      | ok results =>
        rw [placements_cons_placed, hNone,
          List.mem_singleton] at hMem
        cases hMem
        exact ⟨rfl, _, hDoc.cons _⟩

/- Every order that a run of checkouts stored. -/
theorem placed_of_run
    (hReach : Reach execCheckout cond (checkoutRun w calls) c)
    {t : Thread CheckoutOp.Res CheckoutAnswer
      (Except Error CheckoutResponse)}
    (hThread : t ∈ c.threads)
    {id : String}
    {order : Order}
    (hOrder : (id, order) ∈ placements t.trace) :
    Placed order := by
  rcases List.mem_iff_getElem?.mp hThread with ⟨i, hGet⟩
  rcases checkout_thread hReach hGet with
    ⟨call, _, _, hCould⟩
  rcases placement_of_could hCould hOrder with ⟨_, _, hDoc⟩
  exact hDoc.placed

theorem seller_of_run
    (hReach : Reach execCheckout cond (checkoutRun w calls) c)
    {t : Thread CheckoutOp.Res CheckoutAnswer
      (Except Error CheckoutResponse)}
    (hThread : t ∈ c.threads)
    {id : String}
    {order : Order}
    (hOrder : (id, order) ∈ placements t.trace) :
    ∃ seller, ∀ item ∈ order.items, item.seller = seller := by
  rcases List.mem_iff_getElem?.mp hThread with ⟨i, hGet⟩
  rcases checkout_thread hReach hGet with
    ⟨call, _, _, hCould⟩
  rcases placement_of_could hCould hOrder with ⟨_, _, hDoc⟩
  exact hDoc.seller

end

/- Two products of one seller at ten dollars each. -/
def tenDollarShop : Shop where
  store :=
    { products :=
        ⟨[("p1",
            { stockQuantity := some 4
              priceCents := 1000
              sellerId := "s1"
              lifecycleStatus := "active" }),
          ("p2",
            { stockQuantity := some 4
              priceCents := 1000
              sellerId := "s1"
              lifecycleStatus := "active" })]⟩ }

/- A buyer in Ontario who writes in upper case. -/
def ontarioCall
    (items : List CartItem)
    (subtotalCents : Int)
    (key : String) : CheckoutCall where
  config :=
    { text := ⟨id, id⟩
      turnstileSecretKey := false
      testMode := true
      stripeSecretKey := true }
  auth := { userId := "u1" }
  req :=
    { items
      shippingAddress :=
        { street := "1 Main St"
          city := "Toronto"
          state := "ON"
          postalCode := "M5V2H1"
          country := "CA" }
      subtotalCents
      idempotencyKey := some key }

/-
  The steps of an undisturbed request for `n` cart lines that
  stores the order under the given id.
-/
def checkoutTurns (i n : Nat) (orderId : String) :
    List (Nat × CheckoutAnswer) :=
  let plain : CheckoutAnswer := { fault := false }
  let answers := List.replicate (n + 3) plain ++
      [{ orderId := orderId },
        { session := ⟨some "cs_1", none⟩ }, plain]
  answers.map (fun a => (i, a))

end Orignabase
