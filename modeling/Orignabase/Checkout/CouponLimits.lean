import Orignabase.Checkout.Coupons
import Orignabase.Checkout.Reservations
import Mathlib.Algebra.BigOperators.Ring.Finset

/-
  The limits of a coupon.

  A checkout counts the uses of a coupon and stores its own
  much later, and a redemption stores a second one.  So the
  counts must still be right when an order is stored, and a
  redemption must be for an order without a use.

  Key definitions include:
    * `LimitsHold`
    * `OrderlyCoupons`

  Main results:
    * `limitsHold_of_reach`
-/

--------
-- Limits
--------

namespace Orignabase

open Conc

namespace Shop

/- The number of orders that carry a coupon. -/
def couponOrders (w : Shop) (code : String) : ℕ :=
  w.store.orders.rows.countP (fun row =>
    row.2.couponCode = some code)

def userOrders (w : Shop) (code userId : String) : ℕ :=
  w.store.orders.rows.countP (fun row =>
    row.2.couponCode = some code && row.2.buyerId = userId)

/- The number of uses that are recorded for an order. -/
def records (w : Shop) (code orderId : String) : ℕ :=
  w.store.couponUses.countP (fun c =>
      c.couponCode = code && c.orderId = orderId) +
    w.redemptions.countP (fun c =>
      c.couponId = code && c.orderId = orderId)

def usedCount (w : Shop) (code : String) : Option Int :=
  (w.coupon? code).bind Coupon.usedCount

end Shop

/- Whatever is found for the code has these limits. -/
def Limited (code : String) (m k : ℕ) (w : Shop) : Prop :=
  ∀ row ∈ w.coupons.rows,
    row.1 = docId "coupons" code ∨ row.2.code = code →
      row.2.maxUses = some (m : Int) ∧
        row.2.maxUsesPerUser = some (k : Int)

/- A coupon that nobody has used. -/
structure Issued
    (code : String)
    (m k : ℕ)
    (w : Shop) : Prop where
  limited : Limited code m k w
  counter : w.usedCount code = some 0
  orders :
    ∀ row ∈ w.store.orders.rows,
      row.2.couponCode ≠ some code
  uses :
    ∀ entry ∈ w.store.couponUses, entry.couponCode ≠ code
  redemptions :
    ∀ entry ∈ w.redemptions, entry.couponId ≠ code

/- A request to redeem the coupon. -/
def CouponCall.redeems (code : String) : CouponCall → Bool
  | .redeem text _ req =>
    docId "coupons" (normalizeCouponCode text req.code) =
      docId "coupons" code
  | .checkout _ => false

/- A request that has ended with a redemption. -/
def isRedeemed :
    Prog CouponRes (Except Error CouponReply) → Bool
  | .ret (.ok (.redeem response)) => response.redeemed
  | _ => false

/- The number of successful redemptions of a coupon. -/
def redeemedCount
    (calls : List CouponCall)
    (c : CouponConfig)
    (code : String) : ℕ :=
  (calls.zip c.threads).countP (fun x =>
    x.1.redeems code && isRedeemed x.2.prog)

/- The limits of a coupon, with exactly one use per order. -/
structure LimitsHold
    (calls : List CouponCall)
    (code : String)
    (m k : ℕ)
    (c : CouponConfig) : Prop where
  overall : c.world.couponOrders code ≤ m
  perUser : ∀ userId, c.world.userOrders code userId ≤ k
  record :
    ∀ id order, c.world.store.orders.get id = some order →
      order.couponCode = some code →
        c.world.records code id = 1
  counted :
    c.Idle →
      c.world.usedCount code =
        some (redeemedCount calls c code : Int)

--------
-- The Condition
--------

/- What a checkout takes for the number of uses. -/
def countOf (code : String) :
    Event CheckoutOp.Res CheckoutAnswer → Option Int
  | ⟨.countUses c, _, r⟩ =>
    if c = code then some (countOrZero r) else none
  | _ => none

def userCountOf (code userId : String) :
    Event CheckoutOp.Res CheckoutAnswer → Option Int
  | ⟨.countUserUses c u, _, r⟩ =>
    if c = code ∧ u = userId then some (countOrZero r)
    else none
  | _ => none

/- The coupon uses that a transaction inserts. -/
def Statement.use? : Statement → Option CouponUse
  | .insertCouponUse entry => some entry
  | _ => none

/-
  When an order is stored the counts are still right, and the
  use of a redemption is stored for an order without one, and
  does not fail after it was counted.
-/
def OrderlyCoupons (code : String) :
    StepCond CouponRes CheckoutAnswer Shop
  | tr, .inl (.commit queries), _, w =>
    ∀ entry ∈ queries.filterMap Statement.use?,
      entry.couponCode = code →
        (∀ n ∈ (lefts tr).filterMap (countOf code),
          n = w.uses code) ∧
        ∀ n ∈ (lefts tr).filterMap
            (userCountOf code entry.userId),
          n = w.userUses code entry.userId
  | _, .inr (.createUse entry), a, w =>
    (docId "coupons" entry.couponId =
        docId "coupons" code → a.fault = false) ∧
      (entry.couponId = code →
        (w.store.orders.get entry.orderId).isSome = true ∧
          w.records code entry.orderId = 0)
  | _, _, _, _ => True

instance orderlyDecidable
    (code : String)
    (tr : CouponTrace)
    (o : CheckoutOp ⊕ RedeemOp)
    (a : CheckoutAnswer)
    (w : Shop) : Decidable (OrderlyCoupons code tr o a w) := by
  rcases o with o | o <;> cases o <;> dsimp only [OrderlyCoupons] <;>
    infer_instance

--------
-- What A Checkout Has Counted
--------

open Handler

variable {code : String} {m k : ℕ}

/- A result of an operation while the limits are these. -/
def CheckoutLimited
    (code : String)
    (m k : ℕ)
    (e : Event CheckoutOp.Res CheckoutAnswer) : Prop :=
  ∃ w, Limited code m k w ∧
    e.res = (execCheckout e.op e.ans w).1

/- Both counts of the request were under the limits. -/
def Admitted
    (code userId : String)
    (m k : ℕ)
    (tr : CheckoutTrace) : Prop :=
  (∃ n ∈ tr.filterMap (countOf code), n < (m : Int)) ∧
    ∃ n ∈ tr.filterMap (userCountOf code userId), n < (k : Int)

theorem Admitted.cons
    {userId : String}
    {tr : CheckoutTrace}
    (hAdmitted : Admitted code userId m k tr)
    (e : Event CheckoutOp.Res CheckoutAnswer) :
    Admitted code userId m k (e :: tr) := by
  have hKeep :
      ∀ {f : Event CheckoutOp.Res CheckoutAnswer →
        Option Int} {x : Int},
        x ∈ tr.filterMap f → x ∈ (e :: tr).filterMap f := by
    intro f x hx
    rw [List.filterMap_cons]
    split
    · exact hx
    · exact List.mem_cons_of_mem _ hx
  rcases hAdmitted with ⟨⟨n, hMem, hLt⟩, n', hMem', hLt'⟩
  exact ⟨⟨n, hKeep hMem, hLt⟩, n', hKeep hMem', hLt'⟩

theorem Admitted.extends
    {P : CheckoutOp → Prop}
    {userId : String}
    {tr tr' : CheckoutTrace}
    (hAdmitted : Admitted code userId m k tr)
    (hExtends : Prog.Extends P tr tr') :
    Admitted code userId m k tr' := by
  induction hExtends with
  | refl => exact hAdmitted
  | cons _ _ ih => exact ih.cons _

/- The uses of the coupon that are stored were admitted. -/
def MayStore
    (code : String)
    (m k : ℕ)
    (tr : CheckoutTrace) : CheckoutOp → Prop
  | .commit queries =>
    ∀ entry ∈ queries.filterMap Statement.use?,
      entry.couponCode = code →
        Admitted code entry.userId m k tr
  | _ => True

theorem mayStore_of_quiet
    (tr : CheckoutTrace)
    {o : CheckoutOp}
    (hQuiet : o.Quiet) :
    MayStore code m k tr o := by
  cases o with
  | commit queries => cases hQuiet
  | _ => trivial

section

variable {α β : Type} {tr : CheckoutTrace}
variable {post : CheckoutTrace → Except Error α → Prop}

theorem stores_bind
    {p : Prog CheckoutOp.Res β}
    {f : β → CheckoutHandler α}
    (hUses : p.Uses CheckoutOp.Quiet)
    (hNext :
      ∀ tr' b, Prog.Extends CheckoutOp.Quiet tr tr' →
        (f b).Along (CheckoutLimited code m k)
          (MayStore code m k) post tr') :
    (p.bind f).Along (CheckoutLimited code m k)
      (MayStore code m k) post tr :=
  along_bind hUses
    (fun tr' _ _ hQuiet => mayStore_of_quiet tr' hQuiet) hNext

theorem stores_andThen
    {p : CheckoutHandler β}
    {f : β → CheckoutHandler α}
    (hUses : p.Uses CheckoutOp.Quiet)
    (hFail : ∀ tr' e, post tr' (.error e))
    (hNext :
      ∀ tr' b, Prog.Extends CheckoutOp.Quiet tr tr' →
        (f b).Along (CheckoutLimited code m k)
          (MayStore code m k) post tr') :
    (andThen p f).Along (CheckoutLimited code m k)
      (MayStore code m k) post tr :=
  along_andThen hUses
    (fun tr' _ _ hQuiet => mayStore_of_quiet tr' hQuiet)
    (fun tr' e _ => hFail tr' e) hNext

end

/- The coupon that is found for the code has its limits. -/
def HasLimits
    (code : String)
    (m k : ℕ)
    (name : String)
    (r : Except Error Coupon) : Prop :=
  ∀ coupon, r = .ok coupon → name = code →
    coupon.maxUses = some (m : Int) ∧
      coupon.maxUsesPerUser = some (k : Int)

theorem along_loadCoupon
    (name : String)
    (tr : CheckoutTrace) :
    (loadCoupon name).Along (CheckoutLimited code m k)
      (MayStore code m k)
      (fun _ r => HasLimits code m k name r) tr := by
  refine ⟨trivial, fun a r hEvent => ?_⟩
  rcases hEvent with ⟨w, hLimited, hRes⟩
  cases (r : Except Error Coupon) with
  | ok coupon =>
    rintro found ⟨⟩ rfl
    simp only [execCheckout, CheckoutAnswer.guard] at hRes
    split_ifs at hRes
    cases hGet :
        w.coupons.get (docId "coupons" name) with
    | none =>
      rw [hGet] at hRes
      cases hRes
    | some stored =>
      rw [hGet] at hRes
      cases hRes
      exact hLimited _ (Table.mem_of_get hGet) (Or.inl rfl)
  | error e =>
    refine ⟨trivial, fun a' r' hEvent' => ?_⟩
    rcases hEvent' with ⟨w', hLimited', hRes'⟩
    cases (r' : Except Error (Option Coupon)) with
    | error e => rintro _ ⟨⟩
    | ok row =>
      cases row with
      | none => rintro _ ⟨⟩
      | some coupon =>
        rintro found ⟨⟩ rfl
        simp only [execCheckout,
          CheckoutAnswer.guard] at hRes'
        split_ifs at hRes'
        have hFind := (Except.ok.inj hRes').symm
        have hCode := List.find?_some hFind
        rcases List.mem_map.mp
          (List.mem_of_find?_eq_some hFind) with
          ⟨row, hRow, hEq⟩
        rw [← hEq]
        refine hLimited' row hRow (Or.inr ?_)
        rw [hEq]
        simpa using hCode

/- An accepted coupon was counted under its limits. -/
theorem admits_validateCheckoutCoupon
    (t : TextCase)
    (couponCode userId : String)
    (raw : Int)
    (sellers : List String)
    (tr : CheckoutTrace) :
    (validateCheckoutCoupon t couponCode userId raw
      sellers).Along (CheckoutLimited code m k)
      (MayStore code m k)
      (fun tr' r => ∀ found, r = .ok found →
        found.1 = code → Admitted code userId m k tr') tr := by
  have hFail :
      ∀ (tr' : CheckoutTrace) (e : Error)
        (found : String × Int),
        (.error e : Except Error (String × Int)) = .ok found →
          found.1 = code → Admitted code userId m k tr' :=
    fun _ _ _ h => nomatch h
  apply along_require (hFail _ _)
  intro _
  refine Prog.Along.bind (along_loadCoupon _ tr) ?_
  intro tr₁ r hLimits
  cases r with
  | error e => exact hFail _ e
  | ok coupon =>
    apply along_require (hFail _ _)
    intro _
    apply stores_bind (uses_couponIsPast coupon)
    intro tr₂ past _
    apply along_require (hFail _ _)
    intro _
    apply along_require (hFail _ _)
    intro _
    apply along_require (hFail _ _)
    intro _
    refine ⟨trivial, fun a uses _ => ?_⟩
    apply along_require (hFail _ _)
    intro hUses
    refine ⟨trivial, fun a' userUses _ => ?_⟩
    apply along_require (hFail _ _)
    intro hUserUses
    rintro found ⟨⟩ hName
    have hCode : normalizeCouponCode t couponCode = code :=
      hName
    rcases hLimits coupon rfl hCode with ⟨hMax, hPerUser⟩
    refine ⟨⟨countOrZero uses, ?_, ?_⟩,
      countOrZero userUses, ?_, ?_⟩
    · simp [countOf, hCode]
    · simpa [hMax] using hUses
    · simp [userCountOf, hCode]
    · simpa [hPerUser] using hUserUses

theorem admits_resolveCoupon
    (t : TextCase)
    (req : CreateCheckoutRequest)
    (userId : String)
    (items : List ValidatedItem)
    (tr : CheckoutTrace) :
    (resolveCoupon t req userId items).Along
      (CheckoutLimited code m k) (MayStore code m k)
      (fun tr' r => ∀ found, r = .ok found →
        found.1 = some code →
          Admitted code userId m k tr') tr := by
  unfold resolveCoupon
  split
  · apply Prog.Along.bind
      (admits_validateCheckoutCoupon t _ userId _ _ tr)
    intro tr' r hAdmits
    cases r with
    | error e => exact fun _ h => nomatch h
    | ok found =>
      rintro pair ⟨⟩ hCode
      exact hAdmits found rfl (Option.some.inj hCode)
  · rintro pair ⟨⟩ hCode
    cases hCode

theorem uses_resolveKey
    (req : CreateCheckoutRequest)
    (userId : String) :
    (resolveKey req userId).Uses CheckoutOp.Quiet := by
  unfold resolveKey
  cases req.idempotencyKey with
  | some key => trivial
  | none => exact ⟨rfl, fun _ => trivial⟩

theorem uses_findDuplicate (userId key : String) :
    (findDuplicate userId key).Uses CheckoutOp.Quiet := by
  refine ⟨rfl, fun r => ?_⟩
  cases (r : Except Error (Option Order)) <;> trivial

theorem uses_verifyReservations
    (results : List Value)
    (response : CheckoutResponse)
    (places : List (ℕ × String)) :
    (verifyReservations results response places).Uses
      CheckoutOp.Quiet := by
  induction places with
  | nil => trivial
  | cons place rest ih =>
    unfold verifyReservations
    split_ifs
    · trivial
    · exact ih

theorem use_reservations (items : List Item) (index : ℕ) :
    (reservations items index).1.filterMap Statement.use? =
      [] := by
  induction items generalizing index with
  | nil => rfl
  | cons item rest ih =>
    unfold reservations
    split_ifs
    · exact ih (index + 1)
    · exact ih index

/- What a transaction inserts is the use of its own coupon. -/
theorem use_of_mem_queries
    {orderId userId : String}
    {doc : Order}
    {index : ℕ}
    {entry : CouponUse}
    (hMem :
      entry ∈ (insertions orderId userId doc ++
          (reservations doc.items index).1).filterMap
          Statement.use?) :
    doc.couponCode = some entry.couponCode ∧
      entry.userId = userId := by
  rw [List.filterMap_append, use_reservations,
    List.append_nil] at hMem
  unfold insertions at hMem
  cases hCode : doc.couponCode with
  | none => simp [hCode, Statement.use?] at hMem
  | some c =>
    simp only [hCode, List.filterMap_cons, Statement.use?,
      List.filterMap_nil, List.mem_singleton] at hMem
    rw [hMem]
    exact ⟨rfl, rfl⟩

theorem stores_openSession
    (config : CheckoutConfig)
    (userId key : String)
    (items : List ValidatedItem)
    (couponCode : Option String)
    (amounts : Amounts)
    {tr : CheckoutTrace}
    (hAdmitted :
      couponCode = some code →
        Admitted code userId m k tr) :
    (openSession config userId key items couponCode
      amounts).Along (CheckoutLimited code m k)
      (MayStore code m k) (fun _ _ => True) tr := by
  apply along_require trivial
  intro _
  refine ⟨trivial, fun a orderId _ => ?_⟩
  refine ⟨trivial, fun a' r _ => ?_⟩
  cases (r : Except Error StripeSession) with
  | error e => trivial
  | ok session =>
    rcases session with ⟨sessionId, url⟩
    cases sessionId with
    | none => trivial
    | some sessionId =>
      refine ⟨?_, fun a'' r' _ => ?_⟩
      · intro entry hMem hCode
        rcases use_of_mem_queries hMem with ⟨hCoupon, hUser⟩
        rw [hUser]
        have hStart :=
          hAdmitted (hCoupon.trans (congrArg some hCode))
        exact (hStart.cons _).cons _
      · cases (r' : Except Error (List Value)) with
        | error e => trivial
        | ok results =>
          exact ((uses_verifyReservations _ _ _).along
            (fun tr' _ _ hQuiet =>
              mayStore_of_quiet tr' hQuiet)).mono
            (fun _ _ h => h) (fun _ _ _ => trivial)

theorem stores_checkoutCart
    (config : CheckoutConfig)
    (req : CreateCheckoutRequest)
    (userId province : String)
    (items : List ValidatedItem)
    (tr : CheckoutTrace) :
    (checkoutCart config req userId province items).Along
      (CheckoutLimited code m k) (MayStore code m k)
      (fun _ _ => True) tr := by
  apply along_require trivial
  intro _
  apply stores_andThen (uses_checkSellers _)
    (fun _ _ => trivial)
  intro tr₁ _ _
  refine Prog.Along.bind
    (admits_resolveCoupon config.text req userId items tr₁) ?_
  intro tr₂ r hAdmits
  cases r with
  | error e => trivial
  | ok coupon =>
    have hAdmitted := hAdmits coupon rfl
    apply along_require trivial
    intro _
    apply stores_bind
    · exact uses_resolveKey req userId
    intro tr₃ key hKey
    apply stores_bind
    · exact uses_findDuplicate userId key
    intro tr₄ existing hFound
    cases existing with
    | some order => trivial
    | none =>
      apply along_lift (fun _ _ => trivial)
      intro amounts _
      apply stores_openSession
      intro hCode
      exact ((hAdmitted hCode).extends hKey).extends hFound

theorem stores_createCheckoutSession (call : CheckoutCall) :
    call.handler.Along (CheckoutLimited code m k)
      (MayStore code m k) (fun _ _ => True) [] := by
  apply stores_andThen (uses_checkTurnstile _ _)
    (fun _ _ => trivial)
  intro tr₁ _ _
  apply along_lift (fun _ _ => trivial)
  intro userId _
  apply along_lift (fun _ _ => trivial)
  intro _ _
  apply stores_andThen _ (fun _ _ => trivial)
  · intro tr₂ _ _
    apply along_lift (fun _ _ => trivial)
    intro province _
    apply stores_bind (uses_loadProducts _)
    intro tr₃ rows _
    apply along_require trivial
    intro _
    apply along_lift (fun _ _ => trivial)
    intro items _
    exact stores_checkoutCart _ _ _ _ _ _
  · exact uses_perform rfl

--------
-- What A Redemption Has Counted
--------

variable {code : String} {m k : ℕ}

/-
  A result of an operation while the limits are these and no
  counted use of the coupon is lost.
-/
def RedeemLimited
    (code : String)
    (m k : ℕ)
    (e : Event RedeemOp.Res CheckoutAnswer) : Prop :=
  (∃ w, Limited code m k w ∧
    e.res = (execRedeem e.op e.ans w).1) ∧
    match e.op with
    | .createUse entry =>
      docId "coupons" entry.couponId =
        docId "coupons" code → e.ans.fault = false
    | _ => True

/- How often an event counts a use of the coupon. -/
def increments (code : String) :
    Event RedeemOp.Res CheckoutAnswer → ℕ
  | ⟨.casUsedCount name _ _, _, r⟩ =>
    if docId "coupons" name = docId "coupons" code ∧
        Except.toOption r = some true then 1
    else 0
  | _ => 0

def incrementsOf (code : String) :
    List (Event RedeemOp.Res CheckoutAnswer) → ℕ
  | [] => 0
  | e :: tr => incrementsOf code tr + increments code e

/- A redemption counts up, and only against the limit. -/
def MayRedeem (code : String) : RedeemOp → Prop
  | .casUsedCount _ expected value => value = expected + 1
  | .setUsedCount name _ =>
    docId "coupons" name ≠ docId "coupons" code
  | _ => True

/- The use was counted if the request ends with it. -/
def Counted
    (code name : String)
    (tr : List (Event RedeemOp.Res CheckoutAnswer))
    (r : Except Error RedeemCouponResponse) : Prop :=
  incrementsOf code tr =
    if docId "coupons" name = docId "coupons" code ∧
        (Except.toOption r).any (·.redeemed) = true then 1
    else 0

variable {name : String}
variable {tr : List (Event RedeemOp.Res CheckoutAnswer)}

theorem counted_error
    (hNone : incrementsOf code tr = 0)
    (e : Error) :
    Counted code name tr (.error e) := by
  unfold Counted
  rw [hNone]
  simp [Except.toOption]

/- A counted use is stored. -/
theorem along_createUse
    {userId orderId : String}
    (hCounted :
      incrementsOf code tr =
        if docId "coupons" name = docId "coupons" code then 1
        else 0) :
    (andThen (context (Prog.perform (RedeemOp.createUse
          ⟨name, userId, orderId⟩))
        "Failed to redeem coupon: ")
      fun _ => ok ⟨true, true⟩).Along
      (RedeemLimited code m k) (fun _ o => MayRedeem code o)
      (Counted code name) tr := by
  refine ⟨trivial, fun a r hEvent => ?_⟩
  rcases hEvent with ⟨⟨w, _, hRes⟩, hSafe⟩
  cases (r : Except Error Unit) with
  | error e =>
    have hOther :
        docId "coupons" name ≠ docId "coupons" code := by
      intro hSame
      have hFault : a.fault = false := hSafe hSame
      simp [execRedeem, CheckoutAnswer.guard, hFault]
        at hRes
    rw [if_neg hOther] at hCounted
    exact counted_error hCounted _
  | ok u =>
    refine hCounted.trans ?_
    simp [Except.toOption]

/- The coupon that is redeemed has its limits. -/
theorem limits_of_getCoupon
    {a : CheckoutAnswer}
    {coupon : Coupon}
    (hEvent :
      RedeemLimited code m k
        ⟨.getCoupon name, a, .ok coupon⟩)
    (hSame : docId "coupons" name = docId "coupons" code) :
    coupon.maxUses = some (m : Int) := by
  rcases hEvent with ⟨⟨w, hLimited, hRes⟩, _⟩
  simp only [execRedeem, CheckoutAnswer.guard,
    Shop.coupon?] at hRes
  split_ifs at hRes
  cases hGet : w.coupons.get (docId "coupons" name) with
  | none =>
    rw [hGet] at hRes
    cases hRes
  | some stored =>
    rw [hGet] at hRes
    cases hRes
    exact (hLimited _ (Table.mem_of_get hGet)
      (Or.inl hSame)).1

/- Counting, then storing the use. -/
theorem along_countUse
    {userId orderId : String}
    {coupon : Coupon}
    (hLimits :
      docId "coupons" name = docId "coupons" code →
        coupon.maxUses = some (m : Int))
    (hNone : incrementsOf code tr = 0) :
    (andThen (countUse name coupon) fun counted =>
      require counted
        (.validation "Coupon fully redeemed") <|
      andThen (context (Prog.perform (RedeemOp.createUse
            ⟨name, userId, orderId⟩))
          "Failed to redeem coupon: ") fun _ =>
      ok ⟨true, true⟩).Along
      (RedeemLimited code m k) (fun _ o => MayRedeem code o)
      (Counted code name) tr := by
  unfold countUse
  cases hMax : coupon.maxUses with
  | none =>
    have hOther :
        docId "coupons" name ≠ docId "coupons" code := by
      intro hSame
      rw [hLimits hSame] at hMax
      cases hMax
    refine ⟨hOther, fun a r _ => ?_⟩
    cases (r : Except Error Unit) with
    | error e => exact counted_error hNone _
    | ok u =>
      refine along_createUse ?_
      rw [if_neg hOther]
      exact hNone
  | some limit =>
    dsimp only
    split_ifs
    · exact counted_error hNone _
    refine ⟨rfl, fun a r _ => ?_⟩
    cases (r : Except Error Bool) with
    | error e =>
      refine counted_error ?_ _
      simpa [incrementsOf, increments, Except.toOption]
        using hNone
    | ok done =>
      cases done with
      | false =>
        refine counted_error ?_ _
        simpa [incrementsOf, increments,
          Except.toOption] using hNone
      | true =>
        refine along_createUse ?_
        simp [incrementsOf, increments, hNone,
          Except.toOption]

theorem along_redeemCoupon
    (t : TextCase)
    (auth : AuthContext)
    (req : RedeemCouponRequest) :
    (redeemCoupon t auth req).Along (RedeemLimited code m k)
      (fun _ o => MayRedeem code o)
      (Counted code (normalizeCouponCode t req.code)) [] := by
  refine along_lift (fun e _ => counted_error rfl e)
    (fun _ _ => ?_)
  refine along_lift (fun e _ => counted_error rfl e)
    (fun _ _ => ?_)
  refine along_lift (fun e _ => counted_error rfl e)
    (fun userId _ => ?_)
  refine ⟨trivial, fun a r _ => ?_⟩
  cases (r : Except Error Unit) with
  | error e => exact counted_error rfl e
  | ok u =>
    refine along_require (counted_error rfl _) (fun _ => ?_)
    refine ⟨trivial, fun a' r' hEvent => ?_⟩
    cases (r' : Except Error Coupon) with
    | error e => exact counted_error rfl _
    | ok coupon =>
      have hLimits := limits_of_getCoupon hEvent
      change Prog.Along _ _ _ _
        ((redeemIsPast coupon).bind _)
      unfold redeemIsPast
      cases coupon.expiresAt with
      | none => exact along_countUse hLimits rfl
      | some expiresAt =>
        refine ⟨trivial, fun a'' past _ => ?_⟩
        cases (past : Bool) with
        | true =>
          change 0 = if _ ∧ false = true then 1 else 0
          simp
        | false => exact along_countUse hLimits rfl

--------
-- What A Request May Call
--------

variable {code : String} {m k : ℕ}

def MayCall (code : String) (m k : ℕ) :
    CouponCall → CouponTrace → CheckoutOp ⊕ RedeemOp → Prop
  | .checkout call =>
    CanLeft (fun tr o =>
      MayCheckout call tr o ∧ MayStore code m k tr o)
  | .redeem .. => CanRight (fun _ o => MayRedeem code o)

/- A redemption has counted its use when it ends. -/
def Ended
    (code : String)
    (call : CouponCall)
    (tr : CouponTrace)
    (r : Except Error CouponReply) : Prop :=
  match call with
  | .checkout _ => True
  | .redeem .. =>
    incrementsOf code (rights tr) =
      (call.redeems code && isRedeemed (.ret r)).toNat

theorem happens_of_limited
    {e : Event CheckoutOp.Res CheckoutAnswer}
    (hEvent : CheckoutLimited code m k e) :
    CheckoutHappens e := by
  rcases hEvent with ⟨w, _, hRes⟩
  exact ⟨w, hRes⟩

theorem along_body (call : CouponCall) :
    call.body.Along
      (Valid (CheckoutLimited code m k)
        (RedeemLimited code m k))
      (MayCall code m k call) (Ended code call) [] := by
  cases call with
  | checkout call =>
    have hHandler :
        call.handler.Along (CheckoutLimited code m k)
          (fun tr o =>
            MayCheckout call tr o ∧ MayStore code m k tr o)
          (fun _ _ => True) [] :=
      (along_createCheckoutSession.both
        (stores_createCheckoutSession call)
        (fun _ => happens_of_limited)).mono
        (fun _ _ h => h) (fun _ _ _ => trivial)
    have hMapped :
        (call.handler.map (Except.map .checkout)).Along
          (CheckoutLimited code m k)
          (fun tr o =>
            MayCheckout call tr o ∧ MayStore code m k tr o)
          (fun _ (_ : Except Error CouponReply) => True)
          (lefts ([] : CouponTrace)) :=
      hHandler.bind (fun _ _ _ => trivial)
    exact hMapped.left
  | redeem t auth req =>
    have hMapped :
        ((redeemCoupon t auth req).map
          (Except.map .redeem)).Along
          (RedeemLimited code m k)
          (fun _ o => MayRedeem code o)
          (fun tr r =>
            incrementsOf code tr =
              ((CouponCall.redeem t auth req).redeems code &&
                isRedeemed (.ret r)).toNat)
          (rights ([] : CouponTrace)) := by
      refine (along_redeemCoupon t auth req).bind ?_
      intro tr r hCounted
      refine hCounted.trans ?_
      cases r with
      | error e =>
        simp [Except.toOption, isRedeemed, Except.map]
      | ok response =>
        by_cases hName :
            docId "coupons"
                (normalizeCouponCode t req.code) =
              docId "coupons" code
        · cases hRedeemed : response.redeemed <;>
            simp [Except.toOption, isRedeemed, hName,
              CouponCall.redeems, Except.map, hRedeemed]
        · simp [hName, CouponCall.redeems]
    exact hMapped.right

--------
-- What A Step Does
--------

variable {code : String} {m k : ℕ}

variable {w : Shop}

/- The limits do not change. -/
theorem limited_setUsedCount
    (hLimited : Limited code m k w)
    (name : String)
    (value : Int) :
    Limited code m k (w.setUsedCount name value) := by
  intro row hRow hFound
  rcases List.mem_map.mp hRow with ⟨old, hOld, hEq⟩
  split_ifs at hEq
  · subst hEq
    exact hLimited old hOld hFound
  · subst hEq
    exact hLimited old hOld hFound

theorem coupons_execCheckout
    (o : CheckoutOp)
    (a : CheckoutAnswer)
    (w : Shop) :
    (execCheckout o a w).2.coupons = w.coupons ∧
      (execCheckout o a w).2.redemptions = w.redemptions := by
  have hGuard :
      ∀ {α : Type} (result : Except Error α × Shop),
        result.2.coupons = w.coupons ∧
            result.2.redemptions = w.redemptions →
          (a.guard w result).2.coupons = w.coupons ∧
            (a.guard w result).2.redemptions =
              w.redemptions := by
    intro α result hSame
    unfold CheckoutAnswer.guard
    split_ifs
    · exact ⟨rfl, rfl⟩
    · exact hSame
  cases o with
  | isPast => exact ⟨rfl, rfl⟩
  | timestampMillis => exact ⟨rfl, rfl⟩
  | newOrderId => exact ⟨rfl, rfl⟩
  | createSession key params =>
    refine hGuard _ ?_
    cases w.session? key <;> exact ⟨rfl, rfl⟩
  | _ => exact hGuard _ ⟨rfl, rfl⟩

theorem reservations_keep
    {items : List Item}
    {index : ℕ}
    {w w' : Store}
    {counts : List ℕ}
    (hRun :
      Transaction.runAll (reservations items index).1 w =
        some (counts, w')) :
    w'.orders = w.orders ∧ w'.couponUses = w.couponUses := by
  induction items generalizing index w counts with
  | nil =>
    cases hRun
    exact ⟨rfl, rfl⟩
  | cons item rest ih =>
    unfold reservations at hRun
    split_ifs at hRun
    · simp only [Transaction.runAll] at hRun
      split at hRun
      · cases hRun
      · rename_i n w₁ hOne
        rcases Option.map_eq_some_iff.mp hRun with
          ⟨out, hRest, hEq⟩
        cases hEq
        have hKept := ih hRest
        have hFirst :
            w₁.orders = w.orders ∧
              w₁.couponUses = w.couponUses := by
          simp only [Statement.run] at hOne
          split at hOne
          · split_ifs at hOne <;> cases hOne <;>
              exact ⟨rfl, rfl⟩
          · cases hOne
            exact ⟨rfl, rfl⟩
        exact ⟨hKept.1.trans hFirst.1,
          hKept.2.trans hFirst.2⟩
    · exact ih hRun

/- The transaction of an order does nothing, or stores it. -/
theorem store_commit
    (id userId : String)
    (doc : Order)
    (index : ℕ)
    (a : CheckoutAnswer)
    (w : Shop) :
    (execCheckout (.commit (insertions id userId doc ++
          (reservations doc.items index).1)) a w).2.store =
        w.store ∨
      w.store.orders.get id = none ∧
        (execCheckout (.commit (insertions id userId doc ++
            (reservations doc.items index).1)) a
          w).2.store.orders = w.store.orders.insert id doc ∧
        (execCheckout (.commit (insertions id userId doc ++
            (reservations doc.items index).1)) a
          w).2.store.couponUses =
          w.store.couponUses ++ usesOf id userId doc := by
  simp only [execCheckout, CheckoutAnswer.guard,
    Transaction.commit, runAll_append]
  split_ifs
  · exact Or.inl rfl
  by_cases hTaken : (w.store.orders.get id).isSome = true
  · left
    simp [insertions, Transaction.runAll, Statement.run,
      hTaken]
  rcases runAll_insertions id userId doc w.store with
    hNone | ⟨counts, hSome⟩
  · left
    rw [hNone]
    rfl
  rw [hSome, Option.bind_some]
  cases hRest :
      Transaction.runAll (reservations doc.items index).1
        { w.store with
          orders := w.store.orders.insert id doc
          couponUses :=
            w.store.couponUses ++ usesOf id userId doc } with
  | none => exact Or.inl rfl
  | some out =>
    have hKept := reservations_keep hRest
    exact Or.inr
      ⟨Option.not_isSome_iff_eq_none.mp hTaken, hKept.1,
        hKept.2⟩

/- What a redemption does to the shop. -/
inductive RedeemStep
    (code : String)
    (w w' : Shop)
    (n : ℕ) : RedeemOp → Prop
  | same
      {o : RedeemOp}
      (hSame : w' = w)
      (hNone : n = 0) :
      RedeemStep code w w' n o
  | counted
      {name : String}
      {expected value : Int}
      (hWas : w.usedCount name = some expected)
      (hNow : w' = w.setUsedCount name value)
      (hOne :
        n =
          if docId "coupons" name = docId "coupons" code then
            1
          else 0) :
      RedeemStep code w w' n
        (.casUsedCount name expected value)
  | set
      {name : String}
      {value : Int}
      (hNow : w' = w.setUsedCount name value)
      (hNone : n = 0) :
      RedeemStep code w w' n (.setUsedCount name value)
  | stored
      {entry : Redemption}
      (hNow :
        w' =
          { w with
            redemptions := w.redemptions ++ [entry] })
      (hNone : n = 0) :
      RedeemStep code w w' n (.createUse entry)

theorem execRedeem_step
    (code : String)
    (o : RedeemOp)
    (a : CheckoutAnswer)
    (w : Shop) :
    RedeemStep code w (execRedeem o a w).2
      (increments code ⟨o, a, (execRedeem o a w).1⟩) o := by
  cases hFault : a.fault with
  | true =>
    cases o <;>
      simp [execRedeem, CheckoutAnswer.guard, hFault,
        increments, Except.toOption,
        RedeemStep.same rfl rfl]
  | false =>
    cases o with
    | rateLimit userId =>
      simp only [execRedeem, CheckoutAnswer.guard, hFault]
      exact .same rfl rfl
    | getCoupon name =>
      simp only [execRedeem, CheckoutAnswer.guard, hFault]
      exact .same rfl rfl
    | isPast expiresAt => exact .same rfl rfl
    | casUsedCount name expected value =>
      simp only [execRedeem, CheckoutAnswer.guard, hFault,
        Bool.false_eq_true, if_false]
      split_ifs with hWas
      · refine .counted ?_ rfl ?_
        · rcases (Option.any_eq_true _ _).mp hWas with
            ⟨coupon, hGet, hCount⟩
          rw [Shop.usedCount, hGet]
          simpa using hCount
        · simp [increments, Except.toOption]
      · refine .same rfl ?_
        simp [increments, Except.toOption]
    | setUsedCount name value =>
      simp only [execRedeem, CheckoutAnswer.guard, hFault,
        Bool.false_eq_true, if_false]
      split_ifs
      · exact .set rfl rfl
      · exact .same rfl rfl
    | createUse entry =>
      simp only [execRedeem, CheckoutAnswer.guard, hFault]
      exact .stored rfl rfl

theorem usedCount_setUsedCount
    (w : Shop)
    (name : String)
    (value : Int) :
    (w.setUsedCount name value).usedCount code =
      if docId "coupons" name = docId "coupons" code then
        (w.coupon? code).map (fun _ => value)
      else w.usedCount code := by
  unfold Shop.usedCount Shop.coupon? Shop.setUsedCount
  rw [Table.get_modify]
  by_cases hSame :
      docId "coupons" code = docId "coupons" name
  · rw [if_pos hSame, if_pos hSame.symm, Option.bind_map]
    cases w.coupons.get (docId "coupons" code) <;> rfl
  · rw [if_neg hSame, if_neg (Ne.symm hSame)]

/- The coupon is stored with its limits and a counter. -/
structure Running
    (code : String)
    (m k : ℕ)
    (w : Shop) : Prop where
  limited : Limited code m k w
  counter : (w.usedCount code).isSome = true

theorem Running.of_coupons
    {w' : Shop}
    (hRunning : Running code m k w)
    (hSame : w'.coupons = w.coupons) :
    Running code m k w' := by
  constructor
  · unfold Limited
    rw [hSame]
    exact hRunning.limited
  · unfold Shop.usedCount Shop.coupon?
    rw [hSame]
    exact hRunning.counter

theorem Running.setUsedCount
    (hRunning : Running code m k w)
    (name : String)
    (value : Int) :
    Running code m k (w.setUsedCount name value) := by
  refine ⟨limited_setUsedCount hRunning.limited name value,
    ?_⟩
  have hStored : (w.coupon? code).isSome = true :=
    Option.isSome_of_isSome_bind hRunning.counter
  rw [usedCount_setUsedCount]
  split_ifs
  · rw [Option.isSome_map]
    exact hStored
  · exact hRunning.counter

theorem running_step
    (hRunning : Running code m k w)
    (o : CheckoutOp ⊕ RedeemOp)
    (a : CheckoutAnswer) :
    Running code m k (execCoupons o a w).2 := by
  rcases o with o | o
  · exact hRunning.of_coupons (coupons_execCheckout o a w).1
  · have hStep := execRedeem_step code o a w
    change Running code m k (execRedeem o a w).2
    generalize (execRedeem o a w).2 = w' at hStep ⊢
    cases hStep with
    | same hSame =>
      rw [hSame]
      exact hRunning
    | counted _ hNow =>
      rw [hNow]
      exact hRunning.setUsedCount _ _
    | set hNow =>
      rw [hNow]
      exact hRunning.setUsedCount _ _
    | stored hNow =>
      rw [hNow]
      exact hRunning.of_coupons rfl

/- The counter counts the uses. -/
theorem usedCount_step
    {call : CouponCall}
    {tr : CouponTrace}
    {o : CheckoutOp ⊕ RedeemOp}
    {a : CheckoutAnswer}
    (hCan : MayCall code m k call tr o) :
    -((execCoupons o a w).2.usedCount code).getD 0 +
        (incrementsOf code
          (rights (⟨o, a, (execCoupons o a w).1⟩ :: tr)) :
            Int) =
      -(w.usedCount code).getD 0 +
        (incrementsOf code (rights tr) : Int) := by
  rcases o with o | o
  · have hCoupons := (coupons_execCheckout o a w).1
    have hCount :
        (execCoupons (.inl o) a w).2.usedCount code =
          w.usedCount code := by
      unfold Shop.usedCount Shop.coupon?
      exact congrArg (fun t : Table Coupon =>
        (t.get (docId "coupons" code)).bind
          Coupon.usedCount) hCoupons
    rw [hCount]
    rfl
  · have hStep := execRedeem_step code o a w
    have hRedeem : MayRedeem code o := by
      cases call with
      | checkout call => exact hCan.elim
      | redeem => exact hCan
    change -((execRedeem o a w).2.usedCount code).getD 0 +
          ((incrementsOf code (rights tr) + increments code
              ⟨o, a, (execRedeem o a w).1⟩ : ℕ) : Int) = _
    generalize (execRedeem o a w).2 = w' at hStep ⊢
    generalize
      increments code ⟨o, a, (execRedeem o a w).1⟩ = n
      at hStep ⊢
    cases hStep with
    | same hSame hNone =>
      rw [hSame, hNone]
      simp
    | @counted name expected value hWas hNow hOne =>
      rw [hNow, hOne, usedCount_setUsedCount]
      split_ifs with hName
      · have hHere : w.usedCount code = some expected := by
          rw [← hWas]
          unfold Shop.usedCount Shop.coupon?
          rw [hName]
        rcases Option.bind_eq_some_iff.mp hHere with
          ⟨coupon, hGet, _⟩
        have hValue : value = expected + 1 := hRedeem
        rw [hHere, hGet, hValue]
        push_cast
        simp only [Option.map_some, Option.getD_some]
        omega
      · simp
    | @set name value hNow hNone =>
      have hName :
          docId "coupons" name ≠ docId "coupons" code :=
        hRedeem
      rw [hNow, hNone, usedCount_setUsedCount, if_neg hName]
      simp
    | stored hNow hNone =>
      rw [hNow, hNone]
      simp [Shop.usedCount, Shop.coupon?]

--------
-- The CouponLedger
--------

variable {code : String} {m k : ℕ}

/-
  The orders with the coupon, within its limits, and the uses
  that are recorded for them.
-/
structure CouponLedger
    (code : String)
    (m k : ℕ)
    (w : Shop) : Prop where
  overall : w.couponOrders code ≤ m
  perUser : ∀ userId, w.userOrders code userId ≤ k
  covered : w.couponOrders code ≤ w.uses code
  userCovered :
    ∀ userId,
      w.userOrders code userId ≤ w.userUses code userId
  known :
    ∀ entry ∈ w.store.couponUses, entry.couponCode = code →
      (w.store.orders.get entry.orderId).isSome = true
  redeemed :
    ∀ entry ∈ w.redemptions, entry.couponId = code →
      (w.store.orders.get entry.orderId).isSome = true
  record :
    ∀ id order, w.store.orders.get id = some order →
      order.couponCode = some code →
        w.records code id = 1

variable {w : Shop}

theorem Issued.ledger
    (hIssued : Issued code m k w) :
    CouponLedger code m k w := by
  have hOrders : w.couponOrders code = 0 := by
    refine List.countP_eq_zero.mpr (fun row hRow => ?_)
    simpa using hIssued.orders row hRow
  have hUserOrders :
      ∀ userId, w.userOrders code userId = 0 := by
    intro userId
    refine List.countP_eq_zero.mpr (fun row hRow => ?_)
    simp [hIssued.orders row hRow]
  refine ⟨?_, ?_, ?_, ?_, ?_, ?_, ?_⟩
  · rw [hOrders]
    exact Nat.zero_le m
  · intro userId
    rw [hUserOrders]
    exact Nat.zero_le k
  · rw [hOrders]
    exact Nat.zero_le _
  · intro userId
    rw [hUserOrders]
    exact Nat.zero_le _
  · intro entry hMem hCode
    exact absurd hCode (hIssued.uses entry hMem)
  · intro entry hMem hCode
    exact absurd hCode (hIssued.redemptions entry hMem)
  · intro id order hGet hCode
    exact absurd hCode
      (hIssued.orders _ (Table.mem_of_get hGet))

theorem CouponLedger.of_same
    {w' : Shop}
    (hLedger : CouponLedger code m k w)
    (hOrders : w'.store.orders = w.store.orders)
    (hUses : w'.store.couponUses = w.store.couponUses)
    (hRedemptions : w'.redemptions = w.redemptions) :
    CouponLedger code m k w' := by
  rcases hLedger with
    ⟨hOverall, hPerUser, hCovered, hUserCovered, hKnown,
      hRedeemed, hRecord⟩
  constructor <;>
    simp only [Shop.couponOrders, Shop.userOrders, Shop.uses,
      Shop.userUses, Shop.records, hOrders, hUses,
      hRedemptions] <;>
    assumption

/- No use is recorded for an order that is not stored. -/
theorem CouponLedger.records_eq_zero
    (hLedger : CouponLedger code m k w)
    {id : String}
    (hNone : w.store.orders.get id = none) :
    w.records code id = 0 := by
  have hUses :
      w.store.couponUses.countP (fun c =>
        c.couponCode = code && c.orderId = id) = 0 := by
    refine List.countP_eq_zero.mpr (fun entry hMem hEntry => ?_)
    simp only [Bool.and_eq_true, decide_eq_true_eq] at hEntry
    have hSome := hLedger.known entry hMem hEntry.1
    rw [hEntry.2, hNone] at hSome
    cases hSome
  have hRedemptions :
      w.redemptions.countP (fun c =>
        c.couponId = code && c.orderId = id) = 0 := by
    refine List.countP_eq_zero.mpr (fun entry hMem hEntry => ?_)
    simp only [Bool.and_eq_true, decide_eq_true_eq] at hEntry
    have hSome := hLedger.redeemed entry hMem hEntry.1
    rw [hEntry.2, hNone] at hSome
    cases hSome
  unfold Shop.records
  rw [hUses, hRedemptions]

/- The shop after an order was stored. -/
structure StoresOrder
    (w w' : Shop)
    (id userId : String)
    (doc : Order) : Prop where
  fresh : w.store.orders.get id = none
  orders : w'.store.orders = w.store.orders.insert id doc
  uses :
    w'.store.couponUses =
      w.store.couponUses ++ usesOf id userId doc
  redemptions : w'.redemptions = w.redemptions
  buyer : doc.buyerId = userId

section

variable {w w' : Shop} {id userId : String} {doc : Order}

theorem countP_usesOf
    (code : String)
    (p : CouponUse → Bool)
    (hOther : ∀ entry, p entry = true →
      entry.couponCode = code) :
    (usesOf id userId doc).countP p =
      if doc.couponCode = some code ∧
          p { couponCode := code, userId, orderId := id } =
            true then 1
      else 0 := by
  unfold usesOf
  cases hCode : doc.couponCode with
  | none => simp
  | some c =>
    by_cases hSame : c = code
    · subst hSame
      simp [List.countP_cons]
    · have hFalse :
          p { couponCode := c, userId, orderId := id } =
            false := by
        rw [Bool.eq_false_iff]
        intro hTrue
        exact hSame (hOther _ hTrue)
      simp [hFalse, hSame]

theorem StoresOrder.couponOrders
    (hStores : StoresOrder w w' id userId doc) :
    w'.couponOrders code = w.couponOrders code +
        if doc.couponCode = some code then 1 else 0 := by
  unfold Shop.couponOrders
  rw [hStores.orders]
  simp [Table.insert, List.countP_append, List.countP_cons]

theorem StoresOrder.userOrders
    (hStores : StoresOrder w w' id userId doc)
    (user : String) :
    w'.userOrders code user = w.userOrders code user +
        if doc.couponCode = some code ∧ userId = user then 1
        else 0 := by
  unfold Shop.userOrders
  rw [hStores.orders]
  simp [Table.insert, List.countP_append, List.countP_cons,
    hStores.buyer]

theorem StoresOrder.usesCount
    (hStores : StoresOrder w w' id userId doc) :
    w'.uses code = w.uses code +
        if doc.couponCode = some code then 1 else 0 := by
  unfold Shop.uses
  rw [hStores.uses, hStores.redemptions, List.countP_append,
    countP_usesOf code _ (by simp)]
  simp only [decide_true, and_true]
  omega

theorem StoresOrder.userUses
    (hStores : StoresOrder w w' id userId doc)
    (user : String) :
    w'.userUses code user = w.userUses code user +
        if doc.couponCode = some code ∧ userId = user then 1
        else 0 := by
  unfold Shop.userUses
  rw [hStores.uses, hStores.redemptions, List.countP_append,
    countP_usesOf code _ (by simp +contextual)]
  simp only [decide_true, Bool.true_and, decide_eq_true_eq]
  omega

theorem StoresOrder.records
    (hStores : StoresOrder w w' id userId doc)
    (orderId : String) :
    w'.records code orderId = w.records code orderId +
        if doc.couponCode = some code ∧ id = orderId then 1
        else 0 := by
  unfold Shop.records
  rw [hStores.uses, hStores.redemptions, List.countP_append,
    countP_usesOf code _ (by simp +contextual)]
  simp only [decide_true, Bool.true_and, decide_eq_true_eq]
  omega

theorem StoresOrder.isSome_get
    (hStores : StoresOrder w w' id userId doc)
    {orderId : String}
    (hSome : (w.store.orders.get orderId).isSome = true) :
    (w'.store.orders.get orderId).isSome = true := by
  rw [hStores.orders, Table.get_insert]
  simp [hSome]

/- A new order, with the use of its coupon. -/
theorem CouponLedger.place
    (hLedger : CouponLedger code m k w)
    (hStores : StoresOrder w w' id userId doc)
    (hUnder :
      doc.couponCode = some code →
        w.uses code < m ∧ w.userUses code userId < k) :
    CouponLedger code m k w' := by
  have hCovered := hLedger.covered
  have hUserCovered := hLedger.userCovered
  refine ⟨?_, ?_, ?_, ?_, ?_, ?_, ?_⟩
  · rw [hStores.couponOrders]
    split_ifs with hCode
    · have hRoom := (hUnder hCode).1
      omega
    · exact hLedger.overall
  · intro user
    rw [hStores.userOrders]
    split_ifs with hCode
    · have hRoom := (hUnder hCode.1).2
      rw [hCode.2] at hRoom
      have hUser := hUserCovered user
      omega
    · exact hLedger.perUser user
  · rw [hStores.couponOrders, hStores.usesCount]
    exact Nat.add_le_add_right hCovered _
  · intro user
    rw [hStores.userOrders, hStores.userUses]
    exact Nat.add_le_add_right (hUserCovered user) _
  · intro entry hMem hCode
    rw [hStores.uses] at hMem
    rcases List.mem_append.mp hMem with hOld | hUse
    · exact hStores.isSome_get
        (hLedger.known entry hOld hCode)
    · have hId : entry.orderId = id := by
        unfold usesOf at hUse
        split at hUse
        · rw [List.mem_singleton.mp hUse]
        · cases hUse
      rw [hId, hStores.orders, Table.get_insert]
      simp
  · intro entry hMem hCode
    rw [hStores.redemptions] at hMem
    exact hStores.isSome_get
      (hLedger.redeemed entry hMem hCode)
  · intro orderId order hGet hCode
    rw [hStores.orders, Table.get_insert] at hGet
    rw [hStores.records]
    by_cases hSame : id = orderId
    · subst hSame
      rw [hStores.fresh, Option.none_or, if_pos rfl] at hGet
      cases hGet
      rw [hLedger.records_eq_zero hStores.fresh,
        if_pos ⟨hCode, rfl⟩]
    · rw [if_neg (Ne.symm hSame), Option.or_none] at hGet
      rw [if_neg (fun h => hSame h.2)]
      exact hLedger.record orderId order hGet hCode

end

/- A redemption of an order without a use. -/
theorem CouponLedger.redeem
    {entry : Redemption}
    (hLedger : CouponLedger code m k w)
    (hFree :
      entry.couponId = code →
        (w.store.orders.get entry.orderId).isSome = true ∧
          w.records code entry.orderId = 0) :
    CouponLedger code m k
      { w with redemptions := w.redemptions ++ [entry] } := by
  refine ⟨hLedger.overall, hLedger.perUser, ?_, ?_,
    hLedger.known, ?_, ?_⟩
  · refine hLedger.covered.trans ?_
    simp only [Shop.uses, List.countP_append]
    omega
  · intro user
    refine (hLedger.userCovered user).trans ?_
    simp only [Shop.userUses, List.countP_append]
    omega
  · intro other hMem hCode
    rcases List.mem_append.mp hMem with hOld | hNew
    · exact hLedger.redeemed other hOld hCode
    · cases List.mem_singleton.mp hNew
      exact (hFree hCode).1
  · intro id order hGet hCode
    have hOne := hLedger.record id order hGet hCode
    have hOther :
        ¬ (entry.couponId = code ∧ entry.orderId = id) := by
      rintro ⟨hCoupon, hId⟩
      rw [← hId, (hFree hCoupon).2] at hOne
      cases hOne
    have hNone :
        [entry].countP (fun c =>
          c.couponId = code && c.orderId = id) = 0 := by
      simpa [List.countP_cons] using hOther
    simp only [Shop.records, List.countP_append, hNone,
      Nat.add_zero] at hOne ⊢
    exact hOne

theorem use_mem_queries
    {doc : Order}
    (hCode : doc.couponCode = some code)
    (id userId : String)
    (queries : List Statement) :
    { couponCode := code, userId, orderId := id } ∈
      (insertions id userId doc ++ queries).filterMap
        Statement.use? := by
  simp [insertions, hCode, Statement.use?]

theorem ledger_step
    {call : CouponCall}
    {tr : CouponTrace}
    {o : CheckoutOp ⊕ RedeemOp}
    {a : CheckoutAnswer}
    (hCan : MayCall code m k call tr o)
    (hCond : OrderlyCoupons code tr o a w)
    (hLedger : CouponLedger code m k w) :
    CouponLedger code m k (execCoupons o a w).2 := by
  rcases o with o | o
  · have hRest := coupons_execCheckout o a w
    cases call with
    | redeem => exact hCan.elim
    | checkout call =>
      rcases hCan with ⟨hMay, hStore⟩
      rcases hMay with hQuiet | ⟨queries, doc, rfl, _, hDoc⟩
      · have hSame := store_quiet hQuiet a w
        exact hLedger.of_same (congrArg Store.orders hSame)
          (congrArg Store.couponUses hSame) hRest.2
      have hShape := hDoc.shape
      subst hShape
      rcases store_commit doc.orderId call.auth.userId doc
        _ a w with hSame | ⟨hFresh, hOrders, hUses⟩
      · exact hLedger.of_same (congrArg Store.orders hSame)
          (congrArg Store.couponUses hSame) hRest.2
      refine hLedger.place
        ⟨hFresh, hOrders, hUses, hRest.2, hDoc.buyer⟩ ?_
      intro hCode
      have hMem :=
        use_mem_queries hCode doc.orderId call.auth.userId
          (reservations doc.items
            (insertions doc.orderId call.auth.userId
              doc).length).1
      rcases hStore _ hMem rfl with
        ⟨⟨n, hCount, hLt⟩, n', hUserCount, hLt'⟩
      have hNow := hCond _ hMem rfl
      rw [hNow.1 n hCount] at hLt
      rw [hNow.2 n' hUserCount] at hLt'
      exact ⟨Int.ofNat_lt.mp hLt, Int.ofNat_lt.mp hLt'⟩
  · have hStep := execRedeem_step code o a w
    change CouponLedger code m k (execRedeem o a w).2
    generalize (execRedeem o a w).2 = w' at hStep ⊢
    cases hStep with
    | same hSame =>
      rw [hSame]
      exact hLedger
    | counted _ hNow =>
      rw [hNow]
      exact hLedger.of_same rfl rfl rfl
    | set hNow =>
      rw [hNow]
      exact hLedger.of_same rfl rfl rfl
    | stored hNow =>
      rw [hNow]
      exact hLedger.redeem hCond.2

--------
-- Whole Runs
--------

variable {code : String} {m k : ℕ} {calls : List CouponCall}
variable {w : Shop} {c : CouponConfig}

/- A step of a run in which the coupon is stored. -/
def Counts (code : String) (m k : ℕ) :
    StepCond CouponRes CheckoutAnswer Shop :=
  fun tr o a w =>
    OrderlyCoupons code tr o a w ∧ Running code m k w

theorem valid_of_counts
    {tr : CouponTrace}
    {o : CheckoutOp ⊕ RedeemOp}
    {a : CheckoutAnswer}
    {w : Shop}
    (hCounts : Counts code m k tr o a w) :
    Valid (CheckoutLimited code m k)
      (RedeemLimited code m k)
      ⟨o, a, (execCoupons o a w).1⟩ := by
  rcases o with o | o
  · exact ⟨w, hCounts.2.limited, rfl⟩
  · refine ⟨⟨w, hCounts.2.limited, rfl⟩, ?_⟩
    cases o with
    | createUse entry => exact hCounts.1.1
    | _ => trivial

/- Each thread stands for at most one of what is counted. -/
theorem sum_eq_countP
    {ι T : Type}
    {f : T → ℕ}
    {p : ι → T → Bool}
    {xs : List ι}
    {ts : List T}
    (hEach :
      ∀ (i : ℕ) t, ts[i]? = some t →
        ∃ x, xs[i]? = some x ∧ f t = (p x t).toNat) :
    (ts.map f).sum =
      (xs.zip ts).countP (fun x => p x.1 x.2) := by
  induction ts generalizing xs with
  | nil => simp
  | cons t ts ih =>
    rcases hEach 0 t rfl with ⟨x, hx, hHead⟩
    cases xs with
    | nil => cases hx
    | cons y xs =>
      cases hx
      have hRest :
          (ts.map f).sum =
            (xs.zip ts).countP (fun x => p x.1 x.2) :=
        ih (fun i t' hThread =>
          hEach (i + 1) t' hThread)
      rw [List.map_cons, List.sum_cons, List.zip_cons_cons,
        List.countP_cons, hRest, hHead, Nat.add_comm]
      cases p x t <;> simp

theorem within_body (calls : List CouponCall) (w : Shop) :
    (couponRun w calls).Within
      (Valid (CheckoutLimited code m k)
        (RedeemLimited code m k))
      (MayCall code m k) (Ended code) calls :=
  Config.within_start (fun call _ => along_body call) w

/- The counter and the uses that were counted. -/
theorem usedCount_of_reach
    (hCounter : w.usedCount code = some 0)
    (hReach :
      Reach execCoupons (Counts code m k) (couponRun w calls)
        c) :
    (c.world.usedCount code).getD 0 =
      (c.threads.map (fun t =>
        (incrementsOf code (rights t.trace) : Int))).sum := by
  have hKept := hReach.conserves
      (fun w' => -(w'.usedCount code).getD 0)
      (fun tr => (incrementsOf code (rights tr) : Int))
      (fun _ _ _ _ hCounts => valid_of_counts hCounts)
      (within_body calls w)
      (fun _ _ _ _ _ hCan _ => usedCount_step hCan)
  have hStart :
      ((couponRun w calls).threads.map (fun t =>
        (incrementsOf code (rights t.trace) : Int))).sum =
        0 := by
    refine List.sum_eq_zero ?_
    simp [couponRun, Config.start, rights, incrementsOf]
  rw [hStart] at hKept
  have hZero : ((couponRun w calls).world.usedCount
      code).getD 0 = 0 := by
    change (w.usedCount code).getD 0 = 0
    rw [hCounter]
    rfl
  rw [hZero, neg_zero, add_zero] at hKept
  exact neg_add_eq_zero.mp hKept

/- What was counted by requests that are not in progress. -/
theorem increments_of_idle
    (hReach :
      Reach execCoupons (Counts code m k) (couponRun w calls)
        c)
    (hIdle : c.Idle)
    {i : ℕ}
    {t : Thread CouponRes CheckoutAnswer
      (Except Error CouponReply)}
    (hThread : c.threads[i]? = some t) :
    ∃ call, calls[i]? = some call ∧
      incrementsOf code (rights t.trace) =
        (call.redeems code && isRedeemed t.prog).toNat := by
  have hValid :
      ∀ tr o a w', Counts code m k tr o a w' →
        Valid (CheckoutLimited code m k)
          (RedeemLimited code m k)
          ⟨o, a, (execCoupons o a w').1⟩ :=
    fun _ _ _ _ hCounts => valid_of_counts hCounts
  have hAlong :
      ∀ call ∈ calls, call.body.Along
          (Valid (CheckoutLimited code m k)
            (RedeemLimited code m k))
          (MayCall code m k call) (Ended code call) [] :=
    fun call _ => along_body call
  rcases hReach.along hValid hAlong i t hThread with
    ⟨call, hCall, hNow⟩
  refine ⟨call, hCall, ?_⟩
  cases call with
  | checkout call =>
    have hCould :
        Could (CanLeft (fun tr o =>
            MayCheckout call tr o ∧ MayStore code m k tr o))
          t.trace :=
      hReach.could hValid hAlong i t hThread _ hCall
    rw [rights_eq_nil hCould]
    rfl
  | redeem text auth req =>
    rcases t with ⟨tr, p⟩
    cases p with
    | ret r => exact hNow
    | call o next =>
      rcases hIdle _ (List.mem_of_getElem? hThread) with
        hNil | hDone
      · cases (hNil : tr = [])
        simp [rights, incrementsOf, isRedeemed]
      · cases hDone

/-
  In a run in which the counts of a checkout are still right
  when its order is stored, and every redemption is for an
  order without a use, the limits hold.
-/
theorem limitsHold_of_reach
    (hIssued : Issued code m k w)
    (hReach :
      Reach execCoupons (OrderlyCoupons code) (couponRun w calls)
        c) :
    LimitsHold calls code m k c := by
  have hRunning : Running code m k w :=
    ⟨hIssued.limited, by rw [hIssued.counter]; rfl⟩
  have hKeeps :
      ∀ tr o a w', OrderlyCoupons code tr o a w' →
        Running code m k w' →
          Running code m k (execCoupons o a w').2 :=
    fun _ o a _ _ hNow => running_step hNow o a
  have hEnd := hReach.holds hKeeps hRunning
  have hRun :
      Reach execCoupons (Counts code m k) (couponRun w calls)
        c := hReach.assume hKeeps hRunning
  have hLedger := hRun.holds_along
      (fun _ _ _ _ hCounts => valid_of_counts hCounts)
      (within_body calls w)
      (fun _ _ _ _ _ hCan hCond hNow =>
        ledger_step hCan hCond.1 hNow) hIssued.ledger
  refine ⟨hLedger.overall, hLedger.perUser, hLedger.record,
    fun hIdle => ?_⟩
  have hSum := usedCount_of_reach hIssued.counter hRun
  have hCount :
      (c.threads.map (fun t =>
          incrementsOf code (rights t.trace))).sum =
        redeemedCount calls c code :=
    sum_eq_countP (fun i t hThread =>
      increments_of_idle hRun hIdle hThread)
  rcases Option.isSome_iff_exists.mp hEnd.counter with
    ⟨n, hNow⟩
  rw [hNow, Option.getD_some] at hSum
  rw [hNow, hSum, ← hCount, Nat.cast_list_sum, List.map_map]
  rfl

--------
-- Runs
--------

/- A shop with a coupon of ten percent. -/
def couponShop (m : Int) : Shop :=
  { tenDollarShop with
    coupons := ⟨[("SAVE10",
        { code := "SAVE10"
          isActive := true
          maxUses := some m
          maxUsesPerUser := some 1
          usedCount := some 0
          couponType := some "percentage"
          discountValue := ⟨10000, 10⟩ })]⟩ }

theorem issued_couponShop (m : ℕ) :
    Issued "SAVE10" m 1 (couponShop m) where
  limited := by
    intro row hRow _
    cases List.mem_singleton.mp hRow
    exact ⟨rfl, rfl⟩
  counter := by
    change ((couponShop m).coupons.get
      (docId "coupons" "SAVE10")).bind Coupon.usedCount = _
    have hId : docId "coupons" "SAVE10" = "SAVE10" := by
      decide
    rw [hId]
    rfl
  orders := fun _ h => nomatch h
  uses := fun _ h => nomatch h
  redemptions := fun _ h => nomatch h

/- A cart of one line, with or without the coupon. -/
def couponCart
    (buyer key : String)
    (couponCode : Option String) : CouponCall :=
  let call := ontarioCall [⟨"p1", 1⟩] 900 key
  .checkout
    { call with
      auth := { userId := buyer }
      req := { call.req with couponCode } }

/- An order with the coupon, and one that is redeemed. -/
def couponCalls : List CouponCall :=
  [couponCart "u1" "k1" (some "SAVE10"),
    couponCart "u1" "k2" none,
    .redeem ⟨id, id⟩ { userId := "u1" }
      { code := "SAVE10", orderId := "o2", userId := "u1" }]

theorem limitsHold_couponCalls :
    ∃ c : CouponConfig,
      Reach execCoupons (OrderlyCoupons "SAVE10")
          (couponRun (couponShop 1) couponCalls) c ∧
        c.Quiet ∧ c.world.couponOrders "SAVE10" = 1 ∧
        redeemedCount couponCalls c "SAVE10" = 1 ∧
        LimitsHold couponCalls "SAVE10" 1 1 c := by
  have hRun :
      ((couponRun (couponShop 1) couponCalls).run execCoupons
        (checkoutTurns 0 4 "o1" ++ checkoutTurns 1 1 "o2" ++
          List.replicate 4 (2, { fault := false }))).any
          (fun c =>
            decide c.Quiet &&
              decide (c.world.couponOrders "SAVE10" = 1) &&
              decide
                (redeemedCount couponCalls c "SAVE10" = 1)) =
        true := by
    decide
  rcases (Option.any_eq_true _ _).mp hRun with
    ⟨c, hRun, hEnd⟩
  simp only [Bool.and_eq_true, decide_eq_true_eq] at hEnd
  have hReach :
      Reach execCoupons (OrderlyCoupons "SAVE10")
        (couponRun (couponShop 1) couponCalls) c :=
    Reach.of_run hRun (by decide)
  exact ⟨c, hReach, hEnd.1.1, hEnd.1.2, hEnd.2,
    limitsHold_of_reach (issued_couponShop 1) hReach⟩

/-
  Two buyers at once: both count no use of a coupon for one
  order, and both orders carry it.
-/
theorem not_limitsHold_two_buyers :
    ¬ ∀ calls code m k w (c : CouponConfig),
      Issued code m k w →
        Reach execCoupons (fun _ _ _ _ => True)
          (couponRun w calls) c →
          LimitsHold calls code m k c := by
  intro hAll
  let calls : List CouponCall :=
    [couponCart "u1" "k1" (some "SAVE10"),
      couponCart "u2" "k2" (some "SAVE10")]
  have hRun :
      ((couponRun (couponShop 1) calls).run execCoupons
        ((checkoutTurns 0 4 "o1").take 9 ++
          (checkoutTurns 1 4 "o2").take 9 ++
          (checkoutTurns 0 4 "o1").drop 9 ++
          (checkoutTurns 1 4 "o2").drop 9)).any (fun c =>
            decide (c.world.couponOrders "SAVE10" = 2)) =
        true := by
    decide
  rcases (Option.any_eq_true _ _).mp hRun with
    ⟨c, hRun, hEnd⟩
  simp only [decide_eq_true_eq] at hEnd
  have hLimits := hAll calls "SAVE10" 1 1 (couponShop 1) c
      (issued_couponShop 1)
      (Reach.of_run hRun
        (Reach.Meets.of_forall (fun _ _ _ _ => trivial) _ _))
  have hOne := hLimits.overall
  omega

end Orignabase
