import Orignabase.Checkout.CouponLimits
import Orignabase.Checkout.CouponQuotes

/-
  The quote of a coupon agrees with the discount that the
  checkout gives.

  The quote reads the counter of the coupon, the checkout
  counts the recorded uses.  Only a redemption counts, and it
  records a use that is never released, so that the counter
  is at most the number of uses.

  Key definitions include:
    * `Kept`
    * `Admits`
    * `Agrees`

  Main results:
    * `kept_of_steps`
    * `checkoutQuote_ok_iff`
    * `applyQuote_ok_iff`
    * `quotes_agree`
-/

--------
-- What Is Promised
--------

namespace Orignabase

variable {w' : Shop} {auth : AuthContext}

namespace CouponQuotes

open Conc

/- No letter of ASCII stays in lower case. -/
def Uppers (t : TextCase) : Prop :=
  ∀ text, ∀ c ∈ (t.upper text).toList, c.isLower = false

/-
  The user of a request to the checkout: the two checks of
  the request, and an id as the database gives them.
-/
structure Registered (auth : AuthContext) (user : String) :
    Prop where
  uid : validateUid "userId" user = .ok ()
  own : resolveSelfUserId auth user "userId" = .ok user
  id :
    user.toList.all (fun c => c.isAlphanum || c = '-') = true

/- A discount of `d` cents on a cart of `s` cents. -/
structure Sound (s : ℤ) (response : ApplyCouponResponse) :
    Prop where
  nonneg : 0 ≤ response.discountAmountCents
  rest : min s 100 ≤ s - response.discountAmountCents
  percent :
    isPercent response.discountType = true →
      100 * response.discountAmountCents ≤ 90 * s
  fixed :
    isFixed response.discountType = true →
      ∃ value,
        response.discountValue = integerValue value ∧
          response.discountAmountCents ≤ value
  noOverflow :
    ∀ checked,
      computeDiscount64 checked response.discountType
          response.discountValue s =
        some response.discountAmountCents

/- The two quotes for a cart of `s` cents. -/
structure Agrees
    (t : TextCase)
    (past : String → Bool)
    (w : Shop)
    (auth : AuthContext)
    (code user : String)
    (sellers : List String)
    (s : ℤ) : Prop where
  accepted :
    ∀ found,
      checkoutQuote t past w code user sellers s = .ok found →
        ∃ response,
          applyQuote t past w auth code user sellers s =
            .ok response
  same :
    ∀ found response,
      checkoutQuote t past w code user sellers s = .ok found →
      applyQuote t past w auth code user sellers s =
          .ok response →
        found =
          (response.couponCode, response.discountAmountCents)
  sound :
    ∀ response,
      applyQuote t past w auth code user sellers s =
          .ok response →
        Sound s response
  monotone :
    ∀ s' response response',
      s ≤ s' → s' ≤ 10 ^ 13 →
      applyQuote t past w auth code user sellers s =
          .ok response →
      applyQuote t past w auth code user sellers s' =
          .ok response' →
        response.discountAmountCents ≤
          response'.discountAmountCents

--------
-- Coupons And Their Uses
--------

/- A coupon with a discount that can be created. -/
def Priced (coupon : Coupon) : Prop :=
  ∃ value, coupon.discountValue = integerValue value ∧
      0 < value ∧
      (isPercent (Coupon.type coupon) = true → value ≤ 90) ∧
      (isFixed (Coupon.type coupon) = true → 100 ≤ value)

/- The redemptions under a code. -/
def redeemed (redemptions : List Redemption) (code : String) :
    ℕ :=
  redemptions.countP (fun entry => entry.couponId = code)

structure KeptRow
    (redemptions : List Redemption)
    (row : String × Coupon) : Prop where
  code : row.2.code = row.1
  counted :
    row.2.usedCount.getD 0 ≤ (redeemed redemptions row.1 : ℤ)
  priced : Priced row.2

/- Every coupon counts no more than its redemptions. -/
def Kept (w : Shop) : Prop :=
  ∀ row ∈ w.coupons.rows, KeptRow w.redemptions row

variable {w : Shop} {coupon : Coupon}
variable {discountType : String}

theorem Kept.of_same
    (hKept : Kept w)
    (hCoupons : w'.coupons = w.coupons)
    (hRedemptions : w'.redemptions = w.redemptions) :
    Kept w' := by
  intro row hRow
  rw [hCoupons] at hRow
  rw [hRedemptions]
  exact hKept row hRow

theorem redeemed_append
    (redemptions : List Redemption)
    (entry : Redemption)
    (code : String) :
    redeemed (redemptions ++ [entry]) code =
      redeemed redemptions code +
        if entry.couponId = code then 1 else 0 := by
  simp [redeemed, List.countP_append, List.countP_cons]

/- An upper-case code has no collection in front. -/
theorem docId_normalize
    {t : TextCase}
    (hUpper : Uppers t)
    (text : String) :
    docId "coupons" (t.normalize text) = t.normalize text := by
  unfold docId Text.stripPrefix
  rw [if_neg]
  · rfl
  · intro hHead
    have hMem : 'c' ∈ (t.normalize text).toList := by
      apply (List.isPrefixOf_iff_prefix.mp hHead).subset
      simp
    have hLower := hUpper _ 'c' hMem
    exact absurd hLower (by decide)

/- A redemption is counted and recorded. -/
theorem kept_redeemed
    {code : String}
    (hKept : Kept w)
    (hCode : docId "coupons" code = code)
    (hGet : w.coupon? code = some coupon)
    (userId orderId : String) :
    Kept
      { w.setUsedCount code (coupon.usedCount.getD 0 + 1) with
        redemptions :=
          w.redemptions ++ [⟨code, userId, orderId⟩] } := by
  have hStored := hKept _ (Table.mem_of_get hGet)
  have hCounted := hStored.counted
  rw [hCode] at hCounted
  intro row hRow
  rcases Table.mem_modify hRow with hOld | ⟨old, hOld, rfl⟩
  · have hRowOld := hKept row hOld
    refine ⟨hRowOld.code, ?_, hRowOld.priced⟩
    have hLe := hRowOld.counted
    rw [redeemed_append]
    push_cast
    split <;> omega
  · have hRowOld := hKept _ hOld
    refine ⟨hRowOld.code, ?_, hRowOld.priced⟩
    change coupon.usedCount.getD 0 + 1 ≤
        ((redeemed (w.redemptions ++ [⟨code, userId, orderId⟩])
          (docId "coupons" code) : ℕ) : ℤ)
    rw [hCode, redeemed_append, if_pos rfl]
    push_cast
    exact Int.add_le_add_right hCounted 1

--------
-- Requests One At A Time
--------

open Handler

section

variable {Op : Type} {Res : Op → Type}
variable {execOp : Exec Res CheckoutAnswer Shop}
variable {cond : StepCond Res CheckoutAnswer Shop}
variable {α β : Type} {post : Shop → Except Error α → Prop}
variable {tr : List (Event Res CheckoutAnswer)} {w : Shop}

theorem leads_require
    {test : Bool}
    {e : Error}
    {next : Prog Res (Except Error α)}
    (hFail : post w (.error e))
    (hNext : test = true → next.Leads execOp cond post tr w) :
    (require test e next).Leads execOp cond post tr w := by
  cases test with
  | false => exact hFail
  | true => exact hNext rfl

theorem leads_lift
    {x : Except Error β}
    {f : β → Prog Res (Except Error α)}
    (hFail : ∀ e, post w (.error e))
    (hNext :
      ∀ b, x = .ok b → (f b).Leads execOp cond post tr w) :
    (andThen (lift x) f).Leads execOp cond post tr w := by
  cases x with
  | error e => exact hFail e
  | ok b => exact hNext b rfl

/- An operation that only reads. -/
theorem leads_read
    {o : Op}
    {k : Res o → Prog Res (Except Error α)}
    (hSame : ∀ a, (execOp o a w).2 = w)
    (hNext : ∀ tr r, (k r).Leads execOp cond post tr w) :
    (Prog.call o k).Leads execOp cond post tr w :=
  Prog.Leads.skip hSame hNext

end

/- A statement that only reads leaves the shop as it is. -/
theorem guard_same
    {α : Type}
    (a : CheckoutAnswer)
    (w : Shop)
    (r : Except Error α) :
    (a.guard w (r, w)).2 = w := by
  unfold CheckoutAnswer.guard
  split <;> rfl

/- A code without a failed statement reads its coupon. -/
def readCoupon (w : Shop) (code : String) :
    Except Error Coupon :=
  match w.coupon? code with
  | some coupon => .ok coupon
  | none => .error (.notFound "not found")

theorem readCoupon_eq_ok_iff
    {code : String} :
    readCoupon w code = .ok coupon ↔
      w.coupon? code = some coupon := by
  unfold readCoupon
  cases w.coupon? code with
  | none => simp
  | some stored => simp

section

variable {t : TextCase} {w : Shop}

variable {code : String} {req : CreateCouponRequest}
variable {checked : Bool}

/- A counted use is recorded before the request ends. -/
theorem leads_createUse
    {tr : List (Event RedeemOp.Res CheckoutAnswer)}
    {coupon : Coupon}
    (hKept : Kept w)
    (hCode : docId "coupons" code = code)
    (hGet : w.coupon? code = some coupon)
    (userId orderId : String) :
    (andThen (context (Prog.perform (RedeemOp.createUse
          ⟨code, userId, orderId⟩))
        "Failed to redeem coupon: ") fun _ =>
      ok (⟨true, true⟩ : RedeemCouponResponse)).Leads
      execRedeem Undisturbed (fun w' _ => Kept w') tr
      (w.setUsedCount code (coupon.usedCount.getD 0 + 1)) := by
  apply Prog.Leads.call
  intro a hFault
  refine ⟨.ok (), _, ?_,
    kept_redeemed hKept hCode hGet userId orderId⟩
  change a.fault = false at hFault
  simp only [execRedeem, CheckoutAnswer.guard, hFault,
    Bool.false_eq_true, if_false]
  rfl

/- What counting a use has done to the counter. -/
def CountedUse
    (w : Shop)
    (code : String)
    (coupon : Coupon)
    (w' : Shop)
    (r : Except Error Bool) : Prop :=
  (w' = w ∧ ∀ counted, r = .ok counted → counted = false) ∨
    w' = w.setUsedCount code (coupon.usedCount.getD 0 + 1) ∧
      r = .ok true

theorem leads_countUse
    {tr : List (Event RedeemOp.Res CheckoutAnswer)}
    {coupon : Coupon}
    (hGet : w.coupon? code = some coupon) :
    (countUse code coupon).Leads execRedeem Undisturbed
      (CountedUse w code coupon) tr w := by
  unfold countUse
  cases coupon.maxUses with
  | some limit =>
    dsimp only
    split
    · exact Or.inl ⟨rfl, fun _ hOk => by cases hOk; rfl⟩
    · apply Prog.Leads.call
      intro a hFault
      change a.fault = false at hFault
      by_cases hSame :
          coupon.usedCount = some (coupon.usedCount.getD 0)
      · refine ⟨.ok true, _, ?_, Or.inr ⟨rfl, rfl⟩⟩
        simp only [execRedeem, CheckoutAnswer.guard, hFault,
          Bool.false_eq_true, if_false, hGet,
          Option.any_some, decide_eq_true_eq]
        rw [if_pos hSame]
        rfl
      · refine ⟨.ok false, w, ?_,
          Or.inl ⟨rfl, fun _ hOk => by cases hOk; rfl⟩⟩
        simp only [execRedeem, CheckoutAnswer.guard, hFault,
          Bool.false_eq_true, if_false, hGet,
          Option.any_some, decide_eq_true_eq]
        rw [if_neg hSame]
        rfl
  | none =>
    apply Prog.Leads.call
    intro a hFault
    change a.fault = false at hFault
    refine ⟨.ok (), _, ?_, Or.inr ⟨rfl, rfl⟩⟩
    simp only [execRedeem, CheckoutAnswer.guard, hFault,
      Bool.false_eq_true, if_false, hGet,
      Option.isSome_some, if_true]
    rfl

theorem kept_redeem
    {req : RedeemCouponRequest}
    (hUpper : Uppers t)
    (hKept : Kept w) :
    (redeemCoupon t auth req).Leads execRedeem Undisturbed
      (fun w' _ => Kept w') [] w := by
  have hCode := docId_normalize hUpper req.code
  apply leads_lift (fun _ => hKept)
  intro _ _
  apply leads_lift (fun _ => hKept)
  intro _ _
  apply leads_lift (fun _ => hKept)
  intro userId _
  apply leads_read (fun a => guard_same a w _)
  intro tr₁ r
  cases (r : Except Error Unit) with
  | error e => exact hKept
  | ok _ =>
    apply leads_require hKept
    intro _
    apply Prog.Leads.call
    intro a hFault
    change a.fault = false at hFault
    refine ⟨readCoupon w (t.normalize req.code), w, ?_, ?_⟩
    · simp only [execRedeem, CheckoutAnswer.guard, hFault,
        Bool.false_eq_true, if_false]
      rfl
    · cases hRead : readCoupon w (t.normalize req.code) with
      | error e => exact hKept
      | ok coupon =>
        have hGet := readCoupon_eq_ok_iff.mp hRead
        have hPast :
            ∀ tr, (redeemIsPast coupon).Leads execRedeem
              Undisturbed (fun w' _ => w' = w) tr w := by
          intro tr
          unfold redeemIsPast
          cases coupon.expiresAt with
          | none => exact rfl
          | some expiresAt => exact fun _ _ => rfl
        apply Prog.Leads.bind (hPast _)
        rintro tr₂ _ past rfl
        cases past with
        | true => exact hKept
        | false =>
          apply Prog.Leads.bind (leads_countUse hGet)
          rintro tr₃ _ r (⟨rfl, hNot⟩ | ⟨rfl, rfl⟩)
          · cases r with
            | error e => exact hKept
            | ok counted =>
              rw [hNot counted rfl]
              exact hKept
          · exact leads_createUse hKept hCode hGet
              userId req.orderId

/- What a request that passes its checks asks for. -/
theorem of_checkCoupon
    (hCheck : checkCoupon checked req = .ok ()) :
    0 < req.discountValue ∧
      (isPercent req.discountType = true →
        req.discountValue ≤ 90) ∧
      (isFixed req.discountType = true →
        100 ≤ req.discountValue) := by
  rcases Fallible.of_bind_ok hCheck with ⟨_, _, hCheck⟩
  rcases Fallible.of_bind_ok hCheck with ⟨_, hPos, hCheck⟩
  rcases Fallible.of_bind_ok hCheck with ⟨_, hPercent, hCheck⟩
  rcases Fallible.of_bind_ok hCheck with ⟨_, hFixed, _⟩
  refine ⟨of_decide_eq_true (of_check hPos), ?_, ?_⟩
  · intro hType
    have hRange := of_check hPercent
    simp only [hType, Bool.not_true, Bool.false_or,
      Bool.and_eq_true, decide_eq_true_eq] at hRange
    exact hRange.2
  · intro hType
    have hLeast := of_check hFixed
    simpa only [hType, Bool.not_true, Bool.false_or,
      decide_eq_true_eq] using hLeast

theorem kept_upsert
    (hKept : Kept w)
    (hCode : docId "coupons" code = code)
    (hCheck : checkCoupon checked req = .ok ())
    (rfc3339 : String → Option String) :
    Kept
      { w with
        coupons := w.coupons.upsert (docId "coupons" code)
            (couponDoc rfc3339 code req) } := by
  intro row hRow
  rcases Table.mem_upsert hRow with rfl | hOld
  · rw [hCode]
    refine ⟨rfl, Int.natCast_nonneg _, ?_⟩
    exact ⟨req.discountValue, rfl, of_checkCoupon hCheck⟩
  · exact hKept row hOld

theorem kept_create
    {rfc3339 : String → Option String}
    (hUpper : Uppers t)
    (hKept : Kept w) :
    (createCoupon checked t rfc3339 auth req).Leads execCreate
      Undisturbed (fun w' _ => Kept w') [] w := by
  have hCode := docId_normalize hUpper req.code
  apply leads_lift (fun _ => hKept)
  intro _ _
  apply leads_lift (fun _ => hKept)
  intro userId _
  apply leads_read (fun a => guard_same a w _)
  intro tr₁ r
  cases (r : Except Error Unit) with
  | error e => exact hKept
  | ok _ =>
    apply leads_read (fun a => guard_same a w _)
    intro tr₂ r
    cases (r : Except Error User) with
    | error e => exact hKept
    | ok user =>
      apply leads_require hKept
      intro _
      apply leads_require hKept
      intro _
      apply leads_lift (fun _ => hKept)
      intro _ hCheck
      apply leads_read (fun a => guard_same a w _)
      intro tr₃ existing
      apply leads_require hKept
      intro _
      apply Prog.Leads.call
      intro a hFault
      change a.fault = false at hFault
      refine ⟨.ok (), _, ?_,
        kept_upsert hKept hCode hCheck rfc3339⟩
      simp only [execCreate, CheckoutAnswer.guard, hFault,
        Bool.false_eq_true, if_false]
      rfl

/- Every program may call any operation. -/
theorem uses_any
    {Op : Type}
    {Res : Op → Type}
    {α : Type}
    (p : Prog Res α) :
    p.Uses (fun _ => True) := by
  induction p with
  | ret r => trivial
  | call o k ih => exact ⟨trivial, ih⟩

theorem kept_checkout
    {call : CheckoutCall}
    {tr : CheckoutTrace}
    {r : Except Error CheckoutResponse}
    (hKept : Kept w)
    (hEnds :
      Prog.Ends execCheckout Undisturbed [] w call.handler
        tr w' r) :
    Kept w' := by
  apply Prog.Ends.preserves (I := Kept) (uses_any _) ?_ hEnds
    hKept
  intro o a w _ hKept
  rcases coupons_execCheckout o a w with
    ⟨hCoupons, hRedemptions⟩
  exact hKept.of_same hCoupons hRedemptions

theorem kept_step
    (hUpper : Uppers t)
    (hKept : Kept w)
    (hStep : Step checked t w w') :
    Kept w' := by
  cases hStep with
  | create hEnds =>
    exact (kept_create hUpper hKept).of_ends hEnds
  | checkout _ hEnds => exact kept_checkout hKept hEnds
  | redeem hEnds =>
    exact (kept_redeem hUpper hKept).of_ends hEnds
  | mark => exact hKept.of_same rfl rfl
  | release => exact hKept.of_same rfl rfl

/- Whatever happens to a shop without coupons. -/
theorem kept_of_steps
    {w₀ : Shop}
    (hUpper : Uppers t)
    (hEmpty : w₀.coupons.rows = [])
    (hSteps : Relation.ReflTransGen (Step checked t) w₀ w) :
    Kept w := by
  induction hSteps with
  | refl =>
    intro row hRow
    rw [hEmpty] at hRow
    exact absurd hRow List.not_mem_nil
  | tail _ hStep ih => exact kept_step hUpper ih hStep

end

--------
-- When A Quote Is Given
--------

section

variable {Op : Type} {Res : Op → Type} {Ans W : Type}
variable {execOp : Exec Res Ans W} {answer : Op → Ans}
variable {α β : Type} {w : W}

theorem settle_require_iff
    {test : Bool}
    {e : Error}
    {next : Prog Res (Except Error α)}
    {x : α} :
    (Prog.settle execOp answer w (require test e next)).1 =
        .ok x ↔
      test = true ∧
        (Prog.settle execOp answer w next).1 = .ok x := by
  cases test with
  | false => simp [require, fail, Prog.settle]
  | true => simp [require]

/- A handler that only reads goes on with its result. -/
theorem settle_andThen_of_eq
    {p : Prog Res (Except Error β)}
    {f : β → Prog Res (Except Error α)}
    {b : β}
    (hRead : Prog.settle execOp answer w p = (.ok b, w)) :
    Prog.settle execOp answer w (andThen p f) =
      Prog.settle execOp answer w (f b) := by
  rw [andThen, Prog.settle_bind, hRead]

theorem settle_bind_of_eq
    {p : Prog Res β}
    {f : β → Prog Res α}
    {b : β}
    (hRead : Prog.settle execOp answer w p = (b, w)) :
    Prog.settle execOp answer w (p.bind f) =
      Prog.settle execOp answer w (f b) := by
  rw [Prog.settle_bind, hRead]

end

/- The coupon of an id, else the first one of the code. -/
def couponOf (w : Shop) (code : String) : Option Coupon :=
  (w.coupon? code).or
    ((w.coupons.rows.map (·.2)).find? (fun c =>
      c.code = code))

/- What both find, or the error of both. -/
def lookup (w : Shop) (code : String) : Except Error Coupon :=
  match couponOf w code with
  | some coupon => .ok coupon
  | none => .error (.notFound couponUnavailable)

/- What both check of a coupon and the uses they found. -/
structure Admits
    (past : String → Bool)
    (sellers : List String)
    (s uses userUses : ℤ)
    (coupon : Coupon) : Prop where
  active : coupon.isActive = true
  current : coupon.expiresAt.any past = false
  seller : coupon.sellerId.all sellers.contains = true
  minOrder : coupon.minOrderCents.all (· ≤ s) = true
  overall : coupon.maxUses.all (uses < ·) = true
  perUser : userUses < coupon.maxUsesPerUser.getD 1

/- Fewer uses are admitted as well. -/
theorem Admits.mono
    {past : String → Bool}
    {sellers : List String}
    {s uses uses' userUses : ℤ}
    (hAdmits : Admits past sellers s uses userUses coupon)
    (hLe : uses' ≤ uses) :
    Admits past sellers s uses' userUses coupon := by
  refine { hAdmits with overall := ?_ }
  have hOverall := hAdmits.overall
  cases hMax : coupon.maxUses with
  | none => rfl
  | some limit =>
    rw [hMax] at hOverall
    have hLt := of_decide_eq_true hOverall
    exact decide_eq_true (Int.lt_of_le_of_lt hLe hLt)

section

variable {t : TextCase} {past : String → Bool} {w : Shop}
variable {code user : String} {sellers : List String}
variable {s : ℤ}

theorem settle_loadCoupon :
    Prog.settle execCheckout (checkoutAt past) w
        (loadCoupon code) =
      (lookup w code, w) := by
  have hFind (f : Error → Error) :
      Prog.settle execCheckout (checkoutAt past) w
          (mapErr (Prog.perform (CheckoutOp.findCoupon code)) f) =
        (.ok ((w.coupons.rows.map (·.2)).find? (fun c =>
          c.code = code)), w) := rfl
  unfold loadCoupon lookup couponOf
  cases hGet : w.coupon? code with
  | some coupon =>
    have hRead :
        Prog.settle execCheckout (checkoutAt past) w
            (Prog.perform (CheckoutOp.getCoupon code)) =
          (.ok coupon, w) := by
      change (readCoupon w code, w) = _
      rw [readCoupon_eq_ok_iff.mpr hGet]
      rfl
    rw [settle_bind_of_eq hRead]
    rfl
  | none =>
    have hRead :
        Prog.settle execCheckout (checkoutAt past) w
            (Prog.perform (CheckoutOp.getCoupon code)) =
          (.error (.notFound "not found"), w) := by
      change (readCoupon w code, w) = _
      rw [readCoupon, hGet]
      rfl
    rw [settle_bind_of_eq hRead]
    dsimp only
    rw [settle_andThen_of_eq (hFind _), Option.none_or]
    cases (w.coupons.rows.map (·.2)).find? (fun c =>
        c.code = code) <;> rfl

theorem settle_fetchCoupon :
    Prog.settle execApply (applyAt past) w
        (fetchCoupon code) =
      (lookup w code, w) := by
  have hFind (f : Error → Error) :
      Prog.settle execApply (applyAt past) w
          (mapErr (Prog.perform (ApplyOp.findCoupon code)) f) =
        (.ok ((w.coupons.rows.map (·.2)).find? (fun c =>
          c.code = code)), w) := rfl
  unfold fetchCoupon lookup couponOf
  cases hGet : w.coupon? code with
  | some coupon =>
    have hRead :
        Prog.settle execApply (applyAt past) w
            (Prog.perform (ApplyOp.getCoupon code)) =
          (.ok coupon, w) := by
      change (readCoupon w code, w) = _
      rw [readCoupon_eq_ok_iff.mpr hGet]
      rfl
    rw [settle_bind_of_eq hRead]
    rfl
  | none =>
    have hRead :
        Prog.settle execApply (applyAt past) w
            (Prog.perform (ApplyOp.getCoupon code)) =
          (.error (.notFound "not found"), w) := by
      change (readCoupon w code, w) = _
      rw [readCoupon, hGet]
      rfl
    rw [settle_bind_of_eq hRead]
    dsimp only
    rw [settle_andThen_of_eq (hFind _), Option.none_or]
    cases (w.coupons.rows.map (·.2)).find? (fun c =>
        c.code = code) <;> rfl

theorem settle_couponIsPast (coupon : Coupon) :
    Prog.settle execCheckout (checkoutAt past) w
        (couponIsPast coupon) =
      (coupon.expiresAt.any past, w) := by
  unfold couponIsPast
  cases coupon.expiresAt <;> rfl

theorem settle_isExpired (coupon : Coupon) :
    Prog.settle execApply (applyAt past) w
        (isExpired coupon) =
      (coupon.expiresAt.any past, w) := by
  unfold isExpired
  cases coupon.expiresAt <;> rfl

/- A text of letters and digits has a byte for each. -/
theorem utf8ByteSize_of_ascii
    {cs : List Char}
    (hAscii : ∀ c ∈ cs, c.utf8Size = 1) :
    (String.ofList cs).utf8ByteSize = cs.length := by
  induction cs with
  | nil => rfl
  | cons c cs ih =>
    have hSplit :
        String.ofList (c :: cs) =
          String.singleton c ++ String.ofList cs := by
      apply String.toList_injective
      simp
    rw [hSplit, String.utf8ByteSize_append,
      String.utf8ByteSize_singleton,
      hAscii c List.mem_cons_self,
      ih (fun d hD => hAscii d (List.mem_cons_of_mem _ hD)),
      List.length_cons]
    omega

/- Both ways to check a code accept the same codes. -/
theorem isValidCouponCode_eq (code : String) :
    Orignabase.isValidCouponCode code =
      isValidCouponCode code := by
  unfold Orignabase.isValidCouponCode isValidCouponCode
  cases hAll :
      code.toList.all (fun c => c.isUpper || c.isDigit) with
  | false => simp
  | true =>
    have hSize : code.utf8ByteSize = code.toList.length := by
      have hAscii : ∀ c ∈ code.toList, c.utf8Size = 1 := by
        intro c hC
        have hChar := List.all_eq_true.mp hAll c hC
        rw [Char.utf8Size_eq_one_iff]
        rcases (Bool.or_eq_true _ _).mp hChar with
          hUpper | hDigit
        · have hRange : 'A'.val ≤ c.val ∧ c.val ≤ 'Z'.val :=
            of_decide_eq_true hUpper
          exact UInt32.le_trans hRange.2 (by decide)
        · change (decide ('0'.val ≤ c.val) &&
            decide (c.val ≤ '9'.val)) = true at hDigit
          have hNine := of_decide_eq_true
            (Bool.and_eq_true_iff.mp hDigit).2
          exact UInt32.le_trans hNine (by decide)
      have hBytes := utf8ByteSize_of_ascii hAscii
      rwa [String.ofList_toList] at hBytes
    rw [hSize, Bool.and_true, Bool.true_and]

theorem checkoutQuote_ok_iff
    {found : String × ℤ} :
    checkoutQuote t past w code user sellers s = .ok found ↔
      isValidCouponCode (t.normalize code) = true ∧
        ∃ coupon,
          couponOf w (t.normalize code) = some coupon ∧
            Admits past sellers s (w.uses (t.normalize code))
              (w.userUses (t.normalize code) user) coupon ∧
            found =
              (t.normalize code,
                computeCouponDiscountCents (Coupon.type coupon)
                  coupon.discountValue s) := by
  unfold checkoutQuote validateCheckoutCoupon normalizeCouponCode
  rw [settle_require_iff, isValidCouponCode_eq]
  apply and_congr_right
  intro _
  cases hFound : couponOf w (t.normalize code) with
  | none =>
    rw [andThen, Prog.settle_bind, settle_loadCoupon, lookup,
      hFound]
    simp [fail, Prog.settle]
  | some coupon =>
    have hLoad :
        Prog.settle execCheckout (checkoutAt past) w
            (loadCoupon (t.normalize code)) =
          (.ok coupon, w) := by
      rw [settle_loadCoupon, lookup, hFound]
    have hUses :
        Prog.settle execCheckout (checkoutAt past) w
            (Prog.perform
              (CheckoutOp.countUses (t.normalize code))) =
          (.ok (w.uses (t.normalize code) : ℤ), w) := rfl
    have hUserUses :
        Prog.settle execCheckout (checkoutAt past) w
            (Prog.perform
              (CheckoutOp.countUserUses (t.normalize code)
                user)) =
          (.ok (w.userUses (t.normalize code) user : ℤ),
            w) := rfl
    rw [settle_andThen_of_eq hLoad, settle_require_iff,
      settle_bind_of_eq (settle_couponIsPast coupon),
      settle_require_iff, settle_require_iff,
      settle_require_iff, settle_bind_of_eq hUses,
      settle_require_iff, settle_bind_of_eq hUserUses,
      settle_require_iff]
    constructor
    · rintro ⟨hActive, hPast, hSeller, hOrder, hOverall,
        hUser, hOk⟩
      refine ⟨coupon, rfl, ?_, ?_⟩
      · exact
          { active := hActive
            current := by simpa using hPast
            seller := hSeller
            minOrder := hOrder
            overall := hOverall
            perUser := of_decide_eq_true hUser }
      · exact (Except.ok.inj hOk).symm
    · rintro ⟨stored, hStored, hAdmits, rfl⟩
      cases hStored
      exact ⟨hAdmits.active, by simpa using hAdmits.current,
        hAdmits.seller, hAdmits.minOrder, hAdmits.overall,
        decide_eq_true hAdmits.perUser, rfl⟩

/- A valid code and a registered user break no literal. -/
theorem plain_of_all
    {text : String}
    (hAll :
      text.toList.all (fun c => c.isAlphanum || c = '-') =
        true) :
    plain text = true := by
  apply List.all_eq_true.mpr
  intro c hC
  have hChar := List.all_eq_true.mp hAll c hC
  have hQuote : c ≠ '\'' := by
    rintro rfl
    exact absurd hChar (by decide)
  have hSlash : c ≠ '\\' := by
    rintro rfl
    exact absurd hChar (by decide)
  simp [hQuote, hSlash]

theorem plain_of_valid
    (hValid : isValidCouponCode code = true) :
    plain code = true := by
  apply plain_of_all
  unfold isValidCouponCode at hValid
  simp only [Bool.and_eq_true] at hValid
  apply List.all_eq_true.mpr
  intro c hC
  have hChar := List.all_eq_true.mp hValid.1.1 c hC
  simp only [Bool.or_eq_true] at hChar
  rcases hChar with hUpper | hDigit
  · have hAlpha : c.isAlpha = true := by
      change (c.isUpper || c.isLower) = true
      rw [hUpper, Bool.true_or]
    have hAlnum : c.isAlphanum = true := by
      change (c.isAlpha || c.isDigit) = true
      rw [hAlpha, Bool.true_or]
    rw [hAlnum, Bool.true_or]
  · have hAlnum : c.isAlphanum = true := by
      change (c.isAlpha || c.isDigit) = true
      rw [hDigit, Bool.or_true]
    rw [hAlnum, Bool.true_or]

theorem applyQuote_ok_iff
    {response : ApplyCouponResponse}
    (hUser : Registered auth user)
    (hLow : 0 ≤ s) :
    applyQuote t past w auth code user sellers s =
        .ok response ↔
      isValidCouponCode (t.normalize code) = true ∧
        ∃ coupon,
          couponOf w (t.normalize code) = some coupon ∧
            Admits past sellers s (coupon.usedCount.getD 0)
              (w.userUses (t.normalize code) user) coupon ∧
            response =
              { valid := true
                discountAmountCents :=
                  computeDiscount (Coupon.type coupon)
                    coupon.discountValue s
                discountType := Coupon.type coupon
                discountValue := coupon.discountValue
                couponCode := t.normalize code } := by
  have hRate :
      Prog.settle execApply (applyAt past) w
          (Prog.perform (ApplyOp.rateLimit user)) =
        (.ok (), w) := rfl
  unfold applyQuote applyCoupon
  rw [hUser.uid, settle_andThen_of_eq rfl, hUser.own,
    settle_andThen_of_eq rfl, settle_andThen_of_eq hRate,
    settle_require_iff, settle_require_iff]
  apply and_congr_right
  intro hValid
  rw [and_iff_right (decide_eq_true hLow)]
  cases hFound : couponOf w (t.normalize code) with
  | none =>
    rw [andThen, Prog.settle_bind, settle_fetchCoupon,
      lookup, hFound]
    simp [fail, Prog.settle]
  | some coupon =>
    have hLoad :
        Prog.settle execApply (applyAt past) w
            (fetchCoupon (t.normalize code)) =
          (.ok coupon, w) := by
      rw [settle_fetchCoupon, lookup, hFound]
    have hUserUses :
        Prog.settle execApply (applyAt past) w (Prog.perform
              (ApplyOp.countUses (t.normalize code) user)) =
          (.ok (w.userUses (t.normalize code) user : ℤ),
            w) := by
      change (Except.ok (if _ then _ else _), w) = _
      rw [plain_of_valid hValid, plain_of_all hUser.id]
      rfl
    rw [settle_andThen_of_eq hLoad, settle_require_iff,
      settle_bind_of_eq (settle_isExpired coupon),
      settle_require_iff, settle_require_iff,
      settle_bind_of_eq hUserUses, settle_require_iff,
      settle_require_iff, settle_require_iff]
    constructor
    · rintro ⟨hActive, hPast, hOverall, hUses, hSeller,
        hOrder, hOk⟩
      refine ⟨coupon, rfl, ?_, ?_⟩
      · exact
          { active := hActive
            current := by simpa using hPast
            seller := hSeller
            minOrder := hOrder
            overall := hOverall
            perUser := of_decide_eq_true hUses }
      · exact (Except.ok.inj hOk).symm
    · rintro ⟨stored, hStored, hAdmits, rfl⟩
      cases hStored
      exact ⟨hAdmits.active, by simpa using hAdmits.current,
        hAdmits.overall, decide_eq_true hAdmits.perUser,
        hAdmits.seller, hAdmits.minOrder, rfl⟩

end

--------
-- The Discount
--------

variable {s value : ℤ}

/- The two functions compute the same. -/
theorem computeDiscount_eq
    (discountType : String)
    (value : DiscountValue)
    (s : ℤ) :
    computeCouponDiscountCents discountType value s =
      computeDiscount discountType value s := by
  unfold computeCouponDiscountCents computeDiscount
    minCheckoutTotalCents
  split
  · rfl
  · split
    · rfl
    · rfl
    · rfl
    · rfl
    · rename_i hPercentage hPercent hAmount hCents
      split
      · exact (hPercentage rfl).elim
      · exact (hPercent rfl).elim
      · exact (hAmount rfl).elim
      · exact (hCents rfl).elim
      · rfl
      · rfl

/- What a percentage takes, before the rest is kept. -/
def percentOf (value s : ℤ) : ℤ :=
  s * value / 100

/- A discount by its kind. -/
theorem computeDiscount_percent
    (hType : isPercent discountType = true)
    (hLow : 1 ≤ value)
    (hHigh : value ≤ 90)
    (hS : 100 < s) :
    computeDiscount discountType (integerValue value) s =
      min (percentOf value s) (s - 100) := by
  have hMin : min (1000 * value) 90000 = 1000 * value := by
    omega
  have hProduct : 0 ≤ s * value :=
    Int.mul_nonneg (by omega) (by omega)
  have hDiv :
      (s * (1000 * value)).tdiv 100000 =
        percentOf value s := by
    rw [Int.mul_left_comm,
      Int.tdiv_eq_ediv_of_nonneg (by omega), percentOf]
    omega
  have hKind :
      computeDiscount discountType (integerValue value) s =
        if s - (s * min (1000 * value) 90000).tdiv 100000 <
            100 then s - 100
        else (s * min (1000 * value) 90000).tdiv 100000 := by
    unfold computeDiscount
    rw [if_neg (by omega)]
    simp only [isPercent, List.contains_cons,
      List.contains_nil, Bool.or_false, Bool.or_eq_true,
      beq_iff_eq] at hType
    rcases hType with rfl | rfl <;> rfl
  rw [hKind, hMin, hDiv]
  split <;> omega

theorem computeDiscount_fixed
    (hType : isFixed discountType = true)
    (hS : 100 < s) :
    computeDiscount discountType (integerValue value) s =
      min (min value (2 ^ 63 - 1)) (s - 100) := by
  unfold computeDiscount
  rw [if_neg (by omega)]
  simp only [isFixed, List.contains_cons, List.contains_nil,
    Bool.or_false, Bool.or_eq_true, beq_iff_eq] at hType
  rcases hType with rfl | rfl <;> rfl

theorem computeDiscount_other
    (hPercent : isPercent discountType = false)
    (hFixed : isFixed discountType = false)
    (value : DiscountValue)
    (s : ℤ) :
    computeDiscount discountType value s = 0 := by
  unfold computeDiscount
  split
  · rfl
  · split
    · exact absurd hPercent (by decide)
    · exact absurd hPercent (by decide)
    · exact absurd hFixed (by decide)
    · exact absurd hFixed (by decide)
    · rfl
    · rfl

theorem computeDiscount_small
    (discountType : String)
    (value : DiscountValue)
    (hS : s ≤ 100) :
    computeDiscount discountType value s = 0 := by
  unfold computeDiscount
  rw [if_pos hS]

theorem percentOf_bounds
    (hLow : 1 ≤ value)
    (hHigh : value ≤ 90)
    (hS : 0 ≤ s) :
    0 ≤ percentOf value s ∧
      100 * percentOf value s ≤ 90 * s := by
  have hProduct : 0 ≤ s * value :=
    Int.mul_nonneg hS (by omega)
  have hLe : s * value ≤ s * 90 :=
    Int.mul_le_mul_of_nonneg_left hHigh hS
  unfold percentOf
  omega

theorem percentOf_mono
    {s' : ℤ}
    (hValue : 1 ≤ value)
    (hLe : s ≤ s') :
    percentOf value s ≤ percentOf value s' := by
  have hProduct : s * value ≤ s' * value :=
    Int.mul_le_mul_of_nonneg_right hLe (by omega)
  unfold percentOf
  omega

end CouponQuotes

--------
-- Agreement
--------

namespace CouponQuotes

open Conc

section

variable {coupon : Coupon} {s : ℤ}

theorem discount_nonneg
    (hPriced : Priced coupon)
    (hS : 0 ≤ s) :
    0 ≤ computeDiscount (Coupon.type coupon)
      coupon.discountValue s := by
  rcases hPriced with ⟨value, hValue, hPos, hPercent, hFixed⟩
  rw [hValue]
  by_cases hSmall : s ≤ 100
  · rw [computeDiscount_small _ _ hSmall]
  · cases hType : isPercent (Coupon.type coupon) with
    | true =>
      have hBounds := percentOf_bounds hPos (hPercent hType) hS
      rw [computeDiscount_percent hType hPos
        (hPercent hType) (by omega)]
      omega
    | false =>
      cases hFix : isFixed (Coupon.type coupon) with
      | true =>
        rw [computeDiscount_fixed hFix (by omega)]
        omega
      | false => rw [computeDiscount_other hType hFix]

/- A dollar is left of a cart above a dollar. -/
theorem discount_rest
    (hPriced : Priced coupon)
    (hS : 0 ≤ s) :
    min s 100 ≤ s - computeDiscount (Coupon.type coupon)
        coupon.discountValue s := by
  rcases hPriced with ⟨value, hValue, hPos, hPercent, hFixed⟩
  rw [hValue]
  by_cases hSmall : s ≤ 100
  · rw [computeDiscount_small _ _ hSmall]
    omega
  · cases hType : isPercent (Coupon.type coupon) with
    | true =>
      rw [computeDiscount_percent hType hPos
        (hPercent hType) (by omega)]
      omega
    | false =>
      cases hFix : isFixed (Coupon.type coupon) with
      | true =>
        rw [computeDiscount_fixed hFix (by omega)]
        omega
      | false =>
        rw [computeDiscount_other hType hFix]
        omega

theorem discount_mono
    {s' : ℤ}
    (hPriced : Priced coupon)
    (hS : 0 ≤ s)
    (hLe : s ≤ s') :
    computeDiscount (Coupon.type coupon)
        coupon.discountValue s ≤
      computeDiscount (Coupon.type coupon)
        coupon.discountValue s' := by
  have hNonneg : 0 ≤ s' := by omega
  by_cases hSmall : s ≤ 100
  · rw [computeDiscount_small _ _ hSmall]
    exact discount_nonneg hPriced hNonneg
  rcases hPriced with ⟨value, hValue, hPos, hPercent, hFixed⟩
  rw [hValue]
  cases hType : isPercent (Coupon.type coupon) with
  | true =>
    have hMono := percentOf_mono hPos hLe
    rw [computeDiscount_percent hType hPos
        (hPercent hType) (by omega),
      computeDiscount_percent hType hPos
        (hPercent hType) (by omega)]
    omega
  | false =>
    cases hFix : isFixed (Coupon.type coupon) with
    | true =>
      rw [computeDiscount_fixed hFix (by omega),
        computeDiscount_fixed hFix (by omega)]
      omega
    | false =>
      rw [computeDiscount_other hType hFix,
        computeDiscount_other hType hFix]

/- No operation leaves the numbers of 64 bits. -/
theorem discount_fits
    (hPriced : Priced coupon)
    (hLow : 0 ≤ s)
    (hHigh : s ≤ 10 ^ 13)
    (checked : Bool) :
    computeDiscount64 checked (Coupon.type coupon)
        coupon.discountValue s =
      some (computeDiscount (Coupon.type coupon)
        coupon.discountValue s) := by
  rcases hPriced with ⟨value, hValue, hPos, hPercent, _⟩
  rw [hValue]
  have hRest : I64.Fits (s - 100) := by
    constructor <;> omega
  unfold computeDiscount64 computeDiscount
  split
  · rfl
  · have hMul :
        isPercent (Coupon.type coupon) = true →
          I64.mul checked s
              (min (integerValue value).thousandfold 90000) =
            some (s *
              min (integerValue value).thousandfold 90000) ∧
          I64.Fits (s -
            (s * min (integerValue value).thousandfold
              90000).tdiv 100000) := by
      intro hType
      have hMin :
          min (integerValue value).thousandfold 90000 =
            1000 * value := by
        have hLe := hPercent hType
        change min (1000 * value) 90000 = _
        omega
      have hProduct : 0 ≤ s * (1000 * value) :=
        Int.mul_nonneg hLow (by omega)
      have hMost : s * (1000 * value) ≤ 10 ^ 13 * 90000 :=
        Int.mul_le_mul hHigh (by have := hPercent hType; omega)
          (by omega) (by decide)
      rw [hMin]
      constructor
      · apply I64.result_of_fits
        rw [I64.fits_iff_of_nonneg hProduct]
        omega
      · rw [Int.tdiv_eq_ediv_of_nonneg hProduct]
        constructor <;> omega
    split
    · rename_i hType
      rcases hMul (by rw [hType]; decide) with
        ⟨hProduct, hSub⟩
      dsimp only
      rw [hProduct, Option.bind_some, I64.sub,
        I64.result_of_fits hSub, Option.bind_some, I64.sub,
        I64.result_of_fits hRest]
      split <;> rfl
    · rename_i hType
      rcases hMul (by rw [hType]; decide) with
        ⟨hProduct, hSub⟩
      dsimp only
      rw [hProduct, Option.bind_some, I64.sub,
        I64.result_of_fits hSub, Option.bind_some, I64.sub,
        I64.result_of_fits hRest]
      split <;> rfl
    · rw [I64.sub, I64.result_of_fits hRest, Option.map_some]
    · rw [I64.sub, I64.result_of_fits hRest, Option.map_some]
    · rfl
    · rfl

end

section

variable {t : TextCase} {past : String → Bool} {w : Shop}
variable {auth : AuthContext} {code user : String}
variable {sellers : List String} {s : ℤ}

/- What is found for a code is stored under it. -/
theorem mem_of_couponOf
    {coupon : Coupon}
    (hUpper : Uppers t)
    (hKept : Kept w)
    (hFound : couponOf w (t.normalize code) = some coupon) :
    (t.normalize code, coupon) ∈ w.coupons.rows := by
  rcases Option.or_eq_some_iff.mp hFound with
    hGet | ⟨_, hFind⟩
  · have hMem := Table.mem_of_get hGet
    rwa [docId_normalize hUpper] at hMem
  · have hIn := List.mem_of_find?_eq_some hFind
    have hCode : coupon.code = t.normalize code := by
      simpa using List.find?_some hFind
    rcases List.mem_map.mp hIn with ⟨row, hRow, rfl⟩
    have hKey := (hKept row hRow).code
    rw [← hCode, hKey]
    exact hRow

/- The counter of a coupon is at most its recorded uses. -/
theorem usedCount_le_uses
    {coupon : Coupon}
    (hUpper : Uppers t)
    (hKept : Kept w)
    (hFound : couponOf w (t.normalize code) = some coupon) :
    coupon.usedCount.getD 0 ≤ (w.uses (t.normalize code) : ℤ) := by
  have hCounted :=
    (hKept _ (mem_of_couponOf hUpper hKept hFound)).counted
  have hLe :
      redeemed w.redemptions (t.normalize code) ≤
        w.uses (t.normalize code) :=
    Nat.le_add_left _ _
  exact Int.le_trans hCounted (Int.ofNat_le.mpr hLe)

theorem sound_of_quote
    {response : ApplyCouponResponse}
    (hUpper : Uppers t)
    (hKept : Kept w)
    (hUser : Registered auth user)
    (hLow : 0 ≤ s)
    (hHigh : s ≤ 10 ^ 13)
    (hQuote :
      applyQuote t past w auth code user sellers s =
        .ok response) :
    Sound s response := by
  rcases (applyQuote_ok_iff hUser hLow).mp hQuote with
    ⟨_, coupon, hFound, _, rfl⟩
  have hPriced :=
    (hKept _ (mem_of_couponOf hUpper hKept hFound)).priced
  refine
    { nonneg := discount_nonneg hPriced hLow
      rest := discount_rest hPriced hLow
      percent := ?_
      fixed := ?_
      noOverflow := discount_fits hPriced hLow hHigh }
  · intro hType
    rcases hPriced with ⟨value, hValue, hPos, hPercent, _⟩
    change 100 * computeDiscount (Coupon.type coupon) _ s ≤ _
    rw [hValue]
    by_cases hSmall : s ≤ 100
    · rw [computeDiscount_small _ _ hSmall]
      omega
    · have hBounds :=
        percentOf_bounds hPos (hPercent hType) hLow
      rw [computeDiscount_percent hType hPos (hPercent hType)
        (by omega)]
      omega
  · intro hType
    rcases hPriced with ⟨value, hValue, hPos, _, _⟩
    refine ⟨value, hValue, ?_⟩
    change computeDiscount (Coupon.type coupon) _ s ≤ _
    rw [hValue]
    by_cases hSmall : s ≤ 100
    · rw [computeDiscount_small _ _ hSmall]
      omega
    · rw [computeDiscount_fixed hType (by omega)]
      omega

/-
  In every shop that coupons were created and used in one
  request after the other, the quote accepts what the checkout
  accepts, and both give the same discount.
-/
theorem quotes_agree
    {checked : Bool}
    {w₀ : Shop}
    (hUpper : Uppers t)
    (hEmpty : w₀.coupons.rows = [])
    (hSteps : Relation.ReflTransGen (Step checked t) w₀ w)
    (hUser : Registered auth user)
    (hLow : 0 ≤ s)
    (hHigh : s ≤ 10 ^ 13) :
    Agrees t past w auth code user sellers s := by
  have hKept := kept_of_steps hUpper hEmpty hSteps
  refine
    { accepted := ?_
      same := ?_
      sound := fun _ hQuote =>
        sound_of_quote hUpper hKept hUser hLow hHigh hQuote
      monotone := ?_ }
  · intro found hFound
    rcases checkoutQuote_ok_iff.mp hFound with
      ⟨hValid, coupon, hCoupon, hAdmits, _⟩
    have hLe := usedCount_le_uses hUpper hKept hCoupon
    exact ⟨_, (applyQuote_ok_iff hUser hLow).mpr
      ⟨hValid, coupon, hCoupon, hAdmits.mono hLe, rfl⟩⟩
  · intro found response hFound hResponse
    rcases checkoutQuote_ok_iff.mp hFound with
      ⟨_, coupon, hCoupon, _, rfl⟩
    rcases (applyQuote_ok_iff hUser hLow).mp hResponse with
      ⟨_, other, hOther, _, rfl⟩
    rw [hCoupon] at hOther
    cases hOther
    rw [computeDiscount_eq]
  · intro s' response response' hLe _ hFirst hSecond
    have hNonneg : 0 ≤ s' := by omega
    rcases (applyQuote_ok_iff hUser hLow).mp hFirst with
      ⟨_, coupon, hCoupon, _, rfl⟩
    rcases (applyQuote_ok_iff hUser hNonneg).mp hSecond with
      ⟨_, other, hOther, _, rfl⟩
    rw [hCoupon] at hOther
    cases hOther
    exact discount_mono
      (hKept _ (mem_of_couponOf hUpper hKept hCoupon)).priced
      hLow hLe

end

instance
    {Op : Type}
    {Res : Op → Type}
    (tr : List (Event Res CheckoutAnswer))
    (o : Op)
    (a : CheckoutAnswer)
    (w : Shop) :
    Decidable (@Undisturbed Op Res tr o a w) :=
  inferInstanceAs (Decidable (a.fault = false))

/- Upper-casing, for texts of ASCII. -/
def asciiCase : TextCase where
  trim := id
  upper text := String.ofList (text.toList.map Char.toUpper)

theorem isLower_toUpper (c : Char) :
    c.toUpper.isLower = false := by
  unfold Char.toUpper
  split
  · rename_i hLower
    have hLow := UInt32.le_iff_toNat_le.mp hLower.1
    have hHigh := UInt32.le_iff_toNat_le.mp hLower.2
    change 97 ≤ c.val.toNat at hLow
    change c.val.toNat ≤ 122 at hHigh
    have hVal :
        (c.val + ('A'.val - 'a'.val)).toNat =
          c.val.toNat - 32 := by
      rw [UInt32.toNat_add]
      change (c.val.toNat + 4294967264) % 4294967296 = _
      omega
    have hNot : ¬ 'a'.val ≤ c.val + ('A'.val - 'a'.val) := by
      rw [UInt32.le_iff_toNat_le, hVal]
      change ¬ 97 ≤ _
      omega
    change (decide ('a'.val ≤ c.val + ('A'.val - 'a'.val)) &&
      decide _) = false
    rw [decide_eq_false hNot, Bool.false_and]
  · rename_i hOther
    change (decide ('a'.val ≤ c.val) &&
      decide (c.val ≤ 'z'.val)) = false
    exact (Bool.and_eq_false_imp).mpr
      (fun hLow => decide_eq_false (fun hHigh =>
        hOther ⟨of_decide_eq_true hLow, hHigh⟩))

theorem uppers_asciiCase : Uppers asciiCase := by
  intro text c hC
  change c ∈ (String.ofList _).toList at hC
  rw [String.toList_ofList] at hC
  rcases List.mem_map.mp hC with ⟨d, _, rfl⟩
  exact isLower_toUpper d

/- A shop with an administrator and no coupon. -/
def emptyShop : Shop where
  store := { users := ⟨[("a1", { roles := ["admin"] })]⟩ }

def saveTenRequest : CreateCouponRequest where
  code := "save10"
  discountType := "percentage"
  discountValue := 10
  maxUsesTotal := some 5
  userId := "a1"

/-
  A coupon of ten percent that one user has redeemed.  The
  quote of another on twenty dollars is two dollars.
-/
theorem quotes_agree_ten_percent :
    ∃ w,
      Relation.ReflTransGen (Step true asciiCase) emptyShop
          w ∧
        checkoutQuote asciiCase (fun _ => false) w "save10"
            "u2" ["s1"] 2000 =
          .ok ("SAVE10", 200) ∧
        Agrees asciiCase (fun _ => false) w { userId := "u2" }
          "save10" "u2" ["s1"] 2000 := by
  have hRun :
      ((Prog.play execCreate Undisturbed
        (List.replicate 4 {}) [] emptyShop
        (createCoupon true asciiCase (fun _ => none)
          { userId := "a1" } saveTenRequest)).any
        (fun created =>
          (Prog.play execRedeem Undisturbed
            (List.replicate 4 {}) [] created.1
            (redeemCoupon asciiCase { userId := "u1" }
              ⟨"save10", "o1", "u1"⟩)).any (fun out =>
            match checkoutQuote asciiCase (fun _ => false)
              out.1 "save10" "u2" ["s1"] 2000 with
            | .ok found => decide (found = ("SAVE10", 200))
            | .error _ => false))) = true := by
    decide
  rcases (Option.any_eq_true _ _).mp hRun with
    ⟨⟨w₁, r₁⟩, hCreate, hRun⟩
  rcases (Option.any_eq_true _ _).mp hRun with
    ⟨⟨w, r⟩, hRedeem, hQuote⟩
  rcases Prog.Ends.of_play hCreate with ⟨_, hCreate⟩
  rcases Prog.Ends.of_play hRedeem with ⟨_, hRedeem⟩
  have hSteps :
      Relation.ReflTransGen (Step true asciiCase) emptyShop
        w :=
    (Relation.ReflTransGen.single (Step.create hCreate)).tail
      (Step.redeem hRedeem)
  have hUser : Registered { userId := "u2" } "u2" :=
    ⟨rfl, rfl, by decide⟩
  refine ⟨w, hSteps, ?_, ?_⟩
  · split at hQuote
    · rename_i found hFound
      rw [hFound, of_decide_eq_true hQuote]
    · cases hQuote
  · exact quotes_agree uppers_asciiCase rfl hSteps hUser
      (by decide) (by decide)

end CouponQuotes

end Orignabase
