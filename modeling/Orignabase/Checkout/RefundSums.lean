import Orignabase.Checkout.Placed
import Orignabase.Lib.Rounding
import Orignabase.Orders.Refunds
import Mathlib.Algebra.BigOperators.Ring.List

/-
  The refunds of all items of an order, compared with what
  the order cost.

  The checkout stores the subtotal after the discount; the
  refund takes the discount off once more, and rounds the
  shares of shipping and tax for every item.

  Key definitions include:
    * `RefundsAddUp`
    * `RefundsFit`

  Main results:
    * `refunds_add_up_iff`
-/

--------
-- Refunds
--------

namespace Orignabase

open Rounding

/- The refund of an item, zero when there is none. -/
def refundCents (order : Order) (item : Item) : Int :=
  match calculateRefundAmountCents order item with
  | .ok cents => cents
  | .error _ => 0

def refundSum (order : Order) : Int :=
  (order.items.map (refundCents order)).sum

/- What refunding every item amounts to. -/
structure RefundsAddUp (order : Order) : Prop where
  defined :
    ∀ item ∈ order.items,
      ∃ cents,
        calculateRefundAmountCents order item = .ok cents
  atMost : refundSum order ≤ order.totalAmountCents
  atLeast :
    order.totalAmountCents - order.items.length ≤
      refundSum order
  single :
    order.items.length = 1 →
      refundSum order = order.totalAmountCents
  accepted :
    ∀ before item after,
      order.items = before ++ item :: after →
        (before.map (refundCents order)).sum +
            refundCents order item ≤
          order.totalAmountCents

/- The price of a line after the discount was taken off. -/
def keptCents (order : Order) (item : Item) : Int :=
  if 0 < order.discountAmountCents then
    share order.subtotalCents (item.lineCents *
        max (order.subtotalCents - order.discountAmountCents)
          0)
  else item.lineCents

/- What rounding the shares of an amount leaves over. -/
def restOf (order : Order) (amount : Int) : Int :=
  (order.items.map (fun item =>
    rest order.subtotalCents
      (amount * keptCents order item))).sum

/- What the discount takes from the stored subtotal. -/
def lostCents (order : Order) : Int :=
  let subtotal := order.subtotalCents
  let discount := order.discountAmountCents
  if discount ≤ 0 then -discount
  else if subtotal < discount then subtotal
  else
    (discount * discount + (order.items.map (fun item =>
        rest subtotal (item.lineCents *
            (subtotal - discount)))).sum) / subtotal

/-
  The condition on the amounts of an order.  Without a
  discount only the rounding of the shares counts.
-/
def RefundsFit (order : Order) : Prop :=
  let rests := restOf order order.taxAmountCents +
      restOf order order.shippingCostCents
  let short :=
    order.totalAmountCents * lostCents order + rests
  if order.discountAmountCents = 0 then 0 ≤ rests
  else
    0 ≤ short ∧
      short ≤ order.items.length * order.subtotalCents ∧
      (order.items.length = 1 → lostCents order = 0)

instance (order : Order) : Decidable (RefundsFit order) := by
  unfold RefundsFit
  infer_instance

--------
-- Sums
--------

variable {order : Order}

variable {item : Item}

theorem calculateRefund_eq
    (hPlaced : Placed order)
    (hItem : item ∈ order.items) :
    calculateRefundAmountCents order item =
      .ok
        (keptCents order item + share order.subtotalCents
            (order.taxAmountCents * keptCents order item) +
          share order.subtotalCents
            (order.shippingCostCents *
              keptCents order item)) := by
  have hPos := hPlaced.subtotal_pos
  have hShipping := (hPlaced.line item hItem).shipping
  have hKept :
      keptCents order item =
        if order.subtotalCents > 0 ∧
            order.discountAmountCents > 0 then
          (item.priceCents * item.qty *
            max (order.subtotalCents -
              order.discountAmountCents) 0 +
            order.subtotalCents.tdiv 2).tdiv
            order.subtotalCents
        else item.priceCents * item.qty := by
    unfold keptCents
    by_cases hDiscount : 0 < order.discountAmountCents
    · rw [if_pos hDiscount, if_pos ⟨hPos, hDiscount⟩]
      rfl
    · rw [if_neg hDiscount, if_neg (fun h => hDiscount h.2)]
      rfl
  unfold calculateRefundAmountCents
  simp only [← hKept, hShipping, Option.getD_none]
  rw [if_neg (by omega)]
  rfl

theorem refundCents_eq
    (hPlaced : Placed order)
    (hItem : item ∈ order.items) :
    refundCents order item = keptCents order item +
        share order.subtotalCents
          (order.taxAmountCents * keptCents order item) +
        share order.subtotalCents
          (order.shippingCostCents *
            keptCents order item) := by
  unfold refundCents
  rw [calculateRefund_eq hPlaced hItem]

theorem keptCents_nonneg
    (hPlaced : Placed order)
    (hItem : item ∈ order.items) :
    0 ≤ keptCents order item := by
  have hLine := (lineCents_pos (hPlaced.line item hItem)).le
  unfold keptCents
  split_ifs
  · exact share_nonneg hPlaced.subtotal_pos
      (mul_nonneg hLine (le_max_right _ _))
  · exact hLine

theorem refundCents_nonneg
    (hPlaced : Placed order)
    (hItem : item ∈ order.items) :
    0 ≤ refundCents order item := by
  have hKept := keptCents_nonneg hPlaced hItem
  have hTax := share_nonneg hPlaced.subtotal_pos
    (mul_nonneg hPlaced.tax hKept)
  have hShipping := share_nonneg hPlaced.subtotal_pos
    (mul_nonneg hPlaced.shipping hKept)
  rw [refundCents_eq hPlaced hItem]
  omega

/- The shares of an amount over all items. -/
theorem mul_sum_shares
    (hPlaced : Placed order)
    {amount : Int}
    (hAmount : 0 ≤ amount) :
    order.subtotalCents *
        (order.items.map (fun item =>
          share order.subtotalCents
            (amount * keptCents order item))).sum =
      amount * (order.items.map (keptCents order)).sum -
        restOf order amount := by
  have hValues :
      ∀ v ∈ order.items.map (fun item =>
        amount * keptCents order item), 0 ≤ v := by
    intro v hMem
    rcases List.mem_map.mp hMem with ⟨item, hItem, rfl⟩
    exact mul_nonneg hAmount (keptCents_nonneg hPlaced hItem)
  have hShares := mul_sum_share hPlaced.subtotal_pos hValues
  rw [List.map_map, List.map_map, List.sum_map_mul_left]
    at hShares
  exact hShares

/- The lines add up to the subtotal before the discount. -/
theorem sum_lines (hPlaced : Placed order) :
    (order.items.map Item.lineCents).sum =
      order.subtotalCents + order.discountAmountCents := by
  have := hPlaced.subtotal
  omega

/- The lines with a discount below the subtotal. -/
theorem mul_sum_discounted
    (hPlaced : Placed order)
    (hLe : order.discountAmountCents ≤ order.subtotalCents) :
    order.subtotalCents *
        (order.items.map (fun item =>
          share order.subtotalCents (item.lineCents *
              (order.subtotalCents -
                order.discountAmountCents)))).sum =
      (order.items.map Item.lineCents).sum *
          (order.subtotalCents - order.discountAmountCents) -
        (order.items.map (fun item =>
          rest order.subtotalCents (item.lineCents *
              (order.subtotalCents -
                order.discountAmountCents)))).sum := by
  have hValues :
      ∀ v ∈ order.items.map (fun item =>
        item.lineCents * (order.subtotalCents -
            order.discountAmountCents)), 0 ≤ v := by
    intro v hMem
    rcases List.mem_map.mp hMem with ⟨item, hItem, rfl⟩
    exact mul_nonneg
      (lineCents_pos (hPlaced.line item hItem)).le
      (by omega)
  have hShares := mul_sum_share hPlaced.subtotal_pos hValues
  rw [List.map_map, List.map_map, List.sum_map_mul_right]
    at hShares
  exact hShares

/- What is left of the subtotal after a second discount. -/
theorem sum_keptCents (hPlaced : Placed order) :
    (order.items.map (keptCents order)).sum =
      order.subtotalCents - lostCents order := by
  have hPos := hPlaced.subtotal_pos
  have hLines := sum_lines hPlaced
  unfold lostCents
  by_cases hDiscount : order.discountAmountCents ≤ 0
  · have hKept : keptCents order = Item.lineCents := by
      funext item
      exact if_neg (by omega)
    simp only [if_pos hDiscount]
    rw [hKept, hLines]
    omega
  · have hKept :
        keptCents order = fun item =>
            share order.subtotalCents (item.lineCents *
                max (order.subtotalCents -
                  order.discountAmountCents) 0) := by
      funext item
      exact if_pos (by omega)
    simp only [if_neg hDiscount]
    rw [hKept]
    by_cases hOver :
        order.subtotalCents < order.discountAmountCents
    · -- The discount leaves nothing of any line.
      have hMax :
          max (order.subtotalCents -
            order.discountAmountCents) 0 = 0 :=
        max_eq_right (by omega)
      have hZero : share order.subtotalCents 0 = 0 := by
        simpa using share_mul_self hPos le_rfl
      simp [if_pos hOver, hMax, hZero]
    · have hMax :
          max (order.subtotalCents -
            order.discountAmountCents) 0 =
              order.subtotalCents -
                order.discountAmountCents :=
        max_eq_left (by omega)
      have hShares := mul_sum_discounted hPlaced (by omega)
      simp only [if_neg hOver, hMax]
      have hExact :
          order.discountAmountCents *
                order.discountAmountCents +
              (order.items.map (fun item =>
                rest order.subtotalCents (item.lineCents *
                    (order.subtotalCents -
                      order.discountAmountCents)))).sum =
            order.subtotalCents * (order.subtotalCents -
                (order.items.map (fun item =>
                  share order.subtotalCents
                    (item.lineCents * (order.subtotalCents -
                        order.discountAmountCents)))).sum) := by
        rw [mul_sub, hShares, hLines]
        ring
      rw [hExact, Int.mul_ediv_cancel_left _ hPos.ne']
      omega

--------
-- The Refund Of A Whole Order
--------

variable {order : Order}

theorem refundSum_eq (hPlaced : Placed order) :
    refundSum order =
      (order.items.map (keptCents order)).sum +
        (order.items.map (fun item =>
          share order.subtotalCents (order.taxAmountCents *
              keptCents order item))).sum +
        (order.items.map (fun item =>
          share order.subtotalCents
            (order.shippingCostCents *
              keptCents order item))).sum := by
  unfold refundSum
  rw [List.map_congr_left
    (fun item hItem => refundCents_eq hPlaced hItem),
    List.sum_map_add, List.sum_map_add]

/- How far the refunds stay below the total. -/
theorem mul_shortfall (hPlaced : Placed order) :
    order.subtotalCents *
        (order.totalAmountCents - refundSum order) =
      order.totalAmountCents * lostCents order +
        (restOf order order.taxAmountCents +
          restOf order order.shippingCostCents) := by
  have hTax := mul_sum_shares hPlaced hPlaced.tax
  have hShipping := mul_sum_shares hPlaced hPlaced.shipping
  rw [refundSum_eq hPlaced, mul_sub, mul_add, mul_add, hTax,
    hShipping, sum_keptCents hPlaced, hPlaced.total]
  ring

/- The shares of tax and shipping leave little over. -/
theorem rests_le (hPlaced : Placed order) :
    restOf order order.taxAmountCents +
        restOf order order.shippingCostCents ≤
      order.items.length * order.subtotalCents := by
  have hRest :
      ∀ amount, 2 * restOf order amount ≤
          order.subtotalCents * order.items.length := by
    intro amount
    have hLe := rest_sum_le hPlaced.subtotal_pos
      (order.items.map (fun item =>
        amount * keptCents order item))
    rwa [List.map_map, List.length_map] at hLe
  have hTax := hRest order.taxAmountCents
  have hShipping := hRest order.shippingCostCents
  rw [mul_comm (order.items.length : Int)]
  omega

/- An order of one line gives back what it kept of it. -/
theorem refundSum_single
    (hPlaced : Placed order)
    (hLength : order.items.length = 1) :
    refundSum order =
      (order.subtotalCents - lostCents order) +
        share order.subtotalCents
          (order.taxAmountCents *
            (order.subtotalCents - lostCents order)) +
        share order.subtotalCents
          (order.shippingCostCents *
            (order.subtotalCents - lostCents order)) := by
  rcases List.length_eq_one_iff.mp hLength with
    ⟨item, hItems⟩
  have hKept := sum_keptCents hPlaced
  rw [refundSum_eq hPlaced]
  simp only [hItems, List.map_cons, List.map_nil,
    List.sum_cons, List.sum_nil, add_zero] at hKept ⊢
  rw [hKept]

/- What is kept of the only line lies within the subtotal. -/
theorem kept_single
    (hPlaced : Placed order)
    (hLength : order.items.length = 1) :
    0 ≤ order.subtotalCents - lostCents order ∧
      0 ≤ lostCents order := by
  rcases List.length_eq_one_iff.mp hLength with
    ⟨item, hItems⟩
  have hItem : item ∈ order.items := by
    simp [hItems]
  have hPos := hPlaced.subtotal_pos
  have hKept := sum_keptCents hPlaced
  have hLine := sum_lines hPlaced
  simp only [hItems, List.map_cons, List.map_nil,
    List.sum_cons, List.sum_nil, add_zero] at hKept hLine
  have hNonneg := keptCents_nonneg hPlaced hItem
  have hLe : keptCents order item ≤ order.subtotalCents := by
    unfold keptCents
    split_ifs with hDiscount
    · have hWhole := share_mul_self hPos hPos.le
      refine le_of_le_of_eq (share_mono hPos ?_ ?_) hWhole
      · exact mul_nonneg
          (lineCents_pos (hPlaced.line item hItem)).le
          (le_max_right _ _)
      · rw [hLine]
        rcases max_cases
          (order.subtotalCents - order.discountAmountCents)
          0 with ⟨hMax, _⟩ | ⟨hMax, _⟩
        · rw [hMax]
          nlinarith
        · rw [hMax]
          nlinarith
    · omega
  omega

theorem refundSum_single_iff
    (hPlaced : Placed order)
    (hLength : order.items.length = 1) :
    refundSum order = order.totalAmountCents ↔
      lostCents order = 0 := by
  have hPos := hPlaced.subtotal_pos
  rcases kept_single hPlaced hLength with ⟨hKept, hLost⟩
  rw [refundSum_single hPlaced hLength, hPlaced.total]
  constructor
  · intro hEq
    have hShare :
        ∀ amount, 0 ≤ amount → share order.subtotalCents
              (amount *
                (order.subtotalCents - lostCents order)) ≤
            amount := by
      intro amount hAmount
      refine le_of_le_of_eq
        (share_mono hPos (mul_nonneg hAmount hKept) ?_)
        (share_mul_self hPos hAmount)
      exact mul_le_mul_of_nonneg_left (by omega) hAmount
    have hTax := hShare _ hPlaced.tax
    have hShipping := hShare _ hPlaced.shipping
    omega
  · intro hZero
    rw [hZero, sub_zero, share_mul_self hPos hPlaced.tax,
      share_mul_self hPos hPlaced.shipping]
    omega

/- Some items cost no more to refund than all of them. -/
theorem refundSum_before
    (hPlaced : Placed order)
    {before after : List Item}
    {item : Item}
    (hItems : order.items = before ++ item :: after) :
    (before.map (refundCents order)).sum +
        refundCents order item ≤
      refundSum order := by
  have hAfter :
      0 ≤ (after.map (refundCents order)).sum := by
    apply List.sum_nonneg
    intro cents hMem
    rcases List.mem_map.mp hMem with ⟨it, hIt, rfl⟩
    exact refundCents_nonneg hPlaced (by simp [hItems, hIt])
  rw [refundSum, hItems, List.map_append, List.sum_append,
    List.map_cons, List.sum_cons]
  omega

/- The bounds on the sum are bounds on the shortfall. -/
theorem bounds_iff (hPlaced : Placed order) :
    (refundSum order ≤ order.totalAmountCents ∧
        order.totalAmountCents - order.items.length ≤
          refundSum order) ↔
      (0 ≤ order.subtotalCents *
          (order.totalAmountCents - refundSum order) ∧
        order.subtotalCents *
            (order.totalAmountCents - refundSum order) ≤
          order.items.length * order.subtotalCents) := by
  have hPos := hPlaced.subtotal_pos
  rw [mul_nonneg_iff_of_pos_left hPos,
    mul_comm (order.items.length : Int),
    mul_le_mul_iff_right₀ hPos]
  omega

theorem refundsAddUp_iff (hPlaced : Placed order) :
    RefundsAddUp order ↔ RefundsFit order := by
  have hBounds := bounds_iff hPlaced
  rw [mul_shortfall hPlaced] at hBounds
  have hDefined :
      ∀ item ∈ order.items, ∃ cents,
          calculateRefundAmountCents order item =
            .ok cents :=
    fun item hItem => ⟨_, calculateRefund_eq hPlaced hItem⟩
  unfold RefundsFit
  by_cases hDiscount : order.discountAmountCents = 0
  · have hLost : lostCents order = 0 := by
      simp [lostCents, hDiscount]
    simp only [if_pos hDiscount]
    rw [hLost, mul_zero, zero_add] at hBounds
    constructor
    · intro hSum
      exact (hBounds.mp ⟨hSum.atMost, hSum.atLeast⟩).1
    · intro hRests
      rcases hBounds.mpr ⟨hRests, rests_le hPlaced⟩ with
        ⟨hMost, hLeast⟩
      exact
        { defined := hDefined
          atMost := hMost
          atLeast := hLeast
          single := fun hLength =>
            (refundSum_single_iff hPlaced hLength).mpr hLost
          accepted := fun _ _ _ hItems =>
            (refundSum_before hPlaced hItems).trans hMost }
  · simp only [if_neg hDiscount]
    constructor
    · intro hSum
      rcases hBounds.mp ⟨hSum.atMost, hSum.atLeast⟩ with
        ⟨hShort, hLong⟩
      refine ⟨hShort, hLong, ?_⟩
      intro hLength
      exact (refundSum_single_iff hPlaced hLength).mp
        (hSum.single hLength)
    · rintro ⟨hShort, hLong, hSingle⟩
      rcases hBounds.mpr ⟨hShort, hLong⟩ with
        ⟨hMost, hLeast⟩
      exact
        { defined := hDefined
          atMost := hMost
          atLeast := hLeast
          single := fun hLength =>
            (refundSum_single_iff hPlaced hLength).mpr
              (hSingle hLength)
          accepted := fun _ _ _ hItems =>
            (refundSum_before hPlaced hItems).trans hMost }

--------
-- Orders Of The Checkout
--------

open Conc

/-
  For every order that a checkout stores, refunding every item
  gives back what the order cost, up to one cent per item,
  exactly when its amounts fit.
-/
theorem refunds_add_up_iff
    {w : Shop}
    {calls : List CheckoutCall}
    {c : Config CheckoutOp.Res CheckoutAnswer Shop
      (Except Error CheckoutResponse)}
    (hReach :
      Reach execCheckout AnyCheckoutStep
        (checkoutRun w calls) c)
    {t : Thread CheckoutOp.Res CheckoutAnswer
      (Except Error CheckoutResponse)}
    (hThread : t ∈ c.threads)
    {id : String}
    {order : Order}
    (hOrder : (id, order) ∈ placements t.trace) :
    RefundsAddUp order ↔ RefundsFit order :=
  refundsAddUp_iff (placed_of_run hReach hThread hOrder)

/- An order of one line is refunded in full. -/
theorem refunds_add_up_one_line :
    ∃ c t order, Reach execCheckout AnyCheckoutStep
          (checkoutRun tenDollarShop
            [ontarioCall [⟨"p1", 2⟩] 2000 "k1"]) c ∧
        t ∈ c.threads ∧
        ("o1", order) ∈ placements t.trace ∧
        RefundsAddUp order := by
  have hRun :
      ((checkoutRun tenDollarShop
        [ontarioCall [⟨"p1", 2⟩] 2000 "k1"]).run execCheckout
          (checkoutTurns 0 1 "o1")).any (fun c =>
            c.threads.any (fun t =>
              (placements t.trace).any (fun placed =>
                placed.1 = "o1" &&
                  decide (RefundsFit placed.2)))) =
        true := by decide
  rcases (Option.any_eq_true _ _).mp hRun with ⟨c, hRun, hEnd⟩
  rcases List.any_eq_true.mp hEnd with ⟨t, hThread, hPlaced⟩
  rcases List.any_eq_true.mp hPlaced with
    ⟨⟨id, order⟩, hMem, hFacts⟩
  simp only [Bool.and_eq_true, decide_eq_true_eq] at hFacts
  rcases hFacts with ⟨rfl, hFit⟩
  have hReach : Reach execCheckout AnyCheckoutStep _ c :=
    Reach.of_run hRun (by decide)
  exact ⟨c, t, order, hReach, hThread, hMem,
    (refunds_add_up_iff hReach hThread hMem).mpr hFit⟩

/-
  Two equal lines: half a cent of tax and of shipping is
  rounded up for both, and the refunds exceed the total by
  two cents.
-/
theorem refunds_exceed_total :
    ∃ c t order, Reach execCheckout AnyCheckoutStep
          (checkoutRun tenDollarShop
            [ontarioCall [⟨"p1", 1⟩, ⟨"p2", 1⟩] 2000 "k1"])
          c ∧
        t ∈ c.threads ∧
        ("o1", order) ∈ placements t.trace ∧
        order.totalAmountCents = 3276 ∧
        refundSum order = 3278 ∧
        ¬ RefundsAddUp order := by
  have hRun :
      ((checkoutRun tenDollarShop
        [ontarioCall [⟨"p1", 1⟩, ⟨"p2", 1⟩] 2000 "k1"]).run
          execCheckout (checkoutTurns 0 2 "o1")).any (fun c =>
            c.threads.any (fun t =>
              (placements t.trace).any (fun placed =>
                placed.1 = "o1" && decide
                    (placed.2.totalAmountCents = 3276 ∧
                      refundSum placed.2 = 3278)))) =
        true := by decide
  rcases (Option.any_eq_true _ _).mp hRun with ⟨c, hRun, hEnd⟩
  rcases List.any_eq_true.mp hEnd with ⟨t, hThread, hPlaced⟩
  rcases List.any_eq_true.mp hPlaced with
    ⟨⟨id, order⟩, hMem, hFacts⟩
  simp only [Bool.and_eq_true, decide_eq_true_eq] at hFacts
  rcases hFacts with ⟨rfl, hTotal, hSum⟩
  refine ⟨c, t, order, Reach.of_run hRun (by decide),
    hThread, hMem, hTotal, hSum, ?_⟩
  intro hAddUp
  have hMost := hAddUp.atMost
  omega

end Orignabase
