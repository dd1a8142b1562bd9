import Orignabase.Checkout.Placed
import Orignabase.Lib.Overflow
import Orignabase.Lib.Rounding

/-
  The payout records of an order whose items are delivered
  (`ob-handlers/src/cron/mod.rs`), and the amounts of the
  checkout that they are computed from.

  Key definitions include:
    * `sellersTotalCents`
    * `payouts`
    * `Matches`
    * `FeeFits`

  Main results:
    * `payouts_of_fits`
    * `payouts_match_iff`
-/

--------
-- The Records
--------

namespace Orignabase

variable {order : Order}

namespace Payouts

/- A row of `payouts`. -/
structure Payout where
  id : String
  orderId : String
  sellerId : String
  amountCents : ℤ
  platformFeeCents : ℤ
  netAmountCents : ℤ
  status : String := "completed"
  autoCaptured : Bool := true
  deriving DecidableEq, Repr

/- The price of the delivered items by their seller. -/
def sellersTotalCents
    (checked : Bool)
    (totals : Table ℤ) :
    List Item → Option (Table ℤ)
  | [] => some totals
  | item :: rest =>
    if item.status ≠ "delivered" then
      sellersTotalCents checked totals rest
    else
      (I64.addProduct checked
          ((totals.get item.seller).getD 0)
          item.priceCents item.qty).bind fun cents =>
        sellersTotalCents checked
          (totals.upsert item.seller cents) rest

/- Proportional fee of a seller. -/
def feeCents
    (checked : Bool)
    (amountCents platformFeeTotal orderSubtotal : ℤ) :
    Option ℤ :=
  (I64.mul checked amountCents platformFeeTotal).bind
    fun product =>
  (I64.add checked product (orderSubtotal.tdiv 2)).map
    (·.tdiv orderSubtotal)

def payout
    (checked : Bool)
    (order : Order)
    (row : String × ℤ) : Option Payout :=
  (feeCents checked row.2 order.platformFeeTotalCents
      (max order.subtotalCents 1)).bind fun fee =>
  (I64.sub checked row.2 fee).map fun net =>
    { id := order.orderId ++ "_" ++ row.1
      orderId := order.orderId
      sellerId := row.1
      amountCents := row.2
      platformFeeCents := fee
      netAmountCents := net }

/-
  The records that are written for an order; `none` when the
  computation overflows in a build that checks it.
-/
def payouts (checked : Bool) (order : Order) :
    Option (List Payout) :=
  (sellersTotalCents checked ⟨[]⟩ order.items).bind
    fun totals => totals.rows.mapM (payout checked order)

--------
-- What Is Promised
--------

/- The item as it was sold, but delivered. -/
structure ItemDelivered (sold item : Item) : Prop where
  status : item.status = "delivered"
  seller : item.seller = sold.seller
  price : item.priceCents = sold.priceCents
  quantity : item.quantity = sold.quantity

/- The order with the amounts it had, and all delivered. -/
structure Delivered (sold order : Order) : Prop where
  subtotal : order.subtotalCents = sold.subtotalCents
  discount :
    order.discountAmountCents = sold.discountAmountCents
  fee :
    order.platformFeeTotalCents = sold.platformFeeTotalCents
  items : List.Forall₂ ItemDelivered sold.items order.items

/- Mark every item as delivered. -/
def deliver (order : Order) : Order :=
  { order with
    items := order.items.map (fun item =>
      { item with status := "delivered" }) }

theorem delivered_deliver (order : Order) :
    Delivered order (deliver order) where
  subtotal := rfl
  discount := rfl
  fee := rfl
  items := by
    apply List.forall₂_map_right_iff.mpr
    apply List.forall₂_same.mpr
    intro item _
    exact ⟨rfl, rfl, rfl, rfl⟩

/-
  The records agree with the amounts of the order.  There is
  one for each seller, so that their number is that of the
  sellers.
-/
structure Agrees (order : Order) (ps : List Payout) :
    Prop where
  distinct : (ps.map (·.sellerId)).Nodup
  sellers :
    ∀ seller,
      seller ∈ ps.map (·.sellerId) ↔
        seller ∈ order.items.map Item.seller
  net :
    ∀ p ∈ ps,
      p.netAmountCents = p.amountCents - p.platformFeeCents
  fee :
    ∀ p ∈ ps,
      0 ≤ p.platformFeeCents ∧
        p.platformFeeCents ≤ p.amountCents
  fees :
    ((ps.map (·.platformFeeCents)).sum -
        order.platformFeeTotalCents).natAbs ≤ ps.length
  amounts :
    (ps.map (·.amountCents)).sum - order.discountAmountCents =
      order.subtotalCents

/- No overflow, and records that agree with the order. -/
structure Matches (order : Order) : Prop where
  noOverflow : payouts true order ≠ none
  agrees :
    ∀ checked ps, payouts checked order = some ps →
      Agrees order ps

/- The price of the items before the discount. -/
def rawCents (order : Order) : ℤ :=
  order.subtotalCents + order.discountAmountCents

/-
  The product of the price and the fee is a number of 64
  bits, and the share of the discount in the fee, rounded,
  is at most one cent.
-/
structure FeeFits (order : Order) : Prop where
  raw : rawCents order < 2 ^ 63
  product :
    rawCents order * order.platformFeeTotalCents +
        order.subtotalCents / 2 < 2 ^ 63
  discount_low :
    -order.subtotalCents ≤
      order.discountAmountCents *
          order.platformFeeTotalCents +
        order.subtotalCents / 2
  discount_high :
    order.discountAmountCents * order.platformFeeTotalCents +
        order.subtotalCents / 2 <
      2 * order.subtotalCents

instance (order : Order) : Decidable (FeeFits order) :=
  decidable_of_iff (rawCents order < 2 ^ 63 ∧
      rawCents order * order.platformFeeTotalCents +
          order.subtotalCents / 2 < 2 ^ 63 ∧
      -order.subtotalCents ≤ order.discountAmountCents *
              order.platformFeeTotalCents +
            order.subtotalCents / 2 ∧
      order.discountAmountCents *
            order.platformFeeTotalCents +
          order.subtotalCents / 2 <
        2 * order.subtotalCents)
    ⟨fun ⟨hRaw, hProduct, hLow, hHigh⟩ =>
      ⟨hRaw, hProduct, hLow, hHigh⟩,
    fun ⟨hRaw, hProduct, hLow, hHigh⟩ =>
      ⟨hRaw, hProduct, hLow, hHigh⟩⟩

--------
-- Sums Of One Seller
--------

variable {seller : String} {items : List Item}

/- What is left of an order for its records. -/
structure OneSeller (seller : String) (order : Order) :
    Prop where
  nonempty : order.items ≠ []
  delivered : ∀ item ∈ order.items, item.status = "delivered"
  seller : ∀ item ∈ order.items, item.seller = seller
  price : ∀ item ∈ order.items, 0 ≤ item.lineCents
  raw : (order.items.map Item.lineCents).sum = rawCents order
  subtotal_pos : 0 < order.subtotalCents
  fee :
    order.platformFeeTotalCents =
      platformFeeCents order.subtotalCents

theorem lineCents_delivered
    {sold : List Item}
    (hItems : List.Forall₂ ItemDelivered sold items) :
    items.map Item.lineCents = sold.map Item.lineCents := by
  induction hItems with
  | nil => rfl
  | cons hHead _ ih =>
    rw [List.map_cons, List.map_cons, ih]
    congr 1
    rw [Item.lineCents, Item.lineCents, Item.qty, Item.qty,
      hHead.price, hHead.quantity]

/- An order of a checkout, once it is delivered. -/
theorem oneSeller_of_delivered
    {sold : Order}
    (hPlaced : Placed sold)
    (hSeller : ∀ item ∈ sold.items, item.seller = seller)
    (hDelivered : Delivered sold order) :
    OneSeller seller order := by
  have hEach :
      ∀ item ∈ order.items,
        ∃ old ∈ sold.items, ItemDelivered old item := by
    intro item hItem
    rcases List.mem_iff_getElem.mp hItem with ⟨i, hI, rfl⟩
    have hOld := hDelivered.items.length_eq ▸ hI
    exact ⟨_, List.getElem_mem hOld,
      hDelivered.items.get hOld hI⟩
  have hLines := lineCents_delivered hDelivered.items
  refine
    { nonempty := ?_
      delivered := ?_
      seller := ?_
      price := ?_
      raw := ?_
      subtotal_pos := ?_
      fee := ?_ }
  · intro hEmpty
    have hItems := hDelivered.items
    rw [hEmpty] at hItems
    exact hPlaced.nonempty
      (List.forall₂_nil_right_iff.mp hItems)
  · intro item hItem
    rcases hEach item hItem with ⟨_, _, hOld⟩
    exact hOld.status
  · intro item hItem
    rcases hEach item hItem with ⟨old, hMem, hOld⟩
    rw [hOld.seller]
    exact hSeller old hMem
  · intro item hItem
    rcases hEach item hItem with ⟨old, hMem, hOld⟩
    rw [Item.lineCents, Item.qty, hOld.price, hOld.quantity]
    exact (lineCents_pos (hPlaced.line old hMem)).le
  · rw [hLines, rawCents, hDelivered.subtotal,
      hDelivered.discount, hPlaced.subtotal]
    omega
  · rw [hDelivered.subtotal]
    exact hPlaced.subtotal_pos
  · rw [hDelivered.fee, hDelivered.subtotal]
    exact hPlaced.platformFee

/- The factors of the price of an item. -/
def factors (item : Item) : ℤ × ℤ :=
  (item.priceCents, item.qty)

theorem products_factors (items : List Item) :
    I64.products (items.map factors) =
      (items.map Item.lineCents).sum := by
  rw [I64.products, List.map_map]
  rfl

/- The only row takes the sum. -/
theorem sellersTotal_singleton
    (hDelivered : ∀ item ∈ items, item.status = "delivered")
    (hSeller : ∀ item ∈ items, item.seller = seller)
    (checked : Bool)
    (acc : ℤ) :
    sellersTotalCents checked ⟨[(seller, acc)]⟩ items =
      (I64.addProducts checked acc (items.map factors)).map
        fun cents => ⟨[(seller, cents)]⟩ := by
  induction items generalizing acc with
  | nil => rfl
  | cons item rest ih =>
    have hStatus := hDelivered item List.mem_cons_self
    have hHead := hSeller item List.mem_cons_self
    have hGet :
        (Table.get ⟨[(seller, acc)]⟩ seller).getD 0 =
          acc := by
      simp [Table.get]
    have hUpsert (cents : ℤ) :
        Table.upsert ⟨[(seller, acc)]⟩ seller cents =
          ⟨[(seller, cents)]⟩ := by
      simp [Table.upsert, Table.get, Table.modify]
    rw [sellersTotalCents, if_neg (not_not.mpr hStatus),
      hHead, hGet, List.map_cons, I64.addProducts,
      Option.map_bind]
    congr 1
    funext cents
    rw [hUpsert]
    exact ih (fun it hIt =>
        hDelivered it (List.mem_cons_of_mem _ hIt))
      (fun it hIt =>
        hSeller it (List.mem_cons_of_mem _ hIt)) cents

theorem sellersTotal_eq
    (hOne : OneSeller seller order)
    (checked : Bool) :
    sellersTotalCents checked ⟨[]⟩ order.items =
      (I64.addProducts checked 0
        (order.items.map factors)).map
        fun cents => ⟨[(seller, cents)]⟩ := by
  have hNonempty := hOne.nonempty
  have hDelivered := hOne.delivered
  have hSeller := hOne.seller
  generalize order.items = items at *
  cases items with
  | nil => exact absurd rfl hNonempty
  | cons item rest =>
    have hStatus := hDelivered item List.mem_cons_self
    have hHead := hSeller item List.mem_cons_self
    rw [sellersTotalCents, if_neg (not_not.mpr hStatus),
      hHead, List.map_cons, I64.addProducts,
      Option.map_bind]
    congr 1
    funext cents
    exact sellersTotal_singleton (fun it hIt =>
        hDelivered it (List.mem_cons_of_mem _ hIt))
      (fun it hIt =>
        hSeller it (List.mem_cons_of_mem _ hIt)) checked
      cents

end Payouts

--------
-- The Fee
--------

namespace Payouts

section

variable {amount total subtotal : ℤ}

theorem feeCents_of_lt
    (hProduct : 0 ≤ amount * total)
    (hSubtotal : 0 < subtotal)
    (hLt : amount * total + subtotal / 2 < 2 ^ 63)
    (checked : Bool) :
    feeCents checked amount total subtotal =
      some (Rounding.share subtotal (amount * total)) := by
  have hHalf : subtotal.tdiv 2 = subtotal / 2 :=
    Int.tdiv_eq_ediv_of_nonneg hSubtotal.le
  have hMul : I64.Fits (amount * total) :=
    (I64.fits_iff_of_nonneg hProduct).mpr (by omega)
  have hAdd : I64.Fits (amount * total + subtotal / 2) :=
    (I64.fits_iff_of_nonneg (by omega)).mpr hLt
  rw [feeCents, I64.mul, I64.result_of_fits hMul,
    Option.bind_some, Rounding.share, hHalf, I64.add,
    I64.result_of_fits hAdd, Option.map_some]

theorem feeCents_of_far
    (hSubtotal : 0 < subtotal)
    (hFar : 2 ^ 63 ≤ amount * total + subtotal / 2) :
    feeCents true amount total subtotal = none := by
  have hHalf : subtotal.tdiv 2 = subtotal / 2 :=
    Int.tdiv_eq_ediv_of_nonneg hSubtotal.le
  by_cases hMul : I64.Fits (amount * total)
  · have hAdd : ¬ I64.Fits (amount * total + subtotal / 2) := by
      rw [I64.fits_iff_of_nonneg (by omega)]
      omega
    rw [feeCents, I64.mul, I64.result_of_fits hMul,
      Option.bind_some, hHalf, I64.add,
      I64.result_eq_none_iff.mpr hAdd, Option.map_none]
  · rw [feeCents, I64.mul, I64.result_eq_none_iff.mpr hMul,
      Option.bind_none]

end

section

variable {seller : String} {order : Order}

/- The fee of an order is a part of its subtotal. -/
theorem fee_bounds (hOne : OneSeller seller order) :
    0 ≤ order.platformFeeTotalCents ∧
      order.platformFeeTotalCents ≤ order.subtotalCents := by
  have hPos := hOne.subtotal_pos
  rw [hOne.fee, platformFeeCents, platformFeeBps,
    Int.tdiv_eq_ediv_of_nonneg (by omega)]
  omega

theorem factors_nonneg (hOne : OneSeller seller order) :
    ∀ p ∈ order.items.map factors, 0 ≤ p.1 * p.2 := by
  intro p hP
  rcases List.mem_map.mp hP with ⟨item, hItem, rfl⟩
  exact hOne.price item hItem

theorem raw_nonneg (hOne : OneSeller seller order) :
    0 ≤ rawCents order := by
  rw [← hOne.raw, ← products_factors]
  exact I64.products_nonneg (factors_nonneg hOne)

/- The fee that the record of the only seller takes. -/
def onlyFee (order : Order) : ℤ :=
  Rounding.share order.subtotalCents
    (rawCents order * order.platformFeeTotalCents)

theorem product_nonneg (hOne : OneSeller seller order) :
    0 ≤ rawCents order * order.platformFeeTotalCents :=
  Int.mul_nonneg (raw_nonneg hOne) (fee_bounds hOne).1

theorem onlyFee_bounds (hOne : OneSeller seller order) :
    0 ≤ onlyFee order ∧ onlyFee order ≤ rawCents order := by
  have hPos := hOne.subtotal_pos
  have hProduct := product_nonneg hOne
  refine ⟨Rounding.share_nonneg hPos hProduct, ?_⟩
  apply Rounding.share_le_of_le_mul hPos hProduct
  exact Int.mul_le_mul_of_nonneg_left (fee_bounds hOne).2
    (raw_nonneg hOne)

/- Beyond the fee of the order the discount takes its own. -/
theorem onlyFee_near_iff (hOne : OneSeller seller order) :
    (onlyFee order -
          order.platformFeeTotalCents).natAbs ≤ 1 ↔
      -order.subtotalCents ≤ order.discountAmountCents *
              order.platformFeeTotalCents +
            order.subtotalCents / 2 ∧
        order.discountAmountCents *
              order.platformFeeTotalCents +
            order.subtotalCents / 2 <
          2 * order.subtotalCents := by
  have hSplit :
      rawCents order * order.platformFeeTotalCents -
          order.platformFeeTotalCents * order.subtotalCents =
        order.discountAmountCents *
          order.platformFeeTotalCents := by
    rw [rawCents, Int.add_mul,
      Int.mul_comm order.subtotalCents]
    omega
  have hNear := Rounding.share_near_iff hOne.subtotal_pos
      (product_nonneg hOne) order.platformFeeTotalCents
  rwa [hSplit] at hNear

/- The record of the only seller. -/
def onlyPayout (seller : String) (order : Order) : Payout where
  id := order.orderId ++ "_" ++ seller
  orderId := order.orderId
  sellerId := seller
  amountCents := rawCents order
  platformFeeCents := onlyFee order
  netAmountCents := rawCents order - onlyFee order

/- The price of all items, when it can be computed. -/
theorem totals_of_lt
    (hOne : OneSeller seller order)
    (hRaw : rawCents order < 2 ^ 63)
    (checked : Bool) :
    sellersTotalCents checked ⟨[]⟩ order.items =
      some ⟨[(seller, rawCents order)]⟩ := by
  have hSum := (products_factors order.items).trans hOne.raw
  rw [sellersTotal_eq hOne,
    I64.addProducts_of_lt (Int.le_refl 0)
      (factors_nonneg hOne) (by omega) checked,
    Option.map_some, hSum, Int.zero_add]

theorem payouts_of_fits
    (hOne : OneSeller seller order)
    (hRaw : rawCents order < 2 ^ 63)
    (hProduct :
      rawCents order * order.platformFeeTotalCents +
          order.subtotalCents / 2 < 2 ^ 63)
    (checked : Bool) :
    payouts checked order = some [onlyPayout seller order] := by
  have hPos := hOne.subtotal_pos
  have hOnly := onlyFee_bounds hOne
  have hNet : I64.Fits (rawCents order - onlyFee order) :=
    (I64.fits_iff_of_nonneg (by omega)).mpr (by omega)
  have hPayout :
      payout checked order (seller, rawCents order) =
        some (onlyPayout seller order) := by
    rw [payout, Int.max_eq_left (by omega),
      feeCents_of_lt (product_nonneg hOne) hPos hProduct
        checked,
      Option.bind_some]
    change (I64.sub checked (rawCents order)
      (onlyFee order)).map _ = _
    rw [I64.sub, I64.result_of_fits hNet]
    rfl
  rw [payouts, totals_of_lt hOne hRaw checked,
    Option.bind_some, List.mapM_cons, hPayout]
  rfl

/- The computation overflows in no other case. -/
theorem payouts_ne_none_iff (hOne : OneSeller seller order) :
    payouts true order ≠ none ↔ rawCents order < 2 ^ 63 ∧
        rawCents order * order.platformFeeTotalCents +
            order.subtotalCents / 2 < 2 ^ 63 := by
  constructor
  · intro hSome
    have hRaw : rawCents order < 2 ^ 63 := by
      by_contra hFar
      have hSum :=
        (products_factors order.items).trans hOne.raw
      have hNone :=
        (I64.addProducts_eq_none_iff (Int.le_refl 0)
          (by decide) (factors_nonneg hOne)).mpr (by omega)
      apply hSome
      rw [payouts, sellersTotal_eq hOne, hNone]
      rfl
    refine ⟨hRaw, ?_⟩
    by_contra hFar
    have hPos := hOne.subtotal_pos
    have hNone :
        feeCents true (rawCents order)
            order.platformFeeTotalCents
            order.subtotalCents = none :=
      feeCents_of_far hPos (by omega)
    apply hSome
    rw [payouts, totals_of_lt hOne hRaw, Option.bind_some,
      List.mapM_cons, payout, Int.max_eq_left (by omega),
      hNone]
    rfl
  · rintro ⟨hRaw, hProduct⟩
    rw [payouts_of_fits hOne hRaw hProduct]
    exact Option.some_ne_none _

/- The record agrees when the fees do. -/
theorem agrees_iff (hOne : OneSeller seller order) :
    Agrees order [onlyPayout seller order] ↔
      (onlyFee order -
        order.platformFeeTotalCents).natAbs ≤ 1 := by
  have hSum :
      ([onlyPayout seller order].map
          (·.platformFeeCents)).sum = onlyFee order :=
    Int.add_zero _
  constructor
  · intro hAgrees
    have hFees := hAgrees.fees
    rwa [hSum] at hFees
  · intro hNear
    refine
      { distinct := List.nodup_singleton _
        sellers := ?_
        net := ?_
        fee := ?_
        fees := ?_
        amounts := ?_ }
    · intro other
      rw [List.map_singleton, List.mem_singleton]
      constructor
      · rintro rfl
        rcases List.exists_mem_of_ne_nil _ hOne.nonempty with
          ⟨item, hItem⟩
        exact List.mem_map.mpr
          ⟨item, hItem, hOne.seller item hItem⟩
      · intro hMem
        rcases List.mem_map.mp hMem with ⟨item, hItem, rfl⟩
        exact hOne.seller item hItem
    · intro p hP
      rw [List.mem_singleton.mp hP]
      rfl
    · intro p hP
      rw [List.mem_singleton.mp hP]
      exact onlyFee_bounds hOne
    · rw [hSum]
      exact hNear
    · change rawCents order + 0 - _ = _
      rw [rawCents]
      omega

theorem matches_iff (hOne : OneSeller seller order) :
    Matches order ↔ FeeFits order := by
  have hNear := onlyFee_near_iff hOne
  constructor
  · intro hMatches
    rcases (payouts_ne_none_iff hOne).mp
      hMatches.noOverflow with ⟨hRaw, hProduct⟩
    have hAgrees := hMatches.agrees true _
      (payouts_of_fits hOne hRaw hProduct true)
    rcases hNear.mp ((agrees_iff hOne).mp hAgrees) with
      ⟨hLow, hHigh⟩
    exact ⟨hRaw, hProduct, hLow, hHigh⟩
  · intro hFits
    refine ⟨(payouts_ne_none_iff hOne).mpr
        ⟨hFits.raw, hFits.product⟩, ?_⟩
    intro checked ps hPayouts
    rw [payouts_of_fits hOne hFits.raw hFits.product checked]
      at hPayouts
    cases hPayouts
    exact (agrees_iff hOne).mpr
      (hNear.mpr ⟨hFits.discount_low, hFits.discount_high⟩)

end

/- The condition only speaks of the amounts. -/
theorem feeFits_iff_of_delivered
    {sold : Order}
    (hDelivered : Delivered sold order) :
    FeeFits order ↔ FeeFits sold := by
  have hRaw : rawCents order = rawCents sold := by
    rw [rawCents, rawCents, hDelivered.subtotal,
      hDelivered.discount]
  constructor
  · rintro ⟨hSum, hProduct, hLow, hHigh⟩
    rw [hRaw] at hSum hProduct
    rw [hDelivered.fee, hDelivered.subtotal] at hProduct
    rw [hDelivered.fee, hDelivered.subtotal,
      hDelivered.discount] at hLow hHigh
    exact ⟨hSum, hProduct, hLow, hHigh⟩
  · rintro ⟨hSum, hProduct, hLow, hHigh⟩
    rw [← hRaw] at hSum hProduct
    rw [← hDelivered.fee, ← hDelivered.subtotal] at hProduct
    rw [← hDelivered.fee, ← hDelivered.subtotal,
      ← hDelivered.discount] at hLow hHigh
    exact ⟨hSum, hProduct, hLow, hHigh⟩

--------
-- Orders Of The Checkout
--------

open Conc

/-
  For every order that a checkout stores, once its items are
  delivered, the payout records match the amounts of the
  order exactly when the fee fits.
-/
theorem payouts_match_iff
    {w : Shop}
    {calls : List CheckoutCall}
    {c : Config CheckoutOp.Res CheckoutAnswer Shop
      (Except Error CheckoutResponse)}
    (hReach :
      Reach execCheckout AnyCheckoutStep
        (checkoutRun w calls) c)
    {t : Thread CheckoutOp.Res CheckoutAnswer
      (Except Error CheckoutResponse)}
    (hThread : t ∈ c.threads)
    {id : String}
    {sold order : Order}
    (hOrder : (id, sold) ∈ placements t.trace)
    (hDelivered : Delivered sold order) :
    Matches order ↔ FeeFits sold := by
  rcases seller_of_run hReach hThread hOrder with
    ⟨seller, hSeller⟩
  have hPlaced := placed_of_run hReach hThread hOrder
  rw [← feeFits_iff_of_delivered hDelivered]
  exact matches_iff
    (oneSeller_of_delivered hPlaced hSeller hDelivered)

/- An order of twenty dollars without a coupon. -/
theorem payouts_match_twenty_dollars :
    ∃ c t order, Reach execCheckout AnyCheckoutStep
          (checkoutRun tenDollarShop
            [ontarioCall [⟨"p1", 2⟩] 2000 "k1"]) c ∧
        t ∈ c.threads ∧
        ("o1", order) ∈ placements t.trace ∧
        Matches (deliver order) := by
  have hRun :
      ((checkoutRun tenDollarShop
        [ontarioCall [⟨"p1", 2⟩] 2000 "k1"]).run execCheckout
          (checkoutTurns 0 1 "o1")).any (fun c =>
            c.threads.any (fun t =>
              (placements t.trace).any (fun placed =>
                placed.1 = "o1" &&
                  decide (FeeFits placed.2)))) =
        true := by decide
  rcases (Option.any_eq_true _ _).mp hRun with ⟨c, hRun, hEnd⟩
  rcases List.any_eq_true.mp hEnd with ⟨t, hThread, hPlaced⟩
  rcases List.any_eq_true.mp hPlaced with
    ⟨⟨id, order⟩, hMem, hFacts⟩
  simp only [Bool.and_eq_true, decide_eq_true_eq] at hFacts
  rcases hFacts with ⟨rfl, hFits⟩
  have hReach : Reach execCheckout AnyCheckoutStep _ c :=
    Reach.of_run hRun (by decide)
  exact ⟨c, t, order, hReach, hThread, hMem,
    (payouts_match_iff hReach hThread hMem
      (delivered_deliver order)).mpr hFits⟩

/- The shop with a coupon of ninety percent. -/
def ninetyPercentShop : Shop :=
  { tenDollarShop with
    coupons := ⟨[("SAVE90",
          { code := "SAVE90"
            isActive := true
            couponType := some "percentage"
            discountValue := ⟨90000, 90⟩ })]⟩ }

def ninetyPercentCall : CheckoutCall :=
  let call := ontarioCall [⟨"p1", 2⟩] 200 "k1"
  { call with
    req := { call.req with couponCode := some "SAVE90" } }

/-
  Of twenty dollars the buyer pays two, and the fee is five
  cents.  The record takes fifty.
-/
theorem tenfold_fee_recorded :
    ∃ c t order, Reach execCheckout AnyCheckoutStep
          (checkoutRun ninetyPercentShop [ninetyPercentCall])
          c ∧
        t ∈ c.threads ∧
        ("o1", order) ∈ placements t.trace ∧
        Delivered order (deliver order) ∧
        order.subtotalCents = 200 ∧
        order.platformFeeTotalCents = 5 ∧
        payouts true (deliver order) = some
            [{ id := "o1_s1"
               orderId := "o1"
               sellerId := "s1"
               amountCents := 2000
               platformFeeCents := 50
               netAmountCents := 1950 }] ∧
        ¬ Matches (deliver order) := by
  have hRun :
      ((checkoutRun ninetyPercentShop
        [ninetyPercentCall]).run execCheckout
          (checkoutTurns 0 4 "o1")).any (fun c =>
            c.threads.any (fun t =>
              (placements t.trace).any (fun placed =>
                placed.1 = "o1" && decide
                    (placed.2.subtotalCents = 200 ∧
                      placed.2.platformFeeTotalCents = 5 ∧
                      payouts true (deliver placed.2) = some
                          [{ id := "o1_s1"
                             orderId := "o1"
                             sellerId := "s1"
                             amountCents := 2000
                             platformFeeCents := 50
                             netAmountCents := 1950 }])))) =
        true := by decide
  rcases (Option.any_eq_true _ _).mp hRun with ⟨c, hRun, hEnd⟩
  rcases List.any_eq_true.mp hEnd with ⟨t, hThread, hPlaced⟩
  rcases List.any_eq_true.mp hPlaced with
    ⟨⟨id, order⟩, hMem, hFacts⟩
  simp only [Bool.and_eq_true, decide_eq_true_eq] at hFacts
  rcases hFacts with ⟨rfl, hSubtotal, hFee, hPayouts⟩
  refine ⟨c, t, order, Reach.of_run hRun (by decide),
    hThread, hMem, delivered_deliver order, hSubtotal, hFee,
    hPayouts, ?_⟩
  intro hMatches
  have hFees := (hMatches.agrees true _ hPayouts).fees
  change (50 + 0 - order.platformFeeTotalCents).natAbs ≤ 1
    at hFees
  rw [hFee] at hFees
  exact absurd hFees (by decide)

end Payouts

end Orignabase
