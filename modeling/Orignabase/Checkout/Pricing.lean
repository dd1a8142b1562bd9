import Orignabase.Core.Validate
import Orignabase.Store.Documents

/-
  The amounts of a checkout: coupon discount, shipping and
  tax, and the checks of the delivery address
  (`ob-handlers/src/payments/checkout.rs`).

  Key definitions include:
    * `computeCouponDiscountCents`
    * `platformFeeCents`
    * `calculateShippingCostCents`
    * `calculateTaxCents`
    * `isValidCanadianPostal`
-/

--------
-- Texts
--------

namespace Orignabase

/- Trimming and upper-casing, as the standard library does. -/
structure TextCase where
  trim : String → String
  upper : String → String

namespace TextCase

def normalize (t : TextCase) (text : String) : String :=
  t.upper (t.trim text)

end TextCase

def normalizeCountry (t : TextCase) : String → String :=
  t.normalize

def normalizeProvince (t : TextCase) : String → String :=
  t.normalize

def normalizeCouponCode (t : TextCase) : String → String :=
  t.normalize

def normalizePostalCode (t : TextCase) (code : String) :
    String :=
  t.upper
    (String.ofList (Text.replaceChar ' ' [] code.toList))

def activeShippingCountries : List String :=
  ["CA", "CANADA"]

def isActiveShippingCountry
    (t : TextCase)
    (country : String) : Bool :=
  activeShippingCountries.contains
    (normalizeCountry t country)

def validProvinces : List String :=
  ["AB", "BC", "MB", "NB", "NL", "NS", "NT", "NU", "ON",
    "PE", "QC", "SK", "YT"]

/- Letter, digit, letter, digit, letter, digit. -/
def isValidCanadianPostal (t : TextCase) (code : String) :
    Bool :=
  match (t.upper code).toList with
  | [a, b, c, d, e, f] =>
    a.isAlpha && b.isDigit && c.isAlpha && d.isDigit &&
      e.isAlpha && f.isDigit
  | _ => false

def isValidCouponCode (code : String) : Bool :=
  4 ≤ code.utf8ByteSize && code.utf8ByteSize ≤ 20 &&
    code.toList.all (fun c => c.isUpper || c.isDigit)

--------
-- Discount
--------

/-
  The integers that the code takes from the stored number:
  its thousandfold rounded, and the number cut to an integer.
-/
structure DiscountValue where
  thousandfold : Int
  whole : Int
  deriving DecidableEq, Repr

def minCheckoutTotalCents : Int := 100

/- A percentage is capped at ninety. -/
def computeCouponDiscountCents
    (discountType : String)
    (value : DiscountValue)
    (cartSubtotalCents : Int) : Int :=
  if cartSubtotalCents ≤ minCheckoutTotalCents then 0
  else
    match discountType with
    | "percentage" | "percent" =>
      let millipercent := min value.thousandfold 90000
      let discount :=
        (cartSubtotalCents * millipercent).tdiv 100000
      if cartSubtotalCents - discount <
          minCheckoutTotalCents then
        cartSubtotalCents - minCheckoutTotalCents
      else discount
    | "fixed_amount" | "fixed_cents" =>
      min value.whole
        (cartSubtotalCents - minCheckoutTotalCents)
    | _ => 0

/- The discounted subtotal of a cart is positive. -/
theorem discount_lt
    (discountType : String)
    (value : DiscountValue)
    {cart : Int}
    (hCart : 0 < cart) :
    computeCouponDiscountCents discountType value cart <
      cart := by
  unfold computeCouponDiscountCents minCheckoutTotalCents
  split_ifs with hSmall
  · exact hCart
  · split
    · dsimp only
      split_ifs <;> omega
    · dsimp only
      split_ifs <;> omega
    · omega
    · omega
    · exact hCart

def platformFeeBps : Int := 250

/- The fee on a discounted subtotal. -/
def platformFeeCents (subtotalCents : Int) : Int :=
  (subtotalCents * platformFeeBps).tdiv 10000

/- The accepted difference to the subtotal of the client. -/
def checkoutSubtotalTolerance (actualSubtotalCents : Int) :
    Int :=
  if actualSubtotalCents < 100 then 1 else 200

def subtotalMatchesWithTolerance
    (clientSubtotalCents actualSubtotalCents : Int) : Bool :=
  ((clientSubtotalCents - actualSubtotalCents).natAbs : Int) ≤
    checkoutSubtotalTolerance actualSubtotalCents

--------
-- Shipping And Tax
--------

/- An order line with what decides its shipping. -/
structure ValidatedItem extends Item where
  isPerishable : Bool := false
  isLocalDeliveryOnly : Bool := false
  shipFromProvince : String := ""
  shipFromCountry : String := ""
  deriving DecidableEq, Repr

namespace ValidatedItem

/- The item may not leave the province of its seller. -/
def staysLocal (item : ValidatedItem) : Bool :=
  item.isPerishable || item.isLocalDeliveryOnly

def isCrossProvince
    (item : ValidatedItem)
    (buyerProvince : String) : Bool :=
  item.shipFromProvince ≠ "" &&
    item.shipFromProvince ≠ buyerProvince

def isInternational
    (item : ValidatedItem)
    (t : TextCase) : Bool :=
  let country := t.normalize item.shipFromCountry
  item.shipFromCountry ≠ "" && country ≠ "CA" &&
    country ≠ "CANADA"

end ValidatedItem

def standardShippingCents : Int := 899

def intlShippingBaseCents : Int := 599

def freeShippingThresholdCents : Int := 7500

/- Restricted items stop an order to another province. -/
def checkLocalDelivery (buyerProvince : String) :
    List ValidatedItem → Except Error Unit
  | [] => .ok ()
  | item :: rest =>
    if item.staysLocal &&
        item.isCrossProvince buyerProvince then
      let label :=
        if item.isPerishable then "Perishable items"
        else "Local-delivery-only items"
      .error (.validation
        (label ++ " can only be shipped within the same " ++
          "province (50km local delivery). Seller " ++
          "province: " ++ item.shipFromProvince ++
          ", buyer province: " ++ buyerProvince))
    else checkLocalDelivery buyerProvince rest

def calculateShippingCostCents
    (t : TextCase)
    (subtotalCents : Int)
    (buyerProvince : String)
    (items : List ValidatedItem) : Except Error Int :=
  if items.all (fun item => item.isDigital) then .ok 0
  else
    match checkLocalDelivery buyerProvince items with
    | .error e => .error e
    | .ok _ =>
      if freeShippingThresholdCents ≤ subtotalCents then
        .ok 0
      else if items.any (fun item =>
          item.isInternational t ||
            item.isCrossProvince buyerProvince) then
        .ok intlShippingBaseCents
      else .ok standardShippingCents

theorem shipping_nonneg
    {t : TextCase}
    {subtotal : Int}
    {province : String}
    {items : List ValidatedItem}
    {shipping : Int}
    (hShipping :
      calculateShippingCostCents t subtotal province items =
        .ok shipping) :
    0 ≤ shipping := by
  unfold calculateShippingCostCents at hShipping
  split at hShipping
  · cases hShipping
    decide
  · split at hShipping
    · cases hShipping
    · split_ifs at hShipping <;> cases hShipping <;> decide

/- The combined rate of a province in basis points. -/
def provinceTaxRateBps (province : String) : Int :=
  match province with
  | "ON" => 1300
  | "NB" | "NL" | "NS" | "PE" => 1500
  | "QC" => 1498
  | "BC" => 1200
  | "MB" => 1200
  | "SK" => 1100
  | "AB" | "NT" | "NU" | "YT" => 500
  | _ => 500

theorem taxRate_nonneg (province : String) :
    0 ≤ provinceTaxRateBps province := by
  unfold provinceTaxRateBps
  split <;> decide

def calculateTaxCents
    (taxableBaseCents : Int)
    (province : String) : Int :=
  (taxableBaseCents * provinceTaxRateBps province +
    5000).tdiv 10000

theorem tax_nonneg
    {base : Int}
    (hBase : 0 ≤ base)
    (province : String) :
    0 ≤ calculateTaxCents base province := by
  have hRate := taxRate_nonneg province
  have hProduct := Int.mul_nonneg hBase hRate
  exact Int.tdiv_nonneg (by omega) (by decide)

end Orignabase
