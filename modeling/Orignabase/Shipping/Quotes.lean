import Mathlib.Data.List.Dedup
import Mathlib.Data.Rat.Floor
import Orignabase.Core.Validate
import Orignabase.Lib.Fallible
import Orignabase.Lib.Overflow
import Orignabase.Lib.Table

/-
  Quotes for shipping
  (`ob-handlers/src/shipping_calc/mod.rs`).

  Amounts are in cents and are numbers of 64 bits; distances,
  weights and coordinates are rational numbers.  Sellers and
  answers to route requests come from the environment, and
  with a quote the model keeps the requests it made.

  Key definitions include:
    * `itemize`
    * `calculateTieredItemized`
    * `calculateFallbackItemized`
    * `planSeller`
    * `calculateShipping`
-/

--------
-- Requests
--------

namespace Orignabase.Shipping

structure ShippingAddress where
  latitude : Option ℚ := none
  longitude : Option ℚ := none
  state : Option String := none
  deriving DecidableEq

structure ShippingItem where
  productId : String
  sellerId : Option String := none
  cartItemId : Option String := none
  quantity : ℤ := 1
  weightKg : Option ℚ := none
  lengthCm : Option ℚ := none
  widthCm : Option ℚ := none
  heightCm : Option ℚ := none
  freeShipping : Option Bool := none
  isDigital : Option Bool := none
  isPerishable : Option Bool := none
  isLocalDeliveryOnly : Option Bool := none
  sellerAddress : Option ShippingAddress := none
  shipFromProvince : Option String := none
  deriving DecidableEq

structure CalculateShippingRequest where
  buyerAddress : ShippingAddress
  items : List ShippingItem
  speed : String := "standard"
  subtotalCents : Option ℤ := none
  deriving DecidableEq

structure CalculateShippingResponse where
  success : Bool
  totalCostCents : ℤ
  breakdown : Table ℤ
  deriving DecidableEq

namespace ShippingItem

def perishable (item : ShippingItem) : Bool :=
  item.isPerishable.getD false

def localOnly (item : ShippingItem) : Bool :=
  item.isLocalDeliveryOnly.getD false

def chargeable (item : ShippingItem) : Bool :=
  ! item.freeShipping.getD false && ! item.isDigital.getD false

def latitude (item : ShippingItem) : Option ℚ :=
  item.sellerAddress.bind (·.latitude)

def longitude (item : ShippingItem) : Option ℚ :=
  item.sellerAddress.bind (·.longitude)

/- The province an item is sent from. -/
def province (item : ShippingItem) : Option String :=
  (item.sellerAddress.bind (·.state)).or
    item.shipFromProvince

def identifier (item : ShippingItem) : String :=
  item.cartItemId.getD item.productId

end ShippingItem

--------
-- Tariffs
--------

/- Up to a distance in kilometres, a price in cents. -/
def distanceTiers : List (ℚ × ℤ) :=
  [(5, 499), (15, 699), (50, 899), (150, 1199), (500, 1499),
    (1000, 1799)]

def nationalCeiling : ℤ := 2199

def additionalItemRateBp : ℤ := 35

def perishableMaxDistanceKm : ℚ := 50

def freeShippingThresholdCents : ℤ := 7500

def adjacentProvinces (p : String) : List String :=
  if p = "BC" then ["AB", "YT", "NT"]
  else if p = "AB" then ["BC", "SK", "NT"]
  else if p = "SK" then ["AB", "MB", "NT", "NU"]
  else if p = "MB" then ["SK", "ON", "NU"]
  else if p = "ON" then ["MB", "QC"]
  else if p = "QC" then ["ON", "NB", "NL"]
  else if p = "NB" then ["QC", "NS", "PE"]
  else if p = "NS" then ["NB", "PE"]
  else if p = "PE" then ["NB", "NS"]
  else if p = "NL" then ["QC"]
  else if p = "YT" then ["BC", "NT"]
  else if p = "NT" then ["BC", "AB", "SK", "YT", "NU"]
  else if p = "NU" then ["SK", "MB", "NT"]
  else []

def areAdjacent (p q : String) : Bool :=
  q ∈ adjacentProvinces p

def provinceRegion (p : String) : String :=
  if p ∈ ["BC", "AB"] then "West"
  else if p ∈ ["SK", "MB"] then "Prairies"
  else if p ∈ ["ON", "QC"] then "Central"
  else if p ∈ ["NB", "NS", "PE", "NL"] then "Atlantic"
  else if p ∈ ["YT", "NT", "NU"] then "North"
  else "Unknown"

def areSameRegion (p q : String) : Bool :=
  provinceRegion p ≠ "Unknown" &&
    provinceRegion p = provinceRegion q

def baseCostForDistance (distanceKm : ℚ) : ℤ :=
  ((distanceTiers.find? (fun tier =>
    distanceKm ≤ tier.1)).map (·.2)).getD nationalCeiling

/- One of four rates, by distance. -/
def rateFor
    (distanceKm : ℚ)
    (hyperLocal near regional other : ℤ) : ℤ :=
  if distanceKm ≤ 15 then hyperLocal
  else if distanceKm ≤ 50 then near
  else if distanceKm ≤ 150 then regional
  else other

def getSpeedMultiplierBp
    (speed : String)
    (distanceKm : ℚ) : ℤ :=
  if speed = "express" then rateFor distanceKm 130 150 180 200
  else if speed = "same_day" then
    rateFor distanceKm 200 250 300 350
  else 100

/- The price in cents between two provinces. -/
def fallbackBaseCents (seller buyer : String) : ℤ :=
  if seller = buyer then 899
  else if areAdjacent seller buyer then 1199
  else if areSameRegion seller buyer then 1499
  else nationalCeiling

def fallbackMultiplierBp (speed : String) : ℤ :=
  if speed = "express" then 180
  else if speed = "same_day" then 200
  else 100

def effectiveWeight (item : ShippingItem) : ℚ :=
  let actual := max (item.weightKg.getD (1 / 2)) 0
  let side := fun (length : Option ℚ) => max (length.getD 15) 1
  let volWeight := side item.lengthCm * side item.widthCm *
      side item.heightCm / 5000
  max actual volWeight

/- Hundredths of kilograms over the free weight. -/
def excessCentikgs (weight : ℚ) : ℤ :=
  min ((weight - 5) * 100 + 1 / 2).floor (2 ^ 63 - 1)

--------
-- Costs
--------

section

variable (checked : Bool)

/- `(x + 50) / 100` -/
def hundredth (x : ℤ) : Option ℤ := do
  let sum ← I64.add checked x 50
  some (sum.tdiv 100)

/- `(n * base * rate + 50) / 100` -/
def additionalCents (base n : ℤ) : Option ℤ := do
  let product ← I64.mul checked n base
  let product ← I64.mul checked product additionalItemRateBp
  hundredth checked product

/- The first item pays the full base, any other one a part. -/
def itemBaseCents
    (base : ℤ)
    (first : Bool)
    (qty : ℤ) : Option ℤ :=
  if first then do
    let rest ← I64.sub checked qty 1
    let cents ← additionalCents checked base (max rest 0)
    I64.add checked base cents
  else additionalCents checked base qty

def atSpeed (multiplier cents : ℤ) : Option ℤ := do
  let product ← I64.mul checked cents multiplier
  hundredth checked product

def weightSurchargeCents
    (item : ShippingItem)
    (qty : ℤ) : Option ℤ :=
  if 5 < effectiveWeight item then do
    let product ← I64.mul checked
        (excessCentikgs (effectiveWeight item)) 150
    let product ← I64.mul checked product qty
    hundredth checked product
  else some 0

/- The total of the items and what each of them costs. -/
def itemize
    (cost : Bool → ShippingItem → Option ℤ) :
    Bool → List ShippingItem → ℤ × Table ℤ →
      Option (ℤ × Table ℤ)
  | _, [], sums => some sums
  | first, item :: rest, sums => do
      let cents ← cost first item
      let total ← I64.add checked sums.1 cents
      itemize cost false rest
        (total, sums.2.upsert item.identifier cents)

def tieredCost
    (distanceKm : ℚ)
    (speed : String)
    (first : Bool)
    (item : ShippingItem) : Option ℤ := do
  let qty := max item.quantity 1
  let base ←
    itemBaseCents checked (baseCostForDistance distanceKm)
      first qty
  let surcharge ← weightSurchargeCents checked item qty
  let sum ← I64.add checked base surcharge
  atSpeed checked (getSpeedMultiplierBp speed distanceKm) sum

def calculateTieredItemized
    (distanceKm : ℚ)
    (items : List ShippingItem)
    (speed : String) : Option (ℤ × Table ℤ) :=
  itemize checked (tieredCost checked distanceKm speed) true
    items (0, ⟨[]⟩)

def fallbackCost
    (base multiplier : ℤ)
    (first : Bool)
    (item : ShippingItem) : Option ℤ := do
  let cents ←
    itemBaseCents checked base first (max item.quantity 1)
  atSpeed checked multiplier cents

def calculateFallbackItemized
    (items : List ShippingItem)
    (seller buyer speed : String) : Option (ℤ × Table ℤ) :=
  itemize checked
    (fallbackCost checked (fallbackBaseCents seller buyer)
      (fallbackMultiplierBp speed)) true items (0, ⟨[]⟩)

end

--------
-- Plans
--------

/- A place on the map. -/
structure Point where
  longitude : ℚ
  latitude : ℚ
  deriving DecidableEq

/- `warehouseAddress` of a user. -/
structure Warehouse where
  state : Option String
  deriving DecidableEq

/- A request for a route, and the distance it gave. -/
structure RouteCall where
  seller : String
  source : Point
  target : Point
  distance : Except String ℚ
  deriving DecidableEq

/-
  The user, the sellers, the order of the groups, the answers
  to route requests in metres, and how errors show distances.
-/
structure Env where
  authenticated : Except Error Unit
  sellers : String → Option (Option Warehouse)
  order : List String → List String
  order_perm : ∀ ids, (order ids).Perm ids
  geoKey : Option String
  route : String → Point → Point → Except String ℚ
  showKm : ℚ → String

def geoapifyDistance
    (env : Env)
    (seller : String)
    (source target : Point) : Except String ℚ :=
  (env.route seller source target).map (fun metres =>
    max (metres / 1000) 0)

/- How a group is priced, and the request made for it. -/
structure Plan where
  items : List ShippingItem
  province : String
  distance : Option ℚ
  calls : List RouteCall

def pointOf (latitude longitude : Option ℚ) : Option Point :=
  match latitude, longitude with
  | some latitude, some longitude =>
    some ⟨longitude, latitude⟩
  | _, _ => none

def checkWarehouse
    (env : Env)
    (seller : String) : Except Error Unit :=
  match env.sellers seller with
  | none =>
    .error (.notFound ("Seller " ++ seller ++ " not found"))
  | some none =>
    .error (.validation ("Seller " ++ seller ++
        " has no warehouse configured. Please contact seller to set up warehouse address."))
  | some (some ⟨none⟩) =>
    .error (.validation ("Seller " ++ seller ++
        " warehouse missing province field"))
  | some (some ⟨some _⟩) => .ok ()

def checkProvinces
    (seller buyer : String)
    (items : List ShippingItem) : Except Error Unit :=
  if items.any (·.localOnly) && seller ≠ buyer then
    .error (.validation
      ("Local delivery only: items cannot be shipped from " ++
        seller ++ " to " ++ buyer))
  else if items.any (·.perishable) && seller ≠ buyer then
    .error (.validation
      "Perishable items cannot be shipped across provinces. Please select a local seller or item without perishable products.")
  else .ok ()

/- What is made of the answer to a route request. -/
def checkDistance
    (env : Env)
    (speed : String)
    (hasPerishable : Bool) :
    Except String ℚ → Except Error (Option ℚ)
  | .ok distanceKm =>
    if speed = "same_day" ∧
        perishableMaxDistanceKm < distanceKm then
      .error (.validation
        ("Same Day delivery not available: distance " ++
          env.showKm distanceKm ++ "km exceeds 50km limit"))
    else if hasPerishable = true ∧
        perishableMaxDistanceKm < distanceKm then
      .error (.validation
        ("Perishable items can only be delivered within 50km local radius. Buyer is " ++
          env.showKm distanceKm ++ "km away."))
    else .ok (some distanceKm)
  | .error _ =>
    if speed = "same_day" then
      .error (.validation
        "Same Day delivery temporarily unavailable (location check failed)")
    else if hasPerishable then
      .error (.validation
        "Perishable delivery temporarily unavailable (distance verification failed). Please try again later.")
    else .ok none

/- Where a route request goes from and to, if there is one. -/
def routeOf
    (env : Env)
    (req : CalculateShippingRequest)
    (hasPerishable : Bool)
    (first : ShippingItem) : Option (Point × Point) :=
  if req.speed = "express" ∨ req.speed = "same_day" ∨
      hasPerishable = true then
    match pointOf first.latitude first.longitude,
        pointOf req.buyerAddress.latitude
          req.buyerAddress.longitude, env.geoKey with
    | some source, some target, some _ =>
      some (source, target)
    | _, _, _ => none
  else none

/- The checks of one seller's chargeable items. -/
def planItems
    (env : Env)
    (req : CalculateShippingRequest)
    (buyer seller : String)
    (first : ShippingItem)
    (items : List ShippingItem) : Except Error Plan :=
  match first.province with
  | none =>
    .error (.validation
      "Seller province is required for shipping calculation")
  | some province => do
      checkProvinces province buyer items
      let hasPerishable := items.any (·.perishable)
      match routeOf env req hasPerishable first with
      | none => .ok ⟨items, province, none, []⟩
      | some (source, target) =>
        let answer := geoapifyDistance env seller source target
        let distance ←
          checkDistance env req.speed hasPerishable answer
        .ok ⟨items, province, distance,
          [⟨seller, source, target, answer⟩]⟩

/- The checks of one seller, none if nothing is charged. -/
def planSeller
    (env : Env)
    (req : CalculateShippingRequest)
    (buyer seller : String)
    (items : List ShippingItem) :
    Except Error (Option Plan) := do
  checkWarehouse env seller
  match items.filter (·.chargeable) with
  | [] => .ok none
  | first :: rest =>
    let plan ←
      planItems env req buyer seller first (first :: rest)
    .ok (some plan)

section

variable {env : Env} {req : CalculateShippingRequest}
variable {buyer seller : String} {first : ShippingItem}
variable {items : List ShippingItem} {plan : Plan}

/- What a route request is made for, from where and to where. -/
theorem routeOf_some
    {hasPerishable : Bool}
    {source target : Point}
    (hRoute :
      routeOf env req hasPerishable first =
        some (source, target)) :
    (req.speed = "express" ∨ req.speed = "same_day" ∨
        hasPerishable = true) ∧
      pointOf first.latitude first.longitude = some source ∧
      pointOf req.buyerAddress.latitude
        req.buyerAddress.longitude = some target ∧
      env.geoKey.isSome = true := by
  rw [routeOf] at hRoute
  split at hRoute
  · rename_i hAsked
    split at hRoute
    · rename_i hSource hTarget hKey
      cases hRoute
      rw [hKey]
      exact ⟨hAsked, hSource, hTarget, rfl⟩
    · cases hRoute
  · cases hRoute

/- What is known of a plan. -/
structure Planned
    (env : Env)
    (req : CalculateShippingRequest)
    (buyer seller : String)
    (first : ShippingItem)
    (items : List ShippingItem)
    (plan : Plan) : Prop where
  items_eq : plan.items = items
  province_eq : first.province = some plan.province
  provinces : checkProvinces plan.province buyer items = .ok ()
  route :
    (routeOf env req (items.any (·.perishable)) first = none ∧
      plan.distance = none ∧ plan.calls = []) ∨
    ∃ source target,
      routeOf env req (items.any (·.perishable)) first =
          some (source, target) ∧
        checkDistance env req.speed
            (items.any (·.perishable))
            (geoapifyDistance env seller source target) =
          .ok plan.distance ∧
        plan.calls =
          [⟨seller, source, target,
            geoapifyDistance env seller source target⟩]

theorem planItems_ok
    (hPlan :
      planItems env req buyer seller first items =
        .ok plan) :
    Planned env req buyer seller first items plan := by
  rw [planItems] at hPlan
  cases hProvince : first.province with
  | none =>
    rw [hProvince] at hPlan
    cases hPlan
  | some province =>
    rw [hProvince] at hPlan
    rcases Fallible.of_bind_ok hPlan with
      ⟨_, hChecked, hRoute⟩
    dsimp only at hRoute
    split at hRoute
    · rename_i hNone
      cases hRoute
      exact ⟨rfl, hProvince, hChecked,
        .inl ⟨hNone, rfl, rfl⟩⟩
    · rename_i source target hSome
      rcases Fallible.of_bind_ok hRoute with
        ⟨distance, hDistance, hLast⟩
      cases hLast
      exact ⟨rfl, hProvince, hChecked,
        .inr ⟨source, target, hSome, hDistance, rfl⟩⟩

/- What is charged of a seller's items, and how. -/
theorem planSeller_some
    (hPlan :
      planSeller env req buyer seller items =
        .ok (some plan)) :
    ∃ first rest,
      items.filter (·.chargeable) = first :: rest ∧
        Planned env req buyer seller first (first :: rest)
          plan := by
  rcases Fallible.of_bind_ok hPlan with ⟨_, -, hItems⟩
  split at hItems
  · cases hItems
  · rename_i first rest hCharged
    rcases Fallible.of_bind_ok hItems with
      ⟨plan', hPlan', hLast⟩
    cases hLast
    exact ⟨first, rest, hCharged, planItems_ok hPlan'⟩

theorem planSeller_none
    (hPlan :
      planSeller env req buyer seller items = .ok none) :
    items.filter (·.chargeable) = [] := by
  rcases Fallible.of_bind_ok hPlan with ⟨_, -, hItems⟩
  split at hItems
  · assumption
  · rcases Fallible.of_bind_ok hItems with ⟨_, -, hLast⟩
    cases hLast

end

--------
-- Handler
--------

/- The groups, each a seller and the items. -/
def sellerIds (items : List ShippingItem) : List String :=
  (items.filterMap (·.sellerId)).dedup

def itemsOf
    (items : List ShippingItem)
    (seller : String) : List ShippingItem :=
  items.filter (fun item => item.sellerId = some seller)

/- What the loop over the sellers has summed up. -/
structure Sums where
  total : ℤ := 0
  breakdown : Table ℤ := ⟨[]⟩
  calls : List RouteCall := []

def extend (t more : Table ℤ) : Table ℤ :=
  more.rows.foldl (fun t row => t.upsert row.1 row.2) t

section

variable (checked : Bool) (env : Env)
variable (req : CalculateShippingRequest) (buyer : String)

def pricePlan (plan : Plan) : Option (ℤ × Table ℤ) :=
  match plan.distance with
  | some distanceKm =>
    calculateTieredItemized checked distanceKm plan.items
      req.speed
  | none =>
    calculateFallbackItemized checked plan.items
      plan.province buyer req.speed

def quoteSellers :
    List String → Sums → Option (Except Error Sums)
  | [], sums => some (.ok sums)
  | seller :: rest, sums =>
    match planSeller env req buyer seller
        (itemsOf req.items seller) with
    | .error e => some (.error e)
    | .ok none => quoteSellers rest sums
    | .ok (some plan) => do
        let (cost, breakdown) ←
          pricePlan checked req buyer plan
        let total ← I64.add checked sums.total cost
        quoteSellers rest
          ⟨total, extend sums.breakdown breakdown,
            sums.calls ++ plan.calls⟩

/- The answer to a request, none if an operation overflows. -/
def calculateShipping :
    Option
      (Except Error
        (CalculateShippingResponse × List RouteCall)) :=
  match env.authenticated with
  | .error e => some (.error e)
  | .ok _ =>
    match req.buyerAddress.state with
    | none =>
      some (.error (.validation
        "Buyer province is required for shipping calculation"))
    | some buyer =>
      if req.items.any (fun item => item.sellerId = none)
      then
        some (.error (.validation
          "All items must have a valid seller ID for shipping calculation"))
      else
        (quoteSellers checked env req buyer
          (env.order (sellerIds req.items)) {}).map
          (fun result => result.map (fun sums =>
            (⟨true,
              if req.subtotalCents.any
                  (freeShippingThresholdCents ≤ ·) then 0
              else sums.total,
              sums.breakdown⟩, sums.calls)))

end

/- The order reaches the price of free shipping. -/
def ShipsFree (req : CalculateShippingRequest) : Prop :=
  req.subtotalCents.any (freeShippingThresholdCents ≤ ·) =
    true

instance (req : CalculateShippingRequest) :
    Decidable (ShipsFree req) :=
  inferInstanceAs (Decidable (_ = true))

/- The first item of a seller that is charged. -/
def firstCharged
    (items : List ShippingItem) : Option ShippingItem :=
  (items.filter (·.chargeable)).head?

section

variable {checked : Bool} {env : Env}
variable {req : CalculateShippingRequest}
variable {response : CalculateShippingResponse}
variable {calls : List RouteCall}

/- What is behind an answer. -/
theorem calculateShipping_ok
    (hOk :
      calculateShipping checked env req =
        some (.ok (response, calls))) :
    ∃ buyer sums, req.buyerAddress.state = some buyer ∧
        (∀ item ∈ req.items, item.sellerId ≠ none) ∧
        (∀ checked,
          calculateShipping checked env req = none ↔
            quoteSellers checked env req buyer
              (env.order (sellerIds req.items)) {} = none) ∧
        quoteSellers checked env req buyer
            (env.order (sellerIds req.items)) {} =
          some (.ok sums) ∧
        response =
          ⟨true, if ShipsFree req then 0 else sums.total,
            sums.breakdown⟩ ∧
        calls = sums.calls := by
  simp only [calculateShipping] at hOk ⊢
  cases hUser : env.authenticated with
  | error e =>
    rw [hUser] at hOk
    cases hOk
  | ok user =>
    rw [hUser] at hOk
    cases hBuyer : req.buyerAddress.state with
    | none =>
      rw [hBuyer] at hOk
      cases hOk
    | some buyer =>
      rw [hBuyer] at hOk
      dsimp only at hOk ⊢
      by_cases hSellers :
          req.items.any
            (fun item => item.sellerId = none) = true
      · rw [if_pos hSellers] at hOk
        cases hOk
      · rw [if_neg hSellers] at hOk
        rcases Option.map_eq_some_iff.mp hOk with
          ⟨result, hRun, hResult⟩
        cases result with
        | error e => cases hResult
        | ok sums =>
          cases hResult
          refine ⟨buyer, sums, rfl, ?_, ?_, hRun, rfl, rfl⟩
          · intro item hItem hNone
            exact hSellers (List.any_eq_true.mpr
              ⟨item, hItem, decide_eq_true hNone⟩)
          · intro checked'
            rw [if_neg hSellers, Option.map_eq_none_iff]

/- The sellers are the ones of the items. -/
theorem mem_sellerIds
    {items : List ShippingItem}
    {item : ShippingItem}
    {seller : String}
    (hMem : item ∈ items)
    (hSeller : item.sellerId = some seller) :
    seller ∈ sellerIds items :=
  List.mem_dedup.mpr
    (List.mem_filterMap.mpr ⟨item, hMem, hSeller⟩)

end

end Orignabase.Shipping
