import Orignabase.Shipping.Quotes

/-
  The distances behind a quote
  (`ob-handlers/src/shipping_calc/mod.rs`).

  Key definitions include:
    * `Verified`
    * `Located`

  Main results:
    * `quoteSellers_calls`
    * `checkDistance_ok`
    * `shipping_verified_iff`
-/

--------
-- Checks
--------

namespace Orignabase.Shipping

variable {checked : Bool} {env : Env}
variable {req : CalculateShippingRequest}
variable {buyer seller : String}

/- An answer that is accepted where the distance matters. -/
theorem checkDistance_ok
    {speed : String}
    {hasPerishable : Bool}
    {answer : Except String ℚ}
    {distance : Option ℚ}
    (hOk :
      checkDistance env speed hasPerishable answer =
        .ok distance)
    (hMatters : hasPerishable = true ∨ speed = "same_day") :
    ∃ km, answer = .ok km ∧ km ≤ perishableMaxDistanceKm := by
  cases answer with
  | error e =>
    rw [checkDistance] at hOk
    split at hOk
    · cases hOk
    rename_i hSpeed
    rw [if_pos (hMatters.resolve_right hSpeed)] at hOk
    cases hOk
  | ok km =>
    refine ⟨km, rfl, ?_⟩
    rw [checkDistance] at hOk
    split at hOk
    · cases hOk
    rename_i hSameDay
    split at hOk
    · cases hOk
    rename_i hPerishable
    rcases hMatters with hSome | hSpeed
    · exact not_lt.mp (fun hFar =>
        hPerishable ⟨hSome, hFar⟩)
    · exact not_lt.mp (fun hFar =>
        hSameDay ⟨hSpeed, hFar⟩)

/- Restricted items are sent from the buyer's province. -/
theorem checkProvinces_ok
    {province : String}
    {items : List ShippingItem}
    (hOk : checkProvinces province buyer items = .ok ())
    {item : ShippingItem}
    (hMem : item ∈ items)
    (hRestricted :
      item.perishable = true ∨ item.localOnly = true) :
    province = buyer := by
  by_contra hOther
  have hNe : decide (province ≠ buyer) = true :=
    decide_eq_true hOther
  rw [checkProvinces] at hOk
  split at hOk
  · cases hOk
  rename_i hLocal
  split at hOk
  · cases hOk
  rename_i hPerishable
  rcases hRestricted with hSome | hSome
  · refine hPerishable ?_
    rw [hNe, Bool.and_true]
    exact List.any_eq_true.mpr ⟨item, hMem, hSome⟩
  · refine hLocal ?_
    rw [hNe, Bool.and_true]
    exact List.any_eq_true.mpr ⟨item, hMem, hSome⟩

/- The plans and the route requests of the sellers. -/
theorem quoteSellers_calls
    {sellers : List String}
    {sums sums' : Sums}
    (hRun :
      quoteSellers checked env req buyer sellers sums =
        some (.ok sums')) :
    (∀ seller ∈ sellers, ∃ plan?,
      planSeller env req buyer seller
          (itemsOf req.items seller) = .ok plan? ∧
        ∀ plan, plan? = some plan →
          plan.calls ⊆ sums'.calls) ∧
      sums.calls ⊆ sums'.calls ∧
      ∀ call ∈ sums'.calls, call ∈ sums.calls ∨
        ∃ seller ∈ sellers, ∃ plan,
          planSeller env req buyer seller
              (itemsOf req.items seller) = .ok (some plan) ∧
            call ∈ plan.calls := by
  induction sellers generalizing sums with
  | nil =>
    cases hRun
    exact ⟨fun _ hMem => absurd hMem List.not_mem_nil,
      fun _ hMem => hMem, fun _ hMem => .inl hMem⟩
  | cons seller rest ih =>
    cases hPlan :
        planSeller env req buyer seller
          (itemsOf req.items seller) with
    | error e =>
      simp only [quoteSellers, hPlan] at hRun
      cases hRun
    | ok plan? =>
      cases plan? with
      | none =>
        simp only [quoteSellers, hPlan] at hRun
        rcases ih hRun with ⟨hPlans, hSub, hCalls⟩
        refine ⟨?_, hSub, ?_⟩
        · intro other hMem
          rcases List.mem_cons.mp hMem with
            rfl | hLater
          · refine ⟨none, hPlan, ?_⟩
            intro plan hSome
            cases hSome
          · exact hPlans other hLater
        · intro call hMem
          rcases hCalls call hMem with
            hOld | ⟨other, hLater, hOther⟩
          · exact .inl hOld
          · exact .inr ⟨other,
              List.mem_cons_of_mem _ hLater, hOther⟩
      | some plan =>
        simp only [quoteSellers, hPlan, Option.bind_eq_bind,
          Option.bind_eq_some_iff] at hRun
        rcases hRun with
          ⟨⟨cost, breakdown⟩, -, total, -, hRest⟩
        rcases ih hRest with ⟨hPlans, hSub, hCalls⟩
        refine ⟨?_, ?_, ?_⟩
        · intro other hMem
          rcases List.mem_cons.mp hMem with
            rfl | hLater
          · refine ⟨some plan, hPlan, ?_⟩
            intro plan' hSome call hCall
            cases hSome
            exact hSub (List.mem_append.mpr (.inr hCall))
          · exact hPlans other hLater
        · intro call hCall
          exact hSub (List.mem_append.mpr (.inl hCall))
        · intro call hMem
          rcases hCalls call hMem with
            hOld | ⟨other, hLater, hOther⟩
          · rcases List.mem_append.mp hOld with
              hOlder | hOwn
            · exact .inl hOlder
            · exact .inr ⟨seller,
                List.mem_cons_self, plan, hPlan, hOwn⟩
          · exact .inr ⟨other,
              List.mem_cons_of_mem _ hLater, hOther⟩

--------
-- Verified quotes
--------

/- Where an item is sent from. -/
def ShippingItem.point (item : ShippingItem) : Option Point :=
  pointOf item.latitude item.longitude

def CalculateShippingRequest.target
    (req : CalculateShippingRequest) : Option Point :=
  pointOf req.buyerAddress.latitude
    req.buyerAddress.longitude

/- Items whose distance matters. -/
def NeedsDistance
    (req : CalculateShippingRequest)
    (item : ShippingItem) : Prop :=
  item.perishable = true ∨ req.speed = "same_day"

/- Items that must not leave their province. -/
def Restricted (item : ShippingItem) : Prop :=
  item.perishable = true ∨ item.localOnly = true

/-
  For each charged item whose distance matters a distance of
  at most 50 km was obtained for its seller, from its own
  point to the buyer's, and each restricted one is sent from
  the buyer's province.
-/
structure Verified
    (req : CalculateShippingRequest)
    (calls : List RouteCall) : Prop where
  distance :
    ∀ item ∈ req.items, item.chargeable = true →
      NeedsDistance req item →
        ∃ call ∈ calls,
          item.sellerId = some call.seller ∧
            item.point = some call.source ∧
            req.target = some call.target ∧
            ∃ km, call.distance = .ok km ∧
              km ≤ perishableMaxDistanceKm
  provinces :
    ∀ item ∈ req.items, item.chargeable = true →
      Restricted item →
        item.province = req.buyerAddress.state

/- The first charged item of an item's seller. -/
def leading
    (req : CalculateShippingRequest)
    (item : ShippingItem) : Option ShippingItem :=
  item.sellerId.bind (fun seller =>
    firstCharged (itemsOf req.items seller))

/-
  There is a key, and the points of the buyer and of each
  item whose distance matters are there, where the item is at
  the point of its seller's first one.  Restricted items are
  sent from the province of that one.
-/
structure Located
    (env : Env)
    (req : CalculateShippingRequest) : Prop where
  points :
    ∀ item ∈ req.items, item.chargeable = true →
      NeedsDistance req item →
        env.geoKey.isSome = true ∧
          req.target.isSome = true ∧
          item.point.isSome = true ∧
          (leading req item).bind (·.point) = item.point
  provinces :
    ∀ item ∈ req.items, item.chargeable = true →
      Restricted item →
        (leading req item).bind (·.province) = item.province

section

variable {checked : Bool} {env : Env}
variable {req : CalculateShippingRequest}
variable {response : CalculateShippingResponse}
variable {calls : List RouteCall} {item : ShippingItem}

/- The plan for the seller of a charged item. -/
structure PlanOf
    (env : Env)
    (req : CalculateShippingRequest)
    (calls : List RouteCall)
    (buyer : String)
    (item first : ShippingItem)
    (items : List ShippingItem)
    (seller : String)
    (plan : Plan) : Prop where
  buyer_eq : req.buyerAddress.state = some buyer
  seller_eq : item.sellerId = some seller
  leading_eq : leading req item = some first
  mem : item ∈ items
  planned : Planned env req buyer seller first items plan
  calls_sub : plan.calls ⊆ calls

theorem exists_planOf
    (hOk :
      calculateShipping checked env req =
        some (.ok (response, calls)))
    (hMem : item ∈ req.items)
    (hCharged : item.chargeable = true) :
    ∃ buyer first items seller plan,
      PlanOf env req calls buyer item first items seller
        plan := by
  rcases calculateShipping_ok hOk with
    ⟨buyer, sums, hBuyer, hSellers, -, hRun, -, rfl⟩
  rcases Option.ne_none_iff_exists'.mp
      (hSellers item hMem) with ⟨seller, hSeller⟩
  have hGroup :
      seller ∈ env.order (sellerIds req.items) :=
    (env.order_perm _).mem_iff.mpr
      (mem_sellerIds hMem hSeller)
  have hItem :
      item ∈ (itemsOf req.items seller).filter
        (·.chargeable) :=
    List.mem_filter.mpr ⟨List.mem_filter.mpr
      ⟨hMem, decide_eq_true hSeller⟩, hCharged⟩
  rcases (quoteSellers_calls hRun).1 seller hGroup with
    ⟨plan?, hPlan, hCalls⟩
  cases plan? with
  | none =>
    rw [planSeller_none hPlan] at hItem
    exact absurd hItem List.not_mem_nil
  | some plan =>
    rcases planSeller_some hPlan with
      ⟨first, rest, hFilter, hPlanned⟩
    refine ⟨buyer, first, first :: rest, seller, plan,
      hBuyer, hSeller, ?_, ?_, hPlanned, hCalls plan rfl⟩
    · rw [leading, hSeller, Option.bind_some,
        firstCharged, hFilter]
      rfl
    · rw [← hFilter]
      exact hItem

/- A request for a route starts where its seller's items do. -/
theorem call_of_mem
    (hOk :
      calculateShipping checked env req =
        some (.ok (response, calls)))
    {call : RouteCall}
    (hCall : call ∈ calls)
    (hSeller : item.sellerId = some call.seller) :
    env.geoKey.isSome = true ∧ req.target.isSome = true ∧
      (leading req item).bind (·.point) =
        some call.source := by
  rcases calculateShipping_ok hOk with
    ⟨buyer, sums, -, -, -, hRun, -, rfl⟩
  rcases (quoteSellers_calls hRun).2.2 call hCall with
    hNone | ⟨seller, -, plan, hPlan, hMem⟩
  · exact absurd hNone List.not_mem_nil
  rcases planSeller_some hPlan with
    ⟨first, rest, hFilter, hPlanned⟩
  rcases hPlanned.route with ⟨-, -, hCalls⟩ |
      ⟨source, target, hRoute, -, hCalls⟩
  · rw [hCalls] at hMem
    exact absurd hMem List.not_mem_nil
  · rw [hCalls, List.mem_singleton] at hMem
    subst hMem
    rcases routeOf_some hRoute with
      ⟨-, hSource, hTarget, hKey⟩
    refine ⟨hKey, ?_, ?_⟩
    · rw [CalculateShippingRequest.target, hTarget]
      rfl
    · rw [leading, hSeller, Option.bind_some, firstCharged,
        hFilter]
      exact hSource

/- A restricted item's seller sends from the buyer's province. -/
theorem leading_province
    (hOk :
      calculateShipping checked env req =
        some (.ok (response, calls)))
    (hMem : item ∈ req.items)
    (hCharged : item.chargeable = true)
    (hRestricted : Restricted item) :
    (leading req item).bind (·.province) =
      req.buyerAddress.state := by
  rcases exists_planOf hOk hMem hCharged with
    ⟨buyer, first, items, seller, plan, hPlan⟩
  have hSame :=
    checkProvinces_ok hPlan.planned.provinces hPlan.mem
      hRestricted
  rw [hPlan.leading_eq, Option.bind_some,
    hPlan.planned.province_eq, hPlan.buyer_eq, hSame]

/- What is asked where all points and the key are there. -/
theorem exists_call
    (hOk :
      calculateShipping checked env req =
        some (.ok (response, calls)))
    (hMem : item ∈ req.items)
    (hCharged : item.chargeable = true)
    (hNeeds : NeedsDistance req item)
    {source target : Point}
    (hSource :
      (leading req item).bind (·.point) = some source)
    (hTarget : req.target = some target)
    (hKey : env.geoKey.isSome = true) :
    ∃ call ∈ calls, item.sellerId = some call.seller ∧
        call.source = source ∧ call.target = target ∧
        ∃ km, call.distance = .ok km ∧
          km ≤ perishableMaxDistanceKm := by
  rcases exists_planOf hOk hMem hCharged with
    ⟨buyer, first, items, seller, plan, hPlan⟩
  rcases Option.isSome_iff_exists.mp hKey with ⟨key, hSome⟩
  have hMatters :
      items.any (·.perishable) = true ∨
        req.speed = "same_day" := by
    rcases hNeeds with hPerishable | hSpeed
    · exact .inl (List.any_eq_true.mpr
        ⟨item, hPlan.mem, hPerishable⟩)
    · exact .inr hSpeed
  rw [hPlan.leading_eq, Option.bind_some] at hSource
  have hRoute :
      routeOf env req (items.any (·.perishable)) first =
        some (source, target) := by
    rw [ShippingItem.point] at hSource
    rw [CalculateShippingRequest.target] at hTarget
    rw [routeOf, if_pos, hSource, hTarget, hSome]
    rcases hMatters with hPerishable | hSpeed
    · exact .inr (.inr hPerishable)
    · exact .inr (.inl hSpeed)
  rcases hPlan.planned.route with
    ⟨hNone, -⟩ | ⟨source', target', hRoute', hChecked, hCalls⟩
  · rw [hRoute] at hNone
    cases hNone
  · rw [hRoute] at hRoute'
    cases hRoute'
    rcases checkDistance_ok hChecked hMatters with
      ⟨km, hAnswer, hNear⟩
    refine ⟨_, hPlan.calls_sub (hCalls ▸
      List.mem_singleton_self _), hPlan.seller_eq, rfl, rfl,
      km, hAnswer, hNear⟩

end

/-
  A quote that was given is verified if and only if its
  request is located.
-/
theorem shipping_verified_iff
    {checked : Bool}
    {env : Env}
    {req : CalculateShippingRequest}
    {response : CalculateShippingResponse}
    {calls : List RouteCall}
    (hOk :
      calculateShipping checked env req =
        some (.ok (response, calls))) :
    Verified req calls ↔ Located env req := by
  constructor
  · intro hVerified
    refine ⟨?_, ?_⟩
    · intro item hMem hCharged hNeeds
      rcases hVerified.distance item hMem hCharged hNeeds
        with ⟨call, hCall, hSeller, hSource, -⟩
      rcases call_of_mem hOk hCall hSeller with
        ⟨hKey, hTarget, hLeading⟩
      rw [hSource]
      exact ⟨hKey, hTarget, rfl, hLeading⟩
    · intro item hMem hCharged hRestricted
      rw [leading_province hOk hMem hCharged hRestricted,
        hVerified.provinces item hMem hCharged hRestricted]
  · intro hLocated
    refine ⟨?_, ?_⟩
    · intro item hMem hCharged hNeeds
      rcases hLocated.points item hMem hCharged hNeeds with
        ⟨hKey, hTarget, hPoint, hLeading⟩
      rcases Option.isSome_iff_exists.mp hTarget with
        ⟨target, hTarget⟩
      rcases Option.isSome_iff_exists.mp hPoint with
        ⟨source, hPoint⟩
      rcases exists_call hOk hMem hCharged hNeeds
          (hLeading.trans hPoint) hTarget hKey with
        ⟨call, hCall, hSeller, rfl, rfl, hNear⟩
      exact ⟨call, hCall, hSeller, hPoint, hTarget, hNear⟩
    · intro item hMem hCharged hRestricted
      rw [← hLocated.provinces item hMem hCharged
          hRestricted,
        leading_province hOk hMem hCharged hRestricted]

/- Every route has ten kilometres. -/
def tenKilometres : Env where
  authenticated := .ok ()
  sellers := fun _ => some (some ⟨some "ON"⟩)
  order := id
  order_perm := fun _ => .refl _
  geoKey := some "key"
  route := fun _ _ _ => .ok 10000
  showKm := fun _ => ""

/- A perishable item, with or without its coordinates. -/
def cake (address : ShippingAddress) : ShippingItem where
  productId := "cake"
  sellerId := some "baker"
  isPerishable := some true
  sellerAddress := some address

def cakeRequest (address : ShippingAddress) :
    CalculateShippingRequest where
  buyerAddress := ⟨some 43, some (-79), some "ON"⟩
  items := [cake address]

theorem shipping_verified_cake :
    Verified (cakeRequest ⟨some 44, some (-79), some "ON"⟩)
        [⟨"baker", ⟨-79, 44⟩, ⟨-79, 43⟩, .ok 10⟩] ↔
      Located tenKilometres
        (cakeRequest ⟨some 44, some (-79), some "ON"⟩) :=
  have hOk :
      calculateShipping true tenKilometres
          (cakeRequest ⟨some 44, some (-79), some "ON"⟩) =
        some (.ok (⟨true, 699, ⟨[("cake", 699)]⟩⟩,
          [⟨"baker", ⟨-79, 44⟩, ⟨-79, 43⟩, .ok 10⟩])) := by
    decide +kernel
  shipping_verified_iff hOk

/-
  Without the coordinates of its seller a cake is priced by
  province, and no route is asked for.
-/
theorem cake_not_verified :
    calculateShipping true tenKilometres
        (cakeRequest ⟨none, none, some "ON"⟩) =
      some (.ok (⟨true, 899, ⟨[("cake", 899)]⟩⟩, [])) ∧
    ¬ Verified (cakeRequest ⟨none, none, some "ON"⟩) [] := by
  refine ⟨rfl, ?_⟩
  intro hVerified
  rcases hVerified.distance _ List.mem_cons_self rfl
      (.inl rfl) with ⟨call, hCall, -⟩
  exact absurd hCall List.not_mem_nil

end Orignabase.Shipping
