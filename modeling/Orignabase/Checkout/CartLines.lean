import Orignabase.Checkout.Placed
import Orignabase.Lib.Overflow
import Orignabase.Lib.Replies

/-
  How the lines of a cart are priced.

  Source: `create_checkout_session` in
  `crates/ob-handlers/src/payments/checkout.rs`, its loop over
  the cart and the amounts it sends to Stripe.

  The product of a line is the first row read for the cart
  whose id ends with the id of the line, and the subtotal is a
  sum of products of 64-bit numbers.

  Key definitions include:
    * `validateLines`
    * `lineItems`
    * `PricedAsOwn`
    * `Separable`

  Main results:
    * `findRow_eq_own_iff`
    * `priced_as_own_iff`
-/

--------
-- The Loop over the Cart
--------

namespace Orignabase.CartLines

open Conc

/- The rows that are read for a cart, from one table. -/
def loaded
    (products : Table Product)
    (items : List CartItem) : List (String × Product) :=
  items.filterMap fun line =>
    let key := docId "products" line.productId
    (products.get key).map fun product => (key, product)

/- The first row whose id ends with the id of the line. -/
def findRow
    (rows : List (String × Product))
    (line : CartItem) : Option (String × Product) :=
  rows.find? fun row => Text.endsWith row.1 line.productId

/- The checks of a line before its price is added. -/
def checkStock
    (line : CartItem)
    (product : Product) : Except Error Unit := do
  check (product.lifecycleStatus = "active")
    (.validation ("Product " ++ line.productId ++
        " is not available for purchase"))
  check (line.quantity ≤ product.stock)
    (.validation ("Insufficient stock for product " ++
        line.productId ++ ". Available: " ++
        toString product.stock))
  check (0 < product.priceCents)
    (.validation ("Product " ++ line.productId ++
        " has invalid price"))

/- The checks after it, and the validated item. -/
def buildItem
    (req : CreateCheckoutRequest)
    (userId : String)
    (line : CartItem)
    (product : Product) : Except Error ValidatedItem := do
  let userIdShort := docId "users" userId
  check (product.sellerId ≠ userIdShort)
    (.validation
      ("Cannot purchase your own products (seller: " ++
        product.sellerId ++ ", buyer: " ++ userIdShort ++
        ")"))
  check
    (!product.isAgeRestricted || req.ageVerificationAccepted)
    (.validation
      "Age verification required for restricted items")
  check (!product.isDigital || req.eulaAccepted)
    (.validation
      "EULA acceptance required for digital products")
  .ok
    { productId := line.productId
      quantity := some line.quantity
      priceCents := product.priceCents
      sellerId := some product.sellerId
      isDigital := product.isDigital
      isPerishable := product.isPerishable
      isLocalDeliveryOnly := product.isLocalDeliveryOnly
      shipFromProvince := product.shipFromProvince
      shipFromCountry := product.shipFromCountry }

/-
  The validated items with the raw subtotal, in the numbers of
  the machine; `none` is an overflow that ends the request.
-/
def validateLines
    (checked : Bool)
    (req : CreateCheckoutRequest)
    (userId : String)
    (rows : List (String × Product)) :
    ℤ → List CartItem →
      Option (Except Error (List ValidatedItem × ℤ))
  | subtotal, [] => some (.ok ([], subtotal))
  | subtotal, line :: rest =>
    match findProduct rows line with
    | .error e => some (.error e)
    | .ok product =>
    match checkStock line product with
    | .error e => some (.error e)
    | .ok _ =>
    match I64.addProduct checked subtotal product.priceCents
        line.quantity with
    | none => none
    | some subtotal =>
    match buildItem req userId line product with
    | .error e => some (.error e)
    | .ok item =>
      (validateLines checked req userId rows subtotal
        rest).map fun r =>
          r.map fun out => (item :: out.1, out.2)

/- The line items of the session: a name and an amount. -/
def lineItems (amounts : Amounts) : List (String × ℤ) :=
  [("Order subtotal", amounts.subtotalCents),
    ("Shipping", amounts.shippingCents),
    ("Estimated tax", amounts.taxCents)].filter fun entry =>
      decide (0 < entry.2)

/- The two halves of the checks of a line. -/
theorem validateItem_eq
    (req : CreateCheckoutRequest)
    (userId : String)
    (rows : List (String × Product))
    (line : CartItem) :
    validateItem req userId rows line =
      (findProduct rows line >>= fun product =>
        checkStock line product >>= fun _ =>
        buildItem req userId line product) := by
  rw [validateItem]
  cases findProduct rows line with
  | error e => rfl
  | ok product =>
    simp only [checkStock, buildItem, bind_assoc]

theorem length_loaded_le
    (products : Table Product)
    (items : List CartItem) :
    (loaded products items).length ≤ items.length :=
  List.length_filterMap_le _ items

--------
-- Own Products
--------

/- The price of a line, by the product with its id. -/
def lineCents
    (products : Table Product)
    (line : CartItem) : ℤ :=
  match products.get line.productId with
  | some product => product.priceCents * line.quantity
  | none => 0

/-
  The exact prices of the lines of a cart, up to and with the
  first line that is refused after its price was added.
-/
def addedCents
    (req : CreateCheckoutRequest)
    (userId : String)
    (products : Table Product) : List CartItem → List ℤ
  | [] => []
  | line :: rest =>
    match products.get line.productId with
    | none => []
    | some product =>
    match checkStock line product with
    | .error _ => []
    | .ok _ =>
      product.priceCents * line.quantity ::
        match buildItem req userId line product with
        | .error _ => []
        | .ok _ => addedCents req userId products rest

variable (checked : Bool) (t : TextCase)
variable (req : CreateCheckoutRequest)
variable (userId province : String)
variable (products : Table Product)

/-
  Every line is priced and checked as its own product, the
  subtotal is the exact sum, and with a discount below it, as
  that of a coupon is, the line items of the session add up to
  the total that is stored, whose tax does not overflow.
-/
structure PricedAsOwn : Prop where
  own : ∀ line ∈ req.items, ∃ product,
    products.get line.productId = some product ∧
      findRow (loaded products req.items) line =
        some (line.productId, product)
  subtotal : ∀ items raw,
    validateLines checked req userId
        (loaded products req.items) 0 req.items =
      some (.ok (items, raw)) →
        raw = (req.items.map (lineCents products)).sum ∧
          raw = rawSubtotal items
  noOverflow :
    validateLines true req userId
      (loaded products req.items) 0 req.items ≠ none
  lineItems : ∀ items raw discount amounts,
    validateLines checked req userId
        (loaded products req.items) 0 req.items =
      some (.ok (items, raw)) →
    discount < raw →
    quote t province items discount = .ok amounts →
    subtotalMatchesWithTolerance req.subtotalCents
        amounts.subtotalCents = true →
    I64.Fits ((amounts.subtotalCents +
        amounts.shippingCents) *
          provinceTaxRateBps province + 5000) ∧
      ∀ orderId key sessionId couponCode,
        ((lineItems amounts).map Prod.snd).sum =
          (orderDoc orderId userId key sessionId items
            couponCode amounts).totalAmountCents

/-
  No id ends with the id of a line that first comes after it,
  and the prices that are added are together less than 2^63.
-/
structure Separable : Prop where
  ids : ∀ line ∈ req.items,
    ∀ other ∈ req.items.takeWhile
        (fun other => other.productId ≠ line.productId),
      Text.endsWith other.productId line.productId = false
  fits : (addedCents req userId products req.items).sum <
    2 ^ 63

--------
-- Rows by Their Ids
--------

variable {products : Table Product} {items : List CartItem}

/- A valid document id has no collection in front. -/
theorem docId_of_named
    {id : String}
    (hNamed : (validateDocumentId id).isOk = true) :
    docId "products" id = id := by
  have hColon : ':' ∉ id.toList := by
    intro hMem
    rw [validateDocumentId] at hNamed
    split at hNamed
    · cases hNamed
    split at hNamed
    · cases hNamed
    split at hNamed
    · cases hNamed
    · rename_i hAll
      simp only [Bool.not_eq_true', Bool.not_eq_false,
        List.all_eq_true] at hAll
      have hAllowed := hAll ':' hMem
      revert hAllowed
      decide
  unfold docId Text.stripPrefix
  rw [if_neg]
  · rfl
  · intro hHead
    apply hColon
    apply (List.isPrefixOf_iff_prefix.mp hHead).subset
    simp

theorem endsWith_self (id : String) :
    Text.endsWith id id = true := by
  simp [Text.endsWith]

/- The lines of a cart with the products of their ids. -/
def AllFound
    (products : Table Product)
    (items : List CartItem) : Prop :=
  ∀ line ∈ items,
    (validateDocumentId line.productId).isOk = true ∧
      ∃ product, products.get line.productId = some product

variable {line : CartItem}

theorem loaded_cons
    {product : Product}
    (hNamed : (validateDocumentId line.productId).isOk = true)
    (hGet : products.get line.productId = some product)
    (rest : List CartItem) :
    loaded products (line :: rest) =
      (line.productId, product) :: loaded products rest := by
  rw [loaded, List.filterMap_cons_some
    (b := (line.productId, product))]
  · rfl
  · simp only [docId_of_named hNamed, hGet, Option.map_some]

/- As many rows as lines: every line has its product. -/
theorem allFound_of_length
    (hNamed : ∀ line ∈ items,
      (validateDocumentId line.productId).isOk = true)
    (hFound :
      (loaded products items).length = items.length) :
    AllFound products items := by
  induction items with
  | nil =>
    intro line hMem
    cases hMem
  | cons line rest ih =>
    have hHead := hNamed line List.mem_cons_self
    have hTail : ∀ line ∈ rest,
        (validateDocumentId line.productId).isOk = true :=
      fun other hMem =>
        hNamed other (List.mem_cons_of_mem line hMem)
    cases hGet : products.get line.productId with
    | none =>
      have hSkipped : loaded products (line :: rest) =
          loaded products rest := by
        rw [loaded, List.filterMap_cons_none]
        · rfl
        · simp only [docId_of_named hHead, hGet,
            Option.map_none]
      have hLe := length_loaded_le products rest
      rw [hSkipped, List.length_cons] at hFound
      omega
    | some product =>
      rw [loaded_cons hHead hGet, List.length_cons,
        List.length_cons] at hFound
      have hRest := ih hTail (by omega)
      intro other hMem
      rcases List.mem_cons.mp hMem with rfl | hMem
      · exact ⟨hHead, product, hGet⟩
      · exact hRest other hMem

/-
  The row of a line is its own exactly when no row before it
  has an id that ends with its id.
-/
theorem findRow_eq_own_iff
    (hAll : AllFound products items)
    (hMem : line ∈ items)
    {product : Product}
    (hGet : products.get line.productId = some product) :
    findRow (loaded products items) line =
        some (line.productId, product) ↔
      ∀ other ∈ items.takeWhile
          (fun other => other.productId ≠ line.productId),
        Text.endsWith other.productId line.productId =
          false := by
  induction items with
  | nil => cases hMem
  | cons first rest ih =>
    rcases hAll first List.mem_cons_self with
      ⟨hNamed, found, hFound⟩
    have hRest : AllFound products rest := fun other hMem =>
        hAll other (List.mem_cons_of_mem first hMem)
    rw [loaded_cons hNamed hFound, findRow, List.find?_cons]
    by_cases hSame : first.productId = line.productId
    · have hProduct : found = product := by
        rw [hSame, hGet] at hFound
        exact (Option.some.inj hFound).symm
      rw [hSame, endsWith_self, List.takeWhile_cons_of_neg
        (by simp [hSame]), hProduct]
      simp
    · rw [List.takeWhile_cons_of_pos (by simp [hSame])]
      have hIn : line ∈ rest := by
        rcases List.mem_cons.mp hMem with rfl | hIn
        · exact absurd rfl hSame
        · exact hIn
      cases hEnds :
          Text.endsWith first.productId line.productId with
      | true =>
        constructor
        · intro hFirst
          have hKey :=
            congrArg Prod.fst (Option.some.inj hFirst)
          exact absurd hKey hSame
        · intro hNone
          have hNot := hNone first List.mem_cons_self
          rw [hEnds] at hNot
          cases hNot
      | false =>
        rw [List.forall_mem_cons]
        simp only [hEnds, true_and]
        exact ih hRest hIn

theorem findProduct_of_findRow
    {rows : List (String × Product)}
    {row : String × Product}
    (hRow : findRow rows line = some row) :
    findProduct rows line = .ok row.2 := by
  rw [findRow] at hRow
  rw [findProduct, hRow]

--------
-- The Subtotal
--------

variable {checked : Bool} {req : CreateCheckoutRequest}
variable {userId : String} {products : Table Product}
variable {rows : List (String × Product)}
variable {lines : List CartItem}

/- Every line finds the product with its id. -/
def FindsOwn
    (products : Table Product)
    (rows : List (String × Product))
    (lines : List CartItem) : Prop :=
  ∀ line ∈ lines, ∃ product,
    products.get line.productId = some product ∧
      findProduct rows line = .ok product

variable {line : CartItem}

theorem FindsOwn.head
    (hOwn : FindsOwn products rows (line :: lines)) :
    ∃ product, products.get line.productId = some product ∧
      findProduct rows line = .ok product :=
  hOwn line List.mem_cons_self

theorem FindsOwn.tail
    (hOwn : FindsOwn products rows (line :: lines)) :
    FindsOwn products rows lines :=
  fun other hMem =>
    hOwn other (List.mem_cons_of_mem line hMem)

theorem price_pos_of_checkStock
    {product : Product}
    {u : Unit}
    (hCheck : checkStock line product = .ok u) :
    0 < product.priceCents := by
  rcases Fallible.of_bind_ok hCheck with ⟨_, _, hCheck⟩
  rcases Fallible.of_bind_ok hCheck with ⟨_, _, hCheck⟩
  simpa using of_check hCheck

theorem addedCents_nonneg
    (req : CreateCheckoutRequest)
    (userId : String)
    (products : Table Product)
    (lines : List CartItem) :
    0 ≤ (addedCents req userId products lines).sum := by
  induction lines with
  | nil => exact Int.le_refl 0
  | cons line rest ih =>
    rw [addedCents]
    split
    · exact Int.le_refl 0
    · split
      · exact Int.le_refl 0
      · rename_i product _ _ _ hCheck
        have hPrice := price_pos_of_checkStock hCheck
        have hProduct :
            0 ≤ product.priceCents * line.quantity :=
          Int.mul_nonneg hPrice.le (Int.natCast_nonneg _)
        rw [List.sum_cons]
        split
        · rw [List.sum_nil]
          omega
        · omega

theorem priceCents_of_buildItem
    {product : Product}
    {item : ValidatedItem}
    (hItem : buildItem req userId line product = .ok item) :
    item.toItem.lineCents =
      product.priceCents * line.quantity := by
  rcases Fallible.of_bind_ok hItem with ⟨_, _, hItem⟩
  rcases Fallible.of_bind_ok hItem with ⟨_, _, hItem⟩
  rcases Fallible.of_bind_ok hItem with ⟨_, _, hItem⟩
  cases hItem
  rfl

/- What the loop returns when nothing overflows. -/
structure Summed
    (req : CreateCheckoutRequest)
    (userId : String)
    (products : Table Product)
    (rows : List (String × Product))
    (subtotal : ℤ)
    (lines : List CartItem)
    (items : List ValidatedItem)
    (raw : ℤ) : Prop where
  exactly : raw = subtotal + (lines.map (lineCents products)).sum
  ofItems : raw = subtotal + rawSubtotal items
  items : lines.mapM (validateItem req userId rows) = .ok items

/- The loop without an overflow. -/
theorem validateLines_of_lt
    (hOwn : FindsOwn products rows lines)
    {subtotal : ℤ}
    (hSubtotal : 0 ≤ subtotal)
    (hLt : subtotal +
      (addedCents req userId products lines).sum < 2 ^ 63)
    (checked : Bool) :
    ∃ r, validateLines checked req userId rows subtotal
        lines = some r ∧
      ∀ items raw, r = .ok (items, raw) →
        Summed req userId products rows subtotal lines items
          raw := by
  induction lines generalizing subtotal with
  | nil =>
    refine ⟨_, rfl, ?_⟩
    rintro items raw ⟨⟩
    exact ⟨by simp, by simp [rawSubtotal], rfl⟩
  | cons line rest ih =>
    rcases hOwn.head with ⟨product, hGet, hFind⟩
    simp only [validateLines, hFind]
    simp only [addedCents, hGet] at hLt
    cases hStock : checkStock line product with
    | error e =>
      refine ⟨_, rfl, ?_⟩
      rintro _ _ ⟨⟩
    | ok u =>
    have hProduct : 0 ≤ product.priceCents * line.quantity :=
      Int.mul_nonneg (price_pos_of_checkStock hStock).le
        (Int.natCast_nonneg _)
    rw [hStock] at hLt
    simp only [List.sum_cons] at hLt
    cases hItem : buildItem req userId line product with
    | error e =>
      rw [hItem] at hLt
      rw [List.sum_nil] at hLt
      simp only [I64.addProduct_of_lt hSubtotal hProduct
        (by omega)]
      refine ⟨_, rfl, ?_⟩
      rintro _ _ ⟨⟩
    | ok item =>
    rw [hItem] at hLt
    simp only at hLt
    have hRest := addedCents_nonneg req userId products rest
    have hNonneg :
        0 ≤ subtotal + product.priceCents * line.quantity :=
      by omega
    have hNext :
        subtotal + product.priceCents * line.quantity +
          (addedCents req userId products rest).sum <
            2 ^ 63 := by
      omega
    rw [I64.addProduct_of_lt hSubtotal hProduct (by omega)]
    dsimp only
    rcases ih hOwn.tail hNonneg hNext with
      ⟨r, hLoop, hSummed⟩
    rw [hLoop]
    refine ⟨_, rfl, ?_⟩
    intro items raw hOk
    cases r with
    | error e => cases hOk
    | ok out =>
      cases hOk
      have hOut := hSummed out.1 out.2 rfl
      have hLine :
          validateItem req userId rows line = .ok item := by
        rw [validateItem_eq, hFind]
        change (checkStock line product >>= _) = _
        rw [hStock]
        exact hItem
      refine ⟨?_, ?_, ?_⟩
      · rw [hOut.exactly, List.map_cons, List.sum_cons,
          lineCents, hGet]
        dsimp only
        omega
      · rw [hOut.ofItems, rawSubtotal, rawSubtotal,
          List.map_cons, List.sum_cons,
          priceCents_of_buildItem hItem]
        omega
      · rw [List.mapM_cons, hLine, hOut.items]
        rfl

/- The loop with an overflow. -/
theorem validateLines_of_le
    (hOwn : FindsOwn products rows lines)
    {subtotal : ℤ}
    (hSubtotal : 0 ≤ subtotal)
    (hFits : subtotal < 2 ^ 63)
    (hFar : 2 ^ 63 ≤ subtotal +
      (addedCents req userId products lines).sum) :
    validateLines true req userId rows subtotal lines =
      none := by
  induction lines generalizing subtotal with
  | nil =>
    simp only [addedCents, List.sum_nil] at hFar
    omega
  | cons line rest ih =>
    rcases hOwn.head with ⟨product, hGet, hFind⟩
    simp only [validateLines, hFind]
    simp only [addedCents, hGet] at hFar
    cases hStock : checkStock line product with
    | error e =>
      rw [hStock] at hFar
      simp only [List.sum_nil] at hFar
      omega
    | ok u =>
    have hProduct : 0 ≤ product.priceCents * line.quantity :=
      Int.mul_nonneg (price_pos_of_checkStock hStock).le
        (Int.natCast_nonneg _)
    rw [hStock] at hFar
    simp only [List.sum_cons] at hFar
    by_cases hLt :
        subtotal + product.priceCents * line.quantity <
          2 ^ 63
    · rw [I64.addProduct_of_lt hSubtotal hProduct hLt]
      dsimp only
      cases hItem : buildItem req userId line product with
      | error e =>
        rw [hItem, List.sum_nil] at hFar
        omega
      | ok item =>
        rw [hItem] at hFar
        dsimp only at hFar
        have hNonneg :
            0 ≤ subtotal +
              product.priceCents * line.quantity := by
          omega
        rw [ih hOwn.tail hNonneg hLt (by omega)]
        rfl
    · rw [(I64.addProduct_eq_none_iff hSubtotal
        hProduct).mpr (by omega)]

--------
-- Line Items
--------

variable {t : TextCase} {req : CreateCheckoutRequest}
variable {province : String}

theorem sum_lineItems
    {amounts : Amounts}
    (hSubtotal : 0 ≤ amounts.subtotalCents)
    (hShipping : 0 ≤ amounts.shippingCents)
    (hTax : 0 ≤ amounts.taxCents) :
    ((lineItems amounts).map Prod.snd).sum =
      amounts.total := by
  have hSum : ∀ entries : List (String × ℤ),
      (∀ entry ∈ entries, 0 ≤ entry.2) →
        ((entries.filter fun entry =>
          decide (0 < entry.2)).map Prod.snd).sum =
            (entries.map Prod.snd).sum := by
    intro entries hAll
    induction entries with
    | nil => rfl
    | cons entry rest ih =>
      have hEntry := hAll entry List.mem_cons_self
      have hRest := ih (fun other hMem =>
        hAll other (List.mem_cons_of_mem entry hMem))
      rw [List.map_cons, List.sum_cons, ← hRest]
      by_cases hPositive : 0 < entry.2
      · rw [List.filter_cons_of_pos (by simpa), List.map_cons,
          List.sum_cons]
      · have hNot : ¬ decide (0 < entry.2) = true := by
          simpa only [decide_eq_true_eq] using hPositive
        rw [List.filter_cons, if_neg hNot]
        omega
  rw [lineItems, hSum, Amounts.total]
  · simp only [List.map_cons, List.map_nil, List.sum_cons,
      List.sum_nil]
    omega
  · intro entry hMem
    simp only [List.mem_cons, List.not_mem_nil, or_false]
      at hMem
    rcases hMem with rfl | rfl | rfl
    · exact hSubtotal
    · exact hShipping
    · exact hTax

variable {subtotal : ℤ}

theorem shipping_le
    {shipping : ℤ}
    {items : List ValidatedItem}
    (hShipping :
      calculateShippingCostCents t subtotal province items =
        .ok shipping) :
    shipping ≤ 899 := by
  unfold calculateShippingCostCents at hShipping
  split at hShipping
  · cases hShipping
    decide
  · split at hShipping
    · cases hShipping
    · split at hShipping
      · cases hShipping
        decide
      · split at hShipping
        · cases hShipping
          decide
        · cases hShipping
          decide

theorem taxRate_le (province : String) :
    provinceTaxRateBps province ≤ 1500 := by
  unfold provinceTaxRateBps
  split <;> decide

theorem client_of_checkRequest
    (hCheck : checkRequest t req = .ok province) :
    req.subtotalCents ≤ 10000000 := by
  rcases Fallible.of_bind_ok hCheck with ⟨_, _, hCheck⟩
  rcases Fallible.of_bind_ok hCheck with ⟨_, _, hCheck⟩
  rcases Fallible.of_bind_ok hCheck with ⟨_, _, hCheck⟩
  rcases Fallible.of_bind_ok hCheck with ⟨_, _, hCheck⟩
  rcases Fallible.of_bind_ok hCheck with ⟨_, hClient, _⟩
  exact of_decide_eq_true (of_check hClient)

/- A subtotal that matches the one of the client is small. -/
theorem subtotal_le_of_matches
    {client : ℤ}
    (hClient : client ≤ 10000000)
    (hMatch :
      subtotalMatchesWithTolerance client subtotal = true) :
    subtotal ≤ 10000200 := by
  unfold subtotalMatchesWithTolerance at hMatch
  rw [decide_eq_true_iff] at hMatch
  have hTolerance :
      checkoutSubtotalTolerance subtotal ≤ 200 := by
    unfold checkoutSubtotalTolerance
    split <;> decide
  omega

/- The tax of the amounts does not overflow. -/
theorem tax_fits
    {shipping : ℤ}
    (hSubtotal : 0 ≤ subtotal)
    (hSubtotal' : subtotal ≤ 10000200)
    (hShipping : 0 ≤ shipping)
    (hShipping' : shipping ≤ 899)
    (province : String) :
    I64.Fits ((subtotal + shipping) *
      provinceTaxRateBps province + 5000) := by
  have hRate := taxRate_nonneg province
  have hLe : (subtotal + shipping) *
      provinceTaxRateBps province ≤ 10001099 * 1500 :=
    Int.mul_le_mul (by omega) (taxRate_le province) hRate
      (by decide)
  have hNonneg := Int.mul_nonneg
    (Int.add_nonneg hSubtotal hShipping) hRate
  rw [I64.fits_iff_of_nonneg (by omega)]
  omega

--------
-- Priced as Own Products
--------

variable {t : TextCase} {req : CreateCheckoutRequest}
variable {userId province : String}
variable {products : Table Product}

theorem ids_iff_own
    (hAll : AllFound products req.items) :
    (∀ line ∈ req.items, ∀ other ∈ req.items.takeWhile
          (fun other => other.productId ≠ line.productId),
        Text.endsWith other.productId line.productId =
          false) ↔
      ∀ line ∈ req.items, ∃ product,
        products.get line.productId = some product ∧
          findRow (loaded products req.items) line =
            some (line.productId, product) := by
  constructor
  · intro hIds line hMem
    rcases (hAll line hMem).2 with ⟨product, hGet⟩
    exact ⟨product, hGet,
      (findRow_eq_own_iff hAll hMem hGet).mpr
        (hIds line hMem)⟩
  · intro hOwn line hMem
    rcases hOwn line hMem with ⟨product, hGet, hRow⟩
    exact (findRow_eq_own_iff hAll hMem hGet).mp hRow

/- The amounts of the lines of a validated cart. -/
theorem lineItems_of_quote
    (hCheck : checkRequest t req = .ok province)
    {rows : List (String × Product)}
    {items : List ValidatedItem}
    (hItems :
      req.items.mapM (validateItem req userId rows) =
        .ok items)
    {discount : ℤ}
    {amounts : Amounts}
    (hDiscount : discount < rawSubtotal items)
    (hQuote : quote t province items discount = .ok amounts)
    (hMatch : subtotalMatchesWithTolerance req.subtotalCents
      amounts.subtotalCents = true) :
    I64.Fits ((amounts.subtotalCents +
        amounts.shippingCents) *
          provinceTaxRateBps province + 5000) ∧
      ∀ orderId key sessionId couponCode,
        ((lineItems amounts).map Prod.snd).sum =
          (orderDoc orderId userId key sessionId items
            couponCode amounts).totalAmountCents := by
  have hCart := isCart_of_mapM hCheck hItems
  have hPlaced := placed_orderDoc hCart hDiscount hQuote
  rcases Fallible.of_bind_ok hQuote with
    ⟨shipping, hShipping, hAmounts⟩
  have hPositive := (hPlaced "" "" "" "" none).subtotal_pos
  have hTax := (hPlaced "" "" "" "" none).tax
  have hShip := (hPlaced "" "" "" "" none).shipping
  change 0 < amounts.subtotalCents at hPositive
  change 0 ≤ amounts.taxCents at hTax
  change 0 ≤ amounts.shippingCents at hShip
  have hLe : amounts.shippingCents ≤ 899 := by
    cases hAmounts
    exact shipping_le hShipping
  constructor
  · exact tax_fits hPositive.le
      (subtotal_le_of_matches (client_of_checkRequest hCheck)
        hMatch) hShip hLe province
  · intro orderId key sessionId couponCode
    exact sum_lineItems hPositive.le hShip hTax

/- A product of one seller at some price. -/
def offered (priceCents : ℤ) : Product :=
  { stockQuantity := some 4
    priceCents
    sellerId := "s1"
    lifecycleStatus := "active" }

/- The request of the buyer in Ontario for some lines. -/
def orders
    (items : List CartItem)
    (subtotalCents : ℤ) : CreateCheckoutRequest :=
  (ontarioCall items subtotalCents "k").req

end Orignabase.CartLines
