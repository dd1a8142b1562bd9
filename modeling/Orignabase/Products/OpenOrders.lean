import Orignabase.Checkout.Session
import Orignabase.Products.Invariants

/-
  Deleting a product that orders are still open for
  (`ob-handlers/src/products/crud.rs`, `delete_product`, and
  the orders of `payments/checkout.rs`).

  Key definitions include:
    * `orderDocument`
    * `pendingOrders`
    * `HasOpenOrder`
    * `Guarded`

  Main results:
    * `pendingOrders_nil`
    * `delete_guarded_iff`
-/

--------
-- Stored orders
--------

namespace Orignabase.Products

def textField (name : String) (text : Option String) :
    Fields :=
  (text.map (fun t => (name, Value.string t))).toList

def intField (name : String) (n : Option Int) : Fields :=
  (n.map (fun n => (name, intValue n))).toList

def itemDocument (item : Item) : Value :=
  .object ([("productId", .string item.productId),
        ("status", .string item.status),
        ("priceCents", intValue item.priceCents)] ++
      textField "sellerId" item.sellerId ++
      intField "quantity" item.quantity)

/-
  The stored document of an order: what the checkout writes
  and what the order handlers merge into it.  The seller and
  the delivery status stand in each item.
-/
def orderDocument (order : Order) : Value :=
  .object ([("orderId", .string order.orderId),
        ("buyerId", .string order.buyerId),
        ("paymentStatus", .string order.paymentStatus),
        ("items", .array (order.items.map itemDocument)),
        ("subtotalCents", intValue order.subtotalCents),
        ("discountAmountCents",
          intValue order.discountAmountCents),
        ("taxAmountCents", intValue order.taxAmountCents),
        ("shippingCostCents",
          intValue order.shippingCostCents),
        ("totalAmountCents", intValue order.totalAmountCents),
        ("platformFeeTotalCents",
          intValue order.platformFeeTotalCents),
        ("idempotencyKey", .string order.idempotencyKey),
        ("checkoutSessionId",
          .string order.checkoutSessionId),
        ("stockRestored", .bool order.stockRestored),
        ("archived", .bool order.archived)] ++
      textField "orderStatus" order.orderStatus ++
      textField "couponCode" order.couponCode ++
      textField "shippingApproval" order.shippingApproval ++
      intField "cumulativeRefundedCents"
        order.cumulativeRefundedCents ++
      intField "refundedAmountCents"
        order.refundedAmountCents)

/-
  `WHERE data->>'sellerId' = $1 AND data->>'status' IN
  ('pending', 'processing', 'shipped')`
-/
def isSoughtFor (userId : String) (order : Value) : Bool :=
  order.getStr "sellerId" == some userId &&
    (order.getStr "status").any
      ["pending", "processing", "shipped"].contains

/- A query that fails is read as one without rows. -/
def pendingOrders
    (env : Env)
    (orders : List Order)
    (userId : String) : List Value :=
  match env.readFault 1 with
  | some _ => []
  | none =>
    ((orders.map orderDocument).filter
      (isSoughtFor userId)).take 5

/- The handler with the orders as they are stored. -/
def deleteStored
    (env : Env)
    (orders : List Order)
    (auth : AuthContext)
    (req : DeleteProductRequest)
    (w : World) : Except Error Response × World :=
  deleteProduct
    { env with
      pendingOrders := pendingOrders env orders auth.userId }
    auth req w

--------
-- The guard
--------

def Order.isOpen (order : Order) : Bool :=
  ["pending", "confirmed", "processing", "shipped"].contains
    order.status

/- An open order has the product among its items. -/
def HasOpenOrder (orders : List Order) (productId : String) :
    Prop :=
  ∃ order ∈ orders, Order.isOpen order = true ∧
    ∃ item ∈ order.items, docId "products" item.productId =
        docId "products" productId

/- The caller is the seller of a stored product or an admin. -/
structure Permitted
    (env : Env)
    (auth : AuthContext)
    (req : DeleteProductRequest)
    (w : World) : Prop where
  caller :
    resolveSelfUserId auth req.userId "userId" =
      .ok auth.userId
  id : validateUid "productId" req.productId = .ok ()
  product :
    ∃ product, getDocument env 0 req.productId w =
        .ok product ∧
      (product.seller = auth.userId || isAdmin auth) = true

/-
  With an open order the product stays as it is and the caller
  is told so; without one it is archived.
-/
structure Guarded
    (env : Env)
    (orders : List Order)
    (auth : AuthContext)
    (req : DeleteProductRequest)
    (w : World) : Prop where
  kept :
    HasOpenOrder orders req.productId →
      (∃ e, (deleteStored env orders auth req w).1 =
        .error e) ∧
        (deleteStored env orders auth req w).2.product?
            req.productId =
          w.product? req.productId
  archived :
    ¬ HasOpenOrder orders req.productId →
      (∃ message, (deleteStored env orders auth req w).1 =
        .ok (.deleted message)) ∧
        ∃ product,
          (deleteStored env orders auth req w).2.product?
              req.productId = some product ∧
            text? product.data "lifecycleStatus" =
              some "archived"

section

variable {env : Env} {auth : AuthContext} {w : World}
variable {orders : List Order} {req : DeleteProductRequest}

theorem lookup_textField
    {name field : String}
    (hNe : (field == name) = false)
    (text : Option String) :
    (textField name text).lookup field = none := by
  cases text with
  | none => rfl
  | some t =>
    change List.lookup field [(name, Value.string t)] = none
    rw [List.lookup_cons, hNe]
    rfl

theorem lookup_intField
    {name field : String}
    (hNe : (field == name) = false)
    (n : Option Int) :
    (intField name n).lookup field = none := by
  cases n with
  | none => rfl
  | some n =>
    change List.lookup field [(name, intValue n)] = none
    rw [List.lookup_cons, hNe]
    rfl

/- No stored order has a seller of its own. -/
theorem orderDocument_seller (order : Order) :
    (orderDocument order).getStr "sellerId" = none := by
  have hNone : (orderDocument order).get "sellerId" = none := by
    change List.lookup "sellerId" (_ ++ _ ++ _ ++ _ ++ _ ++ _) =
      none
    rw [List.lookup_append, List.lookup_append,
      List.lookup_append, List.lookup_append,
      List.lookup_append,
      lookup_textField (by decide), lookup_textField (by decide),
      lookup_textField (by decide), lookup_intField (by decide),
      lookup_intField (by decide)]
    rfl
  rw [Value.getStr, hNone]
  rfl

/- So the guard is never given an order. -/
theorem pendingOrders_nil (userId : String) :
    pendingOrders env orders userId = [] := by
  unfold pendingOrders
  cases env.readFault 1 with
  | some e => rfl
  | none =>
    have hNone :
        (orders.map orderDocument).filter
          (isSoughtFor userId) = [] := by
      apply List.filter_eq_nil_iff.mpr
      intro doc hDoc
      rcases List.mem_map.mp hDoc with ⟨order, _, rfl⟩
      rw [isSoughtFor, orderDocument_seller]
      exact Bool.false_ne_true
    change List.take 5 _ = []
    rw [hNone]
    rfl

/- A permitted caller deletes the product as it is. -/
theorem deleteStored_eq
    (hPermitted : Permitted env auth req w) :
    deleteStored env orders auth req w =
      patchProduct env auth req.productId
        (.ok [("lifecycleStatus", .string "archived"),
            ("deletedAt", .string env.now),
            ("deletedBy", .string auth.userId)])
        (fun e => .database
          ("Failed to delete product: " ++ e.display))
        (.deleted "Product deleted successfully") w := by
  rcases hPermitted with ⟨hCaller, hId, product, hGet, hMay⟩
  have hCheck :
      checkDelete { env with pendingOrders := [] } auth req
          w =
        .ok [("lifecycleStatus", .string "archived"),
            ("deletedAt", .string env.now),
            ("deletedBy", .string auth.userId)] := by
    have hStored :
        getDocument { env with pendingOrders := [] } 0
          req.productId w = .ok product := hGet
    rw [checkDelete, hCaller, hId, hStored]
    change Except.bind (ensure _ _) _ = _
    rw [hMay]
    rfl
  rw [deleteStored, pendingOrders_nil, deleteProduct, hCheck]
  rfl

/- A failed statement leaves the product as it is. -/
theorem delete_fails
    {e : Error}
    (hPermitted : Permitted env auth req w)
    (hFault : env.writeFault 0 = some e) :
    deleteStored env orders auth req w =
      (.error (.database
        ("Failed to delete product: " ++ e.display)), w) := by
  rw [deleteStored_eq hPermitted, patchProduct,
    updateDocument, hFault]

/- Otherwise it is archived, whatever the orders are. -/
theorem delete_archives
    (hPermitted : Permitted env auth req w)
    (hFault : env.writeFault 0 = none) :
    (deleteStored env orders auth req w).1 =
        .ok (.deleted "Product deleted successfully") ∧
      ∃ product,
        (deleteStored env orders auth req w).2.product?
            req.productId = some product ∧
          text? product.data "lifecycleStatus" =
            some "archived" := by
  rcases hPermitted.product with ⟨product, hGet, _⟩
  have hRow : w.product? req.productId = some product :=
    product_of_getDocument hGet
  have hDeleted :
      deleteStored env orders auth req w =
        (.ok (.deleted "Product deleted successfully"),
          w.put auth (docId "products" req.productId)
            (product.merge
              [("lifecycleStatus", .string "archived"),
                ("deletedAt", .string env.now),
                ("deletedBy", .string auth.userId)])) := by
    rw [deleteStored_eq hPermitted, patchProduct,
      updateDocument, hFault, hRow]
  rw [hDeleted]
  refine ⟨rfl, _, Function.update_self _ _ _, ?_⟩
  rw [text?, lookup_merge]
  rfl

/-
  The guard holds exactly if there is no open order and the
  product can be written, or neither is so.
-/
theorem delete_guarded_iff
    (hPermitted : Permitted env auth req w) :
    Guarded env orders auth req w ↔
      (HasOpenOrder orders req.productId ↔
        env.writeFault 0 ≠ none) := by
  cases hFault : env.writeFault 0 with
  | some e =>
    have hFails :
        deleteStored env orders auth req w = (.error _, w) :=
      delete_fails hPermitted hFault
    constructor
    · intro hGuarded
      refine iff_of_true ?_ (Option.some_ne_none e)
      by_contra hNone
      rcases (hGuarded.archived hNone).1 with ⟨message, hOk⟩
      rw [hFails] at hOk
      cases hOk
    · intro hIff
      have hOpen := hIff.mpr (Option.some_ne_none e)
      exact
        { kept := fun _ => by
            rw [hFails]
            exact ⟨⟨_, rfl⟩, rfl⟩
          archived := fun hNone => absurd hOpen hNone }
  | none =>
    have hArchives :
        (deleteStored env orders auth req w).1 = _ ∧ _ :=
      delete_archives hPermitted hFault
    constructor
    · intro hGuarded
      refine iff_of_false ?_ (fun hNot => hNot rfl)
      intro hOpen
      rcases (hGuarded.kept hOpen).1 with ⟨e, hError⟩
      rw [hArchives.1] at hError
      cases hError
    · intro hIff
      exact
        { kept := fun hOpen => absurd rfl (hIff.mp hOpen)
          archived := fun _ =>
            ⟨⟨_, hArchives.1⟩, hArchives.2⟩ }

end

/- A seller's product, and requests to delete it. -/
def sellersBread : World where
  rows := fun id =>
    if id = docId "products" "bread" then
      some ⟨[("sellerId", .string "seller"),
        ("lifecycleStatus", .string "active")], "seller"⟩
    else none
  writes := []

def calm : Env where
  users := fun _ => .ok .null
  now := "2025-01-01T00:00:00Z"
  uuid := fun _ => "id"

def seller : AuthContext where
  userId := "seller"

def deleteBread : DeleteProductRequest where
  productId := "bread"
  userId := "seller"

/- An order of one loaf, as the checkout writes it. -/
def breadOrder : Order :=
  orderDoc "order" "buyer" "key" "session"
    [{ productId := "bread"
       sellerId := some "seller"
       status := "pending"
       priceCents := 500
       quantity := some 1 }]
    none ⟨500, 0, 0, 0⟩

theorem permitted_seller :
    Permitted calm seller deleteBread sellersBread where
  caller := rfl
  id := by decide
  product := ⟨_, rfl, by decide⟩

theorem delete_guarded_no_orders :
    Permitted calm seller deleteBread sellersBread ∧
      Guarded calm [] seller deleteBread sellersBread := by
  refine ⟨permitted_seller,
    (delete_guarded_iff permitted_seller).mpr
      (iff_of_false ?_ (fun hNot => hNot rfl))⟩
  rintro ⟨order, hOrder, _⟩
  exact absurd hOrder List.not_mem_nil

/- The seller deletes a product that a new order is for. -/
theorem delete_unguarded_bread :
    ¬ Guarded calm [breadOrder] seller deleteBread
      sellersBread := by
  intro hGuarded
  have hOpen : HasOpenOrder [breadOrder] "bread" :=
    ⟨breadOrder, List.mem_singleton.mpr rfl, by decide,
      _, List.mem_singleton.mpr rfl, rfl⟩
  rcases (hGuarded.kept hOpen).1 with ⟨e, hError⟩
  rw [(delete_archives permitted_seller rfl).1] at hError
  cases hError

end Orignabase.Products
