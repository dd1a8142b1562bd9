import Orignabase.Products.Payloads
import Orignabase.Store.Api
import Mathlib.Logic.Function.Basic

/-
  The handlers that write products
  (`ob-handlers/src/products/crud.rs`), one request at a time.

  The id and the times that the store adds to a document as
  it is read are left out: no handler here looks at them.

  Key definitions include:
    * `World`
    * `Env`
    * `createDocument`, `updateDocument`
    * `Call`
    * `handle`
-/

--------
-- Products
--------

namespace Orignabase.Products

/-
  A stored product.  `creator` is the user whose request
  inserted it, which the database does not keep.
-/
structure Product where
  data : Fields
  creator : String
  deriving DecidableEq, Repr

/- A product before and after a statement, and who asked. -/
structure Write where
  auth : AuthContext
  before : Option Product
  after : Product

/-
  The products by id, and every statement that has inserted
  or changed one, the latest first.
-/
structure World where
  rows : String → Option Product
  writes : List Write

def World.empty : World :=
  ⟨fun _ => none, []⟩

def World.put
    (w : World)
    (auth : AuthContext)
    (id : String)
    (product : Product) : World where
  rows := Function.update w.rows id (some product)
  writes := ⟨auth, w.rows id, product⟩ :: w.writes

/- The product that a request names. -/
def World.product? (w : World) (id : String) :
    Option Product :=
  w.rows (docId "products" id)

/-
  What the rest of the system decides about one request: the
  documents of users, the rate limit, the time, random ids,
  which of its statements on products fail, and the rows of
  other tables that it looks at.
-/
structure Env where
  users : String → Except Error Value
  rateLimit : Except Error Unit := .ok ()
  now : String
  uuid : Nat → String
  readFault : Nat → Option Error := fun _ => none
  writeFault : Nat → Option Error := fun _ => none
  pendingOrders : List Value := []
  favorites : List Value := []
  createFavorite : Except Error Unit := .ok ()

variable (env : Env)

/- The id of a new product. -/
def newId (k : Nat) (data : Fields) : String :=
  (text? data "id").getD (env.uuid k)

/- The statements of a request are counted by `k`. -/
def createDocument
    (k : Nat)
    (auth : AuthContext)
    (creator : String)
    (data : Fields)
    (w : World) : Except Error String × World :=
  match env.writeFault k with
  | some e => (.error e, w)
  | none =>
    match w.rows (newId env k data) with
    | some _ =>
      (.error (.validation
        ("Document already exists in collection " ++
          "products: " ++ newId env k data)), w)
    | none =>
      (.ok (newId env k data),
        w.put auth (newId env k data) ⟨data, creator⟩)

def notFound (id : String) : Error :=
  .notFound
    ("products:" ++ docId "products" id ++ " not found")

def getDocument
    (k : Nat)
    (id : String)
    (w : World) : Except Error Product :=
  match env.readFault k with
  | some e => .error e
  | none =>
    match w.product? id with
    | none => .error (notFound id)
    | some product => .ok product

/- Merge fields into a product. -/
def Product.merge (p : Product) (patch : Fields) : Product :=
  { p with data := Value.merge p.data patch }

def updateDocument
    (k : Nat)
    (auth : AuthContext)
    (id : String)
    (patch : Fields)
    (w : World) : Except Error Unit × World :=
  match env.writeFault k with
  | some e => (.error e, w)
  | none =>
    match w.product? id with
    | none => (.error (notFound id), w)
    | some product =>
      (.ok (), w.put auth (docId "products" id)
          (product.merge patch))

--------
-- Requests
--------

structure CreateProductAtomicRequest where
  userId : String
  productData : Value
  testImageUrls : List String := []

structure BulkUploadRequest where
  products : List Value

structure UpdateProductRequest where
  productId : String
  userId : String
  productData : Value

structure BulkUpdateRequest where
  productIds : List String
  update : Value

structure UploadImagesRequest where
  productId : String
  imageUrls : List String

structure DeleteProductRequest where
  productId : String
  userId : String

structure ToggleFavoriteRequest where
  productId : String
  userId : String

inductive Request
  | createProductAtomic (req : CreateProductAtomicRequest)
  | bulkUploadProducts (req : BulkUploadRequest)
  | updateProduct (req : UpdateProductRequest)
  | bulkUpdateProducts (req : BulkUpdateRequest)
  | uploadImages (req : UploadImagesRequest)
  | deleteProduct (req : DeleteProductRequest)
  | toggleFavorite (req : ToggleFavoriteRequest)

structure BulkProductError where
  index : Nat
  message : String

inductive Response
  | created (productId : String) (imageUrls : Value)
  | uploaded
      (created failed : Nat)
      (errors : List BulkProductError)
      (productIds : List String)
  | updated
  | bulkUpdated (updated total : Nat)
  | images (imageUrls : List String)
  | deleted (message : String)
  | favorite (favorite : Bool)

--------
-- Callers
--------

def requireAuthenticated (auth : AuthContext) :
    Except Error String := do
  ensure (auth.authenticated && auth.userId != "")
    (.auth "Authentication required")
  pure auth.userId

def isAdmin (auth : AuthContext) : Bool :=
  auth.roles.contains "admin"

def isSellerOrAdmin (user : Value) : Bool :=
  match (user.get "roles").bind Value.asArray with
  | none => false
  | some roles =>
    roles.any (fun role =>
      role.asStr = some "seller" ||
        role.asStr = some "admin")

def checkSeller (env : Env) (userId : String) :
    Except Error Unit := do
  let user ← (env.users userId).mapError (fun _ =>
    .notFound "User not found")
  ensure (isSellerOrAdmin user)
    (.forbidden "Seller or admin role required")

/- The seller that a product names. -/
def Product.seller (p : Product) : String :=
  (text? p.data "sellerId").getD ""

def checkOwner
    (auth : AuthContext)
    (product : Product)
    (message : String) : Except Error Unit :=
  ensure (product.seller = auth.userId || isAdmin auth)
    (.forbidden message)

def objectOf
    {ε : Type}
    (v : Value)
    (e : ε) : Except ε Fields :=
  match v.asObject with
  | none => .error e
  | some obj => .ok obj

--------
-- New Products
--------

variable (codec : Codec) (env : Env)

/- The fields of a product as it is created. -/
def stampCreated
    (userId : String)
    (obj : Fields) : Fields :=
  Value.insertField "updatedAt" (.string env.now)
    (Value.insertField "createdAt" (.string env.now)
      (Value.insertField "sellerId" (.string userId) obj))

def checkCreate
    (auth : AuthContext)
    (req : CreateProductAtomicRequest) :
    Except Error Fields := do
  let userId ← resolveSelfUserId auth req.userId "userId"
  validateUid "userId" userId
  checkSeller env userId
  env.rateLimit
  req.testImageUrls.forM validateImageUrl
  let obj ← objectOf req.productData
    (.validation "productData must be an object")
  checkPriceAndStock obj
  let obj ← checkContents codec obj
  pure (stampCreated env userId
    (Value.insertField "imageUrls"
      (strings req.testImageUrls) obj))

def createProductAtomic
    (auth : AuthContext)
    (req : CreateProductAtomicRequest)
    (w : World) : Except Error Response × World :=
  match checkCreate codec env auth req with
  | .error e => (.error e, w)
  | .ok data =>
    match createDocument env 0 auth auth.userId data w with
    | (.error e, w) =>
      (.error (.database
        ("Failed to create product: " ++ e.display)), w)
    | (.ok id, w) =>
      (.ok (.created (docId "products" id)
        ((data.lookup "imageUrls").getD (.array []))), w)

def sanitizeDescription (obj : Fields) :
    Except String Fields :=
  match text? obj "description" with
  | none => .ok obj
  | some description => do
      let description := codec.sanitizeHtml description
      (validateString "description" description 5000).mapError
        Error.display
      pure (Value.insertField "description"
        (.string description) obj)

/- One product of an upload, or what is wrong with it. -/
def checkUpload (product : Value) : Except String Fields := do
  let obj ← objectOf product "Product must be an object"
  let title := Text.trim ((text? obj "name").getD "")
  ensure (title != "") "Title is required"
  let title := codec.sanitizeHtml title
  (validateString "title" title 1000).mapError Error.display
  (checkPriceAndStock obj).mapError Error.display
  ensure
    (Text.trim ((text? obj "categoryId").getD "") != "")
    "CategoryId is required"
  let obj ← sanitizeDescription codec obj
  pure (Value.insertField "name" (.string title) obj)

def checkBulkUpload
    (auth : AuthContext)
    (req : BulkUploadRequest) : Except Error Unit := do
  let userId ← requireAuthenticated auth
  validateUid "userId" userId
  checkSeller env userId
  env.rateLimit
  ensure (!req.products.isEmpty)
    (.validation "At least one product required")
  ensure (decide (req.products.length ≤ 100))
    (.validation "Maximum 100 products per batch")

/- The products that pass their checks, with their places. -/
def BulkUploadRequest.valid (req : BulkUploadRequest) :
    List (Nat × Fields) :=
  req.products.zipIdx.filterMap (fun entry =>
    match checkUpload codec entry.1 with
    | .error _ => none
    | .ok obj => some (entry.2, obj))

def BulkUploadRequest.errors (req : BulkUploadRequest) :
    List BulkProductError :=
  req.products.zipIdx.filterMap (fun entry =>
    match checkUpload codec entry.1 with
    | .error message => some ⟨entry.2, message⟩
    | .ok _ => none)

/- A product without images gets an empty list of them. -/
def withImages (data : Fields) : Fields :=
  match data.lookup "imageUrls" with
  | some _ => data
  | none => Value.insertField "imageUrls" (.array []) data

def stampUploaded
    (userId : String)
    (obj : Fields) : Fields :=
  withImages (stampCreated env userId obj)

structure Upload where
  productIds : List String
  failed : Nat
  errors : List BulkProductError
  world : World

def uploadProduct
    (auth : AuthContext)
    (u : Upload)
    (entry : Nat × Fields) : Upload :=
  match createDocument env entry.1 auth auth.userId
      (stampUploaded env auth.userId entry.2) u.world with
  | (.ok id, w) =>
    { u with
      productIds := u.productIds ++ [docId "products" id]
      world := w }
  | (.error e, w) =>
    { u with
      failed := u.failed + 1
      errors := u.errors ++
        [⟨entry.1, "Database error: " ++ e.display⟩]
      world := w }

def bulkUploadProducts
    (auth : AuthContext)
    (req : BulkUploadRequest)
    (w : World) : Except Error Response × World :=
  match checkBulkUpload env auth req with
  | .error e => (.error e, w)
  | .ok _ =>
    let errors := req.errors codec
    if (req.valid codec).isEmpty then
      (.ok (.uploaded 0 errors.length errors []), w)
    else
      let u := (req.valid codec).foldl
        (uploadProduct env auth) ⟨[], 0, errors, w⟩
      (.ok (.uploaded u.productIds.length u.failed u.errors
        u.productIds), u.world)

--------
-- Changes
--------

variable (codec : Codec) (env : Env)

/- A status that is not a text is not looked at. -/
def checkLifecycle
    (obj : Fields)
    (product : Product) : Except Error Unit :=
  match text? obj "lifecycleStatus" with
  | none => .ok ()
  | some newStatus =>
    validateLifecycleTransition
      ((text? product.data "lifecycleStatus").getD "draft")
      newStatus

/- The fields of an update that passed its checks. -/
def checkPatch (obj : Fields) : Except Error Fields := do
  checkPriceAndStock obj
  checkImageUrls obj
  let obj ← checkContents codec obj
  pure (Value.insertField "updatedAt" (.string env.now) obj)

def checkUpdate
    (auth : AuthContext)
    (req : UpdateProductRequest)
    (w : World) : Except Error Fields := do
  let _ ← resolveSelfUserId auth req.userId "userId"
  validateUid "productId" req.productId
  env.rateLimit
  let product ← getDocument env 0 req.productId w
  checkOwner auth product
    "Only product owner or admin can update"
  let obj ← objectOf req.productData
    (.validation "productData must be an object")
  checkLifecycle obj product
  checkPatch codec env obj

/- Merge what a check made of a request into a product. -/
def patchProduct
    (auth : AuthContext)
    (id : String)
    (checked : Except Error Fields)
    (failed : Error → Error)
    (response : Response)
    (w : World) : Except Error Response × World :=
  match checked with
  | .error e => (.error e, w)
  | .ok patch =>
    match updateDocument env 0 auth id patch w with
    | (.error e, w) => (.error (failed e), w)
    | (.ok _, w) => (.ok response, w)

def updateProduct
    (auth : AuthContext)
    (req : UpdateProductRequest)
    (w : World) : Except Error Response × World :=
  patchProduct env auth req.productId
    (checkUpdate codec env auth req w) id .updated w

/- The products are read before any of them is changed. -/
def readOwned
    (auth : AuthContext)
    (w : World)
    (entry : String × Nat) : Except Error Product := do
  let product ← (getDocument env entry.2 entry.1 w).mapError
    (fun _ => .notFound ("Product not found: " ++ entry.1))
  checkOwner auth product
    "Only product owner or admin can bulk update products"
  pure product

def checkBulkUpdate
    (auth : AuthContext)
    (req : BulkUpdateRequest)
    (w : World) : Except Error Fields := do
  let _ ← requireAuthenticated auth
  ensure
    (!req.productIds.isEmpty &&
      decide (req.productIds.length ≤ 100))
    (.validation "product_ids must contain 1-100 items")
  req.productIds.forM (validateUid "productId")
  let products ←
    req.productIds.zipIdx.mapM (readOwned env auth w)
  let obj ← objectOf req.update
    (.validation "update must be an object")
  products.forM (checkLifecycle obj)
  checkPatch codec env obj

/- One update that fails does not stop the others. -/
def updateOne
    (auth : AuthContext)
    (patch : Fields)
    (s : Nat × World)
    (entry : String × Nat) : Nat × World :=
  match updateDocument env entry.2 auth entry.1 patch s.2 with
  | (.ok _, w) => (s.1 + 1, w)
  | (.error _, w) => (s.1, w)

def bulkUpdateProducts
    (auth : AuthContext)
    (req : BulkUpdateRequest)
    (w : World) : Except Error Response × World :=
  match checkBulkUpdate codec env auth req w with
  | .error e => (.error e, w)
  | .ok patch =>
    let s := req.productIds.zipIdx.foldl
      (updateOne env auth patch) (0, w)
    (.ok (.bulkUpdated s.1 req.productIds.length), s.2)

def productNotFound (_ : Error) : Error :=
  .notFound "Product not found"

def checkImages
    (auth : AuthContext)
    (req : UploadImagesRequest)
    (w : World) : Except Error Fields := do
  let _ ← requireAuthenticated auth
  validateUid "productId" req.productId
  ensure (!req.imageUrls.isEmpty)
    (.validation "No images specified")
  ensure (decide (req.imageUrls.length ≤ 5))
    (.validation "Maximum 5 images allowed")
  req.imageUrls.forM validateImageUrl
  let product ← (getDocument env 0 req.productId w).mapError
    productNotFound
  checkOwner auth product
    "Only product owner or admin can update images"
  pure
    [("imageUrls", strings req.imageUrls),
      ("updatedAt", .string env.now)]

def uploadImages
    (auth : AuthContext)
    (req : UploadImagesRequest)
    (w : World) : Except Error Response × World :=
  patchProduct env auth req.productId
    (checkImages env auth req w)
    (fun e => .database
      ("Failed to update images: " ++ e.display))
    (.images req.imageUrls) w

/- Whether one of the orders has the product as an item. -/
def isPending (productId : String) (orders : List Value) :
    Bool :=
  orders.any (fun order =>
    match (order.get "items").bind Value.asArray with
    | none => false
    | some items =>
      items.any (fun item =>
        item.getStr "productId" = some productId))

/- Archiving does not look at the state of the product. -/
def checkDelete
    (auth : AuthContext)
    (req : DeleteProductRequest)
    (w : World) : Except Error Fields := do
  let userId ← resolveSelfUserId auth req.userId "userId"
  validateUid "productId" req.productId
  let product ← (getDocument env 0 req.productId w).mapError
    productNotFound
  checkOwner auth product
    "Only product owner or admin can delete"
  ensure (!isPending req.productId env.pendingOrders)
    (.validation
      ("Cannot delete product with pending orders. " ++
        "Please wait for orders to complete."))
  pure
    [("lifecycleStatus", .string "archived"),
      ("deletedAt", .string env.now),
      ("deletedBy", .string userId)]

def deleteProduct
    (auth : AuthContext)
    (req : DeleteProductRequest)
    (w : World) : Except Error Response × World :=
  patchProduct env auth req.productId
    (checkDelete env auth req w)
    (fun e => .database
      ("Failed to delete product: " ++ e.display))
    (.deleted "Product deleted successfully") w

/- The count before a step, and a step in 64 bits. -/
def Product.favoriteCount (p : Product) : Int :=
  (int? p.data "favoriteCount").getD 0

def wrap (n : Int) : Int :=
  Int.bmod n (2 ^ 64)

def checkToggle
    (auth : AuthContext)
    (req : ToggleFavoriteRequest)
    (w : World) : Except Error Product := do
  validateUid "productId" req.productId
  let _ ← resolveSelfUserId auth req.userId "userId"
  (getDocument env 0 req.productId w).mapError productNotFound

def setFavoriteCount
    (auth : AuthContext)
    (id : String)
    (count : Int)
    (w : World) : World :=
  (updateDocument env 0 auth id
    [("favoriteCount", intValue count),
      ("updatedAt", .string env.now)] w).2

/- Whether the count could be written is not looked at. -/
def toggleFavorite
    (auth : AuthContext)
    (req : ToggleFavoriteRequest)
    (w : World) : Except Error Response × World :=
  match checkToggle env auth req w with
  | .error e => (.error e, w)
  | .ok product =>
    if !env.favorites.isEmpty then
      (.ok (.favorite false),
        setFavoriteCount env auth req.productId
          (max (wrap (product.favoriteCount - 1)) 0) w)
    else
      match env.createFavorite with
      | .error e => (.error e, w)
      | .ok _ =>
        (.ok (.favorite true),
          setFavoriteCount env auth req.productId
            (wrap (product.favoriteCount + 1)) w)

--------
-- Runs
--------

/- A request with its caller and its surroundings. -/
structure Call where
  auth : AuthContext
  env : Env
  request : Request

def handle
    (codec : Codec)
    (call : Call)
    (w : World) : Except Error Response × World :=
  match call.request with
  | .createProductAtomic req =>
    createProductAtomic codec call.env call.auth req w
  | .bulkUploadProducts req =>
    bulkUploadProducts codec call.env call.auth req w
  | .updateProduct req =>
    updateProduct codec call.env call.auth req w
  | .bulkUpdateProducts req =>
    bulkUpdateProducts codec call.env call.auth req w
  | .uploadImages req =>
    uploadImages call.env call.auth req w
  | .deleteProduct req =>
    deleteProduct call.env call.auth req w
  | .toggleFavorite req =>
    toggleFavorite call.env call.auth req w

/- The products after a request. -/
def step (codec : Codec) (w : World) (call : Call) : World :=
  (handle codec call w).2

end Orignabase.Products
