import Orignabase.Products.Payloads
import Orignabase.Store.Api

/-
  The addresses of buyers and the warehouses of sellers
  (`ob-handlers/src/addresses/mod.rs`,
  `ob-handlers/src/warehouses/mod.rs`).

  A statement of the store takes effect at once or fails
  without one.  The id and the times that the store adds to a
  document as it is read are left out: no handler here looks
  at them.

  Key definitions include:
    * `World`
    * `Op`
    * `exec`
    * `Request.body`
-/

--------
-- Records
--------

namespace Orignabase.Addresses

open Products (Fields)

inductive Coll
  | users
  | addresses
  | warehouses
  deriving DecidableEq, Repr

def Coll.name : Coll → String
  | .users => "users"
  | .addresses => "buyer_addresses"
  | .warehouses => "users__warehouses"

/-
  A stored document.  `creator` is the user whose request
  inserted it, which the database does not keep.
-/
structure Record where
  data : Fields
  creator : String

/-
  A statement that changed a document: whose request it
  served, what it brought (nothing for a removal), and the
  document before it.
-/
structure Write where
  user : String
  coll : Coll
  id : String
  incoming : Option Fields
  before : Option Record

/- The stored documents and the writes, latest first. -/
structure World where
  table : Coll → Table Record
  writes : List Write

/- The id of a document without its collection in front. -/
def key (coll : Coll) (id : String) : String :=
  docId coll.name id

def warehouseParent (userId : String) : String :=
  "users:" ++ userId

/- A text that the escaping of literals leaves alone. -/
def plain (text : String) : Bool :=
  text.toList.all (fun c => c != '\'' && c != '\\')

--------
-- Statements
--------

open Conc Products

/- A random id consists of digits, letters and hyphens. -/
def Uuid : Type :=
  { text : String //
    text.toList.all (fun c => c.isAlphanum || c = '-') = true }

inductive Op
  | checkUserRateLimit (userId action : String)
      (limit minutes : Nat)
  | utcNow
  | newId
  | getDocument (coll : Coll) (id : String)
  | createDocument (user : String) (coll : Coll)
      (data : Fields)
  | updateDocument (user : String) (coll : Coll)
      (id : String) (patch : Fields)
  | deleteDocument (user : String) (coll : Coll)
      (id : String)
  | defaultWarehouses (user : String)
  | otherWarehouses (user exclude : String)
  | productsWith (user warehouse : String)

abbrev Res : Op → Type
  | .checkUserRateLimit .. => Except Error Unit
  | .utcNow => String
  | .newId => String
  | .getDocument .. => Except Error Fields
  | .createDocument .. => Except Error String
  | .updateDocument .. => Except Error Unit
  | .deleteDocument .. => Except Error Unit
  | .defaultWarehouses _ => Except Error (List String)
  | .otherWarehouses .. => Except Error (List String)
  | .productsWith .. => Except Error Bool

/-
  What the environment decides: the error of a statement that
  fails, the time, a random id, whether a product refers to a
  warehouse, and what a query finds whose literal is broken.
-/
structure Answer where
  fault : Option Error := none
  now : String := ""
  uuid : Uuid
  referenced : Bool := false
  found : List String := []

/- A statement that does not fail. -/
def statement
    {α : Type}
    (a : Answer)
    (w : World)
    (body : Except Error α × World) :
    Except Error α × World :=
  match a.fault with
  | some e => (.error e, w)
  | none => body

def World.put
    (w : World)
    (write : Write)
    (table : Table Record) : World where
  table := fun coll =>
    if coll = write.coll then table else w.table coll
  writes := write :: w.writes

def missing (coll : Coll) (id : String) : Error :=
  .notFound (coll.name ++ ":" ++ id ++ " not found")

/- The id of the data, or a random one. -/
def newKey (a : Answer) (data : Fields) : String :=
  (text? data "id").getD a.uuid.val

def createDocument
    (user : String)
    (coll : Coll)
    (data : Fields)
    (a : Answer)
    (w : World) : Except Error String × World :=
  let id := newKey a data
  match (w.table coll).get id with
  | some _ =>
    (.error (.validation
      ("Document already exists in collection " ++
        coll.name ++ ": " ++ id)), w)
  | none =>
    (.ok id, w.put ⟨user, coll, id, some data, none⟩
        ((w.table coll).insert id ⟨data, user⟩))

def updateDocument
    (user : String)
    (coll : Coll)
    (id : String)
    (patch : Fields)
    (w : World) : Except Error Unit × World :=
  match (w.table coll).get (key coll id) with
  | none => (.error (missing coll (key coll id)), w)
  | some r =>
    (.ok (),
      w.put ⟨user, coll, key coll id, some patch, some r⟩
        ((w.table coll).modify (key coll id) (fun r =>
          { r with data := Value.merge r.data patch })))

def deleteDocument
    (user : String)
    (coll : Coll)
    (id : String)
    (w : World) : Except Error Unit × World :=
  match (w.table coll).get (key coll id) with
  | none => (.error (missing coll (key coll id)), w)
  | some r =>
    (.ok (), w.put ⟨user, coll, key coll id, none, some r⟩
        ((w.table coll).erase (key coll id)))

/- `data->>'parent_id' = 'users:..'` of a warehouse. -/
def ownedBy (user : String) (row : String × Record) : Bool :=
  text? row.2.data "parent_id" = some (warehouseParent user)

/- `data->>'isDefault' = 'true'`. -/
def isDefault (row : String × Record) : Bool :=
  match row.2.data.lookup "isDefault" with
  | some (.bool b) => b
  | some (.string s) => s = "true"
  | _ => false

/- The earliest of other warehouses comes first. -/
def earliest (rows : List (String × Record)) :
    List (String × Record) :=
  rows.mergeSort (fun x y =>
    !Text.lt ((text? y.2.data "createdAt").getD "")
      ((text? x.2.data "createdAt").getD ""))

/-
  The rows of a query whose literal names the user.  The id
  that is left out is one that the store has made.
-/
def query
    (user : String)
    (a : Answer)
    (rows : List (String × Record)) : List String :=
  if plain user then rows.map Prod.fst else a.found

def exec : Exec Res Answer World
  | .checkUserRateLimit .., a, w =>
    (match a.fault with
      | some e => .error e
      | none => .ok (), w)
  | .utcNow, a, w => (a.now, w)
  | .newId, a, w => ("addr_" ++ a.uuid.val, w)
  | .getDocument coll id, a, w =>
    statement a w
      (match (w.table coll).get (key coll id) with
        | none => .error (missing coll (key coll id))
        | some r => .ok r.data, w)
  | .createDocument user coll data, a, w =>
    statement a w (createDocument user coll data a w)
  | .updateDocument user coll id patch, a, w =>
    statement a w (updateDocument user coll id patch w)
  | .deleteDocument user coll id, a, w =>
    statement a w (deleteDocument user coll id w)
  | .defaultWarehouses user, a, w =>
    statement a w
      (.ok (query user a
        ((w.table .warehouses).rows.filter (fun row =>
          ownedBy user row && isDefault row))), w)
  | .otherWarehouses user exclude, a, w =>
    statement a w
      (.ok ((query user a (earliest
          ((w.table .warehouses).rows.filter (fun row =>
            ownedBy user row && row.1 != exclude)))).take
        1), w)
  | .productsWith .., a, w =>
    statement a w (.ok a.referenced, w)

--------
-- Payloads
--------

/- Unicode properties of texts, and the removal of HTML. -/
structure Chars where
  upper : String → String
  isAlphabetic : Char → Bool
  isNumeric : Char → Bool
  sanitizeHtml : String → String

structure AddressPayload where
  label : String
  street : String
  city : String
  province : String
  postalCode : String
  country : String
  apartment : Option String := none

def optional (t : Option String) : Value :=
  match t with
  | none => .null
  | some t => .string t

def AddressPayload.fields (addr : AddressPayload) : Fields :=
  Value.merge [] [("label", .string addr.label),
      ("street", .string addr.street),
      ("city", .string addr.city),
      ("state", .string addr.province),
      ("postalCode", .string addr.postalCode),
      ("country", .string addr.country),
      ("apartment", optional addr.apartment)]

variable (chars : Chars)

def validatePostalCode (pc : String) : Except Error Unit := do
  let clean := chars.upper
    (String.ofList (Text.replaceChar ' ' [] pc.toList))
  ensure (clean.utf8ByteSize = 6)
    (.validation "Canadian postal code must be 6 characters")
  clean.toList.zipIdx.forM fun entry =>
    ensure
      (if entry.2 % 2 = 0 then chars.isAlphabetic entry.1
        else chars.isNumeric entry.1)
      (.validation "Invalid postal code format")

def required (field value : String) : Except Error Unit :=
  ensure (Text.trim value != "")
    (.validation (field ++ " is required"))

def validateAddressPayload (addr : AddressPayload) :
    Except Error Unit := do
  required "label" addr.label
  required "street" addr.street
  required "city" addr.city
  required "province" addr.province
  ensure (chars.upper addr.country = "CA")
    (.validation
      "Only Canadian addresses are currently supported")
  validatePostalCode chars addr.postalCode
  addr.apartment |> ifSome fun apt =>
    ensure (decide (apt.utf8ByteSize ≤ 50))
      (.validation "apartment too long")

structure WarehouseAddressInput where
  street : String
  apartment : Option String := none
  city : String
  state : String
  postalCode : String
  country : String := "Canada"
  phoneNumber : Option String := none
  latitude : Option Number := none
  longitude : Option Number := none
  label : Option String := none

def sanitizeLabel (label : String) : Except Error String := do
  let trimmed := Text.trim label
  ensure (trimmed != "" && decide (trimmed.utf8ByteSize ≤ 100))
    (.validation "label must be 1-100 characters")
  pure (chars.sanitizeHtml trimmed)

def validTypes : List String :=
  ["warehouse", "personal"]

def sanitizeType (warehouseType : String) :
    Except Error String := do
  let trimmed := Text.trim warehouseType
  ensure (validTypes.contains trimmed)
    (.validation
      ("type must be one of: " ++ debugText validTypes))
  pure trimmed

def coordinate (n : Option Number) : Value :=
  match n with
  | none => .null
  | some n => .number n

def sanitizeAddress (address : WarehouseAddressInput) :
    Except Error Value := do
  ensure
    (Text.trim address.street != "" &&
      Text.trim address.city != "" &&
      Text.trim address.state != "" &&
      Text.trim address.postalCode != "")
    (.validation
      "street, city, state, and postalCode are required")
  ensure (Text.trim address.country = "Canada")
    (.validation "Warehouse address must be in Canada")
  let clean := fun t => chars.sanitizeHtml (Text.trim t)
  pure (.object (Value.merge []
    [("street", .string (clean address.street)),
      ("apartment",
        .string (clean (address.apartment.getD ""))),
      ("city", .string (clean address.city)),
      ("state", .string (clean address.state)),
      ("postalCode",
        .string (chars.upper (Text.trim address.postalCode))),
      ("country", .string (Text.trim address.country)),
      ("phoneNumber",
        optional (address.phoneNumber.map clean)),
      ("latitude", coordinate address.latitude),
      ("longitude", coordinate address.longitude),
      ("label", optional (address.label.map clean))]))

--------
-- Requests
--------

structure AddBuyerAddressRequest where
  userId : String
  address : AddressPayload

structure UpdateBuyerAddressRequest where
  userId : String
  addressId : String
  address : AddressPayload

structure DeleteBuyerAddressRequest where
  userId : String
  addressId : String

structure SetDefaultBuyerAddressRequest where
  userId : String
  addressId : String

structure CreateWarehouseRequest where
  userId : String
  label : String
  warehouseType : String
  address : WarehouseAddressInput
  isDefault : Bool := false

structure UpdateWarehouseRequest where
  userId : String
  warehouseId : String
  label : Option String := none
  warehouseType : Option String := none
  address : Option WarehouseAddressInput := none
  isDefault : Option Bool := none

structure DeleteWarehouseRequest where
  userId : String
  warehouseId : String

inductive Request
  | addBuyerAddress (req : AddBuyerAddressRequest)
  | updateBuyerAddress (req : UpdateBuyerAddressRequest)
  | deleteBuyerAddress (req : DeleteBuyerAddressRequest)
  | setDefaultBuyerAddress
      (req : SetDefaultBuyerAddressRequest)
  | createWarehouse (req : CreateWarehouseRequest)
  | updateWarehouse (req : UpdateWarehouseRequest)
  | deleteWarehouse (req : DeleteWarehouseRequest)

/- The id of a record, or that a request was served. -/
inductive Reply
  | record (id : String)
  | success
  deriving DecidableEq, Repr

--------
-- Addresses Of Buyers
--------

open Handler

abbrev Handler (α : Type) :=
  Prog Res (Except Error α)

variable (chars : Chars) (auth : AuthContext)

/- The caller is the user that the request names. -/
def authorize
    (userId : String)
    (next : Handler Reply) : Handler Reply :=
  require (auth.authenticated && auth.userId = userId)
    (.auth "Unauthorized") next

def addBuyerAddress (req : AddBuyerAddressRequest) :
    Handler Reply :=
  authorize auth req.userId <|
  andThen (lift (validateAddressPayload chars req.address))
    fun _ =>
  (Prog.perform Op.newId).bind fun addressId =>
  (Prog.perform Op.utcNow).bind fun now =>
  andThen
    (Prog.perform (Op.createDocument req.userId .addresses
      (Value.insertField "createdAt" (.string now)
        (Value.insertField "id" (.string addressId)
          (Value.insertField "uid" (.string req.userId)
            req.address.fields)))))
    fun _ => ok (.record addressId)

def updateBuyerAddress (req : UpdateBuyerAddressRequest) :
    Handler Reply :=
  authorize auth req.userId <|
  andThen (lift (validateUid "addressId" req.addressId))
    fun _ =>
  andThen (lift (validateAddressPayload chars req.address))
    fun _ =>
  (Prog.perform Op.utcNow).bind fun now =>
  andThen
    (Prog.perform (Op.updateDocument req.userId .addresses
      req.addressId
      (Value.insertField "updatedAt" (.string now)
        req.address.fields)))
    fun _ => ok .success

def deleteBuyerAddress (req : DeleteBuyerAddressRequest) :
    Handler Reply :=
  authorize auth req.userId <|
  andThen (lift (validateUid "addressId" req.addressId))
    fun _ =>
  andThen
    (Prog.perform (Op.deleteDocument req.userId .addresses
      req.addressId))
    fun _ => ok .success

def setDefaultBuyerAddress
    (req : SetDefaultBuyerAddressRequest) : Handler Reply :=
  authorize auth req.userId <|
  andThen (lift (validateUid "addressId" req.addressId))
    fun _ =>
  andThen (Prog.perform (Op.updateDocument req.userId .users
      req.userId
      [("defaultAddressId", .string req.addressId)]))
    fun _ => ok .success

--------
-- Warehouses Of Sellers
--------

variable (chars : Chars) (auth : AuthContext)

/- The other warehouses are no longer the default one. -/
def clearEach
    (userId : String)
    (excludeId : Option String) : List String → Handler Unit
  | [] => ok ()
  | id :: ids =>
    if excludeId = some (key .warehouses id) then
      clearEach userId excludeId ids
    else
      andThen
        (Prog.perform (Op.updateDocument userId .warehouses
          (key .warehouses id)
          [("isDefault", .bool false)]))
        fun _ => clearEach userId excludeId ids

def clearOtherDefaults
    (userId : String)
    (excludeId : Option String) : Handler Unit :=
  andThen (Prog.perform (Op.defaultWarehouses userId))
    fun ids => clearEach userId excludeId ids

def loadOwnedWarehouse (userId warehouseId : String) :
    Handler Fields :=
  andThen
    (Prog.perform (Op.getDocument .warehouses warehouseId))
    fun doc =>
  if (text? doc "parent_id").getD "" ≠
      warehouseParent userId then
    fail (.notFound "Warehouse not found")
  else ok doc

/- A step that is taken only under a condition. -/
def onlyIf (test : Bool) (step : Handler Unit) :
    Handler Unit :=
  if test then step else ok ()

def createWarehouse (req : CreateWarehouseRequest) :
    Handler Reply :=
  andThen (lift (validateUid "userId" req.userId)) fun _ =>
  andThen (lift (resolveSelfUserId auth req.userId "userId"))
    fun userId =>
  andThen (Prog.perform (Op.checkUserRateLimit userId
      "create_warehouse" 15 60))
    fun _ =>
  andThen (lift (sanitizeLabel chars req.label)) fun label =>
  andThen (lift (sanitizeType req.warehouseType))
    fun warehouseType =>
  andThen (lift (sanitizeAddress chars req.address))
    fun address =>
  andThen
    (onlyIf req.isDefault (clearOtherDefaults userId none))
    fun _ =>
  (Prog.perform Op.utcNow).bind fun now =>
  andThen
    (Prog.perform (Op.createDocument userId .warehouses
      (Value.merge []
        [("parent_id", .string (warehouseParent userId)),
          ("parent_collection", .string "users"),
          ("label", .string label),
          ("type", .string warehouseType),
          ("address", address),
          ("isDefault", .bool req.isDefault),
          ("createdAt", .string now)])))
    fun id => ok (.record (key .warehouses id))

/- The fields of an update that are given. -/
def warehousePatch (req : UpdateWarehouseRequest) :
    Except Error Fields := do
  let label ← req.label.mapM (sanitizeLabel chars)
  let warehouseType ← req.warehouseType.mapM sanitizeType
  let address ← req.address.mapM (sanitizeAddress chars)
  pure
    ((label.map (fun t => ("label", .string t))).toList ++
      (warehouseType.map
        (fun t => ("type", .string t))).toList ++
      (address.map (Prod.mk "address")).toList ++
      (req.isDefault.map
        (fun b => ("isDefault", Value.bool b))).toList)

def updateWarehouse (req : UpdateWarehouseRequest) :
    Handler Reply :=
  andThen (lift (validateUid "userId" req.userId)) fun _ =>
  andThen (lift (validateUid "warehouseId" req.warehouseId))
    fun _ =>
  andThen (lift (resolveSelfUserId auth req.userId "userId"))
    fun userId =>
  andThen (Prog.perform (Op.checkUserRateLimit userId
      "update_warehouse" 30 60))
    fun _ =>
  andThen (loadOwnedWarehouse userId req.warehouseId)
    fun _ =>
  andThen (lift (warehousePatch chars req)) fun patch =>
  andThen (onlyIf (req.isDefault = some true)
      (clearOtherDefaults userId (some req.warehouseId)))
    fun _ =>
  require (!patch.isEmpty)
    (.validation "No valid fields to update") <|
  (Prog.perform Op.utcNow).bind fun now =>
  andThen
    (Prog.perform (Op.updateDocument userId .warehouses
      req.warehouseId
      (Value.insertField "updatedAt" (.string now)
        (Value.merge [] patch))))
    fun _ => ok (.record req.warehouseId)

def isTrue : Option Value → Bool
  | some (.bool b) => b
  | _ => false

/- The first of the other warehouses becomes the default. -/
def promoteOther (userId warehouseId : String) :
    Handler Unit :=
  andThen
    (Prog.perform (Op.otherWarehouses userId warehouseId))
    fun ids =>
  match ids with
  | [] => ok ()
  | id :: _ =>
    Prog.perform (Op.updateDocument userId .warehouses
      (key .warehouses id) [("isDefault", .bool true)])

def deleteWarehouse (req : DeleteWarehouseRequest) :
    Handler Reply :=
  andThen (lift (validateUid "userId" req.userId)) fun _ =>
  andThen (lift (validateUid "warehouseId" req.warehouseId))
    fun _ =>
  andThen (lift (resolveSelfUserId auth req.userId "userId"))
    fun userId =>
  andThen (Prog.perform (Op.checkUserRateLimit userId
      "delete_warehouse" 15 60))
    fun _ =>
  andThen (loadOwnedWarehouse userId req.warehouseId)
    fun existing =>
  andThen
    (Prog.perform (Op.productsWith userId req.warehouseId))
    fun referenced =>
  require (!referenced)
    (.validation ("Cannot delete warehouse while products " ++
      "still reference it")) <|
  andThen (onlyIf (isTrue (existing.lookup "isDefault"))
      (promoteOther userId req.warehouseId))
    fun _ =>
  andThen
    (Prog.perform (Op.deleteDocument userId .warehouses
      req.warehouseId))
    fun _ => ok (.record req.warehouseId)

--------
-- Calls
--------

/- A request with its caller. -/
structure Call where
  auth : AuthContext
  request : Request

def Call.body (chars : Chars) (call : Call) : Handler Reply :=
  match call.request with
  | .addBuyerAddress req =>
    Addresses.addBuyerAddress chars call.auth req
  | .updateBuyerAddress req =>
    Addresses.updateBuyerAddress chars call.auth req
  | .deleteBuyerAddress req =>
    Addresses.deleteBuyerAddress call.auth req
  | .setDefaultBuyerAddress req =>
    Addresses.setDefaultBuyerAddress call.auth req
  | .createWarehouse req =>
    Addresses.createWarehouse chars call.auth req
  | .updateWarehouse req =>
    Addresses.updateWarehouse chars call.auth req
  | .deleteWarehouse req =>
    Addresses.deleteWarehouse call.auth req

end Orignabase.Addresses
