import Orignabase.Lib.Timestamp
import Orignabase.Products.Payloads
import Orignabase.Store.Api

/-
  Licences of digital products: their activation on devices,
  and the tokens that stand for one download
  (`ob-handlers/src/digital/mod.rs`).

  A statement of the store takes effect at once or fails
  without one, and time passes with every statement.  A text
  that `to_rfc3339` made is read back as the same instant.

  Key definitions include:
    * `World`
    * `Op`
    * `exec`
    * `Call.body`
-/

--------
-- Records
--------

namespace Orignabase.Digital

open Products (Fields text?)

/- The two collections of download tokens. -/
inductive Kind
  | book
  | software
  deriving DecidableEq, Repr

/- A document that `download_book` or `download_software`
   stores; `source` is the URL that it redirects to. -/
structure Token where
  accessToken : String
  licenseKey : String
  userId : String
  productId : String
  source : Value
  expiresAt : Int
  used : Bool
  deriving Repr

structure World where
  now : Int
  licenses : Table Fields
  tokens : Kind → Table Token

def maxDevicesPerLicense : Nat := 5

def downloadTokenMinutes : Int := 15

namespace License

variable (license : Fields)

def activations : List Value :=
  ((license.lookup "activations").bind Value.asArray).getD []

def deviceLimit : Nat :=
  ((license.lookup "deviceLimit").bind Value.asU64).getD
    maxDevicesPerLicense

def status : String :=
  (text? license "status").getD ""

def userId : String :=
  (text? license "userId").getD ""

def productName : String :=
  (text? license "productName").getD ""

def digitalType : String :=
  (text? license "digitalType").getD ""

/- Where the downloads of a licence come from. -/
def source : Kind → Value
  | .book =>
    .string ((text? license "bookSourceUrl").getD "")
  | .software =>
    ((license.lookup "softwareSourceUrl").or
      (license.lookup "downloadUrl")).getD (.string "")

end License

def deviceId? (act : Value) : Option String :=
  act.getStr "deviceId"

--------
-- Statements
--------

open Conc Products

inductive Op
  | checkUserRateLimit (userId action : String)
      (limit minutes : Nat)
  | utcNow
  | newUuid
  | getLicense (licenseKey : String)
  | updateLicense (licenseKey : String) (patch : Fields)
  | createToken (kind : Kind) (doc : Token)
  | findToken (kind : Kind) (accessToken : String)
  | markUsed (kind : Kind) (id : String)
  | revokeLicenses (orderId productId revokedAt : String)

abbrev Res : Op → Type
  | .checkUserRateLimit .. => Except Error Unit
  | .utcNow => Int
  | .newUuid => String
  | .getLicense _ => Except Error Fields
  | .updateLicense .. => Except Error Unit
  | .createToken .. => Except Error Unit
  | .findToken .. => Except Error (Option (String × Token))
  | .markUsed .. => Except Error Unit
  | .revokeLicenses .. => Except Error Unit

/-
  What the environment decides: the error of a statement that
  fails, the time that passes, a random id, and the row that
  a query finds whose literal is broken.
-/
structure Answer where
  fault : Option Error := none
  elapsed : Nat := 0
  uuid : String := ""
  pick : Nat := 0

/- A statement that does not fail. -/
def statement
    {α : Type}
    (a : Answer)
    (w : World)
    (body : Except Error α × World) :
    Except Error α × World :=
  match a.fault with
  | some e => (.error e, w)
  | none => body

def updateLicense
    (licenseKey : String)
    (patch : Fields)
    (w : World) : Except Error Unit × World :=
  let key := docId "licenses" licenseKey
  match w.licenses.get key with
  | none =>
    (.error (.notFound ("licenses:" ++ key ++ " not found")),
      w)
  | some _ =>
    (.ok (),
      { w with
        licenses := w.licenses.modify key (fun license =>
          Value.merge license patch) })

def World.setTokens
    (w : World)
    (kind : Kind)
    (tokens : Table Token) : World :=
  { w with
    tokens := fun k => if k = kind then tokens else w.tokens k }

def createToken
    (kind : Kind)
    (doc : Token)
    (a : Answer)
    (w : World) : Except Error Unit × World :=
  match (w.tokens kind).get a.uuid with
  | some _ =>
    (.error (.validation "Document already exists"), w)
  | none =>
    (.ok (),
      w.setTokens kind ((w.tokens kind).insert a.uuid doc))

/- A literal with a quote or a backslash loses its meaning. -/
def findToken
    (kind : Kind)
    (accessToken : String)
    (a : Answer)
    (w : World) : Option (String × Token) :=
  if escapeSqlString accessToken = accessToken then
    (w.tokens kind).rows.find? (fun row =>
      row.2.accessToken = accessToken)
  else (w.tokens kind).rows[a.pick]?

def markUsed (kind : Kind) (id : String) (w : World) :
    Except Error Unit × World :=
  match (w.tokens kind).get id with
  | none => (.error (.notFound (id ++ " not found")), w)
  | some _ =>
    (.ok (), w.setTokens kind
        ((w.tokens kind).modify id (fun token =>
          { token with used := true })))

/- The licences of a refunded item are no longer active. -/
def revoke
    (orderId productId revokedAt : String)
    (license : Fields) : Fields :=
  if text? license "orderId" = some orderId ∧
      text? license "productId" = some productId ∧
      text? license "status" = some "active" then
    Value.merge license [("status", .string "revoked"),
        ("revokedAt", .string revokedAt)]
  else license

def act : Exec Res Answer World
  | .checkUserRateLimit .., a, w =>
    statement a w (.ok (), w)
  | .utcNow, _, w => (w.now, w)
  | .newUuid, a, w => (a.uuid, w)
  | .getLicense licenseKey, a, w =>
    let key := docId "licenses" licenseKey
    statement a w
      (match w.licenses.get key with
        | none =>
          .error (.notFound
            ("licenses:" ++ key ++ " not found"))
        | some license => .ok license, w)
  | .updateLicense licenseKey patch, a, w =>
    statement a w (updateLicense licenseKey patch w)
  | .createToken kind doc, a, w =>
    statement a w (createToken kind doc a w)
  | .findToken kind accessToken, a, w =>
    statement a w (.ok (findToken kind accessToken a w), w)
  | .markUsed kind id, a, w =>
    statement a w (markUsed kind id w)
  | .revokeLicenses orderId productId revokedAt, a, w =>
    statement a w
      (.ok (),
        { w with
          licenses := ⟨w.licenses.rows.map (fun row =>
              (row.1, revoke orderId productId revokedAt
                  row.2))⟩ })

/- Time passes, then the statement is carried out. -/
def exec : Exec Res Answer World :=
  fun o a w => act o a { w with now := w.now + a.elapsed }

--------
-- Requests
--------

structure ActivateLicenseRequest where
  licenseKey : String
  deviceId : String
  userId : String
  platform : Option String := none

structure DeactivateLicenseRequest where
  licenseKey : String
  deviceId : String
  userId : String

structure DownloadRequest where
  productId : String
  userId : String
  licenseKey : Option String := none

structure VerifyLicenseRequest where
  licenseKey : String
  deviceId : Option String := none

/-
  The requests of a client, and the statement with which the
  refund of an item revokes its licences
  (`orders/refunds.rs`).
-/
inductive Request
  | activateLicense (req : ActivateLicenseRequest)
  | deactivateLicense (req : DeactivateLicenseRequest)
  | verifyLicense (req : VerifyLicenseRequest)
  | downloadBook (req : DownloadRequest)
  | downloadSoftware (req : DownloadRequest)
  | getBookRedirect (t : String)
  | getSoftwareRedirect (t : String)
  | refundItem (orderId productId : String)

inductive Reply
  | approved (licenseKey activatedAt productName : String)
  | deactivated (remainingActivations : Nat)
  | verified
      (valid : Bool)
      (licenseKey productName status : String)
  | download (downloadUrl : String)
  | redirect (sourceUrl : String)
  | revoked
  deriving DecidableEq, Repr

--------
-- Activations
--------

open Handler Timestamp

abbrev Handler (α : Type) :=
  Prog Res (Except Error α)

variable (upper : String → String) (auth : AuthContext)

/- `^[A-Z0-9]{4}-[A-Z0-9]{4}-[A-Z0-9]{4}-[A-Z0-9]{4}$` -/
def isValidLicenseKey (licenseKey : String) : Bool :=
  licenseKey.toList.length = 19 &&
    licenseKey.toList.zipIdx.all (fun entry =>
      if entry.2 % 5 = 4 then entry.1 = '-'
      else entry.1.isUpper || entry.1.isDigit)

def normalize (licenseKey : String) : String :=
  upper (Text.trim licenseKey)

/- Every error of the lookup counts as a missing licence. -/
def loadLicense (licenseKey : String) : Handler Fields :=
  mapErr (Prog.perform (Op.getLicense licenseKey))
    (fun _ => .notFound "License not found")

/- The activation was verified just now. -/
def touch (now : String) : Value → Value
  | .object fields =>
    .object
      (Value.insertField "lastVerifiedAt" (.string now)
        fields)
  | v => v

def touchFirst (deviceId now : String) :
    List Value → List Value
  | [] => []
  | act :: rest =>
    if deviceId? act = some deviceId then
      touch now act :: rest
    else act :: touchFirst deviceId now rest

def touchAll
    (deviceId now : String)
    (activations : List Value) : List Value :=
  activations.map (fun act =>
    if deviceId? act = some deviceId then touch now act
    else act)

def newActivation
    (deviceId platform now : String) : Value :=
  .object (Value.merge [] [("deviceId", .string deviceId),
      ("platform", .string platform),
      ("activatedAt", .string now),
      ("lastVerifiedAt", .string now)])

def activationsPatch
    (activations : List Value)
    (now : String) : Fields :=
  [("activations", .array activations),
    ("updatedAt", .string now)]

/- What is left of an activation once it is checked. -/
def saveActivation
    (licenseKey deviceId platform now : String)
    (license : Fields) : Handler Reply :=
  match (License.activations license).find? (fun act =>
      deviceId? act = some deviceId) with
  | some act =>
    (Prog.perform (Op.updateLicense licenseKey
        (activationsPatch (touchFirst deviceId now
            (License.activations license))
          now))).bind fun _ =>
    ok (.approved licenseKey
      ((act.getStr "activatedAt").getD now)
      (License.productName license))
  | none =>
    require ((License.activations license).length <
        License.deviceLimit license)
      (.forbidden "Device activation limit reached") <|
    andThen (mapErr (Prog.perform
          (Op.updateLicense licenseKey (activationsPatch
              (License.activations license ++
                [newActivation deviceId platform now])
              now)))
        (fun e =>
          .database
            ("Failed to activate license: " ++ e.display)))
      fun _ =>
    ok (.approved licenseKey now
      (License.productName license))

def activateLicense (req : ActivateLicenseRequest) :
    Handler Reply :=
  andThen (lift (validateUid "userId" req.userId)) fun _ =>
  andThen (lift (resolveSelfUserId auth req.userId "userId"))
    fun userId =>
  andThen (Prog.perform (Op.checkUserRateLimit userId
      "activate_license" 20 60))
    fun _ =>
  require (isValidLicenseKey (normalize upper req.licenseKey))
    (.validation "Invalid license key format") <|
  require (Text.trim req.deviceId != "")
    (.validation "deviceId is required") <|
  andThen (loadLicense (normalize upper req.licenseKey))
    fun license =>
  require (License.status license = "active")
    (.forbidden "License has been revoked") <|
  require (License.userId license = userId)
    (.forbidden "You do not own this license") <|
  (Prog.perform Op.utcNow).bind fun now =>
  saveActivation (normalize upper req.licenseKey)
    (Text.trim req.deviceId) (req.platform.getD "")
    (toRfc3339 now) license

def deactivateLicense (req : DeactivateLicenseRequest) :
    Handler Reply :=
  andThen (lift (validateUid "userId" req.userId)) fun _ =>
  andThen (lift (resolveSelfUserId auth req.userId "userId"))
    fun userId =>
  andThen (Prog.perform (Op.checkUserRateLimit userId
      "deactivate_license" 20 60))
    fun _ =>
  require (isValidLicenseKey (normalize upper req.licenseKey))
    (.validation "Invalid license key format") <|
  require (req.deviceId != "")
    (.validation "deviceId is required") <|
  andThen (loadLicense (normalize upper req.licenseKey))
    fun license =>
  require (License.userId license = userId)
    (.forbidden "Not your license") <|
  (Prog.perform Op.utcNow).bind fun now =>
  let remaining :=
    (License.activations license).filter (fun act =>
      deviceId? act != some req.deviceId)
  andThen (mapErr (Prog.perform
        (Op.updateLicense (normalize upper req.licenseKey)
          (activationsPatch remaining (toRfc3339 now))))
      (fun e =>
        .database ("Failed to deactivate: " ++ e.display)))
    fun _ => ok (.deactivated remaining.length)

def verifyLicense (req : VerifyLicenseRequest) :
    Handler Reply :=
  require (isValidLicenseKey (normalize upper req.licenseKey))
    (.validation "Invalid license key format") <|
  andThen (loadLicense (normalize upper req.licenseKey))
    fun license =>
  let status := (text? license "status").getD "unknown"
  let reply : Handler Reply :=
    ok (.verified (status = "active")
      (normalize upper req.licenseKey)
      (License.productName license) status)
  match req.deviceId with
  | none => reply
  | some deviceId =>
    if (License.activations license).any (fun act =>
        deviceId? act = some deviceId) then
      (Prog.perform Op.utcNow).bind fun now =>
      (Prog.perform
        (Op.updateLicense (normalize upper req.licenseKey)
          (activationsPatch
            (touchAll deviceId (toRfc3339 now)
              (License.activations license))
            (toRfc3339 now)))).bind fun _ =>
      reply
    else reply

--------
-- Downloads
--------

variable (upper : String → String) (auth : AuthContext)

/- One kind of digital product, in the words of its handler. -/
structure DownloadKind where
  kind : Kind
  action : String
  digitalType : String
  wrongType : String
  path : String

/- What both handlers of downloads do. -/
def download (k : DownloadKind) (req : DownloadRequest) :
    Handler Reply :=
  andThen (lift (validateUid "productId" req.productId))
    fun _ =>
  andThen (lift (validateUid "userId" req.userId)) fun _ =>
  andThen (lift (resolveSelfUserId auth req.userId "userId"))
    fun userId =>
  andThen
    (Prog.perform (Op.checkUserRateLimit userId k.action 10
      60))
    fun _ =>
  require (req.licenseKey.getD "" != "")
    (.validation "licenseKey is required") <|
  let licenseKey := normalize upper (req.licenseKey.getD "")
  require (isValidLicenseKey licenseKey)
    (.validation "Invalid license key format") <|
  andThen (loadLicense licenseKey) fun license =>
  require (License.userId license = userId)
    (.forbidden "Not your license") <|
  require (License.status license = "active")
    (.forbidden "License revoked") <|
  require (License.digitalType license = k.digitalType)
    (.validation k.wrongType) <|
  (Prog.perform Op.newUuid).bind fun uuid =>
  (Prog.perform Op.utcNow).bind fun now =>
  andThen (mapErr (Prog.perform (Op.createToken k.kind
          { accessToken := "tok_" ++ uuid
            licenseKey := licenseKey
            userId := userId
            productId := req.productId
            source := License.source license k.kind
            expiresAt := now + downloadTokenMinutes * 60 *
                Timestamp.nanosPerSecond
            used := false }))
      (fun e =>
        .database
          ("Failed to create download token: " ++ e.display)))
    fun _ => ok (.download (k.path ++ "tok_" ++ uuid))

def downloadBook (req : DownloadRequest) : Handler Reply :=
  download upper auth
    { kind := .book
      action := "download_book"
      digitalType := "book"
      wrongType := "Not a book license"
      path := "/dl?t=" } req

def downloadSoftware (req : DownloadRequest) :
    Handler Reply :=
  download upper auth
    { kind := .software
      action := "download_software"
      digitalType := "software"
      wrongType := "Not a software license"
      path := "/sdl?t=" } req

def validateStringToken (field token : String) :
    Except Error Unit :=
  if Text.trim token = "" ∨ 255 < token.utf8ByteSize then
    .error (.validation (field ++ " is invalid"))
  else .ok ()

/- What both redirects do; the result of the marking is
   not looked at. -/
def redirect (kind : Kind) (t : String) : Handler Reply :=
  andThen (lift (validateStringToken "t" t)) fun _ =>
  andThen (Prog.perform (Op.findToken kind t)) fun found =>
  match found with
  | none => fail (.notFound "Download token not found")
  | some (id, token) =>
    require (!token.used)
      (.forbidden "Download token already used") <|
    (Prog.perform Op.utcNow).bind fun now =>
    require (now ≤ token.expiresAt)
      (.forbidden "Download token expired") <|
    match token.source.asStr with
    | none => fail (.notFound "Download URL not found")
    | some sourceUrl =>
      (Prog.perform (Op.markUsed kind id)).bind fun _ =>
      ok (.redirect sourceUrl)

def getBookRedirect (t : String) : Handler Reply :=
  redirect .book t

def getSoftwareRedirect (t : String) : Handler Reply :=
  redirect .software t

--------
-- Calls
--------

/- The statement of a refund that concerns licences. -/
def refundItem (orderId productId : String) :
    Handler Reply :=
  (Prog.perform Op.utcNow).bind fun now =>
  andThen (Prog.perform (Op.revokeLicenses orderId productId
      (Timestamp.toRfc3339 now)))
    fun _ => ok .revoked

/- A request with its caller. -/
structure Call where
  auth : AuthContext
  request : Request

def Call.body (upper : String → String) (call : Call) :
    Handler Reply :=
  match call.request with
  | .activateLicense req =>
    Digital.activateLicense upper call.auth req
  | .deactivateLicense req =>
    Digital.deactivateLicense upper call.auth req
  | .verifyLicense req => Digital.verifyLicense upper req
  | .downloadBook req =>
    Digital.downloadBook upper call.auth req
  | .downloadSoftware req =>
    Digital.downloadSoftware upper call.auth req
  | .getBookRedirect t => Digital.getBookRedirect t
  | .getSoftwareRedirect t => Digital.getSoftwareRedirect t
  | .refundItem orderId productId =>
    Digital.refundItem orderId productId

end Orignabase.Digital
