import Orignabase.Core.Json
import Orignabase.Core.Validate
import Orignabase.Lib.Runs
import Orignabase.Mcp.Safeguards

/-
  The agent tools that put products into a cart and check
  them out.

  Source: `add_to_cart` in `crates/ob-mcp/src/tools/shopping.rs`
  and `create_checkout` in `crates/ob-mcp/src/tools/orders.rs`.

  Key definitions include:
    * `exec`
    * `addToCart`
    * `createCheckout`
    * `Call.body`
-/

--------
-- Operations
--------

namespace Orignabase.Mcp

open Conc

inductive Op where
  | trackerCheck (key : String)
  | trackerMark (key : String) (result : Response)
  | spendCheck (userId : String) (amountCents : ℕ)
  | spendRecord (userId : String) (amountCents : ℕ)
  /- A document of `products`. -/
  | getDocument (recordId : String)
  | newUuid
  | utcNow

/-
  A recording tells the time it noted, which no code sees.
-/
abbrev Res : Op → Type
  | .trackerCheck _ => Option Response
  | .trackerMark .. => Unit
  | .spendCheck .. => Except McpError Unit
  | .spendRecord .. => ℤ
  | .getDocument _ => Except Error Value
  | .newUuid => String
  | .utcNow => ℤ

/-
  What the environment decides of a step: the clock, also as
  a cleanup reads it, the order in which a map is iterated, a
  document of the store and a random id.
-/
structure Answer where
  now : ℤ := 0
  cleanupNow : ℤ := 0
  order : List String := []
  document : Except Error Value := .ok .null
  uuid : String := ""

/- `spent` is never read: all that was recorded, by user. -/
structure World where
  now : ℤ
  tracker : IdempotencyTracker
  limit : SpendLimit
  spent : String → List Spend

/- The clock does not go back. -/
def World.reading (w : World) (t : ℤ) : ℤ := max w.now t

def exec : Exec Res Answer World
  | .trackerCheck key, a, w =>
    let cleanupNow := w.reading a.cleanupNow
    let now := max cleanupNow a.now
    let out := w.tracker.check key cleanupNow now
    (out.1, { w with now := now, tracker := out.2 })
  | .trackerMark key result, a, w =>
    let now := w.reading a.now
    ((), { w with
      now := now
      tracker := w.tracker.mark key result now a.order })
  | .spendCheck userId amountCents, a, w =>
    let cleanupNow := w.reading a.cleanupNow
    let now := max cleanupNow a.now
    let out := w.limit.check userId amountCents cleanupNow
      now a.order
    (out.1, { w with now := now, limit := out.2 })
  | .spendRecord userId amountCents, a, w =>
    let now := w.reading a.now
    (now, { w with
      now := now
      limit := w.limit.record userId amountCents now
      spent := fun user =>
        if user = userId then
          w.spent user ++ [⟨amountCents, now⟩]
        else w.spent user })
  | .getDocument _, a, w => (a.document, w)
  | .newUuid, a, w => (a.uuid, w)
  | .utcNow, a, w =>
    (w.reading a.now, { w with now := w.reading a.now })

/- A server that has just started. -/
def World.started
    (now : ℤ)
    (maxAmountCents maxPer24hCents : ℕ) : World where
  now := now
  tracker := {}
  limit := {
    maxAmountCents := maxAmountCents
    maxPer24hCents := maxPer24hCents }
  spent := fun _ => []

--------
-- Tools
--------

abbrev Handler (α : Type) :=
  Prog Res (Except McpError α)

namespace Handler

variable {α β : Type}

def ok (a : α) : Handler α := .ret (.ok a)

def fail (e : McpError) : Handler α := .ret (.error e)

def andThen
    (p : Handler α)
    (f : α → Handler β) : Handler β :=
  p.bind fun r =>
    match r with
    | .ok a => f a
    | .error e => fail e

/- The rest, if the first part succeeded. -/
def lift
    (r : Except McpError α)
    (f : α → Handler β) : Handler β :=
  match r with
  | .ok a => f a
  | .error e => fail e

end Handler

open Handler

/- What both tools do around the tracker. -/
def onceForKey
    (key : Option String)
    (operation : Handler Response) : Handler Response :=
  match key with
  | none => operation
  | some key =>
    (Prog.perform (Op.trackerCheck key)).bind fun cached =>
    match cached with
    | some cached => ok cached
    | none =>
      andThen operation fun result =>
      (Prog.perform (Op.trackerMark key result)).bind
        fun _ => ok result

def idempotencyKey (params : Value) : Option String :=
  params.getStr "idempotency_key"

/- The checks of `add_to_cart`, before the tracker. -/
def cartParams
    (params : Value) : Except McpError (String × ℕ) :=
  match params.getStr "product_id" with
  | none => .error (.invalidParams "Missing 'product_id'")
  | some productId =>
  match (params.get "quantity").bind Value.asU64 with
  | none => .error (.invalidParams "Missing 'quantity'")
  | some quantity =>
    if quantity < 1 then
      .error (.validationError "Quantity must be >= 1")
    else if 99 < quantity then
      .error (.validationError "Quantity must be <= 99")
    else .ok (productId, quantity)

def addItem
    (userId : String)
    (item : String × ℕ) : Handler Response :=
  ok (.cart userId item.1 item.2)

def addToCart
    (userId : String)
    (params : Value) : Handler Response :=
  lift (cartParams params) fun item =>
  onceForKey (idempotencyKey params) (addItem userId item)

/- The checks of `create_checkout`, before the tracker. -/
def checkoutParams
    (params : Value) : Except McpError (List Value) :=
  match (params.get "items").bind Value.asArray with
  | none => .error (.invalidParams "Missing 'items' array")
  | some items =>
    if items.isEmpty then
      .error (.validationError "Items array cannot be empty")
    else
      match params.get "shipping_address" with
      | none =>
        .error (.invalidParams "Missing 'shipping_address'")
      | some _ => .ok items

/- What comes after the first colon, if there is one. -/
def recordIdOf (productId : String) : String :=
  match productId.toList.dropWhile (fun c => c ≠ ':') with
  | [] => productId
  | _ :: rest => String.ofList rest

def saturatingAdd (a b : ℕ) : ℕ := min (a + b) (2 ^ 64 - 1)

def saturatingMul (a b : ℕ) : ℕ := min (a * b) (2 ^ 64 - 1)

/- The price of an item, from the document of its product. -/
def itemCents
    (productId : String)
    (quantity : ℕ)
    (document : Except Error Value) : Except McpError ℕ :=
  let missing : Except McpError ℕ :=
    .error (.notFound ("Product " ++ productId ++ " not found"))
  match document with
  | .error (.notFound _) => missing
  | .error e =>
    .error (.internal ("Failed to fetch product " ++
      productId ++ ": " ++ e.display))
  | .ok .null => missing
  | .ok doc =>
    let priceCents :=
      ((doc.get "priceCents").bind Value.asU64).getD 0
    let stock :=
      ((doc.get "stockQuantity").bind Value.asU64).getD 0
    if (doc.getStr "lifecycleStatus").getD "" ≠ "active" then
      .error (.validationError ("Product " ++ productId ++
        " is not available for purchase"))
    else if stock < quantity then
      .error (.validationError ("Product " ++ productId ++
        " has insufficient stock (available: " ++
          toString stock ++ ")"))
    else .ok (saturatingMul priceCents quantity)

/- The loop over the items, with the total so far. -/
def totalOf : ℕ → List Value → Handler ℕ
  | total, [] => ok total
  | total, item :: rest =>
    match item.getStr "product_id" with
    | none =>
      fail (.invalidParams "Item missing 'product_id'")
    | some productId =>
    match (item.get "quantity").bind Value.asU64 with
    | none => fail (.invalidParams "Item missing 'quantity'")
    | some quantity =>
      (Prog.perform
        (Op.getDocument (recordIdOf productId))).bind
          fun document =>
      match itemCents productId quantity document with
      | .error e => fail e
      | .ok cents =>
        totalOf (saturatingAdd total cents) rest

/- The checkout of some items, once their total is known. -/
def spend
    (userId : String)
    (totalCents : ℕ) : Handler Response :=
  andThen (Prog.perform (Op.spendCheck userId totalCents))
    fun _ =>
  (Prog.perform (Op.spendRecord userId totalCents)).bind
    fun _ =>
  (Prog.perform Op.newUuid).bind fun checkoutId =>
  (Prog.perform Op.utcNow).bind fun now =>
  ok (.checkout checkoutId userId totalCents (now + 1800))

def checkoutItems
    (userId : String)
    (items : List Value) : Handler Response :=
  andThen (totalOf 0 items) (spend userId)

def createCheckout
    (userId : String)
    (params : Value) : Handler Response :=
  lift (checkoutParams params) fun items =>
  onceForKey (idempotencyKey params)
    (checkoutItems userId items)

structure Call where
  userId : String
  tool : Tool
  params : Value

def Call.body (call : Call) : Handler Response :=
  match call.tool with
  | .addToCart => addToCart call.userId call.params
  | .createCheckout => createCheckout call.userId call.params

end Orignabase.Mcp
