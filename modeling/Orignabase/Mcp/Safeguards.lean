import Orignabase.Lib.Table

/-
  The safeguards of the agent tools.

  Source: `crates/ob-mcp/src/safeguards.rs`.

  Both are kept in memory and shared by all users: a cache of
  responses by the idempotency key of the client, and the
  amounts that each user has spent within a day.

  Key definitions include:
    * `IdempotencyTracker`
    * `SpendLimit`
-/

--------
-- Errors and Responses
--------

namespace Orignabase.Mcp

inductive McpError where
  | invalidParams (message : String)
  | internal (message : String)
  | notFound (message : String)
  | validationError (message : String)
deriving DecidableEq

inductive Tool where
  | addToCart
  | createCheckout
deriving DecidableEq

/- The objects that the two tools answer with. -/
inductive Response where
  | cart (userId productId : String) (quantity : ℕ)
  | checkout
      (checkoutId userId : String)
      (totalCents : ℕ)
      (expiresAt : ℤ)
deriving DecidableEq

namespace Response

def userId : Response → String
  | .cart userId _ _ => userId
  | .checkout _ userId _ _ => userId

def tool : Response → Tool
  | .cart .. => .addToCart
  | .checkout .. => .createCheckout

end Response

--------
-- Maps
--------

section

variable {V : Type}

/-
  The rows in the order in which the map iterates over them,
  which is any order.
-/
def inOrder
    (order : List String)
    (t : Table V) : List (String × V) :=
  if order.isPerm t.keys then
    order.filterMap fun key =>
      (t.get key).map fun v => (key, v)
  else t.rows

/- Without the first `count` rows in the order of their time. -/
def evictOldest
    (count : ℕ)
    (order : List String)
    (time : V → ℤ)
    (t : Table V) : Table V :=
  let byAge := (inOrder order t).mergeSort fun a b =>
    decide (time a.2 ≤ time b.2)
  (byAge.take count).foldl (fun t row => t.erase row.1) t

end

--------
-- Idempotency
--------

def idempotencyTtlSecs : ℤ := 24 * 60 * 60

/- The entries before the oldest half is dropped. -/
def maxEntries : ℕ := 10000

/- The checks between two cleanups. -/
def cleanupInterval : ℕ := 100

structure IdempotencyTracker where
  cache : Table (Response × ℤ) := ⟨[]⟩
  checkCount : ℕ := 0

namespace IdempotencyTracker

variable (self : IdempotencyTracker)

def cleanup (now : ℤ) : IdempotencyTracker :=
  { self with
    cache := ⟨self.cache.rows.filter fun row =>
      decide (now - row.2.2 < idempotencyTtlSecs)⟩ }

/- Whether the operation was processed, after a cleanup. -/
def check
    (key : String)
    (cleanupNow now : ℤ) :
    Option Response × IdempotencyTracker :=
  let count := self.checkCount + 1
  let self :=
    if cleanupInterval ≤ count then
      { self with checkCount := 0 }.cleanup cleanupNow
    else { self with checkCount := count }
  let found := (self.cache.get key).bind fun entry =>
    if now - entry.2 < idempotencyTtlSecs then some entry.1
    else none
  (found, self)

def mark
    (key : String)
    (result : Response)
    (now : ℤ)
    (order : List String) : IdempotencyTracker :=
  let cache :=
    if maxEntries ≤ self.cache.rows.length then
      evictOldest (self.cache.rows.length / 2) order
        (fun entry => entry.2) self.cache
    else self.cache
  { self with cache := cache.upsert key (result, now) }

end IdempotencyTracker

--------
-- Spend Limit
--------

def spendTtlSecs : ℤ := 86400

def spendMaxUsers : ℕ := 10000

def spendCleanupInterval : ℕ := 100

/- An amount and when it was spent. -/
structure Spend where
  amountCents : ℕ
  time : ℤ
deriving DecidableEq

/- The sum of 64-bit amounts, which wraps. -/
def sumCents (entries : List Spend) : ℕ :=
  (entries.map Spend.amountCents).sum % 2 ^ 64

/- The entries that are not older than the limit looks back. -/
def unexpired
    (now : ℤ)
    (entries : List Spend) : List Spend :=
  entries.filter fun e => decide (now - e.time < spendTtlSecs)

structure SpendLimit where
  maxAmountCents : ℕ
  maxPer24hCents : ℕ
  userSpend : Table (List Spend) := ⟨[]⟩
  checkCount : ℕ := 0

namespace SpendLimit

variable (self : SpendLimit)

def entries (userId : String) : List Spend :=
  (self.userSpend.get userId).getD []

def newest (entries : List Spend) : ℤ :=
  ((entries.map Spend.time).max?).getD 0

/- The users that have spent something lately. -/
def liveUsers (now : ℤ) : Table (List Spend) :=
  ⟨(self.userSpend.rows.map fun row =>
      (row.1, unexpired now row.2)).filter fun row =>
    !row.2.isEmpty⟩

def cleanup
    (now : ℤ)
    (order : List String) : SpendLimit :=
  let kept := self.liveUsers now
  { self with
    userSpend :=
      if spendMaxUsers < kept.rows.length then
        evictOldest (kept.rows.length - spendMaxUsers / 2)
          order newest kept
      else kept }

/- Count a check; every so often it cleans up. -/
def counted
    (cleanupNow : ℤ)
    (order : List String) : SpendLimit :=
  let count := self.checkCount + 1
  if spendCleanupInterval ≤ count then
    { self with checkCount := 0 }.cleanup cleanupNow order
  else { self with checkCount := count }

/- Whether the user can spend the amount, after a cleanup. -/
def check
    (userId : String)
    (amountCents : ℕ)
    (cleanupNow now : ℤ)
    (order : List String) :
    Except McpError Unit × SpendLimit :=
  if self.maxAmountCents < amountCents then
    (.error (.validationError
      ("Amount exceeds per-request limit of $" ++
        toString (self.maxAmountCents / 100))), self)
  else
    let self := self.counted cleanupNow order
    let entries := unexpired now (self.entries userId)
    let self := { self with
      userSpend := self.userSpend.upsert userId entries }
    if self.maxPer24hCents <
        (sumCents entries + amountCents) % 2 ^ 64 then
      (.error (.validationError
        "Amount exceeds 24h spend limit"), self)
    else (.ok (), self)

def record
    (userId : String)
    (amountCents : ℕ)
    (now : ℤ) : SpendLimit :=
  { self with
    userSpend := self.userSpend.upsert userId
      (unexpired now (self.entries userId) ++
        [⟨amountCents, now⟩]) }

end SpendLimit

end Orignabase.Mcp
