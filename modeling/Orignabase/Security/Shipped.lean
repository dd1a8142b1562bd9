import Orignabase.Security.Validation

/-
  The rules the server ships with (`rules.ob`), block by
  block in the order of the text.

  Key definitions include:
    * `Shipped.blocks`
    * `Shipped.engine`

  Main results:
    * `Shipped.check_block`
    * `Shipped.evalExpr_isOwner`
-/

--------
-- Calls
--------

namespace Orignabase.Security.Shipped

def isAuthenticated : Expression :=
  .functionCall "isAuthenticated" []

def hasRole (role : String) : Expression :=
  .functionCall "hasRole" [.stringLit role]

def isOwner (path : String) : Expression :=
  .functionCall "isOwner" [.path path]

def fieldEqualsAuth (field : String) : Expression :=
  .functionCall "fieldEqualsAuth" [.stringLit field]

def fieldAbsentOrEqualsAuth (field : String) : Expression :=
  .functionCall "fieldAbsentOrEqualsAuth" [.stringLit field]

def fieldUnchanged (field : String) : Expression :=
  .functionCall "fieldUnchanged" [.stringLit field]

/- The five entries that every block has. -/
def block
    (collection : String)
    (read create update delete list : Expression) :
    RuleBlock where
  collection := collection
  entries := [ .access ["read"] read,
    .access ["create"] create,
    .access ["update"] update,
    .access ["delete"] delete,
    .access ["list"] list]

--------
-- Blocks
--------

def users : RuleBlock :=
  block "users" (.and [isAuthenticated,
      .or [isOwner "resource.uid", hasRole "admin"]])
    (.and [isAuthenticated, fieldEqualsAuth "uid"])
    (.and [isAuthenticated, .or [hasRole "admin",
        .and [isOwner "resource.uid", fieldUnchanged "uid"]]])
    (.bool false)
    (hasRole "admin")

def products : RuleBlock :=
  block "products" (.bool true) (.and [isAuthenticated,
      .or [
        .and [hasRole "seller", fieldEqualsAuth "sellerId"],
        hasRole "admin"]])
    (.and [isAuthenticated, .or [hasRole "admin",
        .and [hasRole "seller", isOwner "resource.sellerId",
          fieldUnchanged "sellerId"]]])
    (.and [isAuthenticated, .or [hasRole "admin",
        .and [hasRole "seller",
          isOwner "resource.sellerId"]]])
    (.bool true)

def orders : RuleBlock :=
  block "orders" (.and [isAuthenticated,
      .or [hasRole "admin", isOwner "resource.userId",
        isOwner "resource.buyerId",
        isOwner "resource.sellerId",
        isOwner "resource.seller_id"]])
    (.or [hasRole "admin", .and [isAuthenticated,
        .or [fieldEqualsAuth "userId",
          fieldEqualsAuth "buyerId"],
        fieldAbsentOrEqualsAuth "userId",
        fieldAbsentOrEqualsAuth "buyerId"]])
    (hasRole "admin")
    (.bool false)
    isAuthenticated

def productRatings : RuleBlock :=
  block "product_ratings" isAuthenticated (.bool false)
    (.or [hasRole "admin", isOwner "resource.sellerId",
      isOwner "resource.seller_id"])
    (hasRole "admin")
    isAuthenticated

/- The user is one of the owners a document names. -/
def ownsResource : Expression :=
  .or [isOwner "resource.userId", isOwner "resource.ownerId",
    isOwner "resource.uid"]

/-
  Documents of one owner: `cart`, `users__cart`,
  `favorites`, `addresses`, `notifications` and
  `users__notifications` have the same rules.
-/
def owned (collection : String) : RuleBlock :=
  block collection (.and [isAuthenticated, ownsResource])
    (.and [isAuthenticated, .and [
        .or [fieldEqualsAuth "userId",
          fieldEqualsAuth "ownerId", fieldEqualsAuth "uid"],
        fieldAbsentOrEqualsAuth "userId",
        fieldAbsentOrEqualsAuth "ownerId",
        fieldAbsentOrEqualsAuth "uid"]])
    (.and [isAuthenticated, ownsResource,
      fieldUnchanged "userId", fieldUnchanged "ownerId",
      fieldUnchanged "uid"])
    (.and [isAuthenticated, ownsResource])
    isAuthenticated

def warehouses : RuleBlock :=
  block "warehouses" (.and [isAuthenticated,
      .or [hasRole "admin", isOwner "resource.userId",
        isOwner "resource.ownerId",
        isOwner "resource.sellerId",
        isOwner "resource.uid"]])
    (.bool false)
    (.bool false)
    (.bool false)
    (.and [isAuthenticated,
      .or [hasRole "seller", hasRole "admin"]])

def remoteConfig : RuleBlock :=
  block "remote_config" (.bool true)
    (.and [isAuthenticated, hasRole "admin"])
    (hasRole "admin")
    (hasRole "admin")
    (.bool true)

/- Collections that only administrators read. -/
def adminOnly (collection : String) : RuleBlock :=
  block collection (hasRole "admin") (.bool false)
    (.bool false)
    (.bool false)
    (hasRole "admin")

def errorEvents : RuleBlock :=
  block "error_events" (.and [isAuthenticated,
      .or [hasRole "admin", isOwner "resource.userId"]])
    (.and [isAuthenticated, fieldEqualsAuth "userId"])
    (hasRole "admin")
    (.bool false)
    (hasRole "admin")

def returnRequests : RuleBlock :=
  block "return_requests" (.and [isAuthenticated,
      .or [hasRole "admin", isOwner "resource.buyerId",
        isOwner "resource.userId",
        isOwner "resource.sellerId"]])
    (.bool false)
    (hasRole "admin")
    (.bool false)
    isAuthenticated

/- Collections that every user reads and nobody writes. -/
def signedInOnly (collection : String) : RuleBlock :=
  block collection isAuthenticated (.bool false)
    (.bool false)
    (.bool false)
    isAuthenticated

def stockNotifications : RuleBlock :=
  block "stock_notifications" (.and [isAuthenticated,
      .or [hasRole "admin", isOwner "resource.userId",
        isOwner "resource.ownerId",
        isOwner "resource.uid"]])
    (.bool false)
    (.bool false)
    (.bool false)
    isAuthenticated

def subscriptions : RuleBlock :=
  block "subscriptions" (.and [isAuthenticated,
      .or [hasRole "admin", isOwner "resource.userId",
        isOwner "resource.uid",
        isOwner "resource.ownerId"]])
    (hasRole "admin")
    (hasRole "admin")
    (hasRole "admin")
    (hasRole "admin")

/- `chat_conversations` and `chats`. -/
def conversations (collection : String) : RuleBlock :=
  block collection (.and [isAuthenticated,
      .or [hasRole "admin", isOwner "resource.buyerId",
        isOwner "resource.sellerId"]])
    (.and [isAuthenticated, .or [fieldEqualsAuth "buyerId",
        .and [hasRole "seller",
          fieldEqualsAuth "sellerId"]]])
    (.and [isAuthenticated, .or [hasRole "admin", .and [
          .or [isOwner "resource.buyerId",
            isOwner "resource.sellerId"],
          fieldUnchanged "buyerId",
          fieldUnchanged "sellerId"]]])
    (.bool false)
    isAuthenticated

/- `chat_messages` and `chats__messages`. -/
def messages (collection : String) : RuleBlock :=
  block collection (.and [isAuthenticated,
      .or [hasRole "admin", isOwner "resource.buyerId",
        isOwner "resource.sellerId",
        isOwner "resource.senderId"]])
    (.and [isAuthenticated, fieldEqualsAuth "senderId",
      .or [fieldEqualsAuth "buyerId",
        .and [hasRole "seller",
          fieldEqualsAuth "sellerId"]]])
    (.and [isAuthenticated, .or [hasRole "admin",
        .and [isOwner "resource.senderId",
          fieldUnchanged "senderId",
          fieldUnchanged "buyerId",
          fieldUnchanged "sellerId"]]])
    (.bool false)
    isAuthenticated

def sellerProfiles : RuleBlock :=
  block "seller_profiles" (.bool true)
    (.and [isAuthenticated, fieldEqualsAuth "uid"])
    (.and [isAuthenticated, isOwner "resource.uid",
      fieldUnchanged "uid"])
    (.bool false)
    (.bool true)

def productQuestions : RuleBlock :=
  block "product_questions" (.bool true)
    (.and [isAuthenticated, .and [
        .or [fieldEqualsAuth "userId", fieldEqualsAuth "uid"],
        fieldAbsentOrEqualsAuth "userId",
        fieldAbsentOrEqualsAuth "uid"]])
    (.and [isAuthenticated, .or [hasRole "admin", .and [
          .or [isOwner "resource.userId",
            isOwner "resource.uid"],
          fieldUnchanged "userId",
          fieldUnchanged "uid"]]])
    (hasRole "admin")
    (.bool true)

/- What no other block names is closed. -/
def closed : RuleBlock :=
  block "*" (.bool false) (.bool false) (.bool false)
    (.bool false) (.bool false)

def blocks : List RuleBlock := [
  users,
  products,
  orders,
  productRatings,
  owned "cart",
  owned "users__cart",
  warehouses,
  remoteConfig,
  adminOnly "config",
  adminOnly "admin_logs",
  adminOnly "security_alerts",
  errorEvents,
  adminOnly "rate_limits",
  adminOnly "webhook_logs",
  adminOnly "webhook_events",
  returnRequests,
  adminOnly "coupons",
  signedInOnly "seller_ratings",
  signedInOnly "review_votes",
  stockNotifications,
  subscriptions,
  conversations "chat_conversations",
  conversations "chats",
  messages "chat_messages",
  messages "chats__messages",
  owned "favorites",
  owned "addresses",
  owned "notifications",
  owned "users__notifications",
  sellerProfiles,
  productQuestions,
  closed]

def engine : RuleEngine :=
  RuleEngine.ofBlocks blocks

--------
-- Evaluation
--------

variable (floats : Floats) (ctx : SecurityContext)

/- The parts of the paths that the rules compare. -/
theorem splitDots_resource :
    splitDots "resource.userId" = ["resource", "userId"] ∧
    splitDots "resource.ownerId" = ["resource", "ownerId"] ∧
    splitDots "resource.uid" = ["resource", "uid"] ∧
    splitDots "resource.buyerId" = ["resource", "buyerId"] ∧
    splitDots "resource.sellerId" =
      ["resource", "sellerId"] ∧
    splitDots "resource.seller_id" =
      ["resource", "seller_id"] ∧
    splitDots "resource.senderId" =
      ["resource", "senderId"] := by
  decide +kernel

@[simp]
theorem evalExpr_bool (b : Bool) :
    evalExpr floats ctx (.bool b) = b := by
  simp [evalExpr]

@[simp]
theorem evalExpr_and (exprs : List Expression) :
    evalExpr floats ctx (.and exprs) =
      exprs.all (evalExpr floats ctx) := by
  rw [evalExpr]
  induction exprs with
  | nil => rfl
  | cons e exprs ih => rw [evalAll, ih, List.all_cons]

@[simp]
theorem evalExpr_or (exprs : List Expression) :
    evalExpr floats ctx (.or exprs) =
      exprs.any (evalExpr floats ctx) := by
  rw [evalExpr]
  induction exprs with
  | nil => rfl
  | cons e exprs ih => rw [evalAny, ih, List.any_cons]

@[simp]
theorem evalExpr_isAuthenticated :
    evalExpr floats ctx isAuthenticated =
      ctx.authenticated := by
  simp [isAuthenticated, evalExpr, evalFunction]

@[simp]
theorem evalExpr_hasRole (role : String) :
    evalExpr floats ctx (hasRole role) =
      ctx.roles.contains role := by
  simp [hasRole, evalExpr, evalFunction]

/- The owner is compared with a text of the document. -/
theorem evalExpr_isOwner
    {path field user : String}
    {document : Value}
    (hPath : splitDots path = ["resource", field])
    (hUser : ctx.userId = some user)
    (hResource : ctx.resource = some document) :
    evalExpr floats ctx (isOwner path) =
      (document.getStr field == some user) := by
  have hResolve :
      resolvePath path ctx =
        (document.get field).getD .null := by
    unfold resolvePath
    rw [hPath, hResource]
    unfold resolveJsonPath
    simp only [resolveJsonPathOption]
    cases document.get field <;> rfl
  unfold isOwner
  rw [evalExpr]
  simp only [evalFunction, hUser, hResolve, Value.getStr]
  cases document.get field with
  | none => simp
  | some value =>
    cases value with
    | string s =>
      by_cases hSame : s = user
      · simp [Value.asStr, hSame]
      · have hOther : user ≠ s := fun h => hSame h.symm
        simp [Value.asStr, hSame, hOther]
    | _ => simp [Value.asStr]

/- An entry for another operation does not matter. -/
theorem checkRules_block
    (collection : String)
    (read create update delete list : Expression) :
    let rules := (block collection read create update delete
        list).entries.map RuleEntry.rule
    checkRules floats ctx "read" rules =
      .ok (evalExpr floats ctx read) ∧
    checkRules floats ctx "create" rules =
      .ok (evalExpr floats ctx create) ∧
    checkRules floats ctx "update" rules =
      .ok (evalExpr floats ctx update) ∧
    checkRules floats ctx "delete" rules =
      .ok (evalExpr floats ctx delete) := by
  simp only [block, List.map_cons, List.map_nil,
    RuleEntry.rule, checkRules]
  refine ⟨?_, ?_, ?_, ?_⟩
  · cases evalExpr floats ctx read <;> simp
  · cases evalExpr floats ctx create <;> simp
  · cases evalExpr floats ctx update <;> simp
  · cases evalExpr floats ctx delete <;> simp

theorem check_block
    {name collection : String}
    {read create update delete list : Expression}
    (hBlock : governing blocks name =
      some (block collection read create update delete
        list)) :
    engine.check floats name "read" ctx =
      .ok (evalExpr floats ctx read) ∧
    engine.check floats name "create" ctx =
      .ok (evalExpr floats ctx create) ∧
    engine.check floats name "update" ctx =
      .ok (evalExpr floats ctx update) ∧
    engine.check floats name "delete" ctx =
      .ok (evalExpr floats ctx delete) := by
  unfold engine
  simp only [check_ofBlocks, hBlock]
  exact checkRules_block floats ctx _ _ _ _ _ _

end Orignabase.Security.Shipped
