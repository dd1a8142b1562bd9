import Orignabase.Security.Shipped

/-
  Change events and the subscriptions they are sent to
  (`ob-realtime/src/dispatcher.rs`, `registry.rs` and
  `websocket.rs`), compared with the rules the server ships.

  Key definitions include:
    * `ChangeEvent`
    * `Subscription`
    * `allowedCollections`
    * `filterByOwnership`
    * `delivered`
    * `Covered`

  Main results:
    * `owners_readable_iff`, `unfiltered_readable_iff`
    * `delivered_readable_iff`
-/

--------
-- Events and Subscriptions
--------

namespace Orignabase.Realtime

inductive ChangeAction
  | create
  | update
  | delete
  deriving DecidableEq, Repr

structure ChangeEvent where
  action : ChangeAction
  collection : String
  documentId : String
  data : Value
  beforeData : Option Value
  afterData : Option Value
  deriving Repr

structure Subscription where
  id : String
  collection : String
  filterHash : Nat
  documentId : Option String
  userId : Option String
  deriving DecidableEq, Repr

/- The collections a client may subscribe to. -/
def allowedCollections : List String := [
  "products",
  "orders",
  "cart",
  "users__cart",
  "favorites",
  "notifications",
  "users__notifications",
  "chats",
  "chats__messages",
  "chat_messages",
  "chat_threads",
  "product_questions",
  "users",
  "reviews",
  "seller_profiles",
  "warehouses",
  "return_requests",
  "subscriptions"]

/- All subscriptions for a collection, whatever their filter. -/
def findAllForCollection
    (subscriptions : List Subscription)
    (collection : String) : List Subscription :=
  subscriptions.filter (·.collection = collection)

--------
-- Dispatch
--------

/-
  The subscriptions of one of the owners.  Those of no user
  stay.
-/
def retainOwners
    (subscribers : List Subscription)
    (owners : List (Option String)) : List Subscription :=
  subscribers.filter (fun sub =>
    match sub.userId with
    | none => true
    | some uid => owners.contains (some uid))

def filterByOwnership
    (subscribers : List Subscription)
    (collection : String)
    (data : Value) : List Subscription :=
  match collection with
  | "orders" =>
    retainOwners subscribers
      [data.getStr "buyerId", data.getStr "sellerId"]
  | "cart" | "notifications" | "subscriptions" =>
    retainOwners subscribers [data.getStr "userId"]
  | "return_requests" =>
    retainOwners subscribers
      [data.getStr "buyerId", data.getStr "sellerId"]
  | "chat_messages" | "chat_threads" =>
    retainOwners subscribers
      [data.getStr "buyerId", data.getStr "sellerId"]
  | "seller_profiles" | "warehouses" =>
    retainOwners subscribers [(data.getStr "sellerId").or
        (data.getStr "parent_id")]
  -- Taken to be public.
  | _ => subscribers

/- The subscriptions that are sent an event. -/
def delivered
    (event : ChangeEvent)
    (subscriptions : List Subscription) :
    List Subscription :=
  filterByOwnership
    (findAllForCollection subscriptions event.collection)
    event.collection event.data

--------
-- Reading
--------

open Security

variable (floats : Floats)

/- A signed-in user who reads a document. -/
def reader
    (user : String)
    (roles : List String)
    (document : Value) : SecurityContext where
  userId := some user
  roles := roles
  authenticated := true
  resource := some document
  incoming := none

@[simp]
theorem reader_authenticated
    (user : String)
    (roles : List String)
    (document : Value) :
    (reader user roles document).authenticated = true :=
  rfl

@[simp]
theorem reader_roles
    (user : String)
    (roles : List String)
    (document : Value) :
    (reader user roles document).roles = roles :=
  rfl

theorem evalExpr_owner
    (user : String)
    (roles : List String)
    (document : Value)
    {path field : String}
    (hPath : splitDots path = ["resource", field]) :
    evalExpr floats (reader user roles document)
        (Shipped.isOwner path) =
      (document.getStr field == some user) :=
  Shipped.evalExpr_isOwner floats _ hPath rfl rfl

/- A user who may read under a condition. -/
theorem check_read
    {name collection : String}
    {read create update delete list : Expression}
    (user : String)
    (roles : List String)
    (document : Value)
    (hBlock : governing Shipped.blocks name =
      some (Shipped.block collection read create update
        delete list)) :
    Shipped.engine.check floats name "read"
        (reader user roles document) = .ok true ↔
      evalExpr floats (reader user roles document) read =
        true := by
  rw [(Shipped.check_block floats _ hBlock).1]
  constructor
  · intro hOk
    exact Except.ok.inj hOk
  · intro hTrue
    rw [hTrue]

--------
-- Delivery and the Rules
--------

/-
  The documents for which the filter of the dispatcher is at
  least as strict as the rules.  Nothing is asked of the
  collections that are filtered by fields the rules compare
  as well, or that everyone may read.
-/
def Covered
    (user : String)
    (roles : List String)
    (collection : String)
    (document : Value) : Prop :=
  match collection with
  | "users" =>
    "admin" ∈ roles ∨ document.getStr "uid" = some user
  | "users__cart" | "favorites" | "users__notifications" =>
    document.getStr "userId" = some user ∨
      document.getStr "ownerId" = some user ∨
      document.getStr "uid" = some user
  | "chats" =>
    "admin" ∈ roles ∨
      document.getStr "buyerId" = some user ∨
      document.getStr "sellerId" = some user
  | "chats__messages" =>
    "admin" ∈ roles ∨
      document.getStr "buyerId" = some user ∨
      document.getStr "sellerId" = some user ∨
      document.getStr "senderId" = some user
  | "chat_threads" =>
    document.getStr "buyerId" ≠ some user ∧
      document.getStr "sellerId" ≠ some user
  | "reviews" => False
  | "warehouses" =>
    "admin" ∈ roles ∨ document.getStr "userId" = some user ∨
      document.getStr "ownerId" = some user ∨
      document.getStr "uid" = some user ∨
      document.getStr "sellerId" ≠ none ∨
      document.getStr "parent_id" ≠ some user
  | _ => True

variable {sub : Subscription}

theorem mem_retainOwners
    {subscribers : List Subscription}
    {user : String}
    (owners : List (Option String))
    (hUser : sub.userId = some user) :
    sub ∈ retainOwners subscribers owners ↔
      sub ∈ subscribers ∧ some user ∈ owners := by
  unfold retainOwners
  rw [List.mem_filter, hUser]
  simp

theorem mem_findAllForCollection
    {subscriptions : List Subscription}
    {collection : String} :
    sub ∈ findAllForCollection subscriptions collection ↔
      sub ∈ subscriptions ∧ sub.collection = collection := by
  unfold findAllForCollection
  rw [List.mem_filter, decide_eq_true_eq]

theorem mem_of_filterByOwnership
    {subscribers : List Subscription}
    {collection : String}
    {data : Value}
    (hKept :
      sub ∈ filterByOwnership subscribers collection data) :
    sub ∈ subscribers := by
  unfold filterByOwnership at hKept
  split at hKept
  all_goals
    first
    | exact hKept
    | exact (List.mem_filter.mp hKept).1

variable (floats : Floats)

section

variable {subscriptions : List Subscription}
variable {sub : Subscription} {user : String}
variable (roles : List String) (document : Value)
variable {name collection : String}
variable {read create update delete list : Expression}

/- What a filter by owners lets through must be readable. -/
theorem owners_readable_iff
    (hFound : sub ∈ subscriptions)
    (hUser : sub.userId = some user)
    {owners : List (Option String)}
    (hFilter :
      filterByOwnership subscriptions name document =
        retainOwners subscriptions owners)
    (hBlock : governing Shipped.blocks name =
      some (Shipped.block collection read create update
        delete list)) :
    (sub ∈ filterByOwnership subscriptions name document →
      Shipped.engine.check floats name "read"
        (reader user roles document) = .ok true) ↔
      (some user ∈ owners →
        evalExpr floats (reader user roles document) read =
          true) := by
  rw [hFilter, mem_retainOwners owners hUser,
    check_read floats user roles document hBlock]
  constructor
  · intro hRead hOwner
    exact hRead ⟨hFound, hOwner⟩
  · intro hRead hKept
    exact hRead hKept.2

/- Without a filter every document must be readable. -/
theorem unfiltered_readable_iff
    (hFound : sub ∈ subscriptions)
    (hFilter :
      filterByOwnership subscriptions name document =
        subscriptions)
    (hBlock : governing Shipped.blocks name =
      some (Shipped.block collection read create update
        delete list)) :
    (sub ∈ filterByOwnership subscriptions name document →
      Shipped.engine.check floats name "read"
        (reader user roles document) = .ok true) ↔
      evalExpr floats (reader user roles document) read =
        true := by
  rw [hFilter, check_read floats user roles document hBlock]
  exact ⟨fun hRead => hRead hFound, fun hRead _ => hRead⟩

end

/-
  An event of the collection of a subscription reaches only
  who may read its document, exactly when it is covered.
-/
theorem filtered_readable_iff
    {subscriptions : List Subscription}
    {user name : String}
    (hAllowed : name ∈ allowedCollections)
    (hFound : sub ∈ subscriptions)
    (hUser : sub.userId = some user)
    (roles : List String)
    (document : Value) :
    (sub ∈ filterByOwnership subscriptions name document →
      Shipped.engine.check floats name "read"
        (reader user roles document) = .ok true) ↔
      Covered user roles name document := by
  have hOwner {path field : String}
      (hPath : splitDots path = ["resource", field]) :=
    evalExpr_owner floats user roles document hPath
  rcases Shipped.splitDots_resource with
    ⟨hUserId, hOwnerId, hUid, hBuyerId, hSellerId,
      hSeller_id, hSenderId⟩
  replace hUserId := hOwner hUserId
  replace hOwnerId := hOwner hOwnerId
  replace hUid := hOwner hUid
  replace hBuyerId := hOwner hBuyerId
  replace hSellerId := hOwner hSellerId
  replace hSeller_id := hOwner hSeller_id
  replace hSenderId := hOwner hSenderId
  clear hOwner
  simp only [allowedCollections, List.mem_cons,
    List.not_mem_nil, or_false] at hAllowed
  rcases hAllowed with rfl | rfl | rfl | rfl | rfl | rfl |
    rfl | rfl | rfl | rfl | rfl | rfl | rfl | rfl | rfl |
    rfl | rfl | rfl
  · have hBlock : governing Shipped.blocks "products" =
        some Shipped.products := by decide
    rw [unfiltered_readable_iff floats roles document hFound
      (by simp [filterByOwnership]) hBlock]
    simp [Covered]
  · have hBlock : governing Shipped.blocks "orders" =
        some Shipped.orders := by decide
    rw [owners_readable_iff floats roles document hFound
      hUser (by simp only [filterByOwnership]; rfl) hBlock]
    simp [Covered, hBuyerId, hSellerId, hUserId, hSeller_id]
    grind
  · have hBlock : governing Shipped.blocks "cart" =
        some (Shipped.owned "cart") := by decide
    rw [owners_readable_iff floats roles document hFound
      hUser (by simp only [filterByOwnership]; rfl) hBlock]
    simp [Covered, Shipped.ownsResource, hUserId, hOwnerId,
      hUid]
    grind
  · have hBlock : governing Shipped.blocks "users__cart" =
        some (Shipped.owned "users__cart") := by decide
    rw [unfiltered_readable_iff floats roles document hFound
      (by simp [filterByOwnership]) hBlock]
    simp [Covered, Shipped.ownsResource, hUserId, hOwnerId,
      hUid]
  · have hBlock : governing Shipped.blocks "favorites" =
        some (Shipped.owned "favorites") := by decide
    rw [unfiltered_readable_iff floats roles document hFound
      (by simp [filterByOwnership]) hBlock]
    simp [Covered, Shipped.ownsResource, hUserId, hOwnerId,
      hUid]
  · have hBlock : governing Shipped.blocks "notifications" =
        some (Shipped.owned "notifications") := by decide
    rw [owners_readable_iff floats roles document hFound
      hUser (by simp only [filterByOwnership]; rfl) hBlock]
    simp [Covered, Shipped.ownsResource, hUserId, hOwnerId,
      hUid]
    grind
  · have hBlock :
        governing Shipped.blocks "users__notifications" =
          some (Shipped.owned "users__notifications") := by
      decide
    rw [unfiltered_readable_iff floats roles document hFound
      (by simp [filterByOwnership]) hBlock]
    simp [Covered, Shipped.ownsResource, hUserId, hOwnerId,
      hUid]
  · have hBlock : governing Shipped.blocks "chats" =
        some (Shipped.conversations "chats") := by decide
    rw [unfiltered_readable_iff floats roles document hFound
      (by simp [filterByOwnership]) hBlock]
    simp [Covered, hBuyerId, hSellerId]
  · have hBlock : governing Shipped.blocks "chats__messages" =
        some (Shipped.messages "chats__messages") := by decide
    rw [unfiltered_readable_iff floats roles document hFound
      (by simp [filterByOwnership]) hBlock]
    simp [Covered, hBuyerId, hSellerId, hSenderId]
  · have hBlock : governing Shipped.blocks "chat_messages" =
        some (Shipped.messages "chat_messages") := by decide
    rw [owners_readable_iff floats roles document hFound
      hUser (by simp only [filterByOwnership]; rfl) hBlock]
    simp [Covered, hBuyerId, hSellerId, hSenderId]
    grind
  · have hBlock : governing Shipped.blocks "chat_threads" =
        some Shipped.closed := by decide
    rw [owners_readable_iff floats roles document hFound
      hUser (by simp only [filterByOwnership]; rfl) hBlock]
    simp [Covered]
    grind
  · have hBlock : governing Shipped.blocks "product_questions" =
        some Shipped.productQuestions := by decide
    rw [unfiltered_readable_iff floats roles document hFound
      (by simp [filterByOwnership]) hBlock]
    simp [Covered]
  · have hBlock : governing Shipped.blocks "users" =
        some Shipped.users := by decide
    rw [unfiltered_readable_iff floats roles document hFound
      (by simp [filterByOwnership]) hBlock]
    simp [Covered, hUid]
    grind
  · have hBlock : governing Shipped.blocks "reviews" =
        some Shipped.closed := by decide
    rw [unfiltered_readable_iff floats roles document hFound
      (by simp [filterByOwnership]) hBlock]
    simp [Covered]
  · have hBlock : governing Shipped.blocks "seller_profiles" =
        some Shipped.sellerProfiles := by decide
    rw [owners_readable_iff floats roles document hFound
      hUser (by simp only [filterByOwnership]; rfl) hBlock]
    simp [Covered]
  · have hBlock : governing Shipped.blocks "warehouses" =
        some Shipped.warehouses := by decide
    rw [owners_readable_iff floats roles document hFound
      hUser (by simp only [filterByOwnership]; rfl) hBlock]
    simp [Covered, hUserId, hOwnerId, hSellerId, hUid]
    cases document.getStr "sellerId" <;> grind
  · have hBlock : governing Shipped.blocks "return_requests" =
        some Shipped.returnRequests := by decide
    rw [owners_readable_iff floats roles document hFound
      hUser (by simp only [filterByOwnership]; rfl) hBlock]
    simp [Covered, hBuyerId, hSellerId, hUserId]
    grind
  · have hBlock : governing Shipped.blocks "subscriptions" =
        some Shipped.subscriptions := by decide
    rw [owners_readable_iff floats roles document hFound
      hUser (by simp only [filterByOwnership]; rfl) hBlock]
    simp [Covered, hUserId, hOwnerId, hUid]
    grind

/-
  A subscription is sent an event only if its user may read
  the document, exactly when the event is of another
  collection or its document is covered.
-/
theorem delivered_readable_iff
    (event : ChangeEvent)
    {subscriptions : List Subscription}
    {sub : Subscription}
    {user : String}
    (hMem : sub ∈ subscriptions)
    (hAllowed : sub.collection ∈ allowedCollections)
    (hUser : sub.userId = some user)
    (roles : List String) :
    (sub ∈ delivered event subscriptions →
      Shipped.engine.check floats event.collection "read"
        (reader user roles event.data) = .ok true) ↔
      (sub.collection = event.collection →
        Covered user roles event.collection event.data) := by
  unfold delivered
  by_cases hSame : sub.collection = event.collection
  · have hFound :
        sub ∈ findAllForCollection subscriptions
          event.collection :=
      mem_findAllForCollection.mpr ⟨hMem, hSame⟩
    rw [hSame] at hAllowed
    rw [filtered_readable_iff floats hAllowed hFound hUser
      roles event.data]
    exact ⟨fun hCovered _ => hCovered,
      fun hCovered => hCovered hSame⟩
  · constructor
    · intro _ h
      exact absurd h hSame
    · intro _ hKept
      have hFound := mem_of_filterByOwnership hKept
      exact absurd (mem_findAllForCollection.mp hFound).2
        hSame

/- A subscription of a signed-in user. -/
def subscribed (user collection : String) : Subscription where
  id := user
  collection := collection
  filterHash := 0
  documentId := none
  userId := some user

def changed (collection : String) (data : Value) :
    ChangeEvent where
  action := .update
  collection := collection
  documentId := "d1"
  data := data
  beforeData := none
  afterData := some data

def orderOfAlice : ChangeEvent :=
  changed "orders" (.object [("buyerId", .string "alice")])

def cartOfAlice : ChangeEvent :=
  changed "users__cart"
    (.object [("userId", .string "alice")])

/- The buyer of an order may read the order she is sent. -/
theorem order_sent_to_buyer :
    subscribed "alice" "orders" ∈
      delivered orderOfAlice [subscribed "alice" "orders"] ∧
    ∀ floats : Floats,
      Shipped.engine.check floats "orders" "read"
        (reader "alice" [] orderOfAlice.data) = .ok true := by
  have hSent :
      subscribed "alice" "orders" ∈ delivered orderOfAlice
          [subscribed "alice" "orders"] := by
    simp [delivered, orderOfAlice, changed, subscribed,
      findAllForCollection, filterByOwnership, retainOwners,
      Value.getStr, Value.get, Value.asStr]
  refine ⟨hSent, ?_⟩
  intro floats
  have hExact := delivered_readable_iff floats orderOfAlice
    (List.mem_singleton_self (subscribed "alice" "orders"))
    (by decide) rfl []
  exact hExact.mpr
    (fun _ => by simp [orderOfAlice, changed, Covered]) hSent

/-
  A change of the cart of one user is sent to another one,
  who may not read it.
-/
theorem cart_sent_to_stranger :
    "users__cart" ∈ allowedCollections ∧
    subscribed "bob" "users__cart" ∈ delivered cartOfAlice
        [subscribed "bob" "users__cart"] ∧
    ∀ floats : Floats,
      Shipped.engine.check floats "users__cart" "read"
        (reader "bob" [] cartOfAlice.data) ≠ .ok true := by
  refine ⟨by decide, ?_, ?_⟩
  · simp [delivered, cartOfAlice, changed, subscribed,
      findAllForCollection, filterByOwnership]
  · intro floats hRead
    have hBlock : governing Shipped.blocks "users__cart" =
        some (Shipped.owned "users__cart") := by
      decide
    have hOwns := (check_read floats "bob" []
      cartOfAlice.data hBlock).mp hRead
    rcases Shipped.splitDots_resource with
      ⟨hUserId, hOwnerId, hUid, -⟩
    simp [Shipped.ownsResource, cartOfAlice, changed,
      evalExpr_owner floats _ _ _ hUserId,
      evalExpr_owner floats _ _ _ hOwnerId,
      evalExpr_owner floats _ _ _ hUid,
      Value.getStr, Value.get, Value.asStr,
      List.lookup_cons, List.lookup_nil] at hOwns

end Orignabase.Realtime
