import Orignabase.Orders.Calls
import Orignabase.Orders.Units
import Mathlib.Algebra.Group.Equiv.TypeTags
import Mathlib.Algebra.Group.Pi.Basic
import Mathlib.Algebra.Group.Prod
import Mathlib.Algebra.Order.Group.Int
import Mathlib.Tactic.Linarith
import Mathlib.Tactic.Ring

/-
  The stock that refunds and cancellations give back, under
  any interleaving.

  A request that has recorded a refund or a cancellation owes
  the units it has not restored yet.  For every order and
  product, the units restored so far plus the units owed are
  the units due: those of the physical items that are
  refunded, or of all physical items once the order is
  cancelled.

  Key definitions include:
    * `dueUnits`
    * `restoredFor`
    * `restoreStep`
    * `Books`

  Main results:
    * `keepsBooks_refundOrderItem`
    * `keepsBooks_cancelOrder`
    * `stock_restored_once`
-/

--------
-- Units Due
--------

namespace Orignabase

open Conc

variable {item : Item}

namespace Item

def isRefunded (item : Item) : Bool :=
  item.status = OrderStatus.refunded.asStr

/-
  Both handlers agree on whether the item has stock, and a
  physical item names a product and no negative quantity.
-/
def Restorable (item : Item) : Prop :=
  0 ≤ item.qty ∧ (item.isDigital = false →
      item.productId ≠ "" ∧ item.isPhysical = true)

instance (item : Item) : Decidable item.Restorable :=
  inferInstanceAs (Decidable (_ ∧ _))

theorem restorable_of_core
    {item' : Item}
    (hCore : item.core = item'.core)
    (hItem : item.Restorable) :
    item'.Restorable := by
  simp only [core, Prod.mk.injEq] at hCore
  rcases hCore with ⟨hId, hQty, hDigital, hPhysical⟩
  simpa [Restorable, hId, hQty, hDigital, hPhysical] using
    hItem

end Item

def Order.isCancelled (order : Order) : Bool :=
  order.orderStatus = some OrderStatus.cancelled.asStr

/- The units that are to be given back. -/
def dueOf
    (cancelled : Bool)
    (items : List Item)
    (product : String) : ℕ :=
  (items.map (fun it =>
    if cancelled || it.isRefunded then it.units product
    else 0)).sum

def dueUnits (w : Store) (order product : String) : ℕ :=
  ((w.orders.get order).map
    (fun o => dueOf o.isCancelled o.items product)).getD 0

theorem dueOf_cons
    (cancelled : Bool)
    (it : Item)
    (rest : List Item)
    (product : String) :
    dueOf cancelled (it :: rest) product =
      (if cancelled || it.isRefunded then it.units product
      else 0) + dueOf cancelled rest product := by
  simp [dueOf]

theorem dueOf_le_reservedOf
    (cancelled : Bool)
    (items : List Item)
    (product : String) :
    dueOf cancelled items product ≤
      reservedOf items product := by
  induction items with
  | nil => exact le_refl _
  | cons it rest ih =>
    rw [dueOf_cons]
    simp only [reservedOf, List.map_cons, List.sum_cons]
      at ih ⊢
    split_ifs
    · omega
    · omega

theorem dueOf_true
    (items : List Item)
    (product : String) :
    dueOf true items product =
      reservedOf items product := by
  simp [dueOf, reservedOf]

variable {items : List Item}

theorem dueOf_false_eq_zero
    (hNone :
      ∀ it ∈ items,
        it.isDigital = true ∨ it.isRefunded = false)
    (product : String) :
    dueOf false items product = 0 := by
  induction items with
  | nil => rfl
  | cons it rest ih =>
    rw [dueOf_cons, ih (fun it' h => hNone it'
        (List.mem_cons_of_mem _ h))]
    rcases hNone it List.mem_cons_self with
      hDigital | hStatus
    · simp [Item.units, hDigital]
    · simp [hStatus]

/- Recording a refund makes the units of the item due. -/
theorem dueOf_markRefunded
    {productId : String}
    (hFind :
      items.find? (fun it => it.productId = productId) =
        some item)
    (hStatus : item.status ≠ OrderStatus.refunded.asStr)
    (cancelled : Bool)
    (now reason : String)
    (amount : Int)
    (refundId : Option String)
    (product : String) :
    dueOf cancelled
        (modifyFirst (fun it => it.productId = productId)
          (fun it =>
            it.markRefunded now reason amount refundId)
          items) product =
      dueOf cancelled items product +
        (if cancelled then 0 else item.units product) := by
  induction items with
  | nil => simp at hFind
  | cons it rest ih =>
    by_cases hMatch : it.productId = productId
    · have hItem : it = item := by
        simpa [hMatch] using hFind
      subst hItem
      have hMarked :
          (it.markRefunded now reason amount
            refundId).isRefunded = true := by
        simp [Item.isRefunded, Item.markRefunded]
      have hBefore : it.isRefunded = false := by
        simpa [Item.isRefunded] using hStatus
      have hUnits :
          (it.markRefunded now reason amount
            refundId).units product =
            it.units product := rfl
      simp only [modifyFirst, hMatch, decide_true, if_true,
        dueOf_cons, hMarked, hBefore, Bool.or_true,
        Bool.or_false, hUnits]
      cases cancelled with
      | true => simp
      | false => simp [add_comm]
    · have hRest :
          rest.find? (fun it => it.productId = productId) =
            some item := by
        simpa [hMatch] using hFind
      simp only [modifyFirst, hMatch, decide_false,
        Bool.false_eq_true, if_false, dueOf_cons,
        ih hRest]
      ring

theorem core_markRefunded
    (items : List Item)
    (productId now reason : String)
    (amount : Int)
    (refundId : Option String) :
    (modifyFirst (fun it => it.productId = productId)
        (fun it =>
          it.markRefunded now reason amount refundId)
        items).map Item.core =
      items.map Item.core := by
  induction items with
  | nil => rfl
  | cons it rest ih =>
    unfold modifyFirst
    split_ifs
    · rfl
    · rw [List.map_cons, ih, List.map_cons]

/- The units a thread put back on behalf of an order. -/
def restoredFor (order product : String) : Trace → Int
  | [] => 0
  | e :: tr =>
    (if orderOf tr = some order then unitsOf product e
    else 0) + restoredFor order product tr

/- What the past of a thread says it put back. -/
def booked (tr : Trace) :
    (String → String → Int) × (String → Int) :=
  (fun order product => restoredFor order product tr,
    fun product => restored product tr)

theorem booked_cons_of_unitsOf
    {e : Event Op.Res Answer}
    (hUnits : ∀ product, unitsOf product e = 0)
    (tr : Trace) :
    booked (e :: tr) = booked tr := by
  unfold booked
  simp only [restoredFor, restored, List.map_cons,
    List.sum_cons, hUnits, ite_self, zero_add]

--------
-- The Books
--------

/- A write makes a physical item refunded. -/
def refundsPhysical (old new : List Item) : Bool :=
  (old.zip new).any (fun pair =>
    !pair.1.isDigital && !pair.1.isRefunded &&
      pair.2.isRefunded)

/-
  The steps that keep the books.  A database statement does
  not fail; the items are written over the items the request
  read, and not to refund a physical item of a cancelled
  order; an order is cancelled while none of its physical
  items is refunded; and the last attempt to restore stock
  finds the stock it read.
-/
def restoreStep
    (tr : Trace)
    (o : Op)
    (a : Answer)
    (w : Store) : Bool :=
  (o.isRemote || !a.fault) &&
    match o with
    | .updateOrder id patch =>
      match patch.items with
      | none => true
      | some items =>
        (w.order? id).map Order.items =
            (firstOrder tr).map Order.items &&
          !(w.order? id).any (fun order =>
            order.isCancelled &&
              refundsPhysical order.items items)
    | .casOrder id _ (.status expected) =>
      (w.order? id).all (fun order =>
        order.orderStatus ≠ some expected ||
          order.items.all (fun it =>
            it.isDigital || !it.isRefunded))
    | .casProduct id _ expected =>
      misses tr < 2 || (w.product? id).any (fun p =>
          p.stockQuantity = some expected)
    | _ => true

def RestoreStep : StepCond Op.Res Answer Store :=
  fun tr o a w => restoreStep tr o a w = true

instance (tr : Trace) (o : Op) (a : Answer) (w : Store) :
    Decidable (RestoreStep tr o a w) :=
  inferInstanceAs (Decidable (restoreStep tr o a w = true))

/-
  Units owed by order and product, units restored by order
  and product, and units restored by product.
-/
abbrev Holdings :=
  (String → String → ℕ) ×
    ((String → String → Int) × (String → Int))

/- What the holdings of all requests account for. -/
structure Books (w₀ w : Store) (held : Holdings) :
    Prop where
  due :
    ∀ order product,
      held.2.1 order product + (held.1 order product : Int) =
        dueUnits w order product
  stock :
    ∀ product,
      stockOf w product =
        stockOf w₀ product + held.2.2 product
  core :
    ∀ order,
      (w.orders.get order).map
          (fun o => o.items.map Item.core) =
        (w₀.orders.get order).map
          (fun o => o.items.map Item.core)
  flag :
    ∀ order o, w.orders.get order = some o →
      o.stockRestored = true → o.isCancelled = true

/- Operations that change nothing the books are about. -/
def Op.sparesBooks : Op → Prop
  | .updateOrder _ patch | .casOrder _ patch _ =>
    patch.items = none ∧ patch.orderStatus = none ∧
      patch.stockRestored = none
  | .stripeRefund .. | .stripeCancelPi .. => True
  | o => o.isRead = true

variable {w₀ w : Store} {held : Holdings}

/- A change of other order fields. -/
theorem Books.modifyOrder
    (hBooks : Books w₀ w held)
    (id : String)
    {patch : OrderPatch}
    (hItems : patch.items = none)
    (hStatus : patch.orderStatus = none)
    (hFlag : patch.stockRestored = none) :
    Books w₀ (w.modifyOrder id patch.apply) held := by
  have hGet :
      ∀ key, (w.modifyOrder id patch.apply).orders.get key =
          if key = docId "orders" id then
            (w.orders.get key).map patch.apply
          else w.orders.get key :=
    fun key => Table.get_modify ..
  constructor
  · intro order product
    rw [hBooks.due]
    unfold dueUnits
    rw [hGet]
    split_ifs
    · rw [Option.map_map]
      congr 3
      funext o
      simp [hItems, Order.isCancelled, hStatus]
    · rfl
  · exact hBooks.stock
  · intro order
    rw [← hBooks.core order, hGet]
    split_ifs
    · rw [Option.map_map]
      congr 1
      funext o
      simp [hItems]
    · rfl
  · intro order o hOrder hRestored
    rw [hGet] at hOrder
    split_ifs at hOrder
    · rcases Option.map_eq_some_iff.mp hOrder with
        ⟨o', hOrder', rfl⟩
      have hOld := hBooks.flag order o' hOrder'
        (by simpa [hFlag] using hRestored)
      simpa [Order.isCancelled, hStatus] using hOld
    · exact hBooks.flag order o hOrder hRestored

/- The books do not depend on the other tables. -/
theorem Books.of_tables
    {w' : Store}
    (hBooks : Books w₀ w held)
    (hOrders : w'.orders = w.orders)
    (hProducts : w'.products = w.products) :
    Books w₀ w' held := by
  constructor
  · intro order product
    rw [hBooks.due]
    simp only [dueUnits, hOrders]
  · intro product
    rw [← hBooks.stock]
    simp only [stockOf, hProducts]
  · intro order
    rw [hOrders]
    exact hBooks.core order
  · intro order o hOrder
    rw [hOrders] at hOrder
    exact hBooks.flag order o hOrder

variable {o : Op}

theorem books_of_sparesBooks
    (hSpares : o.sparesBooks)
    (a : Answer)
    (hBooks : Books w₀ w held) :
    Books w₀ (exec o a w).2 held := by
  by_cases hRead : o.isRead = true
  · rw [exec_read hRead]
    exact hBooks
  cases hFault : a.fault with
  | true =>
    rw [exec_fault o hFault]
    exact hBooks
  | false =>
    cases o with
    | updateOrder id patch =>
      rcases hSpares with ⟨hItems, hStatus, hFlag⟩
      cases hOrder : w.order? id with
      | none =>
        have hSame :
            (exec (.updateOrder id patch) a w).2 =
              w := by
          simp [exec, Answer.guard, hFault, hOrder]
        rw [hSame]
        exact hBooks
      | some order =>
        rw [exec_updateOrder hFault hOrder]
        exact hBooks.modifyOrder id hItems hStatus hFlag
    | casOrder id patch guard =>
      rcases hSpares with ⟨hItems, hStatus, hFlag⟩
      simp only [exec, Answer.guard, hFault,
        Bool.false_eq_true, if_false]
      split_ifs
      · exact hBooks.modifyOrder id hItems hStatus hFlag
      · exact hBooks
    | stripeRefund intent amount key =>
      simp only [exec, Answer.guard, hFault,
        Bool.false_eq_true, if_false]
      split_ifs
      · exact hBooks
      · exact hBooks.of_tables rfl rfl
    | stripeCancelPi intent =>
      simp only [exec, Answer.guard, hFault,
        Bool.false_eq_true, if_false]
      exact hBooks.of_tables rfl rfl
    | _ => exact absurd hSpares hRead

--------
-- The Steps Of A Restore
--------

/- Units owed to one order. -/
def owes (key : String) (f : String → ℕ) :
    String → String → ℕ :=
  fun order product => if order = key then f product else 0

@[simp] theorem owes_zero (key : String) :
    owes key (fun _ => 0) = 0 := by
  funext order product
  simp [owes]

variable {amount : Int}

section

variable {α : Type} {w₀ : Store}
variable {post : Trace → Holdings → α → Prop} {tr : Trace}
variable {owed : String → String → ℕ} {id : String}

/- A program that owes `owed` after the past `tr`. -/
def KeepsBooks
    (w₀ : Store)
    (post : Trace → Holdings → α → Prop)
    (tr : Trace)
    (owed : String → String → ℕ)
    (p : Prog Op.Res α) : Prop :=
  p.Keeps exec RestoreStep (Books w₀)
    (fun tr g => g.2 = booked tr) post tr (owed, booked tr)

theorem KeepsBooks.of_booked
    {p : Prog Op.Res α}
    {b : (String → String → Int) × (String → Int)}
    (hKeeps : KeepsBooks w₀ post tr owed p)
    (hBooked : booked tr = b) :
    p.Keeps exec RestoreStep (Books w₀)
      (fun tr g => g.2 = booked tr) post tr (owed, b) := by
  rw [← hBooked]
  exact hKeeps

theorem restoreStep_fault
    {a : Answer}
    {w : Store}
    (hCond : RestoreStep tr o a w)
    (hLocal : o.isRemote = false) :
    a.fault = false := by
  simp only [RestoreStep, restoreStep, hLocal,
    Bool.false_or, Bool.and_eq_true,
    Bool.not_eq_true'] at hCond
  exact hCond.1

theorem booked_cons_of_sparesBooks
    {e : Event Op.Res Answer}
    (hSpares : e.op.sparesBooks)
    (tr : Trace) :
    booked (e :: tr) = booked tr := by
  apply booked_cons_of_unitsOf
  intro product
  rcases e with ⟨o, a, r⟩
  cases o with
  | casProduct id stock expected =>
    exact absurd hSpares Bool.false_ne_true
  | _ => rfl

/- A step that spares the books. -/
theorem keepsBooks_spare
    {k : o.Res → Prog Op.Res α}
    (hSpares : o.sparesBooks)
    (hNext :
      ∀ a w m, Books w₀ w ((owed, booked tr) + m) →
        RestoreStep tr o a w →
        KeepsBooks w₀ post
          (⟨o, a, (exec o a w).1⟩ :: tr) owed
          (k (exec o a w).1)) :
    KeepsBooks w₀ post tr owed (.call o k) := by
  refine ⟨rfl, ?_⟩
  intro a w m hInv hCond
  refine ⟨(owed, booked tr),
    books_of_sparesBooks hSpares a hInv, ?_⟩
  exact (hNext a w m hInv hCond).of_booked
    (booked_cons_of_sparesBooks hSpares tr)

/- A program that spares the books. -/
theorem keepsBooks_uses
    {p : Prog Op.Res α}
    (hUses : p.Uses Op.sparesBooks) :
    KeepsBooks w₀
      (fun tr' g _ =>
        g = (owed, booked tr') ∧
          Prog.Extends Op.sparesBooks tr tr')
      tr owed p := by
  have hKeeps :
      p.Keeps exec RestoreStep (Books w₀)
        (fun tr g => g.2 = booked tr)
        (fun tr' g _ =>
          g = (owed, booked tr) ∧
            Prog.Extends Op.sparesBooks tr tr')
        tr (owed, booked tr) := by
    apply hUses.keeps
    · intro o a w m hSpares hInv
      exact books_of_sparesBooks hSpares a hInv
    · intro e tr hSpares hLink
      rw [booked_cons_of_sparesBooks hSpares]
      exact hLink
    · rfl
  apply hKeeps.mono
  rintro tr' g r ⟨hHeld, hExtends⟩
  refine ⟨?_, hExtends⟩
  have hBooked : booked tr' = booked tr := by
    clear hHeld
    induction hExtends with
    | refl => rfl
    | cons _ hOp ih =>
      rw [booked_cons_of_sparesBooks hOp, ih]
  rw [hHeld, hBooked]

theorem firstOrder_of_extends
    {P : Op → Prop}
    {tr tr' : Trace}
    {order : Order}
    (hExtends : Prog.Extends P tr tr')
    (hFirst : firstOrder tr = some order) :
    firstOrder tr' = some order := by
  induction hExtends with
  | refl => exact hFirst
  | cons _ _ ih => exact firstOrder_cons_of_some ih _

theorem orderOf_of_extends
    {P : Op → Prop}
    {tr tr' : Trace}
    {key : String}
    (hExtends : Prog.Extends P tr tr')
    (hOrder : orderOf tr = some key) :
    orderOf tr' = some key := by
  induction hExtends with
  | refl => exact hOrder
  | cons _ _ ih => exact orderOf_cons_of_some ih _

/- What a request knows of the order it read. -/
structure ReadOf (w₀ : Store) (key : String)
    (order : Order) : Prop where
  core :
    (w₀.orders.get key).map
        (fun o => o.items.map Item.core) =
      some (order.items.map Item.core)
  flag :
    order.stockRestored = true → order.isCancelled = true

theorem keepsBooks_getOrder
    {k : Op.Res (.getOrder id) → Prog Op.Res α}
    (hFound :
      ∀ a order, ReadOf w₀ (docId "orders" id) order →
        KeepsBooks w₀ post
          (⟨.getOrder id, a, .ok order⟩ :: tr) owed
          (k (.ok order)))
    (hMissing :
      ∀ a e, KeepsBooks w₀ post
          (⟨.getOrder id, a, .error e⟩ :: tr) owed
          (k (.error e))) :
    KeepsBooks w₀ post tr owed
      (.call (.getOrder id) k) := by
  have hSpares : (Op.getOrder id).sparesBooks := rfl
  apply keepsBooks_spare hSpares
  intro a w m hInv hCond
  have hFault := restoreStep_fault hCond rfl
  cases hOrder : w.order? id with
  | none =>
    have hExec :
        exec (.getOrder id) a w =
          (.error (.notFound "not found"), w) := by
      simp only [exec, Answer.guard, hFault, hOrder]
      rfl
    rw [hExec]
    exact hMissing a _
  | some order =>
    rw [exec_getOrder hFault hOrder]
    refine hFound a order ⟨?_, ?_⟩
    · have hCore := hInv.core (docId "orders" id)
      rw [show w.orders.get (docId "orders" id) =
        some order from hOrder] at hCore
      exact hCore.symm
    · exact hInv.flag _ _ hOrder

/- A patch of one order that makes `f` more units due. -/
theorem Books.write
    {w : Store}
    {order : Order}
    {f : String → ℕ}
    {b : (String → String → Int) × (String → Int)}
    {m : Holdings}
    (hBooks : Books w₀ w ((0, b) + m))
    (patch : OrderPatch)
    (hOrder : w.order? id = some order)
    (hDue :
      ∀ product, dueOf (patch.apply order).isCancelled
            (patch.apply order).items product =
          dueOf order.isCancelled order.items product +
            f product)
    (hCore :
      (patch.apply order).items.map Item.core =
        order.items.map Item.core)
    (hFlag :
      (patch.apply order).stockRestored = true →
        (patch.apply order).isCancelled = true) :
    Books w₀ (w.modifyOrder id patch.apply)
      ((owes (docId "orders" id) f, b) + m) := by
  have hGet :
      ∀ key, (w.modifyOrder id patch.apply).orders.get key =
          if key = docId "orders" id then
            (w.orders.get key).map patch.apply
          else w.orders.get key :=
    fun key => Table.get_modify ..
  have hOrder' :
      w.orders.get (docId "orders" id) = some order := hOrder
  constructor
  · intro key product
    have hOld := hBooks.due key product
    unfold dueUnits at hOld ⊢
    rw [hGet]
    simp only [Prod.fst_add, Prod.snd_add, Pi.add_apply,
      Pi.zero_apply, owes, zero_add] at hOld ⊢
    by_cases hKey : key = docId "orders" id
    · subst hKey
      simp only [hOrder', Option.map_some, Option.getD_some,
        if_true, hDue] at hOld ⊢
      push_cast
      omega
    · simp only [hKey, if_false, zero_add]
      exact hOld
  · exact hBooks.stock
  · intro key
    rw [← hBooks.core key, hGet]
    by_cases hKey : key = docId "orders" id
    · subst hKey
      simp only [if_true, hOrder', Option.map_some, hCore]
    · rw [if_neg hKey]
  · intro key o hGetO hRestored
    rw [hGet] at hGetO
    by_cases hKey : key = docId "orders" id
    · subst hKey
      simp only [if_true, hOrder', Option.map_some,
        Option.some.injEq] at hGetO
      subst hGetO
      exact hFlag hRestored
    · rw [if_neg hKey] at hGetO
      exact hBooks.flag key o hGetO hRestored

variable {productId : String}

/- Marking a physical item is seen as refunding it. -/
theorem refundsPhysical_markRefunded
    (hFind :
      items.find? (fun it => it.productId = productId) =
        some item)
    (hStatus : item.status ≠ OrderStatus.refunded.asStr)
    (hPhysical : item.isDigital = false)
    (now reason : String)
    (amount : Int)
    (refundId : Option String) :
    refundsPhysical items
      (modifyFirst (fun it => it.productId = productId)
        (fun it =>
          it.markRefunded now reason amount refundId)
        items) = true := by
  induction items with
  | nil => simp at hFind
  | cons it rest ih =>
    by_cases hMatch : it.productId = productId
    · have hItem : it = item := by
        simpa [hMatch] using hFind
      subst hItem
      simp [refundsPhysical, modifyFirst, hMatch,
        hPhysical, Item.isRefunded, hStatus,
        Item.markRefunded]
    · have hRest :
          rest.find? (fun it => it.productId = productId) =
            some item := by
        simpa [hMatch] using hFind
      have hTail := ih hRest
      unfold refundsPhysical at hTail ⊢
      simp only [modifyFirst, hMatch, decide_false,
        Bool.false_eq_true, if_false, List.zip_cons_cons,
        List.any_cons, hTail, Bool.or_true]

/- Recording a refund makes the units of the item owed. -/
theorem keepsBooks_record
    {first : Order}
    {now reason : String}
    {refundId : Option String}
    {k :
      Op.Res (.updateOrder id
        { items :=
            some (modifyFirst
              (fun it => it.productId = productId)
              (fun it =>
                it.markRefunded now reason amount refundId)
              first.items) }) → Prog Op.Res α}
    (hFirst : firstOrder tr = some first)
    (hFind :
      first.items.find?
          (fun it => it.productId = productId) =
        some item)
    (hStatus : item.status ≠ OrderStatus.refunded.asStr)
    (hNext :
      ∀ a, KeepsBooks w₀ post (⟨.updateOrder id
            { items :=
                some (modifyFirst
                  (fun it => it.productId = productId)
                  (fun it =>
                    it.markRefunded now reason amount
                      refundId)
                  first.items) }, a, .ok ()⟩ :: tr)
          (owes (docId "orders" id) item.units)
          (k (.ok ()))) :
    KeepsBooks w₀ post tr 0
      (.call (.updateOrder id
          { items :=
              some (modifyFirst
                (fun it => it.productId = productId)
                (fun it =>
                  it.markRefunded now reason amount
                    refundId)
                first.items) }) k) := by
  refine ⟨rfl, ?_⟩
  intro a w m hInv hCond
  have hFault := restoreStep_fault hCond rfl
  have hWrite :
      (w.order? id).map Order.items = some first.items ∧
        (w.order? id).any (fun order =>
          order.isCancelled && refundsPhysical order.items
              (modifyFirst
                (fun it => it.productId = productId)
                (fun it =>
                  it.markRefunded now reason amount
                    refundId)
                first.items)) = false := by
    simpa [RestoreStep, restoreStep, hFirst, hFault] using
      hCond
  rcases Option.map_eq_some_iff.mp hWrite.1 with
    ⟨order, hOrder, hItems⟩
  have hDue :
      ∀ product, dueOf order.isCancelled (modifyFirst
              (fun it => it.productId = productId)
              (fun it =>
                it.markRefunded now reason amount refundId)
              first.items) product =
          dueOf order.isCancelled order.items product +
            item.units product := by
    intro product
    rw [dueOf_markRefunded hFind hStatus, hItems]
    cases hCancelled : order.isCancelled with
    | false => rfl
    | true =>
      -- Only digital items are refunded after all.
      have hDigital : item.isDigital = true := by
        by_contra hPhysical
        have hSeen :=
          refundsPhysical_markRefunded hFind hStatus
            (by simpa using hPhysical) now reason amount
            refundId
        simp [hOrder, hCancelled, hItems, hSeen] at hWrite
      simp [Item.units, hDigital]
  rw [exec_updateOrder hFault hOrder]
  refine ⟨(owes (docId "orders" id) item.units, booked tr),
    ?_, (hNext a).of_booked
      (booked_cons_of_unitsOf (fun _ => rfl) tr)⟩
  apply hInv.write _ hOrder
  · exact hDue
  · simp [core_markRefunded, hItems]
  · exact hInv.flag _ order hOrder

/- The guarded cancellation, or nothing. -/
theorem keepsBooks_cancel
    {s paymentStatus : String}
    {first : Order}
    {k :
      Op.Res (.casOrder id
        { orderStatus := some OrderStatus.cancelled.asStr
          paymentStatus := some paymentStatus
          stockRestored := some true }
        (.status s)) → Prog Op.Res α}
    (hRead : ReadOf w₀ (docId "orders" id) first)
    (hOpen : s ≠ OrderStatus.cancelled.asStr)
    (hDone :
      ∀ a, KeepsBooks w₀ post (⟨.casOrder id
            { orderStatus :=
                some OrderStatus.cancelled.asStr
              paymentStatus := some paymentStatus
              stockRestored := some true }
            (.status s), a, .ok true⟩ :: tr)
          (owes (docId "orders" id)
            (reservedOf first.items))
          (k (.ok true)))
    (hLost :
      ∀ a, KeepsBooks w₀ post (⟨.casOrder id
            { orderStatus :=
                some OrderStatus.cancelled.asStr
              paymentStatus := some paymentStatus
              stockRestored := some true }
            (.status s), a, .ok false⟩ :: tr)
          0 (k (.ok false))) :
    KeepsBooks w₀ post tr 0
      (.call (.casOrder id
          { orderStatus := some OrderStatus.cancelled.asStr
            paymentStatus := some paymentStatus
            stockRestored := some true }
          (.status s)) k) := by
  refine ⟨rfl, ?_⟩
  intro a w m hInv hCond
  have hFault := restoreStep_fault hCond rfl
  cases hOrder : w.order? id with
  | none =>
    -- The order was read, so it is still there.
    have hCore := hInv.core (docId "orders" id)
    rw [hRead.core,
      show w.orders.get (docId "orders" id) = none from
        hOrder] at hCore
    simp at hCore
  | some order =>
    rw [exec_casOrder hFault hOrder]
    by_cases hHolds : (OrderGuard.status s).holds order
    · have hStatus : order.orderStatus = some s := by
        simpa [OrderGuard.holds] using hHolds
      have hNone :
          ∀ it ∈ order.items,
            it.isDigital = true ∨ it.isRefunded = false := by
        simpa [RestoreStep, restoreStep, hOrder, hStatus,
          hFault] using hCond
      have hNotYet : order.isCancelled = false := by
        simpa [Order.isCancelled, hStatus] using hOpen
      have hCore :
          order.items.map Item.core =
            first.items.map Item.core := by
        have hNow := hInv.core (docId "orders" id)
        rw [hRead.core,
          show w.orders.get (docId "orders" id) =
            some order from hOrder] at hNow
        exact Option.some.inj hNow
      rw [if_pos hHolds]
      refine ⟨(owes (docId "orders" id)
        (reservedOf first.items), booked tr), ?_,
        (hDone a).of_booked
          (booked_cons_of_unitsOf (fun _ => rfl) tr)⟩
      apply hInv.write _ hOrder
      · intro product
        rw [hNotYet, dueOf_false_eq_zero hNone, zero_add,
          ← reservedOf_congr hCore, ← dueOf_true]
        rfl
      · rfl
      · intro _
        rfl
    · rw [if_neg hHolds]
      exact ⟨(0, booked tr), hInv, (hLost a).of_booked
          (booked_cons_of_unitsOf (fun _ => rfl) tr)⟩

/- One attempt to put units back. -/
theorem keepsBooks_casProduct
    {key : String}
    {n : ℕ}
    {cur : Int}
    {extra : String → ℕ}
    {k :
      Op.Res (.casProduct productId (cur + n) cur) →
        Prog Op.Res α}
    (hKey : orderOf tr = some key)
    (hDone :
      ∀ a, KeepsBooks w₀ post
          (⟨.casProduct productId (cur + n) cur, a,
            .ok true⟩ :: tr)
          (owes key extra) (k (.ok true)))
    (hLost :
      ∀ a, misses tr < 2 → KeepsBooks w₀ post
          (⟨.casProduct productId (cur + n) cur, a,
            .ok false⟩ :: tr)
          (owes key (fun p =>
            (if docId "products" productId = p then n
              else 0) + extra p))
          (k (.ok false))) :
    KeepsBooks w₀ post tr
      (owes key (fun p =>
        (if docId "products" productId = p then n else 0) +
          extra p))
      (.call (.casProduct productId (cur + n) cur) k) := by
  refine ⟨rfl, ?_⟩
  intro a w m hInv hCond
  have hFault := restoreStep_fault hCond rfl
  have hLast :
      misses tr < 2 ∨ (w.product? productId).any (fun p =>
          p.stockQuantity = some cur) = true := by
    simpa [RestoreStep, restoreStep, hFault] using hCond
  by_cases hMatch :
      (w.product? productId).any (fun p =>
        p.stockQuantity = some cur) = true
  · have hExec :
        exec (.casProduct productId (cur + n) cur) a w =
          (.ok true, w.setStock productId (cur + n)) := by
      simp only [exec, Answer.guard, hFault, hMatch]
      rfl
    rw [hExec]
    have hBookedFor :
        ∀ order p, restoredFor order p
              (⟨.casProduct productId (cur + n) cur, a,
                .ok true⟩ :: tr) =
            (if order = key ∧
                docId "products" productId = p then
              (n : Int)
            else 0) + restoredFor order p tr := by
      intro order p
      simp only [restoredFor, hKey, unitsOf, matched]
      by_cases hOrder : order = key
      · by_cases hp : docId "products" productId = p
        · simp [hOrder, hp]
        · simp [hOrder, hp]
      · have hNe : ¬ key = order := fun h => hOrder h.symm
        simp [hOrder, hNe]
    refine ⟨_, ?_, hDone a⟩
    constructor
    · intro order p
      have hOld := hInv.due order p
      have hSame :
          dueUnits (w.setStock productId (cur + n)) order p =
            dueUnits w order p := rfl
      rw [hSame, ← hOld]
      simp only [Prod.fst_add, Prod.snd_add, Pi.add_apply,
        booked, hBookedFor, owes]
      by_cases hOrder : order = key
      · by_cases hp : docId "products" productId = p
        · simp only [hOrder, hp, and_self, if_true]
          push_cast
          ring
        · simp only [hOrder, hp, and_false, if_true,
            if_false]
          push_cast
          ring
      · simp only [hOrder, false_and, if_false]
        push_cast
        ring
    · intro p
      have hOld := hInv.stock p
      rw [stockOf_setStock hMatch]
      simp only [Prod.snd_add, Pi.add_apply, booked,
        restored_cons_matched] at hOld ⊢
      rw [hOld]
      ring
    · exact hInv.core
    · exact hInv.flag
  · have hExec :
        exec (.casProduct productId (cur + n) cur) a w =
          (.ok false, w) := by
      simp only [exec, Answer.guard, hFault]
      rw [if_neg (by simp), if_neg hMatch]
      rfl
    rw [hExec]
    refine ⟨_, hInv, (hLost a ?_).of_booked
      (booked_cons_of_unitsOf (fun p => ?_) tr)⟩
    · exact hLast.resolve_right hMatch
    · simp [unitsOf, matched]

end

--------
-- Whole Requests
--------

open Handler

section

variable {w₀ : Store} {tr : Trace} {key : String}

/- A finished request owes no units. -/
def Settled {α : Type} : Trace → Holdings → α → Prop :=
  fun _ g _ => g.1 = 0

/- What a restore leaves the request with. -/
def RestoreDone
    {α : Type}
    (key : String)
    (extra : String → ℕ) : Trace → Holdings → α → Prop :=
  fun tr g _ =>
    g = (owes key extra, booked tr) ∧
      orderOf tr = some key ∧ misses tr = 0

/- A restore ends with the units put back. -/
theorem keepsBooks_restoreStock
    (message productId : String)
    (n : ℕ)
    (extra : String → ℕ)
    {attempts : Nat}
    (hKey : orderOf tr = some key)
    (hLeft : misses tr + attempts = 3)
    (hSome : 0 < attempts) :
    KeepsBooks w₀
      (fun tr g r =>
        RestoreDone key extra tr g r ∧ r = .ok true)
      tr
      (owes key (fun p =>
        (if docId "products" productId = p then n else 0) +
          extra p))
      (restoreStock message productId n attempts) := by
  induction attempts generalizing tr with
  | zero => exact absurd hSome (Nat.lt_irrefl 0)
  | succ attempts ih =>
    have hSpares : (Op.getProduct productId).sparesBooks :=
      rfl
    apply keepsBooks_spare hSpares
    intro a w m _ _
    have hKey' := orderOf_cons_of_some hKey
      ⟨.getProduct productId, a,
        (exec (.getProduct productId) a w).1⟩
    apply keepsBooks_casProduct hKey'
    · intro a'
      exact ⟨rfl, ⟨rfl, orderOf_cons_of_some hKey' _, rfl⟩,
        rfl⟩
    · intro a' hMisses
      apply ih (orderOf_cons_of_some hKey' _)
      · simp only [misses, missed, if_true]
        omega
      · simp only [misses] at hMisses
        omega

/- The restores of a cancelled order. -/
theorem keepsBooks_restoreItems
    (hItems : ∀ it ∈ items, it.Restorable)
    (hKey : orderOf tr = some key)
    (hMisses : misses tr = 0) :
    KeepsBooks w₀
      (fun tr g r =>
        RestoreDone key (fun _ => 0) tr g r ∧ r = .ok ())
      tr (owes key (reservedOf items))
      (restoreItems items) := by
  induction items generalizing tr with
  | nil => exact ⟨rfl, ⟨rfl, hKey, hMisses⟩, rfl⟩
  | cons it rest ih =>
    have hRest : ∀ it' ∈ rest, it'.Restorable :=
      fun it' h => hItems it' (List.mem_cons_of_mem _ h)
    have hItem := hItems it List.mem_cons_self
    unfold restoreItems
    by_cases hRestored :
        (!it.isDigital && it.productId ≠ "" &&
          it.qty > 0) = true
    · rw [if_pos hRestored]
      have hDigital : it.isDigital = false := by
        simp only [Bool.and_eq_true,
          Bool.not_eq_true'] at hRestored
        exact hRestored.1.1
      have hQty : (it.qty.toNat : Int) = it.qty :=
        Int.toNat_of_nonneg hItem.1
      have hOwed :
          reservedOf (it :: rest) = fun p =>
            (if docId "products" it.productId = p then
              it.qty.toNat else 0) + reservedOf rest p := by
        funext p
        simp [reservedOf, Item.units, hDigital]
      rw [hOwed]
      apply Prog.Keeps.bind (hQty ▸
        keepsBooks_restoreStock _ it.productId
          it.qty.toNat (reservedOf rest) hKey
          (by rw [hMisses]) (by decide : 0 < 3))
      rintro tr' g r ⟨⟨rfl, hKey', hMisses'⟩, rfl⟩ _
      exact ih hRest hKey' hMisses'
    · rw [if_neg hRestored]
      have hUnits : ∀ p, it.units p = 0 := by
        intro p
        by_cases hDigital : it.isDigital = false
        · have hNamed := hItem.2 hDigital
          have hQty : it.qty.toNat = 0 := by
            simp [hDigital, hNamed.1] at hRestored
            omega
          simp [Item.units, hQty]
        · simp [Item.units, hDigital]
      have hOwed :
          reservedOf (it :: rest) = reservedOf rest := by
        funext p
        simp [reservedOf, hUnits]
      rw [hOwed]
      exact ih hRest hKey hMisses

variable {α : Type} {req : RefundItemRequest} {item : Item}
variable {first : Order}

/- A handler part that spares the books, then the rest. -/
theorem keepsBooks_andThen
    {β : Type}
    {p : Handler α}
    {f : α → Handler β}
    (hUses : p.Uses Op.sparesBooks)
    (hNext :
      ∀ tr' a, Prog.Extends Op.sparesBooks tr tr' →
        KeepsBooks w₀ Settled tr' 0 (f a)) :
    KeepsBooks w₀ Settled tr 0 (andThen p f) := by
  apply Prog.Keeps.bind (keepsBooks_uses hUses)
  rintro tr' g r ⟨rfl, hExtends⟩ _
  cases r with
  | error e => exact ⟨rfl, rfl⟩
  | ok a => exact hNext tr' a hExtends

theorem keepsBooks_require
    {check : Bool}
    {e : Error}
    {next : Handler α}
    (hNext :
      check = true → KeepsBooks w₀ Settled tr 0 next) :
    KeepsBooks w₀ Settled tr 0 (require check e next) :=
  keeps_require rfl rfl hNext

theorem keepsBooks_lift
    {β : Type}
    {r : Except Error β}
    {f : β → Handler α}
    (hNext :
      ∀ b, r = .ok b → KeepsBooks w₀ Settled tr 0 (f b)) :
    KeepsBooks w₀ Settled tr 0 (andThen (lift r) f) :=
  keeps_lift rfl (fun _ _ => rfl) hNext

/- The limiter lets the request pass, or ends it. -/
theorem keepsBooks_rateLimit
    {userId action : String}
    {f : Unit → Handler α}
    (hNext :
      ∀ a r, KeepsBooks w₀ Settled
        (⟨.rateLimit userId action, a, r⟩ :: tr) 0 (f ())) :
    KeepsBooks w₀ Settled tr 0
      (andThen (Db.rateLimit userId action) f) := by
  have hSpares : (Op.rateLimit userId action).sparesBooks :=
    rfl
  apply keepsBooks_spare hSpares
  intro a w m _ _
  have hEither :
      ∀ r, KeepsBooks w₀ Settled
        (⟨.rateLimit userId action, a, r⟩ :: tr) 0
        (andThen (.ret r) f) := by
    intro r
    cases r with
    | error e => exact ⟨rfl, rfl⟩
    | ok u => exact hNext a _
  exact hEither _

theorem keepsBooks_isUserAdmin
    {userId : String}
    {f : Bool → Handler α}
    (hNext :
      ∀ a r isAdmin, KeepsBooks w₀ Settled
        (⟨.getUser userId, a, r⟩ :: tr) 0 (f isAdmin)) :
    KeepsBooks w₀ Settled tr 0
      ((isUserAdmin userId).bind f) := by
  refine keeps_isUserAdmin rfl ?_
  intro a r isAdmin
  exact (hNext a r isAdmin).of_booked
    (booked_cons_of_unitsOf (fun _ => rfl) tr)

/- A part of a handler after which nothing is owed. -/
theorem keepsBooks_of_uses
    {p : Prog Op.Res α}
    (hUses : p.Uses Op.sparesBooks) :
    KeepsBooks w₀ Settled tr 0 p := by
  apply Prog.Keeps.mono (keepsBooks_uses hUses)
  rintro tr' g r ⟨rfl, _⟩
  rfl

theorem spares_createOrderEvent
    (orderId userId eventType message : String) :
    (context (Db.createOrderEvent orderId userId eventType)
      message).Uses Op.sparesBooks := by
  refine ⟨rfl, ?_⟩
  intro r
  cases r <;> trivial

/- After the refund is recorded, its units are owed. -/
theorem keepsBooks_settleRefund
    (hItem : item.Restorable)
    (hId : item.productId = req.productId)
    (hKey : orderOf tr = some key)
    (hMisses : misses tr = 0)
    (userId : String)
    (amount : Int)
    (refundId : Option String) :
    KeepsBooks w₀ Settled tr (owes key item.units)
      (settleRefund req userId item amount refundId) := by
  have hLog :
      ∀ tr, KeepsBooks w₀ Settled tr 0 (andThen (context
            (Db.createOrderEvent req.orderId userId
              "item_refunded")
            "Failed to log refund event: ") fun _ =>
          ok (⟨true, amount, refundId, none⟩ :
            RefundItemResponse)) := by
    intro tr
    apply keepsBooks_andThen (spares_createOrderEvent ..)
    intro tr' _ _
    exact ⟨rfl, rfl⟩
  unfold settleRefund
  cases hPhysical : item.isPhysical with
  | true =>
    have hDigital : item.isDigital = false := by
      by_contra h
      simp [Item.isPhysical, h] at hPhysical
    have hQty : (item.qty.toNat : Int) = item.qty :=
      Int.toNat_of_nonneg hItem.1
    have hOwed :
        item.units = fun p =>
          (if docId "products" req.productId = p then
            item.qty.toNat else 0) + 0 := by
      funext p
      simp [Item.units, hDigital, hId]
    rw [hOwed]
    apply Prog.Keeps.bind (hQty ▸
      keepsBooks_restoreStock _ req.productId
        item.qty.toNat (fun _ => 0) hKey
        (by rw [hMisses]) (by decide : 0 < 3))
    rintro tr' g r ⟨⟨rfl, _, _⟩, rfl⟩ _
    rw [owes_zero]
    exact hLog tr'
  | false =>
    have hDigital : item.isDigital = true := by
      by_contra h
      have hSame := (hItem.2 (by simpa using h)).2
      rw [hPhysical] at hSame
      exact Bool.false_ne_true hSame
    have hOwed : item.units = fun _ => 0 := by
      funext p
      simp [Item.units, hDigital]
    rw [hOwed, owes_zero]
    have hUses :
        (context
          (Db.revokeLicenses req.orderId req.productId)
          ("Failed to revoke digital licenses for " ++
            "refunded item: ")).Uses Op.sparesBooks := by
      refine ⟨rfl, ?_⟩
      intro r
      cases r <;> trivial
    apply keepsBooks_andThen hUses
    intro tr' _ _
    exact hLog tr'

theorem spares_casCumulative
    {orderId : String}
    {curOrder : Order}
    {missed : Handler Bool}
    (hMissed : missed.Uses Op.sparesBooks) :
    (casCumulative orderId amount curOrder missed).Uses
      Op.sparesBooks := by
  refine ⟨⟨rfl, rfl, rfl⟩, ?_⟩
  intro r
  cases r with
  | error e => trivial
  | ok updated =>
    cases updated with
    | true => trivial
    | false => exact hMissed

theorem spares_tryReserve
    {orderId : String}
    {curOrder : Order}
    {missed : Handler Bool}
    (hMissed : missed.Uses Op.sparesBooks) :
    (tryReserve orderId amount curOrder missed).Uses
      Op.sparesBooks := by
  unfold tryReserve
  split_ifs
  · trivial
  · refine ⟨⟨rfl, rfl, rfl⟩, ?_⟩
    intro r
    exact spares_casCumulative hMissed
  · exact spares_casCumulative hMissed

theorem spares_reserveRefund
    (orderId : String)
    (amount : Int)
    (attempts : Nat) :
    (reserveRefund orderId amount attempts).Uses
      Op.sparesBooks := by
  induction attempts with
  | zero => trivial
  | succ attempts ih =>
    refine ⟨rfl, ?_⟩
    intro r
    cases r with
    | error e => trivial
    | ok curOrder =>
      apply spares_tryReserve
      split_ifs
      · trivial
      · exact ih

theorem keepsBooks_recordRefund
    (hItem : item.Restorable)
    (hFirst : firstOrder tr = some first)
    (hKey :
      orderOf tr = some (docId "orders" req.orderId))
    (hFind :
      first.items.find?
          (fun it => it.productId = req.productId) =
        some item)
    (hStatus : item.status ≠ OrderStatus.refunded.asStr)
    (userId reason : String)
    (amount : Int)
    (refundId : Option String) :
    KeepsBooks w₀ Settled tr 0
      (recordRefund req userId reason first.items item
        amount refundId) := by
  have hId : item.productId = req.productId := by
    simpa using List.find?_some hFind
  have hSpares : Op.utcNow.sparesBooks := rfl
  apply keepsBooks_spare hSpares
  intro a w m _ _
  apply keepsBooks_record
    (firstOrder_cons_of_some hFirst _) hFind hStatus
  intro a'
  exact keepsBooks_settleRefund hItem hId
    (orderOf_cons_of_some (orderOf_cons_of_some hKey _) _)
    rfl userId amount refundId

theorem keepsBooks_performRefund
    (hItem : item.Restorable)
    (hFirst : firstOrder tr = some first)
    (hKey :
      orderOf tr = some (docId "orders" req.orderId))
    (hFind :
      first.items.find?
          (fun it => it.productId = req.productId) =
        some item)
    (hStatus : item.status ≠ OrderStatus.refunded.asStr)
    (userId : String)
    (amount : Int) :
    KeepsBooks w₀ Settled tr 0
      (performRefund req userId first item amount) := by
  apply keepsBooks_andThen (spares_reserveRefund ..)
  intro tr' reserved hExtends
  cases reserved with
  | false =>
    exact keepsBooks_of_uses ⟨rfl, fun _ => trivial⟩
  | true =>
    apply keepsBooks_require
    intro _
    have hSpares :
        (Op.stripeRefund first.paymentIntentId (some amount)
          ("refund_" ++ req.orderId ++ "_" ++
            req.productId)).sparesBooks := trivial
    apply keepsBooks_spare hSpares
    intro a w m _ _
    generalize (exec (.stripeRefund _ _ _) a w).1 = r
    cases r with
    | ok refundId =>
      exact keepsBooks_recordRefund hItem
        (firstOrder_cons_of_some
          (firstOrder_of_extends hExtends hFirst) _)
        (orderOf_cons_of_some
          (orderOf_of_extends hExtends hKey) _)
        hFind hStatus _ _ _ _
    | error e =>
      exact keepsBooks_of_uses
        ⟨rfl, fun _ => ⟨⟨rfl, rfl, rfl⟩, fun _ => trivial⟩⟩

theorem keepsBooks_refundFoundItem
    (hItem : item.Restorable)
    (hFirst : firstOrder tr = some first)
    (hKey :
      orderOf tr = some (docId "orders" req.orderId))
    (hFind :
      first.items.find?
          (fun it => it.productId = req.productId) =
        some item)
    (userId : String)
    (isAdmin : Bool) :
    KeepsBooks w₀ Settled tr 0
      (refundFoundItem req userId first isAdmin item) := by
  apply keepsBooks_require
  intro _
  apply keepsBooks_require
  intro _
  apply keepsBooks_require
  intro _
  by_cases hStatus :
      item.status = OrderStatus.refunded.asStr
  · rw [if_pos hStatus]
    exact ⟨rfl, rfl⟩
  rw [if_neg hStatus]
  have hUses :
      (returnWindowClosed isAdmin item).Uses
        Op.sparesBooks := by
    unfold returnWindowClosed
    cases item.deliveredAt with
    | none => trivial
    | some deliveredAt =>
      dsimp only
      split_ifs
      · exact ⟨rfl, fun _ => trivial⟩
      · trivial
  apply Prog.Keeps.bind (keepsBooks_uses hUses)
  rintro tr' g closed ⟨rfl, hExtends⟩ _
  apply keepsBooks_require
  intro _
  apply keepsBooks_lift
  intro amount _
  exact keepsBooks_performRefund hItem
    (firstOrder_of_extends hExtends hFirst)
    (orderOf_of_extends hExtends hKey)
    hFind hStatus userId amount

/-
  No unit of the order has been given back, and its items
  can be.
-/
def Order.Untouched (order : Order) : Prop :=
  order.isCancelled = false ∧ order.stockRestored = false ∧
    ∀ it ∈ order.items,
      it.isRefunded = false ∧ it.Restorable

instance (order : Order) : Decidable order.Untouched :=
  inferInstanceAs (Decidable (_ ∧ _ ∧ _))

def Store.Untouched (w : Store) : Prop :=
  ∀ row ∈ w.orders.rows, row.2.Untouched

instance (w : Store) : Decidable w.Untouched :=
  inferInstanceAs (Decidable (∀ row ∈ w.orders.rows, _))

theorem Store.Untouched.order
    {w : Store}
    {order : Order}
    (hStore : w.Untouched)
    (hGet : w.orders.get key = some order) :
    order.Untouched :=
  hStore _ (Table.mem_of_get hGet)

theorem ReadOf.restorable
    {order : Order}
    (hRead : ReadOf w₀ key order)
    (hStore : w₀.Untouched) :
    ∀ it ∈ order.items, it.Restorable := by
  rcases Option.map_eq_some_iff.mp hRead.core with
    ⟨order₀, hGet, hCore⟩
  intro it hIt
  have hMem : it.core ∈ order₀.items.map Item.core := by
    rw [hCore]
    exact List.mem_map_of_mem hIt
  rcases List.mem_map.mp hMem with ⟨it₀, hIt₀, hSame⟩
  exact Item.restorable_of_core hSame
    ((hStore.order hGet).2.2 it₀ hIt₀).2

/- A refund request keeps the books. -/
theorem keepsBooks_refundOrderItem
    (hStore : w₀.Untouched)
    (auth : AuthContext)
    (req : RefundItemRequest) :
    KeepsBooks w₀ Settled [] 0 (refundOrderItem auth req) := by
  apply keepsBooks_lift
  intro _ _
  apply keepsBooks_lift
  intro _ _
  apply keepsBooks_rateLimit
  intro a r
  apply keepsBooks_getOrder
  · intro a' order hRead
    apply keepsBooks_isUserAdmin
    intro a'' user isAdmin
    cases hFind :
        order.items.find?
          (fun it => it.productId = req.productId) with
    | none => exact ⟨rfl, rfl⟩
    | some item =>
      have hItem : item.Restorable :=
        hRead.restorable hStore item
          (List.mem_of_find?_eq_some hFind)
      exact keepsBooks_refundFoundItem hItem rfl rfl hFind
        auth.userId isAdmin
  · intro a' e
    exact ⟨rfl, rfl⟩

theorem spares_quarantine
    (orderId : String)
    (e : Error) :
    (quarantine orderId e : Handler α).Uses
      Op.sparesBooks :=
  ⟨⟨rfl, rfl, rfl⟩, fun _ => trivial⟩

theorem spares_releasePayment
    (req : CancelOrderRequest)
    (order : Order) :
    (releasePayment req order).Uses Op.sparesBooks := by
  unfold releasePayment
  split_ifs
  · refine ⟨trivial, ?_⟩
    intro r
    cases r with
    | ok refundId => trivial
    | error e => exact spares_quarantine ..
  · refine ⟨trivial, ?_⟩
    intro r
    cases r with
    | ok u => trivial
    | error e => exact spares_quarantine ..
  · trivial

/- An order that may be cancelled is not cancelled yet. -/
theorem ne_cancelled_of_cancellable
    {status : String}
    (hStatus : cancellable status = true) :
    status ≠ OrderStatus.cancelled.asStr := by
  rintro rfl
  revert hStatus
  decide

theorem keepsBooks_finishCancel
    {req : CancelOrderRequest}
    (hStore : w₀.Untouched)
    (hRead : ReadOf w₀ (docId "orders" req.orderId) first)
    (hKey :
      orderOf tr = some (docId "orders" req.orderId))
    (hStatus : cancellable first.status = true)
    (userId paymentStatus : String) :
    KeepsBooks w₀ Settled tr 0
      (finishCancel req userId first paymentStatus) := by
  have hOpen := ne_cancelled_of_cancellable hStatus
  have hNotYet : first.stockRestored = false := by
    by_contra h
    have hCancelled := hRead.flag (by simpa using h)
    simp only [Order.isCancelled,
      decide_eq_true_eq] at hCancelled
    exact hOpen (by simp [Order.status, hCancelled])
  apply keepsBooks_cancel hRead hOpen
  · intro a
    simp only [hNotYet, Bool.false_eq_true, if_false]
    apply Prog.Keeps.bind
      (keepsBooks_restoreItems (hRead.restorable hStore)
        (orderOf_cons_of_some hKey _) rfl)
    rintro tr' g r ⟨⟨rfl, _, _⟩, rfl⟩ _
    rw [owes_zero]
    apply keepsBooks_andThen (spares_createOrderEvent ..)
    intro tr'' _ _
    exact ⟨rfl, rfl⟩
  · intro a
    exact ⟨rfl, rfl⟩

/- A cancellation keeps the books. -/
theorem keepsBooks_cancelOrder
    (hStore : w₀.Untouched)
    (auth : AuthContext)
    (req : CancelOrderRequest) :
    KeepsBooks w₀ Settled [] 0 (cancelOrder auth req) := by
  apply keepsBooks_lift
  intro userId _
  apply keepsBooks_lift
  intro _ _
  apply keepsBooks_rateLimit
  intro a r
  apply keepsBooks_getOrder
  · intro a' order hRead
    apply keepsBooks_require
    intro _
    apply keepsBooks_require
    intro _
    apply keepsBooks_require
    intro _
    apply keepsBooks_require
    intro hStatus
    apply keepsBooks_require
    intro _
    apply keepsBooks_andThen (spares_releasePayment ..)
    intro tr' paymentStatus hExtends
    exact keepsBooks_finishCancel hStore hRead
      (orderOf_of_extends hExtends rfl) hStatus userId paymentStatus
  · intro a' e
    exact ⟨rfl, rfl⟩

/- Every request that restores stock keeps the books. -/
theorem keepsBooks_handler
    (hStore : w₀.Untouched)
    {call : OrderCall}
    (hCall : call.restores = true) :
    KeepsBooks w₀ Settled [] 0 call.handler := by
  cases call with
  | refundItem auth req =>
    apply Prog.Keeps.bind
      (keepsBooks_refundOrderItem hStore auth req)
    intro tr g r hPost hLink
    exact ⟨hLink, hPost⟩
  | cancel auth req =>
    apply Prog.Keeps.bind
      (keepsBooks_cancelOrder hStore auth req)
    intro tr g r hPost hLink
    exact ⟨hLink, hPost⟩
  | _ => exact absurd hCall Bool.false_ne_true

end

--------
-- Whole Runs
--------

/- The units of an order put back so far. -/
def restoredUnits (c : OrderRun) (order product : String) :
    Int :=
  (c.threads.map (fun t =>
    restoredFor order product t.trace)).sum

namespace Holdings

/- The parts of the holdings of a run add up. -/
def owed : Holdings →+ (String → String → ℕ) where
  toFun g := g.1
  map_zero' := rfl
  map_add' _ _ := rfl

def forOrder (order product : String) : Holdings →+ Int where
  toFun g := g.2.1 order product
  map_zero' := rfl
  map_add' _ _ := rfl

def ofProduct (product : String) : Holdings →+ Int where
  toFun g := g.2.2 product
  map_zero' := rfl
  map_add' _ _ := rfl

end Holdings

theorem books_start
    (hStore : w₀.Untouched) :
    Books w₀ w₀ 0 := by
  constructor
  · intro key product
    have hNone : dueUnits w₀ key product = 0 := by
      unfold dueUnits
      cases hGet : w₀.orders.get key with
      | none => rfl
      | some order =>
        have hOrder := hStore.order hGet
        rw [Option.map_some, Option.getD_some, hOrder.1]
        apply dueOf_false_eq_zero
        intro it hIt
        exact Or.inr (hOrder.2.2 it hIt).1
    rw [hNone]
    rfl
  · intro product
    exact (add_zero _).symm
  · intro key
    rfl
  · intro key order hGet hFlag
    have hOrder := hStore.order hGet
    rw [hOrder.2.1] at hFlag
    exact absurd hFlag Bool.false_ne_true

/- The units due never exceed the units reserved. -/
theorem Books.due_le
    (hBooks : Books w₀ w held)
    (key product : String) :
    dueUnits w key product ≤ reservedUnits w₀ key product := by
  have hCore := hBooks.core key
  unfold dueUnits reservedUnits
  cases hNow : w.orders.get key with
  | none => exact Nat.zero_le _
  | some order =>
    rw [hNow, Option.map_some] at hCore
    rcases Option.map_eq_some_iff.mp hCore.symm with
      ⟨order₀, hGet, hItems⟩
    rw [hGet]
    simp only [Option.map_some, Option.getD_some]
    rw [reservedOf_congr hItems]
    exact dueOf_le_reservedOf ..

/- The books at the end of a run that keeps them. -/
theorem books_of_keeps
    (hStore : w₀.Untouched)
    {cond : StepCond Op.Res Answer Store}
    {ps : List (Handler OrderReply)}
    (hKeeps :
      ∀ p ∈ ps, p.Keeps exec cond (Books w₀)
          (fun tr g => g.2 = booked tr) Settled [] 0)
    {c : OrderRun}
    (hReach : Reach exec cond (Config.start w₀ ps) c) :
    ∃ held, Books w₀ c.world held ∧
        (∀ order product, held.2.1 order product =
            restoredUnits c order product) ∧
        (∀ product,
          held.2.2 product = restoredTotal c product) ∧
        (c.Idle → held.1 = 0) := by
  rcases Reach.accounts
      (Balanced.start (books_start hStore) hKeeps) hReach with
    ⟨gs, hBooks, hAll⟩
  refine ⟨gs.sum, hBooks, ?_, ?_, ?_⟩
  · intro order product
    apply Balanced.map_sum (Holdings.forOrder order product)
      (restoredFor order product) ?_ hAll
    intro tr g hLink
    unfold Holdings.forOrder
    simp [hLink, booked]
  · intro product
    apply Balanced.map_sum (Holdings.ofProduct product)
      (restored product) ?_ hAll
    intro tr g hLink
    unfold Holdings.ofProduct
    simp [hLink, booked]
  · intro hIdle
    exact Balanced.idle_map_sum Holdings.owed
      (fun _ _ _ hPost => hPost) hAll hIdle

/- A paid order of two units of one product. -/
def twoUnitOrder : Order where
  orderId := "o1"
  items :=
    [{ productId := "p1", sellerId := some "s1",
       priceCents := 1000, quantity := some 2 }]
  orderStatus := some "confirmed"
  paymentStatus := "captured"
  paymentIntentId := "pi_1"
  buyerId := "b1"
  subtotalCents := 2000
  totalAmountCents := 2000
  cumulativeRefundedCents := some 0

def twoUnitStore : Store where
  orders := ⟨[("o1", twoUnitOrder)]⟩
  products := ⟨[("p1", { stockQuantity := some 7 })]⟩

def refundUnits : OrderCall :=
  .refundItem { userId := "s1" }
    { orderId := "o1", productId := "p1" }

def cancelByBuyer : OrderCall :=
  .cancel { userId := "b1" } { orderId := "o1" }

end Orignabase
