import Orignabase.Lib.Retry
import Orignabase.Lib.Runs
import Orignabase.Store.Api

/-
  Rules for reasoning about handlers: how the combinators
  reduce, what each operation does to the store, and what a
  thread has read of an order.

  Key definitions include:
    * `Op.isRead`
    * `firstOrder`
    * `lastOrder`

  Main results:
    * `exec_read`
    * `keeps_read`
-/

--------
-- Reduction Of Handlers
--------

namespace Orignabase

open Conc

namespace Handler

variable {O : Type} {R : O → Type} {α β : Type}

@[simp] theorem ok_eq (a : α) :
    ok a = (.ret (.ok a) : Prog R (Except Error α)) := rfl

@[simp] theorem fail_eq (e : Error) :
    fail e = (.ret (.error e) : Prog R (Except Error α)) :=
  rfl

@[simp] theorem lift_eq (r : Except Error α) :
    lift r = (.ret r : Prog R (Except Error α)) := rfl

@[simp] theorem andThen_ok
    (a : α)
    (f : α → Prog R (Except Error β)) :
    andThen (.ret (.ok a)) f = f a := rfl

@[simp] theorem andThen_error
    (e : Error)
    (f : α → Prog R (Except Error β)) :
    andThen (.ret (.error e)) f = .ret (.error e) := rfl

@[simp] theorem andThen_call
    (o : O)
    (k : R o → Prog R (Except Error α))
    (f : α → Prog R (Except Error β)) :
    andThen (.call o k) f =
      .call o (fun r => andThen (k r) f) := rfl

@[simp] theorem mapErr_ok
    (a : α)
    (f : Error → Error) :
    mapErr (.ret (.ok a)) f =
      (.ret (.ok a) : Prog R (Except Error α)) := rfl

@[simp] theorem mapErr_error
    (e : Error)
    (f : Error → Error) :
    mapErr (.ret (.error e)) f =
      (.ret (.error (f e)) : Prog R (Except Error α)) := rfl

@[simp] theorem mapErr_call
    (o : O)
    (k : R o → Prog R (Except Error α))
    (f : Error → Error) :
    mapErr (.call o k) f =
      .call o (fun r => mapErr (k r) f) := rfl

@[simp] theorem context_ok (a : α) (message : String) :
    context (.ret (.ok a)) message =
      (.ret (.ok a) : Prog R (Except Error α)) := rfl

@[simp] theorem context_error
    (e : Error)
    (message : String) :
    context (.ret (.error e)) message =
      (.ret (.error (.database (message ++ e.display))) :
        Prog R (Except Error α)) := rfl

@[simp] theorem context_call
    (o : O)
    (k : R o → Prog R (Except Error α))
    (message : String) :
    context (.call o k) message =
      .call o (fun r => context (k r) message) := rfl

end Handler

/- The operations of a handler are those of its parts. -/
variable {check : Bool} {e : Error}

section

open Handler

variable {O : Type} {R : O → Type} {P : O → Prop}
variable {α β : Type}

theorem uses_perform {o : O} (hOp : P o) :
    (Prog.perform o : Prog R (R o)).Uses P :=
  ⟨hOp, fun _ => trivial⟩

theorem uses_andThen
    {p : Prog R (Except Error α)}
    {f : α → Prog R (Except Error β)}
    (hFirst : p.Uses P)
    (hNext : ∀ x, (f x).Uses P) :
    (andThen p f).Uses P := by
  apply hFirst.bind
  intro r
  cases r with
  | error e => trivial
  | ok x => exact hNext x

theorem uses_mapErr
    {p : Prog R (Except Error α)}
    (hUses : p.Uses P)
    (f : Error → Error) :
    (mapErr p f).Uses P := by
  apply hUses.bind
  intro r
  cases r <;> trivial

theorem uses_require
    {next : Prog R (Except Error α)}
    (hNext : next.Uses P) :
    (require check e next).Uses P := by
  cases check with
  | false => trivial
  | true => exact hNext

end

--------
-- Effects On The Store
--------

namespace Store

/- Two texts of one record id. -/
theorem order?_congr
    (w : Store)
    {id other : String}
    (hId : docId "orders" id = docId "orders" other) :
    w.order? id = w.order? other := by
  unfold order?
  rw [hId]

theorem order?_modifyOrder
    (w : Store)
    (id other : String)
    (f : Order → Order) :
    (w.modifyOrder id f).order? other =
      if docId "orders" other = docId "orders" id then
        (w.order? other).map f
      else w.order? other := by
  unfold order? modifyOrder
  exact Table.get_modify ..

@[simp] theorem order?_modifyOrder_self
    (w : Store)
    (id : String)
    (f : Order → Order) :
    (w.modifyOrder id f).order? id =
      (w.order? id).map f := by
  rw [order?_modifyOrder, if_pos rfl]

@[simp] theorem product?_modifyOrder
    (w : Store)
    (id other : String)
    (f : Order → Order) :
    (w.modifyOrder id f).product? other =
      w.product? other := rfl

@[simp] theorem refunds_modifyOrder
    (w : Store)
    (id : String)
    (f : Order → Order) :
    (w.modifyOrder id f).refunds = w.refunds := rfl

@[simp] theorem order?_setStock
    (w : Store)
    (id other : String)
    (stock : Int) :
    (w.setStock id stock).order? other =
      w.order? other := rfl

@[simp] theorem refunds_setStock
    (w : Store)
    (id : String)
    (stock : Int) :
    (w.setStock id stock).refunds = w.refunds := rfl

theorem product?_setStock
    (w : Store)
    (id other : String)
    (stock : Int) :
    (w.setStock id stock).product? other =
      if docId "products" other = docId "products" id then
        (w.product? other).map
          (fun p => { p with stockQuantity := some stock })
      else w.product? other := by
  unfold product? setStock
  exact Table.get_modify ..

end Store

/- Calls that leave the database. -/
def Op.isRemote : Op → Bool
  | .stripeRefund .. | .stripeCancelPi ..
  | .getCheckoutSession .. | .stripeCapture .. => true
  | _ => false

/- Operations that never change the store. -/
def Op.isRead : Op → Bool
  | .rateLimit .. | .utcNow | .returnWindowExpired ..
  | .getUser .. | .getOrder .. | .getProduct ..
  | .revokeLicenses .. | .createOrderEvent .. | .notify ..
  | .findOrder .. | .setPaymentColumns ..
  | .clearCart .. | .findOrderByIntent ..
  | .setRefundColumn .. | .refundRecords ..
  | .getCheckoutSession .. | .newId | .findReturn ..
  | .getReturn .. | .acquireCronLock ..
  | .releaseCronLock .. | .alertCronFailure ..
  | .expiredOrders | .staleReturns => true
  | _ => false

variable {o : Op} {a : Answer} {w : Store} {order : Order}

theorem exec_read
    (hRead : o.isRead = true)
    (a : Answer)
    (w : Store) :
    (exec o a w).2 = w := by
  cases o <;> simp only [Op.isRead, Bool.false_eq_true]
    at hRead <;>
    simp only [exec, Answer.guard, apply_ite Prod.snd,
      ite_self]

theorem exec_getOrder
    (hFault : a.fault = false)
    {id : String}
    (hOrder : w.order? id = some order) :
    exec (.getOrder id) a w = (.ok order, w) := by
  simp only [exec, Answer.guard, hFault, hOrder]
  rfl

theorem exec_updateOrder
    (hFault : a.fault = false)
    {id : String}
    (hOrder : w.order? id = some order)
    (patch : OrderPatch) :
    exec (.updateOrder id patch) a w =
      (.ok (), w.modifyOrder id patch.apply) := by
  simp only [exec, Answer.guard, hFault, hOrder]
  rfl

theorem exec_casOrder
    (hFault : a.fault = false)
    {id : String}
    (hOrder : w.order? id = some order)
    (patch : OrderPatch)
    (guard : OrderGuard) :
    exec (.casOrder id patch guard) a w =
      if guard.holds order then
        (.ok true, w.modifyOrder id patch.apply)
      else (.ok false, w) := by
  simp only [exec, Answer.guard, hFault, hOrder]
  rfl

--------
-- Updates Of Orders
--------

namespace Op

/- The update that takes effect: the row and its patch. -/
def edits (o : Op) (w : Store) :
    Option (String × OrderPatch) :=
  match o with
  | .updateOrder id patch =>
    if (w.order? id).isSome then
      some (docId "orders" id, patch)
    else none
  | .casOrder id patch guard =>
    if (w.order? id).any guard.holds then
      some (docId "orders" id, patch)
    else none
  | _ => none

/- The row and the items that an update would write. -/
def newItems : Op → Option (String × List Item)
  | .updateOrder id patch | .casOrder id patch _ =>
    patch.items.map (fun items => (docId "orders" id, items))
  | _ => none

/- Statements of the payment webhooks on orders. -/
def isColumnWrite : Op → Bool
  | .setOrderStatus .. | .setCheckoutSession .. => true
  | _ => false

variable {o : Op} {w : Store} {key : String}
variable {patch : OrderPatch}

/- Only updates of orders that are stored take effect. -/
theorem edits_cases
    (hEdits : o.edits w = some (key, patch)) :
    ∃ id, docId "orders" id = key ∧
      (∃ order, w.order? id = some order) ∧
      (o = .updateOrder id patch ∨
        ∃ guard, o = .casOrder id patch guard) := by
  cases o with
  | updateOrder id patch' =>
    simp only [edits, Option.ite_none_right_eq_some,
      Option.some.injEq, Prod.mk.injEq] at hEdits
    rcases hEdits with ⟨hSome, hKey, rfl⟩
    exact ⟨id, hKey, Option.isSome_iff_exists.mp hSome,
      .inl rfl⟩
  | casOrder id patch' guard =>
    simp only [edits, Option.ite_none_right_eq_some,
      Option.some.injEq, Prod.mk.injEq] at hEdits
    rcases hEdits with ⟨hAny, hKey, rfl⟩
    rcases (Option.any_eq_true _ _).mp hAny with
      ⟨order, hOrder, _⟩
    exact ⟨id, hKey, ⟨order, hOrder⟩, .inr ⟨guard, rfl⟩⟩
  | _ => cases hEdits

theorem edits_get
    (hEdits : o.edits w = some (key, patch)) :
    ∃ order, w.orders.get key = some order := by
  rcases edits_cases hEdits with ⟨id, rfl, hOrder, _⟩
  exact hOrder

/- The patch of an order update. -/
def patch? : Op → Option OrderPatch
  | .updateOrder _ patch | .casOrder _ patch _ => some patch
  | _ => none

theorem patch?_of_edits
    (hEdits : o.edits w = some (key, patch)) :
    o.patch? = some patch := by
  rcases edits_cases hEdits with
    ⟨id, _, _, rfl | ⟨guard, rfl⟩⟩
  · rfl
  · rfl

/- The row of an order update. -/
def row? : Op → Option String
  | .updateOrder id _ | .casOrder id _ _ =>
    some (docId "orders" id)
  | _ => none

theorem row?_of_edits
    (hEdits : o.edits w = some (key, patch)) :
    o.row? = some key := by
  rcases edits_cases hEdits with
    ⟨id, rfl, _, rfl | ⟨guard, rfl⟩⟩
  · rfl
  · rfl

theorem newItems_of_edits
    (hEdits : o.edits w = some (key, patch)) :
    o.newItems =
      patch.items.map (fun items => (key, items)) := by
  rcases edits_cases hEdits with
    ⟨id, rfl, _, rfl | ⟨guard, rfl⟩⟩
  · rfl
  · rfl

end Op

/- The orders after a statement that did not fail. -/
theorem orders_exec
    {o : Op}
    {a : Answer}
    (hFault : (o.isRemote || !a.fault) = true)
    (hColumns : o.isColumnWrite = false)
    (w : Store) :
    (exec o a w).2.orders =
      match o.edits w with
      | some (key, patch) => w.orders.modify key patch.apply
      | none => w.orders := by
  cases hAns : a.fault with
  | true =>
    have hNone : o.edits w = none := by
      cases o with
      | updateOrder id patch =>
        simp [Op.isRemote, hAns] at hFault
      | casOrder id patch guard =>
        simp [Op.isRemote, hAns] at hFault
      | _ => rfl
    rw [exec_fault o hAns, hNone]
  | false =>
    cases o with
    | updateOrder id patch =>
      simp only [exec, Answer.guard, hAns, Op.edits]
      cases hOrder : w.order? id with
      | none => rfl
      | some order => rfl
    | casOrder id patch guard =>
      simp only [exec, Answer.guard, hAns, Op.edits]
      by_cases hHolds :
          (w.order? id).any guard.holds = true
      · simp only [hHolds, if_true]
        rfl
      · simp only [hHolds, Bool.false_eq_true, if_false]
    | setOrderStatus id expected new =>
      simp [Op.isColumnWrite] at hColumns
    | setCheckoutSession id intent session =>
      simp [Op.isColumnWrite] at hColumns
    | stripeRefund intent amount key =>
      simp only [exec, Answer.guard, hAns, Op.edits,
        Bool.false_eq_true, if_false]
      split_ifs <;> rfl
    | createWebhookEvent id =>
      simp only [exec, Answer.guard, hAns, Op.edits,
        Bool.false_eq_true, if_false]
      split_ifs <;> rfl
    | deleteWebhookEvent id =>
      simp only [exec, Answer.guard, hAns, Op.edits,
        Bool.false_eq_true, if_false]
      split_ifs <;> rfl
    | casProduct id stock expected =>
      simp only [exec, Answer.guard, hAns, Op.edits,
        Bool.false_eq_true, if_false]
      split_ifs <;> rfl
    | stripeCapture intent key =>
      simp only [exec, Answer.guard, hAns, Op.edits,
        Bool.false_eq_true, if_false]
      split_ifs <;> rfl
    | createReturn doc =>
      simp only [exec, Answer.guard, hAns, Op.edits,
        Bool.false_eq_true, if_false]
      split_ifs <;> rfl
    | setReturnStatus id status amount =>
      simp only [exec, Answer.guard, hAns, Op.edits,
        Bool.false_eq_true, if_false]
      split_ifs <;> rfl
    | _ =>
      simp only [exec, Answer.guard, hAns, Op.edits,
        Bool.false_eq_true, if_false]

theorem order_of_edits
    {key : String}
    {patch : OrderPatch}
    (hFault : (o.isRemote || !a.fault) = true)
    (hColumns : o.isColumnWrite = false)
    (hEdits : o.edits w = some (key, patch))
    (other : String) :
    (exec o a w).2.orders.get other =
      if other = key then
        (w.orders.get other).map patch.apply
      else w.orders.get other := by
  rw [orders_exec hFault hColumns, hEdits]
  exact Table.get_modify ..

/- An operation that leaves a part of every order alone. -/
def Op.Spares {β : Type} (part : Order → β) : Op → Prop
  | .updateOrder _ patch | .casOrder _ patch _ =>
    ∀ order, part (patch.apply order) = part order
  | .setOrderStatus _ _ new =>
    ∀ order, part { order with orderStatus := some new } =
        part order
  | .setCheckoutSession _ pi session =>
    ∀ order, part
          { order with
            paymentIntentId := pi
            checkoutSessionId := session } =
        part order
  | _ => True

variable {β : Type}

theorem map_get_modify
    {part : Order → β}
    {f : Order → Order}
    (hSame : ∀ order, part (f order) = part order)
    (t : Table Order)
    (key other : String) :
    ((t.modify key f).get other).map part =
      (t.get other).map part := by
  rw [Table.get_modify]
  split_ifs
  · cases t.get other with
    | none => rfl
    | some order => exact congrArg some (hSame order)
  · rfl

theorem map_get_exec
    {part : Order → β}
    (hSpares : o.Spares part)
    (a : Answer)
    (w : Store)
    (key : String) :
    ((exec o a w).2.orders.get key).map part =
      (w.orders.get key).map part := by
  cases o with
  | updateOrder id patch =>
    simp only [exec, Answer.guard]
    split_ifs
    · rfl
    · split
      · exact map_get_modify hSpares _ _ _
      · rfl
  | casOrder id patch guard =>
    simp only [exec, Answer.guard]
    split_ifs
    · rfl
    · exact map_get_modify hSpares _ _ _
    · rfl
  | setOrderStatus id expected new =>
    simp only [exec, Answer.guard]
    split_ifs
    · rfl
    · exact map_get_modify hSpares _ _ _
    · rfl
  | setCheckoutSession id pi session =>
    simp only [exec, Answer.guard]
    split_ifs
    · rfl
    · exact map_get_modify hSpares _ _ _
  | _ =>
    simp only [exec, Answer.guard] <;>
      first
        | rfl
        | (split_ifs <;> rfl)

/- A read that succeeds returns the stored order. -/
theorem order?_of_getOrder
    {id : String}
    (hRes : (exec (.getOrder id) a w).1 = .ok order) :
    w.order? id = some order := by
  simp only [exec, Answer.guard] at hRes
  split_ifs at hRes
  cases hOrder : w.order? id with
  | none =>
    rw [hOrder] at hRes
    cases hRes
  | some stored =>
    rw [hOrder] at hRes
    cases hRes
    rfl

--------
-- What A Thread Has Read
--------

/- The past of a handler, latest event first. -/
abbrev Trace := List (Event Op.Res Answer)

/- A compare-and-set that matched. -/
def matched : Except Error Bool → Bool
  | .ok true => true
  | _ => false

/- A compare-and-set that found another value. -/
def missed : Except Error Bool → Bool
  | .ok false => true
  | _ => false

/-
  The attempts of the running restore that found the stock
  changed.
-/
def misses : Trace → Nat
  | [] => 0
  | ⟨.getProduct _, _, _⟩ :: tr => misses tr
  | ⟨.casProduct .., _, r⟩ :: tr =>
    if missed r then misses tr + 1 else 0
  | _ :: _ => 0

/- The order that an event read. -/
def readOrder : Event Op.Res Answer → Option Order
  | ⟨.getOrder _, _, r⟩ => Except.toOption r
  | _ => none

/- The order as the thread read it first. -/
def firstOrder : Trace → Option Order
  | [] => none
  | e :: tr => (firstOrder tr).or (readOrder e)

/- The order as the thread read it last. -/
def lastOrder : Trace → Option Order
  | [] => none
  | e :: tr => (readOrder e).or (lastOrder tr)

/- The order that a thread is about: the one it read first. -/
def orderOf : Trace → Option String
  | [] => none
  | e :: tr =>
    (orderOf tr).or
      (match e with
      | ⟨.getOrder id, _, _⟩ => some (docId "orders" id)
      | _ => none)

theorem firstOrder_cons_of_some
    {tr : Trace}
    (hFirst : firstOrder tr = some order)
    (e : Event Op.Res Answer) :
    firstOrder (e :: tr) = some order := by
  simp [firstOrder, hFirst]

theorem orderOf_cons_of_some
    {tr : Trace}
    {order : String}
    (hOrder : orderOf tr = some order)
    (e : Event Op.Res Answer) :
    orderOf (e :: tr) = some order := by
  simp [orderOf, hOrder]

section

variable {α M : Type} [AddCommMonoid M]
variable {cond : StepCond Op.Res Answer Store}
variable {inv : Store → M → Prop} {link : Trace → M → Prop}
variable {post : Trace → M → α → Prop}

variable {tr : Trace}

/- A step that only reads keeps the holdings. -/
theorem keeps_read
    {o : Op}
    {k : o.Res → Prog Op.Res α}
    {g : M}
    (hRead : o.isRead = true)
    (hLink : link tr g)
    (hNext :
      ∀ a w m, inv w (g + m) → cond tr o a w →
        (k (exec o a w).1).Keeps exec cond inv link post
          (⟨o, a, (exec o a w).1⟩ :: tr) g) :
    (Prog.call o k).Keeps exec cond inv link post tr g := by
  refine ⟨hLink, ?_⟩
  intro a w m hInv hCond
  refine ⟨g, ?_, hNext a w m hInv hCond⟩
  rw [exec_read hRead]
  exact hInv

/- A failed check ends the handler. -/
theorem keeps_require
    {post : Trace → M → Except Error α → Prop}
    {next : Handler α}
    {g : M}
    (hLink : link tr g)
    (hFail : post tr g (.error e))
    (hNext :
      check = true →
        next.Keeps exec cond inv link post tr g) :
    (Handler.require check e next).Keeps exec cond inv link
      post tr g := by
  cases check with
  | false => exact ⟨hLink, hFail⟩
  | true => exact hNext rfl

/- A validation that fails ends the handler. -/
theorem keeps_lift
    {post : Trace → M → Except Error α → Prop}
    {r : Except Error β}
    {f : β → Handler α}
    {g : M}
    (hLink : link tr g)
    (hFail : ∀ e, r = .error e → post tr g (.error e))
    (hNext :
      ∀ b, r = .ok b →
        (f b).Keeps exec cond inv link post tr g) :
    (Handler.andThen (Handler.lift r) f).Keeps exec cond inv
      link post tr g := by
  cases r with
  | error e => exact ⟨hLink, hFail e rfl⟩
  | ok b => exact hNext b rfl

theorem keeps_isUserAdmin
    {userId : String}
    {f : Bool → Prog Op.Res α}
    {g : M}
    (hLink : link tr g)
    (hNext :
      ∀ a r isAdmin,
        (f isAdmin).Keeps exec cond inv link post
          (⟨.getUser userId, a, r⟩ :: tr) g) :
    ((isUserAdmin userId).bind f).Keeps exec cond inv link
      post tr g := by
  apply keeps_read rfl hLink
  intro a w m _ _
  generalize (exec (.getUser userId) a w).1 = r
  cases r with
  | error e => exact hNext a (.error e) false
  | ok user => exact hNext a (.ok user) _

end

--------
-- Callers
--------

/- The user that a request acts for is its caller. -/
theorem eq_of_resolveSelfUserId
    {auth : AuthContext}
    {provided field userId : String}
    (hUser :
      resolveSelfUserId auth provided field = .ok userId) :
    userId = auth.userId := by
  unfold resolveSelfUserId at hUser
  split_ifs at hUser
  cases hUser
  rfl

--------
-- Following A Handler
--------

open Handler

/- The event can happen. -/
def Happens (e : Event Op.Res Answer) : Prop :=
  ∃ w, e.res = (exec e.op e.ans w).1

section

variable {O : Type} {R : O → Type} {Ans α β : Type}
variable {valid : Event R Ans → Prop}
variable {can : List (Event R Ans) → O → Prop}
variable {post : List (Event R Ans) → Except Error α → Prop}
variable {tr : List (Event R Ans)} {P : O → Prop}

theorem along_require
    {next : Prog R (Except Error α)}
    (hFail : post tr (.error e))
    (hNext :
      check = true → next.Along valid can post tr) :
    (require check e next).Along valid can post tr := by
  cases check with
  | false => exact hFail
  | true => exact hNext rfl

theorem along_lift
    {r : Except Error β}
    {f : β → Prog R (Except Error α)}
    (hFail : ∀ e, r = .error e → post tr (.error e))
    (hNext :
      ∀ b, r = .ok b → (f b).Along valid can post tr) :
    (andThen (lift r) f).Along valid can post tr := by
  cases r with
  | error e => exact hFail e rfl
  | ok b => exact hNext b rfl

/- A part that calls only what `P` allows, then the rest. -/
theorem along_bind
    {p : Prog R β}
    {f : β → Prog R (Except Error α)}
    (hUses : p.Uses P)
    (hCan :
      ∀ tr' o, Prog.Extends P tr tr' → P o → can tr' o)
    (hNext :
      ∀ tr' b, Prog.Extends P tr tr' →
        (f b).Along valid can post tr') :
    (p.bind f).Along valid can post tr := by
  apply Prog.Along.bind (hUses.along hCan)
  intro tr' b hExtends
  exact hNext tr' b hExtends

theorem along_andThen
    {p : Prog R (Except Error β)}
    {f : β → Prog R (Except Error α)}
    (hUses : p.Uses P)
    (hCan :
      ∀ tr' o, Prog.Extends P tr tr' → P o → can tr' o)
    (hFail :
      ∀ tr' e, Prog.Extends P tr tr' → post tr' (.error e))
    (hNext :
      ∀ tr' b, Prog.Extends P tr tr' →
        (f b).Along valid can post tr') :
    (andThen p f).Along valid can post tr := by
  apply along_bind hUses hCan
  intro tr' r hExtends
  cases r with
  | error e => exact hFail tr' e hExtends
  | ok b => exact hNext tr' b hExtends

end

--------
-- Complete Runs Of A Handler
--------

section

variable {α β : Type} {cond : StepCond Op.Res Answer Store}
variable {tr tr' : Trace} {w w' : Store}
variable {r : Except Error α}

theorem ends_lift
    {x : Except Error β}
    {f : β → Handler α}
    (hEnds :
      Prog.Ends exec cond tr w (andThen (lift x) f) tr' w'
        r) :
    (∃ e, r = .error e) ∨
      ∃ b, x = .ok b ∧
        Prog.Ends exec cond tr w (f b) tr' w' r := by
  cases x with
  | error e =>
    rcases Prog.Ends.ret_iff.mp hEnds with ⟨_, _, rfl⟩
    exact Or.inl ⟨e, rfl⟩
  | ok b => exact Or.inr ⟨b, rfl, hEnds⟩

theorem ends_require
    {next : Handler α}
    (hEnds :
      Prog.Ends exec cond tr w (require check e next) tr' w'
        r) :
    (∃ e, r = .error e) ∨
      check = true ∧
        Prog.Ends exec cond tr w next tr' w' r := by
  cases check with
  | false =>
    rcases Prog.Ends.ret_iff.mp hEnds with ⟨_, _, rfl⟩
    exact Or.inl ⟨e, rfl⟩
  | true => exact Or.inr ⟨rfl, hEnds⟩

end

--------
-- Schedules
--------

/- Steps of any kind, failed statements included. -/
def AnyStep : StepCond Op.Res Answer Store :=
  fun _ _ _ _ => True

instance (tr : Trace) (o : Op) (a : Answer) (w : Store) :
    Decidable (AnyStep tr o a w) :=
  .isTrue trivial

theorem meets_anyStep
    {α : Type}
    (c : Config Op.Res Answer Store α)
    (schedule : List (Nat × Answer)) :
    Reach.Meets exec AnyStep c schedule := by
  induction schedule generalizing c with
  | nil => trivial
  | cons s rest ih =>
    unfold Reach.Meets
    split
    · trivial
    · refine ⟨?_, ih _⟩
      unfold Config.Allowed
      split <;> trivial

/- No database statement fails; remote calls may. -/
def LocalOk : StepCond Op.Res Answer Store :=
  fun _ o a _ => (o.isRemote || !a.fault) = true

instance (tr : Trace) (o : Op) (a : Answer) (w : Store) :
    Decidable (LocalOk tr o a w) :=
  inferInstanceAs (Decidable (_ = true))

/- No statement fails. -/
def NoFault : StepCond Op.Res Answer Store :=
  fun _ _ a _ => a.fault = false

instance (tr : Trace) (o : Op) (a : Answer) (w : Store) :
    Decidable (NoFault tr o a w) :=
  inferInstanceAs (Decidable (a.fault = false))

/- Thread `i` takes `n` undisturbed steps. -/
def turns (i n : Nat) : List (Nat × Answer) :=
  List.replicate n (i, {})

end Orignabase
