import Orignabase.Orders.Writes

/-
  The item changes of concurrent requests.

  The handlers write the whole list of items back.  As long
  as each such write finds the items that its request read,
  every item is as the latest request that changed it left
  it.

  Key definitions include:
    * `ItemStep`
    * `itemAfter`
    * `Promotes`
    * `linesOf`

  Main results:
    * `itemAt_eq_itemAfter`
    * `item_updates_kept`
    * `lines_of_reach`
-/

--------
-- Effects On Orders
--------

namespace Orignabase

open Conc

variable {o : Op} {a : Answer} {tr : Trace} {w : Store}
variable {patch : OrderPatch} {call : OrderCall}

/- The result tells whether the items were written. -/
theorem writesItems_exec
    (hFault : (o.isRemote || !a.fault) = true)
    (w : Store) :
    writesItems ⟨o, a, (exec o a w).1⟩ =
      (o.edits w).any (fun edit => edit.2.items.isSome) := by
  cases o with
  | updateOrder id patch =>
    have hAns : a.fault = false := by
      simpa [Op.isRemote] using hFault
    simp only [writesItems, exec, Answer.guard, hAns,
      Op.edits]
    cases hOrder : w.order? id with
    | none => exact Bool.and_false _
    | some order => exact Bool.and_true _
  | casOrder id patch guard =>
    have hAns : a.fault = false := by
      simpa [Op.isRemote] using hFault
    simp only [writesItems, exec, Answer.guard, hAns,
      Op.edits]
    by_cases hHolds :
        (w.order? id).any guard.holds = true
    · simp only [hHolds, if_true]
      exact Bool.and_true _
    · simp only [hHolds, Bool.false_eq_true, if_false]
      exact Bool.and_false _
  | _ => rfl

--------
-- Items And The Journal
--------

/- The items that the request read. -/
def firstItems (tr : Trace) : List Item :=
  ((firstOrder tr).map Order.items).getD []

/-
  No database statement fails, and the items are written over
  the items that the request read; the write that makes the
  last item delivered also finds the order status read.
-/
def itemStep
    (tr : Trace)
    (o : Op)
    (a : Answer)
    (w : Store) : Bool :=
  (o.isRemote || !a.fault) && (o.edits w).all (fun edit =>
      edit.2.items.all (fun items =>
        (w.orders.get edit.1).map Order.items =
            (firstOrder tr).map Order.items &&
          (!allItemsDelivered items ||
            (w.orders.get edit.1).map Order.orderStatus =
              (firstOrder tr).map Order.orderStatus)))

def ItemStep : StepCond Op.Res Answer Store :=
  fun tr o a w => itemStep tr o a w = true

instance (tr : Trace) (o : Op) (a : Answer) (w : Store) :
    Decidable (ItemStep tr o a w) :=
  inferInstanceAs (Decidable (itemStep tr o a w = true))

theorem ItemStep.fault
    (hStep : ItemStep tr o a w) :
    (o.isRemote || !a.fault) = true := by
  simp only [ItemStep, itemStep, Bool.and_eq_true] at hStep
  exact hStep.1

/- A write of items finds the items that were read. -/
theorem ItemStep.items
    {key : String}
    {items : List Item}
    (hStep : ItemStep tr o a w)
    (hEdits : o.edits w = some (key, patch))
    (hItems : patch.items = some items) :
    ∃ order first, w.orders.get key = some order ∧
        firstOrder tr = some first ∧
        order.items = first.items ∧
        (allItemsDelivered items = true →
          order.orderStatus = first.orderStatus) := by
  rcases Op.edits_get hEdits with ⟨order, hOrder⟩
  simp only [ItemStep, itemStep, hEdits, Option.all_some,
    hItems, hOrder, Option.map_some, Bool.and_eq_true,
    decide_eq_true_eq, Bool.or_eq_true, Bool.not_eq_true']
    at hStep
  rcases hStep with ⟨_, hSame, hStatus⟩
  rcases Option.map_eq_some_iff.mp hSame.symm with
    ⟨first, hFirst, hEq⟩
  refine ⟨order, first, hOrder, hFirst, hEq.symm, ?_⟩
  intro hAll
  rcases hStatus with hNot | hSameStatus
  · rw [hAll] at hNot
    exact absurd hNot Bool.noConfusion
  · rw [hFirst, Option.map_some] at hSameStatus
    exact Option.some.inj hSameStatus

/- Item `j` of an order. -/
def itemAt (w : Store) (key : String) (j : Nat) :
    Option Item :=
  ((w.orders.get key).map Order.items).bind (fun items =>
    items[j]?)

/- A step of the journal that changes item `j`. -/
def changesItem
    (key : String)
    (j : Nat)
    (e : Entry Op.Res Answer) : Bool :=
  writesItems e.event && e.event.op.newItems.any (fun new =>
      new.1 = key && new.2[j]? ≠ (firstItems e.past)[j]?)

/- Item `j` as the latest step that changed it left it. -/
def itemAfter
    (key : String)
    (j : Nat)
    (initial : Option Item) :
    List (Entry Op.Res Answer) → Option Item
  | [] => initial
  | e :: log =>
    if changesItem key j e then
      e.event.op.newItems.bind (fun new => new.2[j]?)
    else itemAfter key j initial log

/- One step keeps or makes the item what it should be. -/
theorem itemAt_step
    (hStep : ItemStep tr o a w)
    (hColumns : o.isColumnWrite = false)
    (i : Nat)
    (key : String)
    (j : Nat) :
    itemAt (exec o a w).2 key j =
      if changesItem key j ⟨i, tr, ⟨o, a, (exec o a w).1⟩⟩
      then o.newItems.bind (fun new => new.2[j]?)
      else itemAt w key j := by
  have hFault := hStep.fault
  unfold changesItem
  rw [writesItems_exec hFault]
  cases hEdits : o.edits w with
  | none =>
    simp only [itemAt, orders_exec hFault hColumns, hEdits,
      Option.any_none, Bool.false_and,
      Bool.false_eq_true, if_false]
  | some edit =>
    rcases edit with ⟨row, patch⟩
    have hGet := order_of_edits hFault hColumns hEdits key
    rw [Op.newItems_of_edits hEdits]
    unfold itemAt
    rw [hGet]
    cases hItems : patch.items with
    | none =>
      simp only [Option.any_some, hItems,
        Option.isSome_none, Bool.false_and,
        Bool.false_eq_true, if_false]
      split_ifs
      · simp [Option.map_map, Function.comp_def, hItems]
      · rfl
    | some items =>
      rcases hStep.items hEdits hItems with
        ⟨order, first, hOrder, hFirst, hSame, _⟩
      simp only [Option.any_some, hItems,
        Option.isSome_some, Bool.true_and,
        Option.map_some, Option.bind_some,
        Bool.and_eq_true, decide_eq_true_eq]
      by_cases hKey : key = row
      · subst hKey
        simp only [if_true, hOrder, Option.map_some,
          OrderPatch.apply_items, hItems,
          Option.getD_some, Option.bind_some, true_and,
          firstItems, hFirst, ← hSame]
        by_cases hChange : items[j]? = order.items[j]?
        · simp [hChange]
        · simp [hChange]
      · have hNe : ¬ row = key := fun h => hKey h.symm
        simp [hKey, hNe]

--------
-- Payment And Promotion
--------

/- Requests that change items leave the payment alone. -/
theorem May.paymentStatus
    (hMay : May call tr o)
    (hCall : call.editsItems = true)
    (hPatch : o.patch? = some patch) :
    patch.paymentStatus = none := by
  rcases hMay with hInert | hWrites
  · exact (hInert.patch hPatch).2.2.1
  · cases hWrites with
    | quarantine => exact absurd hCall Bool.false_ne_true
    | cancel => exact absurd hCall Bool.false_ne_true
    | restock => simp [Op.patch?] at hPatch
    | _ => exact Option.some.inj hPatch ▸ rfl

def paymentOf (w : Store) (key : String) : Option String :=
  (w.orders.get key).map Order.paymentStatus

/- The payment statuses, stored and read, are the first. -/
def PaymentKept (w₀ : Store) (c : OrderRun) : Prop :=
  (∀ key, paymentOf c.world key = paymentOf w₀ key) ∧
    ∀ t ∈ c.threads, ∀ id a order,
      ⟨.getOrder id, a, .ok order⟩ ∈ t.trace →
        paymentOf w₀ (docId "orders" id) =
          some order.paymentStatus

theorem paymentOf_exec
    (hMay : May call tr o)
    (hCall : call.editsItems = true)
    (hFault : (o.isRemote || !a.fault) = true)
    (w : Store)
    (key : String) :
    paymentOf (exec o a w).2 key = paymentOf w key := by
  have hColumns := hMay.isColumnWrite
  unfold paymentOf
  cases hEdits : o.edits w with
  | none => rw [orders_exec hFault hColumns, hEdits]
  | some edit =>
    rcases edit with ⟨row, patch⟩
    have hNone :=
      hMay.paymentStatus hCall (Op.patch?_of_edits hEdits)
    rw [order_of_edits hFault hColumns hEdits]
    split_ifs
    · simp [Option.map_map, Function.comp_def, hNone]
    · rfl

section

variable {calls : List OrderCall} {w₀ : Store}
variable {c : OrderRun}

theorem ItemStep.localOk
    {tr : Trace}
    {o : Op}
    {a : Answer}
    {w : Store}
    (hStep : ItemStep tr o a w) :
    LocalOk tr o a w :=
  hStep.fault

theorem paymentKept_run
    (hCalls : ∀ call ∈ calls, call.editsItems = true)
    (hReach :
      Reach exec ItemStep
        (Config.start w₀ (calls.map OrderCall.handler)) c) :
    PaymentKept w₀ c := by
  induction hReach with
  | refl =>
    refine ⟨fun _ => rfl, ?_⟩
    intro t hThread id a order hMem
    simp only [Config.start, List.mem_map] at hThread
    rcases hThread with ⟨p, _, rfl⟩
    exact absurd hMem List.not_mem_nil
  | @step c c' i a hReach hStep hAllowed ih =>
    rcases Config.step_eq_some_iff.mp hStep with
      ⟨tr, o, k, hThread, rfl⟩
    have hCond : ItemStep tr o a c.world := by
      simpa [Config.Allowed, hThread] using hAllowed
    rcases may_of_thread hReach hThread with
      ⟨call, hMem, hMay⟩
    refine ⟨?_, ?_⟩
    · intro key
      rw [← ih.1 key]
      exact paymentOf_exec hMay
        (hCalls call (List.mem_of_getElem? hMem))
        hCond.fault c.world key
    · intro t hT id a' order hEvent
      rcases List.mem_or_eq_of_mem_set hT with hOld | rfl
      · exact ih.2 t hOld id a' order hEvent
      · rcases List.mem_cons.mp hEvent with hNew | hOld
        · injection hNew with hOp _ hRes
          subst hOp
          have hOrder :=
            order?_of_getOrder (eq_of_heq hRes).symm
          rw [← ih.1, paymentOf,
            show c.world.orders.get (docId "orders" id) =
              some order from hOrder]
          rfl
        · exact ih.2 _ (List.mem_of_getElem? hThread) id
            a' order hOld

end

--------
-- The Last Delivery
--------

/-
  A step that makes all items delivered makes a paid order
  delivered.
-/
def Promotes (w w' : Store) : Prop :=
  ∀ key order order', w.orders.get key = some order →
    w'.orders.get key = some order' →
    allItemsDelivered order.items = false →
    allItemsDelivered order'.items = true →
    order'.paymentStatus = "captured" →
      order'.orderStatus = some OrderStatus.delivered.asStr

theorem not_delivered_refunded
    {items : List Item}
    {item : Item}
    {productId : String}
    (hFind :
      items.find? (fun it => it.productId = productId) =
        some item)
    (now reason : String)
    (amount : Int)
    (refundId : Option String) :
    allItemsDelivered
      (modifyFirst (fun it => it.productId = productId)
        (fun it =>
          it.markRefunded now reason amount refundId)
        items) = false := by
  induction items with
  | nil => simp at hFind
  | cons it rest ih =>
    by_cases hMatch : it.productId = productId
    · simp [modifyFirst, hMatch, allItemsDelivered,
        Item.markRefunded, OrderStatus.asStr,
        DeliveryStatus.asStr]
    · have hRest := ih (by simpa [hMatch] using hFind)
      unfold allItemsDelivered at hRest ⊢
      simp only [modifyFirst, hMatch, decide_false,
        Bool.false_eq_true, if_false, List.all_cons,
        hRest, Bool.and_false]

theorem not_delivered_sellerShipped
    {userId : String}
    {order : Order}
    (hSeller :
      order.items.any (fun it => it.seller = userId) = true)
    (req : UpdateOrderStatusRequest)
    (now : String) :
    allItemsDelivered
      (sellerShippedItems req userId order now) = false := by
  rcases List.any_eq_true.mp hSeller with ⟨it, hMem, hIt⟩
  unfold allItemsDelivered sellerShippedItems
  rw [List.all_eq_false]
  refine ⟨it.ship req now, ?_, ?_⟩
  · apply List.mem_map.mpr
    refine ⟨it, hMem, ?_⟩
    rw [if_pos (of_decide_eq_true hIt)]
  · simp [Item.ship, DeliveryStatus.asStr]

/- Shipping an order delivers none of its items. -/
theorem delivered_of_cascade
    {req : UpdateOrderStatusRequest}
    {isAdmin : Bool}
    {items items' : List Item}
    {now : String}
    (hCascade :
      cascadeItems req isAdmin .shipped items now =
        some items')
    (hAll : allItemsDelivered items' = true) :
    allItemsDelivered items = true := by
  simp only [cascadeItems, if_true,
    Option.some.injEq] at hCascade
  subst hCascade
  unfold allItemsDelivered at hAll ⊢
  rw [List.all_eq_true] at hAll ⊢
  intro it hMem
  by_contra hNot
  have hNew := hAll _ (List.mem_map_of_mem hMem)
  split_ifs at hNew with hShip
  · simp [Item.ship, DeliveryStatus.asStr] at hNew
  · exact hNot hNew

theorem promotedStatus_delivered
    {order : Order}
    (hCaptured : order.paymentStatus = "captured")
    (allShipped : Bool) :
    (promotedStatus order true allShipped).or
        order.orderStatus =
      some OrderStatus.delivered.asStr := by
  unfold promotedStatus
  by_cases hStatus :
      order.status = OrderStatus.delivered.asStr
  · have hStored :
        order.orderStatus =
          some OrderStatus.delivered.asStr := by
      unfold Order.status at hStatus
      cases hText : order.orderStatus with
      | none =>
        rw [hText] at hStatus
        exact absurd hStatus (by decide)
      | some text =>
        rw [hText] at hStatus
        exact congrArg some hStatus
    simp [hStatus, hStored]
  · simp [hStatus, hCaptured]

/-
  A write that makes the last item delivered: the new status
  is delivered outright, or it is so for a paid order.
-/
theorem Writes.promotes
    {key : String}
    {items : List Item}
    {first : Order}
    (hWrites : Writes call tr o)
    (hEdits : o.edits w = some (key, patch))
    (hItems : patch.items = some items)
    (hFirst : firstOrder tr = some first)
    (hBefore : allItemsDelivered first.items = false)
    (hAfter : allItemsDelivered items = true) :
    patch.orderStatus = some OrderStatus.delivered.asStr ∨
      (∃ id a, key = docId "orders" id ∧
          ⟨.getOrder id, a, .ok first⟩ ∈ tr) ∧
        (first.paymentStatus = "captured" →
          patch.orderStatus.or first.orderStatus =
            some OrderStatus.delivered.asStr) := by
  have hPatch := Op.patch?_of_edits hEdits
  have hNew := Op.newItems_of_edits hEdits
  rw [hItems, Option.map_some] at hNew
  cases hWrites with
  | refund now reason amount refundId hRead hFind =>
    cases hPatch
    cases hItems
    rw [not_delivered_refunded hFind] at hAfter
    exact absurd hAfter Bool.false_ne_true
  | receipt now hRead =>
    cases hPatch
    cases hItems
    cases hFirst.symm.trans hRead.first
    refine Or.inr ⟨?_, ?_⟩
    · rcases hRead.event with ⟨a, hMem⟩
      refine ⟨_, a, ?_, hMem⟩
      simp only [Op.newItems, receiptPatch, Option.map_some,
        Option.some.injEq, Prod.mk.injEq] at hNew
      exact hNew.1.symm
    · intro hCaptured
      simp [receiptPatch, shouldPromoteOrderToDelivered,
        hAfter, hCaptured]
  | itemStatus new now hRead =>
    cases hPatch
    cases hItems
    cases hFirst.symm.trans hRead.first
    refine Or.inr ⟨?_, ?_⟩
    · rcases hRead.event with ⟨a, hMem⟩
      refine ⟨_, a, ?_, hMem⟩
      simp only [Op.newItems, itemStatusPatch,
        Option.map_some, Option.some.injEq,
        Prod.mk.injEq] at hNew
      exact hNew.1.symm
    · intro hCaptured
      simp only [itemStatusPatch, hAfter]
      exact promotedStatus_delivered hCaptured _
  | sellerShipped now hRead hOld hValid hSeller =>
    cases hPatch
    cases hItems
    rw [not_delivered_sellerShipped hSeller] at hAfter
    exact absurd hAfter Bool.false_ne_true
  | @orderStatus auth req _ order isAdmin oldStatus newStatus
      now hRead hOld hNew' hValid hAdmin hDelivered =>
      cases hPatch
      cases hFirst.symm.trans hRead.first
      by_cases hShipped : newStatus = .shipped
      · subst hShipped
        have hCascade :
            cascadeItems req isAdmin .shipped first.items
              now = some items := hItems
        have hAll := delivered_of_cascade hCascade hAfter
        rw [hBefore] at hAll
        exact absurd hAll Bool.false_ne_true
      · by_cases hDone : newStatus = .delivered
        · subst hDone
          exact Or.inl rfl
        · simp [orderStatusPatch, cascadeItems, hShipped,
            hDone] at hItems
  | quarantine hRead hStatus =>
    cases hPatch
    cases hItems
  | cancel hRead hStatus hReleased =>
    cases hPatch
    cases hItems
  | restock hCall productId stock expected =>
    cases hPatch

/- One step of a request promotes as it should. -/
theorem promotes_exec
    (hMay : May call tr o)
    (hCall : call.editsItems = true)
    (hStep : ItemStep tr o a w)
    (hPaid :
      ∀ id a order, ⟨.getOrder id, a, .ok order⟩ ∈ tr →
          paymentOf w (docId "orders" id) =
            some order.paymentStatus) :
    Promotes w (exec o a w).2 := by
  intro key order order' hGet hGet' hBefore hAfter hCaptured
  have hColumns := hMay.isColumnWrite
  have hContra :
      order'.items = order.items → False := by
    intro hSame
    rw [hSame, hBefore] at hAfter
    exact Bool.false_ne_true hAfter
  cases hEdits : o.edits w with
  | none =>
    rw [orders_exec hStep.fault hColumns, hEdits] at hGet'
    cases hGet.symm.trans hGet'
    exact (hContra rfl).elim
  | some edit =>
    rcases edit with ⟨row, patch⟩
    have hPatch := Op.patch?_of_edits hEdits
    rw [order_of_edits hStep.fault hColumns hEdits] at hGet'
    by_cases hKey : key = row
    · subst hKey
      rw [if_pos rfl, hGet] at hGet'
      cases hGet'
      cases hItems : patch.items with
      | none =>
        exact (hContra (by simp [hItems])).elim
      | some items =>
        rcases hStep.items hEdits hItems with
          ⟨stored, first, hStored, hFirst, hSame, hStatus⟩
        cases hGet.symm.trans hStored
        rw [OrderPatch.apply_items, hItems,
          Option.getD_some] at hAfter
        rw [OrderPatch.apply_paymentStatus,
          hMay.paymentStatus hCall hPatch,
          Option.getD_none] at hCaptured
        rw [OrderPatch.apply_orderStatus, hStatus hAfter]
        rcases hMay with hInert | hWrites
        · rw [(hInert.patch hPatch).1] at hItems
          cases hItems
        · rcases hWrites.promotes hEdits hItems hFirst
            (hSame ▸ hBefore) hAfter with
            hDone | ⟨⟨id, a', rfl, hEvent⟩, hDone⟩
          · rw [hDone]
            rfl
          · apply hDone
            have hRead := hPaid id a' first hEvent
            rw [paymentOf, hGet] at hRead
            rw [← hCaptured]
            exact (Option.some.inj hRead).symm
    · rw [if_neg hKey] at hGet'
      cases hGet.symm.trans hGet'
      exact (hContra rfl).elim

--------
-- Whole Runs
--------

section

variable {calls : List OrderCall} {w₀ : Store}
variable {c : OrderRun} {log : List (Entry Op.Res Answer)}

/- Every item is as its latest change left it. -/
theorem itemAt_eq_itemAfter
    (hRuns :
      Runs exec ItemStep
        (Config.start w₀ (calls.map OrderCall.handler))
        log c)
    (key : String)
    (j : Nat) :
    itemAt c.world key j =
      itemAfter key j (itemAt w₀ key j) log := by
  induction hRuns with
  | refl => rfl
  | @step log c c' i a e hRuns hEntry hStep hAllowed ih =>
    rcases Config.step_eq_some_iff.mp hStep with
      ⟨tr, o, k, hThread, rfl⟩
    have hCond : ItemStep tr o a c.world := by
      simpa [Config.Allowed, hThread] using hAllowed
    rcases may_of_thread hRuns.reach hThread with
      ⟨call, _, hMay⟩
    simp only [Config.entry, hThread,
      Option.some.injEq] at hEntry
    subst hEntry
    rw [itemAt_step hCond hMay.isColumnWrite i, ih]
    rfl

/- What the journal says was written, a request wanted. -/
theorem writes_of_mem_journal
    (hRuns :
      Runs exec ItemStep
        (Config.start w₀ (calls.map OrderCall.handler))
        log c) :
    ∀ e ∈ log, writesItems e.event = true →
      ∃ call ∈ calls, Writes call e.past e.event.op := by
  induction hRuns with
  | refl =>
    intro e hMem
    exact absurd hMem List.not_mem_nil
  | @step log c c' i a e hRuns hEntry hStep hAllowed ih =>
    rcases Config.step_eq_some_iff.mp hStep with
      ⟨tr, o, k, hThread, rfl⟩
    simp only [Config.entry, hThread,
      Option.some.injEq] at hEntry
    subst hEntry
    rcases may_of_thread hRuns.reach hThread with
      ⟨call, hCall, hMay⟩
    intro e hMem hWrites
    rcases List.mem_cons.mp hMem with rfl | hOld
    · rcases hMay with hInert | hThis
      · have hNone :=
          writesItems_of_inert (e :=
            ⟨o, a, (exec o a c.world).1⟩) hInert
        rw [hNone] at hWrites
        exact absurd hWrites Bool.false_ne_true
      · exact ⟨call, List.mem_of_getElem? hCall, hThis⟩
    · exact ih e hOld hWrites

/-
  In every run of requests that change items whose steps meet
  `ItemStep`: every item is as the latest step that changed
  it left it, and such a step writes what its request asked
  for; a request that has ended changed items exactly if it
  reports so, and so never when it failed; and the step that
  makes the last item of a paid order delivered makes the
  order delivered.
-/
theorem item_updates_kept
    (hCalls : ∀ call ∈ calls, call.editsItems = true)
    (hRuns :
      Runs exec ItemStep
        (Config.start w₀ (calls.map OrderCall.handler))
        log c) :
    (∀ key j, itemAt c.world key j =
        itemAfter key j (itemAt w₀ key j) log) ∧
      (∀ e ∈ log, writesItems e.event = true →
        ∃ call ∈ calls, Writes call e.past e.event.op) ∧
      (∀ i t r, c.threads[i]? = some t → t.prog = .ret r →
          log.any (fun e =>
              e.thread = i && writesItems e.event) =
            reportsChange OrderReply.changesItems r) ∧
      ∀ i a c', c.step exec i a = some c' →
        c.Allowed ItemStep i a →
          Promotes c.world c'.world := by
  refine ⟨itemAt_eq_itemAfter hRuns,
    writes_of_mem_journal hRuns, ?_, ?_⟩
  · intro i t r hThread hRet
    have hMem := List.mem_of_getElem? hThread
    rcases follows_run hRuns.reach i t hThread with
      ⟨call, _, hFollows⟩
    rw [hRet] at hFollows
    have hReported :
        wrote t.trace =
          reportsChange OrderReply.changesItems r :=
      Or.resolve_left hFollows
        (not_faulty_run (fun _ _ _ _ h => h.localOk)
          hRuns.reach hMem)
    rw [← hReported, wrote, ← hRuns.trace_eq hThread,
      List.any_map, List.any_filter]
    rfl
  · intro i a c' hStep hAllowed
    rcases Config.step_eq_some_iff.mp hStep with
      ⟨tr, o, k, hThread, rfl⟩
    have hCond : ItemStep tr o a c.world := by
      simpa [Config.Allowed, hThread] using hAllowed
    rcases may_of_thread hRuns.reach hThread with
      ⟨call, hMem, hMay⟩
    have hKept := paymentKept_run hCalls hRuns.reach
    apply promotes_exec hMay
      (hCalls call (List.mem_of_getElem? hMem)) hCond
    intro id a' order hEvent
    rw [hKept.1]
    exact hKept.2 _ (List.mem_of_getElem? hThread) id a'
      order hEvent

end

/- A paid order of two items that are not shipped yet. -/
def unshippedOrder : Order where
  orderId := "o1"
  items :=
    [{ productId := "p1", sellerId := some "s1",
       status := "pending", quantity := some 1 },
     { productId := "p2", sellerId := some "s1",
       status := "pending", quantity := some 1 }]
  orderStatus := some "processing"
  paymentStatus := "captured"
  userId := "b1"

def unshippedStore : Store where
  orders := ⟨[("o1", unshippedOrder)]⟩

/- The seller ships one product. -/
def shipProduct (productId : String) : OrderCall :=
  .setItemStatus { userId := "s1" }
    { orderId := "o1"
      productId
      newStatus := "shipped"
      trackingNumber := some "T1" }

/- Two requests for different items. -/
def shipBoth : OrderRun :=
  Config.start unshippedStore
    ([shipProduct "p1", shipProduct "p2"].map
      OrderCall.handler)

theorem item_updates_kept_in_turn :
    ∃ log c, Runs exec ItemStep shipBoth log c ∧ c.Quiet ∧
        itemAt c.world "o1" 0 =
          itemAfter "o1" 0 (itemAt unshippedStore "o1" 0)
            log ∧
        (itemAt c.world "o1" 0).map Item.status =
          some "shipped" := by
  have hRun :
      (shipBoth.run exec (turns 0 6 ++ turns 1 6)).any
        (fun c =>
          decide (c.Quiet ∧
              (itemAt c.world "o1" 0).map Item.status =
                some "shipped")) =
        true := by decide
  rcases (Option.any_eq_true _ _).mp hRun with
    ⟨c, hRun, hEnd⟩
  rcases of_decide_eq_true hEnd with ⟨hQuiet, hStatus⟩
  have hRuns : Runs exec ItemStep shipBoth _ c :=
    Runs.of_run Runs.refl hRun (by decide)
  have hKept := item_updates_kept (by decide) hRuns
  exact ⟨_, c, hRuns, hQuiet, hKept.1 "o1" 0, hStatus⟩

/- Both requests read before either writes. -/
def readBoth : List (Nat × Answer) :=
  turns 0 4 ++ turns 1 4 ++ turns 0 2 ++ turns 1 2

/- The call ended with a change of items. -/
def endsWithChange
    (t : Thread Op.Res Answer (Except Error OrderReply)) :
    Bool :=
  match t.prog with
  | .ret (.ok reply) => reply.changesItems
  | _ => false

/-
  The second request writes the first item back as it was,
  although both report a change and no later request changed
  the item.
-/
theorem item_update_lost_in_overlap :
    ∃ log c, Runs exec LocalOk shipBoth log c ∧
        (∀ t ∈ c.threads, ∃ reply,
          t.prog = .ret (.ok reply) ∧
            reply.changesItems = true) ∧
        (itemAfter "o1" 0 (itemAt unshippedStore "o1" 0)
            log).map Item.status = some "shipped" ∧
        (itemAt c.world "o1" 0).map Item.status =
          some "pending" := by
  have hRun :
      (shipBoth.run exec readBoth).any (fun c =>
          c.threads.all endsWithChange &&
          decide ((itemAt c.world "o1" 0).map Item.status =
              some "pending")) =
        true := by decide
  rcases (Option.any_eq_true _ _).mp hRun with
    ⟨c, hRun, hEnd⟩
  rw [Bool.and_eq_true, List.all_eq_true] at hEnd
  refine ⟨shipBoth.journal exec readBoth [], c,
    Runs.of_run Runs.refl hRun (by decide), ?_,
    by decide, of_decide_eq_true hEnd.2⟩
  intro t hMem
  have hReply := hEnd.1 t hMem
  unfold endsWithChange at hReply
  split at hReply
  · rename_i reply hRet
    exact ⟨reply, hRet, hReply⟩
  · exact absurd hReply Bool.false_ne_true

--------
-- What Was Ordered
--------

section

variable {calls : List OrderCall} {key : String}
variable {w₀ : Store} {c : OrderRun}

/- The product, who sells it, and what was agreed. -/
def Item.line (item : Item) :
    String × Option String × Int × Option Int × Option Int :=
  (item.productId, item.sellerId, item.priceCents,
    item.quantity, item.itemShippingCents)

def linesOf (w : Store) (key : String) :=
  (w.orders.get key).map (fun o => o.items.map Item.line)

/-
  The id still names the order once its prefix is removed:
  only this handler removes it and stores under the rest.
-/
def OrderCall.Plain : OrderCall → Prop
  | .setOrderStatus _ req =>
    docId "orders" (docId "orders" req.orderId) =
      docId "orders" req.orderId
  | _ => True

theorem map_modifyFirst
    {α β : Type}
    {f : α → α}
    {g : α → β}
    (hSame : ∀ x, g (f x) = g x)
    (test : α → Bool)
    (l : List α) :
    (modifyFirst test f l).map g = l.map g := by
  induction l with
  | nil => rfl
  | cons x rest ih =>
    unfold modifyFirst
    split_ifs
    · rw [List.map_cons, hSame, List.map_cons]
    · rw [List.map_cons, ih, List.map_cons]

/- Items are written over the lines that were read. -/
theorem Writes.lines
    {items : List Item}
    (hWrites : Writes call tr o)
    (hNew : o.newItems = some (key, items)) :
    ∃ id order, HasRead tr id order ∧
      items.map Item.line = order.items.map Item.line ∧
      (call.Plain → key = docId "orders" id) := by
  cases hWrites with
  | refund now reason amount refundId hRead hFind =>
    cases hNew
    refine ⟨_, _, hRead, ?_, fun _ => rfl⟩
    apply map_modifyFirst
    exact fun _ => rfl
  | receipt now hRead =>
    cases hNew
    refine ⟨_, _, hRead, ?_, fun _ => rfl⟩
    apply map_modifyFirst
    exact fun _ => rfl
  | itemStatus new now hRead =>
    cases hNew
    refine ⟨_, _, hRead, ?_, fun _ => rfl⟩
    apply map_modifyFirst
    intro it
    cases new <;> rfl
  | sellerShipped now hRead =>
    cases hNew
    refine ⟨_, _, hRead, ?_, fun _ => rfl⟩
    rw [sellerShippedItems, List.map_map]
    apply List.map_congr_left
    intro it _
    dsimp only [Function.comp_apply]
    split_ifs <;> rfl
  | orderStatus now hRead =>
    rcases Option.map_eq_some_iff.mp hNew with
      ⟨items', hItems, hKey⟩
    cases hKey
    refine ⟨_, _, hRead, ?_, fun hPlain => hPlain⟩
    simp only [orderStatusPatch, cascadeItems] at hItems
    split_ifs at hItems <;> cases hItems
    all_goals
      rw [List.map_map]
      apply List.map_congr_left
      intro it _
      dsimp only [Function.comp_apply]
    · split_ifs <;> rfl
    · rfl
  | quarantine => cases hNew
  | cancel => cases hNew
  | restock => cases hNew

/- What was read are the lines of the first store. -/
def ReadsLines (w₀ : Store) (tr : Trace) : Prop :=
  ∀ id a order, ⟨.getOrder id, a, .ok order⟩ ∈ tr →
    linesOf w₀ (docId "orders" id) =
      some (order.items.map Item.line)

theorem ReadsLines.cons
    (hReads : ReadsLines w₀ tr)
    (hLines : ∀ key, linesOf w key = linesOf w₀ key) :
    ReadsLines w₀ (⟨o, a, (exec o a w).1⟩ :: tr) := by
  intro id a' order hMem
  rcases List.mem_cons.mp hMem with hThis | hOld
  · injection hThis with hOp _ hRes
    subst hOp
    have hOrder := order?_of_getOrder (eq_of_heq hRes).symm
    rw [← hLines, linesOf,
      show w.orders.get (docId "orders" id) = some order
        from hOrder]
    rfl
  · exact hReads id a' order hOld

/- One step changes no lines. -/
theorem lines_exec
    (hMay : May call tr o)
    (hPlain : call.Plain)
    (hLines : ∀ key, linesOf w key = linesOf w₀ key)
    (hReads : ReadsLines w₀ tr)
    (key : String) :
    linesOf (exec o a w).2 key = linesOf w₀ key := by
  rw [← hLines key]
  cases hFault : a.fault with
  | true => rw [exec_fault o hFault]
  | false =>
    have hOk : (o.isRemote || !a.fault) = true := by
      simp [hFault]
    have hColumns := hMay.isColumnWrite
    unfold linesOf
    cases hEdits : o.edits w with
    | none => rw [orders_exec hOk hColumns, hEdits]
    | some edit =>
      rcases edit with ⟨row, patch⟩
      rw [order_of_edits hOk hColumns hEdits]
      split_ifs with hKey
      · subst hKey
        rcases Op.edits_get hEdits with ⟨stored, hStored⟩
        have hNew := Op.newItems_of_edits hEdits
        cases hItems : patch.items with
        | none => simp [hStored, hItems]
        | some items =>
          rw [hItems, Option.map_some] at hNew
          rcases hMay with hInert | hWrites
          · have hNone :=
              (hInert.patch (Op.patch?_of_edits hEdits)).1
            rw [hItems] at hNone
            cases hNone
          · rcases hWrites.lines hNew with
              ⟨id, first, hRead, hSame, hRow⟩
            rcases hRead.event with ⟨a', hEvent⟩
            have hFirst := hReads id a' first hEvent
            rw [← hRow hPlain, ← hLines, linesOf] at hFirst
            rw [hFirst, ← hSame]
            simp [hStored, hItems]
      · rfl

/-
  Whatever requests on orders overlap, and whatever fails,
  they change nothing of what was ordered.
-/
theorem lines_of_reach
    {cond : StepCond Op.Res Answer Store}
    (hPlain : ∀ call ∈ calls, call.Plain)
    (hReach :
      Reach exec cond
        (Config.start w₀ (calls.map OrderCall.handler)) c)
    (key : String) :
    linesOf c.world key = linesOf w₀ key := by
  have hOwn :
      ∀ (i : ℕ) call tr o a w, calls[i]? = some call →
        May call tr o → cond tr o a w →
        (∀ key, linesOf w key = linesOf w₀ key) →
        ReadsLines w₀ tr →
          (∀ key, linesOf (exec o a w).2 key =
              linesOf w₀ key) ∧
            ReadsLines w₀
              (⟨o, a, (exec o a w).1⟩ :: tr) :=
    fun _ _ _ _ _ _ hCall hMay _ hLines hReads =>
      ⟨lines_exec hMay
          (hPlain _ (List.mem_of_getElem? hCall)) hLines
          hReads,
        hReads.cons hLines⟩
  refine (hReach.shares (fun _ _ _ w _ => ⟨w, rfl⟩)
    (fun call _ => follows_handler call) hOwn ?_
    (fun _ => rfl) ?_).1 key
  · -- A thread that waits has read what it had read.
    intro _ _ _ _ _ _ _ _ _ _ _ _ _ _ _ _ hOther
    exact hOther
  · intro _ _ _ _ _ _ hMem
    exact absurd hMem List.not_mem_nil

end

theorem lines_kept_in_overlap :
    ∃ c, Reach exec (fun _ _ _ _ => True) shipBoth c ∧
      c.Quiet ∧
      linesOf c.world "o1" = linesOf unshippedStore "o1" := by
  have hRun :
      (shipBoth.run exec readBoth).any
        (fun c => decide c.Quiet) = true := by
    decide
  rcases (Option.any_eq_true _ _).mp hRun with
    ⟨c, hRun, hEnd⟩
  have hReach : Reach exec (fun _ _ _ _ => True) shipBoth c :=
    Reach.of_run hRun
      (Reach.Meets.of_forall (fun _ _ _ _ => trivial) _ _)
  refine ⟨c, hReach, of_decide_eq_true hEnd, ?_⟩
  apply lines_of_reach ?_ hReach
  simp [OrderCall.Plain, shipProduct]

end Orignabase
