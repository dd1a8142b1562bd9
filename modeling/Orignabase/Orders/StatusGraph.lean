import Orignabase.Orders.InTurn

/-
  The changes of an order status, with one request at a time.

  Key definitions include:
    * `GraphMove`
    * `StatusMove`

  Main results:
    * `order_status_moves`
-/

--------
-- Moves
--------

namespace Orignabase

open Conc

/- An edge of the graph between two stored texts. -/
def GraphMove (s t : Option String) : Prop :=
  ∃ x y : OrderStatus, s = some x.asStr ∧ t = some y.asStr ∧
      isValidOrderTransition x y = true

/-
  A change of the stored status: along the graph, or the
  promotion of a confirmed order whose items are all shipped,
  or that of a paid order whose items are all delivered.
-/
inductive StatusMove (order order' : Order) : Prop
  | graph
      (hMove :
        GraphMove order.orderStatus order'.orderStatus)
  | shipped
      (hFrom :
        order.orderStatus =
          some OrderStatus.paymentAuthorized.asStr)
      (hTo :
        order'.orderStatus =
          some OrderStatus.shipped.asStr)
      (hItems : allItemsShipped order'.items = true)
  | delivered
      (hTo :
        order'.orderStatus =
          some OrderStatus.delivered.asStr)
      (hItems : allItemsDelivered order'.items = true)
      (hPaid : order'.paymentStatus = "captured")

/- Orders that are over. -/
def closedStatuses : List OrderStatus :=
  [.cancelled, .refunded, .failed, .returned]

variable {order : Order} {s : OrderStatus} {w : Store}

/- A closed order is never shipped again. -/
theorem StatusMove.not_shipped
    {order' : Order}
    (hMove : StatusMove order order')
    (hClosed : s ∈ closedStatuses)
    (hFrom : order.orderStatus = some s.asStr) :
    order'.orderStatus ≠ some OrderStatus.shipped.asStr := by
  intro hTo
  cases hMove with
  | graph hMove =>
    rcases hMove with ⟨x, y, hX, hY, hValid⟩
    have hXs : x = s := OrderStatus.asStr_injective
        (Option.some.inj (hX.symm.trans hFrom))
    have hYs : y = .shipped := OrderStatus.asStr_injective
        (Option.some.inj (hY.symm.trans hTo))
    subst hXs hYs
    revert hClosed hValid
    cases x <;> decide
  | shipped hConfirmed =>
    have hS : OrderStatus.paymentAuthorized = s :=
      OrderStatus.asStr_injective
        (Option.some.inj (hConfirmed.symm.trans hFrom))
    subst hS
    revert hClosed
    decide
  | delivered hDone =>
    have hEq := OrderStatus.asStr_injective
        (Option.some.inj (hDone.symm.trans hTo))
    cases hEq

/- Every status that changes in the step moves properly. -/
def StatusMoves (w w' : Store) : Prop :=
  ∀ key order order', w.orders.get key = some order →
    w'.orders.get key = some order' →
    order'.orderStatus ≠ order.orderStatus →
      StatusMove order order'

--------
-- The Writes
--------

theorem promotedStatus_eq_some
    {allDelivered allShipped : Bool}
    {t : String}
    (hNew :
      promotedStatus order allDelivered allShipped = some t) :
    (t = OrderStatus.delivered.asStr ∧ allDelivered = true ∧
        order.paymentStatus = "captured") ∨
      (t = OrderStatus.shipped.asStr ∧ allShipped = true ∧
        (OrderStatus.parse order.status = some .processing ∨
          OrderStatus.parse order.status =
            some .paymentAuthorized)) := by
  unfold promotedStatus at hNew
  split_ifs at hNew with hAll hPaid hShip hPre
  · exact Or.inl ⟨(Option.some.inj hNew).symm, hAll.1, hPaid⟩
  · exact Or.inr ⟨(Option.some.inj hNew).symm, hShip.1, hPre⟩

/- A status that parses is stored. -/
theorem stored_of_parse
    (hParse : OrderStatus.parse order.status = some s) :
    order.orderStatus = some s.asStr := by
  have hText := OrderStatus.asStr_of_parse hParse
  unfold Order.status at hText
  cases hStored : order.orderStatus with
  | none =>
    rw [hStored] at hText
    exact absurd hText (by cases s <;> decide)
  | some text =>
    rw [hStored] at hText
    rw [hText]
    rfl

/- A missing status counts as pending. -/
theorem stored_of_getD
    {stored : Option String}
    (hParse :
      OrderStatus.parse (stored.getD "pending") =
        some .processing) :
    stored = some OrderStatus.processing.asStr := by
  have hText := OrderStatus.asStr_of_parse hParse
  cases stored with
  | none => exact absurd hText (by decide)
  | some text => exact congrArg some hText.symm

/- Only an order in processing can be shipped. -/
theorem processing_of_valid_shipped
    (hValid : isValidOrderTransition s .shipped = true) :
    s = .processing := by
  revert hValid
  cases s <;> decide

theorem valid_cancel_of_cancellable
    {status : String}
    (hStatus : cancellable status = true) :
    ∃ s : OrderStatus, status = s.asStr ∧
        isValidOrderTransition s .cancelled = true := by
  simp only [cancellable, List.contains_eq_mem,
    List.mem_cons, List.not_mem_nil, or_false,
    decide_eq_true_eq] at hStatus
  rcases hStatus with rfl | rfl | rfl | rfl
  · exact ⟨.pendingPayment, rfl, rfl⟩
  · exact ⟨.paymentAuthorized, rfl, rfl⟩
  · exact ⟨.awaitingShippingApproval, rfl, rfl⟩
  · exact ⟨.processing, rfl, rfl⟩

/- The guard of an update that took effect held. -/
theorem Op.guard_of_edits
    {id key : String}
    {patch patch' : OrderPatch}
    {guard : OrderGuard}
    (hEdits :
      (Op.casOrder id patch guard).edits w =
        some (key, patch'))
    (hOrder : w.orders.get key = some order) :
    guard.holds order = true := by
  simp only [Op.edits, Option.ite_none_right_eq_some,
    Option.some.injEq, Prod.mk.injEq] at hEdits
  rcases hEdits with ⟨hAny, rfl, _⟩
  rcases (Option.any_eq_true _ _).mp hAny with
    ⟨stored, hStored, hHolds⟩
  cases hOrder.symm.trans hStored
  exact hHolds

/- A write that changes the status moves it properly. -/
theorem Writes.statusMove
    {call : OrderCall}
    {tr : Trace}
    {o : Op}
    {key : String}
    {patch : OrderPatch}
    {t : String}
    (hWrites : Writes call tr o)
    (hAgrees : Fresh tr → Agrees w tr)
    (hEdits : o.edits w = some (key, patch))
    (hOrder : w.orders.get key = some order)
    (hNew : patch.orderStatus = some t) :
    StatusMove order (patch.apply order) := by
  have hPatch := Op.patch?_of_edits hEdits
  have hRow := Op.row?_of_edits hEdits
  have hTo :
      (patch.apply order).orderStatus = some t := by
    rw [OrderPatch.apply_orderStatus, hNew, Option.some_or]
  cases hWrites with
  | refund now reason amount refundId hRead hFind =>
    cases hPatch
    cases hNew
  | @receipt auth req _ first now hRead =>
    rcases hRead.stored (hAgrees hRead.fresh) with
      ⟨stored, hStored, hView⟩
    cases hPatch
    cases hRow
    cases hOrder.symm.trans hStored
    rcases Order.fields_of_view hView with ⟨_, _, hPaid, _⟩
    simp only [receiptPatch, shouldPromoteOrderToDelivered,
      Option.ite_none_right_eq_some, Bool.and_eq_true,
      decide_eq_true_eq] at hNew
    rcases hNew with ⟨⟨hAll, hCaptured⟩, hT⟩
    refine StatusMove.delivered (hTo.trans hT.symm) hAll ?_
    exact hPaid.trans hCaptured
  | @itemStatus auth req _ first new now hRead =>
    rcases hRead.stored (hAgrees hRead.fresh) with
      ⟨stored, hStored, hView⟩
    cases hPatch
    cases hRow
    cases hOrder.symm.trans hStored
    rcases Order.fields_of_view hView with
      ⟨_, hStatus, hPaid, _⟩
    rcases promotedStatus_eq_some hNew with
      ⟨rfl, hAll, hCaptured⟩ | ⟨rfl, hAll, hPre⟩
    · exact StatusMove.delivered hTo hAll
        (hPaid.trans hCaptured)
    · rcases hPre with hPre | hPre
      · refine StatusMove.graph
          ⟨.processing, .shipped, ?_, hTo, rfl⟩
        exact hStatus.trans (stored_of_parse hPre)
      · exact StatusMove.shipped
          (hStatus.trans (stored_of_parse hPre)) hTo hAll
  | @sellerShipped auth req _ first oldStatus now hRead hOld
      hValid hSeller =>
      rcases hRead.stored (hAgrees hRead.fresh) with
        ⟨stored, hStored, hView⟩
      cases hPatch
      cases hRow
      cases hOrder.symm.trans hStored
      rcases Order.fields_of_view hView with ⟨_, hStatus, _⟩
      simp only [sellerShippedPatch,
        Option.ite_none_right_eq_some] at hNew
      have hProcessing := processing_of_valid_shipped hValid
      subst hProcessing
      refine StatusMove.graph
        ⟨.processing, .shipped, ?_, hTo.trans hNew.2.symm,
          rfl⟩
      rw [hStatus]
      exact stored_of_getD hOld
  | @orderStatus auth req _ first isAdmin oldStatus newStatus
      now hRead hOld hNew' hValid hAdmin hMember
      hDelivered =>
      have hHolds := Op.guard_of_edits hEdits hOrder
      cases hPatch
      refine StatusMove.graph
        ⟨oldStatus, newStatus, ?_, rfl, hValid⟩
      simpa [OrderGuard.holds] using hHolds
  | quarantine hRead hStatus =>
    cases hPatch
    cases hNew
  | @cancel auth req _ first paymentStatus hRead hStatus
      hReleased =>
      have hHolds := Op.guard_of_edits hEdits hOrder
      cases hPatch
      rcases valid_cancel_of_cancellable hStatus with
        ⟨s, hS, hValid⟩
      refine StatusMove.graph ⟨s, .cancelled, ?_, rfl, hValid⟩
      rw [← hS]
      simpa [OrderGuard.holds] using hHolds
  | restock hCall productId stock expected =>
    cases hPatch

/- One step of a request moves every status properly. -/
theorem statusMoves_exec
    {call : OrderCall}
    {tr : Trace}
    {o : Op}
    (hMay : May call tr o)
    (hAgrees : Fresh tr → Agrees w tr)
    (a : Answer) :
    StatusMoves w (exec o a w).2 := by
  intro key order order' hGet hGet' hChanged
  cases hFault : a.fault with
  | true =>
    rw [exec_fault o hFault] at hGet'
    cases hGet.symm.trans hGet'
    exact absurd rfl hChanged
  | false =>
    have hOk : (o.isRemote || !a.fault) = true := by
      simp [hFault]
    have hColumns := hMay.isColumnWrite
    cases hEdits : o.edits w with
    | none =>
      rw [orders_exec hOk hColumns, hEdits] at hGet'
      cases hGet.symm.trans hGet'
      exact absurd rfl hChanged
    | some edit =>
      rcases edit with ⟨row, patch⟩
      rw [order_of_edits hOk hColumns hEdits] at hGet'
      by_cases hKey : key = row
      · subst hKey
        rw [if_pos rfl, hGet] at hGet'
        cases hGet'
        cases hNew : patch.orderStatus with
        | none => simp [hNew] at hChanged
        | some t =>
          rcases hMay with hInert | hWrites
          · have hPatch := Op.patch?_of_edits hEdits
            rw [(hInert.patch hPatch).2.1] at hNew
            cases hNew
          · exact hWrites.statusMove hAgrees hEdits
              hGet hNew
      · rw [if_neg hKey] at hGet'
        cases hGet.symm.trans hGet'
        exact absurd rfl hChanged

--------
-- Whole Runs
--------

/-
  In every run of requests executed one at a time, every
  change of a stored order status is a move along the graph
  or one of the two promotions, and a closed order is never
  shipped.
-/
theorem order_status_moves
    {w₀ : Store}
    {calls : List OrderCall}
    {c c' : OrderRun}
    {i : Nat}
    {a : Answer}
    (hInTurn :
      InTurn exec AnyStep
        (Config.start w₀ (calls.map OrderCall.handler)) c)
    (hStep : c.step exec i a = some c')
    {key : String}
    {order order' : Order}
    (hGet : c.world.orders.get key = some order)
    (hGet' : c'.world.orders.get key = some order')
    (hChanged : order'.orderStatus ≠ order.orderStatus) :
    StatusMove order order' ∧ ∀ s ∈ closedStatuses,
        order.orderStatus = some s.asStr →
          order'.orderStatus ≠
            some OrderStatus.shipped.asStr := by
  rcases Config.step_eq_some_iff.mp hStep with
    ⟨tr, o, k, hThread, rfl⟩
  rcases may_of_thread hInTurn.reach hThread with
    ⟨call, _, hMay⟩
  have hAgrees := agrees_inTurn hInTurn i _ hThread rfl
  have hMove :=
    statusMoves_exec hMay hAgrees a key order order' hGet
      hGet' hChanged
  refine ⟨hMove, ?_⟩
  intro s hClosed hFrom
  exact hMove.not_shipped hClosed hFrom

/- A captured order of one item. -/
def oneItemStore (orderStatus itemStatus : String) :
    Store where
  orders := ⟨[("o1",
      { items := [{ productId := "p1", status := itemStatus }]
        orderStatus := some orderStatus
        paymentStatus := "captured" })]⟩
  users := ⟨[("a1", { roles := ["admin"] })]⟩

/- An administrator sets the status of the item. -/
def setOnlyItem
    (orderStatus itemStatus newStatus : String) :
    OrderRun :=
  Config.start (oneItemStore orderStatus itemStatus)
    ([OrderCall.setItemStatus { userId := "a1" }
      { orderId := "o1"
        productId := "p1"
        newStatus
        trackingNumber := some "T1" }].map OrderCall.handler)

/- The fifth step of the request writes the order. -/
def writesStatus
    (orderStatus itemStatus newStatus written : String) :
    Bool :=
  let start := setOnlyItem orderStatus itemStatus newStatus
  InTurn.Meets exec start (turns 0 4) &&
    (start.run exec (turns 0 4)).any (fun c =>
      (c.step exec 0 {}).any (fun c' =>
        (c.world.orders.get "o1").any (fun order =>
          (c'.world.orders.get "o1").any (fun order' =>
            order.orderStatus = some orderStatus ∧
              order'.orderStatus = some written))))

theorem exists_of_writesStatus
    {orderStatus itemStatus newStatus written : String}
    (hWrites :
      writesStatus orderStatus itemStatus newStatus written =
        true) :
    ∃ c c' order order', InTurn exec AnyStep
          (setOnlyItem orderStatus itemStatus newStatus) c ∧
        c.step exec 0 {} = some c' ∧
        c.world.orders.get "o1" = some order ∧
        c'.world.orders.get "o1" = some order' ∧
        order.orderStatus = some orderStatus ∧
        order'.orderStatus = some written := by
  simp only [writesStatus, Bool.and_eq_true] at hWrites
  rcases hWrites with ⟨hTurns, h⟩
  rcases (Option.any_eq_true _ _).mp h with ⟨c, hRun, h⟩
  rcases (Option.any_eq_true _ _).mp h with ⟨c', hStep, h⟩
  rcases (Option.any_eq_true _ _).mp h with ⟨order, hGet, h⟩
  rcases (Option.any_eq_true _ _).mp h with
    ⟨order', hGet', h⟩
  rcases of_decide_eq_true h with ⟨hFrom, hTo⟩
  exact ⟨c, c', order, order',
    InTurn.of_run InTurn.refl hRun (meets_anyStep ..) hTurns,
    hStep, hGet, hGet', hFrom, hTo⟩

theorem order_status_moves_processing :
    ∃ c c' order order', InTurn exec AnyStep
          (setOnlyItem "processing" "pending" "shipped") c ∧
        c.step exec 0 {} = some c' ∧
        c.world.orders.get "o1" = some order ∧
        c'.world.orders.get "o1" = some order' ∧
        order'.orderStatus ≠ order.orderStatus ∧
        StatusMove order order' := by
  have hWrites :
      writesStatus "processing" "pending" "shipped"
        "shipped" = true := by decide
  rcases exists_of_writesStatus hWrites with
    ⟨c, c', order, order', hInTurn, hStep, hGet, hGet',
      hFrom, hTo⟩
  have hChanged :
      order'.orderStatus ≠ order.orderStatus := by
    rw [hFrom, hTo]
    decide
  exact ⟨c, c', order, order', hInTurn, hStep, hGet, hGet',
    hChanged,
    (order_status_moves hInTurn hStep hGet hGet'
      hChanged).1⟩

/- A move that the graph does not have. -/
theorem not_graphMove
    {x y : OrderStatus}
    (hInvalid : isValidOrderTransition x y = false) :
    ¬ GraphMove (some x.asStr) (some y.asStr) := by
  rintro ⟨x', y', hX, hY, hValid⟩
  have hXs :=
    OrderStatus.asStr_injective (Option.some.inj hX)
  have hYs :=
    OrderStatus.asStr_injective (Option.some.inj hY)
  rw [← hXs, ← hYs, hInvalid] at hValid
  exact Bool.false_ne_true hValid

/-
  One step of an item update takes the order from one status
  to another, which is no move along the graph.
-/
def LeavesGraph (x y : OrderStatus) : Prop :=
  ∃ c c' order order', InTurn exec AnyStep
        (setOnlyItem x.asStr "shipped" y.asStr) c ∧
      c.step exec 0 {} = some c' ∧
      c.world.orders.get "o1" = some order ∧
      c'.world.orders.get "o1" = some order' ∧
      order.orderStatus = some x.asStr ∧
      order'.orderStatus = some y.asStr ∧
      ¬ GraphMove order.orderStatus order'.orderStatus

theorem leavesGraph_of_writes
    {x y : OrderStatus}
    (hWrites :
      writesStatus x.asStr "shipped" y.asStr y.asStr = true)
    (hInvalid : isValidOrderTransition x y = false) :
    LeavesGraph x y := by
  rcases exists_of_writesStatus hWrites with
    ⟨c, c', order, order', hInTurn, hStep, hGet, hGet',
      hFrom, hTo⟩
  refine ⟨c, c', order, order', hInTurn, hStep, hGet, hGet',
    hFrom, hTo, ?_⟩
  rw [hFrom, hTo]
  exact not_graphMove hInvalid

/-
  One item update takes a confirmed order to shipped, another
  a confirmed order to delivered, and a third a cancelled
  order to delivered.
-/
theorem order_status_leaves_graph :
    LeavesGraph .paymentAuthorized .shipped ∧
      LeavesGraph .paymentAuthorized .delivered ∧
      LeavesGraph .cancelled .delivered :=
  ⟨leavesGraph_of_writes (by decide) (by decide),
    leavesGraph_of_writes (by decide) (by decide),
    leavesGraph_of_writes (by decide) (by decide)⟩

end Orignabase
