import Orignabase.Checkout.Placed
import Orignabase.Orders.Units

/-
  The stock that orders of the checkout reserve.

  The guarded updates of a transaction that find too little
  stock change no row, and the handler does not notice.  The
  books agree in runs where every transaction is covered by
  the stock it finds.

  Key definitions include:
    * `orderedUnits`
    * `ReserveStep`
    * `StockConserved`

  Main results:
    * `runAll_reservations`
    * `checkout_conserves_stock`
-/

--------
-- Ordered Units
--------

namespace Orignabase

/- The units of a product on the lines of an order. -/
def orderedOf (items : List Item) (product : String) : Int :=
  (items.map (fun item =>
    if item.productId = product then item.qty else 0)).sum

/- The units of a product on all stored orders. -/
def orderedUnits (w : Store) (product : String) : Int :=
  (w.orders.rows.map (fun row =>
    orderedOf row.2.items product)).sum

/- The units of a product that a transaction reserves. -/
def demandOf (items : List Item) (product : String) : Int :=
  (items.map (fun item =>
    if item.isReserved = true ∧ item.productId = product then
      item.qty
    else 0)).sum

def isPhysicalProduct (w : Store) (product : String) :
    Bool :=
  (w.products.get product).any (fun p => !p.isDigital)

theorem demandOf_nonneg
    (items : List Item)
    (product : String) :
    0 ≤ demandOf items product := by
  apply List.sum_nonneg
  intro units hMem
  rcases List.mem_map.mp hMem with ⟨item, _, rfl⟩
  split_ifs with hItem
  · have hReserved := hItem.1
    simp only [Item.isReserved, Bool.and_eq_true,
      decide_eq_true_eq] at hReserved
    exact hReserved.2.le
  · exact le_rfl

theorem demandOf_cons
    (item : Item)
    (rest : List Item)
    (product : String) :
    demandOf (item :: rest) product =
      (if item.isReserved = true ∧
          item.productId = product then
        item.qty
      else 0) + demandOf rest product := by
  simp [demandOf]

--------
-- One Transaction
--------

/- A guarded update that finds enough stock. -/
theorem run_reserveStock
    {w : Store}
    {id : String}
    {quantity : Int}
    (hPos : 0 < quantity)
    (hStock : quantity ≤ stockOf w id) :
    ∃ w',
      (Statement.reserveStock id quantity).run w =
          some (1, w') ∧
        w'.orders = w.orders ∧
        w'.couponUses = w.couponUses ∧
        (∀ product, isPhysicalProduct w' product =
            isPhysicalProduct w product) ∧
        ∀ product, stockOf w' product = stockOf w product -
              (if id = product then quantity else 0) := by
  cases hGet : w.products.get id with
  | none =>
    simp [stockOf, hGet] at hStock
    omega
  | some p =>
    cases hQuantity : p.stockQuantity with
    | none =>
      simp [stockOf, hGet, Product.stock, hQuantity]
        at hStock
      omega
    | some stock =>
      have hLe : quantity ≤ stock := by
        simpa [stockOf, hGet, Product.stock, hQuantity]
          using hStock
      refine ⟨{ w with
          products := w.products.modify id (fun p =>
            { p with
              stockQuantity := some (stock - quantity) }) },
        ?_, rfl, rfl, ?_, ?_⟩
      · simp only [Statement.run, hGet,
          Option.bind_some, hQuantity, if_pos hLe]
      · intro product
        unfold isPhysicalProduct
        rw [Table.get_modify]
        split_ifs with hSame
        · cases w.products.get product <;> rfl
        · rfl
      · intro product
        unfold stockOf
        rw [Table.get_modify]
        by_cases hSame : product = id
        · subst hSame
          simp [hGet, Product.stock, hQuantity]
        · simp [hSame, Ne.symm hSame]

/- The reservations of an order that the stock covers. -/
theorem runAll_reservations
    {items : List Item}
    {w : Store}
    (hCovered :
      ∀ product, 0 < demandOf items product →
        demandOf items product ≤ stockOf w product)
    (index : Nat) :
    ∃ counts w',
      Transaction.runAll (reservations items index).1 w =
          some (counts, w') ∧
        w'.orders = w.orders ∧
        w'.couponUses = w.couponUses ∧
        (∀ product, isPhysicalProduct w' product =
            isPhysicalProduct w product) ∧
        ∀ product, stockOf w' product =
            stockOf w product - demandOf items product := by
  induction items generalizing w index with
  | nil =>
    exact ⟨[], w, rfl, rfl, rfl, fun _ => rfl,
      fun _ => (sub_zero _).symm⟩
  | cons item rest ih =>
    by_cases hReserved : item.isReserved = true
    · have hPos : 0 < item.qty := by
        simp only [Item.isReserved, Bool.and_eq_true,
          decide_eq_true_eq] at hReserved
        exact hReserved.2
      have hRest := demandOf_nonneg rest item.productId
      have hHead := demandOf_cons item rest item.productId
      rw [if_pos ⟨hReserved, rfl⟩] at hHead
      have hStock := hCovered item.productId (by omega)
      rcases run_reserveStock hPos
          (show item.qty ≤ stockOf w item.productId by
            omega) with
        ⟨w₁, hRun, hOrders, hUses, hPhysical, hUnits⟩
      have hCovered' :
          ∀ product, 0 < demandOf rest product →
            demandOf rest product ≤ stockOf w₁ product := by
        intro product hDemand
        have hAll := demandOf_cons item rest product
        have hEnough := hCovered product
        rw [hUnits]
        by_cases hSame : item.productId = product
        · rw [if_pos ⟨hReserved, hSame⟩] at hAll
          rw [if_pos hSame]
          omega
        · rw [if_neg (fun h => hSame h.2)] at hAll
          rw [if_neg hSame]
          omega
      rcases ih hCovered' (index + 1) with
        ⟨counts, w', hAll, hOrders', hUses', hPhysical',
          hUnits'⟩
      refine ⟨1 :: counts, w', ?_,
        hOrders'.trans hOrders, hUses'.trans hUses,
        fun product =>
          (hPhysical' product).trans (hPhysical product),
        ?_⟩
      · unfold reservations
        simp only [if_pos hReserved, Transaction.runAll,
          hRun, hAll, Option.map_some]
      · intro product
        rw [hUnits', hUnits, demandOf_cons]
        simp only [hReserved, true_and]
        omega
    · have hSame :
          ∀ product, demandOf (item :: rest) product =
              demandOf rest product := by
        intro product
        rw [demandOf_cons,
          if_neg (fun h => hReserved h.1), zero_add]
      simp only [hSame] at hCovered ⊢
      unfold reservations
      rw [if_neg hReserved]
      exact ih hCovered index

theorem runAll_append
    (first rest : List Statement)
    (w : Store) :
    Transaction.runAll (first ++ rest) w =
      (Transaction.runAll first w).bind (fun done =>
        (Transaction.runAll rest done.2).map (fun out =>
          (done.1 ++ out.1, out.2))) := by
  induction first generalizing w with
  | nil =>
    simp [Transaction.runAll]
  | cons q first ih =>
    rw [List.cons_append, Transaction.runAll,
      Transaction.runAll]
    cases hRun : q.run w with
    | none => rfl
    | some out =>
      dsimp only
      rw [ih]
      cases Transaction.runAll first out.2 with
      | none => rfl
      | some done =>
        cases hRest :
            Transaction.runAll rest done.2 <;>
          simp [hRest]

/- The coupon uses that an order inserts. -/
def usesOf (orderId userId : String) (doc : Order) :
    List CouponUse :=
  match doc.couponCode with
  | some code => [{ couponCode := code, userId, orderId }]
  | none => []

/- The insertions fail, or add the order and its coupon. -/
theorem runAll_insertions
    (id userId : String)
    (doc : Order)
    (w : Store) :
    Transaction.runAll (insertions id userId doc) w = none ∨
      ∃ counts,
        Transaction.runAll (insertions id userId doc) w =
          some (counts,
            { w with
              orders := w.orders.insert id doc
              couponUses :=
                w.couponUses ++ usesOf id userId doc }) := by
  unfold insertions usesOf
  by_cases hTaken : (w.orders.get id).isSome = true
  · left
    simp [Transaction.runAll, Statement.run, hTaken]
  · cases hCode : doc.couponCode with
    | none =>
      right
      exact ⟨[1], by
        simp [Transaction.runAll, Statement.run, hTaken]⟩
    | some code =>
      by_cases hUsed :
          w.couponUses.any (fun c =>
            c.rowId = CouponUse.rowId
                { couponCode := code, userId,
                  orderId := id }) = true
      · left
        simp only [Transaction.runAll, Statement.run,
          if_neg hTaken, if_pos hUsed, Option.map_none]
      · right
        exact ⟨[1, 1], by
          simp only [Transaction.runAll, Statement.run,
            if_neg hTaken, if_neg hUsed, Option.map_some]⟩

/- What a covered transaction does, if it succeeds. -/
structure Stores
    (w w' : Store)
    (id userId : String)
    (doc : Order) : Prop where
  orders : w'.orders = w.orders.insert id doc
  uses : w'.couponUses = w.couponUses ++ usesOf id userId doc
  physical :
    ∀ product,
      isPhysicalProduct w' product =
        isPhysicalProduct w product
  stock :
    ∀ product,
      stockOf w' product =
        stockOf w product - demandOf doc.items product

/- The stock covers every line, each with its own flag. -/
def coversOrder (w : Store) (doc : Order) : Bool :=
  doc.items.all (fun item =>
    (!isPhysicalProduct w item.productId ||
      !item.isDigital) &&
    (item.isDigital || demandOf doc.items item.productId ≤
        stockOf w item.productId))

theorem reserved_of_demand_pos
    {items : List Item}
    {product : String}
    (hPos : 0 < demandOf items product) :
    ∃ item ∈ items,
      item.isReserved = true ∧ item.productId = product := by
  by_contra hNone
  push Not at hNone
  have hZero : demandOf items product = 0 := by
    unfold demandOf
    apply List.sum_eq_zero
    intro units hMem
    rcases List.mem_map.mp hMem with ⟨item, hItem, rfl⟩
    exact if_neg (fun h => hNone item hItem h.1 h.2)
  omega

variable {w : Store} {doc : Order} {o : CheckoutOp}
variable {tr : CheckoutTrace}

theorem covered_of_coversOrder
    (hCovers : coversOrder w doc = true)
    (product : String)
    (hPos : 0 < demandOf doc.items product) :
    demandOf doc.items product ≤ stockOf w product := by
  rcases reserved_of_demand_pos hPos with
    ⟨item, hItem, hReserved, rfl⟩
  have hLine := List.all_eq_true.mp hCovers item hItem
  simp only [Item.isReserved, Bool.and_eq_true,
    Bool.not_eq_true'] at hReserved
  simpa [hReserved.1.1] using hLine

/- On a physical product the whole order is reserved. -/
theorem demandOf_eq_orderedOf
    (hPlaced : Placed doc)
    (hCovers : coversOrder w doc = true)
    {product : String}
    (hPhysical : isPhysicalProduct w product = true) :
    demandOf doc.items product =
      orderedOf doc.items product := by
  unfold demandOf orderedOf
  congr 1
  apply List.map_congr_left
  intro item hItem
  by_cases hSame : item.productId = product
  · subst hSame
    have hLine := List.all_eq_true.mp hCovers item hItem
    have hNew := hPlaced.line item hItem
    have hDigital : item.isDigital = false := by
      simp only [hPhysical, Bool.not_true, Bool.false_or,
        Bool.and_eq_true, Bool.not_eq_true'] at hLine
      exact hLine.1
    simp [Item.isReserved, hDigital, hNew.named, hNew.qty]
  · simp [hSame]

theorem commit_placement
    (hCovers : coversOrder w doc = true)
    (id userId : String)
    (index : Nat) :
    let out := Transaction.commit
        (insertions id userId doc ++
          (reservations doc.items index).1) w
    (∃ e, out = (.error e, w)) ∨ ∃ results w',
        out = (.ok results, w') ∧
          Stores w w' id userId doc := by
  intro out
  rcases runAll_insertions id userId doc w with
    hFail | ⟨counts, hRun⟩
  · left
    refine ⟨.database "Transaction query failed", ?_⟩
    simp only [out, Transaction.commit, runAll_append, hFail,
      Option.bind_none]
  · right
    rcases runAll_reservations (w :=
          { w with
            orders := w.orders.insert id doc
            couponUses :=
              w.couponUses ++ usesOf id userId doc })
        (covered_of_coversOrder hCovers) index with
      ⟨counts', w', hAll, hOrders, hUses, hPhysical, hStock⟩
    refine ⟨(counts ++ counts').map Transaction.rowsAffected,
      w', ?_, ⟨hOrders, hUses, hPhysical, hStock⟩⟩
    simp only [out, Transaction.commit, runAll_append, hRun,
      Option.bind_some, hAll, Option.map_some]

--------
-- One Step Of A Run
--------

open Conc

/- Every transaction finds the stock that it reserves. -/
def reserveStep :
    CheckoutTrace → CheckoutOp → CheckoutAnswer → Shop →
      Bool :=
  fun _ o _ w =>
    match o with
    | .commit (.insertOrder _ doc :: _) =>
      coversOrder w.store doc
    | _ => true

def ReserveStep :
    StepCond CheckoutOp.Res CheckoutAnswer Shop :=
  fun tr o a w => reserveStep tr o a w = true

instance
    (tr : CheckoutTrace)
    (o : CheckoutOp)
    (a : CheckoutAnswer)
    (w : Shop) :
    Decidable (ReserveStep tr o a w) :=
  inferInstanceAs (Decidable (_ = true))

/- The stock that is left and the stock that was ordered. -/
structure BooksAgree (w₀ w : Store) : Prop where
  physical :
    ∀ product,
      isPhysicalProduct w product =
        isPhysicalProduct w₀ product
  stock :
    ∀ product, isPhysicalProduct w₀ product = true →
      stockOf w₀ product + orderedUnits w₀ product =
        stockOf w product + orderedUnits w product
  nonneg :
    (∀ product, 0 ≤ stockOf w₀ product) →
      ∀ product, 0 ≤ stockOf w product

theorem BooksAgree.refl (w : Store) : BooksAgree w w :=
  ⟨fun _ => rfl, fun _ _ => rfl, fun h => h⟩

theorem orderedUnits_insert
    {w' : Store}
    {id userId : String}
    (hStores : Stores w w' id userId doc)
    (product : String) :
    orderedUnits w' product = orderedUnits w product +
        orderedOf doc.items product := by
  simp [orderedUnits, hStores.orders, Table.insert]

theorem BooksAgree.stores
    {w₀ w' : Store}
    {id userId : String}
    (hBooks : BooksAgree w₀ w)
    (hPlaced : Placed doc)
    (hCovers : coversOrder w doc = true)
    (hStores : Stores w w' id userId doc) :
    BooksAgree w₀ w' := by
  refine ⟨?_, ?_, ?_⟩
  · intro product
    rw [hStores.physical, hBooks.physical]
  · intro product hPhysical
    have hNow : isPhysicalProduct w product = true := by
      rw [hBooks.physical, hPhysical]
    rw [hBooks.stock product hPhysical,
      orderedUnits_insert hStores, hStores.stock,
      demandOf_eq_orderedOf hPlaced hCovers hNow]
    omega
  · intro hStart product
    have hStock := hBooks.nonneg hStart product
    have hDemand := demandOf_nonneg doc.items product
    have hCovered := covered_of_coversOrder hCovers product
    rw [hStores.stock]
    by_cases hPos : 0 < demandOf doc.items product
    · have := hCovered hPos
      omega
    · omega

/- Only transactions change the store. -/
theorem store_quiet
    (hQuiet : o.Quiet)
    (a : CheckoutAnswer)
    (w : Shop) :
    (execCheckout o a w).2.store = w.store := by
  cases o with
  | commit queries => cases hQuiet
  | createSession key params =>
    simp only [execCheckout, CheckoutAnswer.guard]
    split_ifs
    · rfl
    · cases w.session? key <;> rfl
  | _ =>
    simp only [execCheckout, CheckoutAnswer.guard] <;>
      first
        | rfl
        | split_ifs <;> rfl

/- What one step does to the store. -/
theorem store_step
    {call : CheckoutCall}
    {a : CheckoutAnswer}
    {w : Shop}
    (hMay : MayCheckout call tr o)
    (hStep : ReserveStep tr o a w) :
    (placedBy ⟨o, a, (execCheckout o a w).1⟩ = none ∧
        (execCheckout o a w).2.store = w.store) ∨
      ∃ doc, placedBy ⟨o, a, (execCheckout o a w).1⟩ =
            some (doc.orderId, doc) ∧
          Placed doc ∧
          coversOrder w.store doc = true ∧
          Stores w.store (execCheckout o a w).2.store
            doc.orderId call.auth.userId doc := by
  rcases hMay with hQuiet | ⟨queries, doc, rfl, _, hDoc⟩
  · left
    refine ⟨?_, store_quiet hQuiet a w⟩
    cases o with
    | commit queries => cases hQuiet
    | _ => rfl
  · cases hDoc.shape
    have hCovers : coversOrder w.store doc = true := hStep
    simp only [execCheckout, CheckoutAnswer.guard]
    by_cases hFault : a.fault = true
    · left
      simp only [hFault, if_true]
      exact ⟨rfl, trivial⟩
    · simp only [hFault, Bool.false_eq_true, if_false]
      rcases commit_placement hCovers doc.orderId
          call.auth.userId
          (insertions doc.orderId call.auth.userId
            doc).length with
        ⟨e, hOut⟩ | ⟨results, w', hOut, hStores⟩
      · left
        rw [hOut]
        exact ⟨rfl, rfl⟩
      · right
        rw [hOut]
        exact ⟨doc, rfl, hDoc.placed, hCovers, hStores⟩

--------
-- Whole Runs
--------

abbrev CheckoutRun :=
  Config CheckoutOp.Res CheckoutAnswer Shop
    (Except Error CheckoutResponse)

/- The orders that the requests of a run stored. -/
def allPlaced (c : CheckoutRun) : List (String × Order) :=
  c.threads.flatMap (fun t => placements t.trace)

theorem mem_placements_cons
    {e : Event CheckoutOp.Res CheckoutAnswer}
    {row : String × Order} :
    row ∈ placements (e :: tr) ↔
      row ∈ placements tr ∨ placedBy e = some row := by
  unfold placements
  rw [List.filterMap_cons]
  cases placedBy e with
  | none => simp
  | some placed =>
    simp only [List.mem_cons, Option.some.injEq]
    constructor
    · rintro (rfl | hMem)
      · exact Or.inr rfl
      · exact Or.inl hMem
    · rintro (hMem | rfl)
      · exact Or.inr hMem
      · exact Or.inl rfl

/- One step adds what its event stored. -/
theorem mem_allPlaced_step
    {c : CheckoutRun}
    {i : Nat}
    {k : o.Res → CheckoutHandler CheckoutResponse}
    (hThread : c.threads[i]? = some ⟨tr, .call o k⟩)
    (w : Shop)
    (a : CheckoutAnswer)
    (r : o.Res)
    (row : String × Order) :
    row ∈ allPlaced
        ⟨w, c.threads.set i ⟨⟨o, a, r⟩ :: tr, k r⟩⟩ ↔
      row ∈ allPlaced c ∨
        placedBy ⟨o, a, r⟩ = some row := by
  unfold allPlaced
  simp only [List.mem_flatMap]
  have hLt := (List.getElem?_eq_some_iff.mp hThread).1
  constructor
  · rintro ⟨t, hMem, hRow⟩
    rcases List.mem_or_eq_of_mem_set hMem with hOld | rfl
    · exact Or.inl ⟨t, hOld, hRow⟩
    · rcases mem_placements_cons.mp hRow with hPast | hNew
      · exact Or.inl
          ⟨_, List.mem_of_getElem? hThread, hPast⟩
      · exact Or.inr hNew
  · have hSelf :
        (⟨⟨o, a, r⟩ :: tr, k r⟩ :
          Thread CheckoutOp.Res CheckoutAnswer _) ∈
          c.threads.set i ⟨⟨o, a, r⟩ :: tr, k r⟩ :=
      List.mem_set hLt _
    rintro (⟨t, hMem, hRow⟩ | hNew)
    · rcases List.mem_iff_getElem?.mp hMem with ⟨j, hGet⟩
      by_cases hSame : i = j
      · subst hSame
        cases hThread.symm.trans hGet
        exact ⟨_, hSelf,
          mem_placements_cons.mpr (Or.inl hRow)⟩
      · refine ⟨t, List.mem_of_getElem? (i := j) ?_, hRow⟩
        rw [List.getElem?_set_ne hSame, hGet]
    · exact ⟨_, hSelf, mem_placements_cons.mpr (Or.inr hNew)⟩

/- The state of the store in terms of the requests. -/
structure Accounted (w : Store) (c : CheckoutRun) : Prop where
  books : BooksAgree w c.world.store
  stored :
    ∀ row,
      row ∈ c.world.store.orders.rows ↔
        row ∈ w.orders.rows ∨ row ∈ allPlaced c
  uses :
    ∀ held ∈ c.world.store.couponUses,
      held ∈ w.couponUses ∨
        ∃ doc, (held.orderId, doc) ∈ allPlaced c

theorem Accounted.step
    {w : Shop}
    {calls : List CheckoutCall}
    {c c' : CheckoutRun}
    {i : Nat}
    {a : CheckoutAnswer}
    (hReach :
      Reach execCheckout ReserveStep (checkoutRun w calls) c)
    (hStep : c.step execCheckout i a = some c')
    (hAllowed : c.Allowed ReserveStep i a)
    (hNow : Accounted w.store c) :
    Accounted w.store c' := by
  rcases Config.step_eq_some_iff.mp hStep with
    ⟨tr, o, k, hThread, rfl⟩
  have hCond : ReserveStep tr o a c.world := by
    simpa [Config.Allowed, hThread] using hAllowed
  rcases checkout_thread hReach hThread with
    ⟨call, _, hAlong, _⟩
  have hMem := mem_allPlaced_step hThread
    (execCheckout o a c.world).2 a
    (execCheckout o a c.world).1
  rcases store_step hAlong.1 hCond with
    ⟨hNone, hSame⟩ | ⟨doc, hSome, hPlaced, hCovers, hStores⟩
  · refine ⟨?_, ?_, ?_⟩
    · rw [hSame]
      exact hNow.books
    · intro row
      rw [hSame, hMem, hNone]
      simpa using hNow.stored row
    · intro held hHeld
      rw [hSame] at hHeld
      rcases hNow.uses held hHeld with hOld | ⟨doc, hDoc⟩
      · exact Or.inl hOld
      · exact Or.inr ⟨doc, (hMem _).mpr (Or.inl hDoc)⟩
  · refine ⟨hNow.books.stores hPlaced hCovers hStores, ?_, ?_⟩
    · intro row
      rw [hMem, hSome, hStores.orders]
      simp only [Table.insert, List.mem_append,
        List.mem_singleton, hNow.stored row,
        Option.some.injEq]
      constructor
      · rintro ((hOld | hPast) | rfl)
        · exact Or.inl hOld
        · exact Or.inr (Or.inl hPast)
        · exact Or.inr (Or.inr rfl)
      · rintro (hOld | hPast | rfl)
        · exact Or.inl (Or.inl hOld)
        · exact Or.inl (Or.inr hPast)
        · exact Or.inr rfl
    · intro held hHeld
      rw [hStores.uses, List.mem_append] at hHeld
      rcases hHeld with hOld | hNew
      · rcases hNow.uses held hOld with hOld | ⟨doc, hDoc⟩
        · exact Or.inl hOld
        · exact Or.inr ⟨doc, (hMem _).mpr (Or.inl hDoc)⟩
      · refine Or.inr ⟨doc, (hMem _).mpr (Or.inr ?_)⟩
        have hOrder : held.orderId = doc.orderId := by
          unfold usesOf at hNew
          split at hNew
          · rw [List.mem_singleton.mp hNew]
          · exact absurd hNew List.not_mem_nil
        rw [hSome, hOrder]

theorem accounted
    {w : Shop}
    {calls : List CheckoutCall}
    {c : CheckoutRun}
    (hReach :
      Reach execCheckout ReserveStep (checkoutRun w calls)
        c) :
    Accounted w.store c := by
  induction hReach with
  | refl =>
    refine ⟨BooksAgree.refl _, ?_, ?_⟩
    · intro row
      have hNone : allPlaced (checkoutRun w calls) = [] := by
        simp [allPlaced, checkoutRun, Config.start,
          placements]
      rw [hNone]
      simp [checkoutRun, Config.start]
    · intro held hHeld
      exact Or.inl hHeld
  | step hReach hStep hAllowed ih =>
    exact ih.step hReach hStep hAllowed

/-
  What the store and the replies tell of one another.  The
  stock of a physical product and the units on the stored
  orders add up; a reply without an error names the order of
  the cart; a request that ended in an error stored nothing.
-/
structure StockConserved
    (w : Shop)
    (calls : List CheckoutCall)
    (c : CheckoutRun) : Prop where
  stock :
    ∀ product,
      isPhysicalProduct w.store product = true →
        stockOf w.store product +
            orderedUnits w.store product =
          stockOf c.world.store product +
            orderedUnits c.world.store product
  nonneg :
    (∀ product, 0 ≤ stockOf w.store product) →
      ∀ product, 0 ≤ stockOf c.world.store product
  orders :
    ∀ row ∈ c.world.store.orders.rows,
      row ∈ w.store.orders.rows ∨
        ∃ t ∈ c.threads, row ∈ placements t.trace
  uses :
    ∀ held ∈ c.world.store.couponUses,
      held ∈ w.store.couponUses ∨
        ∃ t ∈ c.threads, ∃ doc,
          (held.orderId, doc) ∈ placements t.trace
  placed :
    ∀ (i : Nat) t call response,
      c.threads[i]? = some t →
      calls[i]? = some call →
      t.prog = .ret (.ok response) →
      response.duplicate = false →
        ∃ doc,
          (response.orderId, doc) ∈
              c.world.store.orders.rows ∧
            placements t.trace = [(response.orderId, doc)] ∧
            List.Forall₂ IsLineOf call.req.items doc.items
  refused :
    ∀ t ∈ c.threads, ∀ e,
      t.prog = .ret (.error e) → placements t.trace = []

/-
  In every run of checkouts whose transactions all find the
  stock they reserve, stock is conserved.
-/
theorem checkout_conserves_stock
    {w : Shop}
    {calls : List CheckoutCall}
    {c : CheckoutRun}
    (hReach :
      Reach execCheckout ReserveStep (checkoutRun w calls)
        c) :
    StockConserved w calls c := by
  have hNow := accounted hReach
  refine
    { stock := hNow.books.stock
      nonneg := hNow.books.nonneg
      orders := ?_
      uses := ?_
      placed := ?_
      refused := ?_ }
  · intro row hRow
    rcases (hNow.stored row).mp hRow with hOld | hNew
    · exact Or.inl hOld
    · exact Or.inr (List.mem_flatMap.mp hNew)
  · intro held hHeld
    rcases hNow.uses held hHeld with hOld | ⟨doc, hNew⟩
    · exact Or.inl hOld
    · rcases List.mem_flatMap.mp hNew with ⟨t, hMem, hDoc⟩
      exact Or.inr ⟨t, hMem, doc, hDoc⟩
  · intro i t call response hThread hCall hDone hNew
    rcases checkout_thread hReach hThread with
      ⟨call', hCall', hAlong, _⟩
    cases hCall.symm.trans hCall'
    rw [hDone] at hAlong
    cases hAlong with
    | duplicate => cases hNew
    | @placed _ queries doc _ _ hOrder hDoc =>
      refine ⟨doc, ?_, hOrder, hDoc.cart⟩
      apply (hNow.stored _).mpr
      refine Or.inr (List.mem_flatMap.mpr
        ⟨t, List.mem_of_getElem? hThread, ?_⟩)
      rw [hOrder]
      exact List.mem_singleton_self _
  · intro t hMem e hDone
    rcases List.mem_iff_getElem?.mp hMem with ⟨i, hThread⟩
    rcases checkout_thread hReach hThread with
      ⟨call, _, hAlong, _⟩
    rw [hDone] at hAlong
    cases hAlong with
    | refused hNone => exact hNone

/- Two buyers of two units each find four in stock. -/
theorem checkout_conserves_stock_two_buyers :
    ∃ c, Reach execCheckout ReserveStep
          (checkoutRun tenDollarShop
            [ontarioCall [⟨"p1", 2⟩] 2000 "k1",
              ontarioCall [⟨"p1", 2⟩] 2000 "k2"]) c ∧
        c.Quiet ∧
        stockOf c.world.store "p1" = 0 ∧
        orderedUnits c.world.store "p1" = 4 := by
  have hRun :
      ((checkoutRun tenDollarShop
        [ontarioCall [⟨"p1", 2⟩] 2000 "k1",
          ontarioCall [⟨"p1", 2⟩] 2000 "k2"]).run
          execCheckout
          ((checkoutTurns 0 1 "o1").take 3 ++
            checkoutTurns 1 1 "o2" ++
            (checkoutTurns 0 1 "o1").drop 3)).any (fun c =>
              decide c.Quiet && decide
                  (orderedUnits c.world.store "p1" = 4)) =
        true := by decide
  rcases (Option.any_eq_true _ _).mp hRun with ⟨c, hRun, hEnd⟩
  simp only [Bool.and_eq_true, decide_eq_true_eq] at hEnd
  have hReach : Reach execCheckout ReserveStep _ c :=
    Reach.of_run hRun (by decide)
  have hStock :=
    (checkout_conserves_stock hReach).stock "p1" (by decide)
  have hStart :
      stockOf tenDollarShop.store "p1" +
          orderedUnits tenDollarShop.store "p1" = 4 := by
    decide
  refine ⟨c, hReach, hEnd.1, ?_, hEnd.2⟩
  omega

/- The only request ended with a new order. -/
def ordersAnew (c : CheckoutRun) : Bool :=
  match c.threads with
  | [⟨_, .ret (.ok response)⟩] => !response.duplicate
  | _ => false

/-
  Three units twice on one cart, four in stock: each line
  passes its check, the second reservation changes no row,
  and the reply is a success.
-/
theorem checkout_oversells :
    ∃ c t response, Reach execCheckout AnyCheckoutStep
          (checkoutRun tenDollarShop
            [ontarioCall [⟨"p1", 3⟩, ⟨"p1", 3⟩] 6000 "k1"])
          c ∧
        c.threads = [t] ∧
        t.prog = .ret (.ok response) ∧
        response.duplicate = false ∧
        stockOf c.world.store "p1" = 1 ∧
        orderedUnits c.world.store "p1" = 6 ∧
        ¬ StockConserved tenDollarShop
          [ontarioCall [⟨"p1", 3⟩, ⟨"p1", 3⟩] 6000 "k1"] c := by
  have hRun :
      ((checkoutRun tenDollarShop
        [ontarioCall [⟨"p1", 3⟩, ⟨"p1", 3⟩] 6000 "k1"]).run
          execCheckout (checkoutTurns 0 2 "o1")).any (fun c =>
            ordersAnew c &&
              decide (stockOf c.world.store "p1" = 1) &&
              decide
                (orderedUnits c.world.store "p1" = 6)) =
        true := by decide
  rcases (Option.any_eq_true _ _).mp hRun with ⟨c, hRun, hEnd⟩
  simp only [Bool.and_eq_true, decide_eq_true_eq] at hEnd
  rcases hEnd with ⟨⟨hReply, hStock⟩, hOrdered⟩
  have hReach : Reach execCheckout AnyCheckoutStep _ c :=
    Reach.of_run hRun (by decide)
  unfold ordersAnew at hReply
  split at hReply
  · rename_i tr response hThreads
    refine ⟨c, _, response, hReach, hThreads, rfl,
      by simpa using hReply, hStock, hOrdered, ?_⟩
    intro hConserved
    have hSum := hConserved.stock "p1" (by decide)
    have hStart :
        stockOf tenDollarShop.store "p1" +
            orderedUnits tenDollarShop.store "p1" = 4 := by
      decide
    omega
  · cases hReply

end Orignabase
