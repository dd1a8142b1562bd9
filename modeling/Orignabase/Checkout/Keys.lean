import Orignabase.Checkout.Reservations

/-
  Checkouts that share an idempotency key.

  The query for duplicates and the insertion of the order are
  separate steps; it is Stripe that binds a key to one order.

  Key definitions include:
    * `isUnder`
    * `OncePerKey`

  Main results:
    * `checkout_once_per_key`
-/

--------
-- What The World Remembers
--------

namespace Orignabase

open Conc

variable {w : Shop}

/- The session of a key is never replaced. -/
theorem session?_exec
    {key : String}
    {found : SessionRecord}
    (hFound : w.session? key = some found)
    (o : CheckoutOp)
    (a : CheckoutAnswer) :
    (execCheckout o a w).2.session? key = some found := by
  cases o with
  | createSession key' params =>
    simp only [execCheckout, CheckoutAnswer.guard]
    split_ifs
    · exact hFound
    · cases hKey : w.session? key' with
      | some earlier => exact hFound
      | none =>
        unfold Shop.session? at hFound ⊢
        rw [List.find?_append, hFound]
        rfl
  | _ =>
    simp only [execCheckout, CheckoutAnswer.guard]
    first
      | exact hFound
      | split_ifs <;> exact hFound

/- A session that Stripe answered is known by its key. -/
theorem session?_created
    {key : String}
    {params : SessionParams}
    {a : CheckoutAnswer}
    {session : StripeSession}
    (hRes :
      (execCheckout (.createSession key params) a w).1 =
        .ok session) :
    ∃ found,
      (execCheckout (.createSession key params) a
          w).2.session? key = some found ∧
        found.params = params := by
  simp only [execCheckout, CheckoutAnswer.guard] at hRes ⊢
  split_ifs at hRes ⊢
  cases hKey : w.session? key with
  | some earlier =>
    rw [hKey] at hRes
    dsimp only at hRes
    split_ifs at hRes with hSame
    exact ⟨earlier, hKey, hSame⟩
  | none =>
    refine ⟨⟨key, params, a.session⟩, ?_, rfl⟩
    unfold Shop.session? at hKey ⊢
    rw [List.find?_append, hKey]
    simp

variable {row : String × Order}

theorem rows_runAll
    {queries : List Statement}
    {w w' : Store}
    {counts : List Nat}
    (hRun :
      Transaction.runAll queries w = some (counts, w'))
    (hRow : row ∈ w.orders.rows) :
    row ∈ w'.orders.rows := by
  induction queries generalizing w counts with
  | nil =>
    cases hRun
    exact hRow
  | cons q rest ih =>
    unfold Transaction.runAll at hRun
    cases hOne : q.run w with
    | none =>
      rw [hOne] at hRun
      cases hRun
    | some out =>
      rw [hOne] at hRun
      rcases Option.map_eq_some_iff.mp hRun with
        ⟨done, hRest, hEq⟩
      cases hEq
      refine ih hRest ?_
      cases q with
      | insertOrder id doc =>
        simp only [Statement.run] at hOne
        split_ifs at hOne
        cases hOne
        exact List.mem_append_left _ hRow
      | insertCouponUse entry =>
        simp only [Statement.run] at hOne
        split_ifs at hOne
        cases hOne
        exact hRow
      | reserveStock id quantity =>
        simp only [Statement.run] at hOne
        split at hOne
        · split_ifs at hOne <;> cases hOne <;>
            exact hRow
        · cases hOne
          exact hRow

/- Stored orders stay as they are. -/
theorem rows_exec
    (hRow : row ∈ w.store.orders.rows)
    (o : CheckoutOp)
    (a : CheckoutAnswer) :
    row ∈ (execCheckout o a w).2.store.orders.rows := by
  by_cases hQuiet : o.Quiet
  · rw [store_quiet hQuiet]
    exact hRow
  · cases o with
    | commit queries =>
      simp only [execCheckout, CheckoutAnswer.guard,
        Transaction.commit]
      split_ifs
      · exact hRow
      · cases hRun :
            Transaction.runAll queries w.store with
        | none => exact hRow
        | some out => exact rows_runAll hRun hRow
    | _ => exact absurd rfl hQuiet

variable {doc : Order}

/- An order is not stored under an id that is taken. -/
theorem placedBy_taken
    {id : String}
    {rest : List Statement}
    (hTaken : (w.store.orders.get id).isSome = true)
    (a : CheckoutAnswer) :
    placedBy ⟨.commit (.insertOrder id doc :: rest), a,
          (execCheckout
            (.commit (.insertOrder id doc :: rest)) a w).1⟩ =
      none := by
  simp only [execCheckout, CheckoutAnswer.guard,
    Transaction.commit, Transaction.runAll, Statement.run,
    if_pos hTaken]
  split_ifs <;> rfl

--------
-- Orders Under A Key
--------

/- The row is an order of the buyer under the key. -/
def isUnder (buyer key : String) (row : String × Order) :
    Bool :=
  row.2.buyerId = buyer && row.2.idempotencyKey = key

/- The stored orders of a buyer under a key. -/
def ordersUnder (w : Shop) (buyer key : String) :
    List (String × Order) :=
  w.store.orders.rows.filter (isUnder buyer key)

/- What the shop still knows about a past event. -/
def KnownOf :
    Event CheckoutOp.Res CheckoutAnswer → Shop → Prop
  | ⟨.createSession key params, _, r⟩, w =>
    ∀ session : StripeSession, r = Except.ok session →
      ∃ found, w.session? key = some found ∧
          found.params = params
  | ⟨.findDuplicate buyer key, _, r⟩, w =>
    ∀ order : Order, r = Except.ok (some order) →
      ∃ id, (id, order) ∈ ordersUnder w buyer key
  | _, _ => True

theorem knownOf_new
    (o : CheckoutOp)
    (a : CheckoutAnswer)
    (w : Shop) :
    KnownOf ⟨o, a, (execCheckout o a w).1⟩
      (execCheckout o a w).2 := by
  cases o with
  | createSession key params =>
    intro session hRes
    exact session?_created hRes
  | findDuplicate buyer key =>
    intro order hRes
    simp only [execCheckout, CheckoutAnswer.guard] at hRes ⊢
    split_ifs at hRes ⊢
    have hFound := Except.ok.inj hRes
    have hMem := List.mem_of_find?_eq_some hFound
    have hUnder := List.find?_some hFound
    rcases List.mem_map.mp hMem with ⟨row, hRow, rfl⟩
    exact ⟨row.1, List.mem_filter.mpr ⟨hRow, hUnder⟩⟩
  | _ => trivial

theorem knownOf_exec
    {e : Event CheckoutOp.Res CheckoutAnswer}
    (hKnown : KnownOf e w)
    (o : CheckoutOp)
    (a : CheckoutAnswer) :
    KnownOf e (execCheckout o a w).2 := by
  rcases e with ⟨past, b, r⟩
  cases past with
  | createSession key params =>
    intro session hRes
    rcases hKnown session hRes with ⟨found, hFound, hParams⟩
    exact ⟨found, session?_exec hFound o a, hParams⟩
  | findDuplicate buyer key =>
    intro order hRes
    rcases hKnown order hRes with ⟨id, hRow⟩
    rcases List.mem_filter.mp hRow with ⟨hStored, hUnder⟩
    exact ⟨id, List.mem_filter.mpr
      ⟨rows_exec hStored o a, hUnder⟩⟩
  | _ => trivial

/-
  Two orders of one key, each stored by a request that had
  its session from Stripe, have one id.
-/
theorem same_orderId
    {call call' : CheckoutCall}
    {tr tr' : CheckoutTrace}
    {queries queries' : List Statement}
    {doc' : Order}
    (hKnown : ∀ e ∈ tr, KnownOf e w)
    (hKnown' : ∀ e ∈ tr', KnownOf e w)
    (hDoc : IsPlacement call tr queries doc)
    (hDoc' : IsPlacement call' tr' queries' doc')
    (hKey : doc.idempotencyKey = doc'.idempotencyKey) :
    doc.orderId = doc'.orderId := by
  rcases hDoc.session with ⟨params, a, session, hMem, hId⟩
  rcases hDoc'.session with
    ⟨params', a', session', hMem', hId'⟩
  rcases hKnown _ hMem session rfl with
    ⟨found, hFound, hParams⟩
  rcases hKnown' _ hMem' session' rfl with
    ⟨found', hFound', hParams'⟩
  rw [hKey, hFound'] at hFound
  cases hFound
  rw [← hId, ← hId', ← hParams, ← hParams']

section

variable {w : Shop} {calls : List CheckoutCall}
variable {c : CheckoutRun}

theorem known
    (hReach :
      Reach execCheckout ReserveStep (checkoutRun w calls)
        c) :
    ∀ t ∈ c.threads, ∀ e ∈ t.trace, KnownOf e c.world := by
  refine hReach.remembers ?_ ?_
  · intro _ o a w _
    exact knownOf_new o a w
  · intro e _ o a w _ hKnown
    exact knownOf_exec hKnown o a

/- A row that a run added, and the request that did. -/
theorem placement_of_stored
    (hReach :
      Reach execCheckout ReserveStep (checkoutRun w calls) c)
    (hRow : row ∈ c.world.store.orders.rows)
    (hNew : row ∉ w.store.orders.rows) :
    row.1 = row.2.orderId ∧ ∃ call queries, ∃ t ∈ c.threads,
        IsPlacement call t.trace queries row.2 := by
  rcases ((accounted hReach).stored row).mp hRow with
    hOld | hPlaced
  · exact absurd hOld hNew
  · rcases List.mem_flatMap.mp hPlaced with ⟨t, hMem, hOwn⟩
    rcases List.mem_iff_getElem?.mp hMem with ⟨i, hThread⟩
    rcases checkout_thread hReach hThread with
      ⟨call, _, _, hCould⟩
    rcases placement_of_could hCould hOwn with
      ⟨hId, queries, hDoc⟩
    exact ⟨hId, call, queries, t, hMem, hDoc⟩

variable {buyer key : String}

/- An order is stored only under a key without one. -/
theorem ordersUnder_of_placed
    (hNew : ordersUnder w buyer key = [])
    (hReach :
      Reach execCheckout ReserveStep (checkoutRun w calls) c)
    {i : Nat}
    {tr : CheckoutTrace}
    {o : CheckoutOp}
    {k : o.Res → CheckoutHandler CheckoutResponse}
    (hThread : c.threads[i]? = some ⟨tr, .call o k⟩)
    {a : CheckoutAnswer}
    (hSome :
      placedBy ⟨o, a, (execCheckout o a c.world).1⟩ =
        some (doc.orderId, doc))
    (hUnder : isUnder buyer key (doc.orderId, doc) = true) :
    ordersUnder c.world buyer key = [] := by
  rcases checkout_thread hReach hThread with
    ⟨call, _, hAlong, _⟩
  rcases hAlong.1 with hQuiet | ⟨queries, doc', rfl, _, hDoc⟩
  · cases o with
    | commit queries => cases hQuiet
    | _ => cases hSome
  · have hDoc' : doc' = doc := by
      cases hDoc.shape
      unfold placedBy at hSome
      simp only [insertions, List.cons_append] at hSome
      split_ifs at hSome
      exact congrArg Prod.snd (Option.some.inj hSome)
    subst hDoc'
    by_contra hSomeRow
    rcases List.exists_mem_of_ne_nil _ hSomeRow with
      ⟨row, hRow⟩
    rcases List.mem_filter.mp hRow with ⟨hStored, hRowUnder⟩
    have hFresh : row ∉ w.store.orders.rows := by
      intro hOld
      have hMem : row ∈ ordersUnder w buyer key :=
        List.mem_filter.mpr ⟨hOld, hRowUnder⟩
      rw [hNew] at hMem
      exact absurd hMem List.not_mem_nil
    rcases placement_of_stored hReach hStored hFresh with
      ⟨hId, call', queries', t, hMem, hRowDoc⟩
    have hSame : doc'.orderId = row.2.orderId := by
      simp only [isUnder, Bool.and_eq_true,
        decide_eq_true_eq] at hUnder hRowUnder
      exact same_orderId
        (known hReach _ (List.mem_of_getElem? hThread))
        (known hReach t hMem) hDoc hRowDoc
        (hUnder.2.trans hRowUnder.2.symm)
    have hTaken :
        (c.world.store.orders.get doc'.orderId).isSome =
          true := by
      rw [hSame, ← hId]
      exact Table.isSome_get_of_mem hStored
    cases hDoc.shape
    exact nomatch (placedBy_taken hTaken a).symm.trans hSome

/- A key has at most one order. -/
theorem ordersUnder_length
    (hNew : ordersUnder w buyer key = [])
    (hReach :
      Reach execCheckout ReserveStep (checkoutRun w calls)
        c) :
    (ordersUnder c.world buyer key).length ≤ 1 := by
  induction hReach with
  | refl =>
    change (ordersUnder w buyer key).length ≤ 1
    rw [hNew]
    exact Nat.zero_le 1
  | @step c c' i a hReach hStep hAllowed ih =>
    rcases Config.step_eq_some_iff.mp hStep with
      ⟨tr, o, k, hThread, rfl⟩
    have hCond : ReserveStep tr o a c.world := by
      simpa [Config.Allowed, hThread] using hAllowed
    rcases checkout_thread hReach hThread with
      ⟨call, _, hAlong, _⟩
    rcases store_step hAlong.1 hCond with
      ⟨_, hSame⟩ | ⟨doc, hSome, _, _, hStores⟩
    · unfold ordersUnder
      rw [hSame]
      exact ih
    · have hRows :
          ordersUnder (execCheckout o a c.world).2 buyer
              key =
            ordersUnder c.world buyer key ++
              [(doc.orderId, doc)].filter
                (isUnder buyer key) := by
        unfold ordersUnder
        rw [hStores.orders]
        exact List.filter_append ..
      change (ordersUnder _ buyer key).length ≤ 1
      rw [hRows]
      by_cases hUnder :
          isUnder buyer key (doc.orderId, doc) = true
      · rw [ordersUnder_of_placed hNew hReach hThread
          hSome hUnder]
        simp [hUnder]
      · simpa [hUnder] using ih

/-
  What a key guarantees: at most one order is stored under
  it, every reply to a request with the key names that order,
  and every unit of a physical product on the stored orders
  has been taken from the stock.
-/
structure OncePerKey
    (w : Shop)
    (calls : List CheckoutCall)
    (buyer key : String)
    (c : CheckoutRun) : Prop where
  one : (ordersUnder c.world buyer key).length ≤ 1
  named :
    ∀ (i : Nat) t call response,
      c.threads[i]? = some t →
      calls[i]? = some call →
      call.auth.userId = buyer →
      call.req.idempotencyKey = some key →
      t.prog = .ret (.ok response) →
        response.success = true ∧
          ∃ doc,
            ordersUnder c.world buyer key =
              [(response.orderId, doc)]
  reserved :
    ∀ product,
      isPhysicalProduct w.store product = true →
        stockOf w.store product +
            orderedUnits w.store product =
          stockOf c.world.store product +
            orderedUnits c.world.store product

theorem eq_singleton_of_mem
    {α : Type}
    {rows : List α}
    {row : α}
    (hMem : row ∈ rows)
    (hLength : rows.length ≤ 1) :
    rows = [row] := by
  match rows, hMem, hLength with
  | [only], hMem, _ => rw [List.mem_singleton.mp hMem]

/- The order that a reply names. -/
theorem mem_ordersUnder_of_reply
    (hNew : ordersUnder w buyer key = [])
    (hReach :
      Reach execCheckout ReserveStep (checkoutRun w calls) c)
    {i : Nat}
    {t : Thread CheckoutOp.Res CheckoutAnswer
      (Except Error CheckoutResponse)}
    {call : CheckoutCall}
    {response : CheckoutResponse}
    (hThread : c.threads[i]? = some t)
    (hCall : calls[i]? = some call)
    (hBuyer : call.auth.userId = buyer)
    (hKey : call.req.idempotencyKey = some key)
    (hDone : t.prog = .ret (.ok response)) :
    response.success = true ∧ ∃ doc,
        (response.orderId, doc) ∈
          ordersUnder c.world buyer key := by
  rcases checkout_thread hReach hThread with
    ⟨call', hCall', hAlong, hCould⟩
  cases hCall.symm.trans hCall'
  rw [hDone] at hAlong
  have hMem := List.mem_of_getElem? hThread
  cases hAlong with
  | @duplicate a key' order _ hEvent hGiven =>
    cases hGiven key hKey
    rcases known hReach t hMem _ hEvent order rfl with
      ⟨id, hRow⟩
    rw [hBuyer] at hRow
    rcases List.mem_filter.mp hRow with ⟨hStored, hUnder⟩
    have hFresh : (id, order) ∉ w.store.orders.rows := by
      intro hOld
      have hOldUnder :
          (id, order) ∈ ordersUnder w buyer key :=
        List.mem_filter.mpr ⟨hOld, hUnder⟩
      rw [hNew] at hOldUnder
      exact absurd hOldUnder List.not_mem_nil
    rcases placement_of_stored hReach hStored hFresh with
      ⟨hId, _⟩
    refine ⟨rfl, order, ?_⟩
    change (order.orderId, order) ∈ _
    rw [← hId]
    exact hRow
  | @placed _ queries doc hSuccess _ hOrder hDoc =>
    refine ⟨hSuccess, doc, List.mem_filter.mpr ⟨?_, ?_⟩⟩
    · apply ((accounted hReach).stored _).mpr
      refine Or.inr (List.mem_flatMap.mpr ⟨t, hMem, ?_⟩)
      rw [hOrder]
      exact List.mem_singleton_self _
    · simp [isUnder, hDoc.buyer, hBuyer, hDoc.key key hKey]

/-
  In every run of checkouts whose transactions all find the
  stock they reserve, a key of a buyer leads to one order.
-/
theorem checkout_once_per_key
    {buyer key : String}
    (hNew : ordersUnder w buyer key = [])
    (hReach :
      Reach execCheckout ReserveStep (checkoutRun w calls)
        c) :
    OncePerKey w calls buyer key c := by
  have hOne := ordersUnder_length hNew hReach
  refine ⟨hOne, ?_, (accounted hReach).books.stock⟩
  intro i t call response hThread hCall hBuyer hKey hDone
  rcases mem_ordersUnder_of_reply hNew hReach hThread hCall
      hBuyer hKey hDone with ⟨hSuccess, doc, hRow⟩
  exact ⟨hSuccess, doc, eq_singleton_of_mem hRow hOne⟩

end

/-
  Two requests with one key at once: the second finds its
  key taken at Stripe, and only the first stores an order.
-/
def oneWins (c : CheckoutRun) : Bool :=
  match c.threads with
  | [⟨_, .ret (.ok _)⟩, ⟨_, .ret (.error _)⟩] => true
  | _ => false

theorem checkout_once_per_key_race :
    ∃ c response doc, Reach execCheckout ReserveStep
          (checkoutRun tenDollarShop
            [ontarioCall [⟨"p1", 2⟩] 2000 "k1",
              ontarioCall [⟨"p1", 2⟩] 2000 "k1"]) c ∧
        c.Quiet ∧
        (∃ t, c.threads[0]? = some t ∧
          t.prog = .ret (.ok response)) ∧
        ordersUnder c.world "u1" "k1" =
          [(response.orderId, doc)] := by
  have hRun :
      ((checkoutRun tenDollarShop
        [ontarioCall [⟨"p1", 2⟩] 2000 "k1",
          ontarioCall [⟨"p1", 2⟩] 2000 "k1"]).run
          execCheckout
          ((checkoutTurns 0 1 "o1").take 6 ++
            (checkoutTurns 1 1 "o2").take 6 ++
            (checkoutTurns 0 1 "o1").drop 6)).any (fun c =>
              decide c.Quiet && oneWins c) = true := by
    decide
  rcases (Option.any_eq_true _ _).mp hRun with ⟨c, hRun, hEnd⟩
  simp only [Bool.and_eq_true, decide_eq_true_eq] at hEnd
  have hReach : Reach execCheckout ReserveStep _ c :=
    Reach.of_run hRun (by decide)
  rcases hEnd with ⟨hQuiet, hReplies⟩
  unfold oneWins at hReplies
  split at hReplies
  · rename_i tr response tr' e hThreads
    have hFirst :
        c.threads[0]? = some ⟨tr, .ret (.ok response)⟩ := by
      rw [hThreads]
      rfl
    have hNew : ordersUnder tenDollarShop "u1" "k1" = [] :=
      rfl
    have hOnce := checkout_once_per_key hNew hReach
    rcases hOnce.named 0 _ _ response hFirst rfl rfl rfl
        rfl with ⟨_, doc, hRows⟩
    exact ⟨c, response, doc, hReach, hQuiet,
      ⟨_, hFirst, rfl⟩, hRows⟩
  · cases hReplies

/-
  Three units twice on one cart, four in stock, and the same
  request again at once: both replies are a success and name
  the order, and six units were sold of four.
-/
theorem checkout_key_unreserved :
    ∃ c, Reach execCheckout AnyCheckoutStep
          (checkoutRun tenDollarShop
            [ontarioCall [⟨"p1", 3⟩, ⟨"p1", 3⟩] 6000 "k1",
              ontarioCall [⟨"p1", 3⟩, ⟨"p1", 3⟩] 6000 "k1"])
          c ∧
        (c.threads.all (fun t =>
          match t.prog with
          | .ret (.ok response) => response.success
          | _ => false)) = true ∧
        ¬ OncePerKey tenDollarShop
          [ontarioCall [⟨"p1", 3⟩, ⟨"p1", 3⟩] 6000 "k1",
            ontarioCall [⟨"p1", 3⟩, ⟨"p1", 3⟩] 6000 "k1"]
          "u1" "k1" c := by
  have hRun :
      ((checkoutRun tenDollarShop
        [ontarioCall [⟨"p1", 3⟩, ⟨"p1", 3⟩] 6000 "k1",
          ontarioCall [⟨"p1", 3⟩, ⟨"p1", 3⟩] 6000 "k1"]).run
          execCheckout
          ((checkoutTurns 1 2 "o2").take 4 ++
            checkoutTurns 0 2 "o1" ++
            [(1, { fault := false })])).any (fun c =>
              c.threads.all (fun t =>
                match t.prog with
                | .ret (.ok response) => response.success
                | _ => false) &&
              decide (stockOf c.world.store "p1" = 1) &&
              decide
                (orderedUnits c.world.store "p1" = 6)) =
        true := by decide
  rcases (Option.any_eq_true _ _).mp hRun with ⟨c, hRun, hEnd⟩
  simp only [Bool.and_eq_true, decide_eq_true_eq] at hEnd
  rcases hEnd with ⟨⟨hReplies, hStock⟩, hOrdered⟩
  have hReach : Reach execCheckout AnyCheckoutStep _ c :=
    Reach.of_run hRun (by decide)
  refine ⟨c, hReach, hReplies, ?_⟩
  intro hOnce
  have hSum := hOnce.reserved "p1" (by decide)
  have hStart :
      stockOf tenDollarShop.store "p1" +
          orderedUnits tenDollarShop.store "p1" = 4 := by
    decide
  omega

end Orignabase
