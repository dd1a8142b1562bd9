import Orignabase.Realtime.Websocket

/-
  The loop of the dispatcher and the messages that it sends
  for an event (`ob-realtime/src/dispatcher.rs`).

  Whether a channel takes a message, or is full or closed, is
  taken from the environment: its consumer runs beside the
  loop.

  Key definitions include:
    * `Content`
    * `Arrival`, `dispatch`, `run`
    * `DocumentLevel`
    * `Targeted`

  Main results:
    * `Registry.exists_content`
    * `times_dispatch`
    * `document_level_iff`
-/

--------
-- The Content of a Registry
--------

namespace Orignabase.Realtime

/-
  The subscriptions of a registry in the order in which they
  are found.  Each is stored under its own id.
-/
structure Content where
  subscriptions : List Subscription
  distinct : (subscriptions.map (·.id)).Nodup

variable {c : Content}

namespace Content

def empty : Content := ⟨[], List.nodup_nil⟩

/- The subscriptions without the one of an id. -/
def remove (c : Content) (id : String) : Content where
  subscriptions := c.subscriptions.filter (·.id ≠ id)
  distinct := (List.filter_sublist.map _).nodup c.distinct

theorem mem_remove
    {id : String}
    {sub : Subscription} :
    sub ∈ (c.remove id).subscriptions ↔
      sub ∈ c.subscriptions ∧ sub.id ≠ id := by
  unfold remove
  rw [List.mem_filter, decide_eq_true_iff]

/- A subscription in the place of the one of its id. -/
def put (c : Content) (sub : Subscription) : Content where
  subscriptions := sub :: (c.remove sub.id).subscriptions
  distinct := by
    rw [List.map_cons, List.nodup_cons]
    refine ⟨?_, (c.remove sub.id).distinct⟩
    intro hMem
    rcases List.mem_map.mp hMem with ⟨other, hOther, hId⟩
    exact (mem_remove.mp hOther).2 hId

end Content

/- The content is that of the registry. -/
def Registry.Lists (r : Registry) (c : Content) : Prop :=
  ∀ id sub, sub ∈ c.subscriptions ∧ sub.id = id ↔
      (r.subscriptions id).map (·.toSubscription) = some sub

namespace Registry

theorem lists_new : new.Lists Content.empty := by
  intro id sub
  constructor
  · rintro ⟨hMem, -⟩
    cases hMem
  · intro hSome
    cases hSome

variable {r : Registry}

theorem Lists.subscribe
    (hLists : r.Lists c)
    (connectionId : String)
    (sub : Registered) :
    (r.subscribe connectionId sub).Lists
      (c.put sub.toSubscription) := by
  intro id other
  rw [subscribe_subscriptions]
  change other ∈ sub.toSubscription ::
      (c.remove sub.id).subscriptions ∧ other.id = id ↔ _
  rw [List.mem_cons, Content.mem_remove]
  by_cases hId : id = sub.id
  · subst hId
    rw [if_pos rfl]
    constructor
    · rintro ⟨rfl | ⟨-, hNe⟩, hSame⟩
      · rfl
      · exact absurd hSame hNe
    · intro hSome
      have hSame := Option.some.inj hSome
      subst hSame
      exact ⟨Or.inl rfl, rfl⟩
  · rw [if_neg hId, ← hLists id other]
    constructor
    · rintro ⟨rfl | ⟨hMem, -⟩, hSame⟩
      · exact absurd hSame.symm hId
      · exact ⟨hMem, hSame⟩
    · rintro ⟨hMem, hSame⟩
      refine ⟨Or.inr ⟨hMem, ?_⟩, hSame⟩
      rw [hSame]
      exact hId

theorem Lists.unsubscribe
    (hLists : r.Lists c)
    (subscriptionId : String) :
    (r.unsubscribe subscriptionId).Lists
      (c.remove subscriptionId) := by
  intro id other
  rw [unsubscribe_subscriptions, Content.mem_remove]
  by_cases hId : id = subscriptionId
  · rw [if_pos hId]
    constructor
    · rintro ⟨⟨-, hNe⟩, hSame⟩
      exact absurd (hSame.trans hId) hNe
    · intro hSome
      cases hSome
  · rw [if_neg hId, ← hLists id other]
    constructor
    · rintro ⟨⟨hMem, -⟩, hSame⟩
      exact ⟨hMem, hSame⟩
    · rintro ⟨hMem, hSame⟩
      refine ⟨⟨hMem, ?_⟩, hSame⟩
      rw [hSame]
      exact hId

/- The registry has a content. -/
def Listed (r : Registry) : Prop :=
  ∃ c, r.Lists c

theorem Listed.unsubscribeAll
    (ids : List String)
    (hListed : r.Listed) :
    (ids.foldl Registry.unsubscribe r).Listed := by
  induction ids generalizing r with
  | nil => exact hListed
  | cons id ids ih =>
    rcases hListed with ⟨c, hLists⟩
    exact ih ⟨_, hLists.unsubscribe id⟩

/- Only the subscriptions matter. -/
theorem Listed.of_subscriptions
    {r' : Registry}
    (hListed : r.Listed)
    (hSame : r'.subscriptions = r.subscriptions) :
    r'.Listed := by
  rcases hListed with ⟨c, hLists⟩
  refine ⟨c, ?_⟩
  unfold Lists
  rw [hSame]
  exact hLists

theorem Listed.disconnect
    (hListed : r.Listed)
    (connectionId : String) :
    (r.disconnect connectionId).Listed := by
  unfold Registry.disconnect
  cases r.connections connectionId with
  | none => exact hListed
  | some ids =>
    exact Listed.unsubscribeAll ids
      (hListed.of_subscriptions rfl)

theorem Listed.message
    (hListed : r.Listed)
    (conn : Connection)
    (now : String)
    (message : ClientMessage) :
    (handleMessage r conn now message).1.Listed := by
  cases message with
  | subscribe id collection filterHash documentId =>
    rw [handleMessage]
    split_ifs with hCollection hLimit
    · exact hListed
    · rcases hListed with ⟨c, hLists⟩
      exact ⟨_, hLists.subscribe conn.id _⟩
    · exact hListed
  | unsubscribe id =>
    rcases hListed with ⟨c, hLists⟩
    exact ⟨_, hLists.unsubscribe id⟩
  | presence metadata =>
    rw [handleMessage]
    split_ifs with hSize
    · exact hListed
    · exact hListed.of_subscriptions rfl
  | ping => exact hListed.of_subscriptions rfl

theorem Listed.step
    {r : Registry}
    (hListed : r.Listed)
    (action : Action) :
    (action.step r).Listed := by
  cases action with
  | frame conn now input =>
    cases input with
    | text size parsed =>
      rw [Action.step]
      unfold handleFrame
      dsimp only
      split_ifs with hSize
      · exact hListed
      · cases parsed with
        | error e => exact hListed
        | ok message => exact hListed.message ..
    | other => exact hListed
  | close conn =>
    have hRemoved : (r.removePresence conn.id).Listed :=
      hListed.of_subscriptions rfl
    exact hRemoved.disconnect _
  | dispatch event => exact hListed

/- What any run of actions leaves has a content. -/
theorem exists_content (actions : List Action) :
    ∃ c, (served actions).Lists c := by
  have hNew : new.Listed := ⟨_, lists_new⟩
  exact History.always_of_step hNew
    (fun _ action hListed => Listed.step hListed action)
    actions

end Registry

--------
-- The Loop of the Dispatcher
--------

/- A message sent to a client. -/
structure RealtimeMessage where
  subscriptionId : String
  event : ChangeEvent

/-
  An event that the dispatcher receives, the subscriptions
  it finds then, and the channels that take a message.
-/
structure Arrival where
  event : ChangeEvent
  content : Content
  accepts : Subscription → Bool

/- One pass through the loop. -/
def dispatch (arrival : Arrival) : List RealtimeMessage :=
  match findAllForCollection arrival.content.subscriptions
      arrival.event.collection with
  | [] => []
  | subscribers =>
    let subscribers := filterByOwnership subscribers
        arrival.event.collection arrival.event.data
    (subscribers.filter arrival.accepts).map
      (fun sub => ⟨sub.id, arrival.event⟩)

/- The messages sent for each event in turn. -/
def run : List Arrival → List (List RealtimeMessage)
  | [] => []
  | arrival :: rest => dispatch arrival :: run rest

/- How often a subscription is sent a message. -/
def times
    (sub : Subscription)
    (messages : List RealtimeMessage) : Nat :=
  (messages.map (·.subscriptionId)).count sub.id

/- The filter by owners lets the subscription through. -/
def passes (event : ChangeEvent) (sub : Subscription) : Bool :=
  !(filterByOwnership [sub] event.collection
    event.data).isEmpty

/-
  Subscriptions see an event at most once, those to a
  document only where it is theirs, and those to a whole
  collection exactly once.
-/
structure DocumentLevel
    (arrival : Arrival)
    (messages : List RealtimeMessage) : Prop where
  event : ∀ m ∈ messages, m.event = arrival.event
  once :
    ∀ sub ∈ arrival.content.subscriptions,
      times sub messages ≤ 1
  document :
    ∀ sub ∈ arrival.content.subscriptions, ∀ d,
      sub.documentId = some d →
        times sub messages ≠ 0 →
          arrival.event.documentId = d
  whole :
    ∀ sub ∈ arrival.content.subscriptions,
      sub.documentId = none →
        sub.collection = arrival.event.collection →
          passes arrival.event sub = true →
            times sub messages = 1 ∨
              arrival.accepts sub = false

/-
  No subscription to another document of the collection
  passes the filter by owners, or its channel takes nothing.
-/
def Targeted (arrival : Arrival) : Prop :=
  ∀ sub ∈ arrival.content.subscriptions, ∀ d,
    sub.documentId = some d →
      sub.collection = arrival.event.collection →
        passes arrival.event sub = true →
          arrival.accepts sub = true →
            arrival.event.documentId = d

/- The filter keeps the owners, or everyone. -/
theorem filterByOwnership_shape
    (collection : String)
    (data : Value) :
    (∃ owners, ∀ subs,
      filterByOwnership subs collection data =
        retainOwners subs owners) ∨
      ∀ subs, filterByOwnership subs collection data = subs := by
  unfold filterByOwnership
  split
  all_goals
    first
    | exact Or.inr fun _ => rfl
    | exact Or.inl ⟨_, fun _ => rfl⟩

/- The filter by owners looks at each subscription alone. -/
theorem filterByOwnership_eq_filter
    (event : ChangeEvent)
    (subscribers : List Subscription) :
    filterByOwnership subscribers event.collection
        event.data =
      subscribers.filter (passes event) := by
  rcases filterByOwnership_shape event.collection event.data
    with ⟨owners, hOwners⟩ | hPublic
  · rw [hOwners]
    unfold retainOwners
    apply List.filter_congr
    intro sub _
    unfold passes
    rw [hOwners]
    unfold retainOwners
    rw [List.filter_cons]
    split_ifs with hOwner
    · exact hOwner
    · simpa using hOwner
  · rw [hPublic, List.filter_eq_self.mpr]
    intro sub _
    unfold passes
    rw [hPublic]
    rfl

/- The subscription is sent a message for the event. -/
def Arrival.reaches (a : Arrival) (sub : Subscription) : Bool :=
  a.accepts sub && passes a.event sub &&
    decide (sub.collection = a.event.collection)

/- An event without subscribers is like any other. -/
theorem dispatch_eq (a : Arrival) :
    dispatch a =
      (a.content.subscriptions.filter a.reaches).map
        (fun sub => ⟨sub.id, a.event⟩) := by
  have hReaches :
      ((a.content.subscriptions.filter
          (·.collection = a.event.collection)).filter
            (passes a.event)).filter a.accepts =
        a.content.subscriptions.filter a.reaches := by
    rw [List.filter_filter, List.filter_filter]
    rfl
  rw [← hReaches]
  unfold dispatch
  cases hFound : findAllForCollection a.content.subscriptions
      a.event.collection with
  | nil =>
    unfold findAllForCollection at hFound
    rw [hFound]
    rfl
  | cons sub subs =>
    dsimp only
    rw [← hFound, filterByOwnership_eq_filter]
    rfl

/- A registered subscription is sent one message or none. -/
theorem times_dispatch
    (a : Arrival)
    {sub : Subscription}
    (hMem : sub ∈ a.content.subscriptions) :
    times sub (dispatch a) =
      if a.reaches sub then 1 else 0 := by
  have hIds :
      (dispatch a).map (·.subscriptionId) =
        (a.content.subscriptions.filter a.reaches).map
          (·.id) := by
    rw [dispatch_eq, List.map_map]
    rfl
  have hDistinct :
      ((a.content.subscriptions.filter a.reaches).map
        (·.id)).Nodup :=
    (List.filter_sublist.map _).nodup a.content.distinct
  have hSent :
      sub.id ∈ (a.content.subscriptions.filter
          a.reaches).map (·.id) ↔
        a.reaches sub = true := by
    constructor
    · intro hId
      rcases List.mem_map.mp hId with ⟨other, hOther, hSame⟩
      rw [List.mem_filter] at hOther
      have hEq : other = sub :=
        List.inj_on_of_nodup_map a.content.distinct
          hOther.1 hMem hSame
      rw [← hEq]
      exact hOther.2
    · intro hReaches
      exact List.mem_map_of_mem
        (List.mem_filter.mpr ⟨hMem, hReaches⟩)
  unfold times
  rw [hIds, hDistinct.count]
  exact if_congr hSent rfl rfl

/- The condition is exact for every pass. -/
theorem documentLevel_dispatch_iff (a : Arrival) :
    DocumentLevel a (dispatch a) ↔ Targeted a := by
  constructor
  · intro hLevel sub hMem d hDocument hCollection hPasses hTakes
    apply hLevel.document sub hMem d hDocument
    have hReaches : a.reaches sub = true := by
      simp [Arrival.reaches, hCollection, hPasses, hTakes]
    rw [times_dispatch a hMem, if_pos hReaches]
    exact one_ne_zero
  · intro hTargeted
    constructor
    · intro m hSent
      rw [dispatch_eq] at hSent
      rcases List.mem_map.mp hSent with ⟨sub, _, rfl⟩
      rfl
    · intro sub hMem
      rw [times_dispatch a hMem]
      split_ifs <;> simp
    · intro sub hMem d hDocument hTimes
      rw [times_dispatch a hMem] at hTimes
      have hReaches : a.reaches sub = true := by
        by_contra hNot
        exact hTimes (if_neg hNot)
      simp only [Arrival.reaches, Bool.and_eq_true,
        decide_eq_true_iff] at hReaches
      exact hTargeted sub hMem d hDocument hReaches.2
        hReaches.1.2 hReaches.1.1
    · intro sub hMem _ hCollection hPasses
      rw [times_dispatch a hMem]
      cases hTakes : a.accepts sub with
      | false => exact Or.inr rfl
      | true =>
        left
        simp [Arrival.reaches, hCollection, hPasses, hTakes]

/-
  The loop keeps to the documents of its subscriptions
  exactly where every event is targeted.
-/
theorem document_level_iff (arrivals : List Arrival) :
    List.Forall₂ DocumentLevel arrivals (run arrivals) ↔
      ∀ a ∈ arrivals, Targeted a := by
  induction arrivals with
  | nil => simp [run]
  | cons a rest ih =>
    rw [run, List.forall₂_cons, ih,
      documentLevel_dispatch_iff, List.forall_mem_cons]

/- A subscription of a user to one product. -/
def watchesOne : Subscription where
  id := "s1"
  collection := "products"
  filterHash := 0
  documentId := some "d2"
  userId := some "alice"

/- Another product changes. -/
def otherChange : Arrival where
  event := changed "products" (.object [])
  content := ⟨[watchesOne], List.nodup_singleton _⟩
  accepts := fun _ => true

/- The subscription is sent the change of another product. -/
theorem other_product_sent :
    ¬ List.Forall₂ DocumentLevel [otherChange]
      (run [otherChange]) := by
  intro hRun
  rw [run, List.forall₂_cons, documentLevel_dispatch_iff]
    at hRun
  have hSame := hRun.1 watchesOne List.mem_cons_self "d2" rfl
    rfl rfl rfl
  exact absurd hSame (by decide)

end Orignabase.Realtime
