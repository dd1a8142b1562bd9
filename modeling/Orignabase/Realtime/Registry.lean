import Mathlib.Data.Set.Card
import Mathlib.Logic.Function.Basic
import Orignabase.Lib.Histories
import Orignabase.Lib.Table
import Orignabase.Realtime.Dispatcher

/-
  The registry of the subscriptions
  (`ob-realtime/src/registry.rs`), and when its three maps
  agree.

  The sets of ids are lists without repetitions.  The maps
  of subscriptions and connections are not listed: the order
  of their entries is left open.

  Key definitions include:
    * `Registry`
    * `Registry.subscribe`, `Registry.unsubscribe`,
      `Registry.disconnect`
    * `registrant`
    * `Represented`
    * `Harmless`

  Main results:
    * `represented_step_iff`
    * `always_represented_iff`
-/

--------
-- The Registry
--------

namespace Orignabase.Realtime

/- A subscription with the channel its events are sent on. -/
structure Registered extends Subscription where
  sender : String
  deriving DecidableEq, Repr

structure PresenceInfo where
  userId : String
  connectionId : String
  status : String
  lastSeen : String
  metadata : Value
  deriving Repr

/- What the dependency map finds subscriptions by. -/
abbrev DependencyKey := String × Nat

def Registered.key (sub : Registered) : DependencyKey :=
  (sub.collection, sub.filterHash)

structure Registry where
  subscriptions : String → Option Registered
  dependencyMap : DependencyKey → Option (List String)
  /- The ids of every connection, for its cleanup. -/
  connections : String → Option (List String)
  presence : Table PresenceInfo

namespace Registry

def new : Registry where
  subscriptions := fun _ => none
  dependencyMap := fun _ => none
  connections := fun _ => none
  presence := ⟨[]⟩

/- Register a new subscription. -/
def subscribe
    (r : Registry)
    (connectionId : String)
    (subscription : Registered) : Registry where
  dependencyMap :=
    Function.update r.dependencyMap subscription.key
      (some (((r.dependencyMap subscription.key).getD
        []).insert subscription.id))
  connections := Function.update r.connections connectionId
      (some (((r.connections connectionId).getD []).insert
        subscription.id))
  subscriptions :=
    Function.update r.subscriptions subscription.id
      (some subscription)
  presence := r.presence

/- The dependency map without one id at one key. -/
def forget
    (dependencyMap : DependencyKey → Option (List String))
    (key : DependencyKey)
    (subscriptionId : String) :
    DependencyKey → Option (List String) :=
  match dependencyMap key with
  | none => dependencyMap
  | some set =>
    let set := set.filter (· ≠ subscriptionId)
    Function.update dependencyMap key
      (if set.isEmpty then none else some set)

/- Unsubscribe a specific subscription. -/
def unsubscribe
    (r : Registry)
    (subscriptionId : String) : Registry :=
  match r.subscriptions subscriptionId with
  | none => r
  | some sub =>
    { r with
      subscriptions :=
        Function.update r.subscriptions subscriptionId none
      dependencyMap :=
        forget r.dependencyMap sub.key subscriptionId }

/- Remove all subscriptions for a connection. -/
def disconnect
    (r : Registry)
    (connectionId : String) : Registry :=
  match r.connections connectionId with
  | none => r
  | some subIds =>
    subIds.foldl unsubscribe
      { r with
        connections :=
          Function.update r.connections connectionId none }

/- The ids in the set of a key of the dependency map. -/
def dependents
    (r : Registry)
    (key : DependencyKey) : List String :=
  (r.dependencyMap key).getD []

/- The ids in the set of a connection. -/
def held
    (r : Registry)
    (connectionId : String) : List String :=
  (r.connections connectionId).getD []

/- All subscriptions affected by a change to a collection. -/
def findAffected
    (r : Registry)
    (collection : String)
    (filterHash : Nat) : List Registered :=
  (r.dependents (collection, filterHash)).filterMap
    r.subscriptions

/- Mark a user as online. -/
def setPresence
    (r : Registry)
    (userId connectionId now : String)
    (metadata : Value) : Registry :=
  { r with
    presence := r.presence.upsert userId
      { userId := userId
        connectionId := connectionId
        status := "online"
        lastSeen := now
        metadata := metadata } }

/- Mark the user of a connection as offline. -/
def removePresence
    (r : Registry)
    (connectionId : String) : Registry :=
  { r with
    presence := ⟨r.presence.rows.filter
      (fun row => row.2.connectionId ≠ connectionId)⟩ }

def heartbeat
    (r : Registry)
    (connectionId now : String) : Registry :=
  { r with
    presence := ⟨r.presence.rows.map (fun row =>
      if row.2.connectionId = connectionId then
        (row.1, { row.2 with lastSeen := now })
      else row)⟩ }

def getOnlineUsers (r : Registry) : List PresenceInfo :=
  r.presence.rows.map Prod.snd

/- The number of subscriptions of a connection. -/
def connectionSubscriptionCount
    (r : Registry)
    (connectionId : String) : Nat :=
  match r.connections connectionId with
  | none => 0
  | some subs => subs.length

--------
-- The Operations
--------

theorem connectionSubscriptionCount_eq
    (r : Registry)
    (connectionId : String) :
    r.connectionSubscriptionCount connectionId =
      (r.held connectionId).length := by
  unfold connectionSubscriptionCount held
  cases r.connections connectionId <;> rfl

@[simp] theorem new_dependents (key : DependencyKey) :
    new.dependents key = [] := rfl

@[simp] theorem new_held (connectionId : String) :
    new.held connectionId = [] := rfl

theorem subscribe_subscriptions
    (r : Registry)
    (connectionId : String)
    (sub : Registered)
    (id : String) :
    (r.subscribe connectionId sub).subscriptions id =
      if id = sub.id then some sub
      else r.subscriptions id :=
  Function.update_apply _ _ _ _

theorem mem_subscribe_dependents
    (r : Registry)
    (connectionId : String)
    (sub : Registered)
    (key : DependencyKey)
    (id : String) :
    id ∈ (r.subscribe connectionId sub).dependents key ↔
      (key = sub.key ∧ id = sub.id) ∨
        id ∈ r.dependents key := by
  unfold dependents subscribe
  simp only [Function.update_apply]
  by_cases hKey : key = sub.key
  · simp [hKey, List.mem_insert_iff]
  · simp [hKey]

theorem subscribe_held
    (r : Registry)
    (connectionId : String)
    (sub : Registered)
    (other : String) :
    (r.subscribe connectionId sub).held other =
      if other = connectionId then
        (r.held other).insert sub.id
      else r.held other := by
  unfold held subscribe
  simp only [Function.update_apply]
  by_cases hOther : other = connectionId
  · simp [hOther]
  · simp [hOther]

theorem mem_subscribe_held
    (r : Registry)
    (connectionId : String)
    (sub : Registered)
    (other id : String) :
    id ∈ (r.subscribe connectionId sub).held other ↔
      (other = connectionId ∧ id = sub.id) ∨
        id ∈ r.held other := by
  rw [subscribe_held]
  by_cases hOther : other = connectionId
  · simp [hOther, List.mem_insert_iff]
  · simp [hOther]

theorem unsubscribe_subscriptions
    (r : Registry)
    (subscriptionId id : String) :
    (r.unsubscribe subscriptionId).subscriptions id =
      if id = subscriptionId then none
      else r.subscriptions id := by
  unfold unsubscribe
  cases hStored : r.subscriptions subscriptionId with
  | none =>
    by_cases hId : id = subscriptionId
    · simp [hId, hStored]
    · simp [hId]
  | some sub => exact Function.update_apply _ _ _ _

@[simp] theorem unsubscribe_connections
    (r : Registry)
    (subscriptionId : String) :
    (r.unsubscribe subscriptionId).connections =
      r.connections := by
  unfold unsubscribe
  cases r.subscriptions subscriptionId <;> rfl

@[simp] theorem unsubscribe_held
    (r : Registry)
    (subscriptionId other : String) :
    (r.unsubscribe subscriptionId).held other =
      r.held other := by
  unfold held
  rw [unsubscribe_connections]

theorem mem_forget
    (dependencyMap : DependencyKey → Option (List String))
    (key other : DependencyKey)
    (subscriptionId id : String) :
    id ∈ (forget dependencyMap key subscriptionId
        other).getD [] ↔
      id ∈ (dependencyMap other).getD [] ∧
        ¬ (other = key ∧ id = subscriptionId) := by
  unfold forget
  cases hSet : dependencyMap key with
  | none =>
    constructor
    · intro hMem
      refine ⟨hMem, ?_⟩
      rintro ⟨rfl, -⟩
      change id ∈ (dependencyMap other).getD [] at hMem
      rw [hSet] at hMem
      cases hMem
    · intro hMem
      exact hMem.1
  | some set =>
    simp only [Function.update_apply]
    by_cases hOther : other = key
    · subst hOther
      simp only [if_true, hSet, Option.getD_some, true_and]
      split_ifs with hEmpty
      · have hNone :
            set.filter (· ≠ subscriptionId) = [] := by
          simpa using hEmpty
        have hMem :
            id ∈ set ∧ id ≠ subscriptionId ↔
              id ∈ ([] : List String) := by
          rw [← hNone, List.mem_filter, decide_eq_true_eq]
        exact hMem.symm
      · simp
    · simp [hOther]

theorem mem_unsubscribe_dependents
    (r : Registry)
    (subscriptionId : String)
    (key : DependencyKey)
    (id : String) :
    id ∈ (r.unsubscribe subscriptionId).dependents key ↔
      id ∈ r.dependents key ∧ ¬ (id = subscriptionId ∧
          ∃ sub, r.subscriptions id = some sub ∧
            key = sub.key) := by
  unfold unsubscribe
  cases hStored : r.subscriptions subscriptionId with
  | none =>
    constructor
    · intro hMem
      refine ⟨hMem, ?_⟩
      rintro ⟨rfl, sub, hSub, -⟩
      rw [hStored] at hSub
      cases hSub
    · intro hMem
      exact hMem.1
  | some sub =>
    refine (mem_forget r.dependencyMap sub.key key
      subscriptionId id).trans (and_congr_right ?_)
    intro _
    apply not_congr
    constructor
    · rintro ⟨hKey, rfl⟩
      exact ⟨rfl, sub, hStored, hKey⟩
    · rintro ⟨rfl, other, hOther, hKey⟩
      rw [hStored] at hOther
      cases hOther
      exact ⟨hKey, rfl⟩

end Registry

--------
-- Representation
--------

inductive RegistryOp
  | subscribe
      (connectionId : String)
      (subscription : Registered)
  | unsubscribe (subscriptionId : String)
  | disconnect (connectionId : String)
  deriving DecidableEq, Repr

namespace Registry

def apply (r : Registry) : RegistryOp → Registry
  | .subscribe connectionId subscription =>
    r.subscribe connectionId subscription
  | .unsubscribe subscriptionId =>
    r.unsubscribe subscriptionId
  | .disconnect connectionId => r.disconnect connectionId

/- The registry after operations on the empty one. -/
def after (ops : List RegistryOp) : Registry :=
  History.after apply new ops

/- The dependency map finds the stored subscriptions. -/
def Depends (r : Registry) : Prop :=
  ∀ (collection : String) (filterHash : Nat) (id : String),
    id ∈ r.dependents (collection, filterHash) ↔
      ∃ sub, r.subscriptions id = some sub ∧
        sub.collection = collection ∧
        sub.filterHash = filterHash

/- No empty set is kept in the dependency map. -/
def NoneEmpty (r : Registry) : Prop :=
  ∀ key, r.dependencyMap key ≠ some []

/- The sets of ids have no repetitions. -/
def Distinct (r : Registry) : Prop :=
  ∀ connectionId, (r.held connectionId).Nodup

end Registry

/- The connection that registered an id last. -/
def registers
    (last : String → Option String) :
    RegistryOp → String → Option String
  | .subscribe connectionId subscription =>
    Function.update last subscription.id
      (some connectionId)
  | _ => last

def registrant
    (ops : List RegistryOp) : String → Option String :=
  History.after registers (fun _ => none) ops

/-
  The maps of the registry after a history agree: with each
  other, and with the connections that registered the ids.
-/
structure Represented (ops : List RegistryOp) : Prop where
  depends : (Registry.after ops).Depends
  /- One connection has a stored id, its last registrant. -/
  registered :
    ∀ id sub,
      (Registry.after ops).subscriptions id = some sub →
        ∃ connectionId,
          registrant ops id = some connectionId ∧
          ∀ other, id ∈ (Registry.after ops).held other ↔
            other = connectionId
  live :
    ∀ connectionId id,
      id ∈ (Registry.after ops).held connectionId →
        ((Registry.after ops).subscriptions id).isSome
  counted :
    ∀ connectionId,
      (Registry.after ops).connectionSubscriptionCount
          connectionId =
        Set.ncard {id |
          ((Registry.after ops).subscriptions id).isSome ∧
            registrant ops id = some connectionId}
  noneEmpty : (Registry.after ops).NoneEmpty

/-
  The operations after which the maps still agree: an id that
  is stored is only registered again by its own connection,
  for the same collection and filter, and never unsubscribed.
-/
def Harmless (r : Registry) : RegistryOp → Prop
  | .subscribe connectionId subscription =>
    ∀ old, r.subscriptions subscription.id = some old →
      old.key = subscription.key ∧
        subscription.id ∈ r.held connectionId
  | .unsubscribe subscriptionId =>
    r.subscriptions subscriptionId = none
  | .disconnect _ => True

end Orignabase.Realtime

--------
-- Disconnecting
--------

namespace Orignabase.Realtime.Registry

variable {r : Registry}

theorem Depends.unsubscribe
    (hDepends : r.Depends)
    (subscriptionId : String) :
    (r.unsubscribe subscriptionId).Depends := by
  intro collection filterHash id
  rw [mem_unsubscribe_dependents, unsubscribe_subscriptions,
    hDepends collection filterHash id]
  by_cases hId : id = subscriptionId
  · rw [if_pos hId]
    constructor
    · rintro ⟨⟨sub, hSub, rfl, rfl⟩, hKept⟩
      exact absurd ⟨hId, sub, hSub, rfl⟩ hKept
    · rintro ⟨sub, hSub, -⟩
      cases hSub
  · rw [if_neg hId]
    constructor
    · exact fun hStored => hStored.1
    · exact fun hStored => ⟨hStored, fun h => hId h.1⟩

theorem NoneEmpty.unsubscribe
    (hNone : r.NoneEmpty)
    (subscriptionId : String) :
    (r.unsubscribe subscriptionId).NoneEmpty := by
  intro key
  unfold Registry.unsubscribe
  cases r.subscriptions subscriptionId with
  | none => exact hNone key
  | some sub =>
    show forget r.dependencyMap sub.key subscriptionId key ≠
      some []
    unfold forget
    cases r.dependencyMap sub.key with
    | none => exact hNone key
    | some set =>
      simp only [Function.update_apply]
      split_ifs with hKey hEmpty
      · exact Option.some_ne_none _ ∘ Eq.symm
      · intro hSome
        rw [Option.some.inj hSome] at hEmpty
        exact hEmpty rfl
      · exact hNone key

/- Unsubscribing several ids, one after the other. -/
theorem unsubscribes_subscriptions
    (ids : List String)
    (r : Registry)
    (id : String) :
    (ids.foldl Registry.unsubscribe r).subscriptions id =
      if id ∈ ids then none else r.subscriptions id := by
  induction ids generalizing r with
  | nil => simp
  | cons first rest ih =>
    rw [List.foldl_cons, ih, unsubscribe_subscriptions]
    by_cases hRest : id ∈ rest
    · simp [hRest]
    · simp [hRest]

@[simp] theorem unsubscribes_connections
    (ids : List String)
    (r : Registry) :
    (ids.foldl Registry.unsubscribe r).connections =
      r.connections := by
  induction ids generalizing r with
  | nil => rfl
  | cons first rest ih =>
    rw [List.foldl_cons, ih, unsubscribe_connections]

theorem held_of_connections_eq_none
    {connectionId : String}
    (hNone : r.connections connectionId = none) :
    r.held connectionId = [] := by
  unfold held
  rw [hNone]
  rfl

theorem disconnect_subscriptions
    (r : Registry)
    (connectionId id : String) :
    (r.disconnect connectionId).subscriptions id =
      if id ∈ r.held connectionId then none
      else r.subscriptions id := by
  unfold disconnect
  cases hSubs : r.connections connectionId with
  | none =>
    rw [held_of_connections_eq_none hSubs,
      if_neg List.not_mem_nil]
  | some subIds =>
    have hHeld : r.held connectionId = subIds := by
      unfold held
      rw [hSubs]
      rfl
    rw [hHeld]
    exact unsubscribes_subscriptions subIds _ id

theorem disconnect_connections
    (r : Registry)
    (connectionId other : String) :
    (r.disconnect connectionId).connections other =
      if other = connectionId then none
      else r.connections other := by
  unfold disconnect
  cases hSubs : r.connections connectionId with
  | none =>
    by_cases hOther : other = connectionId
    · simp [hOther, hSubs]
    · simp [hOther]
  | some subIds =>
    simp only [unsubscribes_connections,
      Function.update_apply]

theorem disconnect_held
    (r : Registry)
    (connectionId other : String) :
    (r.disconnect connectionId).held other =
      if other = connectionId then [] else r.held other := by
  unfold held
  rw [disconnect_connections]
  split_ifs <;> rfl

/- What unsubscribing keeps, disconnecting keeps as well. -/
theorem disconnect_keeps
    {P : Registry → Prop}
    (hUnsubscribe :
      ∀ r subscriptionId, P r →
        P (r.unsubscribe subscriptionId))
    (hConnections :
      ∀ r connections, P r →
        P { r with connections := connections })
    (hHolds : P r)
    (connectionId : String) :
    P (r.disconnect connectionId) := by
  unfold disconnect
  cases r.connections connectionId with
  | none => exact hHolds
  | some subIds =>
    exact History.always_of_step (hConnections r _ hHolds)
      hUnsubscribe subIds

theorem Depends.disconnect
    (hDepends : r.Depends)
    (connectionId : String) :
    (r.disconnect connectionId).Depends :=
  disconnect_keeps (P := Depends)
    (fun _ subscriptionId hKept =>
      hKept.unsubscribe subscriptionId)
    (fun _ _ hKept => hKept) hDepends connectionId

--------
-- What Always Holds
--------

theorem noneEmpty_apply
    (hNone : r.NoneEmpty)
    (op : RegistryOp) :
    (r.apply op).NoneEmpty := by
  cases op with
  | subscribe connectionId sub =>
    intro key hEmpty
    simp only [apply, subscribe, Function.update_apply]
      at hEmpty
    split_ifs at hEmpty with hKey
    · have hMem := List.mem_insert_self (a := sub.id)
        (l := (r.dependencyMap sub.key).getD [])
      rw [Option.some.inj hEmpty] at hMem
      cases hMem
    · exact hNone key hEmpty
  | unsubscribe subscriptionId =>
    exact hNone.unsubscribe subscriptionId
  | disconnect connectionId =>
    exact disconnect_keeps (P := NoneEmpty)
      (fun _ subscriptionId hKept =>
        hKept.unsubscribe subscriptionId)
      (fun _ _ hKept => hKept) hNone connectionId

theorem distinct_apply
    (hDistinct : r.Distinct)
    (op : RegistryOp) :
    (r.apply op).Distinct := by
  intro other
  cases op with
  | subscribe connectionId sub =>
    simp only [apply, subscribe_held]
    split_ifs
    · exact (hDistinct other).insert
    · exact hDistinct other
  | unsubscribe subscriptionId =>
    simp only [apply, unsubscribe_held]
    exact hDistinct other
  | disconnect connectionId =>
    simp only [apply, disconnect_held]
    split_ifs
    · exact List.nodup_nil
    · exact hDistinct other

theorem new_noneEmpty : new.NoneEmpty := by
  intro key hEmpty
  cases hEmpty

theorem new_distinct : new.Distinct :=
  fun _ => List.nodup_nil

theorem after_noneEmpty (ops : List RegistryOp) :
    (after ops).NoneEmpty :=
  History.always_of_step (P := NoneEmpty) new_noneEmpty
    (fun _ op hNone => noneEmpty_apply hNone op) ops

theorem after_distinct (ops : List RegistryOp) :
    (after ops).Distinct :=
  History.always_of_step (P := Distinct) new_distinct
    (fun _ op hDistinct => distinct_apply hDistinct op) ops

@[simp] theorem after_nil : after [] = new := rfl

@[simp] theorem after_concat
    (ops : List RegistryOp)
    (op : RegistryOp) :
    after (ops ++ [op]) = (after ops).apply op := by
  simp [after]

end Orignabase.Realtime.Registry

namespace Orignabase.Realtime

@[simp] theorem registrant_concat
    (ops : List RegistryOp)
    (op : RegistryOp) :
    registrant (ops ++ [op]) =
      registers (registrant ops) op := by
  simp [registrant]

--------
-- Agreement of the Maps
--------

open Registry

/- The sets of the connections count their subscriptions. -/
theorem count_of_held
    {ops : List RegistryOp}
    (hRegistered :
      ∀ id sub, (after ops).subscriptions id = some sub →
        ∃ connectionId,
          registrant ops id = some connectionId ∧
          ∀ other, id ∈ (after ops).held other ↔
            other = connectionId)
    (hLive :
      ∀ connectionId id,
        id ∈ (after ops).held connectionId →
          ((after ops).subscriptions id).isSome)
    (connectionId : String) :
    (after ops).connectionSubscriptionCount connectionId =
      Set.ncard {id |
        ((after ops).subscriptions id).isSome ∧
          registrant ops id = some connectionId} := by
  have hSet :
      {id | ((after ops).subscriptions id).isSome ∧
          registrant ops id = some connectionId} =
        (((after ops).held connectionId).toFinset :
          Set String) := by
    ext id
    rw [Finset.mem_coe, List.mem_toFinset]
    constructor
    · rintro ⟨hStored, hLast⟩
      rcases Option.isSome_iff_exists.mp hStored with
        ⟨sub, hSub⟩
      rcases hRegistered id sub hSub with
        ⟨last, hSome, hHeld⟩
      rw [hSome] at hLast
      exact (hHeld connectionId).mpr
        (Option.some.inj hLast).symm
    · intro hMem
      have hStored := hLive connectionId id hMem
      rcases Option.isSome_iff_exists.mp hStored with
        ⟨sub, hSub⟩
      rcases hRegistered id sub hSub with
        ⟨last, hSome, hHeld⟩
      rw [(hHeld connectionId).mp hMem]
      exact ⟨hStored, hSome⟩
  rw [hSet, Set.ncard_coe_finset,
    List.toFinset_card_of_nodup
      (after_distinct ops connectionId),
    connectionSubscriptionCount_eq]

theorem represented_nil : Represented [] where
  depends := by
    intro collection filterHash id
    constructor
    · intro hMem
      cases hMem
    · rintro ⟨sub, hSub, -⟩
      cases hSub
  registered := by
    intro id sub hSub
    cases hSub
  live := by
    intro connectionId id hMem
    simp at hMem
  counted := count_of_held (fun id sub hSub => nomatch hSub)
      (fun connectionId id hMem => by simp at hMem)
  noneEmpty := after_noneEmpty []

section

variable {ops : List RegistryOp}

theorem Represented.subscribe_iff
    (hRep : Represented ops)
    (connectionId : String)
    (sub : Registered) :
    Represented (ops ++ [.subscribe connectionId sub]) ↔
      Harmless (after ops) (.subscribe connectionId sub) := by
  have hAfter :
      after (ops ++ [.subscribe connectionId sub]) =
        (after ops).subscribe connectionId sub :=
    after_concat ops _
  have hLast (id : String) :
      registrant (ops ++ [.subscribe connectionId sub]) id =
        if id = sub.id then some connectionId
        else registrant ops id := by
    rw [registrant_concat]
    exact Function.update_apply _ _ _ _
  constructor
  · intro hNext old hOld
    have hStored :
        ((after ops).subscribe connectionId
          sub).subscriptions sub.id = some sub := by
      rw [subscribe_subscriptions, if_pos rfl]
    have hDepends := hNext.depends
    have hRegistered := hNext.registered
    rw [hAfter] at hDepends hRegistered
    constructor
    · -- The set of the old key still has the id.
      have hMem : sub.id ∈ (after ops).dependents old.key :=
        (hRep.depends old.collection old.filterHash
          sub.id).mpr ⟨old, hOld, rfl, rfl⟩
      rcases (hDepends old.collection old.filterHash
          sub.id).mp ((mem_subscribe_dependents _ _ _ _
            _).mpr (.inr hMem)) with
        ⟨found, hFound, hCollection, hHash⟩
      rw [hStored] at hFound
      cases hFound
      exact Prod.ext hCollection.symm hHash.symm
    · -- So does the set of the connection that had it.
      rcases hRep.registered sub.id old hOld with
        ⟨first, -, hFirst⟩
      rcases hRegistered sub.id sub hStored with
        ⟨last, hSome, hHeld⟩
      rw [hLast, if_pos rfl] at hSome
      have hBefore : sub.id ∈ (after ops).held first :=
        (hFirst first).mpr rfl
      have hSame : first = last := (hHeld first).mp
          ((mem_subscribe_held _ _ _ _ _).mpr
            (.inr hBefore))
      rw [Option.some.inj hSome, ← hSame]
      exact hBefore
  · intro hHarmless
    have hRegistered :
        ∀ id found, (after (ops ++ [.subscribe connectionId
            sub])).subscriptions id = some found →
          ∃ last,
            registrant (ops ++ [.subscribe connectionId
              sub]) id = some last ∧
            ∀ other,
              id ∈ (after (ops ++ [.subscribe connectionId
                sub])).held other ↔ other = last := by
      intro id found hFound
      simp only [hAfter, subscribe_subscriptions] at hFound
      simp only [hAfter, hLast, mem_subscribe_held]
      by_cases hId : id = sub.id
      · subst hId
        refine ⟨connectionId, if_pos rfl, ?_⟩
        intro other
        constructor
        · rintro (⟨hOther, -⟩ | hMem)
          · exact hOther
          · rcases Option.isSome_iff_exists.mp
              (hRep.live other sub.id hMem) with ⟨old, hOld⟩
            rcases hRep.registered sub.id old hOld with
              ⟨first, -, hFirst⟩
            rw [(hFirst other).mp hMem,
              (hFirst connectionId).mp
                (hHarmless old hOld).2]
        · intro hOther
          exact .inl ⟨hOther, rfl⟩
      · rw [if_neg hId] at hFound
        simp only [hId, and_false, false_or, if_false]
        exact hRep.registered id found hFound
    have hLive :
        ∀ other id,
          id ∈ (after (ops ++ [.subscribe connectionId
            sub])).held other →
          ((after (ops ++ [.subscribe connectionId
            sub])).subscriptions id).isSome := by
      intro other id hMem
      simp only [hAfter, mem_subscribe_held] at hMem
      rw [hAfter, subscribe_subscriptions]
      by_cases hId : id = sub.id
      · rw [if_pos hId]
        rfl
      · rw [if_neg hId]
        rcases hMem with ⟨-, hSame⟩ | hMem
        · exact absurd hSame hId
        · exact hRep.live other id hMem
    refine ⟨?_, hRegistered, hLive,
      count_of_held hRegistered hLive, after_noneEmpty _⟩
    intro collection filterHash id
    rw [hAfter, mem_subscribe_dependents,
      subscribe_subscriptions,
      hRep.depends collection filterHash id]
    by_cases hId : id = sub.id
    · subst hId
      rw [if_pos rfl]
      constructor
      · rintro (⟨hKey, -⟩ | ⟨old, hOld, rfl, rfl⟩)
        · cases hKey
          exact ⟨sub, rfl, rfl, rfl⟩
        · have hKey := (hHarmless old hOld).1
          exact ⟨sub, rfl, (congrArg Prod.fst hKey).symm,
            (congrArg Prod.snd hKey).symm⟩
      · rintro ⟨found, hFound, rfl, rfl⟩
        cases hFound
        exact .inl ⟨rfl, rfl⟩
    · rw [if_neg hId]
      simp only [hId, and_false, false_or]

theorem Represented.unsubscribe_iff
    (hRep : Represented ops)
    (subscriptionId : String) :
    Represented (ops ++ [.unsubscribe subscriptionId]) ↔
      Harmless (after ops) (.unsubscribe subscriptionId) := by
  have hAfter :
      after (ops ++ [.unsubscribe subscriptionId]) =
        (after ops).unsubscribe subscriptionId :=
    after_concat ops _
  have hLast :
      registrant (ops ++ [.unsubscribe subscriptionId]) =
        registrant ops :=
    registrant_concat ops _
  constructor
  · intro hNext
    cases hOld :
        (after ops).subscriptions subscriptionId with
    | none => exact hOld
    | some old =>
      -- Its connection keeps the id in its set.
      rcases hRep.registered subscriptionId old hOld with
        ⟨first, -, hFirst⟩
      have hLive := hNext.live first subscriptionId
      rw [hAfter, unsubscribe_held,
        unsubscribe_subscriptions, if_pos rfl] at hLive
      exact absurd (hLive ((hFirst first).mpr rfl))
        Bool.false_ne_true
  · intro hNone
    have hSame :
        (after ops).unsubscribe subscriptionId =
          after ops := by
      unfold Registry.unsubscribe
      rw [hNone]
    rw [hSame] at hAfter
    rcases hRep with
      ⟨hDepends, hRegistered, hLive, hCounted, hNoneEmpty⟩
    constructor
    all_goals simpa only [hAfter, hLast]

theorem Represented.disconnect
    (hRep : Represented ops)
    (connectionId : String) :
    Represented (ops ++ [.disconnect connectionId]) := by
  have hAfter :
      after (ops ++ [.disconnect connectionId]) =
        (after ops).disconnect connectionId :=
    after_concat ops _
  have hLast :
      registrant (ops ++ [.disconnect connectionId]) =
        registrant ops :=
    registrant_concat ops _
  have hRegistered :
      ∀ id sub, (after (ops ++ [.disconnect
          connectionId])).subscriptions id = some sub →
        ∃ last,
          registrant (ops ++ [.disconnect connectionId]) id =
            some last ∧
          ∀ other, id ∈ (after (ops ++ [.disconnect
              connectionId])).held other ↔
                other = last := by
    intro id sub hSub
    rw [hAfter, disconnect_subscriptions] at hSub
    rw [hAfter, hLast]
    split_ifs at hSub with hHeld
    rcases hRep.registered id sub hSub with
      ⟨last, hSome, hOnly⟩
    refine ⟨last, hSome, ?_⟩
    intro other
    rw [disconnect_held]
    by_cases hOther : other = connectionId
    · subst hOther
      simp only [if_true, List.not_mem_nil, false_iff]
      exact fun hSame => hHeld ((hOnly other).mpr hSame)
    · rw [if_neg hOther]
      exact hOnly other
  have hLive :
      ∀ other id, id ∈ (after (ops ++ [.disconnect
          connectionId])).held other →
        ((after (ops ++ [.disconnect
          connectionId])).subscriptions id).isSome := by
    intro other id hMem
    rw [hAfter, disconnect_held] at hMem
    split_ifs at hMem with hOther
    · cases hMem
    · have hStored := hRep.live other id hMem
      rcases Option.isSome_iff_exists.mp hStored with
        ⟨sub, hSub⟩
      rcases hRep.registered id sub hSub with
        ⟨last, -, hOnly⟩
      have hApart :
          id ∉ (after ops).held connectionId := by
        intro hHeld
        apply hOther
        rw [(hOnly other).mp hMem,
          (hOnly connectionId).mp hHeld]
      rw [hAfter, disconnect_subscriptions, if_neg hApart]
      exact hStored
  refine ⟨?_, hRegistered, hLive,
    count_of_held hRegistered hLive, after_noneEmpty _⟩
  rw [hAfter]
  exact hRep.depends.disconnect connectionId

/- A change finds all subscriptions with its filter. -/
theorem mem_findAffected_iff
    (hRep : Represented ops)
    (collection : String)
    (filterHash : Nat)
    (sub : Registered) :
    sub ∈ (after ops).findAffected collection filterHash ↔
      (∃ id, (after ops).subscriptions id = some sub) ∧
        sub.collection = collection ∧
        sub.filterHash = filterHash := by
  unfold findAffected
  rw [List.mem_filterMap]
  constructor
  · rintro ⟨id, hMem, hSub⟩
    rcases (hRep.depends collection filterHash id).mp hMem
      with ⟨found, hFound, hKey⟩
    rw [hSub] at hFound
    cases hFound
    exact ⟨⟨id, hSub⟩, hKey⟩
  · rintro ⟨⟨id, hSub⟩, hKey⟩
    exact ⟨id, (hRep.depends collection filterHash id).mpr
      ⟨sub, hSub, hKey⟩, hSub⟩

/- The maps still agree after exactly the harmless steps. -/
theorem represented_step_iff
    (hRep : Represented ops)
    (op : RegistryOp) :
    Represented (ops ++ [op]) ↔
      Harmless (after ops) op := by
  cases op with
  | subscribe connectionId sub =>
    exact hRep.subscribe_iff connectionId sub
  | unsubscribe subscriptionId =>
    exact hRep.unsubscribe_iff subscriptionId
  | disconnect connectionId =>
    exact ⟨fun _ => trivial,
      fun _ => hRep.disconnect connectionId⟩

end

/-
  The maps agree after every operation of a history exactly
  when all its operations are harmless.
-/
theorem always_represented_iff (ops : List RegistryOp) :
    (∀ past, past <+: ops → Represented past) ↔
      ∀ past op, past ++ [op] <+: ops →
        Harmless (after past) op :=
  History.always_iff represented_nil
    (fun _ op hRep => represented_step_iff hRep op) ops

def watchProducts : Registered where
  id := "s1"
  collection := "products"
  filterHash := 0
  documentId := none
  userId := some "alice"
  sender := "c1"

def unsubscribed : List RegistryOp := [
  .subscribe "c1" watchProducts,
  .unsubscribe "s1"]

/-
  A connection that unsubscribes its only subscription has
  none, and still counts one.
-/
theorem unsubscribed_still_counted :
    (after unsubscribed).subscriptions "s1" = none ∧
    "s1" ∈ (after unsubscribed).held "c1" ∧
    (after unsubscribed).connectionSubscriptionCount "c1" =
      1 ∧
    ¬ ∀ ops : List RegistryOp, Represented ops := by
  have hGone :
      (after unsubscribed).subscriptions "s1" = none := rfl
  have hHeld : "s1" ∈ (after unsubscribed).held "c1" := by
    decide
  refine ⟨hGone, hHeld, by decide, ?_⟩
  intro hAll
  have hLive := (hAll unsubscribed).live "c1" "s1" hHeld
  rw [hGone] at hLive
  cases hLive

end Orignabase.Realtime
