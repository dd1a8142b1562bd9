import Orignabase.Realtime.Registry

/-
  What a client can do over its connection
  (`ob-realtime/src/websocket.rs`), and when it leaves the
  other connections alone.

  A text comes with its size and with what it is parsed as,
  and the channel of a connection goes by its id.  A channel
  is taken to have room for the events sent on it.

  Key definitions include:
    * `ClientMessage`, `ServerMessage`
    * `handleMessage`, `handleFrame`
    * `Action`
    * `Isolated`
    * `Spares`

  Main results:
    * `others_unchanged_iff`
    * `isolated_iff`
-/

--------
-- Messages
--------

namespace Orignabase.Realtime

def maxSubsPerConnection : Nat := 100

/- 64KB -/
def maxWsMessageSize : Nat := 65536

inductive ClientMessage
  | subscribe
      (id collection : String)
      (filterHash : Nat)
      (documentId : Option String)
  | unsubscribe (id : String)
  | presence (metadata : Value)
  | ping
  deriving Repr

inductive ServerMessage
  | subscribed (id : String)
  | unsubscribed (id : String)
  | change (subscriptionId : String) (event : ChangeEvent)
  | presenceUpdate (online : List PresenceInfo)
  | pong
  | error (message : String)
  deriving Repr

/- What a socket receives from a client. -/
inductive Frame
  | text
      (size : Nat)
      (parsed : Except String ClientMessage)
  | other

/- A connection with the user it was opened for. -/
structure Connection where
  id : String
  userId : String
  deriving DecidableEq, Repr

--------
-- The Receive Loop
--------

/- The registry after a message, and the reply. -/
def handleMessage
    (r : Registry)
    (conn : Connection)
    (now : String) :
    ClientMessage → Registry × ServerMessage
  | .subscribe id collection filterHash documentId =>
    if ¬ collection ∈ allowedCollections then
      (r, .error ("Subscription to '" ++ collection ++
        "' is not allowed"))
    else if
      maxSubsPerConnection ≤
        r.connectionSubscriptionCount conn.id
    then
      (r, .error ("Max subscriptions (" ++
        toString maxSubsPerConnection ++ ") reached"))
    else
      (r.subscribe conn.id
          { id := id
            collection := collection
            filterHash := filterHash
            documentId := documentId
            userId := some conn.userId
            sender := conn.id },
        .subscribed id)
  | .unsubscribe id => (r.unsubscribe id, .unsubscribed id)
  | .presence metadata =>
    if 4096 < metadata.toText.utf8ByteSize then
      (r, .error "Presence metadata too large (max 4KB)")
    else
      let r :=
        r.setPresence conn.userId conn.id now metadata
      (r, .presenceUpdate r.getOnlineUsers)
  | .ping => (r.heartbeat conn.id now, .pong)

def handleFrame
    (r : Registry)
    (conn : Connection)
    (now : String) :
    Frame → Registry × Option ServerMessage
  | .text size parsed =>
    if maxWsMessageSize < size then
      (r, some (.error "Message too large"))
    else
      match parsed with
      | .error e => (r, some (.error e))
      | .ok message =>
        let (r, reply) := handleMessage r conn now message
        (r, some reply)
  | .other => (r, none)

/- The cleanup when the receive loop has ended. -/
def handleClose
    (r : Registry)
    (conn : Connection) : Registry :=
  (r.removePresence conn.id).disconnect conn.id

/- What happens to the registry of a server. -/
inductive Action
  | frame
      (conn : Connection)
      (now : String)
      (input : Frame)
  | close (conn : Connection)
  | dispatch (event : ChangeEvent)

namespace Action

/- The connection that acts, if any does. -/
def connectionId : Action → Option String
  | .frame conn _ _ => some conn.id
  | .close conn => some conn.id
  | .dispatch _ => none

def step (r : Registry) : Action → Registry
  | .frame conn now input =>
    (handleFrame r conn now input).1
  | .close conn => handleClose r conn
  | .dispatch _ => r

end Action

namespace Registry

/- The registry after a run of actions on the empty one. -/
def served (run : List Action) : Registry :=
  History.after Action.step new run

/- The subscriptions that a connection registered. -/
def registeredBy
    (r : Registry)
    (connectionId id : String) : Option Registered :=
  (r.subscriptions id).filter
    (fun sub => sub.sender = connectionId)

/- The ids of the messages sent on a channel for an event. -/
def sent
    (r : Registry)
    (event : ChangeEvent)
    (connectionId : String) : Set String :=
  {subscriptionId |
    ∃ key sub, r.registeredBy connectionId key = some sub ∧
      sub.toSubscription ∈
        delivered event [sub.toSubscription] ∧
      sub.id = subscriptionId}

end Registry

/- An event that is dispatched, as a connection sees it. -/
def sight
    (connectionId : String)
    (r : Registry) :
    Action → Option (ChangeEvent × Set String)
  | .dispatch event => some (event, r.sent event connectionId)
  | _ => none

/- The events that a connection receives in a run. -/
def received
    (connectionId : String)
    (run : List Action) : List (ChangeEvent × Set String) :=
  History.observed Action.step (sight connectionId)
    Registry.new run

/- The actions of a run that are not of a connection. -/
def without
    (connectionId : String)
    (run : List Action) : List Action :=
  run.filter
    (fun action => action.connectionId ≠ some connectionId)

/-
  A connection leaves the subscriptions of the others as they
  are, and the others receive what they would without it.
-/
structure Isolated
    (connectionId : String)
    (run : List Action) : Prop where
  unchanged :
    ∀ past action, past ++ [action] <+: run →
      action.connectionId = some connectionId →
      ∀ other, other ≠ connectionId →
        (Registry.served (past ++ [action])).registeredBy
            other =
          (Registry.served past).registeredBy other
  independent :
    ∀ other, other ≠ connectionId →
      received other run =
        received other (without connectionId run)

/- An id under which another connection's is stored. -/
def Registry.Foreign
    (r : Registry)
    (connectionId id : String) : Prop :=
  ∃ sub, r.subscriptions id = some sub ∧
    sub.sender ≠ connectionId

/-
  The actions that use no id of another connection.  Nothing
  is asked of the messages that are refused.
-/
def Spares (r : Registry) : Action → Prop
  | .frame conn _
        (.text size (.ok (.subscribe id collection _ _))) =>
      size ≤ maxWsMessageSize →
        collection ∈ allowedCollections →
        r.connectionSubscriptionCount conn.id <
          maxSubsPerConnection →
        ¬ r.Foreign conn.id id
  | .frame conn _ (.text size (.ok (.unsubscribe id))) =>
    size ≤ maxWsMessageSize → ¬ r.Foreign conn.id id
  | .close conn =>
    ∀ id ∈ r.held conn.id, ¬ r.Foreign conn.id id
  | _ => True

--------
-- What Is Sent
--------

--------
-- What an Action Does to the Registry
--------

open Registry

/- The operation of the registry that an action performs. -/
def Action.operation (r : Registry) :
    Action → Option RegistryOp
  | .frame conn _ (.text size (.ok (.subscribe id
        collection filterHash documentId))) =>
      if size ≤ maxWsMessageSize ∧
          collection ∈ allowedCollections ∧
          r.connectionSubscriptionCount conn.id <
            maxSubsPerConnection
      then
        some (.subscribe conn.id
          { id := id
            collection := collection
            filterHash := filterHash
            documentId := documentId
            userId := some conn.userId
            sender := conn.id })
      else none
  | .frame _ _ (.text size (.ok (.unsubscribe id))) =>
    if size ≤ maxWsMessageSize then some (.unsubscribe id)
    else none
  | .close conn => some (.disconnect conn.id)
  | _ => none

def Registry.perform (r : Registry) :
    Option RegistryOp → Registry
  | none => r
  | some op => r.apply op

/- Registries that differ only in who is online. -/
def Registry.SameSubs (r s : Registry) : Prop :=
  r.subscriptions = s.subscriptions ∧
    r.connections = s.connections

theorem handleMessage_performs
    (r : Registry)
    (conn : Connection)
    (now : String)
    {size : Nat}
    (hSize : size ≤ maxWsMessageSize)
    (message : ClientMessage) :
    (handleMessage r conn now message).1.SameSubs
      (r.perform ((Action.frame conn now
        (.text size (.ok message))).operation r)) := by
  cases message with
  | subscribe id collection filterHash documentId =>
    simp only [handleMessage, Action.operation, hSize,
      true_and]
    by_cases hAllowed : collection ∈ allowedCollections
    · by_cases hRoom :
          r.connectionSubscriptionCount conn.id <
            maxSubsPerConnection
      · simp only [hAllowed, hRoom, Nat.not_le.mpr hRoom,
          not_true_eq_false, if_false, and_self, if_true]
        exact ⟨rfl, rfl⟩
      · simp only [hAllowed, hRoom, Nat.not_lt.mp hRoom,
          not_true_eq_false, if_false, and_false, if_true]
        exact ⟨rfl, rfl⟩
    · simp only [hAllowed, not_false_eq_true, if_true,
        false_and, if_false]
      exact ⟨rfl, rfl⟩
  | unsubscribe id =>
    simp only [Action.operation, hSize, if_true]
    exact ⟨rfl, rfl⟩
  | presence metadata =>
    simp only [handleMessage]
    split_ifs
    · exact ⟨rfl, rfl⟩
    · exact ⟨rfl, rfl⟩
  | ping => exact ⟨rfl, rfl⟩

/- A message that is too large does nothing. -/
theorem operation_of_too_large
    (r : Registry)
    (conn : Connection)
    (now : String)
    {size : Nat}
    (hSize : ¬ size ≤ maxWsMessageSize)
    (parsed : Except String ClientMessage) :
    (Action.frame conn now (.text size parsed)).operation r =
      none := by
  rcases parsed with e | (_ | _ | _ | _)
  all_goals simp [Action.operation, hSize]

/-
  An action does one operation of the registry at most, and
  otherwise only changes who is online.
-/
theorem step_performs
    (r : Registry)
    (action : Action) :
    (action.step r).SameSubs
      (r.perform (action.operation r)) := by
  cases action with
  | dispatch event => exact ⟨rfl, rfl⟩
  | close conn =>
    have hHeld :
        (r.removePresence conn.id).held conn.id =
          r.held conn.id := rfl
    constructor
    · funext id
      show ((r.removePresence conn.id).disconnect
        conn.id).subscriptions id =
          (r.disconnect conn.id).subscriptions id
      rw [disconnect_subscriptions,
        disconnect_subscriptions, hHeld]
      rfl
    · funext other
      show ((r.removePresence conn.id).disconnect
        conn.id).connections other =
          (r.disconnect conn.id).connections other
      rw [disconnect_connections, disconnect_connections]
      rfl
  | frame conn now input =>
    cases input with
    | other => exact ⟨rfl, rfl⟩
    | text size parsed =>
      by_cases hSize : size ≤ maxWsMessageSize
      · cases parsed with
        | error e =>
          simp only [Action.step, handleFrame]
          split_ifs
          · exact ⟨rfl, rfl⟩
          · exact ⟨rfl, rfl⟩
        | ok message =>
          simp only [Action.step, handleFrame,
            Nat.not_lt.mpr hSize, if_false]
          exact handleMessage_performs r conn now hSize
            message
      · rw [operation_of_too_large r conn now hSize]
        simp only [Action.step, handleFrame,
          Nat.not_le.mp hSize, if_true]
        exact ⟨rfl, rfl⟩

variable {r : Registry} {action : Action}
variable {connectionId : String} {s : Registry}

/- The connection for which an operation is performed. -/
theorem operation_acts
    {op : RegistryOp}
    (hOp : action.operation r = some op) :
    (∃ id, op = .unsubscribe id) ∨
      (∃ connectionId sub,
        action.connectionId = some connectionId ∧
        sub.sender = connectionId ∧
        op = .subscribe connectionId sub) ∨
      ∃ connectionId,
        action.connectionId = some connectionId ∧
        op = .disconnect connectionId := by
  unfold Action.operation at hOp
  split at hOp
  · split_ifs at hOp
    cases hOp
    exact .inr (.inl ⟨_, _, rfl, rfl, rfl⟩)
  · split_ifs at hOp
    cases hOp
    exact .inl ⟨_, rfl⟩
  · cases hOp
    exact .inr (.inr ⟨_, rfl, rfl⟩)
  · cases hOp

--------
-- Leaving Others Alone
--------

/- The operations of a connection on no id of another. -/
def RegistryOp.Spares
    (r : Registry)
    (connectionId : String) : RegistryOp → Prop
  | .subscribe _ sub => ¬ r.Foreign connectionId sub.id
  | .unsubscribe id => ¬ r.Foreign connectionId id
  | .disconnect other =>
    ∀ id ∈ r.held other, ¬ r.Foreign connectionId id

theorem spares_iff
    (r : Registry)
    (hActs : action.connectionId = some connectionId) :
    Spares r action ↔ ∀ op ∈ action.operation r,
        op.Spares r connectionId := by
  unfold Spares Action.operation
  split
  · cases hActs
    constructor
    · intro hSpares op hOp
      split_ifs at hOp with hAccepted
      · cases hOp
        exact hSpares hAccepted.1 hAccepted.2.1
          hAccepted.2.2
      · cases hOp
    · intro hSpares hSize hAllowed hRoom
      rw [if_pos ⟨hSize, hAllowed, hRoom⟩] at hSpares
      exact hSpares _ rfl
  · cases hActs
    constructor
    · intro hSpares op hOp
      split_ifs at hOp with hSize
      · cases hOp
        exact hSpares hSize
      · cases hOp
    · intro hSpares hSize
      rw [if_pos hSize] at hSpares
      exact hSpares _ rfl
  · cases hActs
    constructor
    · intro hSpares op hOp
      cases hOp
      exact hSpares
    · intro hSpares
      exact hSpares _ rfl
  · exact ⟨fun _ op hOp => (nomatch hOp), fun _ => trivial⟩

/-
  Storing a subscription of the acting connection, or none,
  under some ids changes nothing for the others exactly when
  none of theirs was there.
-/
theorem overwrite_iff
    (ids : Set String)
    (stored : Option Registered)
    (hOwn : ∀ sub ∈ stored, sub.sender = connectionId)
    (hIn : ∀ id ∈ ids, s.subscriptions id = stored)
    (hOut : ∀ id, id ∉ ids →
      s.subscriptions id = r.subscriptions id) :
    (∀ other, other ≠ connectionId →
      s.registeredBy other = r.registeredBy other) ↔
      ∀ id ∈ ids, ¬ r.Foreign connectionId id := by
  have hNone (other : String) (hOther : other ≠ connectionId) :
      stored.filter (fun sub => sub.sender = other) =
        none := by
    rw [Option.filter_eq_none_iff]
    intro sub hSub hSender
    apply hOther
    rw [← hOwn sub hSub, of_decide_eq_true hSender]
  constructor
  · intro hSame id hId
    rintro ⟨sub, hSub, hSender⟩
    have hGone := congrFun (hSame sub.sender hSender) id
    unfold registeredBy at hGone
    rw [hIn id hId, hNone sub.sender hSender, hSub,
      Option.filter_some, if_pos (decide_eq_true rfl)]
      at hGone
    cases hGone
  · intro hSpares other hOther
    funext id
    unfold registeredBy
    by_cases hId : id ∈ ids
    · rw [hIn id hId, hNone other hOther]
      symm
      rw [Option.filter_eq_none_iff]
      intro sub hSub hSender
      apply hSpares id hId
      refine ⟨sub, hSub, ?_⟩
      rw [of_decide_eq_true hSender]
      exact hOther
    · rw [hOut id hId]

theorem apply_unchanged_iff
    (r : Registry)
    {op : RegistryOp}
    (hActs :
      (∃ id, op = .unsubscribe id) ∨
        (∃ sub, sub.sender = connectionId ∧
          op = .subscribe connectionId sub) ∨
        op = .disconnect connectionId) :
    (∀ other, other ≠ connectionId →
      (r.apply op).registeredBy other =
        r.registeredBy other) ↔
      op.Spares r connectionId := by
  rcases hActs with ⟨sid, rfl⟩ | ⟨sub, hSender, rfl⟩ | rfl
  · refine (overwrite_iff {sid} none
      (fun sub hSub => nomatch hSub)
      ?_ ?_).trans ?_
    · rintro id rfl
      exact (unsubscribe_subscriptions r id id).trans
        (if_pos rfl)
    · intro id hId
      exact (unsubscribe_subscriptions r sid id).trans
        (if_neg hId)
    · simp [RegistryOp.Spares]
  · refine (overwrite_iff {sub.id}
      (some sub) ?_ ?_ ?_).trans ?_
    · intro stored hStored
      cases hStored
      exact hSender
    · rintro id rfl
      exact (subscribe_subscriptions r _ sub sub.id).trans
        (if_pos rfl)
    · intro id hId
      exact (subscribe_subscriptions r _ sub id).trans
        (if_neg hId)
    · simp [RegistryOp.Spares]
  · refine overwrite_iff {id | id ∈ r.held connectionId}
      none (fun sub hSub => nomatch hSub) ?_ ?_
    · intro id hId
      exact (disconnect_subscriptions r connectionId
        id).trans (if_pos hId)
    · intro id hId
      exact (disconnect_subscriptions r connectionId
        id).trans (if_neg hId)

theorem registeredBy_congr
    (hSame : r.SameSubs s) :
    r.registeredBy = s.registeredBy := by
  unfold registeredBy
  rw [hSame.1]

/-
  An action changes no subscription of another connection
  exactly when it spares them.
-/
theorem others_unchanged_iff
    (r : Registry)
    (hActs : action.connectionId = some connectionId) :
    (∀ other, other ≠ connectionId →
      (action.step r).registeredBy other =
        r.registeredBy other) ↔
      Spares r action := by
  rw [spares_iff r hActs,
    registeredBy_congr (step_performs r action)]
  cases hOp : action.operation r with
  | none =>
    exact ⟨fun _ op hMem => (nomatch hMem),
      fun _ _ _ => rfl⟩
  | some op =>
    have hConn :
        (∃ id, op = .unsubscribe id) ∨
          (∃ sub, sub.sender = connectionId ∧
            op = .subscribe connectionId sub) ∨
          op = .disconnect connectionId := by
      rcases operation_acts hOp with
        hUnsub | ⟨_, sub, hConn, hSender, rfl⟩ |
          ⟨_, hConn, rfl⟩
      · exact .inl hUnsub
      · rw [hActs] at hConn
        cases hConn
        exact .inr (.inl ⟨sub, hSender, rfl⟩)
      · rw [hActs] at hConn
        cases hConn
        exact .inr (.inr rfl)
    refine (apply_unchanged_iff r hConn).trans ?_
    constructor
    · intro hSpares _ hSame
      cases hSame
      exact hSpares
    · exact fun hSpares => hSpares op rfl

--------
-- Isolation
--------

/- Registries that all but one connection cannot tell apart. -/
def Alike (connectionId : String) (r s : Registry) : Prop :=
  ∀ other, other ≠ connectionId →
    r.registeredBy other = s.registeredBy other ∧
      r.connections other = s.connections other

theorem held_congr
    (hSame :
      r.connections connectionId =
        s.connections connectionId) :
    r.held connectionId = s.held connectionId := by
  unfold held
  rw [hSame]

section

variable {r s : Registry} {connectionId : String}
variable {action : Action}

theorem Alike.operation_eq
    (hAlike : Alike connectionId r s)
    (hOther : action.connectionId ≠ some connectionId) :
    action.operation r = action.operation s := by
  unfold Action.operation
  split
  · rename_i conn _ _ _ _ _ _
    have hNe : conn.id ≠ connectionId :=
      fun hSame => hOther (congrArg some hSame)
    rw [connectionSubscriptionCount_eq,
      connectionSubscriptionCount_eq,
      held_congr (hAlike conn.id hNe).2]
  all_goals rfl

/- The connections of the others are not changed. -/
theorem step_connections
    (hActs : action.connectionId = some connectionId)
    {other : String}
    (hOther : other ≠ connectionId) :
    (action.step r).connections other =
      r.connections other := by
  rw [(step_performs r action).2]
  cases hOp : action.operation r with
  | none => rfl
  | some op =>
    rcases operation_acts hOp with
      ⟨id, rfl⟩ | ⟨_, sub, hConn, -, rfl⟩ | ⟨_, hConn, rfl⟩
    · exact congrFun (unsubscribe_connections r id) other
    · rw [hActs] at hConn
      cases hConn
      exact Function.update_of_ne hOther _ _
    · rw [hActs] at hConn
      cases hConn
      exact (disconnect_connections r connectionId
        other).trans (if_neg hOther)

/- The other connections cannot see what is spared. -/
theorem Alike.dropped
    {u : Registry}
    (hAlike : Alike connectionId r u)
    (hActs : action.connectionId = some connectionId)
    (hSpares : Spares r action) :
    Alike connectionId (action.step r) u := by
  intro other hOther
  have hBefore := hAlike other hOther
  rw [(others_unchanged_iff r hActs).mpr hSpares other hOther,
    step_connections hActs hOther]
  exact hBefore

/- What the others do is the same in both registries. -/
theorem Alike.kept
    (hAlike : Alike connectionId r s)
    (hOther : action.connectionId ≠ some connectionId) :
    Alike connectionId (action.step r) (action.step s) := by
  intro other hNe
  rw [registeredBy_congr (step_performs r action),
    registeredBy_congr (step_performs s action),
    (step_performs r action).2, (step_performs s action).2,
    hAlike.operation_eq hOther]
  rcases hAlike other hNe with ⟨hSubs, hConns⟩
  have hStored (id : String) := congrFun hSubs id
  unfold registeredBy at hStored
  cases hOp : action.operation s with
  | none => exact ⟨hSubs, hConns⟩
  | some op =>
    rcases operation_acts hOp with
      ⟨sid, rfl⟩ | ⟨acting, sub, hConn, -, rfl⟩ |
        ⟨acting, hConn, rfl⟩
    · constructor
      · funext id
        unfold registeredBy
        simp only [perform, apply,
          unsubscribe_subscriptions]
        split_ifs
        · rfl
        · exact hStored id
      · simpa only [perform, apply, unsubscribe_connections]
    · constructor
      · funext id
        unfold registeredBy
        simp only [perform, apply, subscribe_subscriptions]
        split_ifs
        · rfl
        · exact hStored id
      · have hActing : acting ≠ connectionId :=
          fun hSame => hOther (hSame ▸ hConn)
        simp only [perform, apply, subscribe,
          Function.update_apply, hConns,
          (hAlike acting hActing).2]
    · have hActing : acting ≠ connectionId :=
        fun hSame => hOther (hSame ▸ hConn)
      constructor
      · funext id
        unfold registeredBy
        simp only [perform, apply, disconnect_subscriptions,
          held_congr (hAlike acting hActing).2]
        split_ifs
        · rfl
        · exact hStored id
      · simp only [perform, apply, disconnect_connections,
          hConns]

/- The others are sent the same. -/
theorem Alike.sight_eq
    (hAlike : Alike connectionId r s)
    {other : String}
    (hOther : other ≠ connectionId) :
    sight other r action = sight other s action := by
  cases action with
  | dispatch event =>
    unfold sight sent
    rw [(hAlike other hOther).1]
  | frame conn now input => rfl
  | close conn => rfl

theorem sight_of_acts
    (hActs : action.connectionId = some connectionId)
    (other : String) :
    sight other r action = none := by
  cases action with
  | dispatch event => cases hActs
  | frame conn now input => rfl
  | close conn => rfl

end

/-
  A connection is isolated from the others in a run exactly
  when all its actions spare what the others registered.
-/
theorem isolated_iff
    (connectionId : String)
    (run : List Action) :
    Isolated connectionId run ↔
      ∀ past action, past ++ [action] <+: run →
        action.connectionId = some connectionId →
        Spares (served past) action := by
  have hServed (past : List Action) (action : Action) :
      served (past ++ [action]) =
        action.step (served past) := by
    simp [served]
  constructor
  · intro hIsolated past action hPast hActs
    rw [← others_unchanged_iff (served past) hActs, ← hServed]
    exact hIsolated.unchanged past action hPast hActs
  · intro hSpares
    constructor
    · intro past action hPast hActs
      rw [hServed, others_unchanged_iff (served past) hActs]
      exact hSpares past action hPast hActs
    · intro other hOther
      unfold received without
      refine History.observed_filter
        (Alike connectionId) ?_ ?_ ?_ ?_ ?_
      · intro r s action hKept hAlike
        exact hAlike.kept (of_decide_eq_true hKept)
      · intro r s action _ hAlike
        exact hAlike.sight_eq hOther
      · intro r action hDropped
        exact sight_of_acts
          (not_not.mp (of_decide_eq_false hDropped)) other
      · exact fun _ _ => ⟨rfl, rfl⟩
      · intro past action hPast hDropped u hAlike
        have hActs :=
          not_not.mp (of_decide_eq_false hDropped)
        exact hAlike.dropped hActs
          (hSpares past action hPast hActs)

/- Two users with a connection each. -/
def socketOfAlice : Connection := ⟨"c1", "alice"⟩

def socketOfMallory : Connection := ⟨"c2", "mallory"⟩

def productChanged : ChangeEvent :=
  changed "products" (.object [])

/- Alice subscribes and Mallory unsubscribes her id. -/
def takenOver : List Action := [
  .frame socketOfAlice "t1"
    (.text 60 (.ok (.subscribe "s1" "products" 0 none))),
  .frame socketOfMallory "t2"
    (.text 35 (.ok (.unsubscribe "s1"))),
  .dispatch productChanged]

def productsOfAlice : Registered where
  id := "s1"
  collection := "products"
  filterHash := 0
  documentId := none
  userId := some "alice"
  sender := "c1"

/-
  Another connection ends the subscription of Alice, who no
  longer receives the change she would have received.
-/
theorem subscription_taken_over :
    (∃ seen, received "c1" takenOver = [seen] ∧
      "s1" ∉ seen.2) ∧
    (∃ seen, received "c1" (without "c2" takenOver) =
      [seen] ∧ "s1" ∈ seen.2) ∧
    ¬ Isolated "c2" takenOver := by
  have hWith :
      received "c1" takenOver = [(productChanged,
          ((new.subscribe "c1" productsOfAlice).unsubscribe
            "s1").sent productChanged "c1")] := rfl
  have hWithout :
      received "c1" (without "c2" takenOver) =
        [(productChanged,
          (new.subscribe "c1" productsOfAlice).sent
            productChanged "c1")] := rfl
  have hLost :
      "s1" ∉ ((new.subscribe "c1"
        productsOfAlice).unsubscribe "s1").sent
          productChanged "c1" := by
    rintro ⟨key, sub, hSub, -⟩
    unfold registeredBy at hSub
    rw [unsubscribe_subscriptions, subscribe_subscriptions]
      at hSub
    by_cases hKey : key = "s1"
    · rw [if_pos hKey] at hSub
      cases hSub
    · rw [if_neg hKey] at hSub
      change Option.filter _
        (if key = "s1" then _ else none) = _ at hSub
      rw [if_neg hKey] at hSub
      cases hSub
  have hSent :
      "s1" ∈ (new.subscribe "c1" productsOfAlice).sent
        productChanged "c1" :=
    ⟨"s1", productsOfAlice, rfl, by decide, rfl⟩
  refine ⟨⟨_, hWith, hLost⟩, ⟨_, hWithout, hSent⟩, ?_⟩
  intro hIsolated
  have hSame := hIsolated.independent "c1" (by decide)
  rw [hWith, hWithout] at hSame
  have hIds := (Prod.mk.inj (List.cons.inj hSame).1).2
  apply hLost
  rw [hIds]
  exact hSent

end Orignabase.Realtime
