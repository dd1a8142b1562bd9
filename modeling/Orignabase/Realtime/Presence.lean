import Mathlib.Data.Set.Card
import Orignabase.Realtime.Websocket

/-
  Who is online (`ob-realtime/src/registry.rs`,
  `ob-realtime/src/websocket.rs`).

  A connection is known by the id it is given when it is
  opened, and ids are never given twice.  A text that a
  client sends is an announcement if it is a `Presence`
  message that is not refused for its size.

  Key definitions include:
    * `Registry.isOnline`, `Registry.onlineCount`
    * `Server`, `Turn`
    * `Announced`
    * `Faithful`
    * `KeepsPresence`

  Main results:
    * `Sound.step`
    * `faithful_step_iff`
    * `presence_follows_iff`
-/

--------
-- Presence in the Registry
--------

namespace Orignabase.Realtime

namespace Registry

/- Check if a specific user is online. -/
def isOnline (r : Registry) (userId : String) : Bool :=
  (r.presence.get userId).isSome

/- Get total online user count. -/
def onlineCount (r : Registry) : Nat :=
  r.presence.rows.length

/- The connection that the presence of a user is held for. -/
def holder (r : Registry) (userId : String) : Option String :=
  (r.presence.get userId).map (·.connectionId)

theorem isOnline_eq (r : Registry) (userId : String) :
    r.isOnline userId = (r.holder userId).isSome := by
  unfold isOnline holder
  rw [Option.isSome_map]

@[simp] theorem unsubscribe_presence
    (r : Registry)
    (subscriptionId : String) :
    (r.unsubscribe subscriptionId).presence =
      r.presence := by
  unfold unsubscribe
  cases r.subscriptions subscriptionId <;> rfl

theorem unsubscribeAll_presence
    (ids : List String)
    (r : Registry) :
    (ids.foldl unsubscribe r).presence = r.presence := by
  induction ids generalizing r with
  | nil => rfl
  | cons id ids ih =>
    rw [List.foldl_cons, ih, unsubscribe_presence]

@[simp] theorem disconnect_presence
    (r : Registry)
    (connectionId : String) :
    (r.disconnect connectionId).presence = r.presence := by
  unfold disconnect
  cases r.connections connectionId with
  | none => rfl
  | some ids => exact unsubscribeAll_presence ids _

theorem holder_setPresence
    (r : Registry)
    (userId connectionId now : String)
    (metadata : Value)
    (other : String) :
    (r.setPresence userId connectionId now
        metadata).holder other =
      if other = userId then some connectionId
      else r.holder other := by
  unfold holder setPresence
  rw [Table.get_upsert]
  split_ifs <;> rfl

theorem holder_removePresence
    {r : Registry}
    (hKeys : r.presence.keys.Nodup)
    (connectionId userId : String) :
    (r.removePresence connectionId).holder userId =
      (r.holder userId).filter (· ≠ connectionId) := by
  unfold holder removePresence
  rw [Table.get_filter hKeys, Option.filter_map]
  rfl

theorem heartbeat_row
    (connectionId now : String)
    (row : String × PresenceInfo) :
    (if row.2.connectionId = connectionId then
        (row.1, { row.2 with lastSeen := now })
      else row) =
      (row.1,
        if row.2.connectionId = connectionId then
          { row.2 with lastSeen := now }
        else row.2) := by
  split_ifs <;> rfl

theorem holder_heartbeat
    (r : Registry)
    (connectionId now userId : String) :
    (r.heartbeat connectionId now).holder userId =
      r.holder userId := by
  unfold holder heartbeat
  simp only [heartbeat_row]
  rw [Table.get_map r.presence (fun info =>
    if info.connectionId = connectionId then
      { info with lastSeen := now }
    else info)]
  cases r.presence.get userId with
  | none => rfl
  | some info =>
    by_cases hSame : info.connectionId = connectionId <;>
      simp [hSame]

theorem keys_heartbeat
    (r : Registry)
    (connectionId now : String) :
    (r.heartbeat connectionId now).presence.keys =
      r.presence.keys := by
  unfold heartbeat Table.keys
  simp only [heartbeat_row, List.map_map]
  rfl

end Registry

--------
-- Connections of a Server
--------

def maxConnectionsPerUser : Nat := 5

/-
  An open connection, and whether it has announced itself,
  which no code reads.
-/
structure Socket where
  conn : Connection
  announced : Bool
  deriving DecidableEq

structure Server where
  registry : Registry
  connectionCounts : String → Nat
  sockets : List Socket
  /- How many connections were asked for. -/
  opened : Nat

/- What clients do, by the id of their connection. -/
inductive Turn
  | connect (user : String)
  | frame (id now : String) (input : Frame)
  | close (id : String)

/- The message is an announcement of an accepted size. -/
def ClientMessage.announces : ClientMessage → Bool
  | .presence metadata => metadata.toText.utf8ByteSize ≤ 4096
  | _ => false

def Frame.announces : Frame → Bool
  | .text size (.ok message) =>
    size ≤ maxWsMessageSize && message.announces
  | _ => false

namespace Server

def new : Server where
  registry := Registry.new
  connectionCounts := fun _ => 0
  sockets := []
  opened := 0

/- The ids that are given to connections, one by one. -/
variable (uuid : ℕ ↪ String)

/- A user with too many connections gets no other. -/
def connect (s : Server) (user : String) : Server :=
  if maxConnectionsPerUser ≤ s.connectionCounts user then
    { s with opened := s.opened + 1 }
  else
    { s with
      connectionCounts :=
        Function.update s.connectionCounts user
          (s.connectionCounts user + 1)
      sockets := ⟨⟨uuid s.opened, user⟩, false⟩ :: s.sockets
      opened := s.opened + 1 }

/- The connection has announced itself, if the text does. -/
def mark
    (conn : Connection)
    (input : Frame)
    (socket : Socket) : Socket :=
  if socket.conn.id = conn.id then
    { socket with
      announced := socket.announced || input.announces }
  else socket

def receive
    (s : Server)
    (conn : Connection)
    (now : String)
    (input : Frame) : Server :=
  { s with
    registry := (handleFrame s.registry conn now input).1
    sockets := s.sockets.map (mark conn input) }

def close (s : Server) (conn : Connection) : Server :=
  { s with
    registry := handleClose s.registry conn
    connectionCounts :=
      Function.update s.connectionCounts conn.userId
        (s.connectionCounts conn.userId - 1)
    sockets :=
      s.sockets.filter (fun other => other.conn.id ≠ conn.id) }

/- The open connection of an id. -/
def socket (s : Server) (id : String) : Option Socket :=
  s.sockets.find? (fun socket => socket.conn.id = id)

/- Only open connections send texts and are closed. -/
def step (s : Server) : Turn → Server
  | .connect user => s.connect uuid user
  | .frame id now input =>
    match s.socket id with
    | none => s
    | some socket => s.receive socket.conn now input
  | .close id =>
    match s.socket id with
    | none => s
    | some socket => s.close socket.conn

/- The server after a run of turns. -/
def after (turns : List Turn) : Server :=
  History.after (step uuid) new turns

end Server

/- The user has an open connection that announced itself. -/
def Announced (s : Server) (user : String) : Prop :=
  ∃ socket ∈ s.sockets,
    socket.conn.userId = user ∧ socket.announced = true

/- Presence follows the open connections. -/
structure Faithful (s : Server) : Prop where
  online :
    ∀ user, s.registry.isOnline user = true ↔
      Announced s user
  count :
    s.registry.onlineCount =
      {user | Announced s user}.ncard

/-
  The connection that is closed does not hold the presence
  of its user, or no other connection of the user has
  announced itself.
-/
def KeepsPresence (s : Server) : Turn → Prop
  | .close id =>
    ∀ user, s.registry.holder user = some id →
      ∀ socket ∈ s.sockets, socket.conn.id ≠ id →
        socket.conn.userId = user → socket.announced = false
  | _ => True

--------
-- What Always Holds
--------

/- The ids of the connections are apart, and the presence of
   a user is held for one of her own. -/
structure Sound (uuid : ℕ ↪ String) (s : Server) : Prop where
  keys : s.registry.presence.keys.Nodup
  ids : (s.sockets.map (·.conn.id)).Nodup
  given :
    ∀ socket ∈ s.sockets, ∃ n < s.opened,
      socket.conn.id = uuid n
  held :
    ∀ user id, s.registry.holder user = some id →
      ∃ socket ∈ s.sockets, socket.conn.id = id ∧
        socket.conn.userId = user ∧ socket.announced = true

namespace Server

theorem mem_of_socket
    {s : Server}
    {id : String}
    {socket : Socket}
    (hSocket : s.socket id = some socket) :
    socket ∈ s.sockets ∧ socket.conn.id = id := by
  refine ⟨List.mem_of_find?_eq_some hSocket, ?_⟩
  simpa using List.find?_some hSocket

theorem socket_eq_none
    {s : Server}
    {id : String}
    (hNone : s.socket id = none) :
    ∀ socket ∈ s.sockets, socket.conn.id ≠ id := by
  intro socket hMem
  simpa using List.find?_eq_none.mp hNone socket hMem

end Server

/- Whoever has an entry has announced herself. -/
theorem Sound.announced
    {uuid : ℕ ↪ String}
    {s : Server}
    (hSound : Sound uuid s)
    {user : String}
    (hOnline : s.registry.isOnline user = true) :
    Announced s user := by
  rw [Registry.isOnline_eq] at hOnline
  rcases Option.isSome_iff_exists.mp hOnline with ⟨id, hId⟩
  rcases hSound.held user id hId with
    ⟨socket, hMem, _, hUser, hAnnounced⟩
  exact ⟨socket, hMem, hUser, hAnnounced⟩

/- The number of users follows from who is online. -/
theorem Sound.faithful_iff
    {uuid : ℕ ↪ String}
    {s : Server}
    (hSound : Sound uuid s) :
    Faithful s ↔ ∀ user, Announced s user →
        s.registry.isOnline user = true := by
  constructor
  · intro hFaithful user hAnnounced
    exact (hFaithful.online user).mpr hAnnounced
  · intro hAll
    have hOnline (user : String) :
        s.registry.isOnline user = true ↔
          Announced s user :=
      ⟨hSound.announced, hAll user⟩
    refine ⟨hOnline, ?_⟩
    have hUsers :
        {user | Announced s user} =
          (s.registry.presence.keys.toFinset : Set String) := by
      ext user
      rw [List.coe_toFinset, Set.mem_ofPred_eq,
        Set.mem_ofPred_eq, ← hOnline]
      constructor
      · intro hSome
        rcases Option.isSome_iff_exists.mp hSome with
          ⟨info, hInfo⟩
        exact List.mem_map_of_mem (Table.mem_of_get hInfo)
      · intro hMem
        rcases List.mem_map.mp hMem with ⟨row, hRow, rfl⟩
        exact Table.isSome_get_of_mem hRow
    rw [hUsers, Set.ncard_coe_finset,
      List.toFinset_card_of_nodup hSound.keys]
    unfold Registry.onlineCount Table.keys
    rw [List.length_map]

--------
-- What a Turn Does to Presence
--------

variable {r : Registry}

/- Only an announcement changes who holds a presence. -/
theorem handleMessage_presence
    (hKeys : r.presence.keys.Nodup)
    (conn : Connection)
    (now : String)
    (message : ClientMessage) :
    (handleMessage r conn now message).1.presence.keys.Nodup ∧
      ∀ user,
        (handleMessage r conn now message).1.holder user =
          if message.announces = true ∧ user = conn.userId then
            some conn.id
          else r.holder user := by
  cases message with
  | subscribe id collection filterHash documentId =>
    rw [handleMessage]
    simp only [ClientMessage.announces, Bool.false_eq_true,
      false_and, if_false]
    split_ifs with hCollection hLimit
    · exact ⟨hKeys, fun _ => rfl⟩
    · exact ⟨hKeys, fun _ => rfl⟩
    · exact ⟨hKeys, fun _ => rfl⟩
  | unsubscribe id =>
    have hSame := r.unsubscribe_presence id
    simp only [handleMessage, Registry.holder, hSame,
      ClientMessage.announces, Bool.false_eq_true,
      false_and, if_false]
    exact ⟨hKeys, fun _ => trivial⟩
  | presence metadata =>
    rw [handleMessage]
    by_cases hLarge : 4096 < metadata.toText.utf8ByteSize
    · have hNot :
          (ClientMessage.presence metadata).announces =
            false :=
        decide_eq_false (Nat.not_le.mpr hLarge)
      rw [if_pos hLarge, hNot]
      simp only [Bool.false_eq_true, false_and, if_false]
      exact ⟨hKeys, fun _ => trivial⟩
    · have hAnnounces :
          (ClientMessage.presence metadata).announces =
            true :=
        decide_eq_true (Nat.le_of_not_lt hLarge)
      rw [if_neg hLarge, hAnnounces]
      simp only [true_and]
      exact ⟨Table.nodup_upsert hKeys _ _,
        r.holder_setPresence _ _ _ _⟩
  | ping =>
    simp only [handleMessage, ClientMessage.announces,
      Bool.false_eq_true, false_and, if_false]
    rw [Registry.keys_heartbeat]
    exact ⟨hKeys, r.holder_heartbeat _ _⟩

theorem handleFrame_presence
    (hKeys : r.presence.keys.Nodup)
    (conn : Connection)
    (now : String)
    (input : Frame) :
    (handleFrame r conn now input).1.presence.keys.Nodup ∧
      ∀ user,
        (handleFrame r conn now input).1.holder user =
          if input.announces = true ∧ user = conn.userId then
            some conn.id
          else r.holder user := by
  have hSame :
      r.presence.keys.Nodup ∧ ∀ user, r.holder user =
          if false = true ∧ user = conn.userId then
            some conn.id
          else r.holder user := by
    refine ⟨hKeys, fun user => ?_⟩
    simp
  cases input with
  | other => exact hSame
  | text size parsed =>
    unfold handleFrame
    cases parsed with
    | error e =>
      dsimp only
      split_ifs with hSize
      · exact hSame
      · exact hSame
    | ok message =>
      dsimp only
      have hMessage :=
        handleMessage_presence hKeys conn now message
      by_cases hSize : maxWsMessageSize < size
      · have hNot :
            (Frame.text size (.ok message)).announces =
              false := by
          simp [Frame.announces, hSize]
        rw [if_pos hSize, hNot]
        exact hSame
      · have hAnnounces :
            (Frame.text size (.ok message)).announces =
              message.announces := by
          simp [Frame.announces, Nat.le_of_not_lt hSize]
        rw [if_neg hSize, hAnnounces]
        exact hMessage

theorem handleClose_presence
    (hKeys : r.presence.keys.Nodup)
    (conn : Connection) :
    (handleClose r conn).presence.keys.Nodup ∧
      ∀ user,
        (handleClose r conn).holder user =
          (r.holder user).filter (· ≠ conn.id) := by
  have hSame :
      (handleClose r conn).presence =
        (r.removePresence conn.id).presence :=
    Registry.disconnect_presence _ _
  constructor
  · rw [hSame]
    exact (List.filter_sublist.map _).nodup hKeys
  · intro user
    rw [← Registry.holder_removePresence hKeys]
    unfold Registry.holder
    rw [hSame]

--------
-- What a Turn Does to the Connections
--------

variable {uuid : ℕ ↪ String} {s : Server}

namespace Server

@[simp] theorem mark_conn
    (conn : Connection)
    (input : Frame)
    (socket : Socket) :
    (mark conn input socket).conn = socket.conn := by
  unfold mark
  split_ifs <;> rfl

/- A text announces its own connection only. -/
theorem mark_announced_iff
    (conn : Connection)
    (input : Frame)
    (socket : Socket) :
    (mark conn input socket).announced = true ↔
      socket.announced = true ∨
        socket.conn.id = conn.id ∧ input.announces = true := by
  unfold mark
  split_ifs with hSame
  · simp [hSame]
  · simp [hSame]

end Server

open Server

theorem Sound.new : Sound uuid Server.new where
  keys := List.nodup_nil
  ids := List.nodup_nil
  given := by
    intro socket hMem
    cases hMem
  held := by
    intro user id hHeld
    cases hHeld

theorem Sound.connect
    (hSound : Sound uuid s)
    (user : String) :
    Sound uuid (s.connect uuid user) := by
  unfold Server.connect
  split_ifs with hLimit
  · refine ⟨hSound.keys, hSound.ids, ?_, hSound.held⟩
    intro socket hMem
    rcases hSound.given socket hMem with ⟨n, hn, hId⟩
    exact ⟨n, Nat.lt_succ_of_lt hn, hId⟩
  · constructor
    · exact hSound.keys
    · rw [List.map_cons, List.nodup_cons]
      refine ⟨?_, hSound.ids⟩
      intro hMem
      rcases List.mem_map.mp hMem with ⟨socket, hMem, hSame⟩
      rcases hSound.given socket hMem with ⟨n, hn, hId⟩
      have hNumber : n = s.opened :=
        uuid.injective (hId.symm.trans hSame)
      omega
    · intro socket hMem
      rcases List.mem_cons.mp hMem with rfl | hMem
      · exact ⟨s.opened, Nat.lt_succ_self _, rfl⟩
      · rcases hSound.given socket hMem with ⟨n, hn, hId⟩
        exact ⟨n, Nat.lt_succ_of_lt hn, hId⟩
    · intro other id hHeld
      rcases hSound.held other id hHeld with
        ⟨socket, hMem, hRest⟩
      exact ⟨socket, List.mem_cons_of_mem _ hMem, hRest⟩

theorem Sound.receive
    (hSound : Sound uuid s)
    {socket : Socket}
    (hOpen : socket ∈ s.sockets)
    (now : String)
    (input : Frame) :
    Sound uuid (s.receive socket.conn now input) := by
  rcases handleFrame_presence hSound.keys socket.conn now
    input with ⟨hKeys, hHolder⟩
  constructor
  · exact hKeys
  · unfold Server.receive
    rw [List.map_map]
    have hIds :
        (fun socket => socket.conn.id) ∘
            mark socket.conn input =
          fun socket => socket.conn.id := by
      funext other
      exact congrArg Connection.id (mark_conn _ _ _)
    rw [hIds]
    exact hSound.ids
  · intro marked hMarked
    rcases List.mem_map.mp hMarked with ⟨other, hMem, rfl⟩
    rw [mark_conn]
    exact hSound.given other hMem
  · intro user id hHeld
    change (handleFrame s.registry socket.conn now
      input).1.holder user = some id at hHeld
    rw [hHolder] at hHeld
    split_ifs at hHeld with hAnnounces
    · cases hHeld
      refine ⟨_, List.mem_map_of_mem hOpen, ?_, ?_, ?_⟩
      · rw [mark_conn]
      · rw [mark_conn]
        exact hAnnounces.2.symm
      · rw [mark_announced_iff]
        exact Or.inr ⟨rfl, hAnnounces.1⟩
    · rcases hSound.held user id hHeld with
        ⟨other, hMem, hId, hUser, hOther⟩
      refine ⟨_, List.mem_map_of_mem hMem, ?_, ?_, ?_⟩
      · rw [mark_conn]
        exact hId
      · rw [mark_conn]
        exact hUser
      · rw [mark_announced_iff]
        exact Or.inl hOther

theorem Sound.close
    (hSound : Sound uuid s)
    (conn : Connection) :
    Sound uuid (s.close conn) := by
  rcases handleClose_presence hSound.keys conn with
    ⟨hKeys, hHolder⟩
  constructor
  · exact hKeys
  · exact (List.filter_sublist.map _).nodup hSound.ids
  · intro socket hMem
    exact hSound.given socket (List.mem_filter.mp hMem).1
  · intro user id hHeld
    change (handleClose s.registry conn).holder user =
      some id at hHeld
    rw [hHolder, Option.filter_eq_some_iff] at hHeld
    rcases hSound.held user id hHeld.1 with
      ⟨socket, hMem, hId, hRest⟩
    refine ⟨socket, List.mem_filter.mpr ⟨hMem, ?_⟩, hId,
      hRest⟩
    rw [hId]
    exact hHeld.2

theorem Sound.step
    (hSound : Sound uuid s)
    (turn : Turn) :
    Sound uuid (s.step uuid turn) := by
  cases turn with
  | connect user => exact hSound.connect user
  | frame id now input =>
    rw [Server.step]
    cases hSocket : s.socket id with
    | none => exact hSound
    | some socket =>
      exact hSound.receive (mem_of_socket hSocket).1 now
        input
  | close id =>
    rw [Server.step]
    cases hSocket : s.socket id with
    | none => exact hSound
    | some socket => exact hSound.close socket.conn

/- The invariant holds after every run. -/
theorem sound_after (turns : List Turn) :
    Sound uuid (Server.after uuid turns) :=
  History.always_of_step Sound.new
    (fun _ turn hSound => Sound.step hSound turn) turns

--------
-- Presence and Open Connections
--------

variable {uuid : ℕ ↪ String} {s : Server}

/- Everyone who announced herself is online. -/
def Shown (s : Server) : Prop :=
  ∀ user, Announced s user → s.registry.isOnline user = true

theorem shown_connect
    (hShown : Shown s)
    (user : String) :
    Shown (s.connect uuid user) := by
  unfold Server.connect
  split_ifs with hLimit
  · exact hShown
  · rintro other ⟨socket, hMem, hUser, hAnnounced⟩
    rcases List.mem_cons.mp hMem with rfl | hMem
    · cases hAnnounced
    · exact hShown other ⟨socket, hMem, hUser, hAnnounced⟩

theorem shown_receive
    (hSound : Sound uuid s)
    (hShown : Shown s)
    {socket : Socket}
    (hOpen : socket ∈ s.sockets)
    (now : String)
    (input : Frame) :
    Shown (s.receive socket.conn now input) := by
  rcases handleFrame_presence hSound.keys socket.conn now
    input with ⟨-, hHolder⟩
  rintro user ⟨marked, hMarked, hUser, hAnnounced⟩
  change (handleFrame s.registry socket.conn now
    input).1.isOnline user = true
  rw [Registry.isOnline_eq, hHolder]
  split_ifs with hAnnounces
  · rfl
  · rcases List.mem_map.mp hMarked with ⟨other, hMem, rfl⟩
    rw [mark_conn] at hUser
    rw [mark_announced_iff] at hAnnounced
    rw [← Registry.isOnline_eq]
    rcases hAnnounced with hBefore | ⟨hSame, hNow⟩
    · exact hShown user ⟨other, hMem, hUser, hBefore⟩
    · -- The connection that sent the text is the user's own.
      have hOther : other = socket :=
        List.inj_on_of_nodup_map hSound.ids hMem hOpen hSame
      rw [hOther] at hUser
      exact absurd ⟨hNow, hUser.symm⟩ hAnnounces

theorem shown_close_iff
    (hSound : Sound uuid s)
    (hShown : Shown s)
    (conn : Connection) :
    Shown (s.close conn) ↔
      KeepsPresence s (.close conn.id) := by
  rcases handleClose_presence hSound.keys conn with
    ⟨-, hHolder⟩
  have hOnline (user : String) :
      (s.close conn).registry.isOnline user =
        ((s.registry.holder user).filter
          (· ≠ conn.id)).isSome := by
    rw [Registry.isOnline_eq]
    exact congrArg Option.isSome (hHolder user)
  constructor
  · intro hShown' user hHeld socket hMem hOther hUser
    by_contra hAnnounced
    rw [Bool.not_eq_false] at hAnnounced
    have hStill := hShown' user ⟨socket, List.mem_filter.mpr
        ⟨hMem, decide_eq_true hOther⟩, hUser, hAnnounced⟩
    rw [hOnline, hHeld] at hStill
    simp at hStill
  · rintro hKeeps user ⟨socket, hMem, hUser, hAnnounced⟩
    rcases List.mem_filter.mp hMem with ⟨hMem, hOther⟩
    have hBefore :=
      hShown user ⟨socket, hMem, hUser, hAnnounced⟩
    rw [Registry.isOnline_eq] at hBefore
    rcases Option.isSome_iff_exists.mp hBefore with ⟨id, hId⟩
    rw [hOnline, hId]
    by_cases hHolds : id = conn.id
    · subst hHolds
      have hNot := hKeeps user hId socket hMem
        (of_decide_eq_true hOther) hUser
      rw [hAnnounced] at hNot
      cases hNot
    · simp [hHolds]

theorem keepsPresence_of_none
    {id : String}
    (hSound : Sound uuid s)
    (hNone : s.socket id = none) :
    KeepsPresence s (.close id) := by
  intro user hHeld
  rcases hSound.held user id hHeld with
    ⟨socket, hMem, hId, _⟩
  exact absurd hId (socket_eq_none hNone socket hMem)

/- One turn keeps presence exactly under the condition. -/
theorem faithful_step_iff
    (hSound : Sound uuid s)
    (hFaithful : Faithful s)
    (turn : Turn) :
    Faithful (s.step uuid turn) ↔ KeepsPresence s turn := by
  have hShown : Shown s := hSound.faithful_iff.mp hFaithful
  rw [(hSound.step turn).faithful_iff]
  change Shown (s.step uuid turn) ↔ _
  cases turn with
  | connect user =>
    exact iff_of_true (shown_connect hShown user) trivial
  | frame id now input =>
    rw [Server.step]
    cases hSocket : s.socket id with
    | none => exact iff_of_true hShown trivial
    | some socket =>
      exact iff_of_true (shown_receive hSound hShown
          (mem_of_socket hSocket).1 now input) trivial
  | close id =>
    rw [Server.step]
    cases hSocket : s.socket id with
    | none =>
      exact iff_of_true hShown
        (keepsPresence_of_none hSound hSocket)
    | some socket =>
      have hId := (mem_of_socket hSocket).2
      rw [← hId]
      exact shown_close_iff hSound hShown socket.conn

theorem faithful_new (uuid : ℕ ↪ String) :
    Faithful Server.new := by
  have hSound : Sound uuid Server.new := Sound.new
  rw [hSound.faithful_iff]
  rintro user ⟨socket, hMem, _⟩
  cases hMem

/-
  Presence follows the open connections throughout a run
  exactly where every connection that is closed keeps it.
-/
theorem presence_follows_iff
    (uuid : ℕ ↪ String)
    (turns : List Turn) :
    (∀ past, past <+: turns →
      Faithful (Server.after uuid past)) ↔
      History.Throughout (Server.step uuid) Server.new
        KeepsPresence turns := by
  refine History.always_iff (faithful_new uuid) ?_ turns
  intro past turn hFaithful
  unfold Server.after
  rw [History.after_append]
  exact faithful_step_iff (sound_after past) hFaithful turn

/- Ids of different lengths. -/
def strokes : ℕ ↪ String where
  toFun n := String.ofList (List.replicate n '0')
  inj' := by
    intro m n hSame
    have hLength := congrArg List.length
      (String.ofList_injective hSame)
    simpa using hLength

def announcement : Frame :=
  .text 2 (.ok (.presence .null))

/- Alice announces two devices and closes the second one. -/
def twoDevices : List Turn :=
  [.connect "alice", .connect "alice",
    .frame "" "t1" announcement,
    .frame "0" "t2" announcement,
    .close "0"]

/- Alice counts as offline while her first device is open. -/
theorem alice_offline :
    (Server.after strokes twoDevices).registry.isOnline
        "alice" = false ∧
      Announced (Server.after strokes twoDevices) "alice" ∧
      ¬ Faithful (Server.after strokes twoDevices) := by
  have hOffline :
      (Server.after strokes twoDevices).registry.isOnline
        "alice" = false := by
    decide
  have hAnnounced :
      Announced (Server.after strokes twoDevices) "alice" := by
    exact ⟨⟨⟨"", "alice"⟩, true⟩, by decide, rfl, rfl⟩
  refine ⟨hOffline, hAnnounced, ?_⟩
  intro hFaithful
  have hOnline := (hFaithful.online "alice").mpr hAnnounced
  rw [hOffline] at hOnline
  cases hOnline

end Orignabase.Realtime
