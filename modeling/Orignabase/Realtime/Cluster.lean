import Orignabase.Cron.Lock
import Orignabase.Lib.Histories
import Orignabase.Realtime.Dispatcher

/-
  The bridges of several nodes over one stream of messages
  (`ob-realtime/src/cluster.rs`), and when every event
  reaches every other node.

  The stream server is taken to deliver each message once to
  each durable consumer, to one of the bridges that read it;
  consumers read the stream from its start.  A payload is the
  value that its bytes are parsed as.  The dispatchers are
  taken to run, and times of events are left out.

  Key definitions include:
    * `ClusterEvent`
    * `consumerName`
    * `Cluster`, `ClusterAction`
    * `FannedOut`
    * `ToldApart`

  Main results:
    * `ofPayload_toPayload`
    * `forwarded_of_delivered`
    * `fanned_out_iff`
-/

--------
-- Messages
--------

namespace Orignabase.Realtime

/- The envelope of an event between nodes. -/
structure ClusterEvent where
  action : String
  collection : String
  documentId : String
  data : Value
  beforeData : Option Value
  afterData : Option Value
  /- The node it is from, to avoid an echo. -/
  originNode : String
  deriving Repr

def ClusterEvent.fromChange
    (event : ChangeEvent)
    (nodeId : String) : ClusterEvent where
  action :=
    match event.action with
    | .create => "create"
    | .update => "update"
    | .delete => "delete"
  collection := event.collection
  documentId := event.documentId
  data := event.data
  beforeData := event.beforeData
  afterData := event.afterData
  originNode := nodeId

def ClusterEvent.toChangeEvent
    (event : ClusterEvent) : ChangeEvent where
  action :=
    match event.action with
    | "create" => .create
    | "update" => .update
    | "delete" => .delete
    | _ => .update
  collection := event.collection
  documentId := event.documentId
  data := event.data
  beforeData := event.beforeData
  afterData := event.afterData

/- An absent value is written as null. -/
def ClusterEvent.toPayload (event : ClusterEvent) : Value :=
  .object [ ("action", .string event.action),
    ("collection", .string event.collection),
    ("document_id", .string event.documentId),
    ("data", event.data),
    ("before_data", event.beforeData.getD .null),
    ("after_data", event.afterData.getD .null),
    ("origin_node", .string event.originNode)]

/- A value that is not null. -/
def present : Value → Option Value
  | .null => none
  | v => some v

def ClusterEvent.ofPayload
    (payload : Value) : Option ClusterEvent := do
  let action ← payload.getStr "action"
  let collection ← payload.getStr "collection"
  let documentId ← payload.getStr "document_id"
  let data ← payload.get "data"
  let originNode ← payload.getStr "origin_node"
  some
    { action := action
      collection := collection
      documentId := documentId
      data := data
      beforeData := (payload.get "before_data").bind present
      afterData := (payload.get "after_data").bind present
      originNode := originNode }

/-
  An event as other nodes read it: null before or after it is
  no value.
-/
def ChangeEvent.carried (event : ChangeEvent) : ChangeEvent :=
  { event with
    beforeData := event.beforeData.bind present
    afterData := event.afterData.bind present }

/- The payload of an event is read back with its origin. -/
theorem ofPayload_toPayload
    (event : ChangeEvent)
    (nodeId : String) :
    ClusterEvent.ofPayload
        (ClusterEvent.fromChange event nodeId).toPayload =
      some (ClusterEvent.fromChange event.carried nodeId) := by
  rcases event with
    ⟨action, collection, documentId, data, before, after⟩
  cases before with
  | none => cases after <;> rfl
  | some old => cases after <;> rfl

@[simp] theorem toChangeEvent_fromChange
    (event : ChangeEvent)
    (nodeId : String) :
    (ClusterEvent.fromChange event nodeId).toChangeEvent =
      event := by
  rcases event with ⟨action, _, _, _, _, _⟩
  cases action <;> rfl

--------
-- Bridges
--------

open Cron (isCharBoundary sliceTo)

/- The text before byte 8, which must be a place to cut. -/
def shortId (nodeId : String) : Option (List Char) :=
  if isCharBoundary nodeId.toList 8 then
    some (sliceTo nodeId.toList 8)
  else none

/- The durable consumer of a node; `none` is a panic. -/
def consumerName (nodeId : String) : Option String :=
  (shortId nodeId).map
    (fun short => "orignabase-node-" ++ String.ofList short)

inductive Bridge
  | idle
  | panicked
  | running (consumer : String)
  deriving DecidableEq, Repr

/-
  A message of the stream, with the node that published it
  and the event it was made from.
-/
structure Message where
  source : Nat
  event : ChangeEvent
  payload : Value

/-
  `taken` is the node to which a message of the stream was
  delivered for a consumer, and `forwarded` what a node sent
  to its dispatcher, with the number of the message.
-/
structure Cluster where
  bridges : Nat → Bridge
  stream : List Message
  taken : String → Nat → Option Nat
  forwarded : Nat → List (Nat × ChangeEvent)

inductive ClusterAction
  | start (node : Nat)
  | publish (node : Nat) (event : ChangeEvent)
  | deliver (node seq : Nat)

namespace Cluster

def new : Cluster where
  bridges := fun _ => .idle
  stream := []
  taken := fun _ _ => none
  forwarded := fun _ => []

/- What a bridge does with a payload. -/
def receive
    (nodeId : String)
    (payload : Value) : Option ChangeEvent :=
  match ClusterEvent.ofPayload payload with
  | none => none
  | some event =>
    -- Skip events from this node.
    if event.originNode = nodeId then none
    else some event.toChangeEvent

/- Start the bridge of a node. -/
def start
    (s : Cluster)
    (node : Nat)
    (nodeId : String) : Cluster :=
  match s.bridges node with
  | .idle =>
    { s with
      bridges := Function.update s.bridges node
        (match consumerName nodeId with
        | none => .panicked
        | some consumer => .running consumer) }
  | _ => s

/- Publish a local event. -/
def publish
    (s : Cluster)
    (node : Nat)
    (nodeId : String)
    (event : ChangeEvent) : Cluster :=
  match s.bridges node with
  | .running _ =>
    { s with
      stream := s.stream ++ [
        { source := node
          event := event
          payload := (ClusterEvent.fromChange event
              nodeId).toPayload }] }
  | _ => s

/- Deliver a message that the consumer has not been sent. -/
def deliver
    (s : Cluster)
    (node : Nat)
    (nodeId : String)
    (seq : Nat) : Cluster :=
  match s.bridges node, s.stream[seq]? with
  | .running consumer, some message =>
    match s.taken consumer seq with
    | some _ => s
    | none =>
      { s with
        taken := Function.update s.taken consumer
          (Function.update (s.taken consumer) seq
            (some node))
        forwarded := Function.update s.forwarded node
          (s.forwarded node ++
            ((receive nodeId message.payload).map
              (fun event => (seq, event))).toList) }
  | _, _ => s

/- One step of the nodes with the given ids. -/
def step
    (ids : List String)
    (s : Cluster) : ClusterAction → Cluster
  | .start node =>
    match ids[node]? with
    | none => s
    | some nodeId => s.start node nodeId
  | .publish node event =>
    match ids[node]? with
    | none => s
    | some nodeId => s.publish node nodeId event
  | .deliver node seq =>
    match ids[node]? with
    | none => s
    | some nodeId => s.deliver node nodeId seq

def after
    (ids : List String)
    (actions : List ClusterAction) : Cluster :=
  History.after (step ids) new actions

/- The events of a message that a node has forwarded. -/
def forwardedOf
    (s : Cluster)
    (node seq : Nat) : List ChangeEvent :=
  ((s.forwarded node).filter (·.1 = seq)).map Prod.snd

end Cluster

/-
  No bridge panics, and a message that was delivered to the
  consumer of a node has been forwarded once, or never if it
  is the node's own.
-/
structure FannedOut (s : Cluster) : Prop where
  noPanic : ∀ node, s.bridges node ≠ .panicked
  delivered :
    ∀ node consumer, s.bridges node = .running consumer →
      ∀ seq message, s.stream[seq]? = some message →
        s.forwardedOf node seq =
          if message.source ≠ node ∧
              (s.taken consumer seq).isSome
          then [message.event.carried]
          else []

/- Ids with a first part of eight bytes of their own. -/
def ToldApart (ids : List String) : Prop :=
  (∀ nodeId ∈ ids, isCharBoundary nodeId.toList 8 = true) ∧
    (ids.map shortId).Nodup

--------
-- Names
--------

open Cron (isCharBoundary)

theorem shortId_isSome_iff {nodeId : String} :
    (shortId nodeId).isSome = true ↔
      isCharBoundary nodeId.toList 8 = true := by
  unfold shortId
  split_ifs with hBoundary
  · simp [hBoundary]
  · simp [hBoundary]

theorem consumerName_eq_none_iff {nodeId : String} :
    consumerName nodeId = none ↔
      ¬ isCharBoundary nodeId.toList 8 = true := by
  rw [← shortId_isSome_iff, Option.not_isSome_iff_eq_none]
  exact Option.map_eq_none_iff

variable {a b : String}

variable {consumer : String}

/- Nodes with one consumer have the same first part. -/
theorem shortId_eq_of_consumerName
    (ha : consumerName a = some consumer)
    (hb : consumerName b = some consumer) :
    shortId a = shortId b := by
  rcases Option.map_eq_some_iff.mp ha with
    ⟨short, hShort, rfl⟩
  rcases Option.map_eq_some_iff.mp hb with
    ⟨other, hOther, hSame⟩
  have hEq := String.append_right_inj _ |>.mp hSame
  rw [hShort, hOther, String.ofList_injective hEq]

theorem ToldApart.node_eq
    {ids : List String}
    (hApart : ToldApart ids)
    {i j : Nat}
    (ha : ids[i]? = some a)
    (hb : ids[j]? = some b)
    (hShort : shortId a = shortId b) :
    i = j := by
  have hLt : i < (ids.map shortId).length := by
    rw [List.length_map]
    exact (List.getElem?_eq_some_iff.mp ha).1
  refine (List.getElem?_inj hLt hApart.2).mp ?_
  rw [List.getElem?_map, List.getElem?_map, ha, hb]
  exact congrArg some hShort

/- What a bridge forwards of an event of a node. -/
theorem receive_toPayload
    (nodeId origin : String)
    (event : ChangeEvent) :
    Cluster.receive nodeId
        (ClusterEvent.fromChange event origin).toPayload =
      if origin = nodeId then none
      else some event.carried := by
  unfold Cluster.receive
  rw [ofPayload_toPayload]
  exact ite_congr rfl (fun _ => rfl)
    (fun _ => congrArg some (toChangeEvent_fromChange _ _))

--------
-- What Every Run Keeps
--------

/- What holds whatever the ids are. -/
structure Cluster.Sound
    (ids : List String)
    (s : Cluster) : Prop where
  named :
    ∀ node consumer, s.bridges node = .running consumer →
      ∃ nodeId, ids[node]? = some nodeId ∧
        consumerName nodeId = some consumer
  unnamed :
    ∀ node, s.bridges node = .panicked →
      ∃ nodeId, ids[node]? = some nodeId ∧
        consumerName nodeId = none
  posted :
    ∀ (seq : Nat) (message : Message),
      s.stream[seq]? = some message →
      ∃ origin, ids[message.source]? = some origin ∧
        message.payload =
          (ClusterEvent.fromChange message.event
            origin).toPayload
  held :
    ∀ consumer seq node, s.taken consumer seq = some node →
      s.bridges node = .running consumer ∧
        seq < s.stream.length
  forwarded :
    ∀ node seq event, (seq, event) ∈ s.forwarded node →
      ∃ consumer, s.taken consumer seq = some node
  sent :
    ∀ node nodeId consumer seq message,
      ids[node]? = some nodeId →
      s.taken consumer seq = some node →
      s.stream[seq]? = some message →
      s.forwardedOf node seq =
        (Cluster.receive nodeId message.payload).toList

namespace Cluster

variable {ids : List String} {s : Cluster}

theorem sound_new : new.Sound ids where
  named := by
    intro node consumer hRunning
    cases hRunning
  unnamed := by
    intro node hPanicked
    cases hPanicked
  posted := by
    intro seq message hMessage
    cases hMessage
  held := by
    intro consumer seq node hTaken
    cases hTaken
  forwarded := by
    intro node seq event hMem
    cases hMem
  sent := by
    intro node nodeId consumer seq message _ hTaken
    cases hTaken

variable {node : Nat} {nodeId : String}

theorem Sound.forwardedOf_eq_nil
    (hSound : s.Sound ids)
    {seq : Nat}
    (hNone : ∀ consumer, s.taken consumer seq ≠ some node) :
    s.forwardedOf node seq = [] := by
  unfold forwardedOf
  rw [List.map_eq_nil_iff, List.filter_eq_nil_iff]
  rintro ⟨other, event⟩ hMem hSeq
  rcases hSound.forwarded node other event hMem with
    ⟨consumer, hTaken⟩
  have hSame : other = seq := of_decide_eq_true hSeq
  rw [hSame] at hTaken
  exact hNone consumer hTaken

theorem Sound.start
    (hSound : s.Sound ids)
    (hNode : ids[node]? = some nodeId) :
    (s.start node nodeId).Sound ids := by
  unfold Cluster.start
  split
  · rename_i hIdle
    rcases hSound with
      ⟨hNamed, hUnnamed, hPosted, hHeld, hForwarded, hSent⟩
    constructor
    · intro other consumer hRunning
      simp only [Function.update_apply] at hRunning
      split_ifs at hRunning with hOther
      · refine ⟨nodeId, hOther ▸ hNode, ?_⟩
        cases hName : consumerName nodeId with
        | none =>
          rw [hName] at hRunning
          cases hRunning
        | some name =>
          rw [hName] at hRunning
          cases hRunning
          rfl
      · exact hNamed other consumer hRunning
    · intro other hPanicked
      simp only [Function.update_apply] at hPanicked
      split_ifs at hPanicked with hOther
      · refine ⟨nodeId, hOther ▸ hNode, ?_⟩
        cases hName : consumerName nodeId with
        | none => rfl
        | some name =>
          rw [hName] at hPanicked
          cases hPanicked
      · exact hUnnamed other hPanicked
    · exact hPosted
    · intro consumer seq other hTaken
      rcases hHeld consumer seq other hTaken with
        ⟨hRunning, hSeq⟩
      refine ⟨?_, hSeq⟩
      have hOther : other ≠ node := by
        rintro rfl
        rw [hIdle] at hRunning
        cases hRunning
      exact (Function.update_of_ne hOther _ _).trans hRunning
    · exact hForwarded
    · exact hSent
  · exact hSound

theorem Sound.publish
    (hSound : s.Sound ids)
    (hNode : ids[node]? = some nodeId)
    (event : ChangeEvent) :
    (s.publish node nodeId event).Sound ids := by
  unfold Cluster.publish
  split
  · rcases hSound with
      ⟨hNamed, hUnnamed, hPosted, hHeld, hForwarded, hSent⟩
    refine ⟨hNamed, hUnnamed, ?_, ?_, hForwarded, ?_⟩
    · intro seq message hMessage
      by_cases hSeq : seq < s.stream.length
      · rw [List.getElem?_append_left hSeq] at hMessage
        exact hPosted seq message hMessage
      · rw [List.getElem?_append_right
          (Nat.not_lt.mp hSeq)] at hMessage
        have hMem := List.mem_of_getElem? hMessage
        rw [List.mem_singleton] at hMem
        rw [hMem]
        exact ⟨nodeId, hNode, rfl⟩
    · intro consumer seq other hTaken
      rcases hHeld consumer seq other hTaken with
        ⟨hRunning, hSeq⟩
      refine ⟨hRunning, ?_⟩
      rw [List.length_append]
      omega
    · intro other otherId consumer seq message hOther hTaken
        hMessage
      have hSeq := (hHeld consumer seq other hTaken).2
      rw [List.getElem?_append_left hSeq] at hMessage
      exact hSent other otherId consumer seq message hOther
        hTaken hMessage
  · exact hSound

/- What a delivery changes. -/
theorem forwardedOf_append
    (s : Cluster)
    (node seq : Nat)
    (event : Option ChangeEvent)
    (other otherSeq : Nat) :
    forwardedOf
        { s with
          forwarded := Function.update s.forwarded node
            (s.forwarded node ++
              (event.map (fun e => (seq, e))).toList) }
        other otherSeq =
      s.forwardedOf other otherSeq ++
        if other = node ∧ otherSeq = seq then event.toList
        else [] := by
  unfold forwardedOf
  simp only [Function.update_apply]
  by_cases hOther : other = node
  · subst hOther
    rw [if_pos rfl, List.filter_append, List.map_append]
    cases event with
    | none => simp
    | some e =>
      by_cases hSeq : otherSeq = seq
      · simp [hSeq]
      · have hNe : seq ≠ otherSeq := fun h => hSeq h.symm
        simp [hSeq, hNe]
  · simp [hOther]

theorem Sound.deliver
    (hSound : s.Sound ids)
    (hNode : ids[node]? = some nodeId)
    (seq : Nat) :
    (s.deliver node nodeId seq).Sound ids := by
  unfold Cluster.deliver
  split
  · rename_i consumer message hRunning hMessage
    split
    · exact hSound
    · rename_i hFree
      have hTakes (name : String) (other : Nat) :
          Function.update s.taken consumer
              (Function.update (s.taken consumer) seq
                (some node)) name other =
            if name = consumer ∧ other = seq then some node
            else s.taken name other := by
        by_cases hName : name = consumer
        · subst hName
          rw [Function.update_self, Function.update_apply]
          simp
        · simp [hName]
      -- Nothing of the message was forwarded by this node.
      have hNothing : s.forwardedOf node seq = [] := by
        apply hSound.forwardedOf_eq_nil
        intro name hTaken
        have hSame := (hSound.held name seq node hTaken).1
        rw [hRunning] at hSame
        cases hSame
        rw [hFree] at hTaken
        cases hTaken
      have hAppend := forwardedOf_append s node seq
        (receive nodeId message.payload)
      rcases hSound with
        ⟨hNamed, hUnnamed, hPosted, hHeld, hForwarded, hSent⟩
      refine ⟨hNamed, hUnnamed, hPosted, ?_, ?_, ?_⟩
      · intro name otherSeq other hTaken
        simp only [hTakes] at hTaken
        split_ifs at hTaken with hNew
        · cases hTaken
          rw [hNew.1, hNew.2]
          exact ⟨hRunning,
            (List.getElem?_eq_some_iff.mp hMessage).1⟩
        · exact hHeld name otherSeq other hTaken
      · intro other otherSeq event hMem
        simp only [hTakes]
        have hOld :
            (otherSeq, event) ∈ s.forwarded other → ∃ name,
                (if name = consumer ∧ otherSeq = seq then
                  some node
                else s.taken name otherSeq) =
                  some other := by
          intro hOld
          rcases hForwarded other otherSeq event hOld with
            ⟨name, hTaken⟩
          refine ⟨name, ?_⟩
          rw [if_neg]
          · exact hTaken
          · rintro ⟨rfl, rfl⟩
            rw [hFree] at hTaken
            cases hTaken
        simp only [Function.update_apply] at hMem
        split_ifs at hMem with hOther
        · rcases List.mem_append.mp hMem with hMem | hMem
          · exact hOld (hOther ▸ hMem)
          · rw [Option.mem_toList,
              Option.map_eq_some_iff] at hMem
            rcases hMem with ⟨e, -, hPair⟩
            cases hPair
            refine ⟨consumer, ?_⟩
            rw [if_pos ⟨rfl, rfl⟩, hOther]
        · exact hOld hMem
      · intro other otherId name otherSeq m hOther hTaken hM
        simp only [hTakes] at hTaken
        refine (hAppend other otherSeq).trans ?_
        split_ifs at hTaken with hNew
        · cases hTaken
          rcases hNew with ⟨rfl, rfl⟩
          rw [hNode] at hOther
          cases hOther
          rw [hMessage] at hM
          cases hM
          rw [hNothing, if_pos ⟨rfl, rfl⟩]
          rfl
        · rw [if_neg, List.append_nil]
          · exact hSent other otherId name otherSeq m hOther
              hTaken hM
          · rintro ⟨rfl, rfl⟩
            have hSame := (hHeld name otherSeq other hTaken).1
            rw [hRunning] at hSame
            cases hSame
            exact hNew ⟨rfl, rfl⟩
  · exact hSound

theorem Sound.step
    (hSound : s.Sound ids)
    (action : ClusterAction) :
    (s.step ids action).Sound ids := by
  cases action with
  | start node =>
    simp only [Cluster.step]
    cases hNode : ids[node]? with
    | none => exact hSound
    | some nodeId => exact hSound.start hNode
  | publish node event =>
    simp only [Cluster.step]
    cases hNode : ids[node]? with
    | none => exact hSound
    | some nodeId => exact hSound.publish hNode event
  | deliver node seq =>
    simp only [Cluster.step]
    cases hNode : ids[node]? with
    | none => exact hSound
    | some nodeId => exact hSound.deliver hNode seq

theorem sound_after
    (ids : List String)
    (actions : List ClusterAction) :
    (after ids actions).Sound ids :=
  History.always_of_step (P := Sound ids) sound_new
    (fun _ action hSound => hSound.step action) actions

/-
  A message that was delivered to the consumer of a node, if
  no other node has that consumer.
-/
theorem Sound.forwarded_of_delivered
    (hSound : s.Sound ids)
    (hApart : ToldApart ids)
    (hRunning : s.bridges node = .running consumer)
    {seq : Nat}
    {message : Message}
    (hMessage : s.stream[seq]? = some message) :
    s.forwardedOf node seq =
      if message.source ≠ node ∧
          (s.taken consumer seq).isSome
      then [message.event.carried]
      else [] := by
  rcases hSound.named node consumer hRunning with
    ⟨nodeId, hNode, hName⟩
  rcases hSound.posted seq message hMessage with
    ⟨origin, hOrigin, hPayload⟩
  cases hTaken : s.taken consumer seq with
  | none =>
    rw [if_neg (fun h => Bool.false_ne_true h.2)]
    apply hSound.forwardedOf_eq_nil
    intro name hOther
    have hSame := (hSound.held name seq node hOther).1
    rw [hRunning] at hSame
    cases hSame
    rw [hTaken] at hOther
    cases hOther
  | some other =>
    -- Only this node reads from the consumer.
    have hOther := (hSound.held consumer seq other hTaken).1
    rcases hSound.named other consumer hOther with
      ⟨otherId, hOtherNode, hOtherName⟩
    have hSame : other = node :=
      hApart.node_eq hOtherNode hNode
        (shortId_eq_of_consumerName hOtherName hName)
    rw [hSame] at hTaken
    rw [hSound.sent node nodeId consumer seq message hNode
      hTaken hMessage, hPayload, receive_toPayload]
    by_cases hSource : message.source = node
    · rw [hSource, hNode] at hOrigin
      cases hOrigin
      rw [if_pos rfl, if_neg (fun h => h.1 hSource)]
      rfl
    · have hIds : origin ≠ nodeId := by
        rintro rfl
        exact hSource (hApart.node_eq hOrigin hNode rfl)
      rw [if_neg hIds, if_pos ⟨hSource, rfl⟩]
      rfl

end Cluster

--------
-- Fan-Out
--------

open Cluster
open Cron (isCharBoundary)

/- The bridge of a node that is started first. -/
theorem bridges_start
    {ids : List String}
    {node : Nat}
    {nodeId : String}
    (hNode : ids[node]? = some nodeId) :
    (Cluster.after ids [.start node]).bridges node =
      match consumerName nodeId with
      | none => .panicked
      | some consumer => .running consumer := by
  simp only [Cluster.after, History.after_cons,
    History.after_nil, Cluster.step, hNode]
  exact Function.update_self _ _ _

/-
  Two nodes with one consumer: the message of the first one
  is delivered to that node itself, and to no other.
-/
theorem lost_on_shared_consumer
    {ids : List String}
    {i j : Nat}
    (hi : ids[i]? = some a)
    (hj : ids[j]? = some b)
    (hNe : i ≠ j)
    (ha : consumerName a = some consumer)
    (hb : consumerName b = some consumer)
    (event : ChangeEvent) :
    ¬ FannedOut (Cluster.after ids [.start i, .start j,
      .publish i event, .deliver i 0]) := by
  have hFirst :
      Function.update new.bridges i (.running consumer) j =
        .idle :=
    Function.update_of_ne hNe.symm _ _
  have hStill :
      Function.update (Function.update new.bridges i
          (.running consumer)) j (.running consumer) i =
        .running consumer :=
    (Function.update_of_ne hNe _ _).trans
      (Function.update_self _ _ _)
  have hRun :
      Cluster.after ids [.start i, .start j,
          .publish i event, .deliver i 0] =
        { bridges :=
            Function.update (Function.update new.bridges i
                (.running consumer)) j (.running consumer)
          stream := [
            { source := i
              event := event
              payload := (ClusterEvent.fromChange event
                a).toPayload }]
          taken := Function.update new.taken consumer
              (Function.update (new.taken consumer) 0
                (some i))
          forwarded :=
            Function.update new.forwarded i [] } := by
    simp only [Cluster.after, History.after_cons,
      History.after_nil, Cluster.step, hi, hj]
    have hStart :
        new.start i a =
          { new with
            bridges := Function.update new.bridges i
              (.running consumer) } := by
      unfold Cluster.start
      rw [ha]
      rfl
    rw [hStart]
    simp only [Cluster.start, hFirst, hb, Cluster.publish,
      hStill, Cluster.deliver]
    -- The bridge skips its own event.
    have hEcho :
        receive a
            (ClusterEvent.fromChange event a).toPayload =
          none := by
      rw [receive_toPayload, if_pos rfl]
    change Cluster.mk _ _ _ (Function.update new.forwarded i
        (new.forwarded i ++
          ((receive a (ClusterEvent.fromChange event
            a).toPayload).map
              (fun event => (0, event))).toList)) = _
    rw [hEcho]
    rfl
  intro hFanned
  have hOnce := hFanned.delivered j consumer
    (by rw [hRun]; exact Function.update_self _ _ _) 0
    { source := i
      event := event
      payload :=
        (ClusterEvent.fromChange event a).toPayload }
    (by rw [hRun]; rfl)
  rw [hRun] at hOnce
  simp [Cluster.forwardedOf, hNe, hNe.symm, new] at hOnce

/-
  In every run every event reaches every other node once, as
  soon as its message is delivered, exactly when the nodes
  are told apart.
-/
theorem fanned_out_iff (ids : List String) :
    (∀ actions, FannedOut (Cluster.after ids actions)) ↔
      ToldApart ids := by
  constructor
  · intro hAll
    have hBoundary : ∀ nodeId ∈ ids,
        isCharBoundary nodeId.toList 8 = true := by
      intro nodeId hMem
      rcases List.mem_iff_getElem?.mp hMem with ⟨i, hi⟩
      by_contra hCut
      apply (hAll [.start i]).noPanic i
      rw [bridges_start hi,
        consumerName_eq_none_iff.mpr hCut]
    refine ⟨hBoundary, ?_⟩
    rw [List.nodup_iff_getElem?_ne_getElem?]
    intro i j hLt hLength hSame
    rw [List.length_map] at hLength
    have hi := List.getElem?_eq_getElem (hLt.trans hLength)
    have hj := List.getElem?_eq_getElem hLength
    rw [List.getElem?_map, List.getElem?_map, hi, hj]
      at hSame
    have hShort := Option.some.inj hSame
    have hSome := shortId_isSome_iff.mpr
      (hBoundary _ (List.getElem_mem hLength))
    rcases Option.isSome_iff_exists.mp hSome with
      ⟨short, hLast⟩
    have hName :
        consumerName ids[j] = some ("orignabase-node-" ++
            String.ofList short) := by
      unfold consumerName
      rw [hLast]
      rfl
    refine lost_on_shared_consumer hi hj (Nat.ne_of_lt hLt)
      ?_ hName (changed "products" .null) (hAll _)
    unfold consumerName
    rw [hShort]
    exact hName
  · intro hApart actions
    have hSound := sound_after ids actions
    constructor
    · intro node hPanicked
      rcases hSound.unnamed node hPanicked with
        ⟨nodeId, hNode, hNone⟩
      exact consumerName_eq_none_iff.mp hNone
        (hApart.1 nodeId (List.mem_of_getElem? hNode))
    · intro node consumer hRunning seq message hMessage
      exact hSound.forwarded_of_delivered hApart hRunning
        hMessage

/-
  The id that the documentation gives as an example ends the
  bridge, and of two ids with a common beginning only one
  node receives an event.
-/
theorem nodes_not_told_apart :
    ["node-1", "node-2"].Nodup ∧
    (Cluster.after ["node-1", "node-2"]
      [.start 0]).bridges 0 = .panicked ∧
    ["orignabase-1", "orignabase-2"].Nodup ∧
    ¬ FannedOut (Cluster.after
      ["orignabase-1", "orignabase-2"] [.start 0, .start 1,
        .publish 0 (changed "products" .null),
        .deliver 0 0]) := by
  have hPanic : consumerName "node-1" = none := by decide
  have hFirst :
      consumerName "orignabase-1" =
        some "orignabase-node-orignaba" := by decide
  have hSecond :
      consumerName "orignabase-2" =
        some "orignabase-node-orignaba" := by decide
  refine ⟨by decide, ?_, by decide, ?_⟩
  · refine (bridges_start rfl).trans ?_
    rw [hPanic]
  · exact lost_on_shared_consumer rfl rfl (by decide) hFirst
      hSecond _

end Orignabase.Realtime
