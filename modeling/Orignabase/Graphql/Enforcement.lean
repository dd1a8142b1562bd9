import Orignabase.Graphql.Mutations

/-
  Rules are checked against a document that was read, and
  the write comes later.

  Key definitions include:
    * `lastRead`
    * `mayCall`
    * `Undisturbed`
    * `Enforced`

  Main results:
    * `within_body`
    * `enforced_of_reach`
    * `spared_of_reach`
-/

--------
-- What a Request May Call
--------

namespace Orignabase.Graphql

open Conc Security

/- The rules allow an operation. -/
def Allowed
    (server : Server)
    (collection operation : String)
    (auth : AuthContext)
    (resource incoming : Option Value) : Prop :=
  server.rules.check server.floats collection operation
    (securityContext auth resource incoming) = .ok true

/- What the latest read of a document returned. -/
def lastRead :
    List (Event Res Answer) → String → String →
      Option (Except Error Value)
  | [], _, _ => none
  | ⟨.getDocument c i, _, found⟩ :: tr, collection, id =>
    if c = collection ∧ i = id then some found
    else lastRead tr collection id
  | _ :: tr, collection, id => lastRead tr collection id

/- A document has been read and nothing was done since. -/
def JustRead
    (tr : List (Event Res Answer))
    (collection id : String)
    (found : Except Error Value) : Prop :=
  ∃ a rest, tr = ⟨.getDocument collection id, a, found⟩ :: rest

variable {collection : String}

theorem JustRead.lastRead
    {tr : List (Event Res Answer)}
    {id : String}
    {found : Except Error Value}
    (hRead : JustRead tr collection id found) :
    lastRead tr collection id = some found := by
  rcases hRead with ⟨a, rest, rfl⟩
  simp [Graphql.lastRead]

/-
  A write is asked for under the identity of the request,
  after the rules allowed it for what was last read.
-/
def mayCall
    (server : Server)
    (auth : AuthContext)
    (tr : List (Event Res Answer)) : Op → Prop
  | .getDocument _ _ => True
  | .send _ => True
  | .createDocument by_ collection data =>
    by_ = auth ∧
      Allowed server collection "create" auth none
        (some data)
  | .updateDocument by_ collection id data =>
    by_ = auth ∧ ∃ existing,
        JustRead tr collection id (.ok existing) ∧
        Allowed server collection "update" auth
          (some existing) (some data)
  | .upsertDocument by_ collection id data =>
    by_ = auth ∧ ∃ found, JustRead tr collection id found ∧
        Allowed server collection
          (if found.toOption.isSome then "update"
            else "create")
          auth found.toOption (some data)
  | .deleteDocument by_ collection id =>
    by_ = auth ∧ ∃ existing,
        lastRead tr collection id = some (.ok existing) ∧
        Allowed server collection "delete" auth
          (some existing) none

/- The calls of a program that has got so far. -/
abbrev Within
    (server : Server)
    (auth : AuthContext)
    (tr : List (Event Res Answer))
    (p : Prog Res Reply) : Prop :=
  p.Along (fun _ => True) (mayCall server auth)
    (fun _ _ => True) tr

variable {server : Server} {auth : AuthContext}
variable {tr : List (Event Res Answer)}

theorem within_permit
    {operation denied : String}
    {resource incoming : Option Value}
    {next : Prog Res Reply}
    (hNext :
      Allowed server collection operation auth resource
        incoming → Within server auth tr next) :
    Within server auth tr
      (permit server collection operation
        (securityContext auth resource incoming) denied
        next) := by
  unfold permit
  split
  · trivial
  · trivial
  · rename_i hAllowed
    exact hNext hAllowed

theorem within_onSuccess
    {result : Except Error Value}
    {next : Value → Prog Res Reply}
    (hNext :
      ∀ doc, result = .ok doc →
        Within server auth tr (next doc)) :
    Within server auth tr (onSuccess result next) := by
  cases result with
  | error e => trivial
  | ok doc => exact hNext doc rfl

theorem within_sendThen
    {event : Realtime.ChangeEvent}
    {next : Prog Res Reply}
    (hNext : ∀ e, e.op = .send event →
      Within server auth (e :: tr) next) :
    Within server auth tr (sendThen event next) :=
  ⟨trivial, fun a r _ => hNext ⟨.send event, a, r⟩ rfl⟩

/- A request ends by announcing its result. -/
theorem within_sendLast
    {event : Realtime.ChangeEvent}
    {reply : Reply} :
    Within server auth tr (sendThen event (.ret reply)) :=
  within_sendThen (fun _ _ => trivial)

/- What was read goes on to the check of the rules. -/
theorem within_read
    {id operation denied : String}
    {incoming : Option Value}
    {next : Value → Prog Res Reply}
    (hNext :
      ∀ a existing, Allowed server collection operation auth
          (some existing) incoming →
        Within server auth
          (⟨.getDocument collection id, a, .ok existing⟩ ::
            tr)
          (next existing)) :
    Within server auth tr
      (.call (.getDocument collection id) (fun found =>
        onSuccess found (fun existing =>
          permit server collection operation
            (securityContext auth (some existing) incoming)
            denied (next existing)))) := by
  refine ⟨trivial, ?_⟩
  intro a found _
  apply within_onSuccess
  intro existing hOk
  subst hOk
  apply within_permit
  intro hAllowed
  exact hNext a existing hAllowed

--------
-- Single Documents
--------

variable (server : Server) (auth : AuthContext)

theorem within_create (collection : String) (data : Value) :
    Within server auth []
      (create server auth collection data) := by
  apply within_permit
  intro hAllowed
  refine ⟨⟨rfl, hAllowed⟩, ?_⟩
  intro a result _
  apply within_onSuccess
  intro doc _
  exact within_sendLast

theorem within_update
    (collection id : String)
    (data : Value) :
    Within server auth []
      (update server auth collection id data) := by
  apply within_read
  intro a existing hAllowed
  dsimp only
  -- Both branches call the same statement.
  split
  all_goals
    refine ⟨⟨rfl, existing, ⟨a, [], rfl⟩, hAllowed⟩, ?_⟩
    intro b result _
    apply within_onSuccess
    intro doc _
    exact within_sendLast

theorem within_set
    (collection id : String)
    (data : Value) :
    Within server auth []
      (set server auth collection id data) := by
  refine ⟨trivial, ?_⟩
  intro a found _
  apply within_permit
  intro hAllowed
  refine ⟨⟨rfl, found, ⟨a, [], rfl⟩, hAllowed⟩, ?_⟩
  intro b result _
  apply within_onSuccess
  intro doc _
  exact within_sendLast

theorem within_delete (collection id : String) :
    Within server auth []
      (delete server auth collection id) := by
  apply within_read
  intro a existing hAllowed
  refine ⟨⟨rfl, existing, JustRead.lastRead ⟨a, [], rfl⟩,
    hAllowed⟩, ?_⟩
  intro b result _
  apply within_onSuccess
  intro doc _
  exact within_sendLast

theorem within_updateWithFieldValues
    (collection id : String)
    (data : Value) :
    Within server auth []
      (updateWithFieldValues server auth collection id
        data) := by
  apply within_read
  intro a existing hAllowed
  refine ⟨⟨rfl, existing, ⟨a, [], rfl⟩, hAllowed⟩, ?_⟩
  intro b result _
  apply within_onSuccess
  intro doc _
  exact within_sendLast

--------
-- Batches
--------

variable (server : Server) (auth : AuthContext)

theorem within_sendAll
    (events : List Realtime.ChangeEvent)
    (reply : Reply)
    (tr : List (Event Res Answer)) :
    Within server auth tr (sendAll events (.ret reply)) := by
  induction events generalizing tr with
  | nil => trivial
  | cons event events ih =>
    exact within_sendThen (fun e _ => ih (e :: tr))

variable {collection : String}

theorem within_createEach
    {finish : List Value → Prog Res Reply}
    (hFinish : ∀ tr results,
      Within server auth tr (finish results))
    (docs : List Value)
    (hDocs : ∀ doc ∈ docs,
      Allowed server collection "create" auth none (some doc)) :
    ∀ tr results, Within server auth tr
        (createEach auth collection finish results docs) := by
  induction docs with
  | nil =>
    intro tr results
    exact hFinish tr results
  | cons doc docs ih =>
    intro tr results
    refine ⟨⟨rfl, hDocs doc (by simp)⟩, ?_⟩
    intro a result _
    apply within_onSuccess
    intro created _
    exact ih (fun d hMem => hDocs d (by simp [hMem])) _ _

theorem within_permitAll
    {next : Prog Res Reply}
    {tr : List (Event Res Answer)}
    (docs : List Value)
    (hNext :
      (∀ doc ∈ docs,
        Allowed server collection "create" auth none
          (some doc)) →
      Within server auth tr next) :
    Within server auth tr
      (permitAll server auth collection next docs) := by
  induction docs with
  | nil => exact hNext (fun _ hMem => nomatch hMem)
  | cons doc docs ih =>
    apply within_permit
    intro hAllowed
    apply ih
    intro hDocs
    apply hNext
    intro d hMem
    rcases List.mem_cons.mp hMem with rfl | hRest
    · exact hAllowed
    · exact hDocs d hRest

theorem within_batchCreate
    (collection : String)
    (docs : List Value) :
    Within server auth []
      (batchCreate server auth collection docs) := by
  unfold batchCreate
  dsimp only
  split
  · trivial
  · apply within_permitAll
    intro hDocs
    apply within_createEach server auth _ _ hDocs
    intro tr results
    exact within_sendAll server auth _ _ _

/- The removal of a document was allowed when last read. -/
def Cleared
    (collection : String)
    (tr : List (Event Res Answer))
    (id : String) : Prop :=
  ∃ existing,
    lastRead tr collection id = some (.ok existing) ∧
    Allowed server collection "delete" auth (some existing)
      none

theorem Cleared.read
    {id other : String}
    {tr : List (Event Res Answer)}
    {a : Answer}
    {existing : Value}
    (hAllowed :
      Allowed server collection "delete" auth (some existing)
        none)
    (hOther :
      other = id ∨ Cleared server auth collection tr other) :
    Cleared server auth collection
      (⟨.getDocument collection id, a, .ok existing⟩ :: tr)
      other := by
  by_cases hSame : id = other
  · subst hSame
    exact ⟨existing, JustRead.lastRead ⟨a, tr, rfl⟩,
      hAllowed⟩
  · rcases hOther with hEq | ⟨found, hRead, hFound⟩
    · exact absurd hEq.symm hSame
    · refine ⟨found, ?_, hFound⟩
      simp only [lastRead]
      rw [if_neg (fun h => hSame h.2), hRead]

theorem within_permitDeletes
    {next : Prog Res Reply}
    (ids : List String) :
    ∀ (tr : List (Event Res Answer)) (done : List String),
      (∀ id ∈ done, Cleared server auth collection tr id) →
      (∀ tr, (∀ id, id ∈ done ∨ id ∈ ids →
          Cleared server auth collection tr id) →
        Within server auth tr next) →
      Within server auth tr
        (permitDeletes server auth collection next ids) := by
  induction ids with
  | nil =>
    intro tr done hDone hNext
    exact hNext tr (fun id hMem => by
      rcases hMem with hMem | hMem
      · exact hDone id hMem
      · cases hMem)
  | cons id ids ih =>
    intro tr done hDone hNext
    apply within_read
    intro a existing hAllowed
    apply ih _ (id :: done)
    · intro other hMem
      refine Cleared.read server auth hAllowed ?_
      rcases List.mem_cons.mp hMem with rfl | hOld
      · exact Or.inl rfl
      · exact Or.inr (hDone other hOld)
    · intro tr' hAll
      apply hNext
      intro other hMem
      apply hAll
      simp only [List.mem_cons] at hMem ⊢
      tauto

theorem within_deleteEach
    {finish : List Value → Prog Res Reply}
    (hFinish : ∀ tr results,
      Within server auth tr (finish results))
    (ids : List String) :
    ∀ tr results,
      (∀ id ∈ ids, Cleared server auth collection tr id) →
      Within server auth tr
        (deleteEach auth collection finish results ids) := by
  induction ids with
  | nil =>
    intro tr results _
    exact hFinish tr results
  | cons id ids ih =>
    intro tr results hCleared
    refine ⟨⟨rfl, hCleared id (by simp)⟩, ?_⟩
    intro a result _
    apply within_onSuccess
    intro doc _
    apply ih
    intro other hMem
    exact hCleared other (by simp [hMem])

theorem within_batchDelete
    (collection : String)
    (ids : List String) :
    Within server auth []
      (batchDelete server auth collection ids) := by
  unfold batchDelete
  split
  · trivial
  · apply within_permitDeletes server auth ids [] []
    · exact fun _ hMem => nomatch hMem
    · intro tr hCleared
      apply within_deleteEach server auth _ ids tr []
      · exact fun id hMem => hCleared id (Or.inr hMem)
      · intro tr results
        exact within_sendAll server auth _ _ _

theorem within_updateEach
    (collection : String)
    (entries : List Value) :
    ∀ tr results, Within server auth tr
        (updateEach server auth collection results
          entries) := by
  induction entries with
  | nil =>
    intro tr results
    trivial
  | cons entry entries ih =>
    intro tr results
    unfold updateEach
    split
    · trivial
    · rename_i id data _
      apply within_read
      intro a existing hAllowed
      refine ⟨⟨rfl, existing, ⟨a, tr, rfl⟩, hAllowed⟩, ?_⟩
      intro b result _
      apply within_onSuccess
      intro doc _
      exact within_sendThen (fun e _ => ih _ _)

theorem within_batchUpdate
    (collection : String)
    (updates : Value) :
    Within server auth []
      (batchUpdate server auth collection updates) := by
  unfold batchUpdate
  split
  · split
    · trivial
    · exact within_updateEach server auth collection _ _ _
  · trivial

/- Whatever a client asks for. -/
theorem within_body (mutation : Mutation) :
    Within server auth [] (mutation.body server auth) := by
  cases mutation with
  | create collection data =>
    exact within_create server auth collection data
  | update collection id data =>
    exact within_update server auth collection id data
  | set collection id data =>
    exact within_set server auth collection id data
  | delete collection id =>
    exact within_delete server auth collection id
  | updateWithFieldValues collection id data =>
    exact within_updateWithFieldValues server auth
      collection id data
  | batchCreate collection docs =>
    exact within_batchCreate server auth collection docs
  | batchDelete collection ids =>
    exact within_batchDelete server auth collection ids
  | batchUpdate collection updates =>
    exact within_batchUpdate server auth collection updates

--------
-- Writes
--------

variable (server : Server)

/- The operation that a write is, given what it found. -/
def Write.operation (write : Write) : String :=
  match write.before, write.incoming with
  | none, _ => "create"
  | some _, some _ => "update"
  | some _, none => "delete"

/- The rules allow a write for the document it changes. -/
def Enforced (write : Write) : Prop :=
  Allowed server write.collection write.operation write.auth
    write.before write.incoming

/-
  The document to be changed is the one that the request has
  read, or is still missing if none was read.
-/
def Undisturbed : StepCond Res Answer World :=
  fun tr o _ w =>
    match o with
    | .updateDocument _ collection id _
    | .upsertDocument _ collection id _
    | .deleteDocument _ collection id =>
      w.read server collection (bareId collection id) =
        (lastRead tr collection id).bind Except.toOption
    | _ => True

/- A step adds a write that the rules allow, or none. -/
theorem enforced_step
    {auth : AuthContext}
    {tr : List (Event Res Answer)}
    {o : Op}
    {a : Answer}
    {w w' : World}
    (hMay : mayCall server auth tr o)
    (hCond : Undisturbed server tr o a w)
    (hChanges : Changes server o w w')
    (hWrites : ∀ write ∈ w.writes, Enforced server write) :
    ∀ write ∈ w'.writes, Enforced server write := by
  cases hChanges with
  | none => exact hWrites
  | sent => exact hWrites
  | created hFree =>
    rcases hMay with ⟨rfl, hAllowed⟩
    exact List.forall_mem_cons.mpr ⟨hAllowed, hWrites⟩
  | @inserted by_ collection id data _ hFree =>
    rcases hMay with ⟨rfl, found, hRead, hAllowed⟩
    have hNow : none = found.toOption := by
      simpa [Undisturbed, hRead.lastRead, World.read, hFree]
        using hCond
    rw [← hNow] at hAllowed
    exact List.forall_mem_cons.mpr ⟨hAllowed, hWrites⟩
  | @updated by_ collection id data row _ hRow =>
    rcases hMay with ⟨rfl, existing, hRead, hAllowed⟩
    have hNow :
        document server (bareId collection id) row =
          existing := by
      simpa [Undisturbed, hRead.lastRead, World.read, hRow,
        Except.toOption] using hCond
    rw [← hNow] at hAllowed
    exact List.forall_mem_cons.mpr ⟨hAllowed, hWrites⟩
  | @merged by_ collection id data row _ hRow =>
    rcases hMay with ⟨rfl, found, hRead, hAllowed⟩
    have hNow :
        some (document server (bareId collection id) row) =
          found.toOption := by
      simpa [Undisturbed, hRead.lastRead, World.read, hRow]
        using hCond
    rw [← hNow] at hAllowed
    exact List.forall_mem_cons.mpr ⟨hAllowed, hWrites⟩
  | @deleted by_ collection id row _ hRow =>
    rcases hMay with ⟨rfl, existing, hRead, hAllowed⟩
    have hNow :
        document server (bareId collection id) row =
          existing := by
      simpa [Undisturbed, hRead, World.read, hRow,
        Except.toOption] using hCond
    rw [← hNow] at hAllowed
    exact List.forall_mem_cons.mpr ⟨hAllowed, hWrites⟩

/-
  In every run of any requests from any stored documents, if
  no document changes between the read of a request and its
  write, every write is one that the rules allow for the
  document it changes.
-/
theorem enforced_of_reach
    {requests : List Request}
    {w : World}
    {c : Config Res Answer World Reply}
    (hStart : w.writes = [])
    (hReach :
      Reach (exec server) (Undisturbed server)
        (Config.start w
          (requests.map (Request.body server))) c) :
    ∀ write ∈ c.world.writes, Enforced server write := by
  have hWithin :
      (Config.start w (requests.map (Request.body server)) :
        Config Res Answer World Reply).Within (fun _ => True)
        (fun request tr o =>
          mayCall server request.auth tr o)
        (fun _ _ _ => True) requests :=
    Config.within_start (fun request _ =>
        within_body server request.auth request.mutation) w
  have hKeeps :
      ∀ (request : Request) tr o a w',
        mayCall server request.auth tr o →
        Undisturbed server tr o a w' →
        (∀ write ∈ w'.writes, Enforced server write) →
        ∀ write ∈ (exec server o a w').2.writes,
          Enforced server write := by
    intro request tr o a w' hMay hCond hWrites
    exact enforced_step server hMay hCond
      (changes_exec server o a w') hWrites
  have hNone : ∀ write ∈ w.writes, Enforced server write := by
    rw [hStart]
    exact fun _ hMem => nomatch hMem
  have hEnd := hReach.holds_along
    (fun _ _ _ _ _ => trivial) hWithin hKeeps hNone
  exact hEnd

--------
-- Two Clients
--------

instance (server : Server) (write : Write) :
    Decidable (Enforced server write) :=
  inferInstanceAs (Decidable (_ = _))

instance
    (server : Server)
    (tr : List (Event Res Answer))
    (o : Op)
    (a : Answer)
    (w : World) :
    Decidable (Undisturbed server tr o a w) := by
  cases o <;> dsimp only [Undisturbed] <;> infer_instance

/- The server with the rules it ships. -/
def shopServer : Server where
  floats := .decimal
  parse := fun _ => none
  rfc3339 := fun n =>
    "1970-01-01T00:00:0" ++ toString n ++ "+00:00"
  rules := Shipped.engine

def signedIn (user : String) : AuthContext :=
  ⟨user, [], true⟩

/- The statement succeeds. -/
def fine : Answer where
  fault := none
  uuid := ⟨"00000000-0000-4000-8000-000000000000", by decide⟩

def cartOf (user : String) : Value :=
  .object [("userId", .string user)]

/- Put a cart under an id of the client's choice. -/
def setCart (user : String) : Request :=
  ⟨signedIn user, .set "cart" "c1" (cartOf user)⟩

/- One client sets its cart and then updates it. -/
def cartRequests : List Request :=
  [setCart "alice",
    ⟨signedIn "alice", .update "cart" "c1" (cartOf "alice")⟩]

theorem cart_writes_enforced :
    ∃ c : Config Res Answer World Reply,
      Reach (exec shopServer) (Undisturbed shopServer)
        (Config.start World.empty
          (cartRequests.map (Request.body shopServer))) c ∧
      c.world.writes.length = 2 ∧
      ∀ write ∈ c.world.writes,
        Enforced shopServer write := by
  have hRun :
      ((Config.start World.empty
        (cartRequests.map (Request.body shopServer))).run
          (exec shopServer)
          [(0, fine), (0, fine), (1, fine), (1, fine)]).any
        (fun c => c.world.writes.length = 2) = true := by
    decide
  rcases (Option.any_eq_true _ _).mp hRun with
    ⟨c, hRun, hEnd⟩
  have hReach :
      Reach (exec shopServer) (Undisturbed shopServer)
        (Config.start World.empty
          (cartRequests.map (Request.body shopServer))) c :=
    Reach.of_run hRun (by decide)
  exact ⟨c, hReach, of_decide_eq_true hEnd,
    enforced_of_reach shopServer rfl hReach⟩

/-
  Two clients set the same cart.  Both find no document, so
  both are checked as creators, and the second merges its
  data into the document of the first.
-/
theorem second_set_not_enforced :
    ∃ c : Config Res Answer World Reply,
      Reach (exec shopServer) (fun _ _ _ _ => True)
        (Config.start World.empty
          ([setCart "alice", setCart "bob"].map
            (Request.body shopServer))) c ∧
      ∃ write ∈ c.world.writes,
        ¬ Enforced shopServer write := by
  have hRun :
      ((Config.start World.empty
        ([setCart "alice", setCart "bob"].map
          (Request.body shopServer))).run (exec shopServer)
          [(0, fine), (1, fine), (0, fine), (1, fine)]).any
        (fun c => c.world.writes.any (fun write => decide
            (¬ Enforced shopServer write))) = true := by
    decide +kernel
  rcases (Option.any_eq_true _ _).mp hRun with
    ⟨c, hRun, hEnd⟩
  rcases List.any_eq_true.mp hEnd with ⟨write, hMem, hNot⟩
  exact ⟨c, Reach.of_run hRun
      (Reach.Meets.of_forall (fun _ _ _ _ => trivial) _ _),
    write, hMem, of_decide_eq_true hNot⟩

--------
-- Operations That Are Never Allowed
--------

variable {server : Server} {collection : String}

/- The rules allow the operation to nobody. -/
def Never (server : Server) (collection operation : String) :
    Prop :=
  ∀ auth resource incoming, ¬ Allowed server collection
    operation auth resource incoming

/- A write changes one row of its collection. -/
theorem rows_write
    (w : World)
    (change : Write)
    (row : Option Row)
    (collection id : String) :
    (w.write change row).rows collection id =
        w.rows collection id ∨
      collection = change.collection ∧
        (row.isSome = true →
          ((w.write change row).rows collection id).isSome =
            true) := by
  simp only [World.write]
  split_ifs with hKey
  · exact Or.inr ⟨hKey.1, fun hSome => hSome⟩
  · exact Or.inl rfl

/- What a step does to a row, and what was allowed. -/
theorem rows_step
    {auth : AuthContext}
    {tr : List (Event Res Answer)}
    {o : Op}
    {w w' : World}
    (hMay : mayCall server auth tr o)
    (hChanges : Changes server o w w')
    (id : String) :
    w'.rows collection id = w.rows collection id ∨
      (w'.rows collection id).isSome = true ∧
        (¬ Never server collection "create" ∨
          ¬ Never server collection "update") ∨
      ¬ Never server collection "delete" := by
  cases hChanges with
  | none => exact Or.inl rfl
  | sent => exact Or.inl rfl
  | created hFree =>
    refine (rows_write ..).imp_right (fun hRow =>
      Or.inl ⟨hRow.2 rfl, ?_⟩)
    rw [hRow.1]
    exact Or.inl fun h => h _ _ _ hMay.2
  | inserted hFree =>
    rcases hMay with ⟨_, found, _, hAllowed⟩
    refine (rows_write ..).imp_right (fun hRow =>
      Or.inl ⟨hRow.2 rfl, ?_⟩)
    rw [hRow.1]
    split_ifs at hAllowed
    · exact Or.inr fun h => h _ _ _ hAllowed
    · exact Or.inl fun h => h _ _ _ hAllowed
  | updated hRow =>
    rcases hMay with ⟨_, existing, _, hAllowed⟩
    refine (rows_write ..).imp_right (fun hRow =>
      Or.inl ⟨hRow.2 rfl, ?_⟩)
    rw [hRow.1]
    exact Or.inr fun h => h _ _ _ hAllowed
  | merged hRow =>
    rcases hMay with ⟨_, found, _, hAllowed⟩
    refine (rows_write ..).imp_right (fun hRow =>
      Or.inl ⟨hRow.2 rfl, ?_⟩)
    rw [hRow.1]
    split_ifs at hAllowed
    · exact Or.inr fun h => h _ _ _ hAllowed
    · exact Or.inl fun h => h _ _ _ hAllowed
  | deleted hRow =>
    rcases hMay with ⟨_, existing, _, hAllowed⟩
    refine (rows_write ..).imp_right (fun hRow => Or.inr ?_)
    rw [hRow.1]
    exact fun h => h _ _ _ hAllowed

/- What is left of a row. -/
structure Spared
    (server : Server)
    (collection : String)
    (row row' : Option Row) : Prop where
  kept :
    Never server collection "delete" →
      row.isSome = true → row'.isSome = true
  same :
    Never server collection "delete" →
      Never server collection "create" →
        Never server collection "update" → row' = row

/-
  In every run of any requests, documents of a collection
  that the rules let nobody delete stay, and a collection
  that they let nobody change stays as it is.
-/
theorem spared_of_reach
    {requests : List Request}
    {w : World}
    {cond : StepCond Res Answer World}
    {c : Config Res Answer World Reply}
    (hReach :
      Reach (exec server) cond
        (Config.start w
          (requests.map (Request.body server))) c)
    (collection id : String) :
    Spared server collection (w.rows collection id)
      (c.world.rows collection id) := by
  have hWithin :
      (Config.start w (requests.map (Request.body server)) :
        Config Res Answer World Reply).Within (fun _ => True)
        (fun request tr o =>
          mayCall server request.auth tr o)
        (fun _ _ _ => True) requests :=
    Config.within_start (fun request _ =>
        within_body server request.auth request.mutation) w
  have hKeeps :
      ∀ (request : Request) tr o a w',
        mayCall server request.auth tr o →
        cond tr o a w' →
        Spared server collection (w.rows collection id)
          (w'.rows collection id) →
        Spared server collection (w.rows collection id)
          ((exec server o a w').2.rows collection id) := by
    intro request tr o a w' hMay _ hSpared
    rcases rows_step hMay (changes_exec server o a w') id
      with hSame | ⟨hSome, hSome'⟩ | hNot
    · rw [hSame]
      exact hSpared
    · exact ⟨fun _ _ => hSome, fun _ hCreate hUpdate =>
        (hSome'.elim (· hCreate) (· hUpdate)).elim⟩
    · exact ⟨fun hNever => (hNot hNever).elim,
        fun hNever => (hNot hNever).elim⟩
  have hEnd := hReach.holds_along
    (fun _ _ _ _ _ => trivial) hWithin hKeeps
    ⟨fun _ hSome => hSome, fun _ _ _ => rfl⟩
  exact hEnd

/- A store with one order. -/
def oneOrder : World :=
  { World.empty with
    rows := fun collection id =>
      if collection = "orders" ∧ id = "o1" then
        some ⟨.object [("userId", .string "bob")], 0, 0,
          "bob"⟩
      else none }

/- Administrator and buyer try to delete it. -/
def orderDeletions : List Request :=
  [⟨⟨"root", ["admin"], true⟩, .delete "orders" "o1"⟩,
    ⟨signedIn "bob", .batchDelete "orders" ["o1"]⟩]

theorem order_not_deleted :
    ∃ c : Config Res Answer World Reply,
      Reach (exec shopServer) (fun _ _ _ _ => True)
        (Config.start oneOrder
          (orderDeletions.map (Request.body shopServer)))
        c ∧
      c.Quiet ∧
      (c.world.rows "orders" "o1").isSome = true := by
  have hRun :
      ((Config.start oneOrder
        (orderDeletions.map (Request.body shopServer))).run
          (exec shopServer) [(0, fine), (1, fine)]).any
        (fun c => decide c.Quiet) = true := by
    decide
  rcases (Option.any_eq_true _ _).mp hRun with
    ⟨c, hRun, hEnd⟩
  have hReach :
      Reach (exec shopServer) (fun _ _ _ _ => True)
        (Config.start oneOrder
          (orderDeletions.map (Request.body shopServer))) c :=
    Reach.of_run hRun
      (Reach.Meets.of_forall (fun _ _ _ _ => trivial) _ _)
  have hNever : Never shopServer "orders" "delete" := by
    intro auth resource incoming hAllowed
    have hBlock :
        governing Shipped.blocks "orders" =
          some Shipped.orders := rfl
    have hCheck :
        Shipped.engine.check shopServer.floats "orders"
            "delete"
            (securityContext auth resource incoming) =
          .ok false :=
      (Shipped.check_block _ _ hBlock).2.2.2
    exact Bool.false_ne_true
      (Except.ok.inj (hCheck.symm.trans hAllowed))
  exact ⟨c, hReach, of_decide_eq_true hEnd,
    (spared_of_reach hReach "orders" "o1").kept hNever rfl⟩

end Orignabase.Graphql
