import Orignabase.Graphql.Enforcement

/-
  Documents of one owner under the rules the server ships.

  Key definitions include:
    * `ownedCollections`, `ownerFields`
    * `OwnersIntact`
    * `ReadsAnswer`

  Main results:
    * `createAllowed_fields`
    * `updateAllowed_fields`
    * `owners_intact_inTurn`
-/

--------
-- Conditions on Fields
--------

namespace Orignabase.Security.Shipped

variable (floats : Floats) {ctx : SecurityContext}

variable {field : String}

theorem resolveContextField_single
    (hField : splitDots field = [field])
    (v : Value) :
    resolveContextField (some v) field = v.get field := by
  unfold resolveContextField
  rw [hField]
  simp only [Option.bind_some, resolveJsonPathOption]
  cases v.get field <;> rfl

/- What `fieldAbsentOrEqualsAuth` asks of the data. -/
theorem absentOrEqualsAuth_iff
    {data : Value}
    (hField : splitDots field = [field])
    (hIncoming : ctx.incoming = some data) :
    evalExpr floats ctx (fieldAbsentOrEqualsAuth field) =
        true ↔
      ∀ v, data.get field = some v →
        ∃ user, ctx.userId = some user ∧
          v = .string user := by
  unfold fieldAbsentOrEqualsAuth
  rw [evalExpr]
  simp only [evalFunction, stringArg, hIncoming,
    resolveContextField_single hField]
  cases data.get field with
  | none => simp
  | some v =>
    cases ctx.userId with
    | none => simp
    | some user => simp [Value.eq_string]

/- What `fieldUnchanged` asks of the data. -/
theorem row_unchanged_iff
    {data existing : Value}
    (hField : splitDots field = [field])
    (hIncoming : ctx.incoming = some data)
    (hResource : ctx.resource = some existing) :
    evalExpr floats ctx (fieldUnchanged field) = true ↔
      ∀ v, data.get field = some v →
        ∃ stored, existing.get field = some stored ∧
          stored.eq floats v = true := by
  unfold fieldUnchanged
  rw [evalExpr]
  simp only [evalFunction, stringArg, hIncoming, hResource,
    resolveContextField_single hField]
  cases data.get field with
  | none => simp
  | some v =>
    cases existing.get field with
    | none => simp
    | some stored => simp

theorem second_of_and
    {first second : Expression}
    {rest : List Expression}
    (hAnd :
      evalExpr floats ctx (.and (first :: second :: rest)) =
        true) :
    evalExpr floats ctx second = true := by
  rw [evalExpr_and, List.all_eq_true] at hAnd
  exact hAnd second (by simp)

/- Only a signed-in user owns a document. -/
theorem isOwner_iff
    {path : String}
    {document : Value}
    (hPath : splitDots path = ["resource", field])
    (hResource : ctx.resource = some document) :
    evalExpr floats ctx (isOwner path) = true ↔
      ∃ user, ctx.userId = some user ∧
        document.getStr field = some user := by
  cases hUser : ctx.userId with
  | none =>
    unfold isOwner
    rw [evalExpr]
    simp [evalFunction, hUser]
  | some user =>
    rw [evalExpr_isOwner floats ctx hPath hUser hResource]
    simp

end Orignabase.Security.Shipped

--------
-- Documents of One Owner
--------

namespace Orignabase.Graphql

open Conc Security

def ownedCollections : List String :=
  ["cart", "users__cart", "favorites", "addresses",
    "notifications", "users__notifications"]

def ownerFields : List String :=
  ["userId", "ownerId", "uid"]

theorem splitDots_ownerFields :
    ∀ field ∈ ownerFields, splitDots field = [field] := by
  decide

theorem governing_owned :
    ∀ collection ∈ ownedCollections,
      governing Shipped.blocks collection =
        some (Shipped.owned collection) := by
  decide

theorem validate_owned :
    ∀ collection ∈ ownedCollections,
      validateIdentifier collection = .ok collection := by
  decide

/- The fields of owners are absent or name one user. -/
def OwnedBy (user : String) (data : Value) : Prop :=
  ∀ field ∈ ownerFields, ∀ v,
    data.get field = some v → v = .string user

/- Every document names no owner but who created it. -/
def OwnersIntact (w : World) : Prop :=
  ∀ collection ∈ ownedCollections, ∀ id row,
    w.rows collection id = some row →
      ∃ user, row.creator = some user ∧
        OwnedBy user row.data

section

variable {server : Server} {auth : AuthContext}
variable {collection : String} {data existing : Value}

/- Who may create a document is the owner it names. -/
theorem createAllowed_fields
    (hRules : server.rules = Shipped.engine)
    (hOwned : collection ∈ ownedCollections)
    (hAllowed :
      Allowed server collection "create" auth none
        (some data)) :
    ∃ user, auth.user = some user ∧ OwnedBy user data := by
  unfold Allowed at hAllowed
  rw [hRules, (Shipped.check_block server.floats _
    (governing_owned collection hOwned)).2.1] at hAllowed
  have hTrue := Except.ok.inj hAllowed
  simp only [Shipped.evalExpr_and, List.all_cons,
    List.all_nil, Bool.and_eq_true, Bool.and_true,
    Shipped.evalExpr_isAuthenticated] at hTrue
  rcases hTrue with ⟨hSignedIn, _, hUserId, hOwnerId, hUid⟩
  have hUser : auth.user = some auth.userId :=
    if_pos hSignedIn
  refine ⟨auth.userId, hUser, ?_⟩
  intro field hField v hGet
  have hSplit := splitDots_ownerFields field hField
  have hAbsent :
      evalExpr server.floats
        (securityContext auth none (some data))
        (Shipped.fieldAbsentOrEqualsAuth field) = true := by
    simp only [ownerFields, List.mem_cons,
      List.not_mem_nil, or_false] at hField
    rcases hField with rfl | rfl | rfl
    · exact hUserId
    · exact hOwnerId
    · exact hUid
  rcases (Shipped.absentOrEqualsAuth_iff server.floats hSplit
    rfl).mp hAbsent v hGet with ⟨user, hSame, rfl⟩
  have hIs : auth.user = some user := hSame
  rw [hUser] at hIs
  rw [Option.some.inj hIs]

/- An update leaves the fields of owners as they are. -/
theorem updateAllowed_fields
    (hRules : server.rules = Shipped.engine)
    (hOwned : collection ∈ ownedCollections)
    (hAllowed :
      Allowed server collection "update" auth (some existing)
        (some data)) :
    ∀ field ∈ ownerFields, ∀ v, data.get field = some v →
        ∃ stored, existing.get field = some stored ∧
          stored.eq server.floats v = true := by
  unfold Allowed at hAllowed
  rw [hRules, (Shipped.check_block server.floats _
    (governing_owned collection hOwned)).2.2.1] at hAllowed
  have hTrue := Except.ok.inj hAllowed
  simp only [Shipped.evalExpr_and, List.all_cons,
    List.all_nil, Bool.and_eq_true, Bool.and_true] at hTrue
  rcases hTrue with ⟨_, _, hUserId, hOwnerId, hUid⟩
  intro field hField
  have hSplit := splitDots_ownerFields field hField
  have hSame :
      evalExpr server.floats
        (securityContext auth (some existing) (some data))
        (Shipped.fieldUnchanged field) = true := by
    simp only [ownerFields, List.mem_cons,
      List.not_mem_nil, or_false] at hField
    rcases hField with rfl | rfl | rfl
    · exact hUserId
    · exact hOwnerId
    · exact hUid
  exact (Shipped.row_unchanged_iff server.floats hSplit rfl
    rfl).mp hSame

/- Reading, changing and removing need an owner. -/
theorem ownerAllowed_names
    (hRules : server.rules = Shipped.engine)
    (hOwned : collection ∈ ownedCollections)
    {operation : String}
    (hOperation : operation ∈ ["read", "update", "delete"])
    {incoming : Option Value}
    (hAllowed :
      Allowed server collection operation auth
        (some existing) incoming) :
    ∃ user, auth.user = some user ∧ ∃ field ∈ ownerFields,
        existing.getStr field = some user := by
  have hChecks := Shipped.check_block server.floats
    (securityContext auth (some existing) incoming)
    (governing_owned collection hOwned)
  unfold Allowed at hAllowed
  rw [hRules] at hAllowed
  have hOwns :
      evalExpr server.floats
        (securityContext auth (some existing) incoming)
        Shipped.ownsResource = true := by
    simp only [List.mem_cons, List.not_mem_nil, or_false]
      at hOperation
    rcases hOperation with rfl | rfl | rfl
    · rw [hChecks.1] at hAllowed
      exact Shipped.second_of_and server.floats
        (Except.ok.inj hAllowed)
    · rw [hChecks.2.2.1] at hAllowed
      exact Shipped.second_of_and server.floats
        (Except.ok.inj hAllowed)
    · rw [hChecks.2.2.2] at hAllowed
      exact Shipped.second_of_and server.floats
        (Except.ok.inj hAllowed)
  simp only [Shipped.ownsResource, Shipped.evalExpr_or,
    List.any_cons, List.any_nil, Bool.or_false,
    Bool.or_eq_true] at hOwns
  rcases Shipped.splitDots_resource with
    ⟨hUserId, hOwnerId, hUid, -⟩
  rcases hOwns with hOwns | hOwns | hOwns
  · rcases (Shipped.isOwner_iff server.floats hUserId
      rfl).mp hOwns with ⟨user, hUser, hGet⟩
    exact ⟨user, hUser, "userId", by decide, hGet⟩
  · rcases (Shipped.isOwner_iff server.floats hOwnerId
      rfl).mp hOwns with ⟨user, hUser, hGet⟩
    exact ⟨user, hUser, "ownerId", by decide, hGet⟩
  · rcases (Shipped.isOwner_iff server.floats hUid
      rfl).mp hOwns with ⟨user, hUser, hGet⟩
    exact ⟨user, hUser, "uid", by decide, hGet⟩

end

--------
-- Writes Keep Owners
--------

/- The id and the times are not among the owners. -/
theorem get_document
    (server : Server)
    (id : String)
    (row : Row)
    {field : String}
    (hField : field ∈ ownerFields) :
    (document server id row).get field =
      row.data.get field := by
  have hOther :
      field ≠ "updatedAt" ∧ field ≠ "createdAt" ∧
        field ≠ "id" := by
    simp only [ownerFields, List.mem_cons,
      List.not_mem_nil, or_false] at hField
    rcases hField with rfl | rfl | rfl <;> decide
  unfold document
  split
  · rename_i fields hData
    rw [hData]
    simp only [Value.get, Value.lookup_insertField,
      if_neg hOther.1, if_neg hOther.2.1, if_neg hOther.2.2]
  · rfl

/- The merge of two values has the fields of both, or none. -/
theorem get_concat_cases
    (left right : Value)
    (field : String) :
    (left.concat right).get field = none ∨
      (left.concat right).get field =
        (right.get field).or (left.get field) := by
  cases hLeft : left.asObject with
  | none =>
    exact Or.inl (Value.get_concat_other (Or.inl hLeft) _)
  | some l =>
    cases hRight : right.asObject with
    | none =>
      exact Or.inl
        (Value.get_concat_other (Or.inr hRight) _)
    | some r =>
      cases left <;> cases hLeft
      cases right <;> cases hRight
      exact Or.inr (Value.get_concat_object l r field)

theorem OwnedBy.concat
    (floats : Floats)
    {user : String}
    {stored data : Value}
    (hOwned : OwnedBy user stored)
    (hSame :
      ∀ field ∈ ownerFields, ∀ v, data.get field = some v →
        ∃ old, stored.get field = some old ∧
          old.eq floats v = true) :
    OwnedBy user (stored.concat data) := by
  intro field hField v hGet
  rcases get_concat_cases stored data field with
    hNone | hMerged
  · rw [hNone] at hGet
    cases hGet
  · rw [hMerged] at hGet
    cases hData : data.get field with
    | none =>
      rw [hData, Option.none_or] at hGet
      exact hOwned field hField v hGet
    | some new =>
      rw [hData, Option.some_or] at hGet
      cases hGet
      rcases hSame field hField v hData with
        ⟨old, hOld, hEq⟩
      have hString := hOwned field hField old hOld
      subst hString
      cases v <;> simp_all [Value.eq]

variable {w : World}

/- The rows of a world after a write. -/
theorem OwnersIntact.write
    {change : Write}
    {row : Option Row}
    (hIntact : OwnersIntact w)
    (hNew :
      change.collection ∈ ownedCollections →
        ∀ new, row = some new →
          ∃ user, new.creator = some user ∧
            OwnedBy user new.data) :
    OwnersIntact (w.write change row) := by
  intro collection hOwned id found hFound
  simp only [World.write] at hFound
  split at hFound
  · rename_i hHere
    rw [hHere.1] at hOwned
    exact hNew hOwned found hFound
  · exact hIntact collection hOwned id found hFound

/-
  What the running request knows: the document it has just
  read is the stored one.
-/
def ReadHolds
    (server : Server)
    (tr : List (Event Res Answer))
    (w : World) : Prop :=
  ∀ collection id found, JustRead tr collection id found →
      collection ∈ ownedCollections →
        w.read server collection (bareId collection id) =
          found.toOption

/- A read fails only for a missing document. -/
def ReadsAnswer : StepCond Res Answer World :=
  fun _ o a _ =>
    match o with
    | .getDocument _ _ => a.fault = none
    | _ => True

variable {server : Server}

/- An allowed update keeps the owner of a document. -/
theorem owners_merge
    (hRules : server.rules = Shipped.engine)
    {auth : AuthContext}
    {collection id : String}
    {data : Value}
    {row : Row}
    (hOwned : collection ∈ ownedCollections)
    (hIntact : OwnersIntact w)
    (hRow : w.rows collection id = some row)
    (hAllowed :
      Allowed server collection "update" auth
        (some (document server id row)) (some data)) :
    ∃ user, row.creator = some user ∧
      OwnedBy user (row.data.concat data) := by
  rcases hIntact collection hOwned id row hRow with
    ⟨user, hCreator, hFields⟩
  refine ⟨user, hCreator, hFields.concat server.floats ?_⟩
  intro field hField v hGet
  rw [← get_document server id row hField]
  exact updateAllowed_fields hRules hOwned hAllowed field
    hField v hGet

theorem owners_step
    (hRules : server.rules = Shipped.engine)
    {auth : AuthContext}
    {tr : List (Event Res Answer)}
    {o : Op}
    {w' : World}
    (hMay : mayCall server auth tr o)
    (hChanges : Changes server o w w')
    (hIntact : OwnersIntact w)
    (hRead : ReadHolds server tr w) :
    OwnersIntact w' := by
  cases hChanges with
  | none => exact hIntact
  | sent => exact hIntact
  | created hFree =>
    rcases hMay with ⟨rfl, hAllowed⟩
    refine hIntact.write ?_
    intro hOwned new hNew
    cases hNew
    exact createAllowed_fields hRules hOwned hAllowed
  | @inserted by_ collection id data _ hFree =>
    rcases hMay with ⟨rfl, found, hJust, hAllowed⟩
    refine hIntact.write ?_
    intro hOwned new hNew
    cases hNew
    have hNow := hRead _ _ _ hJust hOwned
    rw [World.read, hFree, Option.map_none] at hNow
    rw [← hNow] at hAllowed
    exact createAllowed_fields hRules hOwned hAllowed
  | @updated by_ collection id data row _ hRow =>
    rcases hMay with ⟨rfl, existing, hJust, hAllowed⟩
    refine hIntact.write ?_
    intro hOwned new hNew
    cases hNew
    have hNow := hRead _ _ _ hJust hOwned
    rw [World.read, hRow, Option.map_some] at hNow
    change _ = some existing at hNow
    rw [← hNow] at hAllowed
    exact owners_merge hRules hOwned hIntact hRow hAllowed
  | @merged by_ collection id data row _ hRow =>
    rcases hMay with ⟨rfl, found, hJust, hAllowed⟩
    refine hIntact.write ?_
    intro hOwned new hNew
    cases hNew
    have hNow := hRead _ _ _ hJust hOwned
    rw [World.read, hRow, Option.map_some] at hNow
    rw [← hNow] at hAllowed
    exact owners_merge hRules hOwned hIntact hRow hAllowed
  | deleted hRow =>
    refine hIntact.write ?_
    intro _ new hNew
    cases hNew

/- After a step the request knows what it has read. -/
theorem readHolds_step
    {tr : List (Event Res Answer)}
    {o : Op}
    {a : Answer}
    (hCond : ReadsAnswer tr o a w) :
    ReadHolds server (⟨o, a, (exec server o a w).1⟩ :: tr)
      (exec server o a w).2 := by
  rintro collection id found ⟨b, rest, hHead⟩ hOwned
  cases o with
  | getDocument c i =>
    cases hHead
    have hFault : a.fault = none := hCond
    have hExec :
        exec server (.getDocument collection id) a w =
          getDocument server collection id w := by
      change statement collection a w _ = _
      unfold statement
      rw [validate_owned collection hOwned, hFault]
    rw [hExec]
    unfold getDocument
    split
    · rename_i value hFound
      exact hFound
    · rename_i hNone
      exact hNone
  | createDocument by_ c data => cases hHead
  | updateDocument by_ c i data => cases hHead
  | upsertDocument by_ c i data => cases hHead
  | deleteDocument by_ c i => cases hHead
  | send event => cases hHead

--------
-- Runs
--------

/- Nobody but the owner passes a check on a document. -/
theorem not_allowed_others
    {server : Server}
    (hRules : server.rules = Shipped.engine)
    {collection id user : String}
    {row : Row}
    (hOwned : collection ∈ ownedCollections)
    (hFields : OwnedBy user row.data)
    {auth : AuthContext}
    (hOther : auth.user ≠ some user)
    {operation : String}
    (hOperation : operation ∈ ["read", "update", "delete"])
    (incoming : Option Value) :
    ¬ Allowed server collection operation auth
      (some (document server id row)) incoming := by
  intro hAllowed
  rcases ownerAllowed_names hRules hOwned hOperation
    hAllowed with ⟨named, hUser, field, hField, hStr⟩
  unfold Value.getStr at hStr
  rw [get_document server id row hField] at hStr
  rcases Option.bind_eq_some_iff.mp hStr with
    ⟨v, hGet, hText⟩
  have hString := hFields field hField v hGet
  subst hString
  cases hText
  exact hOther hUser

/-
  In every run of any requests, one at a time from an empty
  store, a document of an owned collection names no owner
  but the user whose request created it, and nobody else may
  read, change or remove it.
-/
theorem owners_intact_inTurn
    {server : Server}
    (hRules : server.rules = Shipped.engine)
    {requests : List Request}
    {c : Config Res Answer World Reply}
    (hInTurn :
      InTurn (exec server) ReadsAnswer
        (Config.start World.empty
          (requests.map (Request.body server))) c)
    {collection id : String}
    {row : Row}
    (hOwned : collection ∈ ownedCollections)
    (hRow : c.world.rows collection id = some row) :
    ∃ user, row.creator = some user ∧
      (∀ field ∈ ownerFields, row.data.get field = none ∨
          row.data.get field = some (.string user)) ∧
      ∀ auth : AuthContext, auth.user ≠ some user →
        ∀ operation ∈ ["read", "update", "delete"],
          ∀ incoming,
            ¬ Allowed server collection operation auth
              (some (document server id row)) incoming := by
  have hAlong :
      ∀ request ∈ requests,
        (Request.body server request).Along
          (fun _ : Event Res Answer => True)
          (mayCall server request.auth)
          (fun _ _ => True) [] :=
    fun request _ =>
      within_body server request.auth request.mutation
  have hOwn :
      ∀ (request : Request) tr o a w,
        mayCall server request.auth tr o →
        ReadsAnswer tr o a w → OwnersIntact w →
        ReadHolds server tr w →
          OwnersIntact (exec server o a w).2 ∧
            ReadHolds server
              (⟨o, a, (exec server o a w).1⟩ :: tr)
              (exec server o a w).2 := by
    intro request tr o a w hMay hCond hIntact hRead
    exact ⟨owners_step hRules hMay
      (changes_exec server o a w) hIntact hRead,
      readHolds_step hCond⟩
  have hStart : OwnersIntact World.empty := by
    intro collection _ id row hRow
    cases hRow
  have hBegin : ∀ w, ReadHolds server [] w := by
    rintro w collection id found ⟨a, rest, hNil⟩
    cases hNil
  have hIntact := hInTurn.shares
    (fun _ _ _ _ _ => trivial) hAlong hOwn hStart hBegin
  rcases hIntact collection hOwned id row hRow with
    ⟨user, hCreator, hFields⟩
  refine ⟨user, hCreator, ?_, ?_⟩
  · intro field hField
    cases hGet : row.data.get field with
    | none => exact Or.inl rfl
    | some v =>
      exact Or.inr
        (congrArg some (hFields field hField v hGet))
  · intro auth hOther operation hOperation incoming
    exact not_allowed_others hRules hOwned hFields hOther
      hOperation incoming

/- After alice has set and updated her cart, bob is denied. -/
theorem bob_denied_cart_of_alice :
    ∃ (c : Config Res Answer World Reply) (row : Row),
      c.world.rows "cart" "c1" = some row ∧
      row.creator = some "alice" ∧
      ¬ Allowed shopServer "cart" "read" (signedIn "bob")
        (some (document shopServer "c1" row)) none := by
  have hRun :
      ((Config.start World.empty
        (cartRequests.map (Request.body shopServer))).run
          (exec shopServer)
          [(0, fine), (0, fine), (0, fine), (1, fine),
            (1, fine)]).any
        (fun c => ((c.world.rows "cart" "c1").map
          (·.creator) = some (some "alice"))) = true := by
    decide
  rcases (Option.any_eq_true _ _).mp hRun with
    ⟨c, hRun, hEnd⟩
  rcases Option.map_eq_some_iff.mp (of_decide_eq_true hEnd)
    with ⟨row, hRow, hCreator⟩
  have hInTurn :
      InTurn (exec shopServer) ReadsAnswer
        (Config.start World.empty
          (cartRequests.map (Request.body shopServer))) c := by
    refine InTurn.of_run InTurn.refl hRun ?_
      (by decide)
    exact ⟨rfl, trivial, trivial, rfl, trivial, trivial⟩
  rcases owners_intact_inTurn rfl hInTurn (by decide) hRow
    with ⟨user, hUser, _, hDenied⟩
  refine ⟨c, row, hRow, hCreator, ?_⟩
  refine hDenied (signedIn "bob") ?_ "read" (by decide) none
  rw [← hUser, hCreator]
  decide

end Orignabase.Graphql
