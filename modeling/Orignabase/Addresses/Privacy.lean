import Orignabase.Addresses.Handlers
import Orignabase.Lib.Runs
import Orignabase.Store.Rules

/-
  Whose records the requests change
  (`ob-handlers/src/addresses/mod.rs`,
  `ob-handlers/src/warehouses/mod.rs`).

  The handlers of warehouses look at the owner of the stored
  record, those of addresses at the caller's own id only.

  Key definitions include:
    * `Private`
    * `Careful`
    * `mayCall`

  Main results:
    * `body_along`
    * `kept_exec`
    * `records_private`
-/

--------
-- Private Records
--------

namespace Orignabase.Addresses

open Conc Products

/- A request of the user inserted the record. -/
def Inserted
    (w : World)
    (coll : Coll)
    (id user : String) : Prop :=
  ∃ write ∈ w.writes, write.coll = coll ∧ write.id = id ∧
      write.user = user ∧ write.before = none

/- The address was created by the user. -/
def Created (w : World) (user addressId : String) : Prop :=
  Inserted w .addresses (key .addresses addressId) user

/- A request of the user set the default address. -/
def SetDefault (w : World) (user addressId : String) : Prop :=
  ∃ write ∈ w.writes,
    write.coll = .users ∧ write.id = user ∧
      write.user = user ∧
      ∃ patch, write.incoming = some patch ∧
        patch.lookup "defaultAddressId" =
          some (.string addressId)

/-
  The default address of the user, if there is one, was set
  by the user to an address that the user created.
-/
def Chosen (w : World) (row : String × Record) : Prop :=
  ∀ v, row.2.data.lookup "defaultAddressId" = some v →
    ∃ addressId, v = .string addressId ∧
      SetDefault w row.1 addressId ∧
      Created w row.1 addressId

/-
  No request changed an address or a warehouse of another
  user, and every default address is its user's choice.
-/
structure Private (w : World) : Prop where
  own :
    ∀ write ∈ w.writes, write.coll ≠ .users →
      ∀ r, write.before = some r → r.creator = write.user
  defaults :
    ∀ row ∈ (w.table .users).rows, Chosen w row

/- No records yet, and no default address. -/
structure Start (w : World) : Prop where
  writes : w.writes = []
  addresses : (w.table .addresses).rows = []
  warehouses : (w.table .warehouses).rows = []
  defaults :
    ∀ row ∈ (w.table .users).rows,
      row.2.data.lookup "defaultAddressId" = none

/- The address, if there is one, belongs to the user. -/
def OwnAddress (w : World) (user id : String) : Prop :=
  ∀ r,
    (w.table .addresses).get (key .addresses id) = some r →
      r.creator = user

/-
  What the handlers leave unchecked: an address named by a
  request is one of the caller's, the caller's id is a text
  that keeps its meaning in a statement, and random ids are
  new.
-/
def Careful : StepCond Res Answer World :=
  fun _ o a w =>
    match o with
    | .createDocument _ coll data =>
      ∀ write ∈ w.writes,
        write.coll = coll → write.id ≠ newKey a data
    | .updateDocument user .addresses id _ =>
      OwnAddress w user id
    | .deleteDocument user .addresses id =>
      OwnAddress w user id
    | .updateDocument user .users id patch =>
      key .users id = id ∧ ∀ addressId,
          text? patch "defaultAddressId" = some addressId →
            Created w user addressId
    | .defaultWarehouses user => plain user = true
    | .otherWarehouses user _ => plain user = true
    | _ => True

instance
    (w : World)
    (coll : Coll)
    (id user : String) :
    Decidable (Inserted w coll id user) :=
  inferInstanceAs (Decidable (∃ write ∈ w.writes, _))

instance (w : World) (user addressId : String) :
    Decidable (Created w user addressId) :=
  inferInstanceAs (Decidable (Inserted ..))

instance (w : World) (user id : String) :
    Decidable (OwnAddress w user id) :=
  inferInstanceAs (Decidable (∀ r, _ = some r → _))

instance
    (tr : List (Event Res Answer))
    (o : Op)
    (a : Answer)
    (w : World) :
    Decidable (Careful tr o a w) := by
  cases o with
  | updateDocument user coll id patch =>
    cases coll <;> dsimp only [Careful] <;> infer_instance
  | deleteDocument user coll id =>
    cases coll <;> dsimp only [Careful] <;> infer_instance
  | _ => dsimp only [Careful] ; infer_instance

--------
-- What A Request May Call
--------

abbrev Trace := List (Event Res Answer)

/- The event told that the warehouse belongs to the user. -/
def Tells : Event Res Answer → String → String → Prop
  | ⟨.getDocument .warehouses id, _, .ok doc⟩, user, x =>
    x = key .warehouses id ∧
      text? doc "parent_id" = some (warehouseParent user)
  | ⟨.defaultWarehouses u, _, .ok ids⟩, user, x =>
    u = user ∧
      ∃ id ∈ ids, x = key .warehouses (key .warehouses id)
  | ⟨.otherWarehouses u _, _, .ok ids⟩, user, x =>
    u = user ∧
      ∃ id ∈ ids, x = key .warehouses (key .warehouses id)
  | _, _, _ => False

def Told (tr : Trace) (user x : String) : Prop :=
  ∃ e ∈ tr, Tells e user x

/- What a request of the user may call. -/
def mayCall (user : String) (tr : Trace) : Op → Prop
  | .createDocument u coll data =>
    u = user ∧ coll ≠ .users ∧
      (coll = .warehouses → text? data "id" = none ∧
          text? data "parent_id" =
            some (warehouseParent user))
  | .updateDocument u .users id patch =>
    u = user ∧ id = user ∧ ∃ addressId,
        patch = [("defaultAddressId", .string addressId)]
  | .updateDocument u .addresses _ _ => u = user
  | .updateDocument u .warehouses id patch =>
    u = user ∧ patch.lookup "parent_id" = none ∧
      Told tr user (key .warehouses id)
  | .deleteDocument u coll id =>
    u = user ∧ coll ≠ .users ∧
      (coll = .warehouses →
        Told tr user (key .warehouses id))
  | .defaultWarehouses u => u = user
  | .otherWarehouses u _ => u = user
  | _ => True

theorem Told.cons
    {tr : Trace}
    {user x : String}
    (hTold : Told tr user x)
    (e : Event Res Answer) :
    Told (e :: tr) user x := by
  rcases hTold with ⟨e', hMem, hTells⟩
  exact ⟨e', List.mem_cons_of_mem e hMem, hTells⟩

--------
-- The Handlers Keep The Rules
--------

open Handler

variable (chars : Chars)

/- A handler whose calls follow the rules. -/
abbrev Follows
    {α : Type}
    (user : String)
    (post : Trace → Except Error α → Prop)
    (tr : Trace)
    (p : Handler α) : Prop :=
  p.Along (fun _ => True) (mayCall user) post tr

section

variable {user : String} {tr : Trace}

theorem follows_authorize
    {auth : AuthContext}
    {userId : String}
    {next : Handler Reply}
    (hNext :
      userId = auth.userId →
        Follows auth.userId (fun _ _ => True) tr next) :
    Follows auth.userId (fun _ _ => True) tr
      (authorize auth userId next) := by
  apply along_require trivial
  intro hCheck
  have hBoth := Bool.and_eq_true_iff.mp hCheck
  exact hNext (of_decide_eq_true hBoth.2).symm

theorem addBuyerAddress_follows
    (auth : AuthContext)
    (req : AddBuyerAddressRequest) :
    Follows auth.userId (fun _ _ => True) tr
      (addBuyerAddress chars auth req) := by
  apply follows_authorize
  intro hUser
  refine along_lift (fun _ _ => trivial) fun _ _ => ?_
  refine ⟨trivial, fun _ _ _ => ?_⟩
  refine ⟨trivial, fun _ _ _ => ?_⟩
  refine ⟨⟨hUser, by decide, by rintro ⟨⟩⟩, ?_⟩
  intro _ r _
  cases r <;> trivial

theorem updateBuyerAddress_follows
    (auth : AuthContext)
    (req : UpdateBuyerAddressRequest) :
    Follows auth.userId (fun _ _ => True) tr
      (updateBuyerAddress chars auth req) := by
  apply follows_authorize
  intro hUser
  refine along_lift (fun _ _ => trivial) fun _ _ => ?_
  refine along_lift (fun _ _ => trivial) fun _ _ => ?_
  refine ⟨trivial, fun _ _ _ => ?_⟩
  refine ⟨hUser, ?_⟩
  intro _ r _
  cases r <;> trivial

theorem deleteBuyerAddress_follows
    (auth : AuthContext)
    (req : DeleteBuyerAddressRequest) :
    Follows auth.userId (fun _ _ => True) tr
      (deleteBuyerAddress auth req) := by
  apply follows_authorize
  intro hUser
  refine along_lift (fun _ _ => trivial) fun _ _ => ?_
  refine ⟨⟨hUser, by decide, by rintro ⟨⟩⟩, ?_⟩
  intro _ r _
  cases r <;> trivial

theorem setDefaultBuyerAddress_follows
    (auth : AuthContext)
    (req : SetDefaultBuyerAddressRequest) :
    Follows auth.userId (fun _ _ => True) tr
      (setDefaultBuyerAddress auth req) := by
  apply follows_authorize
  intro hUser
  refine along_lift (fun _ _ => trivial) fun _ _ => ?_
  refine ⟨⟨hUser, hUser, _, rfl⟩, ?_⟩
  intro _ r _
  cases r <;> trivial

/- A check of the store, then the rest. -/
theorem follows_checkUserRateLimit
    {action : String}
    {limit minutes : Nat}
    {f : Unit → Handler Reply}
    (hNext :
      ∀ tr', Follows user (fun _ _ => True) tr' (f ())) :
    Follows user (fun _ _ => True) tr
      (andThen (Prog.perform
          (Op.checkUserRateLimit user action limit minutes))
        f) := by
  refine ⟨trivial, ?_⟩
  intro a r _
  cases r with
  | error e => exact trivial
  | ok u => exact hNext _

variable {α : Type}

/- A part that keeps the past, then the rest. -/
theorem follows_andThen
    {β : Type}
    {post : Trace → Except Error β → Prop}
    {p : Handler α}
    {f : α → Handler β}
    (hFirst : Follows user (fun tr' _ => tr <:+ tr') tr p)
    (hFail : ∀ tr' e, tr <:+ tr' → post tr' (.error e))
    (hNext :
      ∀ tr' a, tr <:+ tr' → Follows user post tr' (f a)) :
    Follows user post tr (andThen p f) := by
  apply Prog.Along.bind hFirst
  intro tr' r hSuffix
  cases r with
  | error e => exact hFail tr' e hSuffix
  | ok a => exact hNext tr' a hSuffix

/- What keeps a past keeps the past before it. -/
theorem follows_cons
    {e : Event Res Answer}
    {p : Handler α}
    (hRest :
      Follows user (fun tr' _ => (e :: tr) <:+ tr') (e :: tr)
        p) :
    Follows user (fun tr' _ => tr <:+ tr') (e :: tr) p := by
  apply hRest.mono (fun _ _ hCan => hCan)
  intro tr' _ hSuffix
  exact List.IsSuffix.trans (List.suffix_cons e tr) hSuffix

theorem clearEach_follows
    (excludeId : Option String)
    {ids : List String}
    (hTold :
      ∀ id ∈ ids, Told tr user
          (key .warehouses (key .warehouses id))) :
    Follows user (fun tr' _ => tr <:+ tr') tr
      (clearEach user excludeId ids) := by
  induction ids generalizing tr with
  | nil => exact List.suffix_rfl
  | cons id ids ih =>
    rw [List.forall_mem_cons] at hTold
    rw [clearEach]
    split
    · exact ih hTold.2
    · refine ⟨⟨rfl, rfl, hTold.1⟩, ?_⟩
      intro a r _
      cases r with
      | error e => exact List.suffix_cons _ _
      | ok u =>
        apply follows_cons
        apply ih
        intro x hMem
        exact (hTold.2 x hMem).cons _

theorem clearOtherDefaults_follows
    (excludeId : Option String) :
    Follows user (fun tr' _ => tr <:+ tr') tr
      (clearOtherDefaults user excludeId) := by
  refine ⟨rfl, ?_⟩
  intro a r _
  cases r with
  | error e => exact List.suffix_cons _ _
  | ok ids =>
    apply follows_cons
    apply clearEach_follows excludeId
    intro id hMem
    exact ⟨_, List.mem_cons_self, rfl, id, hMem, rfl⟩

theorem promoteOther_follows (warehouseId : String) :
    Follows user (fun tr' _ => tr <:+ tr') tr
      (promoteOther user warehouseId) := by
  refine ⟨rfl, ?_⟩
  intro a r _
  cases r with
  | error e => exact List.suffix_cons _ _
  | ok ids =>
    cases ids with
    | nil => exact List.suffix_cons _ _
    | cons id ids =>
      refine ⟨⟨rfl, rfl, _, List.mem_cons_self, rfl,
        id, List.mem_cons_self, rfl⟩, ?_⟩
      intro b r' _
      exact List.IsSuffix.trans
        (List.suffix_cons _ _) (List.suffix_cons _ _)

theorem onlyIf_follows
    (test : Bool)
    {step : Handler Unit}
    (hStep :
      Follows user (fun tr' _ => tr <:+ tr') tr step) :
    Follows user (fun tr' _ => tr <:+ tr') tr
      (onlyIf test step) := by
  cases test with
  | false => exact List.suffix_rfl
  | true => exact hStep

theorem warehouseParent_ne_empty (userId : String) :
    warehouseParent userId ≠ "" := by
  intro hEmpty
  have hList := congrArg String.toList hEmpty
  rw [warehouseParent, String.toList_append] at hList
  exact absurd (List.append_eq_nil_iff.mp hList).1
    (by decide)

/- A record that was loaded belongs to the caller. -/
theorem follows_loadOwnedWarehouse
    {warehouseId : String}
    {f : Fields → Handler α}
    (hNext :
      ∀ tr' doc,
        Told tr' user (key .warehouses warehouseId) →
          Follows user (fun _ _ => True) tr' (f doc)) :
    Follows user (fun _ _ => True) tr
      (andThen (loadOwnedWarehouse user warehouseId) f) := by
  refine ⟨trivial, ?_⟩
  intro a r _
  cases r with
  | error e => exact trivial
  | ok doc =>
    show Follows user (fun _ _ => True) _
      (andThen (if _ then _ else _) f)
    split
    · exact trivial
    · rename_i hParent
      refine hNext _ doc ⟨_, List.mem_cons_self, rfl, ?_⟩
      rw [not_not] at hParent
      cases hText : text? doc "parent_id" with
      | none =>
        rw [hText] at hParent
        exact absurd hParent.symm
          (warehouseParent_ne_empty user)
      | some t =>
        rw [hText] at hParent
        exact congrArg some hParent

theorem Told.of_suffix
    {tr' : Trace}
    {x : String}
    (hTold : Told tr user x)
    (hSuffix : tr <:+ tr') :
    Told tr' user x := by
  rcases hTold with ⟨e, hMem, hTells⟩
  exact ⟨e, hSuffix.subset hMem, hTells⟩

theorem createWarehouse_follows
    (auth : AuthContext)
    (req : CreateWarehouseRequest) :
    Follows auth.userId (fun _ _ => True) tr
      (createWarehouse chars auth req) := by
  refine along_lift (fun _ _ => trivial) fun _ _ => ?_
  refine along_lift (fun _ _ => trivial) fun userId hUser => ?_
  rw [eq_of_resolveSelfUserId hUser]
  refine follows_checkUserRateLimit fun _ => ?_
  refine along_lift (fun _ _ => trivial) fun _ _ => ?_
  refine along_lift (fun _ _ => trivial) fun _ _ => ?_
  refine along_lift (fun _ _ => trivial) fun _ _ => ?_
  refine follows_andThen
    (onlyIf_follows _ (clearOtherDefaults_follows none))
    (fun _ _ _ => trivial) ?_
  intro tr' _ _
  refine ⟨trivial, fun _ _ _ => ?_⟩
  refine ⟨⟨rfl, by decide, ?_⟩, ?_⟩
  · intro _
    constructor <;>
      simp [text?, Value.lookup_merge, List.lookup_cons,
        Value.asStr]
  · intro _ r _
    cases r <;> trivial

theorem lookup_warehousePatch
    {req : UpdateWarehouseRequest}
    {patch : Fields}
    (hOk : warehousePatch chars req = .ok patch) :
    patch.lookup "parent_id" = none := by
  unfold warehousePatch at hOk
  rcases Fallible.of_bind_ok hOk with ⟨label, _, hOk⟩
  rcases Fallible.of_bind_ok hOk with ⟨kind, _, hOk⟩
  rcases Fallible.of_bind_ok hOk with ⟨address, _, hOk⟩
  cases hOk
  cases label <;> cases kind <;> cases address <;>
    cases req.isDefault <;> rfl

theorem updateWarehouse_follows
    (auth : AuthContext)
    (req : UpdateWarehouseRequest) :
    Follows auth.userId (fun _ _ => True) tr
      (updateWarehouse chars auth req) := by
  refine along_lift (fun _ _ => trivial) fun _ _ => ?_
  refine along_lift (fun _ _ => trivial) fun _ _ => ?_
  refine along_lift (fun _ _ => trivial) fun userId hUser => ?_
  rw [eq_of_resolveSelfUserId hUser]
  refine follows_checkUserRateLimit fun _ => ?_
  apply follows_loadOwnedWarehouse
  intro tr' doc hTold
  refine along_lift (fun _ _ => trivial) fun patch hPatch => ?_
  refine follows_andThen
    (onlyIf_follows _ (clearOtherDefaults_follows _))
    (fun _ _ _ => trivial) ?_
  intro tr'' _ hSuffix
  refine along_require trivial fun _ => ?_
  refine ⟨trivial, fun a r _ => ?_⟩
  refine ⟨⟨rfl, ?_, (hTold.of_suffix hSuffix).cons _⟩, ?_⟩
  · rw [Value.lookup_insertField, Value.lookup_merge,
      lookup_warehousePatch chars hPatch]
    rfl
  · intro _ r _
    cases r <;> trivial

theorem deleteWarehouse_follows
    (auth : AuthContext)
    (req : DeleteWarehouseRequest) :
    Follows auth.userId (fun _ _ => True) tr
      (deleteWarehouse auth req) := by
  refine along_lift (fun _ _ => trivial) fun _ _ => ?_
  refine along_lift (fun _ _ => trivial) fun _ _ => ?_
  refine along_lift (fun _ _ => trivial) fun userId hUser => ?_
  rw [eq_of_resolveSelfUserId hUser]
  refine follows_checkUserRateLimit fun _ => ?_
  apply follows_loadOwnedWarehouse
  intro tr' doc hTold
  refine ⟨trivial, fun a r _ => ?_⟩
  cases r with
  | error e => exact trivial
  | ok referenced =>
    refine along_require trivial fun _ => ?_
    refine follows_andThen
      (onlyIf_follows _ (promoteOther_follows _))
      (fun _ _ _ => trivial) ?_
    intro tr'' _ hSuffix
    have hKnown := (hTold.cons _).of_suffix hSuffix
    refine ⟨⟨rfl, by decide, fun _ => hKnown⟩, ?_⟩
    intro _ r _
    cases r <;> trivial

/- Every request follows the rules of its caller. -/
theorem body_along (call : Call) :
    Follows call.auth.userId (fun _ _ => True) tr
      (call.body chars) := by
  unfold Call.body
  cases call.request with
  | addBuyerAddress req =>
    exact addBuyerAddress_follows chars call.auth req
  | updateBuyerAddress req =>
    exact updateBuyerAddress_follows chars call.auth req
  | deleteBuyerAddress req =>
    exact deleteBuyerAddress_follows call.auth req
  | setDefaultBuyerAddress req =>
    exact setDefaultBuyerAddress_follows call.auth req
  | createWarehouse req =>
    exact createWarehouse_follows chars call.auth req
  | updateWarehouse req =>
    exact updateWarehouse_follows chars call.auth req
  | deleteWarehouse req =>
    exact deleteWarehouse_follows call.auth req

end

--------
-- What A Statement Does
--------

variable {coll : Coll} {user : String}

section

variable {w : World} {write : Write} {table : Table Record}

theorem table_put (coll : Coll) :
    (w.put write table).table coll =
      if coll = write.coll then table else w.table coll := rfl

theorem inserted_put_iff {coll : Coll} {id user : String} :
    Inserted (w.put write table) coll id user ↔
      (write.coll = coll ∧ write.id = id ∧
          write.user = user ∧ write.before = none) ∨
        Inserted w coll id user :=
  List.exists_mem_cons_iff _ _ _

theorem Inserted.put
    {id : String}
    (hInserted : Inserted w coll id user) :
    Inserted (w.put write table) coll id user :=
  inserted_put_iff.mpr (Or.inr hInserted)

theorem Chosen.put
    {row : String × Record}
    (hChosen : Chosen w row) :
    Chosen (w.put write table) row := by
  intro v hLookup
  rcases hChosen v hLookup with
    ⟨addressId, hValue, ⟨set, hMem, hSet⟩, hCreated⟩
  exact ⟨addressId, hValue,
    ⟨set, List.mem_cons_of_mem _ hMem, hSet⟩,
    Inserted.put hCreated⟩

end

/- A statement changes nothing, or one row of one table. -/
theorem exec_world (o : Op) (a : Answer) (w : World) :
    (exec o a w).2 = w ∨
      (∃ user coll data,
        o = .createDocument user coll data ∧
          (exec o a w).2 = w.put
              ⟨user, coll, newKey a data, some data, none⟩
              ((w.table coll).insert (newKey a data)
                ⟨data, user⟩)) ∨
      (∃ user coll id patch r,
        o = .updateDocument user coll id patch ∧
          (w.table coll).get (key coll id) = some r ∧
          (exec o a w).2 = w.put
              ⟨user, coll, key coll id, some patch, some r⟩
              ((w.table coll).modify (key coll id) (fun r =>
                { r with
                  data := Value.merge r.data patch }))) ∨
      ∃ user coll id r, o = .deleteDocument user coll id ∧
          (w.table coll).get (key coll id) = some r ∧
          (exec o a w).2 =
            w.put ⟨user, coll, key coll id, none, some r⟩
              ((w.table coll).erase (key coll id)) := by
  cases o with
  | createDocument user coll data =>
    cases hFault : a.fault with
    | some e => exact Or.inl (by simp [exec, statement, hFault])
    | none =>
      cases hGet : (w.table coll).get (newKey a data) with
      | some r =>
        refine Or.inl ?_
        simp [exec, statement, hFault, createDocument, hGet]
      | none =>
        refine Or.inr (Or.inl ⟨user, coll, data, rfl, ?_⟩)
        simp [exec, statement, hFault, createDocument, hGet]
  | updateDocument user coll id patch =>
    cases hFault : a.fault with
    | some e => exact Or.inl (by simp [exec, statement, hFault])
    | none =>
      cases hGet : (w.table coll).get (key coll id) with
      | none =>
        refine Or.inl ?_
        simp [exec, statement, hFault, updateDocument, hGet]
      | some r =>
        refine Or.inr (Or.inr (Or.inl
          ⟨user, coll, id, patch, r, rfl, hGet, ?_⟩))
        simp [exec, statement, hFault, updateDocument, hGet]
  | deleteDocument user coll id =>
    cases hFault : a.fault with
    | some e => exact Or.inl (by simp [exec, statement, hFault])
    | none =>
      cases hGet : (w.table coll).get (key coll id) with
      | none =>
        refine Or.inl ?_
        simp [exec, statement, hFault, deleteDocument, hGet]
      | some r =>
        refine Or.inr (Or.inr (Or.inr
          ⟨user, coll, id, r, rfl, hGet, ?_⟩))
        simp [exec, statement, hFault, deleteDocument, hGet]
  | checkUserRateLimit user action limit minutes =>
    exact Or.inl rfl
  | utcNow => exact Or.inl rfl
  | newId => exact Or.inl rfl
  | getDocument coll id =>
    refine Or.inl ?_
    cases hFault : a.fault <;> simp [exec, statement, hFault]
  | defaultWarehouses user =>
    refine Or.inl ?_
    cases hFault : a.fault <;> simp [exec, statement, hFault]
  | otherWarehouses user exclude =>
    refine Or.inl ?_
    cases hFault : a.fault <;> simp [exec, statement, hFault]
  | productsWith user warehouse =>
    refine Or.inl ?_
    cases hFault : a.fault <;> simp [exec, statement, hFault]

--------
-- The Invariant
--------

/- The warehouse names the user that inserted it. -/
def Owned (w : World) (row : String × Record) : Prop :=
  Inserted w .warehouses row.1 row.2.creator ∧
    text? row.2.data "parent_id" =
      some (warehouseParent row.2.creator)

/-
  Privacy, and why it lasts: warehouses name their creators,
  each id was inserted once, and ids have no colon.
-/
structure Kept (w : World) : Prop extends Private w where
  held : ∀ row ∈ (w.table .warehouses).rows, Owned w row
  unique :
    ∀ id user user', Inserted w .warehouses id user →
      Inserted w .warehouses id user' → user = user'
  named :
    ∀ id user, Inserted w .warehouses id user →
      ':' ∉ id.toList

variable {w : World}

theorem Owned.put
    {write : Write}
    {table : Table Record}
    {row : String × Record}
    (hOwned : Owned w row) :
    Owned (w.put write table) row :=
  ⟨hOwned.1.put, hOwned.2⟩

theorem key_of_no_colon
    {id : String}
    (hColon : ':' ∉ id.toList) :
    key coll id = id := by
  have hHead :
      ¬ (coll.name ++ ":").toList.isPrefixOf id.toList := by
    intro hPrefix
    apply hColon
    apply (List.isPrefixOf_iff_prefix.mp hPrefix).subset
    simp
  rw [key, docId, Text.stripPrefix, if_neg hHead]
  rfl

theorem no_colon (uuid : Uuid) : ':' ∉ uuid.val.toList := by
  intro hMem
  exact absurd (List.all_eq_true.mp uuid.property _ hMem)
    (by decide)

theorem warehouseParent_injective
    {user' : String}
    (hSame : warehouseParent user = warehouseParent user') :
    user = user' := by
  have hList := congrArg String.toList hSame
  simp only [warehouseParent, String.toList_append] at hList
  exact String.toList_inj.mp (List.append_cancel_left hList)

/- Later writes that insert nothing leave the records known. -/
theorem kept_put
    {write : Write}
    {table : Table Record}
    (hKept : Kept w)
    (hChange :
      ∃ r, write.before = some r ∧
        (write.coll ≠ .users → r.creator = write.user))
    (hUsers :
      write.coll = .users →
        ∀ row ∈ table.rows, Chosen (w.put write table) row)
    (hWarehouses :
      write.coll = .warehouses →
        ∀ row ∈ table.rows, Owned w row) :
    Kept (w.put write table) := by
  rcases hChange with ⟨r, hBefore, hOwn⟩
  have hInserted :
      ∀ coll id user,
        Inserted (w.put write table) coll id user →
          Inserted w coll id user := by
    intro coll id user hNow
    rcases inserted_put_iff.mp hNow with hNew | hOld
    · rw [hBefore] at hNew
      cases hNew.2.2.2
    · exact hOld
  refine { own := ?_, defaults := ?_, held := ?_,
           unique := ?_, named := ?_ }
  · intro entry hMem hColl r' hOld
    rcases List.mem_cons.mp hMem with rfl | hPast
    · rw [hBefore] at hOld
      rw [← Option.some.inj hOld]
      exact hOwn hColl
    · exact hKept.own entry hPast hColl r' hOld
  · intro row hMem
    rw [table_put] at hMem
    split at hMem
    · rename_i hColl
      exact hUsers hColl.symm row hMem
    · exact (hKept.defaults row hMem).put
  · intro row hMem
    rw [table_put] at hMem
    split at hMem
    · rename_i hColl
      exact (hWarehouses hColl.symm row hMem).put
    · exact (hKept.held row hMem).put
  · intro id user user' hFirst hSecond
    exact hKept.unique id user user'
      (hInserted _ _ _ hFirst) (hInserted _ _ _ hSecond)
  · intro id user hNow
    exact hKept.named id user (hInserted _ _ _ hNow)

theorem kept_create
    {data : Fields}
    {a : Answer}
    (hKept : Kept w)
    (hColl : coll ≠ .users)
    (hData :
      coll = .warehouses → text? data "id" = none ∧
          text? data "parent_id" =
            some (warehouseParent user))
    (hNew :
      ∀ write ∈ w.writes,
        write.coll = coll → write.id ≠ newKey a data) :
    Kept
      (w.put ⟨user, coll, newKey a data, some data, none⟩
        ((w.table coll).insert (newKey a data)
          ⟨data, user⟩)) := by
  refine { own := ?_, defaults := ?_, held := ?_,
           unique := ?_, named := ?_ }
  · intro entry hMem hEntry r hOld
    rcases List.mem_cons.mp hMem with rfl | hPast
    · cases hOld
    · exact hKept.own entry hPast hEntry r hOld
  · intro row hMem
    rw [table_put, if_neg (Ne.symm hColl)] at hMem
    exact (hKept.defaults row hMem).put
  · intro row hMem
    rw [table_put] at hMem
    split at hMem
    · rename_i hSame
      have hAt : coll = .warehouses := hSame.symm
      rcases List.mem_append.mp hMem with hOld | hLast
      · rw [hAt] at hOld
        exact (hKept.held row hOld).put
      · rw [List.mem_singleton.mp hLast]
        exact ⟨inserted_put_iff.mpr
          (Or.inl ⟨hAt, rfl, rfl, rfl⟩), (hData hAt).2⟩
    · exact (hKept.held row hMem).put
  · intro id first second hFirst hSecond
    rcases inserted_put_iff.mp hFirst with
      ⟨hAt, hId, rfl, _⟩ | hFirst
    · rcases inserted_put_iff.mp hSecond with
        ⟨_, _, hUser, _⟩ | ⟨entry, hMem, hEntry, hOther, _⟩
      · exact hUser
      · exact absurd (hOther.trans hId.symm)
          (hNew entry hMem (hEntry.trans hAt.symm))
    · rcases inserted_put_iff.mp hSecond with
        ⟨hAt, hId, _, _⟩ | hSecond
      · rcases hFirst with ⟨entry, hMem, hEntry, hOther, _⟩
        exact absurd (hOther.trans hId.symm)
          (hNew entry hMem (hEntry.trans hAt.symm))
      · exact hKept.unique id first second hFirst hSecond
  · intro id creator hNow
    rcases inserted_put_iff.mp hNow with
      ⟨hAt, rfl, _, _⟩ | hOld
    · show ':' ∉ (newKey a data).toList
      rw [newKey, (hData hAt).1]
      exact no_colon a.uuid
    · exact hKept.named id creator hOld

--------
-- Every Statement Keeps The Invariant
--------

section

variable {w : World}

variable {r : Record} {user : String} {tr : Trace}
variable {coll : Coll} {caller : String} {a : Answer}

theorem kept_update_users
    {id addressId : String}
    (hKept : Kept w)
    (hId : key .users id = id)
    (hCreated : Created w id addressId) :
    Kept
      (w.put ⟨id, .users, key .users id,
          some [("defaultAddressId", .string addressId)],
          some r⟩
        ((w.table .users).modify (key .users id) (fun r =>
          { r with
            data := Value.merge r.data [("defaultAddressId",
                .string addressId)] }))) := by
  refine kept_put hKept ⟨r, rfl, fun h => absurd rfl h⟩ ?_
    (by rintro ⟨⟩)
  intro _ row hMem
  rcases Table.mem_modify hMem with hOld | ⟨old, _, rfl⟩
  · exact (hKept.defaults row hOld).put
  · intro v hLookup
    simp only [Value.lookup_merge, List.lookup_cons,
      beq_self_eq_true, Option.some_or,
      Option.some.injEq] at hLookup
    refine ⟨addressId, hLookup.symm, ?_, ?_⟩
    · exact ⟨_, List.mem_cons_self, rfl, rfl, hId.symm,
        _, rfl, rfl⟩
    · rw [hId]
      exact Inserted.put hCreated

theorem kept_update_warehouses
    {id : String}
    {patch : Fields}
    (hKept : Kept w)
    (hGet : (w.table .warehouses).get id = some r)
    (hPatch : patch.lookup "parent_id" = none)
    (hTold : Inserted w .warehouses id user) :
    Kept
      (w.put ⟨user, .warehouses, id, some patch, some r⟩
        ((w.table .warehouses).modify id (fun r =>
          { r with data := Value.merge r.data patch }))) := by
  have hHeld := hKept.held _ (Table.mem_of_get hGet)
  have hCreator := hKept.unique _ _ _ hHeld.1 hTold
  refine kept_put hKept ⟨r, rfl, fun _ => hCreator⟩
    (by rintro ⟨⟩) ?_
  intro _ row hMem
  rcases Table.mem_modify hMem with hOld | ⟨old, hOld, rfl⟩
  · exact hKept.held row hOld
  · refine ⟨(hKept.held _ hOld).1, ?_⟩
    have hParent := (hKept.held _ hOld).2
    simpa only [text?, Value.lookup_merge, hPatch,
      Option.none_or] using hParent

/- What a past told is true of the records. -/
def Known (tr : Trace) (w : World) : Prop :=
  ∀ e ∈ tr, ∀ user x,
    Tells e user x → Inserted w .warehouses x user

theorem Known.of_told
    {x : String}
    (hKnown : Known tr w)
    (hTold : Told tr user x) :
    Inserted w .warehouses x user := by
  rcases hTold with ⟨e, hMem, hTells⟩
  exact hKnown e hMem user x hTells

theorem kept_update
    {id : String}
    {patch : Fields}
    (hKept : Kept w)
    (hKnown : Known tr w)
    (hCan :
      mayCall caller tr (.updateDocument user coll id patch))
    (hCareful :
      Careful tr (.updateDocument user coll id patch) a w)
    (hGet : (w.table coll).get (key coll id) = some r) :
    Kept
      (w.put ⟨user, coll, key coll id, some patch, some r⟩
        ((w.table coll).modify (key coll id) (fun r =>
          { r with data := Value.merge r.data patch }))) := by
  cases coll with
  | users =>
    rcases hCan with ⟨hUser, hId, addressId, hPatch⟩
    subst hPatch
    rw [hUser.trans hId.symm] at hCareful ⊢
    exact kept_update_users hKept hCareful.1
      (hCareful.2 addressId rfl)
  | addresses =>
    exact kept_put hKept ⟨r, rfl, fun _ => hCareful r hGet⟩
      (by rintro ⟨⟩) (by rintro ⟨⟩)
  | warehouses =>
    rcases hCan with ⟨hUser, hPatch, hTold⟩
    rw [hUser]
    exact kept_update_warehouses hKept hGet hPatch
      (hKnown.of_told hTold)

theorem kept_delete
    {id : String}
    (hKept : Kept w)
    (hKnown : Known tr w)
    (hCan : mayCall caller tr (.deleteDocument user coll id))
    (hCareful : Careful tr (.deleteDocument user coll id) a w)
    (hGet : (w.table coll).get (key coll id) = some r) :
    Kept
      (w.put ⟨user, coll, key coll id, none, some r⟩
        ((w.table coll).erase (key coll id))) := by
  rcases hCan with ⟨hUser, hNotUsers, hTold⟩
  refine kept_put hKept ⟨r, rfl, fun _ => ?_⟩
    (fun hUsers => absurd hUsers hNotUsers) ?_
  · cases coll with
    | users => exact absurd rfl hNotUsers
    | addresses => exact hCareful r hGet
    | warehouses =>
      have hHeld := hKept.held _ (Table.mem_of_get hGet)
      exact (hKept.unique _ _ _ hHeld.1
        (hKnown.of_told (hTold rfl))).trans hUser.symm
  · intro hColl row hMem
    have hAt : coll = .warehouses := hColl
    subst hAt
    exact hKept.held row (List.mem_filter.mp hMem).1

theorem kept_exec
    {o : Op}
    (hCan : mayCall caller tr o)
    (hCareful : Careful tr o a w)
    (hKept : Kept w)
    (hKnown : Known tr w) :
    Kept (exec o a w).2 := by
  rcases exec_world o a w with
    hSame | ⟨user, coll, data, rfl, hWorld⟩ |
      ⟨user, coll, id, patch, r, rfl, hGet, hWorld⟩ |
      ⟨user, coll, id, r, rfl, hGet, hWorld⟩
  · rw [hSame]
    exact hKept
  · rw [hWorld]
    refine kept_create hKept hCan.2.1 ?_ hCareful
    rw [hCan.1]
    exact hCan.2.2
  · rw [hWorld]
    exact kept_update hKept hKnown hCan hCareful hGet
  · rw [hWorld]
    exact kept_delete hKept hKnown hCan hCareful hGet

theorem inserted_exec
    {id : String}
    (o : Op)
    (a : Answer)
    (hInserted : Inserted w coll id user) :
    Inserted (exec o a w).2 coll id user := by
  rcases exec_world o a w with
    hSame | ⟨_, _, _, _, hWorld⟩ |
      ⟨_, _, _, _, _, _, _, hWorld⟩ |
      ⟨_, _, _, _, _, _, hWorld⟩
  · rw [hSame]
    exact hInserted
  all_goals
    rw [hWorld]
    exact hInserted.put

/- A statement that succeeds has no fault. -/
theorem of_statement_ok
    {α : Type}
    {body : Except Error α × World}
    {r : α}
    (hOk : (statement a w body).1 = .ok r) :
    body.1 = .ok r := by
  unfold statement at hOk
  split at hOk
  · cases hOk
  · exact hOk

/- The warehouses that a query finds are the user's. -/
theorem inserted_of_query
    {id : String}
    {rows : List (String × Record)}
    (hKept : Kept w)
    (hPlain : plain user = true)
    (hRows :
      ∀ row ∈ rows, row ∈ (w.table .warehouses).rows ∧
          ownedBy user row = true)
    (hMem : id ∈ query user a rows) :
    Inserted w .warehouses
      (key .warehouses (key .warehouses id)) user := by
  rw [query, if_pos hPlain] at hMem
  rcases List.mem_map.mp hMem with ⟨row, hRow, rfl⟩
  rcases hRows row hRow with ⟨hHere, hOwned⟩
  have hHeld := hKept.held row hHere
  have hParent : text? row.2.data "parent_id" =
      some (warehouseParent user) :=
    of_decide_eq_true hOwned
  have hUser := warehouseParent_injective
    (Option.some.inj (hHeld.2.symm.trans hParent))
  have hColon := hKept.named _ _ hHeld.1
  rw [key_of_no_colon hColon, key_of_no_colon hColon,
    ← hUser]
  exact hHeld.1

theorem tells_exec
    {o : Op}
    {x : String}
    (hCareful : Careful tr o a w)
    (hKept : Kept w)
    (hTells : Tells ⟨o, a, (exec o a w).1⟩ user x) :
    Inserted w .warehouses x user := by
  generalize hRes : (exec o a w).1 = res at hTells
  unfold Tells at hTells
  split at hTells
  · rename_i hEvent
    cases hEvent
    rcases hTells with ⟨rfl, hParent⟩
    have hOk := of_statement_ok hRes
    split at hOk
    · cases hOk
    · rename_i r hGet
      cases hOk
      have hHeld := hKept.held _ (Table.mem_of_get hGet)
      have hUser := warehouseParent_injective
        (Option.some.inj (hHeld.2.symm.trans hParent))
      rw [← hUser]
      exact hHeld.1
  · rename_i hEvent
    cases hEvent
    rcases hTells with ⟨rfl, id, hMem, rfl⟩
    cases of_statement_ok hRes
    refine inserted_of_query hKept hCareful ?_ hMem
    intro row hRow
    have hFound := List.mem_filter.mp hRow
    exact ⟨hFound.1, (Bool.and_eq_true_iff.mp hFound.2).1⟩
  · rename_i hEvent
    cases hEvent
    rcases hTells with ⟨rfl, id, hMem, rfl⟩
    cases of_statement_ok hRes
    refine inserted_of_query hKept hCareful ?_
      (List.mem_of_mem_take hMem)
    intro row hRow
    have hFound := List.mem_filter.mp
      ((List.mergeSort_perm _ _).mem_iff.mp hRow)
    exact ⟨hFound.1, (Bool.and_eq_true_iff.mp hFound.2).1⟩
  · exact hTells.elim

end

--------
-- Records Are Private
--------

theorem Start.kept
    (hStart : Start w) :
    Kept w := by
  have hNone :
      ∀ coll id user, ¬ Inserted w coll id user := by
    rintro coll id user ⟨write, hMem, _⟩
    rw [hStart.writes] at hMem
    cases hMem
  refine { own := ?_, defaults := ?_, held := ?_,
           unique := ?_, named := ?_ }
  · intro write hMem
    rw [hStart.writes] at hMem
    cases hMem
  · intro row hMem v hLookup
    rw [hStart.defaults row hMem] at hLookup
    cases hLookup
  · intro row hMem
    rw [hStart.warehouses] at hMem
    cases hMem
  · intro id user user' hFirst
    exact absurd hFirst (hNone _ _ _)
  · intro id user hFirst
    exact absurd hFirst (hNone _ _ _)

/-
  In every run whose requests name addresses of their own
  callers, records are private.
-/
theorem records_private
    (chars : Chars)
    (calls : List Call)
    {w₀ : World}
    {c : Config Res Answer World (Except Error Reply)}
    (hStart : Start w₀)
    (hReach :
      Reach exec Careful
        (Config.start w₀ (calls.map (Call.body chars))) c) :
    Private c.world := by
  have hKept : Kept c.world := hReach.holds_known
      (fun call _ => body_along chars call)
      (fun _ tr o a w hCan hCareful hKept hKnown =>
        kept_exec hCan hCareful hKept hKnown)
      (fun _ tr o a w _ hCareful hKept user x hTells =>
        inserted_exec o a (tells_exec hCareful hKept hTells))
      (fun e o a w hTold user x hTells =>
        inserted_exec o a (hTold user x hTells))
      hStart.kept
  exact hKept.toPrivate

/- Letters and digits of ASCII, and texts without HTML. -/
def asciiChars : Chars where
  upper := fun t => t
  isAlphabetic := Char.isAlpha
  isNumeric := Char.isDigit
  sanitizeHtml := fun t => t

def home : AddressPayload where
  label := "Home"
  street := "1 Main St"
  city := "Ottawa"
  province := "ON"
  postalCode := "K1A0B1"
  country := "CA"

def aliceAdds : Call where
  auth := { userId := "alice" }
  request := .addBuyerAddress ⟨"alice", home⟩

def aliceChooses : Call where
  auth := { userId := "alice" }
  request := .setDefaultBuyerAddress ⟨"alice", "addr_1"⟩

def bobUpdates : Call where
  auth := { userId := "bob" }
  request := .updateBuyerAddress ⟨"bob", "addr_1", home⟩

def twoUsers : World where
  table := fun coll =>
    match coll with
    | .users => ⟨[("alice", ⟨[], "alice"⟩),
        ("bob", ⟨[], "bob"⟩)]⟩
    | _ => ⟨[]⟩
  writes := []

theorem twoUsers_start : Start twoUsers where
  writes := rfl
  addresses := rfl
  warehouses := rfl
  defaults := by
    intro row hMem
    simp only [twoUsers, List.mem_cons,
      List.not_mem_nil, or_false] at hMem
    rcases hMem with rfl | rfl <;> rfl

/- Steps without faults of one thread after the other. -/
def steps (turns : List (Nat × Nat)) : List (Nat × Answer) :=
  turns.flatMap (fun turn =>
    List.replicate turn.2 (turn.1, { uuid := ⟨"1", by decide⟩ }))

theorem alice_chooses_private :
    ∃ c, Reach exec Careful
          (Config.start twoUsers
            ([aliceAdds, aliceChooses].map
              (Call.body asciiChars))) c ∧
        c.world.writes.length = 2 ∧ Private c.world := by
  have hRun :
      ((Config.start twoUsers ([aliceAdds, aliceChooses].map
            (Call.body asciiChars))).run exec
          (steps [(0, 3), (1, 1)])).any (fun c =>
            c.world.writes.length = 2) = true ∧
        Reach.Meets exec Careful (Config.start twoUsers
            ([aliceAdds, aliceChooses].map
              (Call.body asciiChars)))
          (steps [(0, 3), (1, 1)]) := by
    decide +kernel
  rcases (Option.any_eq_true _ _).mp hRun.1 with
    ⟨c, hSteps, hEnd⟩
  have hReach := Reach.of_run hSteps hRun.2
  exact ⟨c, hReach, of_decide_eq_true hEnd,
    records_private asciiChars _ twoUsers_start hReach⟩

theorem bob_changes_alices_address :
    ∃ c, Reach exec (fun _ _ _ _ => True)
          (Config.start twoUsers
            ([aliceAdds, bobUpdates].map
              (Call.body asciiChars))) c ∧
        ¬ Private c.world := by
  have hRun :
      ((Config.start twoUsers ([aliceAdds, bobUpdates].map
            (Call.body asciiChars))).run exec
          (steps [(0, 3), (1, 2)])).any (fun c =>
            c.world.writes.any (fun write =>
              write.coll = .addresses &&
                write.before.any (fun r =>
                  r.creator != write.user))) = true := by
    decide +kernel
  rcases (Option.any_eq_true _ _).mp hRun with
    ⟨c, hSteps, hEnd⟩
  refine ⟨c, Reach.of_run hSteps
    (Reach.Meets.of_forall (fun _ _ _ _ => trivial) _ _), ?_⟩
  intro hPrivate
  rcases List.any_eq_true.mp hEnd with ⟨write, hMem, hBad⟩
  rcases Bool.and_eq_true_iff.mp hBad with ⟨hColl, hBefore⟩
  rcases (Option.any_eq_true _ _).mp hBefore with
    ⟨r, hOld, hOther⟩
  have hAt : write.coll = .addresses :=
    of_decide_eq_true hColl
  exact absurd
    (hPrivate.own write hMem (by rw [hAt]; decide) r hOld)
    (bne_iff_ne.mp hOther)

end Orignabase.Addresses
