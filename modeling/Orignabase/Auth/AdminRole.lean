import Mathlib.Data.List.TakeWhile
import Orignabase.Auth.Steps

/-
  Where the role of an administrator comes from.

  A profile is created with the roles its caller asks for,
  but only for a caller without a document, and every token
  names a user who has one.  So the role is only ever given by
  those who have it.

  Key definitions include:
    * `Legit`
    * `OnlyAdmins`

  Main results:
    * `onlyAdmins_of_reach`
    * `owned_of_reach`
-/

--------
-- Administrators
--------

namespace Orignabase.Auth

open Conc

/- An initial administrator, or made one by another. -/
inductive Legit
    (admins : List String)
    (grants : List (String × String)) : String → Prop
  | initial
      {id : String}
      (hAdmin : id ∈ admins) : Legit admins grants id
  | granted
      {caller id : String}
      (hCaller : Legit admins grants caller)
      (hGrant : (caller, id) ∈ grants) :
      Legit admins grants id

theorem Legit.mono
    {admins : List String}
    {grants grants' : List (String × String)}
    {id : String}
    (hLegit : Legit admins grants id)
    (hMore : ∀ grant ∈ grants, grant ∈ grants') :
    Legit admins grants' id := by
  induction hLegit with
  | initial hAdmin => exact .initial hAdmin
  | granted _ hGrant ih => exact .granted ih (hMore _ hGrant)

/- The users that have the role in a store. -/
def World.admins (w : World) : List String :=
  (w.users.rows.filter
    (fun row => row.2.roles.contains "admin")).map (·.1)

/- The documents with the given user id. -/
def World.profiles (w : World) (uid : String) :
    List (String × User) :=
  w.users.rows.filter (fun row => row.2.uid = some uid)

/-
  Tokens and documents with the role are those of
  administrators, and no user id has two documents.
-/
structure OnlyAdmins (admins : List String) (w : World) :
    Prop where
  tokens :
    ∀ claims ∈ w.issued, "admin" ∈ claims.roles →
      Legit admins w.grants claims.sub
  documents :
    ∀ row ∈ w.users.rows, "admin" ∈ row.2.roles →
      Legit admins w.grants row.1
  profiles : ∀ uid, (w.profiles uid).length ≤ 1

/- An id without a colon, as those of new documents are. -/
def isBare (id : String) : Bool :=
  !id.toList.contains ':'

/-
  A store before any token was signed, with at most one
  document for every user id.
-/
structure Unused (w : World) : Prop where
  issued : w.issued = []
  grants : w.grants = []
  ids : ∀ row ∈ w.users.rows, isBare row.1 = true
  profiles : ∀ uid, (w.profiles uid).length ≤ 1

/- New documents have random ids. -/
def RandomIds : StepCond Op.Res Answer World
  | _, .createUser _, a, _ => isBare a.id = true
  | _, _, _, _ => True

theorem bareId_of_isBare
    {id : String}
    (hBare : isBare id = true) :
    bareId id = id := by
  unfold bareId Text.stripPrefix
  split_ifs with hHead
  · have hColon : ':' ∈ id.toList :=
      (List.isPrefixOf_iff_prefix.mp hHead).mem (by decide)
    simp [isBare, hColon] at hBare
  · rfl

theorem bareUid_of_isBare
    {sub : String}
    (hBare : isBare sub = true) :
    bareUid sub = sub := by
  have hAll :
      ∀ c ∈ sub.toList.reverse, decide (c ≠ ':') = true := by
    intro c hMem
    rw [List.mem_reverse] at hMem
    apply decide_eq_true
    rintro rfl
    simp [isBare, hMem] at hBare
  unfold bareUid
  rw [List.takeWhile_eq_self_iff.mpr hAll,
    List.reverse_reverse]
  exact String.ofList_toList

--------
-- What A Step Keeps
--------

/- Tokens name users that have documents. -/
structure Anchored (admins : List String) (w : World) :
    Prop where
  only : OnlyAdmins admins w
  subs :
    ∀ claims ∈ w.issued,
      isBare claims.sub = true ∧
        (w.users.get claims.sub).isSome = true
  ids : ∀ row ∈ w.users.rows, isBare row.1 = true

/- What a request knows of what it has seen. -/
structure SeenLegit
    (admins : List String)
    (tr : Trace)
    (w : World) : Prop where
  rows :
    ∀ row ∈ rows tr,
      isBare row.1 = true ∧
        (w.users.get row.1).isSome = true ∧
          ("admin" ∈ row.2.roles →
            Legit admins w.grants row.1)
  tokens : ∀ claims ∈ tokens tr, claims ∈ w.issued
  found : ¬ Missing tr

variable {admins : List String}

variable {w : World}

theorem SeenLegit.grown
    {tr : Trace}
    {w' : World}
    (hSeen : SeenLegit admins tr w)
    (hGrown : Grown w w') :
    SeenLegit admins tr w' := by
  constructor
  · intro row hMem
    have hRow := hSeen.rows row hMem
    exact ⟨hRow.1, hGrown.users _ hRow.2.1,
      fun hAdmin => (hRow.2.2 hAdmin).mono hGrown.grants⟩
  · intro claims hMem
    exact hGrown.issued _ (hSeen.tokens claims hMem)
  · exact hSeen.found

theorem Anchored.alike
    {w' : World}
    (hAnchored : Anchored admins w)
    (hAlike : Alike w w') :
    Anchored admins w' := by
  have hOnly := hAnchored.only
  refine ⟨⟨?_, ?_, ?_⟩, ?_, ?_⟩
  · rw [hAlike.issued, hAlike.grants]
    exact hOnly.tokens
  · rw [hAlike.users, hAlike.grants]
    exact hOnly.documents
  · unfold World.profiles
    rw [hAlike.users]
    exact hOnly.profiles
  · rw [hAlike.issued, hAlike.users]
    exact hAnchored.subs
  · rw [hAlike.users]
    exact hAnchored.ids

/- A token is signed for a known user. -/
theorem Anchored.sign
    {claims : Claims}
    (hAnchored : Anchored admins w)
    (hSub :
      isBare claims.sub = true ∧
        (w.users.get claims.sub).isSome = true)
    (hLegit :
      "admin" ∈ claims.roles →
        Legit admins w.grants claims.sub) :
    Anchored admins (w.sign claims) := by
  have hOnly := hAnchored.only
  refine ⟨⟨?_, hOnly.documents, hOnly.profiles⟩, ?_,
    hAnchored.ids⟩
  · intro c hMem
    rcases List.mem_cons.mp hMem with rfl | hOld
    · exact hLegit
    · exact hOnly.tokens c hOld
  · intro c hMem
    rcases List.mem_cons.mp hMem with rfl | hOld
    · exact hSub
    · exact hAnchored.subs c hOld

theorem Anchored.create
    {id : String}
    {user : User}
    (hAnchored : Anchored admins w)
    (hBare : isBare id = true)
    (hPlain : user.isPlain = true) :
    Anchored admins
      { w with users := w.users.insert id user } := by
  have hOnly := hAnchored.only
  simp only [User.isPlain, Bool.and_eq_true,
    Bool.not_eq_true', decide_eq_true_eq] at hPlain
  have hRows :
      ∀ row ∈ (w.users.insert id user).rows,
        row ∈ w.users.rows ∨ row = (id, user) := by
    intro row hMem
    rcases List.mem_append.mp hMem with hOld | hNew
    · exact Or.inl hOld
    · exact Or.inr (List.mem_singleton.mp hNew)
  refine ⟨⟨hOnly.tokens, ?_, ?_⟩, ?_, ?_⟩
  · intro row hMem hAdmin
    rcases hRows row hMem with hOld | rfl
    · exact hOnly.documents row hOld hAdmin
    · exact absurd hAdmin (by simpa using hPlain.1)
  · intro uid
    have hSame :
        ((w.users.rows ++ [(id, user)]).filter
            (fun row => row.2.uid = some uid)).length =
          (w.profiles uid).length := by
      simp [World.profiles, List.filter_append, hPlain.2]
    exact Nat.le_trans (Nat.le_of_eq hSame)
      (hOnly.profiles uid)
  · intro claims hMem
    have hSub := hAnchored.subs claims hMem
    refine ⟨hSub.1, ?_⟩
    change
      ((w.users.insert id user).get claims.sub).isSome = true
    rw [Table.get_insert, Option.isSome_or, hSub.2]
    rfl
  · intro row hMem
    rcases hRows row hMem with hOld | rfl
    · exact hAnchored.ids row hOld
    · exact hBare

theorem Anchored.update
    {caller id : String}
    {patch : UserPatch}
    (hAnchored : Anchored admins w)
    (hCaller :
      "admin" ∈ patch.roles.getD [] →
        Legit admins w.grants caller) :
    Anchored admins (w.update caller id patch) := by
  have hOnly := hAnchored.only
  have hGrants :
      ∀ grant ∈ w.grants,
        grant ∈ (w.update caller id patch).grants := by
    intro grant hMem
    change grant ∈ (if _ then _ else _ : List _)
    split_ifs
    · exact List.mem_cons_of_mem _ hMem
    · exact hMem
  have hRows :
      ∀ row ∈ (w.update caller id patch).users.rows,
        ∃ old ∈ w.users.rows, row =
            if old.1 = id then (old.1, patch.apply old.2)
            else old := by
    intro row hMem
    rcases List.mem_map.mp hMem with ⟨old, hOld, rfl⟩
    exact ⟨old, hOld, rfl⟩
  refine ⟨⟨?_, ?_, ?_⟩, ?_, ?_⟩
  · intro claims hMem hAdmin
    exact (hOnly.tokens claims hMem hAdmin).mono hGrants
  · intro row hMem hAdmin
    rcases hRows row hMem with ⟨old, hOld, rfl⟩
    split_ifs at hAdmin ⊢ with hId
    · cases hRoles : patch.roles with
      | none =>
        have hBefore : "admin" ∈ old.2.roles := by
          simpa [UserPatch.apply, hRoles] using hAdmin
        exact (hOnly.documents old hOld hBefore).mono
          hGrants
      | some roles =>
        have hGiven : "admin" ∈ patch.roles.getD [] := by
          simpa [UserPatch.apply, hRoles] using hAdmin
        refine Legit.granted
          ((hCaller hGiven).mono hGrants) ?_
        change _ ∈ (if _ then _ else _ : List _)
        rw [if_pos (by simpa using hGiven), hId]
        exact List.mem_cons_self
    · exact (hOnly.documents old hOld hAdmin).mono hGrants
  · intro uid
    have hSame :
        (w.update caller id patch).profiles uid =
          (w.profiles uid).map (fun row =>
            if row.1 = id then (row.1, patch.apply row.2)
            else row) := by
      unfold World.profiles World.update Table.modify
      rw [List.filter_map]
      congr 2
      funext row
      by_cases hId : row.1 = id <;>
        simp [hId, UserPatch.apply]
    rw [hSame, List.length_map]
    exact hOnly.profiles uid
  · intro claims hMem
    have hSub := hAnchored.subs claims hMem
    refine ⟨hSub.1, ?_⟩
    change ((w.users.modify id patch.apply).get
        claims.sub).isSome = true
    rw [Table.get_modify]
    split_ifs
    · rw [Option.isSome_map]
      exact hSub.2
    · exact hSub.2
  · intro row hMem
    rcases hRows row hMem with ⟨old, hOld, rfl⟩
    split_ifs
    · exact hAnchored.ids old hOld
    · exact hAnchored.ids old hOld

--------
-- Whole Runs
--------

variable {admins : List String}

variable {tr : Trace} {w : World} {o : Op} {a : Answer}

/- A user that a request has seen has a document. -/
theorem SeenLegit.known
    {sub : String}
    (hAnchored : Anchored admins w)
    (hSeen : SeenLegit admins tr w)
    (hKnown : KnownIn tr sub) :
    isBare sub = true ∧
      (w.users.get sub).isSome = true := by
  rcases hKnown with ⟨row, hMem, rfl⟩ | ⟨claims, hMem, rfl⟩
  · exact ⟨(hSeen.rows row hMem).1,
      (hSeen.rows row hMem).2.1⟩
  · exact hAnchored.subs claims (hSeen.tokens claims hMem)

theorem SeenLegit.backed
    {sub : String}
    {roles : List String}
    (hSeen : SeenLegit admins tr w)
    (hBare : isBare sub = true)
    (hBacked : Backed tr sub roles)
    (hAdmin : "admin" ∈ roles) :
    Legit admins w.grants sub := by
  rcases hBacked hAdmin with ⟨row, hMem, hId, rfl⟩
  rw [bareUid_of_isBare hBare, or_self] at hId
  rw [← hId]
  exact (hSeen.rows row hMem).2.2 hAdmin

theorem SeenLegit.byAdmin
    {caller : String}
    (hAnchored : Anchored admins w)
    (hSeen : SeenLegit admins tr w)
    (hAdmin : ByAdmin tr caller) :
    Legit admins w.grants caller := by
  rcases hAdmin with ⟨claims, hMem, rfl, hRole⟩
  exact hAnchored.only.tokens claims
    (hSeen.tokens claims hMem) hRole

/- The invariant after a step of a request. -/
theorem anchored_step
    (hCall : mayCall tr o)
    (hCond : RandomIds tr o a w)
    (hAnchored : Anchored admins w)
    (hSeen : SeenLegit admins tr w) :
    Anchored admins (exec o a w).2 := by
  have hTick : Anchored admins (w.tick a) :=
    hAnchored.alike ⟨rfl, rfl, rfl, rfl⟩
  by_cases hQuiet : o.isQuiet = true
  · exact hAnchored.alike (exec_quiet hQuiet a w)
  cases o with
  | signToken typ sub roles emailVerified ttl =>
    rcases exec_signToken typ sub roles emailVerified ttl a
      w with hSame | hDone
    · rw [hSame]
      exact hTick
    · rw [hDone]
      have hKnown := hSeen.known hAnchored hCall.2.1
      exact hTick.sign hKnown
        (hSeen.backed hKnown.1 hCall.2.2)
  | signRefresh via sub ttl =>
    rcases exec_signRefresh via sub ttl a w with
      hSame | hDone
    · rw [hSame]
      exact hTick
    · rw [hDone]
      have hKnown := hSeen.known hAnchored hCall.2.1
      have hSigned :
          Anchored admins ((w.tick a).sign
              ((w.tick a).newToken .refresh sub [] false
                ttl)) :=
        hTick.sign hKnown (fun hAdmin => nomatch hAdmin)
      exact ⟨⟨hSigned.only.tokens, hSigned.only.documents,
        hSigned.only.profiles⟩, hSigned.subs, hSigned.ids⟩
  | createUser user =>
    rcases exec_createUser user a w with
      ⟨hSame, _⟩ | ⟨_, hDone⟩
    · rw [hSame]
      exact hTick
    · rw [hDone]
      rcases hCall with hPlain | hMissing
      · exact hTick.create hCond hPlain
      · exact absurd hMissing hSeen.found
  | updateUser caller id patch =>
    rcases exec_updateUser caller id patch a w with
      ⟨hSame, _⟩ | ⟨_, hDone⟩
    · rw [hSame]
      exact hTick
    · rw [hDone]
      have hLegit :
          "admin" ∈ patch.roles.getD [] →
            Legit admins w.grants caller :=
        fun hAdmin =>
          hSeen.byAdmin hAnchored (hCall hAdmin)
      exact hTick.update hLegit
  | _ => exact absurd rfl hQuiet

/- A user with a document is not missed. -/
theorem missOf_exec
    {id : String}
    (hBare : isBare id = true)
    (hSome : (w.users.get id).isSome = true) :
    missOf ⟨o, a, (exec o a w).1⟩ ≠ some id := by
  intro hMiss
  cases o with
  | getUser other =>
    rcases Option.isSome_iff_exists.mp hSome with
      ⟨user, hGet⟩
    by_cases hSame : other = id
    · subst hSame
      have hGet' :
          (w.tick a).users.get (bareId other) =
            some user := by
        rw [bareId_of_isBare hBare]
        exact hGet
      cases hFault : a.fault <;>
        simp [missOf, exec, act, Answer.guard, hFault,
          hGet', databaseError] at hMiss
    · unfold missOf at hMiss
      dsimp only at hMiss
      split at hMiss
      · exact hSame (Option.some.inj hMiss)
      · cases hMiss
  | _ => cases hMiss

/- What a request knows after a step of its own. -/
theorem seenLegit_step
    (hCall : mayCall tr o)
    (hCond : RandomIds tr o a w)
    (hAnchored : Anchored admins w)
    (hSeen : SeenLegit admins tr w) :
    SeenLegit admins (⟨o, a, (exec o a w).1⟩ :: tr)
      (exec o a w).2 := by
  have hAfter := anchored_step hCall hCond hAnchored hSeen
  have hLater := hSeen.grown (grown_exec o a w)
  constructor
  · intro row hMem
    rw [rows, List.filterMap_cons] at hMem
    cases hRow : rowOf ⟨o, a, (exec o a w).1⟩ with
    | none =>
      rw [hRow] at hMem
      exact hLater.rows row hMem
    | some row' =>
      rw [hRow] at hMem
      rcases List.mem_cons.mp hMem with rfl | hOld
      · have hStored := mem_of_rowOf hRow
        exact ⟨hAfter.ids row hStored,
          Table.isSome_get_of_mem hStored,
          hAfter.only.documents row hStored⟩
      · exact hLater.rows row hOld
  · intro claims hMem
    rw [tokens, List.filterMap_cons] at hMem
    cases hToken : tokenOf ⟨o, a, (exec o a w).1⟩ with
    | none =>
      rw [hToken] at hMem
      exact hLater.tokens claims hMem
    | some claims' =>
      rw [hToken] at hMem
      rcases List.mem_cons.mp hMem with rfl | hOld
      · exact (grown_exec o a w).issued _
          (mem_of_tokenOf hToken)
      · exact hLater.tokens claims hOld
  · rintro (⟨claims, hMem, hMiss⟩ | hOld)
    · have hSub :=
        hAnchored.subs claims (hSeen.tokens claims hMem)
      exact missOf_exec hSub.1 hSub.2 hMiss
    · exact hSeen.found hOld

/-
  Whatever requests are made in whatever order, the role of
  an administrator comes from administrators.
-/
theorem onlyAdmins_of_reach
    {s : Settings}
    {calls : List Call}
    {w : World}
    {c : Config Op.Res Answer World (Except Error Reply)}
    (hStart : Unused w)
    (hReach :
      Reach exec RandomIds
        (Config.start w (requests s calls)) c) :
    OnlyAdmins w.admins c.world := by
  have hAlong :
      ∀ x ∈ calls.zipIdx,
        (x.1.body s x.2).Along Truthful mayCall
          (fun _ _ => True) [] :=
    fun x _ => follows_body s x.2 x.1
  have hAnchored : Anchored w.admins w := by
    refine ⟨⟨?_, ?_, hStart.profiles⟩, ?_, hStart.ids⟩
    · intro claims hMem
      rw [hStart.issued] at hMem
      cases hMem
    · intro row hMem hAdmin
      refine Legit.initial ?_
      refine List.mem_map.mpr ⟨row, ?_, rfl⟩
      exact List.mem_filter.mpr ⟨hMem, by simpa using hAdmin⟩
    · intro claims hMem
      rw [hStart.issued] at hMem
      cases hMem
  have hOwnStep :
      ∀ (i : ℕ) x tr o a w', calls.zipIdx[i]? = some x →
        mayCall tr o → RandomIds tr o a w' →
          Anchored w.admins w' → SeenLegit w.admins tr w' →
              Anchored w.admins (exec o a w').2 ∧
                SeenLegit w.admins
                  (⟨o, a, (exec o a w').1⟩ :: tr)
                  (exec o a w').2 := by
    intro i x tr o a w' _ hCall hCond hInv hSeen
    exact ⟨anchored_step hCall hCond hInv hSeen,
      seenLegit_step hCall hCond hInv hSeen⟩
  have hShares := hReach.shares
      (fun _ o a w' _ => truthful_exec o a w') hAlong
      hOwnStep
      (by
        intro i x tr o a w' j y tr' _ _ _ _ _ _ _ hOther
        exact hOther.grown (grown_exec o a w'))
      hAnchored
      (by
        intro i x _
        refine ⟨?_, ?_, fun h => h⟩
        · intro row hMem
          cases hMem
        · intro claims hMem
          cases hMem)
  exact hShares.1.only

--------
-- Runs
--------

instance randomIdsDecidable
    (tr : Trace)
    (o : Op)
    (a : Answer)
    (w : World) : Decidable (RandomIds tr o a w) := by
  cases o <;> dsimp only [RandomIds] <;> infer_instance

/- A store with one administrator. -/
def rootStore : World where
  users := ⟨[("root",
      { email := some "root@shop.ca"
        passwordHash := some "hash"
        roles := ["admin"] })]⟩

/- The token of the administrator after signing in. -/
def rootToken : Token :=
  .jwt
    { sub := "root"
      iat := 0
      exp := 900
      roles := ["admin"]
      typ := .access }

def guestToken : Token :=
  .jwt
    { sub := "u1"
      iat := 0
      exp := 900
      roles := ["anonymous"]
      typ := .access }

/- The administrator signs in and promotes a guest. -/
def promotion : List Call :=
  [.login
      { email := "root@shop.ca"
        password := "secret"
        turnstileToken := some "t" },
    .anonymousSignIn,
    .adminUpdateUser (some rootToken) "u1"
      { roles := some ["admin"] },
    .createProfile (some guestToken)
      { email := "u@shop.ca"
        roles := some [.admin] }]

/- The steps of some threads, one after the other. -/
def inOrder (turns : List (ℕ × ℕ)) (a : Answer) :
    List (ℕ × Answer) :=
  turns.flatMap (fun turn =>
    List.replicate turn.2 (turn.1, a))

theorem onlyAdmins_promotion :
    ∃ c : Config Op.Res Answer World (Except Error Reply),
      Reach exec RandomIds
        (Config.start rootStore (requests {} promotion)) c ∧
        c.Quiet ∧ c.world.admins = ["root", "u1"] ∧
        OnlyAdmins rootStore.admins c.world := by
  have hRun :
      ((Config.start rootStore (requests {} promotion)).run
        exec
        (inOrder [(0, 8), (1, 3), (2, 2), (3, 3)]
          { id := "u1" })).any (fun c =>
            decide c.Quiet &&
              decide (c.world.admins = ["root", "u1"])) =
        true := by
    decide
  rcases (Option.any_eq_true _ _).mp hRun with
    ⟨c, hRun, hEnd⟩
  simp only [Bool.and_eq_true, decide_eq_true_eq] at hEnd
  have hReach :
      Reach exec RandomIds
        (Config.start rootStore (requests {} promotion)) c :=
    Reach.of_run hRun (by decide)
  refine ⟨c, hReach, hEnd.1, hEnd.2, ?_⟩
  refine onlyAdmins_of_reach ⟨rfl, rfl, by decide, ?_⟩ hReach
  intro uid
  exact List.length_filter_le _ _

--------
-- Tokens Of Users
--------

variable {tr : Trace} {w : World} {o : Op} {a : Answer}

/- Every token is one of a user with a document. -/
def Owned (w : World) : Prop :=
  ∀ claims ∈ w.issued,
    (w.users.get claims.sub).isSome = true

/- The users that an event told of have documents. -/
structure Told (e : Event Op.Res Answer) (w : World) :
    Prop where
  row :
    ∀ row, rowOf e = some row →
      (w.users.get row.1).isSome = true
  token :
    ∀ claims, tokenOf e = some claims →
      (w.users.get claims.sub).isSome = true

theorem KnownIn.stored
    {sub : String}
    (hKnown : KnownIn tr sub)
    (hTold : ∀ e ∈ tr, Told e w) :
    (w.users.get sub).isSome = true := by
  rcases hKnown with ⟨row, hMem, rfl⟩ | ⟨claims, hMem, rfl⟩
  · rcases List.mem_filterMap.mp hMem with ⟨e, hEvent, hRow⟩
    exact (hTold e hEvent).row row hRow
  · rcases List.mem_filterMap.mp hMem with
      ⟨e, hEvent, hToken⟩
    exact (hTold e hEvent).token claims hToken

/- A token that is new was signed for a known user. -/
theorem owned_exec
    (hCall : mayCall tr o)
    (hOwned : Owned w)
    (hTold : ∀ e ∈ tr, Told e w) :
    Owned (exec o a w).2 := by
  have hGrown := grown_exec o a w
  have hOld :
      (exec o a w).2.issued = w.issued →
        Owned (exec o a w).2 := by
    intro hSame claims hMem
    rw [hSame] at hMem
    exact hGrown.users _ (hOwned claims hMem)
  have hNew :
      ∀ claims, (exec o a w).2.issued = claims :: w.issued →
        KnownIn tr claims.sub → Owned (exec o a w).2 := by
    intro claims hIssued hKnown other hMem
    rw [hIssued] at hMem
    apply hGrown.users
    rcases List.mem_cons.mp hMem with rfl | hMem
    · exact hKnown.stored hTold
    · exact hOwned other hMem
  by_cases hQuiet : o.isQuiet = true
  · exact hOld (exec_quiet hQuiet a w).issued
  cases o with
  | signToken typ sub roles emailVerified ttl =>
    rcases exec_signToken typ sub roles emailVerified ttl a
      w with hSame | hDone
    · exact hOld (by rw [hSame]; rfl)
    · exact hNew _ (by rw [hDone]; rfl) hCall.2.1
  | signRefresh via sub ttl =>
    rcases exec_signRefresh via sub ttl a w with
      hSame | hDone
    · exact hOld (by rw [hSame]; rfl)
    · exact hNew _ (by rw [hDone]; rfl) hCall.2.1
  | createUser user =>
    rcases exec_createUser user a w with
      ⟨hSame, _⟩ | ⟨_, hDone⟩
    · exact hOld (by rw [hSame]; rfl)
    · exact hOld (by rw [hDone]; rfl)
  | updateUser caller id patch =>
    rcases exec_updateUser caller id patch a w with
      ⟨hSame, _⟩ | ⟨_, hDone⟩
    · exact hOld (by rw [hSame]; rfl)
    · exact hOld (by rw [hDone]; rfl)
  | _ => exact absurd rfl hQuiet

theorem Told.grown
    {e : Event Op.Res Answer}
    {w' : World}
    (hTold : Told e w)
    (hGrown : Grown w w') :
    Told e w' where
  row row hRow := hGrown.users _ (hTold.row row hRow)
  token claims hToken :=
    hGrown.users _ (hTold.token claims hToken)

theorem told_exec (hOwned : Owned w) :
    Told ⟨o, a, (exec o a w).1⟩ (exec o a w).2 where
  row _ hRow := Table.isSome_get_of_mem (mem_of_rowOf hRow)
  token claims hToken :=
    (grown_exec o a w).users _
      (hOwned claims (mem_of_tokenOf hToken))

/-
  Whatever requests are made in whatever order, tokens are
  only ever signed for users that have a document.
-/
theorem owned_of_reach
    {s : Settings}
    {calls : List Call}
    {cond : StepCond Op.Res Answer World}
    {c : Config Op.Res Answer World (Except Error Reply)}
    (hOwned : Owned w)
    (hReach :
      Reach exec cond
        (Config.start w (requests s calls)) c) :
    Owned c.world := by
  have hAlong :
      ∀ x ∈ calls.zipIdx,
        (x.1.body s x.2).Along Truthful mayCall
          (fun _ _ => True) [] :=
    fun x _ => follows_body s x.2 x.1
  have hOwnStep :
      ∀ (i : ℕ) x tr o a w', calls.zipIdx[i]? = some x →
        mayCall tr o → cond tr o a w' → Owned w' →
          (∀ e ∈ tr, Told e w') →
            Owned (exec o a w').2 ∧
              ∀ e ∈ ⟨o, a, (exec o a w').1⟩ :: tr,
                Told e (exec o a w').2 := by
    intro i x tr o a w' _ hCall _ hInv hTold
    refine ⟨owned_exec hCall hInv hTold, ?_⟩
    rw [List.forall_mem_cons]
    exact ⟨told_exec hInv, fun e hMem =>
      (hTold e hMem).grown (grown_exec o a w')⟩
  have hShares := hReach.shares
      (fun _ o a w' _ => truthful_exec o a w') hAlong
      hOwnStep
      (by
        intro i x tr o a w' j y tr' _ _ _ _ _ _ _ hOther
        exact fun e hMem =>
          (hOther e hMem).grown (grown_exec o a w'))
      hOwned
      (fun i x _ e hMem => nomatch hMem)
  exact hShares.1

theorem promotion_owned :
    ∃ c : Config Op.Res Answer World (Except Error Reply),
      Reach exec (fun _ _ _ _ => True)
        (Config.start rootStore (requests {} promotion)) c ∧
        c.world.issued.length = 4 ∧ Owned c.world := by
  have hRun :
      ((Config.start rootStore (requests {} promotion)).run
        exec
        (inOrder [(0, 8), (1, 3), (2, 2), (3, 3)]
          { id := "u1" })).any (fun c =>
            c.world.issued.length = 4) = true := by
    decide
  rcases (Option.any_eq_true _ _).mp hRun with
    ⟨c, hRun, hEnd⟩
  have hReach :
      Reach exec (fun _ _ _ _ => True)
        (Config.start rootStore (requests {} promotion)) c :=
    Reach.of_run hRun
      (Reach.Meets.of_forall (fun _ _ _ _ => trivial) _ _)
  exact ⟨c, hReach, of_decide_eq_true hEnd,
    owned_of_reach
      (fun _ hMem => absurd hMem List.not_mem_nil) hReach⟩

end Orignabase.Auth
