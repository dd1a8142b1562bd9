import Orignabase.Auth.Follows

/-
  What one step does to the documents, the tokens that were
  signed and the record of who made whom an administrator, and
  what it does to the locks and the revocations.

  Main results:
    * `exec_quiet`
    * `exec_tryLock`, `exec_endLock`
    * `exec_upsertRevoked`, `exec_deleteRevoked`
    * `exec_signToken`, `exec_signRefresh`
    * `exec_createUser`, `exec_updateUser`
    * `grown_exec`
-/

--------
-- Steps
--------

namespace Orignabase.Auth

open Conc

/- An operation that signs nothing and changes no document. -/
def Op.isQuiet : Op → Bool
  | .signToken .. => false
  | .signRefresh .. => false
  | .createUser _ => false
  | .updateUser .. => false
  | _ => true

/- Nothing but locks, revocations and the clock differ. -/
structure Alike (w w' : World) : Prop where
  users : w'.users = w.users
  issued : w'.issued = w.issued
  pairs : w'.pairs = w.pairs
  grants : w'.grants = w.grants

theorem Alike.refl (w : World) : Alike w w :=
  ⟨rfl, rfl, rfl, rfl⟩

variable {a : Answer} {w : World} {o : Op}

theorem guard_snd
    {α : Type}
    {P : World → Prop}
    {e : Error}
    {result : Except Error α × World}
    (hFault : P w)
    (hDone : P result.2) :
    P (a.guard w e result).2 := by
  unfold Answer.guard
  split_ifs
  · exact hFault
  · exact hDone

/- A statement does nothing, or what it is for. -/
theorem guard_eq
    {α : Type}
    (a : Answer)
    (w : World)
    (e : Error)
    (result : Except Error α × World) :
    a.guard w e result = (.error e, w) ∨
      a.guard w e result = result := by
  unfold Answer.guard
  split_ifs
  · exact Or.inl rfl
  · exact Or.inr rfl

theorem exec_quiet
    (hQuiet : o.isQuiet = true)
    (a : Answer)
    (w : World) :
    Alike w (exec o a w).2 := by
  have hTick : Alike w (w.tick a) := ⟨rfl, rfl, rfl, rfl⟩
  cases o with
  | signToken => cases hQuiet
  | signRefresh => cases hQuiet
  | createUser user => cases hQuiet
  | updateUser => cases hQuiet
  | utcNow => exact hTick
  | utcText => exact hTick
  | checkLockout email => exact hTick
  | record => exact hTick
  | newSecret => exact hTick
  | lockElapsed lockedAt => exact hTick
  | checkTotp => exact hTick
  | verifyToken token => cases token <;> exact hTick
  | tryLock session token =>
    refine guard_snd hTick ?_
    split_ifs
    · exact ⟨rfl, rfl, rfl, rfl⟩
    · exact hTick
  | endLock session token handing =>
    simp only [exec, act]
    split_ifs <;> exact ⟨rfl, rfl, rfl, rfl⟩
  | upsertRevoked session token expiresAt =>
    exact guard_snd hTick ⟨rfl, rfl, rfl, rfl⟩
  | deleteRevoked now =>
    exact guard_snd hTick ⟨rfl, rfl, rfl, rfl⟩
  | validateTurnstile => exact guard_snd hTick hTick
  | rateLimit => exact guard_snd hTick hTick
  | userRateLimit => exact guard_snd hTick hTick
  | hashPassword => exact guard_snd hTick hTick
  | verifyPassword => exact guard_snd hTick hTick
  | userById => exact guard_snd hTick hTick
  | userByEmail => exact guard_snd hTick hTick
  | userByProvider => exact guard_snd hTick hTick
  | getUser => exact guard_snd hTick hTick
  | ensureRevokedTable => exact guard_snd hTick hTick
  | revokedExpiry => exact guard_snd hTick hTick
  | sealSecret => exact guard_snd hTick hTick
  | openSecret => exact guard_snd hTick hTick
  | newRecoveryCodes => exact guard_snd hTick hTick
  | verifyRecoveryCode => exact guard_snd hTick hTick

/- The token that is signed now. -/
def World.newToken
    (w : World)
    (typ : TokenType)
    (sub : String)
    (roles : List String)
    (emailVerified : Bool)
    (ttl : ℕ) : Claims where
  sub := sub
  iat := w.now
  exp := expiry w.now ttl
  roles := roles
  typ := typ
  emailVerified := emailVerified

theorem exec_signToken
    (typ : TokenType)
    (sub : String)
    (roles : List String)
    (emailVerified : Bool)
    (ttl : ℕ)
    (a : Answer)
    (w : World) :
    (exec (.signToken typ sub roles emailVerified ttl) a
        w).2 = w.tick a ∨
      exec (.signToken typ sub roles emailVerified ttl) a w =
        (.ok ((w.tick a).newToken typ sub roles emailVerified
            ttl),
          (w.tick a).sign
            ((w.tick a).newToken typ sub roles emailVerified
              ttl)) := by
  rcases guard_eq a (w.tick a) (.auth "Token creation failed")
    (.ok ((w.tick a).newToken typ sub roles emailVerified
        ttl),
      (w.tick a).sign
        ((w.tick a).newToken typ sub roles emailVerified
          ttl)) with hFault | hDone
  · exact Or.inl (congrArg Prod.snd hFault)
  · exact Or.inr hDone

theorem exec_signRefresh
    (via : Origin)
    (sub : String)
    (ttl : ℕ)
    (a : Answer)
    (w : World) :
    exec (.signRefresh via sub ttl) a w =
        (.error (.auth "Refresh token creation failed"),
          w.tick a) ∨
      exec (.signRefresh via sub ttl) a w =
        (.ok ((w.tick a).newToken .refresh sub [] false ttl),
          (w.tick a).signPair via
            ((w.tick a).newToken .refresh sub [] false
              ttl)) :=
  guard_eq a (w.tick a)
    (.auth "Refresh token creation failed")
    (.ok ((w.tick a).newToken .refresh sub [] false ttl),
      (w.tick a).signPair via
        ((w.tick a).newToken .refresh sub [] false ttl))

theorem exec_createUser
    (user : User)
    (a : Answer)
    (w : World) :
    (exec (.createUser user) a w).2 = w.tick a ∧
        Except.toOption (exec (.createUser user) a w).1 =
          none ∨
      (w.users.get a.id).isSome = false ∧
        exec (.createUser user) a w =
          (.ok (a.id, user),
            { w.tick a with
              users := w.users.insert a.id user }) := by
  cases hFault : a.fault with
  | true => simp [exec, act, Answer.guard, hFault,
      Except.toOption]
  | false =>
    cases hGet : (w.users.get a.id).isSome with
    | true =>
      have hGet' :
          ((w.tick a).users.get a.id).isSome = true :=
        hGet
      simp [exec, act, Answer.guard, hFault, hGet',
        Except.toOption]
    | false =>
      have hGet' :
          ((w.tick a).users.get a.id).isSome = false :=
        hGet
      refine Or.inr ⟨rfl, ?_⟩
      simp only [exec, act, Answer.guard, hFault, hGet',
        Bool.false_eq_true, if_false]
      rfl

theorem exec_updateUser
    (caller id : String)
    (patch : UserPatch)
    (a : Answer)
    (w : World) :
    (exec (.updateUser caller id patch) a w).2 = w.tick a ∧
        Except.isOk (exec (.updateUser caller id patch) a
          w).1 = false ∨
      (w.users.get (bareId id)).isSome = true ∧
        exec (.updateUser caller id patch) a w =
          (.ok (),
            (w.tick a).update caller (bareId id) patch) := by
  cases hFault : a.fault with
  | true => simp [exec, act, Answer.guard, hFault,
      Except.isOk, Except.toBool]
  | false =>
    cases hGet : (w.users.get (bareId id)).isSome with
    | true =>
      have hGet' :
          ((w.tick a).users.get (bareId id)).isSome =
            true := hGet
      refine Or.inr ⟨rfl, ?_⟩
      simp only [exec, act, Answer.guard, hFault, hGet',
        Bool.false_eq_true, if_false, if_true]
      rfl
    | false =>
      have hGet' :
          ((w.tick a).users.get (bareId id)).isSome =
            false := hGet
      simp [exec, act, Answer.guard, hFault, hGet',
        Except.isOk, Except.toBool]

/- An operation that changes no document. -/
def Op.sparesUsers : Op → Bool
  | .createUser _ => false
  | .updateUser .. => false
  | _ => true

theorem users_exec
    (hSpares : o.sparesUsers = true)
    (a : Answer)
    (w : World) :
    (exec o a w).2.users = w.users := by
  cases o with
  | createUser user => cases hSpares
  | updateUser => cases hSpares
  | signToken typ sub roles emailVerified ttl =>
    rcases exec_signToken typ sub roles emailVerified ttl a w
      with hFault | hDone
    · rw [hFault]
      rfl
    · rw [hDone]
      rfl
  | signRefresh via sub ttl =>
    rcases exec_signRefresh via sub ttl a w with
      hFault | hDone
    · rw [hFault]
      rfl
    · rw [hDone]
      rfl
  | _ => exact (exec_quiet rfl a w).users

/- Documents and tokens are only ever added. -/
structure Grown (w w' : World) : Prop where
  users :
    ∀ id, (w.users.get id).isSome = true →
      (w'.users.get id).isSome = true
  issued : ∀ claims ∈ w.issued, claims ∈ w'.issued
  grants : ∀ grant ∈ w.grants, grant ∈ w'.grants

theorem Alike.grown
    {w' : World}
    (hAlike : Alike w w') :
    Grown w w' := by
  constructor
  · intro id hSome
    rw [hAlike.users]
    exact hSome
  · intro claims hMem
    rw [hAlike.issued]
    exact hMem
  · intro grant hMem
    rw [hAlike.grants]
    exact hMem

theorem grown_exec (o : Op) (a : Answer) (w : World) :
    Grown w (exec o a w).2 := by
  have hTick : Grown w (w.tick a) :=
    ⟨fun _ h => h, fun _ h => h, fun _ h => h⟩
  by_cases hQuiet : o.isQuiet = true
  · exact (exec_quiet hQuiet a w).grown
  cases o with
  | signToken typ sub roles emailVerified ttl =>
    rcases exec_signToken typ sub roles emailVerified ttl a
      w with hSame | hDone
    · rw [hSame]
      exact hTick
    · rw [hDone]
      exact ⟨fun _ h => h,
        fun _ h => List.mem_cons_of_mem _ h, fun _ h => h⟩
  | signRefresh via sub ttl =>
    rcases exec_signRefresh via sub ttl a w with
      hSame | hDone
    · rw [hSame]
      exact hTick
    · rw [hDone]
      exact ⟨fun _ h => h,
        fun _ h => List.mem_cons_of_mem _ h, fun _ h => h⟩
  | createUser user =>
    rcases exec_createUser user a w with
      ⟨hSame, _⟩ | ⟨_, hDone⟩
    · rw [hSame]
      exact hTick
    · rw [hDone]
      refine ⟨?_, fun _ h => h, fun _ h => h⟩
      intro id hSome
      change ((w.users.insert a.id user).get id).isSome = true
      rw [Table.get_insert, Option.isSome_or, hSome]
      rfl
  | updateUser caller id patch =>
    rcases exec_updateUser caller id patch a w with
      ⟨hSame, _⟩ | ⟨_, hDone⟩
    · rw [hSame]
      exact hTick
    · rw [hDone]
      refine ⟨?_, fun _ h => h, ?_⟩
      · intro other hSome
        change ((w.users.modify (bareId id) patch.apply).get
            other).isSome = true
        rw [Table.get_modify]
        split_ifs
        · rw [Option.isSome_map]
          exact hSome
        · exact hSome
      · intro grant hMem
        change grant ∈ (if _ then _ else _ : List _)
        split_ifs
        · exact List.mem_cons_of_mem _ hMem
        · exact hMem
  | _ => exact absurd rfl hQuiet

/- What was read is in the store. -/
theorem mem_of_pickUser
    {pick : ℕ}
    {cond : User → Bool}
    {row : String × User}
    (hPick : w.pickUser pick cond = some row) :
    row ∈ w.users.rows ∧ cond row.2 = true := by
  have hMem := List.mem_of_getElem? hPick
  exact List.mem_filter.mp hMem

/- The row of a step is one of the store after it. -/
theorem mem_of_rowOf
    {row : String × User}
    (hRow : rowOf ⟨o, a, (exec o a w).1⟩ = some row) :
    row ∈ (exec o a w).2.users.rows := by
  have hRead :
      ∀ {found : Option (String × User)}, Option.join
            (Except.toOption
              (a.guard (w.tick a) databaseError
                (.ok found, w.tick a)).1) = some row →
          found = some row := by
    intro found hJoin
    unfold Answer.guard at hJoin
    split_ifs at hJoin
    · cases hJoin
    · exact hJoin
  cases o with
  | userById id =>
    have hFound := hRead hRow
    rcases Option.map_eq_some_iff.mp hFound with
      ⟨user, hGet, rfl⟩
    have hAlike := exec_quiet (o := .userById id) rfl a w
    rw [hAlike.users]
    exact Table.mem_of_get hGet
  | userByEmail email =>
    have hFound := hRead hRow
    have hAlike :=
      exec_quiet (o := .userByEmail email) rfl a w
    rw [hAlike.users]
    exact (mem_of_pickUser hFound).1
  | userByProvider provider providerId =>
    have hFound := hRead hRow
    have hAlike :=
      exec_quiet (o := .userByProvider provider providerId)
        rfl a w
    rw [hAlike.users]
    exact (mem_of_pickUser hFound).1
  | createUser user =>
    rcases exec_createUser user a w with
      ⟨_, hNone⟩ | ⟨_, hDone⟩
    · exact absurd (hNone.symm.trans hRow) (by simp)
    · rw [hDone] at hRow ⊢
      cases hRow
      exact List.mem_append_right _ List.mem_cons_self
  | _ => cases hRow

/- A token that was recognised was signed. -/
theorem mem_of_tokenOf
    {claims : Claims}
    (hToken : tokenOf ⟨o, a, (exec o a w).1⟩ = some claims) :
    claims ∈ w.issued := by
  cases o with
  | verifyToken token =>
    cases token with
    | text s => cases hToken
    | jwt c =>
      cases hAccepts : (w.tick a).accepts c with
      | false =>
        simp [tokenOf, exec, act, hAccepts,
          Except.toOption] at hToken
      | true =>
        have hEq : c = claims := by
          simpa [tokenOf, exec, act, hAccepts,
            Except.toOption] using hToken
        subst hEq
        simp only [World.accepts,
          Bool.and_eq_true] at hAccepts
        have hMem : c ∈ (w.tick a).issued := by
          simpa using hAccepts.1
        exact hMem
  | _ => cases hToken

--------
-- Locks And Revocations
--------

theorem exec_tryLock
    (session : ℕ)
    (token : Token)
    (a : Answer)
    (w : World) :
    (∃ r : Except Error Bool, Except.toOption r ≠ some true ∧
        exec (.tryLock session token) a w = (r, w.tick a)) ∨
      (∀ k, (token, k) ∉ w.locks) ∧
        exec (.tryLock session token) a w =
          (.ok true,
            { w.tick a with
              locks := (token, session) :: w.locks }) := by
  cases hFault : a.fault with
  | true =>
    refine Or.inl ⟨.error databaseError, by simp
      [Except.toOption], ?_⟩
    simp only [exec, act, Answer.guard, hFault, if_true]
    rfl
  | false =>
    by_cases hFree :
        (a.verdict &&
          !(w.tick a).locks.any (·.1 = token)) = true
    · refine Or.inr ⟨?_, ?_⟩
      · intro k hMem
        simp only [Bool.and_eq_true,
          Bool.not_eq_true', List.any_eq_false] at hFree
        exact hFree.2 (token, k) hMem (by simp)
      · simp only [exec, act, Answer.guard, hFault, hFree,
          Bool.false_eq_true, if_false, if_true]
        rfl
    · refine Or.inl ⟨.ok false, by simp
        [Except.toOption], ?_⟩
      simp only [exec, act, Answer.guard, hFault, hFree,
        Bool.false_eq_true, if_false]
      rfl

theorem exec_endLock
    (session : ℕ)
    (token : Token)
    (handing : Option Claims)
    (a : Answer)
    (w : World) :
    ∃ r : Except Error Unit,
      exec (.endLock session token handing) a w =
        (r,
          { w.tick a with
            locks := w.locks.filter (· ≠ (token, session))
            handed :=
              if Except.isOk r then
                handing.toList.map Token.jwt ++ w.handed
              else w.handed }) := by
  cases hFault : a.fault with
  | true =>
    refine ⟨.error databaseError, ?_⟩
    simp only [exec, act, hFault, if_true]
    rfl
  | false =>
    refine ⟨.ok (), ?_⟩
    simp only [exec, act, hFault, Bool.false_eq_true,
      if_false]
    rfl

theorem exec_upsertRevoked
    (session : Option ℕ)
    (token : Token)
    (expiresAt : Int)
    (a : Answer)
    (w : World) :
    exec (.upsertRevoked session token expiresAt) a w =
        (.error databaseError, w.tick a) ∨
      exec (.upsertRevoked session token expiresAt) a w =
        (.ok (),
          { w.tick a with
            revoked := (token, expiresAt) ::
                w.revoked.filter (fun row => row.1 ≠ token)
            spent :=
              session.toList.map (fun s => (token, s)) ++
                w.spent }) :=
  guard_eq a (w.tick a) databaseError _

theorem exec_deleteRevoked
    (now : Int)
    (a : Answer)
    (w : World) :
    (exec (.deleteRevoked now) a w).2 = w.tick a ∨
      (exec (.deleteRevoked now) a w).2 =
        { w.tick a with
          revoked :=
            w.revoked.filter (fun row => now ≤ row.2) } := by
  rcases guard_eq a (w.tick a) databaseError
    (.ok (w.revoked.countP (fun row => row.2 < now)),
      { w.tick a with
        revoked :=
          w.revoked.filter (fun row => now ≤ row.2) })
    with hFault | hDone
  · exact Or.inl (congrArg Prod.snd hFault)
  · exact Or.inr (congrArg Prod.snd hDone)

/- An operation after which nothing but the time differs. -/
def Op.isStill : Op → Bool
  | .utcNow => true
  | .ensureRevokedTable => true
  | .verifyToken _ => true
  | .userById _ => true
  | .revokedExpiry _ => true
  | _ => false

theorem exec_still
    (hStill : o.isStill = true)
    (a : Answer)
    (w : World) :
    (exec o a w).2 = w.tick a := by
  cases o with
  | utcNow => rfl
  | verifyToken token => cases token <;> rfl
  | ensureRevokedTable =>
    exact guard_snd (P := fun w' => w' = w.tick a) rfl rfl
  | userById id =>
    exact guard_snd (P := fun w' => w' = w.tick a) rfl rfl
  | revokedExpiry token =>
    exact guard_snd (P := fun w' => w' = w.tick a) rfl rfl
  | _ => cases hStill

/- No operation changes the time. -/
theorem now_exec (o : Op) (a : Answer) (w : World) :
    (exec o a w).2.now = (w.tick a).now := by
  have hGuard :
      ∀ {α : Type} {e : Error}
        {result : Except Error α × World},
        result.2.now = (w.tick a).now →
          (a.guard (w.tick a) e result).2.now =
            (w.tick a).now :=
    fun hDone =>
      guard_snd (P := fun w' => w'.now = (w.tick a).now) rfl
        hDone
  cases o with
  | verifyToken token => cases token <;> rfl
  | tryLock session token =>
    refine hGuard ?_
    split_ifs <;> rfl
  | endLock session token handing =>
    simp only [exec, act]
    split_ifs <;> rfl
  | createUser user =>
    refine hGuard ?_
    split_ifs <;> rfl
  | updateUser caller id patch =>
    refine hGuard ?_
    split_ifs <;> rfl
  | utcNow => rfl
  | utcText => rfl
  | checkLockout email => rfl
  | record => rfl
  | newSecret => rfl
  | lockElapsed lockedAt => rfl
  | checkTotp => rfl
  | _ => exact hGuard rfl

end Orignabase.Auth
