import Orignabase.Auth.Steps
import Orignabase.Store.Rules

/-
  The requests that store the email of a user
  (`ob-auth/src/routes.rs`), and when no two users have the
  same one.

  Key definitions include:
    * `adminCreateUser`
    * `EmailCall`
    * `StillFree`
    * `UniqueEmails`

  Main results:
    * `uniqueEmails_of_reach`
-/

--------
-- Requests
--------

namespace Orignabase.Auth

open Conc Handler

structure AdminCreateUserRequest where
  email : String
  password : String
  roles : Option (List String) := none
  emailVerified : Option Bool := none
  deriving DecidableEq, Repr

/- `POST /admin/users` -/
def adminCreateUser
    (auth : AuthContext)
    (body : AdminCreateUserRequest) :
    Handler (String × User) :=
  andThen (lift (requireAdmin auth)) fun _ =>
  andThen (lift (checkEmail body.email)) fun _ =>
  andThen (lift (validatePasswordStrength body.password))
    fun _ =>
  andThen (Db.userByEmail body.email) fun existing =>
  require existing.isNone
    (.validation "Registration failed") <|
  andThen (Db.hashPassword body.password) fun hash =>
  andThen (Db.createUser
      { email := some body.email
        passwordHash := some hash
        roles := body.roles.getD ["user"]
        emailVerified := some (body.emailVerified.getD false)
        mfaEnabled := some false })
    fun row =>
  -- The hash is not part of the answer.
  ok (row.1, { row.2 with passwordHash := none })

/- A request that may store an email. -/
inductive EmailCall
  | register (body : RegisterRequest)
  | adminCreateUser
      (bearer : Option Token)
      (body : AdminCreateUserRequest)
  | anonymousUpgrade
      (bearer : Option Token)
      (body : AnonymousUpgradeRequest)
  | adminUpdateUser
      (bearer : Option Token)
      (userId : String)
      (body : AdminUpdateUserRequest)
  | oauth (info : OAuthUserInfo)
  deriving DecidableEq, Repr

/- The answer, or the document of a user. -/
abbrev EmailReply := Reply ⊕ (String × User)

def answering (p : Handler Reply) : Handler EmailReply :=
  andThen p fun r => ok (.inl r)

def EmailCall.body (s : Settings) :
    EmailCall → Handler EmailReply
  | .register body =>
    answering ((Call.register body).body s 0)
  | .adminCreateUser bearer body =>
    andThen
      (asCaller s bearer fun auth =>
        Auth.adminCreateUser auth body)
      fun row => ok (.inr row)
  | .anonymousUpgrade bearer body =>
    answering
      ((Call.anonymousUpgrade bearer body).body s 0)
  | .adminUpdateUser bearer userId body =>
    answering
      ((Call.adminUpdateUser bearer userId body).body s 0)
  | .oauth info =>
    answering ((Call.oauth info).body s 0)

--------
-- Checked Emails
--------

/- The email that an event has found at no user. -/
def freeOf : Event Op.Res Answer → Option String
  | ⟨.userByEmail email, _, r⟩ =>
    if Except.toOption r = some none then some email
    else none
  | _ => none

/- The request has asked for the email and found no user. -/
def FoundFree (tr : Trace) (email : String) : Prop :=
  ∃ e ∈ tr, freeOf e = some email

instance foundFreeDecidable
    (tr : Trace)
    (email : String) : Decidable (FoundFree tr email) :=
  inferInstanceAs
    (Decidable (∃ e ∈ tr, freeOf e = some email))

/- A user is created only with an email that was checked. -/
def mayStore (tr : Trace) : Op → Prop
  | .createUser user =>
    ∀ email ∈ user.email, FoundFree tr email
  | _ => True

def Op.createsUser : Op → Bool
  | .createUser _ => true
  | _ => false

variable {tr : Trace}

section

variable {α β : Type}

/- A part of a request, with what it creates checked. -/
abbrev Stores
    (p : Prog Op.Res α)
    (tr : Trace) : Prop :=
  p.Along (fun _ => True) mayStore (fun _ _ => True) tr

/- A part that creates no user. -/
abbrev CreatesNone (p : Prog Op.Res α) : Prop :=
  p.Uses (fun o => o.createsUser = false)

theorem mayStore_of_createsNone
    {o : Op}
    (hOp : o.createsUser = false)
    (tr : Trace) :
    mayStore tr o := by
  cases o with
  | createUser user => cases hOp
  | _ => trivial

theorem CreatesNone.stores
    {p : Prog Op.Res α}
    (hUses : CreatesNone p)
    (tr : Trace) :
    Stores p tr :=
  Prog.Along.mono (Prog.Uses.along hUses
      (fun tr' _ _ hOp => mayStore_of_createsNone hOp tr'))
    (fun _ _ h => h) (fun _ _ _ => trivial)

/- A part that creates no user, first. -/
theorem CreatesNone.andThen
    {p : Handler β}
    {f : β → Handler α}
    (hUses : CreatesNone p)
    (hNext : ∀ tr' b, Stores (f b) tr') :
    Stores (andThen p f) tr :=
  along_andThen hUses
    (fun tr' _ _ hOp => mayStore_of_createsNone hOp tr')
    (fun _ _ _ => trivial) (fun tr' b _ => hNext tr' b)

theorem Aside.createsNone
    {p : Prog Op.Res α}
    (hAside : Aside p) :
    CreatesNone p := by
  refine hAside.mono ?_
  intro o hOp
  cases o with
  | createUser user => cases hOp
  | _ => rfl

/- The rest of a request after all it may have created. -/
theorem stores_andThen
    {p : Handler β}
    {f : β → Handler α}
    (hFirst : Stores p tr)
    (hNext : ∀ b, CreatesNone (f b)) :
    Stores (andThen p f) tr := by
  refine Prog.Along.bind hFirst ?_
  intro tr' r _
  cases r with
  | error e => exact trivial
  | ok b => exact (hNext b).stores tr'

end

theorem createsNone_issuePair
    (s : Settings)
    (via : Origin)
    (sub : String)
    (roles : List String)
    (emailVerified : Bool) :
    CreatesNone (issuePair s via sub roles emailVerified) := by
  refine ⟨rfl, fun r => ?_⟩
  rcases (r : Except Error Claims) with e | access
  · exact True.intro
  refine ⟨rfl, fun r => ?_⟩
  rcases (r : Except Error Claims) with e | renew
  · exact True.intro
  · exact True.intro

theorem createsNone_extractor
    (s : Settings)
    (bearer : Option Token) :
    CreatesNone (authExtractor s bearer) := by
  cases bearer with
  | none => exact True.intro
  | some token =>
    refine ⟨rfl, fun r => ?_⟩
    rcases (r : Except Error Claims) with e | claims
    · change Prog.Uses _ (if _ then _ else _)
      split_ifs <;> exact True.intro
    · change Prog.Uses _ (if _ then _ else _)
      split_ifs <;> exact True.intro

theorem stores_asCaller
    {α : Type}
    {s : Settings}
    {bearer : Option Token}
    {body : AuthContext → Handler α}
    (hBody : ∀ auth tr, Stores (body auth) tr)
    (tr : Trace) :
    Stores (asCaller s bearer body) tr :=
  (createsNone_extractor s bearer).andThen
    (fun tr' auth => hBody auth tr')

/-
  The check of a new email and what is created after it.
-/
theorem stores_checked
    {α : Type}
    {email password : String}
    {user : String → User}
    {next : String × User → Handler α}
    (hEmail : ∀ hash, (user hash).email = some email)
    (hNext : ∀ row, CreatesNone (next row))
    (tr : Trace) :
    Stores
      (andThen (Db.userByEmail email) fun existing =>
        require existing.isNone
          (.validation "Registration failed") <|
        andThen (Db.hashPassword password) fun hash =>
        andThen (Db.createUser (user hash)) next) tr := by
  refine ⟨trivial, fun a r _ => ?_⟩
  rcases (r : Except Error (Option (String × User))) with
    e | existing
  · exact trivial
  refine along_require trivial ?_
  intro hNone
  rw [Option.isNone_iff_eq_none] at hNone
  subst hNone
  refine ⟨trivial, fun a' r _ => ?_⟩
  rcases (r : Except Error String) with e | hash
  · exact trivial
  refine ⟨?_, fun a'' r _ => ?_⟩
  · intro email' hMem
    rw [hEmail hash] at hMem
    cases hMem
    exact ⟨_, List.mem_cons_of_mem _ List.mem_cons_self,
      by simp [freeOf, Except.toOption]⟩
  · rcases (r : Except Error (String × User)) with e | row
    · exact trivial
    · exact (hNext row).stores _

theorem stores_register
    (s : Settings)
    (body : RegisterRequest)
    (tr : Trace) :
    Stores (register s body) tr := by
  refine (aside_checkTurnstile s _).createsNone.andThen ?_
  intro tr _
  refine along_lift (fun _ _ => trivial) (fun _ _ => ?_)
  refine along_lift (fun _ _ => trivial) (fun _ _ => ?_)
  refine stores_checked (fun _ => rfl) ?_ tr
  intro row
  refine ⟨rfl, fun r => ?_⟩
  rcases (r : Except Error Claims) with e | claims
  · exact True.intro
  refine ⟨rfl, fun _ => ?_⟩
  change Prog.Uses _ (if _ then _ else _)
  split_ifs
  · exact True.intro
  · exact uses_andThen (createsNone_issuePair ..)
      (fun _ => True.intro)

theorem stores_adminCreateUser
    (auth : AuthContext)
    (body : AdminCreateUserRequest)
    (tr : Trace) :
    Stores (adminCreateUser auth body) tr := by
  refine along_lift (fun _ _ => trivial) (fun _ _ => ?_)
  refine along_lift (fun _ _ => trivial) (fun _ _ => ?_)
  refine along_lift (fun _ _ => trivial) (fun _ _ => ?_)
  refine stores_checked (fun _ => rfl) ?_ tr
  exact fun _ => True.intro

theorem createsNone_anonymousUpgrade
    (s : Settings)
    (auth : AuthContext)
    (body : AnonymousUpgradeRequest) :
    CreatesNone (anonymousUpgrade s auth body) := by
  refine uses_require ?_
  refine uses_andThen True.intro (fun _ => ?_)
  refine uses_andThen True.intro (fun _ => ?_)
  refine uses_andThen ⟨rfl, fun _ => True.intro⟩ ?_
  intro existing
  refine uses_require ?_
  refine uses_andThen ⟨rfl, fun _ => True.intro⟩ ?_
  intro hash
  refine uses_andThen ⟨rfl, fun _ => True.intro⟩ ?_
  intro _
  refine uses_andThen ⟨rfl, fun _ => True.intro⟩ ?_
  intro claims
  refine ⟨rfl, fun _ => ?_⟩
  refine uses_andThen (createsNone_issuePair ..) ?_
  intro tokens
  refine uses_andThen ⟨rfl, fun _ => True.intro⟩ ?_
  exact fun _ => True.intro

theorem createsNone_adminUpdateUser
    (auth : AuthContext)
    (userId : String)
    (body : AdminUpdateUserRequest) :
    CreatesNone (adminUpdateUser auth userId body) := by
  refine uses_andThen True.intro (fun _ => ?_)
  refine uses_require ?_
  refine uses_andThen ⟨rfl, fun _ => True.intro⟩ ?_
  exact fun _ => True.intro

theorem stores_oauthAccount
    (info : OAuthUserInfo)
    (tr : Trace) :
    Stores (oauthAccount info) tr := by
  refine ⟨trivial, fun a r _ => ?_⟩
  rcases (r : Except Error (Option (String × User))) with
    e | existing
  · exact trivial
  cases existing with
  | some row => exact trivial
  | none =>
    have hEmail :
        (emailUser info).Along (fun _ => True) mayStore
          (fun tr' r => r = .ok none →
            ∀ email ∈ info.email, FoundFree tr' email)
          (⟨.userByProvider info.provider.asStr
            info.providerId, a, .ok none⟩ :: tr) := by
      unfold emailUser
      cases info.email with
      | none => exact fun _ _ h => nomatch h
      | some email =>
        refine ⟨trivial, fun a r _ hNone email' hMem => ?_⟩
        cases hMem
        refine ⟨_, List.mem_cons_self, ?_⟩
        simp [freeOf, hNone, Except.toOption]
    change Prog.Along _ _ _ _ (andThen (emailUser info) _)
    refine Prog.Along.bind hEmail ?_
    intro tr' r hFree
    rcases r with e | linked
    · exact trivial
    cases linked with
    | none =>
      exact ⟨fun email hMem => hFree rfl email hMem,
        fun _ _ _ => trivial⟩
    | some row =>
      refine CreatesNone.stores ?_ tr'
      refine uses_andThen ⟨rfl, fun _ => True.intro⟩ ?_
      exact fun _ => True.intro

theorem stores_body (s : Settings) (call : EmailCall) :
    Stores (call.body s) [] := by
  cases call with
  | register body =>
    refine stores_andThen ?_ (fun _ => True.intro)
    refine stores_andThen ?_ (fun _ => True.intro)
    exact stores_register s body []
  | adminCreateUser bearer body =>
    refine stores_andThen ?_ (fun _ => True.intro)
    exact stores_asCaller
      (fun auth => stores_adminCreateUser auth body) []
  | anonymousUpgrade bearer body =>
    refine stores_andThen ?_ (fun _ => True.intro)
    refine stores_andThen ?_ (fun _ => True.intro)
    exact stores_asCaller (fun auth tr =>
        (createsNone_anonymousUpgrade s auth body).stores
          tr) []
  | adminUpdateUser bearer userId body =>
    refine stores_andThen ?_ (fun _ => True.intro)
    refine stores_andThen ?_ (fun _ => True.intro)
    exact stores_asCaller (fun auth tr =>
        (createsNone_adminUpdateUser auth userId
          body).stores tr) []
  | oauth info =>
    refine stores_andThen ?_ (fun _ => True.intro)
    refine stores_andThen ?_ (fun _ => True.intro)
    refine stores_andThen (stores_oauthAccount info []) ?_
    intro row
    refine uses_andThen True.intro (fun _ => ?_)
    refine uses_andThen (createsNone_issuePair ..) ?_
    exact fun _ => ⟨rfl, fun _ => True.intro⟩

--------
-- Steps
--------

/- How many users have an email. -/
def World.holders (w : World) (email : String) : ℕ :=
  w.users.rows.countP (fun row => row.2.email = some email)

/- No other user than this one has the email. -/
def World.freeBut
    (w : World)
    (id email : String) : Bool :=
  w.users.rows.all (fun row =>
    row.1 = id || row.2.email ≠ some email)

/-
  No two users have the same email, so a query by email finds
  one user at most.
-/
def UniqueEmails (w : World) : Prop :=
  ∀ email, w.holders email ≤ 1

/-
  When a request stores an email that it has checked, the
  check is still right.  An email that was not checked is one
  that no other user has.
-/
def StillFree : StepCond Op.Res Answer World
  | tr, .createUser user, _, w =>
    ∀ email ∈ user.email, FoundFree tr email →
      w.holders email = 0
  | tr, .updateUser _ id patch, _, w =>
    ∀ email ∈ patch.email,
      if FoundFree tr email then w.holders email = 0
      else w.freeBut (bareId id) email = true
  | _, _, _, _ => True

/- Every id is that of one user, and so is every email. -/
structure Distinct (w : World) : Prop where
  ids : w.users.keys.Nodup
  emails : UniqueEmails w

variable {w : World}

theorem Distinct.of_users
    {w' : World}
    (hDistinct : Distinct w)
    (hUsers : w'.users = w.users) :
    Distinct w' := by
  constructor
  · rw [hUsers]
    exact hDistinct.ids
  · intro email
    rw [World.holders, hUsers]
    exact hDistinct.emails email

theorem freeBut_of_holders
    {email : String}
    (hNone : w.holders email = 0)
    (id : String) :
    w.freeBut id email = true := by
  rw [World.holders, List.countP_eq_zero] at hNone
  rw [World.freeBut, List.all_eq_true]
  intro row hMem
  simpa using Or.inr (by simpa using hNone row hMem)

theorem distinct_insert
    {id : String}
    {user : User}
    (hDistinct : Distinct w)
    (hNew : (w.users.get id).isSome = false)
    (hFree :
      ∀ email ∈ user.email, w.holders email = 0) :
    Distinct { w with users := w.users.insert id user } := by
  constructor
  · change (w.users.insert id user).keys.Nodup
    rw [Table.keys, Table.insert, List.map_append,
      ← Table.keys, List.map_singleton,
      ← List.concat_eq_append]
    apply hDistinct.ids.concat
    apply Table.not_mem_keys_of_get_eq_none
    simpa using hNew
  · intro email
    have hCount :
        World.holders
            { w with users := w.users.insert id user } email =
          w.holders email +
            if user.email = some email then 1 else 0 := by
      simp [World.holders, Table.insert, List.countP_append,
        List.countP_singleton]
    have hOne := hDistinct.emails email
    rw [hCount]
    split_ifs with hEmail
    · have hNone := hFree email hEmail
      omega
    · omega

/- One user is changed, to an email that no other user has. -/
theorem distinct_modify
    {id : String}
    {patch : UserPatch}
    (hDistinct : Distinct w)
    (hFree :
      ∀ email ∈ patch.email, w.freeBut id email = true) :
    Distinct
      { w with users := w.users.modify id patch.apply } := by
  constructor
  · change (w.users.modify id patch.apply).keys.Nodup
    rw [Table.keys_modify]
    exact hDistinct.ids
  · intro email
    have hCount :
        World.holders
            { w with
              users := w.users.modify id patch.apply } email =
          w.users.rows.countP (fun row =>
            if row.1 = id then
              (patch.email.or row.2.email) = some email
            else row.2.email = some email) := by
      simp only [World.holders, Table.modify,
        List.countP_map]
      congr 1
      funext row
      by_cases hRow : row.1 = id <;>
        simp [hRow, UserPatch.apply]
    rw [hCount]
    by_cases hEmail : patch.email = some email
    · -- The user is the only one that has the email now.
      have hOthers := hFree email hEmail
      rw [World.freeBut, List.all_eq_true] at hOthers
      have hOne :
          w.users.rows.countP (fun row => row.1 == id) ≤ 1 := by
        have hKeys :=
          List.nodup_iff_count_le_one.mp hDistinct.ids id
        rwa [Table.keys, List.count, List.countP_map] at hKeys
      refine Nat.le_trans (List.countP_mono_left ?_) hOne
      intro row hMem hHas
      have hOther := hOthers row hMem
      by_cases hRow : row.1 = id
      · simpa using hRow
      · simp only [hRow, if_false, decide_eq_true_eq] at hHas
        simp [hRow, hHas] at hOther
    · -- Who has the email had it before.
      refine Nat.le_trans (List.countP_mono_left ?_)
        (hDistinct.emails email)
      intro row _ hHas
      by_cases hRow : row.1 = id
      · simp only [hRow, if_true, decide_eq_true_eq,
          Option.or_eq_some_iff] at hHas
        rcases hHas with hNew | hOld
        · exact absurd hNew hEmail
        · simpa using hOld.2
      · simpa [hRow] using hHas

/- What one step does to the emails. -/
theorem distinct_step
    {o : Op}
    {a : Answer}
    (hCan : mayStore tr o)
    (hCond : StillFree tr o a w)
    (hDistinct : Distinct w) :
    Distinct (exec o a w).2 := by
  have hTick : Distinct (w.tick a) := hDistinct.of_users rfl
  cases o with
  | createUser user =>
    rcases exec_createUser user a w with
      ⟨hSame, _⟩ | ⟨hNew, hDone⟩
    · rw [hSame]
      exact hTick
    · rw [hDone]
      refine distinct_insert hTick hNew ?_
      intro email hMem
      exact hCond email hMem (hCan email hMem)
  | updateUser caller id patch =>
    rcases exec_updateUser caller id patch a w with
      ⟨hSame, _⟩ | ⟨_, hDone⟩
    · rw [hSame]
      exact hTick
    · rw [hDone]
      have hFree :
          ∀ email ∈ patch.email,
            (w.tick a).freeBut (bareId id) email = true := by
        intro email hMem
        have hNow := hCond email hMem
        split_ifs at hNow
        · exact freeBut_of_holders hNow _
        · exact hNow
      exact (distinct_modify hTick hFree).of_users rfl
  | _ => exact hDistinct.of_users (users_exec rfl a w)

--------
-- Whole Runs
--------

/- A query by email finds one user, whichever row it takes. -/
theorem pickUser_of_unique
    (hUnique : UniqueEmails w)
    (email : String)
    (pick pick' : ℕ) :
    w.pickUser pick (fun u => u.email = some email) =
      w.pickUser pick' (fun u => u.email = some email) := by
  have hOne := hUnique email
  rw [World.holders, List.countP_eq_length_filter] at hOne
  unfold World.pickUser
  generalize w.users.rows.filter
      (fun row => decide (row.2.email = some email)) = found
    at hOne
  rcases found with _ | ⟨row, rest⟩
  · rfl
  · have hRest : rest = [] := by
      rw [List.length_cons] at hOne
      exact List.eq_nil_of_length_eq_zero (by omega)
    subst hRest
    simp [Nat.mod_one]

/-
  In a run in which every duplicate check is still right when
  the email is stored, and administrators set emails that no
  other user has, no two users have the same email.
-/
theorem uniqueEmails_of_reach
    (s : Settings)
    (calls : List EmailCall)
    (w : World)
    (c : Config Op.Res Answer World (Except Error EmailReply))
    (hStart : Distinct w)
    (hReach :
      Reach exec StillFree
        (Config.start w (calls.map (EmailCall.body s))) c) :
    UniqueEmails c.world ∧ ∀ email pick pick',
        c.world.pickUser pick
            (fun u => u.email = some email) =
          c.world.pickUser pick'
            (fun u => u.email = some email) := by
  have hAlong :
      ∀ x ∈ calls, Stores (x.body s) [] :=
    fun x _ => stores_body s x
  have hDistinct : Distinct c.world :=
    hReach.holds_along (fun _ _ _ _ _ => trivial)
      (Config.within_start hAlong w)
      (fun _ _ _ _ _ hCan hCond hNow =>
        distinct_step hCan hCond hNow) hStart
  exact ⟨hDistinct.emails,
    pickUser_of_unique hDistinct.emails⟩

instance stillFreeDecidable
    (tr : Trace)
    (o : Op)
    (a : Answer)
    (w : World) : Decidable (StillFree tr o a w) := by
  apply Op.casesOn
    (motive := fun o => Decidable (StillFree tr o a w)) o <;>
  intros <;> dsimp only [StillFree] <;> infer_instance

def adminToken : Claims where
  sub := "a1"
  iat := 0
  exp := 900
  roles := ["admin"]
  typ := .access

/- An administrator, who is the only user. -/
def onlyAdmin : World where
  users := ⟨[("a1",
      { email := some "admin@shop.ca"
        roles := ["admin"] })]⟩
  issued := [adminToken]

def signUp (email : String) : EmailCall :=
  .register
    { email := email
      password := "Correct-Horse-7"
      turnstileToken := some "ok" }

/- The steps of a request, with the id of what it creates. -/
def stepsAs (i n : ℕ) (id : String) : List (ℕ × Answer) :=
  List.replicate n (i, { id := id, text := "hash" })

theorem distinct_onlyAdmin : Distinct onlyAdmin := by
  refine ⟨by decide, ?_⟩
  intro email
  exact Nat.le_trans List.countP_le_length (by decide)

/- Three sign-ins of two users, and a change. -/
def signIns : List EmailCall :=
  [.oauth
      { providerId := "g1"
        provider := .google
        email := some "bob@shop.ca" },
    .oauth
      { providerId := "p1"
        provider := .apple
        email := some "bob@shop.ca" },
    .oauth
      { providerId := "g2"
        provider := .google
        email := some "eve@shop.ca" },
    .adminUpdateUser (some (.jwt adminToken)) "u2"
      { email := some "eva@shop.ca" }]

/- One request after the other. -/
theorem uniqueEmails_oneByOne :
    ∃ c : Config Op.Res Answer World
        (Except Error EmailReply),
      Reach exec StillFree
          (Config.start onlyAdmin
            (signIns.map (EmailCall.body {}))) c ∧
        c.world.users.rows.length = 3 ∧
        UniqueEmails c.world := by
  have hRun :
      ((Config.start onlyAdmin
          (signIns.map (EmailCall.body {}))).run exec
        (stepsAs 0 6 "u1" ++ stepsAs 1 6 "u2" ++
          stepsAs 2 6 "u2" ++ stepsAs 3 2 "u3")).any (fun c =>
            decide (c.world.users.rows.length = 3)) =
          true := by
    decide
  rcases (Option.any_eq_true _ _).mp hRun with
    ⟨c, hRun, hEnd⟩
  have hReach :
      Reach exec StillFree (Config.start onlyAdmin
          (signIns.map (EmailCall.body {}))) c :=
    Reach.of_run hRun (by decide)
  exact ⟨c, hReach, of_decide_eq_true hEnd,
    (uniqueEmails_of_reach {} signIns onlyAdmin c
      distinct_onlyAdmin hReach).1⟩

/-
  Two registrations with the same email that both look for it
  before either has stored it.
-/
theorem not_uniqueEmails_same_time :
    ¬ ∀ s (calls : List EmailCall) w
        (c : Config Op.Res Answer World
          (Except Error EmailReply)),
      Distinct w → Reach exec (fun _ _ _ _ => True)
          (Config.start w (calls.map (EmailCall.body s))) c →
          UniqueEmails c.world := by
  intro hAll
  let calls : List EmailCall :=
    [signUp "bob@shop.ca", signUp "bob@shop.ca"]
  let c₀ :
      Config Op.Res Answer World (Except Error EmailReply) :=
    Config.start onlyAdmin (calls.map (EmailCall.body {}))
  have hRun :
      (c₀.run exec (stepsAs 0 2 "" ++ stepsAs 1 2 "" ++
          stepsAs 0 6 "u1" ++ stepsAs 1 6 "u2")).any
        (fun c =>
          decide (c.world.holders "bob@shop.ca" = 2)) =
        true := by
    decide +kernel
  rcases (Option.any_eq_true _ _).mp hRun with
    ⟨c, hRun, hEnd⟩
  have hUnique :=
    hAll {} calls onlyAdmin c distinct_onlyAdmin
      (Reach.of_run hRun
        (Reach.Meets.of_forall (fun _ _ _ _ => trivial) _ _))
  have hTwo := of_decide_eq_true hEnd
  have hOne := hUnique "bob@shop.ca"
  omega

end Orignabase.Auth
