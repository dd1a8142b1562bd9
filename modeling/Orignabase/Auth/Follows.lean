import Orignabase.Auth.Routes
import Orignabase.Lib.Runs

/-
  What every request may call, given what it has seen.

  A request signs tokens only for users it has read, created
  or recognised by a token, with roles it has read; it gives
  the role of an administrator only on behalf of one.

  Key definitions include:
    * `mayCall`
    * `Entitled`

  Main results:
    * `follows_body`
-/

--------
-- What A Request Has Seen
--------

namespace Orignabase.Auth

open Conc

abbrev Trace := List (Event Op.Res Answer)

/- The row that an event has read or created. -/
def rowOf : Event Op.Res Answer → Option (String × User)
  | ⟨.userById _, _, r⟩ => Option.join (Except.toOption r)
  | ⟨.userByEmail _, _, r⟩ => Option.join (Except.toOption r)
  | ⟨.userByProvider .., _, r⟩ =>
    Option.join (Except.toOption r)
  | ⟨.createUser _, _, r⟩ => Except.toOption r
  | _ => none

def rows (tr : Trace) : List (String × User) :=
  tr.filterMap rowOf

/- The token that an event has recognised. -/
def tokenOf : Event Op.Res Answer → Option Claims
  | ⟨.verifyToken _, _, r⟩ => Except.toOption r
  | _ => none

def tokens (tr : Trace) : List Claims :=
  tr.filterMap tokenOf

/- The second factor or the state of an account is set. -/
def Op.setsFlags : Op → Bool
  | .updateUser _ _ patch =>
    patch.mfaEnabled.isSome || patch.disabled.isSome
  | _ => false

def Calm (tr : Trace) : Prop :=
  ∀ e ∈ tr, e.op.setsFlags = false

/- A user that was read, created or named by a token. -/
def KnownIn (tr : Trace) (sub : String) : Prop :=
  (∃ row ∈ rows tr, row.1 = sub) ∨
    ∃ claims ∈ tokens tr, claims.sub = sub

/- A code for the second factor was accepted. -/
def acceptsCode : Event Op.Res Answer → Bool
  | ⟨.checkTotp .., _, r⟩ => Except.isOk r
  | ⟨.verifyRecoveryCode .., _, r⟩ =>
    Except.toOption r = some true
  | _ => false

/- What a handler has checked before it starts a session. -/
def Entitled (tr : Trace) (sub : String) : Origin → Prop
  | .register =>
    ∃ row ∈ rows tr, row.1 = sub ∧ row.2.disabled = false ∧
      row.2.hasSecondFactor = false
  | .anonymous =>
    ∃ row ∈ rows tr, row.1 = sub ∧ row.2.disabled = false ∧
      row.2.hasSecondFactor = false
  | .login =>
    ∃ row ∈ rows tr, row.1 = sub ∧ row.2.disabled = false ∧
      row.2.mfa_enabled ≠ some true
  | .oauth =>
    ∃ row ∈ rows tr, row.1 = sub ∧ row.2.disabled = false
  | .challenge =>
    (∃ claims ∈ tokens tr,
      claims.typ = .mfaChallenge ∧ claims.sub = sub) ∧
      ∃ e ∈ tr, acceptsCode e = true
  | .recovery =>
    (∃ claims ∈ tokens tr,
      claims.typ = .mfaChallenge ∧ claims.sub = sub) ∧
      ∃ e ∈ tr, acceptsCode e = true
  | .refresh old =>
    old ∈ tokens tr ∧ old.typ = .refresh ∧ old.sub = sub ∧
      ∃ row ∈ rows tr, row.1 = bareUid sub ∧
        row.2.disabled = false
  | .upgrade =>
    ∃ claims ∈ tokens tr,
      claims.typ = .access ∧ claims.sub = sub

/- The roles of a token are those of its user. -/
def Backed
    (tr : Trace)
    (sub : String)
    (roles : List String) : Prop :=
  "admin" ∈ roles → ∃ row ∈ rows tr,
      (row.1 = sub ∨ row.1 = bareUid sub) ∧
        row.2.roles = roles

/- The caller is an administrator. -/
def ByAdmin (tr : Trace) (caller : String) : Prop :=
  ∃ claims ∈ tokens tr,
    claims.sub = caller ∧ "admin" ∈ claims.roles

/- The id that an event has looked for and not found. -/
def missOf : Event Op.Res Answer → Option String
  | ⟨.getUser id, _, r⟩ =>
    match (r : Except Error User) with
    | .error (.notFound _) => some id
    | _ => none
  | _ => none

/- A caller who was looked for and not found. -/
def Missing : Trace → Prop
  | [] => False
  | e :: tr =>
    (∃ claims ∈ tokens tr, missOf e = some claims.sub) ∨
      Missing tr

/- A document of a new user. -/
def User.isPlain (user : User) : Bool :=
  !user.roles.contains "admin" && user.uid = none

def mayCall (tr : Trace) : Op → Prop
  | .signToken typ sub roles _ _ =>
    typ ≠ .refresh ∧ KnownIn tr sub ∧ Backed tr sub roles
  | .signRefresh via sub _ =>
    Calm tr ∧ KnownIn tr sub ∧ Entitled tr sub via
  | .createUser user => user.isPlain = true ∨ Missing tr
  | .updateUser caller _ patch =>
    "admin" ∈ patch.roles.getD [] → ByAdmin tr caller
  | _ => True

/- What an event tells is what was asked for. -/
def Truthful : Event Op.Res Answer → Prop
  | ⟨.userById id, _, r⟩ =>
    ∀ row, r = .ok (some row) → row.1 = id
  | ⟨.createUser user, _, r⟩ =>
    ∀ row, r = .ok row → row.2 = user
  | ⟨.verifyToken token, _, r⟩ =>
    ∀ claims, r = .ok claims → token = .jwt claims
  | _ => True

theorem truthful_exec (o : Op) (a : Answer) (w : World) :
    Truthful ⟨o, a, (exec o a w).1⟩ := by
  cases o with
  | userById id =>
    intro row hRow
    cases hFault : a.fault with
    | true => simp [exec, act, Answer.guard, hFault] at hRow
    | false =>
      simp only [exec, act, Answer.guard, hFault,
        Bool.false_eq_true, if_false] at hRow
      rcases Option.map_eq_some_iff.mp
        (Except.ok.inj hRow) with ⟨u, _, rfl⟩
      rfl
  | createUser user =>
    intro row hRow
    cases hFault : a.fault with
    | true => simp [exec, act, Answer.guard, hFault] at hRow
    | false =>
      simp only [exec, act, Answer.guard, hFault,
        Bool.false_eq_true, if_false] at hRow
      split_ifs at hRow
      cases hRow
      rfl
  | verifyToken token =>
    intro claims hRow
    cases token with
    | text s => cases hRow
    | jwt c =>
      cases hAccepts : (w.tick a).accepts c with
      | false => simp [exec, act, hAccepts] at hRow
      | true =>
        simp only [exec, act, hAccepts] at hRow
        rw [Except.ok.inj hRow]
  | _ => trivial

--------
-- Knowledge Grows
--------

/- A later past: it has seen more and set no flags since. -/
structure Later (tr tr' : Trace) : Prop where
  rows : ∀ row ∈ rows tr, row ∈ Auth.rows tr'
  tokens : ∀ claims ∈ tokens tr, claims ∈ Auth.tokens tr'
  events : ∀ e ∈ tr, e ∈ tr'
  calm : Calm tr → Calm tr'

variable {via : Origin}

namespace Later

variable {tr tr' tr'' : Trace}

theorem refl (tr : Trace) : Later tr tr :=
  ⟨fun _ h => h, fun _ h => h, fun _ h => h, fun h => h⟩

theorem trans
    (hFirst : Later tr tr')
    (hSecond : Later tr' tr'') :
    Later tr tr'' where
  rows row hMem := hSecond.rows row (hFirst.rows row hMem)
  tokens claims hMem :=
    hSecond.tokens claims (hFirst.tokens claims hMem)
  events e hMem := hSecond.events e (hFirst.events e hMem)
  calm hCalm := hSecond.calm (hFirst.calm hCalm)

theorem cons
    {e : Event Op.Res Answer}
    (hLater : Later tr tr')
    (hFlags : e.op.setsFlags = false) :
    Later tr (e :: tr') := by
  refine hLater.trans ⟨?_, ?_, ?_, ?_⟩
  · intro row hMem
    rw [Auth.rows, List.filterMap_cons]
    cases rowOf e with
    | none => exact hMem
    | some row' => exact List.mem_cons_of_mem _ hMem
  · intro claims hMem
    rw [Auth.tokens, List.filterMap_cons]
    cases tokenOf e with
    | none => exact hMem
    | some claims' => exact List.mem_cons_of_mem _ hMem
  · intro e' hMem
    exact List.mem_cons_of_mem _ hMem
  · intro hCalm e' hMem
    rcases List.mem_cons.mp hMem with rfl | hOld
    · exact hFlags
    · exact hCalm e' hOld

theorem known
    {sub : String}
    (hLater : Later tr tr')
    (hKnown : KnownIn tr sub) :
    KnownIn tr' sub := by
  rcases hKnown with ⟨row, hMem, hEq⟩ | ⟨claims, hMem, hEq⟩
  · exact Or.inl ⟨row, hLater.rows row hMem, hEq⟩
  · exact Or.inr ⟨claims, hLater.tokens claims hMem, hEq⟩

theorem entitled
    {sub : String}
    (hLater : Later tr tr')
    (hEntitled : Entitled tr sub via) :
    Entitled tr' sub via := by
  cases via with
  | register =>
    rcases hEntitled with ⟨row, hMem, hRow⟩
    exact ⟨row, hLater.rows row hMem, hRow⟩
  | anonymous =>
    rcases hEntitled with ⟨row, hMem, hRow⟩
    exact ⟨row, hLater.rows row hMem, hRow⟩
  | login =>
    rcases hEntitled with ⟨row, hMem, hRow⟩
    exact ⟨row, hLater.rows row hMem, hRow⟩
  | oauth =>
    rcases hEntitled with ⟨row, hMem, hRow⟩
    exact ⟨row, hLater.rows row hMem, hRow⟩
  | challenge =>
    rcases hEntitled with ⟨⟨claims, hMem, hRest⟩, e, he, hOk⟩
    exact ⟨⟨claims, hLater.tokens claims hMem, hRest⟩, e,
      hLater.events e he, hOk⟩
  | recovery =>
    rcases hEntitled with ⟨⟨claims, hMem, hRest⟩, e, he, hOk⟩
    exact ⟨⟨claims, hLater.tokens claims hMem, hRest⟩, e,
      hLater.events e he, hOk⟩
  | refresh old =>
    rcases hEntitled with ⟨hOld, hTyp, hSub, row, hMem, hRow⟩
    exact ⟨hLater.tokens old hOld, hTyp, hSub, row,
      hLater.rows row hMem, hRow⟩
  | upgrade =>
    rcases hEntitled with ⟨claims, hMem, hRest⟩
    exact ⟨claims, hLater.tokens claims hMem, hRest⟩

end Later

variable {tr : Trace} {sub : String} {roles : List String}

theorem mem_rows
    {e : Event Op.Res Answer}
    {row : String × User}
    (hRow : rowOf e = some row) :
    row ∈ rows (e :: tr) := by
  rw [rows, List.filterMap_cons, hRow]
  exact List.mem_cons_self

theorem mem_tokens
    {e : Event Op.Res Answer}
    {claims : Claims}
    (hToken : tokenOf e = some claims) :
    claims ∈ tokens (e :: tr) := by
  rw [tokens, List.filterMap_cons, hToken]
  exact List.mem_cons_self

--------
-- Steps That Need Nothing
--------

open Handler

/- An operation that any request may call. -/
def Op.isAside : Op → Bool
  | .signToken .. => false
  | .signRefresh .. => false
  | .createUser _ => false
  | .updateUser _ _ patch =>
    patch.roles.isNone && patch.mfaEnabled.isNone &&
      patch.disabled.isNone
  | _ => true

theorem mayCall_of_isAside
    {o : Op}
    (hAside : o.isAside = true)
    (tr : Trace) :
    mayCall tr o := by
  cases o with
  | signToken => cases hAside
  | signRefresh => cases hAside
  | createUser user => cases hAside
  | updateUser caller id patch =>
    intro hAdmin
    simp only [Op.isAside, Bool.and_eq_true,
      Option.isNone_iff_eq_none] at hAside
    rw [hAside.1.1] at hAdmin
    simp at hAdmin
  | _ => trivial

theorem setsFlags_of_isAside
    {o : Op}
    (hAside : o.isAside = true) :
    o.setsFlags = false := by
  cases o with
  | updateUser caller id patch =>
    simp only [Op.isAside, Bool.and_eq_true,
      Option.isNone_iff_eq_none] at hAside
    simp [Op.setsFlags, hAside.1.2, hAside.2]
  | _ => rfl

section

variable {α β : Type}

/- What a part of a request may call and ends with. -/
abbrev Follows
    (p : Prog Op.Res α)
    (post : Trace → α → Prop)
    (tr : Trace) : Prop :=
  p.Along Truthful mayCall post tr

/- A part that calls what any request may call. -/
abbrev Aside (p : Prog Op.Res α) : Prop :=
  p.Uses (fun o => o.isAside = true)

theorem Aside.later
    {p : Prog Op.Res α}
    (hAside : Aside p)
    (tr : Trace) :
    Follows p (fun tr' _ => Later tr tr') tr := by
  refine Prog.Along.mono (Prog.Uses.along hAside
      (fun tr' o _ hOp => mayCall_of_isAside hOp tr'))
    (fun _ _ h => h) ?_
  intro tr' _ hExtends
  induction hExtends with
  | refl => exact Later.refl _
  | cons _ hOp ih => exact ih.cons (setsFlags_of_isAside hOp)

variable {post : Trace → Except Error α → Prop} {tr : Trace}

theorem follows_andThen
    {p : Handler β}
    {f : β → Handler α}
    {mid : Trace → β → Prop}
    (hFirst :
      Follows p (fun tr' r => ∀ b, r = .ok b → mid tr' b) tr)
    (hNext : ∀ tr' b, mid tr' b → Follows (f b) post tr')
    (hFail : ∀ tr' e, post tr' (.error e)) :
    Follows (andThen p f) post tr := by
  refine Prog.Along.bind hFirst ?_
  intro tr' r hMid
  cases r with
  | error e => exact hFail tr' e
  | ok b => exact hNext tr' b (hMid b rfl)

/- A part that calls what any request may call, first. -/
theorem Aside.andThen
    {p : Handler β}
    {f : β → Handler α}
    (hAside : Aside p)
    (hNext :
      ∀ tr' b, Later tr tr' → Follows (f b) post tr')
    (hFail : ∀ tr' e, post tr' (.error e)) :
    Follows (andThen p f) post tr :=
  follows_andThen
    (Prog.Along.mono (hAside.later tr) (fun _ _ h => h)
      (fun _ _ hLater _ _ => hLater))
    (fun tr' b hLater => hNext tr' b hLater) hFail

theorem Aside.bind
    {p : Prog Op.Res β}
    {f : β → Handler α}
    (hAside : Aside p)
    (hNext :
      ∀ tr' b, Later tr tr' → Follows (f b) post tr') :
    Follows (p.bind f) post tr :=
  Prog.Along.bind (hAside.later tr)
    (fun tr' b hLater => hNext tr' b hLater)

/- A check that stops the request. -/
theorem follows_require
    {check : Bool}
    {e : Error}
    {p : Handler α}
    (hNext : check = true → Follows p post tr)
    (hFail : post tr (.error e)) :
    Follows (require check e p) post tr := by
  unfold require
  cases check with
  | true => exact hNext rfl
  | false => exact hFail

theorem follows_lift
    {r : Except Error β}
    {f : β → Handler α}
    (hNext : ∀ b, r = .ok b → Follows (f b) post tr)
    (hFail : ∀ e, post tr (.error e)) :
    Follows (andThen (lift r) f) post tr := by
  cases r with
  | error e => exact hFail e
  | ok b => exact hNext b rfl

end

--------
-- Parts Of Requests
--------

theorem aside_checkTurnstile
    (s : Settings)
    (token : Option String) :
    Aside (checkTurnstile s token) := by
  unfold checkTurnstile
  cases token with
  | none => split_ifs <;> exact True.intro
  | some text =>
    dsimp only
    split_ifs
    · exact True.intro
    · exact True.intro
    · exact ⟨rfl, fun _ => True.intro⟩

theorem aside_isTokenRevoked (token : Token) :
    Aside (isTokenRevoked token) := by
  refine ⟨rfl, fun now => ⟨rfl, fun r => ?_⟩⟩
  rcases (r : Except Error Unit) with e | x
  · exact True.intro
  · refine ⟨rfl, fun r => ?_⟩
    rcases (r : Except Error (Option Int)) with e | x
    · exact True.intro
    · exact True.intro

theorem aside_revokeToken
    (session : Option ℕ)
    (token : Token)
    (ttl : ℕ) :
    Aside (revokeToken session token ttl) := by
  refine ⟨rfl, fun now => ⟨rfl, fun r => ?_⟩⟩
  rcases (r : Except Error Unit) with e | x
  · exact True.intro
  · refine ⟨rfl, fun r => ?_⟩
    rcases (r : Except Error Unit) with e | x
    · exact True.intro
    · exact True.intro

theorem aside_openStored (s : Settings) (text : String) :
    Aside (openStored s text) := by
  unfold openStored require
  split_ifs
  · exact ⟨rfl, fun _ => True.intro⟩
  · exact True.intro

theorem aside_checkMfaLock (userId : String) (user : User) :
    Aside (checkMfaLock userId user) := by
  unfold checkMfaLock
  split_ifs
  · refine ⟨rfl, fun elapsed => ?_⟩
    rcases (elapsed : Bool) with _ | _
    · exact True.intro
    · exact ⟨rfl, fun _ => True.intro⟩
  · exact True.intro

theorem follows_verifyTyped
    (token : Token)
    (typ : TokenType)
    (message : String)
    (tr : Trace) :
    Follows (verifyTyped token typ message)
      (fun tr' r => ∀ claims, r = .ok claims →
        Later tr tr' ∧ claims ∈ tokens tr' ∧
          claims.typ = typ ∧ token = .jwt claims) tr := by
  refine ⟨trivial, fun a (r : Except Error Claims) hTrue => ?_⟩
  rcases r with e | claims
  · exact fun _ h => nomatch h
  · refine follows_require ?_ (fun _ h => nomatch h)
    intro hTyp claims' hEq
    cases hEq
    exact ⟨(Later.refl tr).cons rfl, mem_tokens rfl,
      of_decide_eq_true hTyp, hTrue claims rfl⟩

theorem follows_userOf (id : String) (tr : Trace) :
    Follows (userOf id)
      (fun tr' r => ∀ row, r = .ok row →
        Later tr tr' ∧ row ∈ rows tr' ∧ row.1 = id) tr := by
  refine ⟨trivial, fun a
    (r : Except Error (Option (String × User))) hTrue => ?_⟩
  rcases r with e | found
  · exact fun _ h => nomatch h
  · cases found with
    | none => exact fun _ h => nomatch h
    | some row =>
      intro row' hEq
      cases hEq
      exact ⟨(Later.refl tr).cons rfl, mem_rows rfl,
        hTrue row rfl⟩

theorem follows_extractor
    (s : Settings)
    (bearer : Option Token)
    (tr : Trace) :
    Follows (authExtractor s bearer)
      (fun tr' r => ∀ auth, r = .ok auth → Later tr tr' ∧
          (auth = noOne ∨ ∃ claims ∈ tokens tr',
              claims.typ = .access ∧
                auth = fromClaims claims)) tr := by
  cases bearer with
  | none =>
    intro auth hEq
    cases hEq
    exact ⟨Later.refl tr, Or.inl rfl⟩
  | some token =>
    refine ⟨trivial, fun a (r : Except Error Claims) _ => ?_⟩
    have hLater :
        Later tr (⟨.verifyToken token, a, r⟩ :: tr) :=
      (Later.refl tr).cons rfl
    rcases r with e | claims
    · change Follows (if s.testMode then ok noOne
          else fail (.auth "Invalid or expired token")) _ _
      split_ifs
      · intro auth hEq
        cases hEq
        exact ⟨hLater, Or.inl rfl⟩
      · exact fun _ h => nomatch h
    · change Follows (if claims.typ = .access then
            ok (fromClaims claims)
          else if s.testMode then ok noOne
          else fail (.auth "Invalid token type")) _ _
      split_ifs with hTyp
      · intro auth hEq
        cases hEq
        exact ⟨hLater, Or.inr
          ⟨claims, mem_tokens rfl, hTyp, rfl⟩⟩
      · intro auth hEq
        cases hEq
        exact ⟨hLater, Or.inl rfl⟩
      · exact fun _ h => nomatch h

variable {s : Settings}

/- A session for a user who may have one. -/
theorem follows_issuePair
    {emailVerified : Bool}
    (hCalm : Calm tr)
    (hKnown : KnownIn tr sub)
    (hBacked : Backed tr sub roles)
    (hEntitled : Entitled tr sub via) :
    Follows (issuePair s via sub roles emailVerified)
      (fun tr' _ => Later tr tr') tr := by
  refine ⟨⟨by decide, hKnown, hBacked⟩,
    fun a (r : Except Error Claims) _ => ?_⟩
  have hLater := (Later.refl tr).cons
      (e := ⟨.signToken .access sub roles emailVerified
        s.accessTtl, a, r⟩) rfl
  rcases r with e | access
  · exact hLater
  · refine ⟨⟨hLater.calm hCalm, hLater.known hKnown,
      hLater.entitled hEntitled⟩,
      fun b (r : Except Error Claims) _ => ?_⟩
    have hLater' := hLater.cons
        (e := ⟨.signRefresh via sub s.refreshTtl, b, r⟩) rfl
    rcases r with e | token
    · exact hLater'
    · exact hLater'

/- The session at the end of a request. -/
theorem follows_session
    {α : Type}
    {emailVerified : Bool}
    {f : Claims × Claims → Handler α}
    (hCalm : Calm tr)
    (hKnown : KnownIn tr sub)
    (hBacked : Backed tr sub roles)
    (hEntitled : Entitled tr sub via)
    (hRest : ∀ tokens, Aside (f tokens)) :
    Follows
      (andThen (issuePair s via sub roles emailVerified) f)
      (fun _ _ => True) tr := by
  refine Prog.Along.bind
    (follows_issuePair hCalm hKnown hBacked hEntitled) ?_
  intro tr' r _
  cases r with
  | error e => trivial
  | ok tokens =>
    exact Prog.Along.mono ((hRest tokens).later tr')
      (fun _ _ h => h) (fun _ _ _ => trivial)

theorem backed_of_plain
    (hPlain : "admin" ∉ roles) :
    Backed tr sub roles :=
  fun hAdmin => absurd hAdmin hPlain

--------
-- Requests
--------

section

variable {tr : Trace}

abbrev Within {α : Type} (p : Handler α) (tr : Trace) : Prop :=
  Follows p (fun _ _ => True) tr

variable {α : Type} {claims : Claims}

theorem Aside.within
    {p : Handler α}
    (hAside : Aside p) :
    Within p tr :=
  Prog.Along.mono (hAside.later tr) (fun _ _ h => h)
    (fun _ _ _ => trivial)

/- A read of any row, after which the request goes on. -/
theorem within_read
    {email : String}
    {f : Option (String × User) → Handler α}
    (hNone :
      ∀ tr', Later tr tr' → Within (f none) tr')
    (hSome :
      ∀ tr' row, Later tr tr' → row ∈ rows tr' →
        Within (f (some row)) tr') :
    Within (andThen (Db.userByEmail email) f) tr := by
  refine ⟨trivial, fun a
    (r : Except Error (Option (String × User))) _ => ?_⟩
  have hLater := (Later.refl tr).cons
      (e := ⟨.userByEmail email, a, r⟩) rfl
  rcases r with e | found
  · trivial
  · cases found with
    | none => exact hNone _ hLater
    | some row => exact hSome _ row hLater (mem_rows rfl)

/- A document that may be created, after which it goes on. -/
theorem within_create
    {user : User}
    {f : String × User → Handler α}
    (hPlain : user.isPlain = true ∨ Missing tr)
    (hNext :
      ∀ tr' row, Later tr tr' → row ∈ rows tr' →
        row.2 = user → Within (f row) tr') :
    Within (andThen (Db.createUser user) f) tr := by
  refine ⟨hPlain, fun a
    (r : Except Error (String × User)) hTrue => ?_⟩
  have hLater :=
    (Later.refl tr).cons (e := ⟨.createUser user, a, r⟩) rfl
  rcases r with e | row
  · trivial
  · exact hNext _ row hLater (mem_rows rfl) (hTrue row rfl)

/- A token without roles for a known user. -/
theorem within_sign
    {typ : TokenType}
    {sub : String}
    {ttl : ℕ}
    {f : Claims → Handler α}
    (hTyp : typ ≠ .refresh)
    (hKnown : KnownIn tr sub)
    (hNext :
      ∀ tr' claims, Later tr tr' → Within (f claims) tr') :
    Within (andThen (Db.signToken typ sub [] false ttl) f)
      tr := by
  refine ⟨⟨hTyp, hKnown, backed_of_plain List.not_mem_nil⟩,
    fun a (r : Except Error Claims) _ => ?_⟩
  have hLater := (Later.refl tr).cons
      (e := ⟨.signToken typ sub [] false ttl, a, r⟩) rfl
  rcases r with e | claims
  · trivial
  · exact hNext _ claims hLater

theorem within_register
    (s : Settings)
    (body : RegisterRequest)
    (hCalm : Calm tr) :
    Within (register s body) tr := by
  refine (aside_checkTurnstile s _).andThen ?_
    (fun _ _ => trivial)
  intro tr₁ _ hLater₁
  refine follows_lift (fun _ _ => ?_) (fun _ => trivial)
  refine follows_lift (fun _ _ => ?_) (fun _ => trivial)
  refine within_read ?_ ?_
  · intro tr₂ hLater₂
    refine follows_require (fun _ => ?_) trivial
    refine Aside.andThen ⟨rfl, fun _ => trivial⟩ ?_
      (fun _ _ => trivial)
    intro tr₃ hash hLater₃
    refine within_create
      (Or.inl (by simp [User.isPlain])) ?_
    intro tr₄ row hLater₄ hRow hUser
    have hKnown : KnownIn tr₄ row.1 :=
      Or.inl ⟨row, hRow, rfl⟩
    refine within_sign (by decide) hKnown ?_
    intro tr₅ _ hLater₅
    refine Aside.bind ⟨rfl, fun _ => trivial⟩ ?_
    intro tr₆ _ hLater₆
    split_ifs
    · trivial
    · have hEnd : Later tr₄ tr₆ := hLater₅.trans hLater₆
      have hAll : Later tr tr₆ :=
        hLater₁.trans (hLater₂.trans
          (hLater₃.trans (hLater₄.trans hEnd)))
      refine follows_session (hAll.calm hCalm)
        (hEnd.known hKnown) (backed_of_plain (by decide))
        ?_ (fun _ => trivial)
      refine ⟨row, hEnd.rows row hRow, rfl, ?_, ?_⟩
      · rw [hUser]
      · rw [hUser]
        rfl
  · intro tr₂ row hLater₂ _
    exact follows_require (fun h => nomatch h) trivial

theorem disabled_of_ok
    {user : User}
    {x : Unit}
    (hActive : ensureUserNotDisabled user = .ok x) :
    user.disabled = false := by
  unfold ensureUserNotDisabled at hActive
  cases hFlag : user.disabled with
  | false => rfl
  | true => simp [hFlag] at hActive

theorem within_login
    (s : Settings)
    (body : LoginRequest)
    (hCalm : Calm tr) :
    Within (login s body) tr := by
  refine (aside_checkTurnstile s _).andThen ?_
    (fun _ _ => trivial)
  intro tr₁ _ hLater₁
  have hLockout :
      Aside (if s.testMode then ok ()
        else Db.checkLockout body.email) := by
    split_ifs
    · trivial
    · exact ⟨rfl, fun _ => trivial⟩
  refine hLockout.andThen ?_ (fun _ _ => trivial)
  intro tr₂ _ hLater₂
  refine within_read ?_ ?_
  · intro tr₃ _
    exact Aside.bind ⟨rfl, fun _ => trivial⟩
      (fun _ _ _ => trivial)
  · rintro tr₃ ⟨userId, user⟩ hLater₃ hRow
    dsimp only
    cases user.passwordHash with
    | none => trivial
    | some hash =>
      refine follows_lift (fun _ hActive => ?_)
        (fun _ => trivial)
      refine Aside.andThen ⟨rfl, fun _ => trivial⟩ ?_
        (fun _ _ => trivial)
      intro tr₄ verified hLater₄
      have hKnown : KnownIn tr₄ userId :=
        Or.inl ⟨_, hLater₄.rows _ hRow, rfl⟩
      have hAll : Later tr tr₄ :=
        hLater₁.trans (hLater₂.trans
          (hLater₃.trans hLater₄))
      have hDisabled := disabled_of_ok hActive
      split_ifs with hBad hFactor
      · exact Aside.within
          ⟨rfl, fun _ => ⟨rfl, fun _ => trivial⟩⟩
      · refine follows_require (fun _ => ?_) trivial
        exact within_sign (by decide) hKnown
          (fun _ _ _ => trivial)
      · refine follows_require (fun _ => ?_) trivial
        refine follows_session (hAll.calm hCalm) hKnown
          ?_ ?_ ?_
        · exact fun _ =>
            ⟨_, hLater₄.rows _ hRow, Or.inl rfl, rfl⟩
        · refine ⟨_, hLater₄.rows _ hRow, rfl, hDisabled, ?_⟩
          intro hOn
          change user.mfa_enabled = some true at hOn
          rw [hOn] at hFactor
          exact hFactor rfl
        · exact fun _ =>
            ⟨rfl, fun _ => ⟨rfl, fun _ => trivial⟩⟩

/- The account of an identity is one that was seen. -/
theorem follows_oauthAccount (info : OAuthUserInfo) :
    Follows (oauthAccount info)
      (fun tr' r => ∀ row, r = .ok row → Later tr tr' ∧
          ∃ row' ∈ rows tr',
            row'.1 = row.1 ∧ row'.2.roles = row.2.roles ∧
              row'.2.disabled = row.2.disabled) tr := by
  refine ⟨trivial, fun a
    (r : Except Error (Option (String × User))) _ => ?_⟩
  have hLater := (Later.refl tr).cons
      (e := ⟨.userByProvider info.provider.asStr
        info.providerId, a, r⟩) rfl
  rcases r with e | found
  · exact fun _ h => nomatch h
  cases found with
  | some row =>
    intro row' hEq
    cases hEq
    exact ⟨hLater, row, mem_rows rfl, rfl, rfl, rfl⟩
  | none =>
    have hEmail :
        Follows (emailUser info)
          (fun tr' r => ∀ b, r = .ok b → Later tr tr' ∧
              ∀ row, b = some row → row ∈ rows tr')
          (⟨.userByProvider info.provider.asStr
            info.providerId, a, .ok none⟩ :: tr) := by
      unfold emailUser
      cases info.email with
      | none =>
        intro b hEq
        cases hEq
        exact ⟨hLater, fun _ h => nomatch h⟩
      | some email =>
        refine ⟨trivial, fun a
          (r : Except Error (Option (String × User))) _ =>
          ?_⟩
        intro b hEq
        cases hEq
        refine ⟨hLater.cons rfl, ?_⟩
        rintro row rfl
        exact mem_rows rfl
    change Follows (andThen (emailUser info) _) _ _
    refine follows_andThen hEmail ?_
      (fun _ _ _ h => nomatch h)
    rintro tr₁ linked ⟨hLater₁, hRows⟩
    cases linked with
    | none =>
      refine ⟨Or.inl (by simp [User.isPlain, oauthUser]),
        fun a (r : Except Error (String × User)) _ => ?_⟩
      intro row hEq
      cases hEq
      exact ⟨hLater₁.cons rfl, row, mem_rows rfl, rfl,
        rfl, rfl⟩
    | some row =>
      refine Aside.andThen ⟨rfl, fun _ => trivial⟩ ?_
        (fun _ _ _ h => nomatch h)
      intro tr₂ _ hLater₂ row' hEq
      cases hEq
      exact ⟨hLater₁.trans hLater₂, row,
        hLater₂.rows row (hRows row rfl), rfl, rfl, rfl⟩

theorem within_oauth
    (s : Settings)
    (info : OAuthUserInfo)
    (hCalm : Calm tr) :
    Within (oauthFindOrCreateUser s info) tr := by
  refine follows_andThen (follows_oauthAccount info) ?_
    (fun _ _ => trivial)
  rintro tr₁ row ⟨hLater, row', hMem, hId, hRoles, hFlag⟩
  refine follows_lift (fun _ hActive => ?_) (fun _ => trivial)
  have hDisabled := disabled_of_ok hActive
  refine follows_session (hLater.calm hCalm)
    (Or.inl ⟨row', hMem, hId⟩) ?_ ?_ ?_
  · exact fun _ => ⟨row', hMem, Or.inl hId, hRoles⟩
  · exact ⟨row', hMem, hId, hFlag.trans hDisabled⟩
  · exact fun _ => ⟨rfl, fun _ => trivial⟩

theorem within_anonymousSignIn
    (s : Settings)
    (hCalm : Calm tr) :
    Within (anonymousSignIn s) tr := by
  refine within_create (Or.inl (by simp [User.isPlain])) ?_
  intro tr₁ row hLater hRow hUser
  refine follows_session (hLater.calm hCalm)
    (Or.inl ⟨row, hRow, rfl⟩)
    (backed_of_plain (by decide)) ?_ (fun _ => trivial)
  refine ⟨row, hRow, rfl, ?_, ?_⟩
  · rw [hUser]
  · rw [hUser]
    rfl

/- The part of a request that its caller starts. -/
theorem within_asCaller
    {bearer : Option Token}
    {body : AuthContext → Handler α}
    (hNoOne : ∀ tr', Later tr tr' → Within (body noOne) tr')
    (hCaller :
      ∀ tr' claims, Later tr tr' → claims ∈ tokens tr' →
        claims.typ = .access →
          Within (body (fromClaims claims)) tr') :
    Within (asCaller s bearer body) tr := by
  refine follows_andThen (follows_extractor s bearer tr) ?_
    (fun _ _ => trivial)
  rintro tr' auth ⟨hLater, rfl | ⟨claims, hMem, hTyp, rfl⟩⟩
  · exact hNoOne tr' hLater
  · exact hCaller tr' claims hLater hMem hTyp

theorem within_anonymousUpgrade
    (s : Settings)
    (body : AnonymousUpgradeRequest)
    (hCalm : Calm tr)
    (hMem : claims ∈ tokens tr)
    (hTyp : claims.typ = .access) :
    Within (anonymousUpgrade s (fromClaims claims) body)
      tr := by
  refine follows_require (fun _ => ?_) trivial
  refine follows_lift (fun _ _ => ?_) (fun _ => trivial)
  refine follows_lift (fun _ _ => ?_) (fun _ => trivial)
  refine within_read ?_ ?_
  · intro tr₁ hLater₁
    refine follows_require (fun _ => ?_) trivial
    refine Aside.andThen ⟨rfl, fun _ => trivial⟩ ?_
      (fun _ _ => trivial)
    intro tr₂ hash hLater₂
    refine ⟨fun hAdmin => ?_,
      fun a (r : Except Error Unit) _ => ?_⟩
    · simp at hAdmin
    rcases r with e | x
    · trivial
    have hLater₃ : Later tr _ :=
      (hLater₁.trans hLater₂).cons
        (e := ⟨.updateUser claims.sub claims.sub
          { email := some body.email
            passwordHash := some hash
            roles := some ["user"] }, a, .ok x⟩) rfl
    refine within_sign (by decide)
      (Or.inr ⟨claims, hLater₃.tokens _ hMem, rfl⟩) ?_
    intro tr₄ _ hLater₄
    refine Aside.bind ⟨rfl, fun _ => trivial⟩ ?_
    intro tr₅ _ hLater₅
    have hAll : Later tr tr₅ :=
      hLater₃.trans (hLater₄.trans hLater₅)
    refine follows_session (hAll.calm hCalm)
      (Or.inr ⟨claims, hAll.tokens _ hMem, rfl⟩)
      (backed_of_plain (by decide))
      ⟨claims, hAll.tokens _ hMem, hTyp, rfl⟩ ?_
    intro _
    refine ⟨rfl, fun r => ?_⟩
    rcases (r : Except Error (Option (String × User)))
      with e | x
    · trivial
    · trivial
  · intro tr₁ row _ _
    exact follows_require (fun h => nomatch h) trivial

theorem follows_rotate
    (s : Settings)
    (session : ℕ)
    (token : Token)
    (hCalm : Calm tr) :
    Within (rotate s session token) tr := by
  refine follows_andThen (follows_verifyTyped token _ _ tr)
    ?_ (fun _ _ => trivial)
  rintro tr₁ claims ⟨hLater₁, hToken, hTyp, _⟩
  refine (aside_isTokenRevoked token).andThen ?_
    (fun _ _ => trivial)
  intro tr₂ revoked hLater₂
  refine follows_require (fun _ => ?_) trivial
  refine follows_andThen (follows_userOf _ tr₂) ?_
    (fun _ _ => trivial)
  rintro tr₃ row ⟨hLater₃, hRow, hId⟩
  refine follows_lift (fun _ hActive => ?_) (fun _ => trivial)
  refine follows_require (fun _ => ?_) trivial
  have hAll : Later tr tr₃ :=
    hLater₁.trans (hLater₂.trans hLater₃)
  have hMem : claims ∈ tokens tr₃ :=
    hLater₃.tokens _ (hLater₂.tokens _ hToken)
  refine follows_session (hAll.calm hCalm)
    (Or.inr ⟨claims, hMem, rfl⟩) ?_ ?_ ?_
  · exact fun _ => ⟨row, hRow, Or.inr hId, rfl⟩
  · exact ⟨hMem, hTyp, rfl, row, hRow, hId,
      disabled_of_ok hActive⟩
  · intro _
    refine Prog.Uses.bind (aside_revokeToken _ _ _) ?_
    intro r
    cases r <;> trivial

theorem within_refresh
    (s : Settings)
    (session : ℕ)
    (token : Token)
    (hCalm : Calm tr) :
    Within (refresh s session token) tr := by
  refine Aside.andThen ⟨rfl, fun _ => trivial⟩ ?_
    (fun _ _ => trivial)
  intro tr₁ acquired hLater
  refine follows_require (fun _ => ?_) trivial
  refine Prog.Along.bind
    (follows_rotate s session token (hLater.calm hCalm)) ?_
  intro tr₂ r _
  rcases r with e | out
  · exact Aside.within ⟨rfl, fun _ => trivial⟩
  · refine Aside.within ?_
    refine ⟨rfl, fun r => ?_⟩
    rcases (r : Except Error Unit) with e | x
    · trivial
    · trivial

theorem aside_logout (s : Settings) (token : Token) :
    Aside (logout s token) := by
  unfold logout require
  split_ifs
  · refine Prog.Uses.bind (aside_revokeToken _ _ _) ?_
    intro r
    cases r <;> trivial
  · trivial

theorem aside_cleanup : Aside cleanupRevokedTokens := by
  refine ⟨rfl, fun now => ⟨rfl, fun r => ?_⟩⟩
  rcases (r : Except Error Unit) with e | x
  · trivial
  · exact ⟨rfl, fun _ => trivial⟩

theorem within_resetPassword (body : ResetPasswordRequest) :
    Within (resetPassword body) tr := by
  refine follows_lift (fun _ _ => ?_) (fun _ => trivial)
  refine follows_andThen (follows_verifyTyped _ _ _ tr) ?_
    (fun _ _ => trivial)
  intro tr₁ claims _
  refine follows_andThen (follows_userOf _ tr₁) ?_
    (fun _ _ => trivial)
  intro tr₂ row _
  cases row.2.resetTokenHash with
  | none => trivial
  | some stored =>
    refine follows_require (fun _ => ?_) trivial
    refine Aside.bind ⟨rfl, fun _ => trivial⟩ ?_
    intro tr₃ now _
    refine follows_require (fun _ => ?_) trivial
    refine follows_require (fun _ => ?_) trivial
    refine Aside.within ⟨rfl, fun r => ?_⟩
    rcases (r : Except Error String) with e | hash
    · trivial
    · refine ⟨rfl, fun now' => ⟨rfl, fun r => ?_⟩⟩
      rcases (r : Except Error Unit) with e | x
      · trivial
      · trivial

theorem within_mfaSetup (s : Settings) (auth : AuthContext) :
    Within (mfaSetup s auth) tr := by
  refine follows_require (fun _ => ?_) trivial
  refine follows_andThen (follows_userOf _ tr) ?_
    (fun _ _ => trivial)
  intro tr₁ row _
  refine follows_require (fun _ => ?_) trivial
  refine Aside.bind ⟨rfl, fun _ => trivial⟩ ?_
  intro tr₂ secret _
  refine follows_require (fun _ => ?_) trivial
  refine Aside.within ⟨rfl, fun r => ?_⟩
  rcases (r : Except Error String) with e | text
  · trivial
  · refine ⟨rfl, fun r => ?_⟩
    rcases (r : Except Error Unit) with e | x
    · trivial
    · trivial

/- A change without roles, and then a message. -/
theorem within_change
    {caller id : String}
    {patch : UserPatch}
    {f : Unit → Handler α}
    (hRoles : patch.roles = none)
    (hRest : ∀ x, Aside (f x)) :
    Within (andThen (Db.updateUser caller id patch) f) tr := by
  refine ⟨fun hAdmin => ?_,
    fun a (r : Except Error Unit) _ => ?_⟩
  · rw [hRoles] at hAdmin
    simp at hAdmin
  · rcases r with e | x
    · trivial
    · exact Aside.within (hRest x)

theorem within_mfaVerifySetup
    (s : Settings)
    (auth : AuthContext)
    (code : String) :
    Within (mfaVerifySetup s auth code) tr := by
  refine follows_require (fun _ => ?_) trivial
  refine follows_andThen (follows_userOf _ tr) ?_
    (fun _ _ => trivial)
  intro tr₁ row _
  cases row.2.mfaPendingSecret with
  | none => trivial
  | some pending =>
    refine (aside_openStored s pending).andThen ?_
      (fun _ _ => trivial)
    intro tr₂ secret _
    refine Aside.andThen ⟨rfl, fun _ => trivial⟩ ?_
      (fun _ _ => trivial)
    intro tr₃ _ _
    refine Aside.andThen ⟨rfl, fun _ => trivial⟩ ?_
      (fun _ _ => trivial)
    intro tr₄ codes _
    refine Aside.andThen ⟨rfl, fun _ => trivial⟩ ?_
      (fun _ _ => trivial)
    intro tr₅ text _
    exact within_change rfl
      (fun _ => ⟨rfl, fun _ => trivial⟩)

theorem within_mfaChallenge
    (s : Settings)
    (body : MfaChallengeRequest)
    (hCalm : Calm tr) :
    Within (mfaChallenge s body) tr := by
  refine follows_andThen (follows_verifyTyped _ _ _ tr) ?_
    (fun _ _ => trivial)
  rintro tr₁ claims ⟨hLater₁, hToken, hTyp, _⟩
  refine Aside.bind ⟨rfl, fun _ => trivial⟩ ?_
  intro tr₂ limit hLater₂
  cases limit with
  | error e =>
    exact Aside.within
      ⟨rfl, fun _ => ⟨rfl, fun _ => trivial⟩⟩
  | ok _ =>
    refine follows_andThen (follows_userOf _ tr₂) ?_
      (fun _ _ => trivial)
    rintro tr₃ row ⟨hLater₃, hRow, hId⟩
    refine (aside_checkMfaLock _ _).andThen ?_
      (fun _ _ => trivial)
    intro tr₄ _ hLater₄
    cases row.2.mfaSecret with
    | none => trivial
    | some text =>
      refine (aside_openStored s text).andThen ?_
        (fun _ _ => trivial)
      intro tr₅ secret hLater₅
      refine ⟨trivial, fun a (r : Except Error Int) _ => ?_⟩
      rcases r with e | step
      · trivial
      change Follows (andThen (Db.updateUser _ _ _) _) _ _
      refine Aside.andThen ⟨rfl, fun _ => trivial⟩ ?_
        (fun _ _ => trivial)
      intro tr₇ _ hLater₇
      have hLate : Later tr₃ tr₇ :=
        (((hLater₄.trans hLater₅).cons rfl).trans hLater₇)
      have hAll : Later tr₁ tr₇ :=
        hLater₂.trans (hLater₃.trans hLate)
      have hMem := hAll.tokens _ hToken
      refine follows_session
        ((hLater₁.trans hAll).calm hCalm)
        (Or.inr ⟨claims, hMem, rfl⟩) ?_ ?_ ?_
      · exact fun _ => ⟨row, hLate.rows _ hRow,
          Or.inl hId, rfl⟩
      · exact ⟨⟨claims, hMem, hTyp, rfl⟩, _,
          hLater₇.events _ List.mem_cons_self, rfl⟩
      · exact fun _ => ⟨rfl, fun _ => trivial⟩

/- A matched code was accepted. -/
theorem follows_matchCode
    (code : String)
    (hashes : List String)
    (idx : ℕ)
    (tr₀ : Trace)
    (hLater : Later tr₀ tr) :
    Follows (matchCode code hashes idx)
      (fun tr' r => ∀ found, r = .ok found → Later tr₀ tr' ∧
          (found.isSome = true →
            ∃ e ∈ tr', acceptsCode e = true)) tr := by
  induction hashes generalizing idx tr with
  | nil =>
    intro found hEq
    cases hEq
    exact ⟨hLater, fun h => nomatch h⟩
  | cons hash rest ih =>
    refine ⟨trivial, fun a (r : Except Error Bool) _ => ?_⟩
    have hNext := hLater.cons
        (e := ⟨.verifyRecoveryCode code hash, a, r⟩) rfl
    rcases r with e | matched
    · exact fun _ h => nomatch h
    · cases matched with
      | true =>
        intro found hEq
        cases hEq
        exact ⟨hNext, fun _ =>
          ⟨_, List.mem_cons_self, rfl⟩⟩
      | false => exact ih (idx + 1) hNext

theorem within_mfaRecovery
    (s : Settings)
    (body : MfaRecoveryRequest)
    (hCalm : Calm tr) :
    Within (mfaRecovery s body) tr := by
  refine follows_andThen (follows_verifyTyped _ _ _ tr) ?_
    (fun _ _ => trivial)
  rintro tr₁ claims ⟨hLater₁, hToken, hTyp, _⟩
  refine Aside.andThen ⟨rfl, fun _ => trivial⟩ ?_
    (fun _ _ => trivial)
  intro tr₂ _ hLater₂
  refine follows_andThen (follows_userOf _ tr₂) ?_
    (fun _ _ => trivial)
  rintro tr₃ row ⟨hLater₃, hRow, hId⟩
  refine follows_andThen
    (follows_matchCode _ _ 0 tr₃ (Later.refl tr₃)) ?_
    (fun _ _ => trivial)
  rintro tr₄ matched ⟨hLater₄, hAccepted⟩
  cases matched with
  | none => trivial
  | some idx =>
    rcases hAccepted rfl with ⟨e, he, hOk⟩
    refine Aside.andThen ⟨rfl, fun _ => trivial⟩ ?_
      (fun _ _ => trivial)
    intro tr₅ _ hLater₅
    have hLate : Later tr₃ tr₅ := hLater₄.trans hLater₅
    have hAll : Later tr₁ tr₅ :=
      hLater₂.trans (hLater₃.trans hLate)
    have hMem := hAll.tokens _ hToken
    refine follows_session ((hLater₁.trans hAll).calm hCalm)
      (Or.inr ⟨claims, hMem, rfl⟩) ?_ ?_ ?_
    · exact fun _ => ⟨row, hLate.rows _ hRow,
        Or.inl hId, rfl⟩
    · exact ⟨⟨claims, hMem, hTyp, rfl⟩, e,
        hLater₅.events e he, hOk⟩
    · exact fun _ => ⟨rfl, fun _ => trivial⟩

theorem within_mfaDisable
    (s : Settings)
    (auth : AuthContext)
    (code : String) :
    Within (mfaDisable s auth code) tr := by
  refine follows_require (fun _ => ?_) trivial
  refine follows_andThen (follows_userOf _ tr) ?_
    (fun _ _ => trivial)
  intro tr₁ row _
  refine follows_require (fun _ => ?_) trivial
  cases row.2.mfaSecret with
  | none => trivial
  | some text =>
    refine (aside_openStored s text).andThen ?_
      (fun _ _ => trivial)
    intro tr₂ secret _
    refine Aside.andThen ⟨rfl, fun _ => trivial⟩ ?_
      (fun _ _ => trivial)
    intro tr₃ _ _
    exact within_change rfl
      (fun _ => ⟨rfl, fun _ => trivial⟩)

theorem within_createProfile
    (req : CreateProfileRequest)
    (hMem : claims ∈ tokens tr) :
    Within (createProfile (fromClaims claims) req) tr := by
  refine follows_lift (fun userId hSelf => ?_)
    (fun _ => trivial)
  have hUser : userId = claims.sub := by
    unfold resolveSelfUserId at hSelf
    split_ifs at hSelf
    exact (Except.ok.inj hSelf).symm
  subst hUser
  refine follows_lift (fun _ _ => ?_) (fun _ => trivial)
  refine follows_lift (fun _ _ => ?_) (fun _ => trivial)
  refine Aside.andThen ⟨rfl, fun _ => trivial⟩ ?_
    (fun _ _ => trivial)
  intro tr₁ _ hLater
  refine ⟨trivial, fun a (r : Except Error User) _ => ?_⟩
  rcases r with e | user
  · cases e with
    | notFound m =>
      refine within_create (Or.inr (Or.inl ?_))
        (fun _ _ _ _ _ => trivial)
      exact ⟨claims, hLater.tokens _ hMem, rfl⟩
    | _ => trivial
  · trivial

theorem within_adminUpdateUser
    (userId : String)
    (body : AdminUpdateUserRequest)
    (hMem : claims ∈ tokens tr) :
    Within (adminUpdateUser (fromClaims claims) userId body)
      tr := by
  refine follows_lift (fun _ hAdmin => ?_) (fun _ => trivial)
  refine follows_require (fun _ => ?_) trivial
  refine ⟨fun _ => ⟨claims, hMem, rfl, ?_⟩,
    fun a (r : Except Error Unit) _ => ?_⟩
  · unfold requireAdmin at hAdmin
    split_ifs at hAdmin with _ hRole
    simpa [fromClaims] using hRole
  · rcases r with e | x
    · trivial
    · trivial

end

--------
-- All Requests
--------

theorem calm_nil : Calm [] :=
  fun _ hMem => absurd hMem List.not_mem_nil

theorem within_replying
    {α : Type}
    {reply : α → Reply}
    {p : Handler α}
    (hWithin : Within p tr) :
    Within (replying reply p) tr := by
  refine Prog.Along.bind hWithin ?_
  intro tr' r _
  cases r <;> trivial

/- No request calls more than it may. -/
theorem follows_body (s : Settings) (session : ℕ) (x : Call) :
    Within (x.body s session) [] := by
  cases x with
  | register body =>
    exact within_replying (within_register s body calm_nil)
  | login body =>
    exact within_replying (within_login s body calm_nil)
  | oauth info =>
    exact within_replying (within_oauth s info calm_nil)
  | anonymousSignIn =>
    exact within_replying
      (within_anonymousSignIn s calm_nil)
  | anonymousUpgrade bearer body =>
    refine within_replying (within_asCaller ?_ ?_)
    · intro tr _
      exact follows_require
        (fun h => absurd h (by decide)) trivial
    · intro tr claims hLater hMem hTyp
      exact within_anonymousUpgrade s body
        (hLater.calm calm_nil) hMem hTyp
  | refresh token =>
    exact within_replying
      (within_refresh s session token calm_nil)
  | logout token =>
    exact within_replying
      (Aside.within (aside_logout s token))
  | cleanup =>
    exact within_replying (Aside.within aside_cleanup)
  | resetPassword body =>
    exact within_replying (within_resetPassword body)
  | mfaSetup bearer =>
    refine within_replying (within_asCaller ?_ ?_)
    · exact fun _ _ => within_mfaSetup s noOne
    · exact fun _ claims _ _ _ =>
        within_mfaSetup s (fromClaims claims)
  | mfaVerifySetup bearer code =>
    refine within_replying (within_asCaller ?_ ?_)
    · exact fun _ _ => within_mfaVerifySetup s noOne code
    · exact fun _ claims _ _ _ =>
        within_mfaVerifySetup s (fromClaims claims) code
  | mfaChallenge body =>
    exact within_replying
      (within_mfaChallenge s body calm_nil)
  | mfaRecovery body =>
    exact within_replying
      (within_mfaRecovery s body calm_nil)
  | mfaDisable bearer code =>
    refine within_replying (within_asCaller ?_ ?_)
    · exact fun _ _ => within_mfaDisable s noOne code
    · exact fun _ claims _ _ _ =>
        within_mfaDisable s (fromClaims claims) code
  | createProfile bearer req =>
    refine within_replying (within_asCaller ?_ ?_)
    · exact fun _ _ => trivial
    · exact fun _ claims _ hMem _ =>
        within_createProfile req hMem
  | adminUpdateUser bearer userId body =>
    refine within_replying (within_asCaller ?_ ?_)
    · exact fun _ _ => trivial
    · exact fun _ claims _ hMem _ =>
        within_adminUpdateUser userId body hMem

end Orignabase.Auth
