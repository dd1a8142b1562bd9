import Orignabase.Auth.Steps
import Orignabase.Store.Rules

/-
  What the requests that spend a credential call, and in
  which order: the rotation of a refresh token, the logout,
  the cleanup of revocations and the reset of a password.

  Key definitions include:
    * `Progress`
    * `maySpend`
    * `mayReset`

  Main results:
    * `along_refresh`
    * `along_logout`
    * `along_cleanup`
    * `along_reset`
-/

--------
-- How Far A Request Has Come
--------

namespace Orignabase.Auth

open Conc

/- The time that an event has read. -/
def timeOf : Event Op.Res Answer → Option Int
  | ⟨.utcNow, _, r⟩ => some r
  | _ => none

/- The last time a request has read. -/
def clock : Trace → Int
  | [] => 0
  | e :: tr => (timeOf e).getD (clock tr)

def hasRead (tr : Trace) : Bool :=
  tr.any (fun e => (timeOf e).isSome)

/-
  Whether a request holds the lock of its token, has found
  that it was not revoked and has revoked it, and the refresh
  token it has signed.
-/
structure Progress where
  locked : Bool := false
  cleared : Bool := false
  spent : Bool := false
  signed : Option Claims := none
  deriving DecidableEq, Repr

/- What an event adds, with the last time before it. -/
def Progress.after (p : Progress) (now : Int) :
    Event Op.Res Answer → Progress
  | ⟨.tryLock .., _, r⟩ =>
    { p with
      locked := p.locked || Except.toOption r = some true }
  | ⟨.endLock .., _, _⟩ => { p with locked := false }
  | ⟨.revokedExpiry _, _, r⟩ =>
    { p with
      cleared := (Except.toOption r).any (fun expiresAt =>
          !expiresAt.any (now < ·)) }
  | ⟨.signRefresh .., _, r⟩ =>
    { p with signed := Except.toOption r }
  | ⟨.upsertRevoked .., _, r⟩ =>
    { p with spent := p.spent || Except.isOk r }
  | _ => p

def progress : Trace → Progress
  | [] => {}
  | e :: tr => (progress tr).after (clock tr) e

/- A user whose sessions may be renewed with a token. -/
def User.renews (user : User) (claims : Claims) : Bool :=
  !user.disabled &&
    !user.passwordChangedAt.any (claims.iat < ·)

/- What a refresh may call. -/
def mayRotate
    (s : Settings)
    (session : ℕ)
    (token : Token)
    (tr : Trace) : Op → Prop
  | .utcNow => True
  | .ensureRevokedTable => True
  | .verifyToken _ => True
  | .userById _ => True
  | .tryLock k t =>
    k = session ∧ t = token ∧ progress tr = {}
  | .revokedExpiry t =>
    t = token ∧ hasRead tr = true ∧
      progress tr = { locked := true } ∧
      ∃ claims, token = .jwt claims
  | .signToken typ .. => typ = .access
  | .signRefresh via sub ttl =>
    progress tr = { locked := true, cleared := true } ∧
      ∃ claims ∈ tokens tr,
        token = .jwt claims ∧ claims.typ = .refresh ∧
          via = .refresh claims ∧ sub = claims.sub ∧
          ttl = s.refreshTtl ∧
          ∃ row ∈ rows tr, row.1 = bareUid sub ∧
              row.2.renews claims = true
  | .upsertRevoked k t expiresAt =>
    k = some session ∧ t = token ∧
      expiresAt = expiry (clock tr) s.refreshTtl ∧
      ∃ claims, progress tr =
          { locked := true
            cleared := true
            signed := some claims }
  | .endLock k t handing =>
    k = session ∧ t = token ∧
      ∀ claims, handing = some claims → progress tr =
          { locked := true
            cleared := true
            spent := true
            signed := some claims }
  | _ => False

/- What a logout may call. -/
def mayLogout
    (s : Settings)
    (token : Token)
    (tr : Trace) : Op → Prop
  | .utcNow => True
  | .ensureRevokedTable => True
  | .upsertRevoked k t expiresAt =>
    k = none ∧ t = token ∧
      expiresAt = expiry (clock tr) s.refreshTtl
  | _ => False

/- What the cleanup of revocations may call. -/
def mayClean (tr : Trace) : Op → Prop
  | .utcNow => True
  | .ensureRevokedTable => True
  | .deleteRevoked now => now = clock tr ∧ hasRead tr = true
  | _ => False

--------
-- The Rotation Of A Token
--------

open Handler

variable {tr : Trace}

/- A check in the middle of a handler. -/
theorem along_checked
    {α β : Type}
    {can : Trace → Op → Prop}
    {post : Trace → Except Error α → Prop}
    {check : Bool}
    {e : Error}
    {x : β}
    {f : Except Error β → Handler α}
    (hFail : (f (.error e)).Along Truthful can post tr)
    (hNext :
      check = true → (f (.ok x)).Along Truthful can post tr) :
    ((require check e (ok x)).bind f).Along Truthful can post
      tr := by
  cases check with
  | false => exact hFail
  | true => exact hNext rfl

theorem renews_of_checks
    {user : User}
    {claims : Claims}
    {x : Unit}
    (hActive : ensureUserNotDisabled user = .ok x)
    (hFresh :
      (!user.passwordChangedAt.any (claims.iat < ·)) =
        true) :
    user.renews claims = true := by
  unfold ensureUserNotDisabled at hActive
  split_ifs at hActive with hDisabled
  simp [User.renews, hDisabled, hFresh]

/- What the rotation of a token under its lock leaves. -/
def Rotated (tr : Trace) (r : Except Error RefreshResponse) :
    Prop :=
  ∀ out, r = .ok out → progress tr =
      { locked := true
        cleared := true
        spent := true
        signed := some out.refreshToken }

theorem rotated_error (tr : Trace) (e : Error) :
    Rotated tr (.error e) :=
  fun _ hOk => nomatch hOk

/- The revocation of a token that was exchanged. -/
theorem along_revoke
    (s : Settings)
    (session : ℕ)
    (token : Token)
    (tokens : Claims × Claims)
    (hSigned :
      progress tr =
        { locked := true
          cleared := true
          signed := some tokens.2 }) :
    (andThen (revokeToken (some session) token s.refreshTtl)
      fun _ =>
        (ok ⟨tokens.1, tokens.2⟩ :
          Handler RefreshResponse)).Along Truthful
      (mayRotate s session token) Rotated tr := by
  refine ⟨trivial, fun a now _ => ⟨trivial, fun a r _ => ?_⟩⟩
  rcases (r : Except Error Unit) with e | x
  · exact rotated_error _ e
  refine ⟨⟨rfl, rfl, rfl, tokens.2, ?_⟩, fun a r _ => ?_⟩
  · simpa [progress, Progress.after] using hSigned
  · rcases (r : Except Error Unit) with e | x
    · exact rotated_error _ _
    · intro out hOut
      cases hOut
      simp [progress, Progress.after, hSigned, Except.isOk,
        Except.toBool]

theorem along_rotate
    (s : Settings)
    (session : ℕ)
    (token : Token)
    (hLocked : progress tr = { locked := true }) :
    (rotate s session token).Along Truthful
      (mayRotate s session token) Rotated tr := by
  refine ⟨trivial, fun a r hToken => ?_⟩
  rcases (r : Except Error Claims) with e | claims
  · exact rotated_error _ e
  have hJwt : token = .jwt claims := hToken claims rfl
  refine along_checked (rotated_error _ _) (fun hTyp => ?_)
  -- The lookup of the revocation, at a time just read.
  refine ⟨trivial, fun a (now : Int) _ =>
    ⟨trivial, fun a r _ => ?_⟩⟩
  rcases (r : Except Error Unit) with e | x
  · exact rotated_error _ e
  refine ⟨⟨rfl, rfl, ?_, claims, hJwt⟩, fun a r _ => ?_⟩
  · simpa [progress, Progress.after] using hLocked
  rcases (r : Except Error (Option Int)) with e | expiresAt
  · exact rotated_error _ e
  refine along_require (rotated_error _ _) (fun hClear => ?_)
  have hUnrevoked :
      expiresAt.any (now < ·) = false := by
    simpa using hClear
  refine ⟨trivial, fun a r hUser => ?_⟩
  rcases (r : Except Error (Option (String × User))) with
    e | row
  · exact rotated_error _ e
  rcases row with _ | row
  · exact rotated_error _ _
  change Prog.Along _ _ _ _
    (andThen (lift (ensureUserNotDisabled row.2)) _)
  refine along_lift (fun e _ => rotated_error _ e)
    (fun _ hActive => ?_)
  refine along_require (rotated_error _ _) (fun hFresh => ?_)
  refine ⟨rfl, fun a r _ => ?_⟩
  rcases (r : Except Error Claims) with e | access
  · exact rotated_error _ e
  refine ⟨⟨?_, claims, ?_, hJwt, by simpa using hTyp, rfl, rfl,
    rfl, row, ?_, hUser row rfl,
    renews_of_checks hActive hFresh⟩, fun a r _ => ?_⟩
  · simp only [progress, Progress.after, hLocked]
    exact congrArg (fun b => Progress.mk true (!b) false none)
      hUnrevoked
  · simp [Auth.tokens, tokenOf, Except.toOption]
  · simp [rows, rowOf, Except.toOption]
  rcases (r : Except Error Claims) with e | renew
  · exact rotated_error _ e
  refine along_revoke s session token (access, renew) ?_
  simp only [progress, Progress.after, hLocked]
  exact congrArg
    (fun b => Progress.mk true (!b) false (some renew))
    hUnrevoked

/- The lock was given back and the new token handed out. -/
def Handed
    (token : Token)
    (claims : Claims)
    (tr : Trace) : Prop :=
  ∃ k a past,
    tr = ⟨.endLock k token (some claims), a, .ok ()⟩ :: past ∧
      progress past =
        { locked := true
          cleared := true
          spent := true
          signed := some claims }

/- What a request has done when it ends well. -/
def Spent : Call → Trace → Except Error Reply → Prop
  | .refresh token, tr, r =>
    ∀ out, r = .ok (.refresh out) →
      Handed token out.refreshToken tr
  | .logout _, tr, r =>
    ∀ reply, r = .ok reply → (progress tr).spent = true
  | _, _, _ => True

/- What a request that spends a refresh token may call. -/
def maySpend (s : Settings) (x : Call × ℕ) :
    Trace → Op → Prop :=
  match x.1 with
  | .refresh token => mayRotate s x.2 token
  | .logout token => mayLogout s token
  | .cleanup => mayClean
  | _ => fun _ _ => True

theorem along_exchange
    (s : Settings)
    (session : ℕ)
    (token : Token) :
    (refresh s session token).Along Truthful
      (mayRotate s session token)
      (fun tr r => ∀ out, r = .ok out →
        Handed token out.refreshToken tr) [] := by
  refine ⟨⟨rfl, rfl, rfl⟩, fun a r _ => ?_⟩
  rcases (r : Except Error Bool) with e | acquired
  · exact fun _ hOk => nomatch hOk
  refine along_require (fun _ hOk => nomatch hOk)
    (fun hAcquired => ?_)
  cases (hAcquired : acquired = true)
  refine Prog.Along.bind
    (along_rotate s session token rfl) ?_
  intro tr r hRotated
  rcases r with e | out
  · exact ⟨⟨rfl, rfl, fun _ h => nomatch h⟩,
      fun _ _ _ _ h => nomatch h⟩
  have hDone := hRotated out rfl
  refine ⟨⟨rfl, rfl, ?_⟩, fun a r _ => ?_⟩
  · rintro claims ⟨⟩
    exact hDone
  rcases (r : Except Error Unit) with e | x
  · exact fun _ h => nomatch h
  · intro out' hOut
    cases hOut
    exact ⟨session, a, tr, rfl, hDone⟩

theorem along_refresh
    (s : Settings)
    (session : ℕ)
    (token : Token) :
    ((Call.refresh token).body s session).Along Truthful
      (mayRotate s session token)
      (Spent (.refresh token)) [] := by
  refine Prog.Along.bind (along_exchange s session token) ?_
  intro tr r hDone
  rcases r with e | out
  · exact fun _ h => nomatch h
  · intro out' hOut
    cases hOut
    exact hDone out rfl

theorem along_logout (s : Settings) (token : Token) (k : ℕ) :
    ((Call.logout token).body s k).Along Truthful
      (mayLogout s token) (Spent (.logout token)) [] := by
  have hFail :
      ∀ tr e, Spent (.logout token) tr (.error e) :=
    fun _ _ _ hOk => nomatch hOk
  by_cases hText : token = .text ""
  · subst hText
    exact hFail _ _
  simp only [Call.body, replying, logout, require, ne_eq,
    hText, not_false_eq_true, decide_true, if_true]
  refine ⟨trivial, fun a now _ => ⟨trivial, fun a r _ => ?_⟩⟩
  rcases (r : Except Error Unit) with e | x
  · exact hFail _ e
  refine ⟨⟨rfl, rfl, rfl⟩, fun a r _ => ?_⟩
  rcases (r : Except Error Unit) with e | x
  · exact hFail _ _
  · exact fun _ _ => rfl

theorem along_cleanup (s : Settings) (k : ℕ) :
    (Call.cleanup.body s k).Along Truthful mayClean
      (Spent .cleanup) [] := by
  refine ⟨trivial, fun a now _ => ⟨trivial, fun a r _ => ?_⟩⟩
  rcases (r : Except Error Unit) with e | x
  · trivial
  refine ⟨⟨rfl, rfl⟩, fun a r _ => ?_⟩
  rcases (r : Except Error ℕ) with e | n
  · trivial
  · trivial

/- The requests that spend refresh tokens. -/
def Call.spends : Call → Bool
  | .refresh _ => true
  | .logout _ => true
  | .cleanup => true
  | _ => false

theorem along_spends
    (s : Settings)
    (x : Call × ℕ)
    (hSpends : x.1.spends = true) :
    (x.1.body s x.2).Along Truthful (maySpend s x)
      (Spent x.1) [] := by
  rcases x with ⟨call, session⟩
  cases call with
  | refresh token => exact along_refresh s session token
  | logout token => exact along_logout s token session
  | cleanup => exact along_cleanup s session
  | _ => cases hSpends

--------
-- The Reset Of A Password
--------

/- What a reset writes. -/
def resetPatch (hash : String) (now : Int) : UserPatch where
  passwordHash := some hash
  resetTokenHash := some none
  resetTokenExpires := some none
  resetTokenUsed := some true
  passwordChangedAt := some now

/- What a reset may call. -/
def mayReset (token : Token) (tr : Trace) : Op → Prop
  | .utcNow => True
  | .verifyToken _ => True
  | .userById _ => True
  | .hashPassword _ => True
  | .updateUser _ id patch =>
    ∃ claims, tokens tr = [claims] ∧
      token = .jwt claims ∧ id = claims.sub ∧
        ∃ hash, patch = resetPatch hash (clock tr)
  | _ => False

/- The document of a user was changed. -/
def wrote : Event Op.Res Answer → Bool
  | ⟨.updateUser .., _, r⟩ => Except.isOk r
  | _ => false

def hasWritten (tr : Trace) : Bool :=
  tr.any wrote

/- A request that ends well has changed a document. -/
def Written
    {α : Type}
    (tr : Trace)
    (r : Except Error α) : Prop :=
  ∀ reply, r = .ok reply → hasWritten tr = true

theorem written_error
    {α : Type}
    (tr : Trace)
    (e : Error) :
    Written tr (.error e : Except Error α) :=
  fun _ hOk => nomatch hOk

theorem along_resetPassword (body : ResetPasswordRequest) :
    (resetPassword body).Along Truthful
      (mayReset body.token) Written [] := by
  refine along_lift (fun e _ => written_error _ e)
    (fun _ _ => ?_)
  refine ⟨trivial, fun a r hToken => ?_⟩
  rcases (r : Except Error Claims) with e | claims
  · exact written_error _ e
  have hJwt : body.token = .jwt claims := hToken claims rfl
  refine along_checked (written_error _ _) (fun _ => ?_)
  refine ⟨trivial, fun a r _ => ?_⟩
  rcases (r : Except Error (Option (String × User))) with
    e | row
  · exact written_error _ e
  rcases row with _ | row
  · exact written_error _ _
  simp only [found, lift, Prog.bind]
  cases row.2.resetTokenHash with
  | none => exact written_error _ _
  | some stored =>
    refine along_require (written_error _ _) (fun _ => ?_)
    refine ⟨trivial, fun a (now : Int) _ => ?_⟩
    refine along_require (written_error _ _) (fun _ => ?_)
    refine along_require (written_error _ _) (fun _ => ?_)
    refine ⟨trivial, fun a r _ => ?_⟩
    rcases (r : Except Error String) with e | hash
    · exact written_error _ e
    refine ⟨trivial, fun a (changedAt : Int) _ => ?_⟩
    refine ⟨⟨claims, rfl, hJwt, rfl, hash, rfl⟩,
      fun a r _ => ?_⟩
    rcases (r : Except Error Unit) with e | x
    · exact written_error _ e
    · exact fun _ _ => rfl

theorem along_reset
    (s : Settings)
    (session : ℕ)
    (body : ResetPasswordRequest) :
    ((Call.resetPassword body).body s session).Along Truthful
      (mayReset body.token) Written [] := by
  refine Prog.Along.bind (along_resetPassword body) ?_
  intro tr r hWritten
  rcases r with e | text
  · exact written_error _ e
  · exact fun _ _ => hWritten text rfl

end Orignabase.Auth
