import Orignabase.Store.Api

/-
  The documents of users, their tokens, and the statements on
  them (`ob-auth/src/jwt.rs`, `ob-auth/src/revocation.rs`,
  `ob-database/src/pg_store.rs`).

  The text of a token is determined by its claims, and the
  hash of a token stands for the token.  Times are in whole
  seconds.  What a cryptographic check answers is decided by
  the environment, and so is a fault: a statement that names
  a field as a column fails where the table has no such
  column.

  Key definitions include:
    * `Claims`
    * `User`
    * `World`
    * `Op`
    * `exec`
-/

--------
-- Documents
--------

namespace Orignabase.Auth

inductive TokenType
  | access
  | refresh
  | emailVerify
  | passwordReset
  | mfaChallenge
  deriving DecidableEq, Repr

structure Claims where
  sub : String
  iat : Int
  exp : Int
  roles : List String := []
  typ : TokenType
  emailVerified : Bool := false
  deriving DecidableEq, Repr

/- What a client sends as a token. -/
inductive Token
  | jwt (claims : Claims)
  | text (s : String)
  deriving DecidableEq, Repr

/-
  A document of the users.  The setup of a second factor
  writes `mfaEnabled`, the handlers read `mfa_enabled`.
-/
structure User where
  uid : Option String := none
  email : Option String := none
  passwordHash : Option String := none
  roles : List String := []
  emailVerified : Option Bool := none
  mfaEnabled : Option Bool := none
  mfa_enabled : Option Bool := none
  disabled : Bool := false
  oauthProvider : Option String := none
  oauthProviderId : Option String := none
  mfaSecret : Option String := none
  mfaPendingSecret : Option String := none
  mfaRecoveryCodes : List String := []
  mfaLastUsedStep : Option Int := none
  mfaLocked : Bool := false
  mfaLockedAt : Option String := none
  passwordChangedAt : Option Int := none
  resetTokenHash : Option Token := none
  resetTokenExpires : Option Int := none
  resetTokenUsed : Bool := false
  deriving DecidableEq, Repr

/- The second factor is on, under either of its names. -/
def User.hasSecondFactor (user : User) : Bool :=
  user.mfaEnabled = some true || user.mfa_enabled = some true

/- A field that is set to null is set to `some none`. -/
structure UserPatch where
  email : Option String := none
  passwordHash : Option String := none
  roles : Option (List String) := none
  emailVerified : Option Bool := none
  mfaEnabled : Option Bool := none
  disabled : Option Bool := none
  oauthProvider : Option String := none
  oauthProviderId : Option String := none
  mfaSecret : Option (Option String) := none
  mfaPendingSecret : Option (Option String) := none
  mfaRecoveryCodes : Option (List String) := none
  mfaLastUsedStep : Option (Option Int) := none
  mfaLocked : Option Bool := none
  mfaLockedAt : Option String := none
  passwordChangedAt : Option Int := none
  resetTokenHash : Option (Option Token) := none
  resetTokenExpires : Option (Option Int) := none
  resetTokenUsed : Option Bool := none
  deriving DecidableEq, Repr

/- The merge of `update_document`. -/
def UserPatch.apply (patch : UserPatch) (user : User) :
    User :=
  { user with
    email := patch.email.or user.email
    passwordHash := patch.passwordHash.or user.passwordHash
    roles := patch.roles.getD user.roles
    emailVerified :=
      patch.emailVerified.or user.emailVerified
    mfaEnabled := patch.mfaEnabled.or user.mfaEnabled
    disabled := patch.disabled.getD user.disabled
    oauthProvider :=
      patch.oauthProvider.or user.oauthProvider
    oauthProviderId :=
      patch.oauthProviderId.or user.oauthProviderId
    mfaSecret := patch.mfaSecret.getD user.mfaSecret
    mfaPendingSecret :=
      patch.mfaPendingSecret.getD user.mfaPendingSecret
    mfaRecoveryCodes :=
      patch.mfaRecoveryCodes.getD user.mfaRecoveryCodes
    mfaLastUsedStep :=
      patch.mfaLastUsedStep.getD user.mfaLastUsedStep
    mfaLocked := patch.mfaLocked.getD user.mfaLocked
    mfaLockedAt := patch.mfaLockedAt.or user.mfaLockedAt
    passwordChangedAt :=
      patch.passwordChangedAt.or user.passwordChangedAt
    resetTokenHash :=
      patch.resetTokenHash.getD user.resetTokenHash
    resetTokenExpires :=
      patch.resetTokenExpires.getD user.resetTokenExpires
    resetTokenUsed :=
      patch.resetTokenUsed.getD user.resetTokenUsed }

--------
-- Operations
--------

/- The handler that asks for a refresh token. -/
inductive Origin
  | register
  | login
  | oauth
  | challenge
  | recovery
  | refresh (old : Claims)
  | anonymous
  | upgrade
  deriving DecidableEq, Repr

/-
  The issue of a refresh token, with what the document of its
  user said at that moment.
-/
structure Pair where
  token : Claims
  via : Origin
  secondFactor : Bool
  disabled : Bool
  deriving DecidableEq, Repr

/-
  The documents, the advisory locks by session, the clock and
  the tokens that were signed.  The rest is what the store
  does not tell: the tokens handed to clients, the refreshes
  that have revoked a token, the issues of refresh tokens and
  who made whom an administrator.
-/
structure World where
  users : Table User := ⟨[]⟩
  revoked : List (Token × Int) := []
  locks : List (Token × ℕ) := []
  now : Int := 0
  issued : List Claims := []
  handed : List Token := []
  spent : List (Token × ℕ) := []
  pairs : List Pair := []
  grants : List (String × String) := []
  deriving DecidableEq, Repr

/-
  Who asks for an update, the session of a rotation, the
  handler behind a refresh token and the token handed out
  after a commit are written down for the record only.
-/
inductive Op
  | utcNow
  | utcText
  | validateTurnstile
  | checkLockout (email : String)
  | rateLimit (userId action : String)
  | userRateLimit (userId action : String)
  | record (what userId : String)
  | hashPassword (password : String)
  | verifyPassword (password hash : String)
  | verifyToken (token : Token)
  | signToken
      (typ : TokenType)
      (sub : String)
      (roles : List String)
      (emailVerified : Bool)
      (ttl : ℕ)
  | signRefresh (via : Origin) (sub : String) (ttl : ℕ)
  | userById (id : String)
  | userByEmail (email : String)
  | userByProvider (provider providerId : String)
  | getUser (id : String)
  | createUser (user : User)
  | updateUser (caller id : String) (patch : UserPatch)
  | tryLock (session : ℕ) (token : Token)
  | endLock
      (session : ℕ)
      (token : Token)
      (handing : Option Claims)
  | ensureRevokedTable
  | revokedExpiry (token : Token)
  | upsertRevoked
      (session : Option ℕ)
      (token : Token)
      (expiresAt : Int)
  | deleteRevoked (now : Int)
  | newSecret
  | sealSecret (secret : String)
  | openSecret (text : String)
  | checkTotp
      (secret code : String)
      (lastUsedStep : Option Int)
  | lockElapsed (lockedAt : Option String)
  | newRecoveryCodes
  | verifyRecoveryCode (code hash : String)
  deriving DecidableEq, Repr

def Op.Res : Op → Type
  | .utcNow => Int
  | .utcText => String
  | .validateTurnstile => Except Error Unit
  | .checkLockout .. => Except Error Unit
  | .rateLimit .. => Except Error Unit
  | .userRateLimit .. => Except Error Unit
  | .record .. => Unit
  | .hashPassword .. => Except Error String
  | .verifyPassword .. => Except Error Bool
  | .verifyToken .. => Except Error Claims
  | .signToken .. => Except Error Claims
  | .signRefresh .. => Except Error Claims
  | .userById .. => Except Error (Option (String × User))
  | .userByEmail .. => Except Error (Option (String × User))
  | .userByProvider .. =>
    Except Error (Option (String × User))
  | .getUser .. => Except Error User
  | .createUser .. => Except Error (String × User)
  | .updateUser .. => Except Error Unit
  | .tryLock .. => Except Error Bool
  | .endLock .. => Except Error Unit
  | .ensureRevokedTable => Except Error Unit
  | .revokedExpiry .. => Except Error (Option Int)
  | .upsertRevoked .. => Except Error Unit
  | .deleteRevoked .. => Except Error ℕ
  | .newSecret => String
  | .sealSecret .. => Except Error String
  | .openSecret .. => Except Error String
  | .checkTotp .. => Except Error Int
  | .lockElapsed .. => Bool
  | .newRecoveryCodes => Except Error (List String)
  | .verifyRecoveryCode .. => Except Error Bool

/-
  What the environment decides about one step: whether it
  fails, the verdict of a check, the time, the row of a query
  for any row, the id of a new document and a random text.
-/
structure Answer where
  fault : Bool := false
  verdict : Bool := true
  now : Int := 0
  pick : ℕ := 0
  id : String := ""
  text : String := ""
  codes : List String := []
  deriving DecidableEq, Repr

def databaseError : Error := .database "Query failed"

/- The lifetime of a token as a signed number of 64 bits. -/
def asI64 (n : ℕ) : Int :=
  Int.bmod n (2 ^ 64)

/- The sum of a time and a lifetime, which wraps around. -/
def expiry (now : Int) (ttl : ℕ) : Int :=
  Int.bmod (now + asI64 ttl) (2 ^ 64)

/- How long after its end a token is still accepted. -/
def leeway : Int := 30

/- The id of a document without its collection in front. -/
def bareId (id : String) : String :=
  (Text.stripPrefix "users:" id).getD id

namespace World

/- The clock does not go back. -/
def tick (w : World) (a : Answer) : World :=
  { w with now := max w.now a.now }

/- Any one of the rows that satisfy a condition. -/
def pickUser
    (w : World)
    (pick : ℕ)
    (cond : User → Bool) : Option (String × User) :=
  let rows := w.users.rows.filter (fun row => cond row.2)
  rows[pick % rows.length]?

/- When the revocation of a token ends. -/
def revocation (w : World) (token : Token) : Option Int :=
  (w.revoked.find? (fun row => row.1 = token)).map (·.2)

def accepts (w : World) (claims : Claims) : Bool :=
  w.issued.contains claims && w.now ≤ claims.exp + leeway

/- A token is signed. -/
def sign (w : World) (claims : Claims) : World :=
  { w with issued := claims :: w.issued }

/- A refresh token is signed for the user of its subject. -/
def signPair
    (w : World)
    (via : Origin)
    (claims : Claims) : World :=
  let user := (w.users.get claims.sub).getD {}
  { w.sign claims with
    pairs :=
      { token := claims
        via := via
        secondFactor := user.hasSecondFactor
        disabled := user.disabled } :: w.pairs }

/- A document is changed on behalf of the caller. -/
def update
    (w : World)
    (caller id : String)
    (patch : UserPatch) : World :=
  { w with
    users := w.users.modify id patch.apply
    grants :=
      if (patch.roles.getD []).contains "admin" then
        (caller, id) :: w.grants
      else w.grants }

end World

section

variable {α : Type}

/- A statement that fails leaves the world as it was. -/
def Answer.guard
    (a : Answer)
    (w : World)
    (e : Error)
    (result : Except Error α × World) :
    Except Error α × World :=
  if a.fault then (.error e, w) else result

end

/- What an operation does once its time has come. -/
def act : (o : Op) → Answer → World → o.Res × World
  | .utcNow, _, w => (w.now, w)
  | .utcText, a, w => (a.text, w)
  | .validateTurnstile, a, w =>
    a.guard w
      (.auth "Turnstile validation request failed")
      (if a.verdict then .ok ()
      else .error
        (.validation "Turnstile validation failed"), w)
  | .checkLockout _, a, w =>
    -- A query that fails finds no attempts.
    (if a.fault || a.verdict then .ok ()
      else .error (.auth
        ("Account temporarily locked. " ++
          "Try again in 15 minutes.")), w)
  | .rateLimit .., a, w =>
    a.guard w (.internal "Rate limit check failed")
      (if a.verdict then .ok ()
      else .error (.auth
        ("Too many failed attempts. " ++
          "Please try again later.")), w)
  | .userRateLimit .., a, w =>
    a.guard w databaseError
      (if a.verdict then .ok ()
      else .error (.validation
        "Rate limit exceeded. Please try again later."), w)
  | .record .., _, w => ((), w)
  | .hashPassword _, a, w =>
    a.guard w (.internal "Password hashing failed")
      (.ok a.text, w)
  | .verifyPassword .., a, w =>
    a.guard w (.internal "Invalid hash")
      (.ok a.verdict, w)
  | .verifyToken token, _, w =>
    match token with
    | .jwt claims =>
      (if w.accepts claims then .ok claims
        else .error
          (.auth "Token verification failed"), w)
    | .text _ =>
      (.error (.auth "Token verification failed"), w)
  | .signToken typ sub roles emailVerified ttl, a, w =>
    let claims : Claims :=
      { sub := sub
        iat := w.now
        exp := expiry w.now ttl
        roles := roles
        typ := typ
        emailVerified := emailVerified }
    a.guard w (.auth "Token creation failed")
      (.ok claims, w.sign claims)
  | .signRefresh via sub ttl, a, w =>
    let claims : Claims :=
      { sub := sub
        iat := w.now
        exp := expiry w.now ttl
        typ := .refresh }
    a.guard w (.auth "Refresh token creation failed")
      (.ok claims, w.signPair via claims)
  | .userById id, a, w =>
    a.guard w databaseError
      (.ok ((w.users.get id).map (fun u => (id, u))), w)
  | .userByEmail email, a, w =>
    a.guard w databaseError (.ok (w.pickUser a.pick
        (fun u => u.email = some email)), w)
  | .userByProvider provider providerId, a, w =>
    a.guard w databaseError (.ok (w.pickUser a.pick
        (fun u =>
          u.oauthProvider = some provider &&
            u.oauthProviderId = some providerId)), w)
  | .getUser id, a, w =>
    a.guard w databaseError
      (match w.users.get (bareId id) with
        | some user => .ok user
        | none =>
          .error (.notFound
            ("users:" ++ bareId id ++ " not found")), w)
  | .createUser user, a, w =>
    a.guard w databaseError
      (if (w.users.get a.id).isSome then
        (.error (.validation
          ("Document already exists in collection users: "
            ++ a.id)), w)
      else
        (.ok (a.id, user),
          { w with users := w.users.insert a.id user }))
  | .updateUser caller id patch, a, w =>
    a.guard w databaseError
      (if (w.users.get (bareId id)).isSome then
        (.ok (), w.update caller (bareId id) patch)
      else
        (.error (.notFound
          ("users:" ++ bareId id ++ " not found")), w))
  | .tryLock session token, a, w =>
    a.guard w databaseError
      (if a.verdict && !w.locks.any (·.1 = token) then
        (.ok true,
          { w with locks := (token, session) :: w.locks })
      else (.ok false, w))
  | .endLock session token handing, a, w =>
    -- The lock ends with the transaction, as it may end.
    let freed : World :=
      { w with
        locks := w.locks.filter (· ≠ (token, session)) }
    if a.fault then (.error databaseError, freed)
    else
      (.ok (),
        { freed with
          handed :=
            handing.toList.map Token.jwt ++ w.handed })
  | .ensureRevokedTable, a, w =>
    a.guard w databaseError (.ok (), w)
  | .revokedExpiry token, a, w =>
    a.guard w databaseError (.ok (w.revocation token), w)
  | .upsertRevoked session token expiresAt, a, w =>
    a.guard w databaseError (.ok (),
        { w with
          revoked := (token, expiresAt) ::
              w.revoked.filter (fun row => row.1 ≠ token)
          spent :=
            session.toList.map (fun s => (token, s)) ++
              w.spent })
  | .deleteRevoked now, a, w =>
    a.guard w databaseError
      (.ok (w.revoked.countP (fun row => row.2 < now)),
        { w with
          revoked :=
            w.revoked.filter (fun row => now ≤ row.2) })
  | .newSecret, a, w => (a.text, w)
  | .sealSecret _, a, w =>
    a.guard w (.internal "Encryption failed") (.ok a.text, w)
  | .openSecret _, a, w =>
    a.guard w (.internal "Decryption failed") (.ok a.text, w)
  | .checkTotp _ _ last, a, w =>
    let step := w.now / 30
    (if last.any (step ≤ ·) then
        .error (.auth "TOTP code already used")
      else if a.fault then
        .error (.internal "TOTP check failed")
      else if a.verdict then .ok step
      else .error (.auth "Invalid TOTP code"), w)
  | .lockElapsed lockedAt, a, w =>
    (lockedAt.isSome && a.verdict, w)
  | .newRecoveryCodes, a, w =>
    a.guard w (.internal "Recovery code hashing failed")
      (.ok a.codes, w)
  | .verifyRecoveryCode .., a, w =>
    a.guard w (.internal "Invalid recovery code hash")
      (.ok a.verdict, w)

def exec : Conc.Exec Op.Res Answer World :=
  fun o a w => act o a (w.tick a)

end Orignabase.Auth
