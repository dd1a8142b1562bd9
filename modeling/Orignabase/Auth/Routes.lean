import Orignabase.Auth.Store

/-
  The handlers that sign users in and look after their
  accounts (`ob-auth/src/routes.rs`, `ob-auth/src/password.rs`,
  `ob-auth/src/revocation.rs`, `ob-auth/src/middleware.rs`,
  `create_profile` of `ob-handlers/src/users/mod.rs`).

  Key definitions include:
    * `register`, `login`, `oauthFindOrCreateUser`
    * `refresh`, `logout`, `cleanupRevokedTokens`
    * `resetPassword`
    * `mfaVerifySetup`, `mfaChallenge`, `mfaRecovery`
    * `createProfile`, `adminUpdateUser`
-/

--------
-- Requests And Answers
--------

namespace Orignabase.Auth

open Conc

/- The lifetimes of tokens and what is configured. -/
structure Settings where
  accessTtl : ℕ := 900
  refreshTtl : ℕ := 604800
  requireEmailVerification : Bool := false
  testMode : Bool := false
  turnstileSecretKey : Bool := true
  totpEncryptionKey : Bool := true
  deriving DecidableEq, Repr

structure RegisterRequest where
  email : String
  password : String
  turnstileToken : Option String := none
  deriving DecidableEq, Repr

structure LoginRequest where
  email : String
  password : String
  turnstileToken : Option String := none
  deriving DecidableEq, Repr

inductive OAuthProvider
  | google
  | apple
  | oidc
  deriving DecidableEq, Repr

def OAuthProvider.asStr : OAuthProvider → String
  | google => "google"
  | apple => "apple"
  | oidc => "oidc"

/- A verified identity. -/
structure OAuthUserInfo where
  providerId : String
  provider : OAuthProvider
  email : Option String := none
  deriving DecidableEq, Repr

structure ResetPasswordRequest where
  token : Token
  newPassword : String
  deriving DecidableEq, Repr

structure MfaChallengeRequest where
  challengeToken : Token
  code : String
  deriving DecidableEq, Repr

structure MfaRecoveryRequest where
  challengeToken : Token
  recoveryCode : String
  deriving DecidableEq, Repr

structure AdminUpdateUserRequest where
  email : Option String := none
  displayName : Option String := none
  roles : Option (List String) := none
  emailVerified : Option Bool := none
  disabled : Option Bool := none
  deriving DecidableEq, Repr

structure AnonymousUpgradeRequest where
  email : String
  password : String
  deriving DecidableEq, Repr

inductive UserRole
  | buyer
  | seller
  | admin
  deriving DecidableEq, Repr

def UserRole.asStr : UserRole → String
  | buyer => "buyer"
  | seller => "seller"
  | admin => "admin"

structure CreateProfileRequest where
  userId : Option String := none
  email : String
  roles : Option (List UserRole) := none
  deriving DecidableEq, Repr

/- Tokens that are not handed out are empty texts. -/
structure AuthResponse where
  accessToken : Option Claims := none
  refreshToken : Option Claims := none
  challengeToken : Option Claims := none
  deriving DecidableEq, Repr

structure RefreshResponse where
  accessToken : Claims
  refreshToken : Claims
  deriving DecidableEq, Repr

abbrev Handler (α : Type) := Prog Op.Res (Except Error α)

--------
-- Steps
--------

/- The operations as steps of a handler. -/
namespace Db

abbrev utcNow : Prog Op.Res Int :=
  Prog.perform Op.utcNow

abbrev utcText : Prog Op.Res String :=
  Prog.perform Op.utcText

abbrev validateTurnstile : Handler Unit :=
  Prog.perform Op.validateTurnstile

abbrev checkLockout (email : String) : Handler Unit :=
  Prog.perform (Op.checkLockout email)

abbrev rateLimit (userId action : String) : Handler Unit :=
  Prog.perform (Op.rateLimit userId action)

abbrev userRateLimit (userId action : String) :
    Handler Unit :=
  Prog.perform (Op.userRateLimit userId action)

/- Sessions, devices and messages, which may fail. -/
abbrev record (what userId : String) : Prog Op.Res Unit :=
  Prog.perform (Op.record what userId)

abbrev hashPassword (password : String) : Handler String :=
  Prog.perform (Op.hashPassword password)

abbrev verifyPassword (password hash : String) :
    Handler Bool :=
  Prog.perform (Op.verifyPassword password hash)

abbrev verifyToken (token : Token) : Handler Claims :=
  Prog.perform (Op.verifyToken token)

abbrev signToken
    (typ : TokenType)
    (sub : String)
    (roles : List String)
    (emailVerified : Bool)
    (ttl : ℕ) : Handler Claims :=
  Prog.perform (Op.signToken typ sub roles emailVerified ttl)

abbrev signRefresh (via : Origin) (sub : String) (ttl : ℕ) :
    Handler Claims :=
  Prog.perform (Op.signRefresh via sub ttl)

abbrev userById (id : String) :
    Handler (Option (String × User)) :=
  Prog.perform (Op.userById id)

abbrev userByEmail (email : String) :
    Handler (Option (String × User)) :=
  Prog.perform (Op.userByEmail email)

abbrev userByProvider (provider providerId : String) :
    Handler (Option (String × User)) :=
  Prog.perform (Op.userByProvider provider providerId)

abbrev getUser (id : String) : Handler User :=
  Prog.perform (Op.getUser id)

abbrev createUser (user : User) : Handler (String × User) :=
  Prog.perform (Op.createUser user)

abbrev updateUser
    (caller id : String)
    (patch : UserPatch) : Handler Unit :=
  Prog.perform (Op.updateUser caller id patch)

abbrev tryLock (session : ℕ) (token : Token) : Handler Bool :=
  Prog.perform (Op.tryLock session token)

abbrev endLock
    (session : ℕ)
    (token : Token)
    (handing : Option Claims) : Handler Unit :=
  Prog.perform (Op.endLock session token handing)

abbrev ensureRevokedTable : Handler Unit :=
  Prog.perform Op.ensureRevokedTable

abbrev revokedExpiry (token : Token) :
    Handler (Option Int) :=
  Prog.perform (Op.revokedExpiry token)

abbrev upsertRevoked
    (session : Option ℕ)
    (token : Token)
    (expiresAt : Int) : Handler Unit :=
  Prog.perform (Op.upsertRevoked session token expiresAt)

abbrev deleteRevoked (now : Int) : Handler ℕ :=
  Prog.perform (Op.deleteRevoked now)

abbrev newSecret : Prog Op.Res String :=
  Prog.perform Op.newSecret

abbrev sealSecret (secret : String) : Handler String :=
  Prog.perform (Op.sealSecret secret)

abbrev openSecret (text : String) : Handler String :=
  Prog.perform (Op.openSecret text)

abbrev checkTotp
    (secret code : String)
    (lastUsedStep : Option Int) : Handler Int :=
  Prog.perform (Op.checkTotp secret code lastUsedStep)

abbrev lockElapsed (lockedAt : Option String) :
    Prog Op.Res Bool :=
  Prog.perform (Op.lockElapsed lockedAt)

abbrev newRecoveryCodes : Handler (List String) :=
  Prog.perform Op.newRecoveryCodes

abbrev verifyRecoveryCode (code hash : String) :
    Handler Bool :=
  Prog.perform (Op.verifyRecoveryCode code hash)

end Db

--------
-- Checks
--------

open Handler

def minPasswordLength : ℕ := 8

def commonPasswords : List String :=
  ["password", "12345678", "123456789", "1234567890",
    "qwerty", "qwerty123", "abc123", "abc123456",
    "password1", "password123", "iloveyou", "monkey",
    "dragon", "master", "letmein", "login", "admin",
    "welcome", "shadow", "sunshine", "trustno1",
    "football", "baseball", "soccer", "hockey", "batman",
    "superman", "spider", "michael", "jennifer",
    "hunter", "harley", "ranger", "buster", "thomas",
    "robert", "george", "asdfgh", "asdfghjkl", "zxcvbn",
    "zxcvbnm", "qazwsx", "qweasd", "password!",
    "password@", "password#", "123456!", "qwerty!",
    "shop1234", "store123", "buybuy123", "market1",
    "summer2024", "winter2024", "spring2024", "fall2024",
    "summer2025", "winter2025", "spring2025", "fall2025",
    "summer2026", "winter2026", "spring2026", "fall2026",
    "Password1!", "Password123!", "Qwerty1!",
    "Qwerty123!", "Summer2024!", "Winter2024!",
    "Spring2024!", "Fall2024!", "Abc123456!", "Monkey1!",
    "Dragon1!", "Welcome1!"]

/- The punctuation of ASCII without the backslash. -/
def isSpecial (c : Char) : Bool :=
  (33 ≤ c.toNat && c.toNat ≤ 47) ||
    (58 ≤ c.toNat && c.toNat ≤ 64) ||
    (91 ≤ c.toNat && c.toNat ≤ 96 && c.toNat ≠ 92) ||
    (123 ≤ c.toNat && c.toNat ≤ 126)

/-
  Lower case as far as ASCII: the Kelvin sign is the only
  other character that becomes an ASCII letter.
-/
def toLowercase (s : String) : String :=
  String.ofList (s.toList.map (fun c =>
    if c.toNat = 0x212a then 'k' else c.toLower))

def validatePasswordStrength (password : String) :
    Except Error Unit :=
  if password.utf8ByteSize < minPasswordLength then
    .error (.validation ("Password must be at least " ++
        toString minPasswordLength ++ " characters"))
  else
    let kinds := [("an uppercase letter",
          password.toList.any Char.isUpper),
        ("a lowercase letter",
          password.toList.any Char.isLower),
        ("a digit", password.toList.any Char.isDigit),
        ("a special character",
          password.toList.any isSpecial)]
    let missing :=
      (kinds.filter (fun kind => !kind.2)).map (·.1)
    if missing ≠ [] then
      .error (.validation ("Password must include: " ++
          Text.join ", " missing))
    else if commonPasswords.any
        (fun p => toLowercase p = toLowercase password) then
      .error (.validation ("Password is too common. " ++
          "Please choose a stronger password."))
    else .ok ()

/- The short check of the sign-up handlers. -/
def checkEmail (email : String) : Except Error Unit :=
  if !email.toList.contains '@' || email.utf8ByteSize < 5
  then .error (.validation "Invalid email address")
  else .ok ()

def isLocalChar (c : Char) : Bool :=
  c.isAlphanum || ['.', '_', '%', '+', '-'].contains c

def isDomainChar (c : Char) : Bool :=
  c.isAlphanum || ['.', '-'].contains c

/- The expression `local@domain.tld` of the profile check. -/
def matchesEmail (cs : List Char) : Bool :=
  let name := cs.takeWhile (· ≠ '@')
  let domain := (cs.dropWhile (· ≠ '@')).drop 1
  let back := domain.reverse
  let tld := back.takeWhile (· ≠ '.')
  let host := (back.dropWhile (· ≠ '.')).drop 1
  cs.contains '@' && name ≠ [] && name.all isLocalChar &&
    domain.contains '.' && host ≠ [] &&
    host.all isDomainChar && 2 ≤ tld.length &&
    tld.all Char.isAlpha

def validateEmail (email : String) : Except Error Unit :=
  if email.utf8ByteSize > 254 then
    .error (.validation "Email too long")
  else if !matchesEmail email.toList then
    .error (.validation "Invalid email address")
  else .ok ()

def ensureUserNotDisabled (user : User) :
    Except Error Unit :=
  if user.disabled then
    .error (.auth "Account is disabled")
  else .ok ()

def requireAdmin (auth : AuthContext) : Except Error Unit :=
  if !auth.authenticated then
    .error (.auth "Authentication required")
  else if !auth.roles.contains "admin" then
    .error (.auth "Admin access required")
  else .ok ()

/- `AuthContext::anonymous` -/
def noOne : AuthContext := ⟨"", [], false⟩

def fromClaims (claims : Claims) : AuthContext :=
  ⟨claims.sub, claims.roles, true⟩

/- The caller of a request, from its authorization header. -/
def authExtractor (s : Settings) (bearer : Option Token) :
    Handler AuthContext :=
  match bearer with
  | none => ok noOne
  | some token =>
    (Db.verifyToken token).bind fun r =>
    match r with
    | .ok claims =>
      if claims.typ = .access then ok (fromClaims claims)
      else if s.testMode then ok noOne
      else fail (.auth "Invalid token type")
    | .error _ =>
      if s.testMode then ok noOne
      else fail (.auth "Invalid or expired token")

def checkTurnstile
    (s : Settings)
    (token : Option String) : Handler Unit :=
  match token with
  | some text =>
    if !s.turnstileSecretKey || s.testMode then ok ()
    else if text = "" then
      fail (.validation "Turnstile token is required")
    else Db.validateTurnstile
  | none =>
    if s.testMode then ok ()
    else fail (.validation "Turnstile token is required")

/- A token that must have the given type. -/
def verifyTyped
    (token : Token)
    (typ : TokenType)
    (message : String) : Handler Claims :=
  andThen (Db.verifyToken token) fun claims =>
  require (claims.typ = typ) (.auth message) (ok claims)

/- The row of a query that must find one. -/
def found (row : Option (String × User)) :
    Except Error (String × User) :=
  match row with
  | some row => .ok row
  | none => .error (.auth "User not found")

def userOf (id : String) : Handler (String × User) :=
  andThen (Db.userById id) fun row => lift (found row)

/- Both tokens of a session. -/
def issuePair
    (s : Settings)
    (via : Origin)
    (sub : String)
    (roles : List String)
    (emailVerified : Bool) : Handler (Claims × Claims) :=
  andThen
    (Db.signToken .access sub roles emailVerified s.accessTtl)
    fun access =>
  andThen (Db.signRefresh via sub s.refreshTtl) fun renew =>
  ok (access, renew)

def session (tokens : Claims × Claims) : AuthResponse where
  accessToken := some tokens.1
  refreshToken := some tokens.2

--------
-- Signing In
--------

/- `POST /auth/register` -/
def register (s : Settings) (body : RegisterRequest) :
    Handler AuthResponse :=
  andThen (checkTurnstile s body.turnstileToken) fun _ =>
  andThen (lift (checkEmail body.email)) fun _ =>
  andThen (lift (validatePasswordStrength body.password))
    fun _ =>
  andThen (Db.userByEmail body.email) fun existing =>
  require existing.isNone
    (.validation "Registration failed") <|
  andThen (Db.hashPassword body.password) fun hash =>
  andThen (Db.createUser
      { email := some body.email
        passwordHash := some hash
        roles := ["user"]
        emailVerified := some false
        mfaEnabled := some false })
    fun row =>
  andThen (Db.signToken .emailVerify row.1 [] false 86400)
    fun _ =>
  (Db.record "send_verification_email" row.1).bind fun _ =>
  if s.requireEmailVerification then ok {}
  else
    andThen (issuePair s .register row.1 ["user"] false)
      fun tokens => ok (session tokens)

/- `POST /auth/login` -/
def login (s : Settings) (body : LoginRequest) :
    Handler AuthResponse :=
  andThen (checkTurnstile s body.turnstileToken) fun _ =>
  andThen (if s.testMode then ok ()
    else Db.checkLockout body.email) fun _ =>
  andThen (Db.userByEmail body.email) fun existing =>
  match existing with
  | none =>
    (Db.record "failed_login" body.email).bind fun _ =>
    fail (.auth "Invalid email or password")
  | some (userId, user) =>
    match user.passwordHash with
    | none => fail (.auth "Invalid user record")
    | some hash =>
      andThen (lift (ensureUserNotDisabled user)) fun _ =>
      andThen (Db.verifyPassword body.password hash)
        fun verified =>
      if !verified then
        (Db.record "failed_login" body.email).bind fun _ =>
        (Db.record "login_failure" userId).bind fun _ =>
        fail (.auth "Invalid email or password")
      else
        let emailVerified := user.emailVerified.getD false
        require
          (!s.requireEmailVerification || emailVerified)
          (.auth ("Email not verified. " ++
              "Please check your inbox.")) <|
        if user.mfa_enabled.getD false then
          andThen
            (Db.signToken .mfaChallenge userId [] false 300)
            fun challenge =>
          ok { challengeToken := some challenge }
        else
          andThen (issuePair s .login userId user.roles
              emailVerified)
            fun tokens =>
          (Db.record "session" userId).bind fun _ =>
          (Db.record "login_success" userId).bind fun _ =>
          ok (session tokens)

/- A new document for an identity that was not known. -/
def oauthUser (info : OAuthUserInfo) : User where
  email := info.email
  oauthProvider := some info.provider.asStr
  oauthProviderId := some info.providerId
  roles := ["user"]

/- The account with the email of an identity, if it has one. -/
def emailUser (info : OAuthUserInfo) :
    Handler (Option (String × User)) :=
  match info.email with
  | some email => Db.userByEmail email
  | none => ok none

def oauthAccount (info : OAuthUserInfo) :
    Handler (String × User) :=
  andThen
    (Db.userByProvider info.provider.asStr info.providerId)
    fun existing =>
  match existing with
  | some row => ok row
  | none =>
    andThen (emailUser info) fun linked =>
    match linked with
    | some (userId, user) =>
      andThen (Db.updateUser userId userId
          { oauthProvider := some info.provider.asStr
            oauthProviderId := some info.providerId })
        fun _ =>
      ok (userId,
          { user with
            oauthProvider := some info.provider.asStr
            oauthProviderId := some info.providerId })
    | none => Db.createUser (oauthUser info)

/- What the sign-in with any provider comes to. -/
def oauthFindOrCreateUser
    (s : Settings)
    (info : OAuthUserInfo) : Handler AuthResponse :=
  andThen (oauthAccount info) fun row =>
  andThen (lift (ensureUserNotDisabled row.2)) fun _ =>
  andThen (issuePair s .oauth row.1 row.2.roles
      (row.2.emailVerified.getD true))
    fun tokens =>
  (Db.record "session" row.1).bind fun _ =>
  ok (session tokens)

/- `POST /auth/anonymous` -/
def anonymousSignIn (s : Settings) : Handler AuthResponse :=
  andThen (Db.createUser
      { roles := ["anonymous"]
        emailVerified := some false
        mfaEnabled := some false })
    fun row =>
  andThen (issuePair s .anonymous row.1 ["anonymous"] false)
    fun tokens => ok (session tokens)

/- `POST /auth/anonymous/upgrade` -/
def anonymousUpgrade
    (s : Settings)
    (auth : AuthContext)
    (body : AnonymousUpgradeRequest) :
    Handler AuthResponse :=
  require (auth.roles.contains "anonymous")
    (.forbidden "Only anonymous users can upgrade") <|
  andThen (lift (checkEmail body.email)) fun _ =>
  andThen (lift (validatePasswordStrength body.password))
    fun _ =>
  andThen (Db.userByEmail body.email) fun existing =>
  require existing.isNone
    (.validation "Registration failed") <|
  andThen (Db.hashPassword body.password) fun hash =>
  andThen (Db.updateUser auth.userId auth.userId
      { email := some body.email
        passwordHash := some hash
        roles := some ["user"] })
    fun _ =>
  andThen
    (Db.signToken .emailVerify auth.userId [] false 86400)
    fun _ =>
  (Db.record "send_verification_email" auth.userId).bind
    fun _ =>
  andThen (issuePair s .upgrade auth.userId ["user"] false)
    fun tokens =>
  andThen (Db.userById auth.userId) fun _ =>
  ok (session tokens)

--------
-- Rotation Of Refresh Tokens
--------

/- The part of a subject after its last colon. -/
def bareUid (sub : String) : String :=
  String.ofList
    ((sub.toList.reverse.takeWhile (· ≠ ':')).reverse)

def isTokenRevoked (token : Token) : Handler Bool :=
  Db.utcNow.bind fun now =>
  andThen Db.ensureRevokedTable fun _ =>
  andThen (Db.revokedExpiry token) fun expiresAt =>
  ok (expiresAt.any (now < ·))

def revokeToken
    (session : Option ℕ)
    (token : Token)
    (ttl : ℕ) : Handler Unit :=
  Db.utcNow.bind fun now =>
  andThen Db.ensureRevokedTable fun _ =>
  mapErr (Db.upsertRevoked session token (expiry now ttl))
    (fun e =>
      .internal ("Failed to revoke token: " ++ e.display))

/- What a refresh does under its lock. -/
def rotate
    (s : Settings)
    (session : ℕ)
    (token : Token) : Handler RefreshResponse :=
  andThen (verifyTyped token .refresh "Invalid token type")
    fun claims =>
  andThen (isTokenRevoked token) fun revoked =>
  require (!revoked) (.auth "Token has been revoked") <|
  andThen (userOf (bareUid claims.sub)) fun row =>
  andThen (lift (ensureUserNotDisabled row.2)) fun _ =>
  require (!row.2.passwordChangedAt.any (claims.iat < ·))
    (.auth ("Session invalidated by password change. " ++
        "Please log in again.")) <|
  andThen
    (issuePair s (.refresh claims) claims.sub row.2.roles
      (row.2.emailVerified.getD false))
    fun tokens =>
  andThen (revokeToken (some session) token s.refreshTtl)
    fun _ =>
  ok ⟨tokens.1, tokens.2⟩

/- `POST /auth/refresh` -/
def refresh
    (s : Settings)
    (session : ℕ)
    (token : Token) : Handler RefreshResponse :=
  andThen (Db.tryLock session token) fun acquired =>
  require acquired (.auth
      ("Refresh token is already being rotated. " ++
        "Please retry.")) <|
  (rotate s session token).bind fun r =>
  match r with
  | .error e =>
    -- The transaction is dropped, and its lock with it.
    (Db.endLock session token none).bind fun _ => fail e
  | .ok out =>
    andThen (context
        (Db.endLock session token (some out.refreshToken))
        "Failed to release refresh lock transaction: ")
      fun _ => ok out

/- `POST /auth/logout` -/
def logout (s : Settings) (token : Token) : Handler String :=
  require (token ≠ .text "")
    (.auth "Refresh token is required") <|
  andThen (revokeToken none token s.refreshTtl) fun _ =>
  ok "Logged out successfully"

def cleanupRevokedTokens : Handler ℕ :=
  Db.utcNow.bind fun now =>
  andThen Db.ensureRevokedTable fun _ =>
  Db.deleteRevoked now

--------
-- Passwords And The Second Factor
--------

/- `POST /auth/reset-password` -/
def resetPassword (body : ResetPasswordRequest) :
    Handler String :=
  andThen (lift (validatePasswordStrength body.newPassword))
    fun _ =>
  andThen (verifyTyped body.token .passwordReset
      "Invalid token type for password reset")
    fun claims =>
  andThen (userOf claims.sub) fun row =>
  match row.2.resetTokenHash with
  | none => fail (.auth "No reset token pending")
  | some stored =>
    require (stored = body.token)
      (.auth "Invalid or expired reset token") <|
    Db.utcNow.bind fun now =>
    require (now ≤ row.2.resetTokenExpires.getD 0)
      (.auth "Reset token has expired") <|
    require (!row.2.resetTokenUsed) (.auth
        ("This reset token has already been used. " ++
          "Request a new password reset.")) <|
    andThen (Db.hashPassword body.newPassword) fun hash =>
    Db.utcNow.bind fun changedAt =>
    andThen (Db.updateUser claims.sub claims.sub
        { passwordHash := some hash
          resetTokenHash := some none
          resetTokenExpires := some none
          resetTokenUsed := some true
          passwordChangedAt := some changedAt })
      fun _ =>
    ok "Password reset successfully"

/- `POST /auth/mfa/setup`, with the secret for the client. -/
def mfaSetup (s : Settings) (auth : AuthContext) :
    Handler String :=
  require auth.authenticated
    (.auth "Authentication required") <|
  andThen (userOf auth.userId) fun row =>
  require (!row.2.mfa_enabled.getD false)
    (.validation "MFA is already enabled") <|
  Db.newSecret.bind fun secret =>
  require s.totpEncryptionKey (.validation
      ("MFA is not available: " ++
        "TOTP encryption key not configured")) <|
  andThen (Db.sealSecret secret) fun sealed =>
  andThen (Db.updateUser auth.userId auth.userId
      { mfaPendingSecret := some (some sealed) })
    fun _ => ok secret

/- A stored secret, opened with the configured key. -/
def openStored (s : Settings) (text : String) :
    Handler String :=
  require s.totpEncryptionKey (.internal
      ("TOTP encryption key not configured — " ++
        "set OB_AUTH__TOTP_ENCRYPTION_KEY")) <|
  Db.openSecret text

/- `POST /auth/mfa/verify-setup` -/
def mfaVerifySetup
    (s : Settings)
    (auth : AuthContext)
    (code : String) : Handler Unit :=
  require auth.authenticated
    (.auth "Authentication required") <|
  andThen (userOf auth.userId) fun row =>
  match row.2.mfaPendingSecret with
  | none => fail (.validation "No MFA setup in progress")
  | some pending =>
    andThen (openStored s pending) fun secret =>
    andThen (Db.checkTotp secret code none) fun _ =>
    andThen Db.newRecoveryCodes fun codes =>
    andThen (Db.sealSecret secret) fun sealed =>
    andThen (Db.updateUser auth.userId auth.userId
        { mfaEnabled := some true
          mfaSecret := some (some sealed)
          mfaRecoveryCodes := some codes
          mfaLastUsedStep := some none
          mfaPendingSecret := some none })
      fun _ =>
    (Db.record "mfa_alert" auth.userId).bind fun _ => ok ()

/- An account that was locked by too many attempts. -/
def checkMfaLock (userId : String) (user : User) :
    Handler Unit :=
  if user.mfaLocked then
    (Db.lockElapsed user.mfaLockedAt).bind fun elapsed =>
    if elapsed then
      (Db.updateUser userId userId
        { mfaLocked := some false }).bind fun _ => ok ()
    else
      fail (.tooManyRequests
        ("Account temporarily locked due to too many " ++
          "failed MFA attempts. Try again later."))
  else ok ()

/- `POST /auth/mfa/challenge` -/
def mfaChallenge
    (s : Settings)
    (body : MfaChallengeRequest) : Handler AuthResponse :=
  andThen (verifyTyped body.challengeToken .mfaChallenge
      "Invalid challenge token")
    fun claims =>
  (Db.rateLimit claims.sub "mfa_attempt").bind fun limit =>
  match limit with
  | .error e =>
    Db.utcText.bind fun now =>
    (Db.updateUser claims.sub claims.sub
      { mfaLocked := some true
        mfaLockedAt := some now }).bind fun _ => fail e
  | .ok _ =>
    andThen (userOf claims.sub) fun row =>
    andThen (checkMfaLock claims.sub row.2) fun _ =>
    match row.2.mfaSecret with
    | none => fail (.auth "MFA not configured")
    | some text =>
      andThen (openStored s text) fun secret =>
      andThen (Db.checkTotp secret body.code
          row.2.mfaLastUsedStep)
        fun step =>
      andThen (Db.updateUser claims.sub claims.sub
          { mfaLastUsedStep := some (some step) })
        fun _ =>
      andThen (issuePair s .challenge claims.sub row.2.roles
          (row.2.emailVerified.getD false))
        fun tokens =>
      (Db.record "session" claims.sub).bind fun _ =>
      ok (session tokens)

/- The position of the first code that matches. -/
def matchCode (code : String) :
    List String → ℕ → Handler (Option ℕ)
  | [], _ => ok none
  | hash :: rest, idx =>
    andThen (Db.verifyRecoveryCode code hash) fun matched =>
    if matched then ok (some idx)
    else matchCode code rest (idx + 1)

/- `POST /auth/mfa/recovery` -/
def mfaRecovery
    (s : Settings)
    (body : MfaRecoveryRequest) : Handler AuthResponse :=
  andThen (verifyTyped body.challengeToken .mfaChallenge
      "Invalid challenge token")
    fun claims =>
  andThen (Db.rateLimit claims.sub "mfa_recovery") fun _ =>
  andThen (userOf claims.sub) fun row =>
  andThen
    (matchCode body.recoveryCode row.2.mfaRecoveryCodes 0)
    fun matched =>
  match matched with
  | none => fail (.auth "Invalid recovery code")
  | some idx =>
    andThen (Db.updateUser claims.sub claims.sub
        { mfaRecoveryCodes :=
            some (row.2.mfaRecoveryCodes.eraseIdx idx) })
      fun _ =>
    andThen (issuePair s .recovery claims.sub row.2.roles
        (row.2.emailVerified.getD false))
      fun tokens =>
    (Db.record "session" claims.sub).bind fun _ =>
    ok (session tokens)

/- `DELETE /auth/mfa` -/
def mfaDisable
    (s : Settings)
    (auth : AuthContext)
    (code : String) : Handler String :=
  require auth.authenticated
    (.auth "Authentication required") <|
  andThen (userOf auth.userId) fun row =>
  require (row.2.mfa_enabled.getD false)
    (.validation "MFA is not enabled") <|
  match row.2.mfaSecret with
  | none => fail (.auth "MFA secret not found")
  | some text =>
    andThen (openStored s text) fun secret =>
    andThen (Db.checkTotp secret code row.2.mfaLastUsedStep)
      fun _ =>
    andThen (Db.updateUser auth.userId auth.userId
        { mfaEnabled := some false
          mfaSecret := some none
          mfaRecoveryCodes := some []
          mfaLastUsedStep := some none
          mfaPendingSecret := some none })
      fun _ =>
    (Db.record "mfa_alert" auth.userId).bind fun _ =>
    ok "MFA disabled successfully"

--------
-- Profiles And Administration
--------

/- `POST /api/users/create-profile`, whether it created one. -/
def createProfile
    (auth : AuthContext)
    (req : CreateProfileRequest) : Handler Bool :=
  andThen (lift
      (resolveSelfUserId auth (req.userId.getD "") "userId"))
    fun userId =>
  andThen (lift (validateUid "userId" userId)) fun _ =>
  andThen (lift (validateEmail req.email)) fun _ =>
  andThen (Db.userRateLimit userId "create_profile") fun _ =>
  (Db.getUser userId).bind fun existing =>
  match existing with
  | .ok _ => ok false
  | .error (.notFound _) =>
    let roles := req.roles.getD [.buyer]
    andThen (Db.createUser
        { uid := some userId
          email := some req.email
          roles := roles.map UserRole.asStr })
      fun _ => ok true
  | .error e => fail e

/- `PATCH /admin/users/{user_id}` -/
def adminUpdateUser
    (auth : AuthContext)
    (userId : String)
    (body : AdminUpdateUserRequest) : Handler String :=
  andThen (lift (requireAdmin auth)) fun _ =>
  require (body ≠ {}) (.validation "No fields to update") <|
  andThen (Db.updateUser auth.userId userId
      { email := body.email
        roles := body.roles
        emailVerified := body.emailVerified
        disabled := body.disabled })
    fun _ =>
  ok "User updated"

--------
-- All Requests
--------

/- A request, with its authorization header where it counts. -/
inductive Call
  | register (body : RegisterRequest)
  | login (body : LoginRequest)
  | oauth (info : OAuthUserInfo)
  | anonymousSignIn
  | anonymousUpgrade
      (bearer : Option Token)
      (body : AnonymousUpgradeRequest)
  | refresh (token : Token)
  | logout (token : Token)
  | cleanup
  | resetPassword (body : ResetPasswordRequest)
  | mfaSetup (bearer : Option Token)
  | mfaVerifySetup (bearer : Option Token) (code : String)
  | mfaChallenge (body : MfaChallengeRequest)
  | mfaRecovery (body : MfaRecoveryRequest)
  | mfaDisable (bearer : Option Token) (code : String)
  | createProfile
      (bearer : Option Token)
      (req : CreateProfileRequest)
  | adminUpdateUser
      (bearer : Option Token)
      (userId : String)
      (body : AdminUpdateUserRequest)
  deriving DecidableEq, Repr

inductive Reply
  | auth (response : AuthResponse)
  | refresh (response : RefreshResponse)
  | message (text : String)
  | count (n : ℕ)
  | done (yes : Bool)
  deriving DecidableEq, Repr

/- A handler for the caller that the header names. -/
def asCaller
    {α : Type}
    (s : Settings)
    (bearer : Option Token)
    (body : AuthContext → Handler α) : Handler α :=
  andThen (authExtractor s bearer) body

/- The reply of a handler that ends well. -/
def replying
    {α : Type}
    (reply : α → Reply)
    (p : Handler α) : Handler Reply :=
  andThen p fun r => ok (reply r)

/- What a request runs, on a session of its own. -/
def Call.body (s : Settings) (session : ℕ) :
    Call → Handler Reply
  | .register body => replying .auth (Auth.register s body)
  | .login body => replying .auth (Auth.login s body)
  | .oauth info =>
    replying .auth (oauthFindOrCreateUser s info)
  | .anonymousSignIn =>
    replying .auth (Auth.anonymousSignIn s)
  | .anonymousUpgrade bearer body =>
    replying .auth
      (asCaller s bearer fun auth =>
        Auth.anonymousUpgrade s auth body)
  | .refresh token =>
    replying .refresh (Auth.refresh s session token)
  | .logout token =>
    replying .message (Auth.logout s token)
  | .cleanup => replying .count cleanupRevokedTokens
  | .resetPassword body =>
    replying .message (Auth.resetPassword body)
  | .mfaSetup bearer =>
    replying .message
      (asCaller s bearer fun auth => Auth.mfaSetup s auth)
  | .mfaVerifySetup bearer code =>
    replying (fun _ => .done true)
      (asCaller s bearer fun auth =>
        Auth.mfaVerifySetup s auth code)
  | .mfaChallenge body =>
    replying .auth (Auth.mfaChallenge s body)
  | .mfaRecovery body =>
    replying .auth (Auth.mfaRecovery s body)
  | .mfaDisable bearer code =>
    replying .message
      (asCaller s bearer fun auth =>
        Auth.mfaDisable s auth code)
  | .createProfile bearer req =>
    replying .done
      (asCaller s bearer fun auth =>
        Auth.createProfile auth req)
  | .adminUpdateUser bearer userId body =>
    replying .message
      (asCaller s bearer fun auth =>
        Auth.adminUpdateUser auth userId body)

/- The requests of a run, each on a session of its own. -/
def requests (s : Settings) (calls : List Call) :
    List (Handler Reply) :=
  calls.zipIdx.map (fun x => x.1.body s x.2)

end Orignabase.Auth
