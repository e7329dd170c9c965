import Askit.Auth.Operations
import Askit.Game.Router

/-! The token service, the dependencies that admit a user, the user service, the routes of the auth
and user routers, and the middleware around them. -/

namespace Askit.Auth

open Interleaving Coro
open Game (UUID Time Runtime Dirty GameSession GameSessionStatus foreignOrigin)

structure JWTPayload where
  sub : String
  type : String
  ver : ℤ
  jti : String
  iat : ℤ
  exp : ℤ
  deriving DecidableEq, Repr

/-- The cookies of a request; an empty one counts as missing. -/
structure Cookies (Token : Type) where
  accessToken : Option Token
  refreshToken : Option Token

inductive SetCookie (Token : Type)
  | keep
  | set (token : Token)
  | delete

inductive Body
  | user (userId : UUID) (username email : String) (createdAt : Time)
  | message (text : String)

structure Response (Token : Type) where
  body : Body
  accessToken : SetCookie Token := .keep
  refreshToken : SetCookie Token := .keep

structure Close where
  code : ℕ
  reason : String
  deriving DecidableEq, Repr

def accessTokenLifetime : ℕ := 3600

def refreshTokenLifetime : ℕ := 60 * 60 * 24 * 7

def maxLoginAttempts : ℕ := 10

def loginLockoutTtl : ℕ := 900

/-- The claims that `_decode` checks and hands over. -/
def payload (raw : Claims) (expectedType : String) : Except Exn JWTPayload := do
  if raw.type ≠ some expectedType then throw .invalidTokenError
  let some sub := raw.sub | throw .keyError
  let some iat := raw.iat | throw .keyError
  let some exp := raw.exp | throw .keyError
  pure ⟨sub, expectedType, raw.ver.getD 0, raw.jti.getD "", iat, exp⟩

variable {Token : Type} [DecidableEq Token] [Crypto Token] [Runtime]

/-! `JWTService` -/

/-- What `_decode` makes of a token at a moment. -/
def verified (token : Token) (secret expectedType : String) (now : Time) : Except Exn JWTPayload :=
  match Crypto.decode token secret now with
  | .ok raw => payload raw expectedType
  | .error .expiredSignature => .error .tokenExpiredError
  | .error .invalidToken => .error .invalidTokenError

def createToken (issuer : Issuer) (subject tokenType secret : String) (expiresIn : ℕ)
    (version : ℤ) :
    Handler Token Token := do
  let now ← await .now
  let jti ← await .uuid4
  let iat := now / 1000000
  await (.encode issuer
    ⟨some subject, some tokenType, some version, some jti, some iat, some (iat + expiresIn)⟩ secret)

def createAccessToken (issuer : Issuer) (userId : String) (version : ℤ) : Handler Token Token :=
  createToken issuer userId "access" (Crypto.accessSecret Token) accessTokenLifetime version

def createRefreshToken (issuer : Issuer) (userId : String) (version : ℤ) : Handler Token Token :=
  createToken issuer userId "refresh" (Crypto.refreshSecret Token) refreshTokenLifetime version

def decode (token : Token) (secret expectedType : String) : Handler Token JWTPayload := do
  let now ← await .now
  .done (verified token secret expectedType now)

def verifyAccessToken (token : Token) : Handler Token JWTPayload :=
  decode token (Crypto.accessSecret Token) "access"

def verifyRefreshToken (token : Token) : Handler Token JWTPayload :=
  decode token (Crypto.refreshSecret Token) "refresh"

/-! The dependencies -/

def getCurrentUser (token : Option Token) : Handler Token User := do
  let some token := token | throw .notAuthenticatedError
  let payload ← verifyAccessToken token
  require (payload.sub ≠ "") .notAuthenticatedError
  let some userId := Runtime.uuid payload.sub | throw .notAuthenticatedError
  let some user ← await (.getUserById userId) | throw .notAuthenticatedError
  require (payload.ver = user.tokenVersion) .tokenRevokedError
  require (user.isActive = true) .userInactiveError
  pure user

def optionalUser (token : Token) : Handler Token (Option User) := do
  let payload ← verifyAccessToken token
  if payload.sub = "" then pure none
  else do
    let some userId := Runtime.uuid payload.sub | throw .valueError
    let some user ← await (.getUserById userId) | pure none
    if user.isActive = false then pure none
    else if payload.ver ≠ user.tokenVersion then pure none
    else pure (some user)

def getOptionalCurrentUser (token : Option Token) : Handler Token (Option User) := do
  let some token := token | pure none
  tryCatch (optionalUser token) fun
    | .tokenExpiredError | .invalidTokenError | .valueError => pure none
    | e => throw e

/-- The admission block of `websocket_host_endpoint` up to the room. -/
def hostUser (token : Token) : Handler Token (Except Close User) := do
  let payload ← verifyAccessToken token
  if payload.sub = "" then pure (.error ⟨4001, "Invalid token"⟩)
  else do
    let some userId := Runtime.uuid payload.sub | throw .valueError
    let some user ← await (.getUserById userId) | pure (.error ⟨4001, "User not found"⟩)
    if user.isActive = false then pure (.error ⟨4001, "User not found"⟩)
    else pure (.ok user)

def admitHost (token : Option Token) : Handler Token (Except Close User) := do
  let some token := token | pure (.error ⟨4001, "Not authenticated"⟩)
  tryCatch (hostUser token) fun _ => pure (.error ⟨4001, "Invalid token"⟩)

/-- The host's id and whether the game is finished, with which the socket is registered, or how it
is closed. -/
def websocketHostEndpoint (origin : Option String) (token : Option Token) (roomCode : String) :
    Handler Token (Except Close (UUID × Bool)) :=
  if foreignOrigin origin then pure (.error ⟨4003, "Origin not allowed"⟩)
  else do
    match ← admitHost token with
    | .error close => pure (.error close)
    | .ok user => do
      let some session ← await (.getRoom roomCode) | pure (.error ⟨4004, "Room not found"⟩)
      if session.hostId ≠ user.id then pure (.error ⟨4003, "Not the host of this room"⟩)
      else pure (.ok (user.id, decide (session.status = .finished)))

/-! `UserService` and `AuthService` -/

def User.out (user : User) : Body := .user user.id user.username user.email user.createdAt

def createUser (username email password : String) : Handler Token User := do
  let passwordHash ← await (.hashPassword password)
  let id ← await .uuid4
  tryCatch
    (do
      await (.insertUser id username email passwordHash)
      let some user ← await (.refreshUser id) | throw .failure
      pure user)
    fun
    | .integrityError => do
      await .rollback
      throw .registrationFailedError
    | e => throw e

def updateLastLogin (user : User) : Handler Token Unit := do
  let now ← await .now
  await (.commit ⟨user, { user with lastLogin := some now }⟩)

def updateProfile (user : User) (username : Option String) : Handler Token Body := do
  let current := { user with username := username.getD user.username }
  tryCatch
    (do
      await (.commit ⟨user, current⟩)
      let some user ← await (.refreshUser user.id) | throw .failure
      pure user.out)
    fun
    | .integrityError => do
      await .rollback
      throw .usernameAlreadyExistsError
    | e => throw e

def changePassword (user : User) (currentPassword nextPassword : String) : Handler Token User := do
  require (Crypto.verifyPassword Token currentPassword user.passwordHash = true)
    .invalidCredentialsError
  let passwordHash ← await (.hashPassword nextPassword)
  let current := { user with passwordHash := passwordHash, tokenVersion := user.tokenVersion + 1 }
  await (.commit ⟨user, current⟩)
  pure current

def deactivateAccount (user : User) : Handler Token Unit :=
  await (.commit ⟨user, { user with isActive := false, tokenVersion := user.tokenVersion + 1 }⟩)

def authenticate (email password : String) : Handler Token (User × Token × Token) := do
  let some user ← await (.getUserByEmail email) | throw .invalidCredentialsError
  require (Crypto.verifyPassword Token password user.passwordHash = true) .invalidCredentialsError
  require (user.isActive = true) .userInactiveError
  updateLastLogin user
  let accessToken ← createAccessToken .login user.id user.tokenVersion
  let refreshToken ← createRefreshToken .login user.id user.tokenVersion
  pure (user, accessToken, refreshToken)

/-! The counters of failed logins -/

/-- The part of `strip` and `lower` that the key depends on. -/
class Normalize where
  strip : String → String

@[reducible] def Normalize.plain : Normalize where
  strip s := s

def loginAttemptsKey [Normalize] (email : String) : String :=
  Runtime.lower (Normalize.strip email)

def recordFailedLogin [Normalize] (email : String) : Handler Token ℕ := do
  let count ← await (.incrAttempts (loginAttemptsKey email))
  if count = 1 then await (.expireAttempts (loginAttemptsKey email) loginLockoutTtl)
  pure count

def resetLoginAttempts [Normalize] (email : String) : Handler Token Unit :=
  await (.deleteAttempts (loginAttemptsKey email))

def getLoginAttempts [Normalize] (email : String) : Handler Token ℕ := do
  let val ← await (.getAttempts (loginAttemptsKey email))
  pure (val.getD 0)

/-! The routes -/

def register (username email password : String) : Handler Token (Response Token) := do
  let user ← tryCatch
    (do
      let found ← await (.getUserByEmail email)
      require (found = none) .registrationFailedError
      createUser username email password)
    fun
    | .usernameAlreadyExistsError => throw .registrationFailedError
    | e => throw e
  let accessToken ← createAccessToken .register user.id user.tokenVersion
  let refreshToken ← createRefreshToken .register user.id user.tokenVersion
  pure ⟨user.out, .set accessToken, .set refreshToken⟩

def login [Normalize] (email password : String) : Handler Token (Response Token) := do
  let attempts ← getLoginAttempts email
  require (attempts < maxLoginAttempts) .accountLockedError
  let (user, accessToken, refreshToken) ← tryCatch (authenticate email password) fun
    | .invalidCredentialsError => do
      let _ ← recordFailedLogin email
      throw .invalidCredentialsError
    | e => throw e
  resetLoginAttempts email
  pure ⟨user.out, .set accessToken, .set refreshToken⟩

def refresh (refreshToken : Option Token) : Handler Token (Response Token) := do
  let some token := refreshToken | throw .refreshTokenMissingError
  let blacklisted ← await (.existsBlacklist token)
  require (blacklisted = false) .tokenRevokedError
  let payload ← verifyRefreshToken token
  let some userId := Runtime.uuid payload.sub | throw .valueError
  let some user ← await (.getUserById userId) | throw .tokenRevokedError
  require (user.isActive = true) .tokenRevokedError
  require (payload.ver = user.tokenVersion) .tokenRevokedError
  await (.setBlacklist token refreshTokenLifetime)
  let accessToken ← createAccessToken .refresh user.id user.tokenVersion
  let newRefreshToken ← createRefreshToken .refresh user.id user.tokenVersion
  pure ⟨.message "OK", .set accessToken, .set newRefreshToken⟩

def logout (refreshToken : Option Token) : Handler Token (Response Token) := do
  match refreshToken with
  | some token => tryCatch (await (.setBlacklist token refreshTokenLifetime)) fun _ => pure ()
  | none => pure ()
  pure ⟨.message "OK", .delete, .delete⟩

/-- An endpoint whose user `get_current_user` provides. -/
def authenticated (cookies : Cookies Token) (endpoint : User → Handler Token (Response Token)) :
    Handler Token (Response Token) := do
  let user ← getCurrentUser cookies.accessToken
  let some token := cookies.accessToken | throw .notAuthenticatedError
  await (.callEndpoint token user)
  endpoint user

def profileRoute (user : User) : Handler Token (Response Token) := pure { body := user.out }

def updateProfileRoute (username : Option String) (user : User) :
    Handler Token (Response Token) := do
  let body ← updateProfile user username
  pure { body := body }

def changePasswordRoute (currentPassword nextPassword : String) (user : User) :
    Handler Token (Response Token) := do
  let user ← changePassword user currentPassword nextPassword
  let accessToken ← createAccessToken .changePassword user.id user.tokenVersion
  let refreshToken ← createRefreshToken .changePassword user.id user.tokenVersion
  pure ⟨.message "OK", .set accessToken, .set refreshToken⟩

def deactivateRoute (user : User) : Handler Token (Response Token) := do
  deactivateAccount user
  pure ⟨.message "OK", .delete, .delete⟩

def optionallyAuthenticated (cookies : Cookies Token) : Handler Token (Response Token) := do
  let user ← getOptionalCurrentUser cookies.accessToken
  match user, cookies.accessToken with
  | some user, some token => await (.callEndpoint token user)
  | _, _ => pure ()
  pure { body := .message "OK" }

/-! `AutoRefreshMiddleware` -/

def renewAccessToken (cookies : Cookies Token) (refreshToken : Token) :
    Handler Token (Cookies Token × Option Token) := do
  if ← await (.existsBlacklist refreshToken) then pure (cookies, none)
  else do
    let payload ← verifyRefreshToken refreshToken
    let token ← createAccessToken .autoRefresh payload.sub payload.ver
    pure ({ cookies with accessToken := some token }, some token)

def autoRefresh (cookies : Cookies Token) : Handler Token (Cookies Token × Option Token) := do
  let some accessToken := cookies.accessToken | pure (cookies, none)
  tryCatch
    (do
      let _ ← verifyAccessToken accessToken
      pure (cookies, none))
    fun
    | .tokenExpiredError =>
      match cookies.refreshToken with
      | some refreshToken =>
        tryCatch (renewAccessToken cookies refreshToken) fun _ => pure (cookies, none)
      | none => pure (cookies, none)
    | .invalidTokenError => pure (cookies, none)
    | e => throw e

def dispatch (cookies : Cookies Token)
    (callNext : Cookies Token → Handler Token (Response Token)) :
    Handler Token (Response Token) := do
  let (cookies, newAccessToken) ← autoRefresh cookies
  let response ← callNext cookies
  pure (match newAccessToken with
    | some token => { response with accessToken := .set token }
    | none => response)

end Askit.Auth
