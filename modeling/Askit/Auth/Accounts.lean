import Askit.Game.Store

/-! Accounts, tokens and the tables and Redis keys that the authentication code reads. -/

namespace Askit.Auth

open Tables
open Game (UUID Time Runtime Dirty changed GameSession)

structure User where
  id : UUID
  username : String
  email : String
  passwordHash : String
  createdAt : Time
  lastLogin : Option Time
  isActive : Bool
  tokenVersion : ℤ
  deriving DecidableEq, Repr

/-- The claims of a JWT; one that is absent is `none`. -/
structure Claims where
  sub : Option String
  type : Option String
  ver : Option ℤ
  jti : Option String
  iat : Option ℤ
  exp : Option ℤ
  deriving DecidableEq, Repr

inductive JwtError
  | expiredSignature
  | invalidToken

def seconds (n : ℤ) : Time := n * 1000000

/-- PyJWT and passlib, and the two secrets of the settings. A token shows its claims to anyone
(`peek` is a decoding that skips the verification); one that decodes has not expired. -/
class Crypto (Token : Type) where
  accessSecret : String
  refreshSecret : String
  encode : Claims → String → Token
  decode : Token → String → Time → Except JwtError Claims
  peek : Token → Claims
  peek_encode (claims : Claims) (secret : String) : peek (encode claims secret) = claims
  peek_decode {token : Token} {secret : String} {now : Time} {raw : Claims} :
    decode token secret now = .ok raw → peek token = raw
  lt_exp {token : Token} {secret : String} {now : Time} {raw : Claims} {exp : ℤ} :
    decode token secret now = .ok raw → raw.exp = some exp → now < seconds exp
  hashPassword : ℕ → String → String
  verifyPassword : String → String → Bool

@[reducible] def Crypto.transparent : Crypto (Claims × String) where
  accessSecret := "access"
  refreshSecret := "refresh"
  encode claims secret := (claims, secret)
  decode token secret now :=
    if token.2 ≠ secret then .error .invalidToken
    else if token.1.exp.all fun exp => now < seconds exp then .ok token.1
    else .error .expiredSignature
  peek := Prod.fst
  peek_encode _ _ := rfl
  peek_decode h := by
    split at h
    · cases h
    · split at h <;> cases h
      rfl
  lt_exp h he := by
    split at h
    · cases h
    · split at h
      · cases h
        simp_all
      · cases h
  hashPassword _ password := password
  verifyPassword password hash := password = hash

inductive Exn
  | notAuthenticatedError
  | tokenRevokedError
  | userInactiveError
  | tokenExpiredError
  | invalidTokenError
  | invalidCredentialsError
  | refreshTokenMissingError
  | registrationFailedError
  | usernameAlreadyExistsError
  | accountLockedError
  | integrityError
  | valueError
  | keyError
  | failure
  deriving DecidableEq, Repr

/-- The users; `username` and `email` are unique columns. -/
structure Users where
  table : Table User.id
  usernames_nodup : (table.rows.map User.username).Nodup
  emails_nodup : (table.rows.map User.email).Nodup

def User.flush (u : Dirty User) (row : User) : User :=
  { row with
    username := changed u.loaded.username u.current.username row.username
    passwordHash := changed u.loaded.passwordHash u.current.passwordHash row.passwordHash
    lastLogin := changed u.loaded.lastLogin u.current.lastLogin row.lastLogin
    isActive := changed u.loaded.isActive u.current.isActive row.isActive
    tokenVersion := changed u.loaded.tokenVersion u.current.tokenVersion row.tokenVersion }

@[simp] lemma User.id_flush (u : Dirty User) (row : User) : (User.flush u row).id = row.id := rfl

@[simp] lemma User.email_flush (u : Dirty User) (row : User) :
    (User.flush u row).email = row.email := rfl

namespace Users

/-- The statement that leads to the table is refused when a unique column is violated. -/
def checked (t : Table User.id) : Option Users :=
  if h : (t.rows.map User.username).Nodup ∧ (t.rows.map User.email).Nodup then
    some ⟨t, h.1, h.2⟩
  else none

def insert (us : Users) (u : User) : Option Users := (us.table.insert u).bind checked

/-- The `UPDATE` of a row that is gone fails. -/
def update (us : Users) (u : Dirty User) : Option Users :=
  if (us.table.get? u.loaded.id).isSome then
    checked (us.table.modify u.loaded.id (User.flush u) (User.id_flush u))
  else none

def byEmail (us : Users) (email : String) : Option User :=
  us.table.rows.find? fun u => u.email = email

lemma table_of_checked {t : Table User.id} {us : Users} (h : checked t = some us) :
    us.table = t := by
  unfold checked at h
  split at h
  · cases h
    rfl
  · cases h

lemma table_insert {us vs : Users} {u : User} (h : us.insert u = some vs) :
    us.table.insert u = some vs.table := by
  obtain ⟨t, ht, hc⟩ := Option.bind_eq_some_iff.mp h
  rw [table_of_checked hc, ht]

lemma table_update {us vs : Users} {u : Dirty User} (h : us.update u = some vs) :
    (us.table.get? u.loaded.id).isSome ∧
      vs.table = us.table.modify u.loaded.id (User.flush u) (User.id_flush u) := by
  unfold update at h
  split at h
  case isTrue hs => exact ⟨hs, table_of_checked h⟩
  case isFalse => cases h

end Users

/-- Redis: the denylist with the moments at which its entries expire, and the counters of failed
logins, which expire too once they have a time to live. -/
structure Redis (Token : Type) where
  blacklist : Token → Option Time
  attempts : String → Option (ℕ × Option Time)

structure State (Token : Type) where
  users : Users
  sessions : Table GameSession.roomCode
  redis : Redis Token
  now : Time
  draws : ℕ

/-! Two users whose addresses differ in case, for concrete runs. -/

namespace Sample

def ada : User := ⟨"ada", "ada", "ada@x", "pw", 0, none, true, 1⟩

def eve : User := ⟨"eve", "eve", "Ada@x", "pw", 0, none, true, 0⟩

def users : Users := ⟨⟨[ada, eve], by decide⟩, by decide, by decide⟩

def state : State (Claims × String) := ⟨users, Table.empty, ⟨fun _ => none, fun _ => none⟩, 0, 0⟩

/-- A token of ada's from before her last bump. -/
def oldToken : Claims × String :=
  (⟨some "ada", some "access", some 0, some "x", some 0, some 3600⟩, "access")

end Sample

end Askit.Auth
