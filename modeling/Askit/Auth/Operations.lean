import Askit.Auth.Accounts
import Askit.Interleaving.Contract

/-! The operations that the authentication code awaits, and those between two awaits that read the
clock, draw at random or sign. -/

namespace Askit.Auth

open Interleaving
open Game (UUID Time Runtime Dirty GameSession)

inductive Issuer
  | register
  | login
  | refresh
  | autoRefresh
  | changePassword
  deriving DecidableEq, Repr

/-- A call of `jwt.encode` is an operation, so that the history tells which tokens have been issued;
so is FastAPI's call of an endpoint with the user whom a dependency has returned. -/
inductive Op (Token : Type) : Type → Type
  | now : Op Token Time
  | uuid4 : Op Token UUID
  | hashPassword (password : String) : Op Token String
  | encode (issuer : Issuer) (claims : Claims) (secret : String) : Op Token Token
  | getUserById (userId : UUID) : Op Token (Option User)
  | getUserByEmail (email : String) : Op Token (Option User)
  | insertUser (id : UUID) (username email passwordHash : String) : Op Token Unit
  | commit (user : Dirty User) : Op Token Unit
  | rollback : Op Token Unit
  | refreshUser (userId : UUID) : Op Token (Option User)
  | getRoom (roomCode : String) : Op Token (Option GameSession)
  | existsBlacklist (token : Token) : Op Token Bool
  | setBlacklist (token : Token) (ex : ℕ) : Op Token Unit
  | getAttempts (key : String) : Op Token (Option ℕ)
  | incrAttempts (key : String) : Op Token ℕ
  | expireAttempts (key : String) (ex : ℕ) : Op Token Unit
  | deleteAttempts (key : String) : Op Token Unit
  | callEndpoint (token : Token) (user : User) : Op Token Unit

abbrev Handler (Token : Type) := Coro (Op Token) Exn

abbrev await {Token α : Type} (o : Op Token α) : Handler Token α := Coro.perform o

def live (now : Time) : Option Time → Bool
  | some expiry => now < expiry
  | none => true

namespace Redis

variable {Token : Type} [DecidableEq Token]

def blacklisted (r : Redis Token) (now : Time) (token : Token) : Bool :=
  (r.blacklist token).any fun expiry => now < expiry

def setBlacklist (r : Redis Token) (token : Token) (expiry : Time) : Redis Token :=
  { r with blacklist := Function.update r.blacklist token (some expiry) }

def counter (r : Redis Token) (now : Time) (key : String) : Option (ℕ × Option Time) :=
  (r.attempts key).filter fun c => live now c.2

def setCounter (r : Redis Token) (key : String) (c : Option (ℕ × Option Time)) : Redis Token :=
  { r with attempts := Function.update r.attempts key c }

/-- `INCR` keeps the time to live of a counter that is there. -/
def incr (r : Redis Token) (now : Time) (key : String) : ℕ × Option Time :=
  match r.counter now key with
  | some (n, expiry) => (n + 1, expiry)
  | none => (1, none)

end Redis

variable {Token : Type} [DecidableEq Token] [Crypto Token] [Runtime]

def exec {β : Type} : Op Token β → State Token → Except Exn β × State Token
  | .now, s => (.ok s.now, s)
  | .uuid4, s => (.ok (Runtime.uuid4 s.draws), { s with draws := s.draws + 1 })
  | .hashPassword password, s =>
    (.ok (Crypto.hashPassword Token s.draws password), { s with draws := s.draws + 1 })
  | .encode _ claims secret, s => (.ok (Crypto.encode claims secret), s)
  | .getUserById userId, s => (.ok (s.users.table.get? userId), s)
  | .getUserByEmail email, s => (.ok (s.users.byEmail email), s)
  | .insertUser id username email passwordHash, s =>
    match s.users.insert ⟨id, username, email, passwordHash, s.now, none, true, 0⟩ with
    | some users => (.ok (), { s with users := users })
    | none => (.error .integrityError, s)
  | .commit user, s =>
    match s.users.update user with
    | some users => (.ok (), { s with users := users })
    | none => (.error .integrityError, s)
  | .rollback, s => (.ok (), s)
  | .refreshUser userId, s => (.ok (s.users.table.get? userId), s)
  | .getRoom roomCode, s => (.ok (s.sessions.get? (Runtime.upper roomCode)), s)
  | .existsBlacklist token, s => (.ok (s.redis.blacklisted s.now token), s)
  | .setBlacklist token ex, s =>
    (.ok (), { s with redis := s.redis.setBlacklist token (s.now + seconds ex) })
  | .getAttempts key, s => (.ok ((s.redis.counter s.now key).map Prod.fst), s)
  | .incrAttempts key, s =>
    (.ok (s.redis.incr s.now key).1,
      { s with redis := s.redis.setCounter key (some (s.redis.incr s.now key)) })
  | .expireAttempts key ex, s =>
    (.ok (), { s with
      redis := s.redis.setCounter key
        ((s.redis.counter s.now key).map fun c => (c.1, some (s.now + seconds ex))) })
  | .deleteAttempts key, s => (.ok (), { s with redis := s.redis.setCounter key none })
  | .callEndpoint _ _, s => (.ok (), s)

@[simp] lemma exec_now {β : Type} (o : Op Token β) (s : State Token) :
    (exec o s).2.now = s.now := by
  cases o with
  | insertUser => simp only [exec]; split <;> rfl
  | commit => simp only [exec]; split <;> rfl
  | _ => rfl

end Askit.Auth
