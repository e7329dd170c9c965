import Askit.Auth.Services

/-! The service as a machine: requests of any number of clients, interleaved at every operation. -/

namespace Askit.Auth

open Interleaving Coro
open Game (UUID Time Runtime)

/-- A request, with its cookies and what its schema has let through. -/
inductive Call (Token : Type)
  | register (cookies : Cookies Token) (username email password : String)
  | login (cookies : Cookies Token) (email password : String)
  | refresh (cookies : Cookies Token)
  | logout (cookies : Cookies Token)
  | profile (cookies : Cookies Token)
  | updateProfile (cookies : Cookies Token) (username : Option String)
  | changePassword (cookies : Cookies Token) (currentPassword nextPassword : String)
  | deactivate (cookies : Cookies Token)
  | optional (cookies : Cookies Token)

variable {Token : Type}

def Call.cookies : Call Token → Cookies Token
  | register cookies .. | login cookies .. | refresh cookies | logout cookies | profile cookies
  | updateProfile cookies _ | changePassword cookies .. | deactivate cookies | optional
      cookies => cookies

def Call.bumps : Call Token → Bool
  | changePassword .. | deactivate _ => true
  | _ => false

variable [DecidableEq Token] [Crypto Token] [Runtime] [Normalize]

def Call.endpoint : Call Token → Cookies Token → Handler Token (Response Token)
  | register _ username email password, _ => Auth.register username email password
  | login _ email password, _ => Auth.login email password
  | refresh _, cookies => Auth.refresh cookies.refreshToken
  | logout _, cookies => Auth.logout cookies.refreshToken
  | profile _, cookies => authenticated cookies profileRoute
  | updateProfile _ username, cookies => authenticated cookies (updateProfileRoute username)
  | changePassword _ currentPassword nextPassword, cookies =>
    authenticated cookies (changePasswordRoute currentPassword nextPassword)
  | deactivate _, cookies => authenticated cookies deactivateRoute
  | optional _, cookies => optionallyAuthenticated cookies

def code (call : Call Token) : Handler Token (Response Token) := dispatch call.cookies call.endpoint

variable (Token) in
/-- The environment lets time pass. -/
def system : Machine (Op Token) Exn (Response Token) where
  State := State Token
  Call := Call Token
  Env := ℕ
  exec := exec
  ready _ _ := true
  code := code
  enter _ s := some s
  env d s := { s with now := s.now + d }

end Askit.Auth
