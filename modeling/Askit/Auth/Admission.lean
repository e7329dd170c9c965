import Askit.Auth.Services
import Askit.Interleaving.Sequential

/-! The three places that admit a user by access token agree on every token that is not outdated. -/

namespace Askit.Auth

open Interleaving Coro
open Game (UUID Time Runtime GameSession foreignOrigin)

section

variable {Token : Type} [DecidableEq Token] [Crypto Token] [Runtime]

def bearer (s : State Token) (token : Token) : Option (User × ℤ) :=
  match verified token (Crypto.accessSecret Token) "access" s.now with
  | .ok payload =>
    if payload.sub = "" then none
    else ((Runtime.uuid payload.sub).bind s.users.table.get?).bind fun user =>
      if user.isActive = true then some (user, payload.ver) else none
  | .error _ => none

/-- The token names an active user whose version it does not carry. -/
def Outdated (s : State Token) (token : Token) : Prop :=
  ∃ b ∈ bearer s token, b.2 ≠ b.1.tokenVersion

instance (s : State Token) (token : Token) : Decidable (Outdated s token) :=
  inferInstanceAs (Decidable (∃ b ∈ bearer s token, b.2 ≠ b.1.tokenVersion))

structure AdmissionsAgree (s : State Token) (token : Token) : Prop where
  optional : ∀ user, ((getCurrentUser (some token)).alone exec s).1 = .ok user ↔
    ((getOptionalCurrentUser (some token)).alone exec s).1 = .ok (some user)
  host : ∀ user, ((getOptionalCurrentUser (some token)).alone exec s).1 = .ok (some user) ↔
    ((admitHost (some token)).alone exec s).1 = .ok (.ok user)
  rooms : ∀ user origin roomCode session,
    ((getCurrentUser (some token)).alone exec s).1 = .ok user → ¬foreignOrigin origin →
    s.sessions.get? (Runtime.upper roomCode) = some session → session.hostId = user.id →
    ((websocketHostEndpoint origin (some token) roomCode).alone exec s).1 =
      .ok (.ok (user.id, decide (session.status = .finished)))

variable {s : State Token} {token : Token} {user : User}

/-- What the three places find out about a token before they look at the user's row. -/
inductive Presents (s : State Token) (token : Token) : Prop
  | rejected (e : Exn)
      (h : verified token (Crypto.accessSecret Token) "access" s.now = .error e)
  | anonymous (payload : JWTPayload)
      (h : verified token (Crypto.accessSecret Token) "access" s.now = .ok payload)
      (hsub : payload.sub = "")
  | malformed (payload : JWTPayload)
      (h : verified token (Crypto.accessSecret Token) "access" s.now = .ok payload)
      (hsub : ¬payload.sub = "") (hid : Runtime.uuid payload.sub = none)
  | unknown (payload : JWTPayload) (userId : UUID)
      (h : verified token (Crypto.accessSecret Token) "access" s.now = .ok payload)
      (hsub : ¬payload.sub = "") (hid : Runtime.uuid payload.sub = some userId)
      (hrow : s.users.table.get? userId = none)
  | known (payload : JWTPayload) (userId : UUID) (row : User)
      (h : verified token (Crypto.accessSecret Token) "access" s.now = .ok payload)
      (hsub : ¬payload.sub = "") (hid : Runtime.uuid payload.sub = some userId)
      (hrow : s.users.table.get? userId = some row)

omit [DecidableEq Token] in
lemma presents (s : State Token) (token : Token) : Presents s token := by
  cases h : verified token (Crypto.accessSecret Token) "access" s.now with
  | error e => exact .rejected e h
  | ok payload =>
    by_cases hsub : payload.sub = ""
    · exact .anonymous payload h hsub
    cases hid : Runtime.uuid payload.sub with
    | none => exact .malformed payload h hsub hid
    | some userId =>
      cases hrow : s.users.table.get? userId with
      | none => exact .unknown payload userId h hsub hid hrow
      | some row => exact .known payload userId row h hsub hid hrow

lemma verifyAccessToken_alone {r : Except Exn JWTPayload}
    (h : verified token (Crypto.accessSecret Token) "access" s.now = r) :
    (verifyAccessToken token).alone exec s = (r, s) := by
  rw [← h]
  rfl

lemma getUserById_alone {userId : UUID} {row : Option User} {α : Type}
    {f : Option User → Handler Token α} (h : s.users.table.get? userId = row) :
    (await (.getUserById userId) >>= f).alone exec s = (f row).alone exec s := by
  rw [← h]
  rfl

lemma getCurrentUser_alone :
    ((getCurrentUser (some token)).alone exec s).1 = .ok user ↔
      bearer s token = some (user, user.tokenVersion) := by
  rcases presents s token with ⟨e, h⟩ | ⟨payload, h, hsub⟩ | ⟨payload, h, hsub, hid⟩ |
      ⟨payload, userId, h, hsub, hid, hrow⟩ | ⟨payload, userId, row, h, hsub, hid, hrow⟩
  · simp [getCurrentUser, bearer, alone_bind_error (verifyAccessToken_alone h), h]
  all_goals
    simp only [getCurrentUser, bearer, alone_bind_ok (verifyAccessToken_alone h), h, ne_eq, hsub,
      not_true_eq_false, not_false_eq_true, alone_require_bind, if_true, if_false]
  · simp
  · simp [hid]
  · simp only [hid, getUserById_alone hrow]
    simp [hrow]
  · simp only [hid, getUserById_alone hrow, alone_require_bind]
    by_cases hver : payload.ver = row.tokenVersion <;> by_cases hact : row.isActive = true <;>
      simp [hrow, hver, hact]
    · exact fun h => h ▸ rfl
    · exact fun h => h ▸ hver

lemma getOptionalCurrentUser_alone :
    ((getOptionalCurrentUser (some token)).alone exec s).1 = .ok (some user) ↔
      bearer s token = some (user, user.tokenVersion) := by
  rw [getOptionalCurrentUser, alone_tryCatch]
  rcases presents s token with ⟨e, h⟩ | ⟨payload, h, hsub⟩ | ⟨payload, h, hsub, hid⟩ |
      ⟨payload, userId, h, hsub, hid, hrow⟩ | ⟨payload, userId, row, h, hsub, hid, hrow⟩
  · simp only [optionalUser, alone_bind_error (verifyAccessToken_alone h), bearer, h]
    cases e <;> simp
  all_goals
    simp only [optionalUser, bearer, alone_bind_ok (verifyAccessToken_alone h), h, hsub, if_true,
      if_false]
  · simp
  · simp [hid]
  · simp only [hid, getUserById_alone hrow]
    simp [hrow]
  · simp only [hid, getUserById_alone hrow]
    by_cases hver : payload.ver = row.tokenVersion <;> by_cases hact : row.isActive = true <;>
      simp [hrow, hver, hact]
    · exact fun h => h ▸ rfl
    · exact fun h => h ▸ hver

lemma admitHost_alone :
    ((admitHost (some token)).alone exec s).1 = .ok (.ok user) ↔
      ∃ ver, bearer s token = some (user, ver) := by
  rw [admitHost, alone_tryCatch]
  rcases presents s token with ⟨e, h⟩ | ⟨payload, h, hsub⟩ | ⟨payload, h, hsub, hid⟩ |
      ⟨payload, userId, h, hsub, hid, hrow⟩ | ⟨payload, userId, row, h, hsub, hid, hrow⟩
  · simp [hostUser, alone_bind_error (verifyAccessToken_alone h), bearer, h]
  all_goals
    simp only [hostUser, bearer, alone_bind_ok (verifyAccessToken_alone h), h, hsub, if_true,
      if_false]
  · simp
  · simp [hid]
  · simp only [hid, getUserById_alone hrow]
    simp [hrow]
  · simp only [hid, getUserById_alone hrow]
    by_cases hact : row.isActive = true <;> simp [hrow, hact]

lemma admitHost_alone_state : ((admitHost (some token)).alone exec s).2 = s := by
  rw [admitHost, alone_tryCatch]
  rcases presents s token with ⟨e, h⟩ | ⟨payload, h, hsub⟩ | ⟨payload, h, hsub, hid⟩ |
      ⟨payload, userId, h, hsub, hid, hrow⟩ | ⟨payload, userId, row, h, hsub, hid, hrow⟩
  · simp [hostUser, alone_bind_error (verifyAccessToken_alone h)]
  all_goals
    simp only [hostUser, alone_bind_ok (verifyAccessToken_alone h), hsub, if_true, if_false]
  · simp
  · simp [hid]
  · simp only [hid, getUserById_alone hrow]
    simp
  · simp only [hid, getUserById_alone hrow]
    by_cases hact : row.isActive = true <;> simp [hact]

lemma websocketHostEndpoint_alone {origin : Option String} {roomCode : String}
    {session : GameSession} (ho : ¬foreignOrigin origin)
    (hu : ((admitHost (some token)).alone exec s).1 = .ok (.ok user))
    (hs : s.sessions.get? (Runtime.upper roomCode) = some session)
    (hh : session.hostId = user.id) :
    ((websocketHostEndpoint origin (some token) roomCode).alone exec s).1 =
      .ok (.ok (user.id, decide (session.status = .finished))) := by
  have hadmit : (admitHost (some token)).alone exec s = (.ok (.ok user), s) :=
    Prod.ext hu admitHost_alone_state
  have hroom : exec (.getRoom roomCode : Op Token _) s = (.ok (some session), s) := by
    simp [exec, hs]
  rw [websocketHostEndpoint, if_neg ho, alone_bind_ok hadmit]
  dsimp only
  rw [alone_perform_bind hroom]
  simp [hh]

/-- The three places agree on a token if and only if it is not an outdated token of an active
user. -/
theorem admissions_agree_iff (s : State Token) (token : Token) :
    AdmissionsAgree s token ↔ ¬Outdated s token := by
  constructor
  · rintro h ⟨⟨user, ver⟩, hb, hver⟩
    have hb : bearer s token = some (user, ver) := hb
    have hhost := (h.host user).mpr (admitHost_alone.mpr ⟨ver, hb⟩)
    have hcur := getOptionalCurrentUser_alone.mp hhost
    rw [hb] at hcur
    cases hcur
    exact hver rfl
  · intro h
    have hcurrent : ∀ user ver, bearer s token = some (user, ver) → ver = user.tokenVersion := by
      intro user ver hb
      by_contra hver
      exact h ⟨(user, ver), hb, hver⟩
    refine ⟨fun user => ?_, fun user => ?_, fun user origin roomCode session hu ho hs hh => ?_⟩
    · rw [getCurrentUser_alone, getOptionalCurrentUser_alone]
    · rw [getOptionalCurrentUser_alone, admitHost_alone]
      refine ⟨fun hb => ⟨_, hb⟩, ?_⟩
      rintro ⟨ver, hb⟩
      rw [hb, hcurrent user ver hb]
    · have hb := getCurrentUser_alone.mp hu
      exact websocketHostEndpoint_alone ho (admitHost_alone.mpr ⟨_, hb⟩) hs hh

end

section Sample

attribute [local instance] Runtime.ascii Crypto.transparent

/-- An old token still opens the host's socket. -/
theorem old_token_admits_host : ¬AdmissionsAgree Sample.state Sample.oldToken := by
  intro h
  have hb : bearer Sample.state Sample.oldToken = some (Sample.ada, 0) := by decide +kernel
  have hcur := (h.host Sample.ada).mpr (admitHost_alone.mpr ⟨0, hb⟩)
  rw [getOptionalCurrentUser_alone, hb] at hcur
  exact absurd hcur (by decide +kernel)

end Sample

end Askit.Auth
