import Askit.Auth.Services
import Askit.Interleaving.Sequential
import Askit.Patterns.Regex

/-! What the schemas let through as a username, and what is stored. -/

namespace Askit.Auth

open Interleaving Coro Tables
open Game (UUID Time Runtime Dirty changed)

structure InvalidUsernameError where
  message : String
  deriving DecidableEq, Repr

/-- `[A-Za-z0-9_]` -/
def usernameChar (c : Char) : Bool := c.isAlphanum || c == '_'

open Patterns in
/-- `^[A-Za-z0-9_]{3,30}$` -/
def usernamePattern : Regex := .seq .start (.seq (.repeated (.chars usernameChar) 3 30) .finish)

namespace AuthValidators

def validateUsername (username : String) : Except InvalidUsernameError String :=
  if username = "" then .error ⟨"Username is required"⟩
  else if username.length < 3 then .error ⟨"Username must be at least 3 characters long"⟩
  else if 30 < username.length then .error ⟨"Username must not exceed 30 characters"⟩
  else if usernamePattern.accepts username = false then
    .error ⟨"Username can only contain letters, numbers, and underscores"⟩
  else .ok username

end AuthValidators

def UserCreate.usernameValid (v : String) : Except InvalidUsernameError String :=
  AuthValidators.validateUsername v

def UserUpdate.usernameValid : Option String → Except InvalidUsernameError (Option String)
  | none => .ok none
  | some v => some <$> AuthValidators.validateUsername v

/-- The documented rules. -/
structure Username (s : String) : Prop where
  least : 3 ≤ s.length
  most : s.length ≤ 30
  chars : ∀ c ∈ s.toList, usernameChar c = true

instance (s : String) : Decidable (Username s) :=
  decidable_of_iff (3 ≤ s.length ∧ s.length ≤ 30 ∧ s.toList.all usernameChar = true)
    ⟨fun ⟨a, b, c⟩ => ⟨a, b, List.all_eq_true.mp c⟩, fun ⟨a, b, c⟩ =>
      ⟨a, b, List.all_eq_true.mpr c⟩⟩

/-- Both schemas accept the text by the rules, and their services store it as it is. -/
structure UsernameRules (s : String) : Prop where
  create : (∃ v, UserCreate.usernameValid s = .ok v) ↔ Username s
  update : (∃ v, UserUpdate.usernameValid (some s) = .ok v) ↔ Username s
  created : ∀ v, UserCreate.usernameValid s = .ok v →
    ∀ (Token : Type) [DecidableEq Token] [Crypto Token]
    [Runtime] (email password : String) (u : User) (before after : State Token),
    (createUser v email password).alone exec before = (.ok u, after) →
      after.users.table.get? u.id = some u ∧ u.username = s
  updated : ∀ v, UserUpdate.usernameValid (some s) = .ok v → ∀ (Token : Type) [DecidableEq Token]
    [Crypto Token] [Runtime] (u : User) (body : Body) (before after : State Token),
    before.users.table.get? u.id = some u →
      (updateProfile u v).alone exec before = (.ok body, after) →
        (after.users.table.get? u.id).map User.username = some s

namespace Usernames

lemma validateUsername_eq (s : String) (h : 3 ≤ s.length ∧ s.length ≤ 30)
    (hpattern : usernamePattern.accepts s = true) : AuthValidators.validateUsername s = .ok s := by
  have hne : s ≠ "" := by
    rintro rfl
    exact absurd h.1 (by decide)
  rw [AuthValidators.validateUsername, if_neg hne, if_neg (by omega), if_neg (by omega),
    if_neg (by simp [hpattern])]

lemma eq_of_validateUsername {s v : String} (h : AuthValidators.validateUsername s = .ok v) :
    v = s ∧ 3 ≤ s.length ∧ s.length ≤ 30 ∧ usernamePattern.accepts s = true := by
  unfold AuthValidators.validateUsername at h
  split_ifs at h with hempty hshort hlong hpattern
  cases h
  exact ⟨rfl, by omega, by omega, by simpa using hpattern⟩

lemma accepted_iff (s : String) : (∃ v, AuthValidators.validateUsername s = .ok v) ↔
    Username s ∨ ∃ v, Username v ∧ v.length ≤ 29 ∧ s = v ++ "\n" := by
  constructor
  · rintro ⟨v, h⟩
    obtain ⟨-, hleast, hmost, hpattern⟩ := eq_of_validateUsername h
    obtain ⟨u, hmin, hmax, hu, hend⟩ := Patterns.Regex.accepts_whole.mp hpattern
    rcases hend with hwhole | hnewline
    · exact .inl ⟨hleast, hmost, hwhole ▸ hu⟩
    · have hs : s = String.ofList u ++ "\n" := by
        rw [← String.toList_inj]
        simpa using hnewline
      have hlength : s.length = u.length + 1 := by
        rw [← String.length_toList, hnewline]
        simp
      exact .inr ⟨String.ofList u, ⟨by simpa using hmin, by simpa using hmax, by simpa using hu⟩,
        by simp; omega, hs⟩
  · rintro (h | ⟨v, h, hmost, rfl⟩)
    · refine ⟨s, validateUsername_eq s ⟨h.least, h.most⟩ (Patterns.Regex.accepts_whole.mpr ?_)⟩
      exact ⟨s.toList, by rw [String.length_toList]; exact h.least, by
        rw [String.length_toList]; exact h.most, h.chars, .inl rfl⟩
    · have hlength : (v ++ "\n").length = v.length + 1 := by
        rw [String.length_append]
        rfl
      have hleast := h.least
      refine ⟨_, validateUsername_eq _ ⟨by omega, by omega⟩ (Patterns.Regex.accepts_whole.mpr ?_)⟩
      exact ⟨v.toList, by rw [String.length_toList]; exact h.least, by
        rw [String.length_toList]; exact h.most, h.chars, .inr (by simp)⟩

section Services

variable {Token : Type} [DecidableEq Token] [Crypto Token] [Runtime] {before after : State Token}

lemma createUser_stores {username email password : String} {u : User}
    (h : (createUser username email password).alone exec before = (.ok u, after)) :
    after.users.table.get? u.id = some u ∧ u.username = username := by
  set row : User := ⟨Runtime.uuid4 (before.draws + 1), username, email,
    Crypto.hashPassword Token before.draws password, before.now, none, true, 0⟩ with hrow
  set drawn : State Token := { before with draws := before.draws + 1 + 1 } with hdrawn
  rw [createUser, alone_perform_bind rfl, alone_perform_bind rfl] at h
  replace h := alone_of_tryCatch (by rintro (_ | _) s <;> exact fun h => by cases h) h
  cases hinsert : before.users.insert row with
  | none =>
    have hexec : exec (.insertUser row.id username email row.passwordHash) drawn =
        (.error .integrityError, drawn) := by
      rw [exec, show drawn.users.insert _ = none from hinsert]
    rw [alone_perform_bind_error hexec] at h
    cases h
  | some users =>
    have hexec : exec (.insertUser row.id username email row.passwordHash) drawn =
        (.ok (), { drawn with users := users }) := by
      rw [exec, show drawn.users.insert _ = some users from hinsert]
    have hstored : users.table.get? row.id = some row := by
      rw [Table.get?_insert (Users.table_insert hinsert), if_pos rfl]
    have hrefresh : exec (.refreshUser row.id) { drawn with users := users } =
        (.ok (some row), { drawn with users := users }) := by
      rw [exec, hstored]
    rw [alone_perform_bind hexec, alone_perform_bind hrefresh] at h
    obtain ⟨hu, rfl⟩ := Prod.mk.inj h
    obtain rfl : row = u := Except.ok.inj hu
    exact ⟨hstored, rfl⟩

lemma updateProfile_stores {username : String} {u : User} {body : Body}
    (hu : before.users.table.get? u.id = some u)
    (h : (updateProfile u (some username)).alone exec before = (.ok body, after)) :
    (after.users.table.get? u.id).map User.username = some username := by
  set current : User := { u with username := username } with hcurrent
  replace h := alone_of_tryCatch (by rintro (_ | _) s <;> exact fun h => by cases h) h
  change (Coro.perform (Op.commit ⟨u, current⟩) >>= _).alone _ _ = _ at h
  cases hupdate : before.users.update ⟨u, current⟩ with
  | none =>
    have hexec : exec (.commit ⟨u, current⟩) before = (.error .integrityError, before) := by
      rw [exec, hupdate]
    rw [alone_perform_bind_error hexec] at h
    cases h
  | some users =>
    have hexec : exec (.commit ⟨u, current⟩) before = (.ok (), { before with users := users }) := by
      rw [exec, hupdate]
    have hrow : users.table.get? u.id = some (User.flush ⟨u, current⟩ u) := by
      rw [(Users.table_update hupdate).2, Table.get?_modify_self, hu]
      rfl
    have hname : (User.flush ⟨u, current⟩ u).username = username := by
      change (if username = u.username then u.username else username) = username
      split
      · next heq => exact heq.symm
      · rfl
    have hrefresh : exec (.refreshUser u.id) { before with users := users } =
        (.ok (some (User.flush ⟨u, current⟩ u)), { before with users := users }) := by
      rw [exec, hrow]
    rw [alone_perform_bind hexec, alone_perform_bind hrefresh] at h
    obtain ⟨-, rfl⟩ := Prod.mk.inj h
    rw [hrow, Option.map_some, hname]

end Services

lemma not_username_newline (v : String) : ¬Username (v ++ "\n") := fun h => by
  have hnewline := h.chars '\n' (by simp)
  exact absurd hnewline (by decide)

lemma updateValid_iff (s : String) : (∃ v, UserUpdate.usernameValid (some s) = .ok v) ↔
    ∃ v, AuthValidators.validateUsername s = .ok v := by
  rw [UserUpdate.usernameValid]
  cases AuthValidators.validateUsername s with
  | error e => exact ⟨fun ⟨_, h⟩ => (by cases h), fun ⟨_, h⟩ => (by cases h)⟩
  | ok v => exact ⟨fun _ => ⟨v, rfl⟩, fun _ => ⟨some v, rfl⟩⟩

lemma eq_of_updateValid {s : String} {v : Option String}
    (h : UserUpdate.usernameValid (some s) = .ok v) :
    v = some s := by
  rw [UserUpdate.usernameValid] at h
  cases hvalid : AuthValidators.validateUsername s with
  | error e =>
    rw [hvalid] at h
    cases h
  | ok w =>
    rw [hvalid] at h
    cases h
    rw [(eq_of_validateUsername hvalid).1]

end Usernames

open Usernames

/-- The schemas keep the documented rules on every text but a short enough name with a newline after
it. -/
theorem usernameRules_iff (s : String) :
    UsernameRules s ↔ ¬∃ v, Username v ∧ v.length ≤ 29 ∧ s = v ++ "\n" := by
  constructor
  · rintro h ⟨v, hv, hlength, rfl⟩
    have haccepted := (accepted_iff _).mpr (.inr ⟨v, hv, hlength, rfl⟩)
    exact not_username_newline v (h.create.mp haccepted)
  · intro h
    have haccepted : (∃ v, AuthValidators.validateUsername s = .ok v) ↔ Username s := by
      rw [accepted_iff]
      exact or_iff_left h
    constructor
    · exact haccepted
    · exact (updateValid_iff s).trans haccepted
    · intro v hv Token _ _ _ email password u before after hrun
      obtain rfl := (eq_of_validateUsername hv).1
      exact createUser_stores hrun
    · intro v hv Token _ _ _ u body before after hu hrun
      obtain rfl := eq_of_updateValid hv
      exact updateProfile_stores hu hrun

theorem usernameRules_newline : ¬UsernameRules "abc\n" := fun h =>
  not_username_newline "abc" (h.create.mp
    ((accepted_iff _).mpr (.inr ⟨"abc", by decide, by decide, by decide⟩)))

end Askit.Auth
