import Askit.Auth.Rotation

/-! The parts of a request that look no refresh token up. -/

namespace Askit.Auth

open Interleaving Machine Coro Tables
open Game (UUID Time Runtime)

section

variable {Token : Type} [DecidableEq Token]

def LateLook (i : ℕ) (token : Token) (history : List (Ev Token)) : Prop :=
  ∃ before ev after, history = before ++ ev :: after ∧ looks i token ev = true ∧ ¬Unset token before

variable [Crypto Token] [Runtime] [Normalize]

/-- Whoever looks for a token that has been put on the denylist signs no token for it afterwards and
is not answered with a new pair. -/
def StaysDenied (c : (system Token).Config) : Prop :=
  ∀ (i : ℕ) (token : Token) before after, c.world.history = before ++ after →
    LateLook i token before →
    (∀ ev ∈ after, ev.pid = i → renewed ev = none) ∧
      ∀ cookies response, c.procs[i]? ≠ some ⟨Call.refresh cookies, .done (.ok response)⟩

namespace Denylist

abbrev now (c : (system Token).Config) : Time := (c.world.state : State Token).now

def clockRead : Ev Token → Option Time
  | ⟨_, .now, .ok t⟩ => some t
  | _ => none

/-- How far a process has come with the token since it has last looked for it: it has not found it
on the denylist, and then has read the clock. -/
def advance (token : Token) (st : Option (Option Time)) : Ev Token → Option (Option Time)
  | ⟨_, .existsBlacklist t, .ok found⟩ =>
    if t = token then if found then none else some none else st
  | ⟨_, .now, .ok t⟩ => st.map fun read => some (read.getD t)
  | _ => st

def standing (token : Token) (l : List (Ev Token)) : Option (Option Time) :=
  l.foldl (advance token) none

def Expires (token : Token) (exp : ℤ) : Prop :=
  (Crypto.peek token).exp = some exp ∧
    ∃ secret now raw, Crypto.decode token secret now = .ok raw

/-- Since the process has last looked for the token it has read the clock before the expiry. -/
def Verified (token : Token) (l : List (Ev Token)) : Prop :=
  ∃ t exp, standing token l = some (some t) ∧ Expires token exp ∧ t < seconds exp

def Dated (l : List (Ev Token)) (claims : Claims) : Prop :=
  ∃ ev ∈ l, ∃ t, clockRead ev = some t ∧ ∃ expiresIn ≤ refreshTokenLifetime,
    claims.exp = some (t / 1000000 + expiresIn)

def Rightful (call : Call Token) (l : List (Ev Token)) : Ev Token → Prop
  | ⟨_, .encode issuer claims _, r⟩ => Dated l claims ∧
      (∀ token, r = .ok token → Crypto.peek token = claims) ∧
      (issuer = .refresh ∨ issuer = .autoRefresh →
        ∃ token, call.cookies.refreshToken = some token ∧ Verified token l)
  | ⟨_, .existsBlacklist token, _⟩ => call.cookies.refreshToken = some token
  | ⟨_, .setBlacklist token ex, _⟩ =>
    call.cookies.refreshToken = some token ∧ ex = refreshTokenLifetime
  | _ => True

/-- How a request to `/auth/refresh` ends. -/
def Renewed : Call Token → Except Exn (Response Token) → List (Ev Token) → Prop
  | .refresh cookies, .ok _, l => ∃ token, cookies.refreshToken = some token ∧ Verified token l
  | _, _, _ => True

structure Extends (l l' : List (Ev Token)) : Prop where
  start : l <+: l'
  standing : ∀ token t, standing token l = some (some t) → standing token l' = some (some t)

/-- The operations that neither sign nor touch the denylist. -/
def Op.Plain : {β : Type} → Op Token β → Prop
  | _, .encode .. | _, .existsBlacklist _ | _, .setBlacklist .. => False
  | _, _ => True

variable {l l' l'' : List (Ev Token)} {i : ℕ} {call : Call Token} {α β : Type}

omit [Crypto Token] [Runtime] [Normalize] in
lemma standing_append (token : Token) (l : List (Ev Token)) (ev : Ev Token) :
    standing token (l ++ [ev]) = advance token (standing token l) ev := by
  simp [standing]

omit [Crypto Token] [Runtime] [Normalize] in
lemma Extends.refl (l : List (Ev Token)) : Extends l l := ⟨List.prefix_refl l, fun _ _ h => h⟩

omit [Crypto Token] [Runtime] [Normalize] in
lemma Extends.trans (h : Extends l l') (h' : Extends l' l'') : Extends l l'' :=
  ⟨h.start.trans h'.start, fun token t ht => h'.standing token t (h.standing token t ht)⟩

omit [Crypto Token] [Runtime] [Normalize] in
lemma Extends.append {ev : Ev Token}
    (h : ∀ token t, advance token (some (some t)) ev = some (some t)) : Extends l (l ++ [ev]) := by
  refine ⟨List.prefix_append _ _, fun token t ht => ?_⟩
  rw [standing_append, ht, h]

omit [Normalize] [Runtime] in
lemma Verified.mono {token : Token} (h : Verified token l) (hl : Extends l l') :
    Verified token l' := by
  obtain ⟨t, exp, ht, hexp, hlt⟩ := h
  exact ⟨t, exp, hl.standing token t ht, hexp, hlt⟩

abbrev Follows (i : ℕ) (call : Call Token) (Q : Except Exn α → List (Ev Token) → Prop)
    (x : Handler Token α) (l : List (Ev Token)) : Prop :=
  x.Follows (system Token).Answers i (Rightful call) Q l

def Tame (i : ℕ) (call : Call Token) (x : Handler Token α) : Prop :=
  ∀ l, Follows i call (fun _ l' => Extends l l') x l

namespace Tame

lemma done (r : Except Exn α) : Tame i call (.done r : Handler Token α) := fun l => Extends.refl l

lemma pure (a : α) : Tame i call (Pure.pure a : Handler Token α) := fun l => Extends.refl l

lemma throw (e : Exn) : Tame i call (MonadExcept.throw e : Handler Token α) :=
    fun l => Extends.refl l

lemma perform {o : Op Token α} (ho : Op.Plain o) : Tame i call (await o) := by
  intro l
  apply Follows.perform
  intro r _
  cases o with
  | encode | existsBlacklist | setBlacklist => exact ho.elim
  | _ => exact ⟨trivial, .append fun _ _ => by cases r <;> rfl⟩

lemma bind {x : Handler Token α} {f : α → Handler Token β} (hx : Tame i call x)
    (hf : ∀ a, Tame i call (f a)) : Tame i call (x >>= f) := by
  intro l
  apply Follows.bind (hx l)
  · exact fun a l' hl => (hf a l').mono fun _ _ hl' => hl.trans hl'
  · exact fun _ _ hl => hl

lemma op_bind {o : Op Token α} {f : α → Handler Token β} (ho : Op.Plain o)
    (hf : ∀ a, Tame i call (f a)) : Tame i call (await o >>= f) :=
  .bind (.perform ho) hf

lemma tryCatch {x : Handler Token α} {f : Exn → Handler Token α} (hx : Tame i call x)
    (hf : ∀ e, Tame i call (f e)) : Tame i call (MonadExcept.tryCatch x f) := by
  intro l
  apply Follows.tryCatch (hx l)
  · exact fun _ _ hl => hl
  · exact fun e l' hl => (hf e l').mono fun _ _ hl' => hl.trans hl'

lemma require (c : Prop) [Decidable c] (e : Exn) :
    Tame i call (Coro.require c e : Handler Token Unit) := by
  unfold Coro.require
  split
  · exact .pure ()
  · exact .throw e

lemma ite {c : Prop} [Decidable c] {x y : Handler Token α} (hx : Tame i call x)
    (hy : Tame i call y) : Tame i call (if c then x else y) := by
  split
  · exact hx
  · exact hy

end Tame

lemma createToken_follows {issuer : Issuer} {sub tokenType secret : String}
    {expiresIn : ℕ} {ver : ℤ} (hexp : expiresIn ≤ refreshTokenLifetime)
    (hv : issuer = .refresh ∨ issuer = .autoRefresh →
      ∃ token, call.cookies.refreshToken = some token ∧ Verified token l) :
    Follows i call (fun _ l' => Extends l l')
      (createToken issuer sub tokenType secret expiresIn ver) l := by
  apply Follows.perform_bind (fun _ _ => by trivial)
  swap
  · exact fun _ => .append fun _ _ => rfl
  intro t _
  have hnow : Extends l (l ++ [⟨i, .now, .ok t⟩]) := .append fun _ _ => rfl
  apply Follows.perform_bind (fun _ _ => by trivial)
  swap
  · exact fun _ => hnow.trans (.append fun _ _ => rfl)
  intro jti _
  have hjti : Extends l (l ++ [⟨i, .now, .ok t⟩] ++ [⟨i, .uuid4, .ok jti⟩]) :=
    hnow.trans (.append fun _ _ => rfl)
  apply Follows.perform
  intro r hr
  refine ⟨⟨⟨⟨i, .now, .ok t⟩, by simp, t, rfl, expiresIn, hexp, rfl⟩, fun token ht => ?_,
    fun hi => ?_⟩, hjti.trans (.append fun _ _ => by cases r <;> rfl)⟩
  · obtain ⟨s, hs⟩ := hr token ht
    cases hs
    exact Crypto.peek_encode _ _
  · obtain ⟨token, hc, hverified⟩ := hv hi
    exact ⟨token, hc, hverified.mono hjti⟩

lemma createToken_tame {issuer : Issuer} {sub tokenType secret : String} {expiresIn : ℕ} {ver : ℤ}
    (hexp : expiresIn ≤ refreshTokenLifetime) (hi : ¬(issuer = .refresh ∨ issuer = .autoRefresh)) :
    Tame i call (createToken issuer sub tokenType secret expiresIn ver) :=
  fun _ => createToken_follows hexp fun h => (hi h).elim

lemma mint_tame {issuer : Issuer} {sub : String} {ver : ℤ} {f : Token → Token → Response Token}
    (hi : ¬(issuer = .refresh ∨ issuer = .autoRefresh)) :
    Tame i call (do
      let accessToken ← createAccessToken issuer sub ver
      let refreshToken ← createRefreshToken issuer sub ver
      pure (f accessToken refreshToken)) :=
  .bind (createToken_tame (by decide) hi) fun _ =>
    .bind (createToken_tame le_rfl hi) fun _ => .pure _

lemma decode_tame (token : Token) (secret expectedType : String) :
    Tame i call (decode token secret expectedType) :=
  .op_bind (by trivial) fun _ => .done _

lemma getCurrentUser_tame (token : Option Token) : Tame i call (getCurrentUser token) := by
  cases token with
  | none => exact .throw _
  | some token =>
    apply Tame.bind (decode_tame token _ _)
    intro payload
    apply Tame.bind (.require _ _)
    intro _
    cases Runtime.uuid payload.sub with
    | none => exact .throw _
    | some userId =>
      apply Tame.op_bind (by trivial)
      intro found
      cases found with
      | none => exact .throw _
      | some user =>
        exact .bind (.require _ _) fun _ => .bind (.require _ _) fun _ => .pure user

lemma optionalUser_tame (token : Token) : Tame i call (optionalUser token) := by
  apply Tame.bind (decode_tame token _ _)
  intro payload
  apply Tame.ite (.pure none)
  cases Runtime.uuid payload.sub with
  | none => exact .throw _
  | some userId =>
    apply Tame.op_bind (by trivial)
    intro found
    cases found with
    | none => exact .pure none
    | some user => exact .ite (.pure none) (.ite (.pure none) (.pure _))

lemma getOptionalCurrentUser_tame (token : Option Token) :
    Tame i call (getOptionalCurrentUser token) := by
  cases token with
  | none => exact .pure none
  | some token =>
    apply Tame.tryCatch (optionalUser_tame token)
    intro e
    cases e <;> first | exact .pure none | exact .throw _

lemma createUser_tame (username email password : String) :
    Tame i call (createUser username email password : Handler Token User) := by
  apply Tame.op_bind (by trivial)
  intro passwordHash
  apply Tame.op_bind (by trivial)
  intro id
  apply Tame.tryCatch
  · apply Tame.op_bind (by trivial)
    intro _
    apply Tame.op_bind (by trivial)
    intro found
    cases found with
    | none => exact .throw _
    | some user => exact .pure user
  · intro e
    cases e <;> first | exact .op_bind (by trivial) fun _ => .throw _ | exact .throw _

lemma register_tame (username email password : String) :
    Tame i call (register username email password : Handler Token (Response Token)) := by
  apply Tame.bind
  · apply Tame.tryCatch
    · exact .op_bind (by trivial) fun _ => .bind (.require _ _) fun _ => createUser_tame username
        email password
    · intro e
      cases e <;> exact .throw _
  · exact fun user => mint_tame (by simp)

lemma authenticate_tame (email password : String) :
    Tame i call (authenticate email password : Handler Token (User × Token × Token)) := by
  apply Tame.op_bind (by trivial)
  intro found
  cases found with
  | none => exact .throw _
  | some user =>
    apply Tame.bind (.require _ _)
    intro _
    apply Tame.bind (.require _ _)
    intro _
    apply Tame.bind
    · exact .op_bind (by trivial) fun _ => .perform (by trivial)
    · exact fun _ => .bind (createToken_tame (by decide) (by simp)) fun _ =>
        .bind (createToken_tame le_rfl (by simp)) fun _ => .pure _

lemma recordFailedLogin_tame (email : String) :
    Tame i call (recordFailedLogin email : Handler Token ℕ) := by
  apply Tame.op_bind (by trivial)
  intro count
  split
  · exact .op_bind (by trivial) fun _ => .pure count
  · exact .pure count

lemma login_tame (email password : String) :
    Tame i call (login email password : Handler Token (Response Token)) := by
  apply Tame.bind (.op_bind (by trivial) fun _ => .pure _)
  intro attempts
  apply Tame.bind (.require _ _)
  intro _
  apply Tame.bind
  · apply Tame.tryCatch (authenticate_tame email password)
    intro e
    cases e <;>
      first | exact .bind (recordFailedLogin_tame email) fun _ => .throw _ | exact .throw _
  · exact fun _ => .op_bind (by trivial) fun _ => .pure _

lemma authenticated_tame (cookies : Cookies Token)
    {endpoint : User → Handler Token (Response Token)} (h : ∀ user, Tame i call (endpoint user)) :
    Tame i call (authenticated cookies endpoint) := by
  apply Tame.bind (getCurrentUser_tame _)
  intro user
  cases cookies.accessToken with
  | none => exact .throw _
  | some token => exact .op_bind (by trivial) fun _ => h user

lemma updateProfileRoute_tame (username : Option String) (user : User) :
    Tame i call (updateProfileRoute username user : Handler Token (Response Token)) := by
  apply Tame.bind
  · apply Tame.tryCatch
    · apply Tame.op_bind (by trivial)
      intro _
      apply Tame.op_bind (by trivial)
      intro found
      cases found with
      | none => exact .throw _
      | some user => exact .pure _
    · intro e
      cases e <;> first | exact .op_bind (by trivial) fun _ => .throw _ | exact .throw _
  · exact fun _ => .pure _

lemma changePasswordRoute_tame (currentPassword nextPassword : String) (user : User) :
    Tame i call (changePasswordRoute currentPassword nextPassword user :
      Handler Token (Response Token)) := by
  apply Tame.bind
  · exact .bind (.require _ _) fun _ => .op_bind (by trivial) fun _ =>
      .op_bind (by trivial) fun _ => .pure _
  · exact fun user => mint_tame (by simp)

lemma optionallyAuthenticated_tame (cookies : Cookies Token) :
    Tame i call (optionallyAuthenticated cookies) := by
  apply Tame.bind (getOptionalCurrentUser_tame _)
  intro user
  split
  · exact .op_bind (by trivial) fun _ => .pure _
  · exact .pure _

end Denylist

end

end Askit.Auth
