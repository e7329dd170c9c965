import Askit.Auth.System
import Askit.Interleaving.Trace

/-! What a token rests on: the coroutine that issues it has read its user before. -/

namespace Askit.Auth

open Interleaving Machine Coro Tables
open Game (UUID Time Runtime Dirty)

section

variable {Token : Type}

abbrev Ev (Token : Type) := Event (Op Token) Exn

def readUser : Ev Token → Option User
  | ⟨_, .getUserById _, .ok user⟩ | ⟨_, .getUserByEmail _, .ok user⟩
  | ⟨_, .refreshUser _, .ok user⟩ => user
  | _ => none

def bump : Ev Token → Option (Dirty User)
  | ⟨_, .commit user, .ok _⟩ =>
    if user.current.tokenVersion = user.loaded.tokenVersion then none else some user
  | _ => none

def issued : Ev Token → Option (Token × Claims)
  | ⟨_, .encode _ claims _, .ok token⟩ => some (token, claims)
  | _ => none

def renewed : Ev Token → Option Token
  | ⟨_, .encode .autoRefresh _ _, .ok token⟩ | ⟨_, .encode .refresh _ _, .ok token⟩ => some token
  | _ => none

def bumpsOf (id : UUID) (history : List (Ev Token)) : ℕ :=
  history.countP fun ev => (bump ev).any fun user => user.loaded.id = id

def Seen (l : List (Ev Token)) (user : User) : Prop := ∃ ev ∈ l, readUser ev = some user

def Clean (l : List (Ev Token)) : Prop := ∀ ev ∈ l, bump ev = none

structure Extends (l l' : List (Ev Token)) : Prop where
  start : l <+: l'
  clean : Clean l → Clean l'

def Op.Silent : {β : Type} → Op Token β → Prop
  | _, .encode .. | _, .insertUser .. | _, .commit _ | _, .setBlacklist .. | _,
  .callEndpoint .. => False
  | _, _ => True

variable {l l' l'' : List (Ev Token)} {user : User} {i : ℕ}

lemma Extends.refl (l : List (Ev Token)) : Extends l l := ⟨List.prefix_refl l, id⟩

lemma Extends.trans (h : Extends l l') (h' : Extends l' l'') : Extends l l'' :=
  ⟨h.start.trans h'.start, fun hc => h'.clean (h.clean hc)⟩

lemma Extends.append {ev : Ev Token} (h : bump ev = none) : Extends l (l ++ [ev]) := by
  refine ⟨List.prefix_append l _, fun hc ev' hev => ?_⟩
  rcases List.mem_append.mp hev with hev | hev
  · exact hc ev' hev
  · exact List.mem_singleton.mp hev ▸ h

lemma Seen.mono (h : Seen l user) (hl : l <+: l') : Seen l' user := by
  obtain ⟨ev, hev, hr⟩ := h
  exact ⟨ev, hl.subset hev, hr⟩

lemma Op.Silent.bump {β : Type} {o : Op Token β} (ho : o.Silent) (r : Except Exn β) :
    bump ⟨i, o, r⟩ = none := by
  cases o with
  | commit user => exact ho.elim
  | _ => cases r <;> rfl

/-- The cookies that the middleware hands on have the refresh token `rt`. -/
def Keeps (rt : Option Token) (l : List (Ev Token)) (r : Except Exn (Cookies Token × Option Token))
    (l' : List (Ev Token)) : Prop :=
  Extends l l' ∧ ∀ c, r = .ok c → c.1.refreshToken = rt

lemma Keeps.mono {rt : Option Token} {r : Except Exn (Cookies Token × Option Token)}
    (hl : Extends l l') (h : Keeps rt l' r l'') : Keeps rt l r l'' :=
  ⟨hl.trans h.1, h.2⟩

lemma keeps_ok {cookies : Cookies Token} (hl : Extends l l') (new : Option Token) :
    Keeps cookies.refreshToken l (.ok (cookies, new)) l' := by
  refine ⟨hl, ?_⟩
  rintro c ⟨⟩
  rfl

lemma keeps_error {rt : Option Token} (hl : Extends l l') (e : Exn) : Keeps rt l (.error e) l' :=
  ⟨hl, fun c h => by cases h⟩

variable [DecidableEq Token] [Crypto Token] [Runtime] [Normalize]

/-- The identifiers drawn are in canonical form. -/
class CanonicalIds : Prop where
  uuid_uuid4 (n : ℕ) : Runtime.uuid (Runtime.uuid4 n) = some (Runtime.uuid4 n)

def Decodes (token : Token) (secret expectedType : String) (payload : JWTPayload) : Prop :=
  ∃ now, verified token secret expectedType now = .ok payload

def Vouches (token : Token) (secret expectedType : String) (l : List (Ev Token)) (user : User) :
    Prop :=
  Seen l user ∧ ∃ payload, Decodes token secret expectedType payload ∧
    Runtime.uuid payload.sub = some user.id ∧ payload.ver = user.tokenVersion

def Warrants (call : Call Token) (l : List (Ev Token)) (sub : String) (ver : ℤ) : Issuer → Prop
  | .autoRefresh => ∃ token payload, call.cookies.refreshToken = some token ∧
      Decodes token (Crypto.refreshSecret Token) "refresh" payload ∧ sub = payload.sub ∧
      ver = payload.ver
  | .refresh => ∃ token user, call.cookies.refreshToken = some token ∧
      Vouches token (Crypto.refreshSecret Token) "refresh" l user ∧ sub = user.id ∧
      ver = user.tokenVersion
  | .changePassword => ∃ user ev, ev ∈ l ∧ bump ev = some user ∧ sub = user.loaded.id ∧
      ver = user.current.tokenVersion
  | .login | .register => ∃ user, Seen l user ∧ sub = user.id ∧ ver = user.tokenVersion

/-- What each event of a request is like, after what the request has done before. -/
def Fine (call : Call Token) (l : List (Ev Token)) : Ev Token → Prop
  | ⟨_, .encode issuer claims _, r⟩ =>
    (∃ sub ver, claims.sub = some sub ∧ claims.ver = some ver ∧ Warrants call l sub ver issuer) ∧
      ∀ token, r = .ok token → Crypto.peek token = claims
  | ⟨_, .commit user, _⟩ =>
    (call.bumps = true ∧ user.current.tokenVersion = user.loaded.tokenVersion + 1 ∧
      Seen l user.loaded ∧ Clean l) ∨
    (call.bumps = false ∧ user.current.tokenVersion = user.loaded.tokenVersion)
  | ⟨_, .insertUser id _ _ _, _⟩ => Runtime.uuid id = some id
  | ⟨_, .setBlacklist token ex, _⟩ => call.cookies.refreshToken = some token ∧
      ex = refreshTokenLifetime
  | ⟨_, .callEndpoint token user, _⟩ => Vouches token (Crypto.accessSecret Token) "access" l user
  | _ => True

/-- What a renewal, a change of the password or a deactivation has done when it has succeeded. -/
def Renewed : Call Token → Except Exn (Response Token) → List (Ev Token) → Prop
  | .refresh cookies, .ok _, l => ∃ token user, cookies.refreshToken = some token ∧
      Vouches token (Crypto.refreshSecret Token) "refresh" l user
  | .changePassword .., .ok _, l | .deactivate _, .ok _, l => ∃ ev ∈ l, (bump ev).isSome
  | _, _, _ => True

namespace Revocation

variable {call : Call Token} {α β : Type}

abbrev Follows (i : ℕ) (call : Call Token) (Q : Except Exn α → List (Ev Token) → Prop)
    (x : Handler Token α) (l : List (Ev Token)) : Prop :=
  x.Follows (system Token).Answers i (Fine call) Q l

omit [DecidableEq Token] [Normalize] in
lemma fine_silent {o : Op Token β} (ho : o.Silent) (r : Except Exn β) : Fine call l ⟨i, o, r⟩ := by
  cases o with
  | encode | insertUser | commit | setBlacklist | callEndpoint => exact ho.elim
  | _ => trivial

lemma silent_bind {o : Op Token α} {f : α → Handler Token β}
    {Q : Except Exn β → List (Ev Token) → Prop} (ho : o.Silent)
    (hf : ∀ a, (system Token).Answers o a → Extends l (l ++ [⟨i, o, .ok a⟩]) →
      Follows i call Q (f a) (l ++ [⟨i, o, .ok a⟩]))
    (he : ∀ e, Extends l (l ++ [⟨i, o, .error e⟩]) → Q (.error e) (l ++ [⟨i, o, .error e⟩])) :
    Follows i call Q (await o >>= f) l :=
  .perform_bind (fun r _ => fine_silent ho r) (fun a ha => hf a ha (.append (ho.bump _)))
    fun e => he e (.append (ho.bump _))

lemma silent_all {x : Handler Token α} (hx : x.All (system Token).Answers Op.Silent) :
    Follows i call (fun _ l' => Extends l l') x l :=
  .of_all hx (fun _ r _ ho _ hl => ⟨fine_silent ho r, hl.trans (.append (ho.bump r))⟩) (.refl l)

lemma decode_follows (token : Token) (secret expectedType : String) :
    Follows i call (fun r l' => Extends l l' ∧ ∀ payload, r = .ok payload →
      Decodes token secret expectedType payload) (decode token secret expectedType) l := by
  apply silent_bind (by trivial)
  · exact fun now _ hl => ⟨hl, fun payload h => ⟨now, h⟩⟩
  · exact fun e hl => ⟨hl, fun payload h => by cases h⟩

lemma createToken_follows {issuer : Issuer} {sub tokenType secret : String} {expiresIn : ℕ}
    {ver : ℤ} (hw : ∀ l', Extends l l' → Warrants call l' sub ver issuer) :
    Follows i call (fun _ l' => Extends l l')
      (createToken issuer sub tokenType secret expiresIn ver) l := by
  apply silent_bind (by trivial)
  · intro now _ hl
    apply silent_bind (by trivial)
    · intro jti _ hl'
      apply Follows.perform
      intro r hr
      refine ⟨⟨⟨sub, ver, rfl, rfl, hw _ (hl.trans hl')⟩, fun token ht => ?_⟩,
        (hl.trans hl').trans (.append (by cases r <;> rfl))⟩
      obtain ⟨s, hs⟩ := hr token ht
      cases hs
      exact Crypto.peek_encode _ _
    · exact fun e hl' => hl.trans hl'
  · exact fun e hl => hl

lemma getCurrentUser_follows (token : Token) :
    Follows i call (fun r l' => Extends l l' ∧ ∀ user, r = .ok user →
      Vouches token (Crypto.accessSecret Token) "access" l' user)
      (getCurrentUser (some token)) l := by
  apply Follows.bind (decode_follows token _ _)
  swap
  · exact fun e l' h => ⟨h.1, fun user hu => by cases hu⟩
  rintro payload l' ⟨hl, hd⟩
  apply Follows.require_bind
  swap
  · exact fun _ => ⟨hl, fun user hu => by cases hu⟩
  intro _
  cases hid : Runtime.uuid payload.sub with
  | none => exact ⟨hl, fun user hu => by cases hu⟩
  | some userId =>
    apply silent_bind (by trivial)
    swap
    · exact fun e hl' => ⟨hl.trans hl', fun user hu => by cases hu⟩
    intro found hfound hl'
    cases found with
    | none => exact ⟨hl.trans hl', fun user hu => by cases hu⟩
    | some user =>
      apply Follows.require_bind
      swap
      · exact fun _ => ⟨hl.trans hl', fun user hu => by cases hu⟩
      intro hver
      apply Follows.require_bind
      swap
      · exact fun _ => ⟨hl.trans hl', fun user hu => by cases hu⟩
      intro _
      refine ⟨hl.trans hl', fun user' hu => ?_⟩
      obtain rfl : user = user' := by cases hu; rfl
      refine ⟨⟨_, List.mem_append_right _ (List.mem_singleton_self _), rfl⟩, payload,
        hd payload rfl, ?_, hver⟩
      obtain ⟨s, hs⟩ := hfound
      have hrow : s.users.table.get? userId = some user := Except.ok.inj hs
      rw [hid, ← Table.key_get? hrow]

lemma optionalUser_follows (token : Token) :
    Follows i call (fun r l' => Extends l l' ∧ ∀ user, r = .ok (some user) →
      Vouches token (Crypto.accessSecret Token) "access" l' user) (optionalUser token) l := by
  apply Follows.bind (decode_follows token _ _)
  swap
  · exact fun e l' h => ⟨h.1, fun user hu => by cases hu⟩
  rintro payload l' ⟨hl, hd⟩
  apply Follows.ite
  · exact fun _ => ⟨hl, fun user hu => by cases hu⟩
  intro _
  cases hid : Runtime.uuid payload.sub with
  | none => exact ⟨hl, fun user hu => by cases hu⟩
  | some userId =>
    apply silent_bind (by trivial)
    swap
    · exact fun e hl' => ⟨hl.trans hl', fun user hu => by cases hu⟩
    intro found hfound hl'
    cases found with
    | none => exact ⟨hl.trans hl', fun user hu => by cases hu⟩
    | some user =>
      apply Follows.ite
      · exact fun _ => ⟨hl.trans hl', fun user hu => by cases hu⟩
      intro _
      apply Follows.ite
      · exact fun _ => ⟨hl.trans hl', fun user hu => by cases hu⟩
      intro hver
      refine ⟨hl.trans hl', fun user' hu => ?_⟩
      obtain rfl : user = user' := by cases hu; rfl
      refine ⟨⟨_, List.mem_append_right _ (List.mem_singleton_self _), rfl⟩, payload,
        hd payload rfl, ?_, not_not.mp hver⟩
      obtain ⟨s, hs⟩ := hfound
      have hrow : s.users.table.get? userId = some user := Except.ok.inj hs
      rw [hid, ← Table.key_get? hrow]

lemma callEndpoint_follows {token : Token}
    (hv : Vouches token (Crypto.accessSecret Token) "access" l user) {f : Unit → Handler Token β}
    {Q : Except Exn β → List (Ev Token) → Prop}
    (hf : ∀ l', Extends l l' → Follows i call Q (f ()) l') (he : ∀ e l', Q (.error e) l') :
    Follows i call Q (await (.callEndpoint token user) >>= f) l :=
  .perform_bind (fun _ _ => hv) (fun _ _ => hf _ (.append rfl)) fun e => he e _

lemma renewAccessToken_follows {token : Token} {cookies : Cookies Token}
    (hc : call.cookies.refreshToken = some token) :
    Follows i call (Keeps cookies.refreshToken l) (renewAccessToken cookies token) l := by
  apply silent_bind (by trivial)
  swap
  · exact fun e hl => keeps_error hl e
  intro blacklisted _ hl
  apply Follows.ite
  · exact fun _ => keeps_ok hl none
  intro _
  apply Follows.bind (decode_follows token _ _)
  swap
  · exact fun e l' h => keeps_error (hl.trans h.1) e
  rintro payload l' ⟨hl', hd⟩
  have hw : ∀ l'', Extends l' l'' → Warrants call l'' payload.sub payload.ver .autoRefresh :=
    fun _ _ => ⟨token, payload, hc, hd payload rfl, rfl, rfl⟩
  apply Follows.bind (createToken_follows hw)
  · exact fun newToken l'' h => @keeps_ok _ _ _ { cookies with accessToken := some newToken }
      ((hl.trans hl').trans h) (some newToken)
  · exact fun e l'' h => keeps_error ((hl.trans hl').trans h) e

lemma autoRefresh_follows {cookies : Cookies Token} (hc : call.cookies = cookies) :
    Follows i call (Keeps cookies.refreshToken l) (autoRefresh cookies) l := by
  obtain ⟨accessToken, refreshToken⟩ := cookies
  cases accessToken with
  | none => exact keeps_ok (.refl l) none
  | some accessToken =>
    apply Follows.tryCatch (S := Keeps refreshToken l)
    · apply Follows.bind (decode_follows accessToken _ _)
      · exact fun _ l' h => keeps_ok h.1 none
      · exact fun e l' h => keeps_error h.1 e
    · exact fun _ _ h => h
    · rintro e l' ⟨hl, -⟩
      cases e with
      | tokenExpiredError =>
        cases refreshToken with
        | none => exact keeps_ok hl none
        | some refreshToken =>
          apply Follows.tryCatch (renewAccessToken_follows (congrArg Cookies.refreshToken hc))
          · exact fun c l'' h => h.mono hl
          · exact fun e l'' h => keeps_ok (hl.trans h.1) none
      | invalidTokenError => exact keeps_ok hl none
      | _ => exact keeps_error hl _

end Revocation

end

end Askit.Auth
