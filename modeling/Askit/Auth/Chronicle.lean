import Askit.Auth.Endpoints

/-! The versions in the tokens count the bumps before them. -/

namespace Askit.Auth

open Interleaving Machine Coro Tables
open Game (UUID Time Runtime Dirty)

section

variable {Token : Type}
variable {l l' l'' : List (Ev Token)} {user : User} {i : ℕ}
variable [DecidableEq Token] [Crypto Token] [Runtime] [Normalize]

/-- The users whom a change of the password or a deactivation that is still running has read. -/
def handled (c : (system Token).Config) (i : ℕ) : List UUID :=
  match c.procs[i]? with
  | some ⟨call, .await _ _⟩ =>
    if Call.bumps call then (own i c.world.history).filterMap fun ev => (readUser ev).map User.id
    else []
  | _ => []

/-- No two of these requests handle the same user. -/
def OneBumpAtATime (c : (system Token).Config) : Prop :=
  ∀ i < c.procs.length, ∀ j < c.procs.length, i ≠ j → ∀ id ∈ handled c i, id ∉ handled c j

def Genuine (token : Token) (history : List (Ev Token)) : Prop :=
  ∀ secret now raw, Crypto.decode token secret now = .ok raw →
    ∃ ev ∈ history, ∃ claims, issued ev = some (token, claims)

omit [DecidableEq Token] [Runtime] [Normalize] in
lemma Genuine.mono {token : Token} {h h' : List (Ev Token)} (hg : Genuine token h) (hp : h <+: h') :
    Genuine token h' := by
  intro secret now raw hd
  obtain ⟨ev, hev, hi⟩ := hg secret now raw hd
  exact ⟨ev, hp.subset hev, hi⟩

/-- A client presents no forged refresh token. -/
def Unforged : (system Token).Transition → Prop
  | ⟨c, .spawn call⟩ => ∀ token ∈ (Call.cookies call).refreshToken, Genuine token c.world.history
  | _ => True

lemma Unforged.genuine {c : (system Token).Config} {call : Call Token}
    (h : Unforged ⟨c, .spawn call⟩) :
    ∀ token ∈ call.cookies.refreshToken, Genuine token c.world.history := h

/-- `token` and what has been renewed from it, step by step. -/
inductive Derived (c : (system Token).Config) (token : Token) : Token → Prop
  | self : Derived c token token
  | renew {token' token'' : Token} {call : Call Token} {ev : Ev Token}
      (derived : Derived c token token') (request : c.calls[ev.pid]? = some call)
      (presented : call.cookies.refreshToken = some token') (event : ev ∈ c.world.history)
      (renewal : renewed ev = some token'') : Derived c token token''

/-- A dependency has let the token in, or `/auth/refresh` has renewed it. -/
def Accepts (c : (system Token).Config) (i : ℕ) (token : Token) : Prop :=
  (∃ user, ⟨i, .callEndpoint token user, .ok ()⟩ ∈ c.world.history) ∨
    ∃ cookies response, c.procs[i]? = some ⟨.refresh cookies, .done (.ok response)⟩ ∧
      cookies.refreshToken = some token

/-- Once a change of the password or a deactivation of `user.loaded` is committed, no request that
reads a user later accepts a token of that user from before, or one derived from it. -/
def Revokes (c : (system Token).Config) : Prop :=
  ∀ before j call user after,
    c.world.history = before ++ ⟨j, .commit user, .ok ()⟩ :: after →
    c.calls[j]? = some call → Call.bumps call = true →
    ∀ ev ∈ before, ∀ token claims, issued ev = some (token, claims) →
      claims.sub.bind Runtime.uuid = some user.loaded.id →
      ∀ token', Derived c token token' → ∀ i, (∀ ev ∈ before, ev.pid = i → readUser ev = none) →
        ¬Accepts c i token'

namespace Revocation

def storedVersion (id : UUID) (s : State Token) : ℤ :=
  ((s.users.table.get? id).map User.tokenVersion).getD 0

structure Chronicle (base : UUID → ℤ) (before : List (Ev Token)) (ev : Ev Token) : Prop where
  read : ∀ user, readUser ev = some user → Runtime.uuid user.id = some user.id ∧
    user.tokenVersion = base user.id + bumpsOf user.id before
  bump : ∀ user, bump ev = some user → Runtime.uuid user.loaded.id = some user.loaded.id ∧
    user.current.tokenVersion = base user.loaded.id + bumpsOf user.loaded.id before + 1
  issued : ∀ token claims, issued ev = some (token, claims) → Crypto.peek token = claims ∧
    ∃ sub ver id, claims.sub = some sub ∧ claims.ver = some ver ∧ Runtime.uuid sub = some id ∧
      ver ≤ base id + bumpsOf id before

structure Run (base : UUID → ℤ) (c : (system Token).Config) : Prop where
  traced : c.Traced Fine Renewed
  labelled : c.Labelled
  canonical : ∀ row ∈ (c.world.state : State Token).users.table.rows,
    Runtime.uuid row.id = some row.id
  version : ∀ id, storedVersion id c.world.state = base id + bumpsOf id c.world.history
  chronicle : Recorded (Chronicle base) c.world.history
  genuine : ∀ call ∈ c.calls, ∀ token ∈ (Call.cookies call).refreshToken,
    Genuine token c.world.history
  unchanged : ∀ i call {β : Type} (o : Op Token β) k user,
    c.procs[i]? = some ⟨call, .await o k⟩ → Call.bumps call = true →
    Seen (own i c.world.history) user → Clean (own i c.world.history) →
      user.tokenVersion = storedVersion user.id c.world.state

variable {base : UUID → ℤ}

omit [DecidableEq Token] [Crypto Token] [Runtime] [Normalize] in
lemma bumpsOf_append (id : UUID) (h h' : List (Ev Token)) :
    bumpsOf id (h ++ h') = bumpsOf id h + bumpsOf id h' :=
  List.countP_append

omit [DecidableEq Token] [Crypto Token] [Runtime] [Normalize] in
lemma bumpsOf_le (id : UUID) {h h' : List (Ev Token)} (hp : h <+: h') :
    bumpsOf id h ≤ bumpsOf id h' :=
  hp.sublist.countP_le

omit [Normalize] in
lemma exec_users {o : Op Token β} (ho : o.Silent) {id : UUID} (s : State Token) :
    storedVersion id (exec o s).2 = storedVersion id s := by
  cases o with
  | encode | insertUser | commit | setBlacklist | callEndpoint => exact ho.elim
  | _ => rfl

omit [DecidableEq Token] [Crypto Token] [Runtime] [Normalize] in
lemma storedVersion_update {s : State Token} {users : Users} {d : Dirty User}
    (h : s.users.update d = some users) (id : UUID) :
    storedVersion id { s with users := users } =
      if id = d.loaded.id ∧ d.current.tokenVersion ≠ d.loaded.tokenVersion then
        d.current.tokenVersion
      else storedVersion id s := by
  obtain ⟨hsome, htable⟩ := Users.table_update h
  simp only [storedVersion, htable, Table.get?_modify]
  by_cases hid : id = d.loaded.id
  · subst hid
    obtain ⟨row, hrow⟩ := Option.isSome_iff_exists.mp hsome
    by_cases hver : d.current.tokenVersion = d.loaded.tokenVersion <;>
      simp [hrow, hver, User.flush, Game.changed]
  · simp [hid]

omit [Normalize] in
lemma exec_version {o : Op Token β} {s : State Token} (i : ℕ)
    (hbump : ∀ d, bump ⟨i, o, (exec o s).1⟩ = some d →
      d.current.tokenVersion = storedVersion d.loaded.id s + 1) (id : UUID) :
    storedVersion id (exec o s).2 = storedVersion id s + bumpsOf id [⟨i, o, (exec o s).1⟩] := by
  by_cases ho : o.Silent
  · simp [exec_users ho, bumpsOf, ho.bump]
  cases o with
  | encode issuer claims secret => simp [bumpsOf, bump, exec, storedVersion]
  | setBlacklist token ex => simp [bumpsOf, bump, exec, storedVersion]
  | callEndpoint token user => simp [bumpsOf, bump, exec, storedVersion]
  | insertUser id' username email passwordHash =>
    cases hi : s.users.insert ⟨id', username, email, passwordHash, s.now, none, true, 0⟩ with
    | none => simp [exec, hi, bumpsOf, bump]
    | some users =>
      have hins := Users.table_insert hi
      simp only [exec, hi, storedVersion, Table.get?_insert hins]
      split
      case isTrue hid =>
        subst hid
        rw [Table.get?_eq_none.mpr (Table.fresh_of_insert hins)]
        simp [bumpsOf, bump]
      case isFalse => simp [bumpsOf, bump]
  | commit d =>
    cases hu : s.users.update d with
    | none => simp [exec, hu, bumpsOf, bump]
    | some users =>
      have hx : exec (.commit d) s = (.ok (), { s with users := users }) := by simp [exec, hu]
      rw [hx] at hbump ⊢
      rw [storedVersion_update hu]
      by_cases hver : d.current.tokenVersion = d.loaded.tokenVersion
      · simp [bumpsOf, bump, hver]
      · have hd := hbump d (if_neg hver)
        by_cases hid : id = d.loaded.id
        · subst hid
          rw [if_pos ⟨rfl, hver⟩, hd]
          simp [bumpsOf, bump, hver]
        · simp [bumpsOf, bump, hver, hid, Ne.symm hid]
  | _ => exact (ho trivial).elim

omit [Normalize] in
lemma exec_read {o : Op Token β} {s : State Token} {i : ℕ}
    (h : readUser ⟨i, o, (exec o s).1⟩ = some user) : s.users.table.get? user.id = some user := by
  cases o with
  | getUserById userId =>
    have hrow : s.users.table.get? userId = some user := h
    rwa [Table.key_get? hrow]
  | getUserByEmail email =>
    have hrow : s.users.byEmail email = some user := h
    exact Table.get?_of_mem (List.mem_of_find?_eq_some hrow)
  | refreshUser userId =>
    have hrow : s.users.table.get? userId = some user := h
    rwa [Table.key_get? hrow]
  | commit d =>
    simp only [exec] at h
    split at h <;> cases h
  | insertUser id username email passwordHash =>
    simp only [exec] at h
    split at h <;> cases h
  | _ => cases h

lemma handled_of_seen {c : (system Token).Config} {call : Call Token} {o : Op Token β}
    {k : Except Exn β → Handler Token (Response Token)}
    (hp : c.procs[i]? = some ⟨call, .await o k⟩) (hc : call.bumps = true)
    (hs : Seen (own i c.world.history) user) : user.id ∈ handled c i := by
  obtain ⟨ev, hev, hr⟩ := hs
  have hh : handled c i = (own i c.world.history).filterMap fun ev =>
      (readUser ev).map User.id := by
    unfold handled
    rw [hp]
    exact if_pos hc
  rw [hh, List.mem_filterMap]
  exact ⟨ev, hev, by simp [hr]⟩

lemma Run.fine {c : (system Token).Config} (h : Run base c) {call : Call Token} {o : Op Token β}
    {k : Except Exn β → Handler Token (Response Token)}
    (hp : c.procs[i]? = some ⟨call, .await o k⟩) :
    Fine call (own i c.world.history) ⟨i, o, (exec o c.world.state).1⟩ :=
  (h.traced.rest i _ hp _ fun _ ha => ⟨_, ha⟩).1

lemma Run.bump_fresh {c : (system Token).Config} (h : Run base c) {call : Call Token}
    {o : Op Token β} {k : Except Exn β → Handler Token (Response Token)}
    (hp : c.procs[i]? = some ⟨call, .await o k⟩) {d : Dirty User}
    (hd : bump ⟨i, o, (exec o c.world.state).1⟩ = some d) :
    call.bumps = true ∧ Seen (own i c.world.history) d.loaded ∧
      d.current.tokenVersion = storedVersion d.loaded.id c.world.state + 1 := by
  have hfine := h.fine hp
  cases o with
  | commit user =>
    cases hu : (c.world.state : State Token).users.update user with
    | none => simp [exec, hu, Auth.bump] at hd
    | some users =>
      simp only [exec, hu, Auth.bump] at hd
      split at hd
      · cases hd
      case isFalse hne =>
        cases hd
        rcases hfine with ⟨hc, hver, hseen, hclean⟩ | ⟨-, hver⟩
        · refine ⟨hc, hseen, ?_⟩
          rw [hver, h.unchanged i call _ k _ hp hc hseen hclean]
        · exact (hne hver).elim
  | insertUser => simp [Auth.bump] at hd
  | _ => cases hd

omit [DecidableEq Token] [Runtime] [Normalize] in
lemma payload_eq {raw : Claims} {expectedType : String} {p : JWTPayload}
    (h : payload raw expectedType = .ok p) : raw.sub = some p.sub ∧ p.ver = raw.ver.getD 0 := by
  obtain ⟨sub, type, ver, jti, iat, exp⟩ := raw
  unfold payload at h
  by_cases ht : type = some expectedType
  · cases sub <;> cases iat <;> cases exp <;> simp [ht] at h
    cases h
    exact ⟨rfl, rfl⟩
  · simp only [ht, if_true, ne_eq, not_false_eq_true] at h
    cases h

omit [DecidableEq Token] [Runtime] [Normalize] in
lemma Decodes.peek {token : Token} {secret expectedType : String} {p : JWTPayload}
    (h : Decodes token secret expectedType p) :
    (∃ now raw, Crypto.decode token secret now = .ok raw) ∧
      (Crypto.peek token).sub = some p.sub ∧ p.ver = (Crypto.peek token).ver.getD 0 := by
  obtain ⟨now, h⟩ := h
  unfold verified at h
  split at h
  case h_1 raw hd =>
    rw [Crypto.peek_decode hd]
    exact ⟨⟨now, raw, hd⟩, payload_eq h⟩
  case h_2 => cases h
  case h_3 => cases h

lemma Run.genuine_version {c : (system Token).Config} (h : Run base c) {token : Token}
    {p : JWTPayload} {secret expectedType : String} (hg : Genuine token c.world.history)
    (hd : Decodes token secret expectedType p) :
    ∃ id, Runtime.uuid p.sub = some id ∧ p.ver ≤ base id + bumpsOf id c.world.history := by
  obtain ⟨⟨now, raw, hraw⟩, hsub, hver⟩ := Decodes.peek hd
  obtain ⟨ev, hev, claims, hissued⟩ := hg _ _ _ hraw
  obtain ⟨before, hp, hc⟩ := h.chronicle.of_mem hev
  obtain ⟨hpeek, sub, ver, id, hs, hv, hid, hle⟩ := hc.issued token claims hissued
  rw [hpeek, hs, Option.some.injEq] at hsub
  rw [hpeek, hv, Option.getD_some] at hver
  refine ⟨id, hsub ▸ hid, ?_⟩
  have hmono := bumpsOf_le id hp
  omega

lemma Run.chronicle_step {c : (system Token).Config} (h : Run base c) {call : Call Token}
    {o : Op Token β} {k : Except Exn β → Handler Token (Response Token)}
    (hp : c.procs[i]? = some ⟨call, .await o k⟩) :
    Chronicle base c.world.history ⟨i, o, (exec o c.world.state).1⟩ where
  read user hr := by
    have hrow := exec_read hr
    refine ⟨h.canonical user (Table.mem_get? hrow), ?_⟩
    rw [← h.version user.id]
    simp [storedVersion, hrow]
  bump d hd := by
    obtain ⟨-, hseen, hver⟩ := h.bump_fresh hp hd
    obtain ⟨ev, hev, hr⟩ := hseen
    obtain ⟨before, -, hc⟩ := h.chronicle.of_mem (mem_own.mp hev).1
    exact ⟨(hc.read _ hr).1, by rw [hver, h.version]⟩
  issued token claims hi := by
    have hfine := h.fine hp
    cases o with
    | encode issuer claims' secret =>
      obtain ⟨⟨sub, ver, hsub, hver, hw⟩, hpeek⟩ := hfine
      cases hi
      refine ⟨hpeek _ rfl, sub, ver, ?_⟩
      have hseen : ∀ user, Seen (own i c.world.history) user →
          Runtime.uuid user.id = some user.id ∧
            user.tokenVersion ≤ base user.id + bumpsOf user.id c.world.history := by
        rintro user ⟨ev, hev, hr⟩
        obtain ⟨before, hb, hc⟩ := h.chronicle.of_mem (mem_own.mp hev).1
        obtain ⟨hid, hv⟩ := hc.read user hr
        have hmono := bumpsOf_le user.id hb
        exact ⟨hid, by omega⟩
      cases issuer with
      | login | register =>
        obtain ⟨user, hs, rfl, rfl⟩ := hw
        obtain ⟨hid, hle⟩ := hseen user hs
        exact ⟨user.id, hsub, hver, hid, hle⟩
      | refresh =>
        obtain ⟨-, user, -, ⟨hs, -⟩, rfl, rfl⟩ := hw
        obtain ⟨hid, hle⟩ := hseen user hs
        exact ⟨user.id, hsub, hver, hid, hle⟩
      | changePassword =>
        obtain ⟨user, ev, hev, hb, rfl, rfl⟩ := hw
        obtain ⟨before, after, hh⟩ := List.append_of_mem (mem_own.mp hev).1
        obtain ⟨hid, hv⟩ := (h.chronicle before ev after hh).bump user hb
        refine ⟨_, hsub, hver, hid, ?_⟩
        have hone : bumpsOf user.loaded.id [ev] = 1 := by simp [bumpsOf, hb]
        have hcount : bumpsOf user.loaded.id c.world.history =
            bumpsOf user.loaded.id before + (1 + bumpsOf user.loaded.id after) := by
          rw [hh, bumpsOf_append, ← List.singleton_append, bumpsOf_append, hone]
        omega
      | autoRefresh =>
        obtain ⟨token, p, ht, hd, rfl, rfl⟩ := hw
        have hcall : call ∈ c.calls := List.mem_of_getElem? (getElem?_calls hp)
        obtain ⟨id, hid, hle⟩ := h.genuine_version (h.genuine call hcall token ht) hd
        exact ⟨id, hsub, hver, hid, hle⟩
    | _ => cases hi

omit [Normalize] in
lemma canonical_exec {o : Op Token β} {call : Call Token} {s : State Token}
    (hfine : Fine call l ⟨i, o, (exec o s).1⟩)
    (h : ∀ row ∈ s.users.table.rows, Runtime.uuid row.id = some row.id) :
    ∀ row ∈ (exec o s).2.users.table.rows, Runtime.uuid row.id = some row.id := by
  cases o with
  | insertUser id username email passwordHash =>
    cases hi : s.users.insert ⟨id, username, email, passwordHash, s.now, none, true, 0⟩ with
    | none => simpa [exec, hi] using h
    | some users =>
      simp only [exec, hi, Table.mem_insert (Users.table_insert hi)]
      rintro row (hrow | rfl)
      · exact h row hrow
      · exact hfine
  | commit d =>
    cases hu : s.users.update d with
    | none => simpa [exec, hu] using h
    | some users =>
      simp only [exec, hu, (Users.table_update hu).2, Table.rows_modify, List.mem_map]
      rintro row ⟨row', hrow', rfl⟩
      split
      · exact h row' hrow'
      · exact h row' hrow'
  | _ => exact h

lemma Run.unchanged_event {c : (system Token).Config} (h : Run base c) (hn : OneBumpAtATime c)
    {call : Call Token} {o : Op Token β} {k : Except Exn β → Handler Token (Response Token)}
    (hp : c.procs[i]? = some ⟨call, .await o k⟩) {r : Except Exn β} {s : State Token}
    (hver : ∀ id, storedVersion id s = storedVersion id c.world.state + bumpsOf id [⟨i, o, r⟩])
    (hbump : ∀ d, Auth.bump ⟨i, o, r⟩ = some d →
      call.bumps = true ∧ Seen (own i c.world.history) d.loaded)
    (hread : ∀ user, readUser ⟨i, o, r⟩ = some user →
      user.tokenVersion = storedVersion user.id c.world.state)
    (j : ℕ) (call' : Call Token) {γ : Type} (o' : Op Token γ)
    (k' : Except Exn γ → Handler Token (Response Token)) (user : User)
    (hp' : (c.procs.set i ⟨call, k r⟩)[j]? = some ⟨call', .await o' k'⟩) (hc : call'.bumps = true)
    (hs : Seen (own j (c.world.history ++ [⟨i, o, r⟩])) user)
    (hclean : Clean (own j (c.world.history ++ [⟨i, o, r⟩]))) :
    user.tokenVersion = storedVersion user.id s := by
  rw [hver]
  by_cases hij : i = j
  · subst hij
    rw [own_append_self] at hs hclean
    have hcount : bumpsOf user.id [⟨i, o, r⟩] = 0 := by
      simp [bumpsOf, hclean _ (List.mem_append_right _ (List.mem_singleton_self _))]
    obtain ⟨hi, -⟩ := List.getElem?_eq_some_iff.mp hp
    rw [List.getElem?_set_self hi] at hp'
    obtain rfl : call = call' := congrArg Proc.call (Option.some.inj hp')
    obtain ⟨ev, hev, hr⟩ := hs
    rcases List.mem_append.mp hev with hev | hev
    · rw [h.unchanged i call o k user hp hc ⟨ev, hev, hr⟩ fun ev hev =>
        hclean ev (List.mem_append_left _ hev)]
      simp [hcount]
    · obtain rfl := List.mem_singleton.mp hev
      rw [hread user hr]
      simp [hcount]
  · rw [own_append_of_ne hij] at hs hclean
    rw [List.getElem?_set_ne hij] at hp'
    rw [h.unchanged j call' o' k' user hp' hc hs hclean]
    have hcount : bumpsOf user.id [⟨i, o, r⟩] = 0 := by
      cases hb : Auth.bump ⟨i, o, r⟩ with
      | none => simp [bumpsOf, hb]
      | some d =>
        have hne : d.loaded.id ≠ user.id := by
          intro hid
          obtain ⟨hbumps, hseen⟩ := hbump d hb
          have hi := (List.getElem?_eq_some_iff.mp hp).1
          have hj := (List.getElem?_eq_some_iff.mp hp').1
          refine hn i hi j hj hij _ (handled_of_seen hp hbumps hseen) ?_
          exact hid ▸ handled_of_seen hp' hc hs
        simp [bumpsOf, hb, hne]
    simp [hcount]

end Revocation

end

end Askit.Auth
