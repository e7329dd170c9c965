import Askit.Auth.Revocation
import Askit.Interleaving.Sequential

/-! A bump of a user's token version is a read, a computation and a write. It is lost when the
version that it was computed from is not the stored one any more. -/

namespace Askit.Auth

open Interleaving Machine Coro Tables
open Game (UUID Time Runtime Dirty)

section

variable {Token : Type} [DecidableEq Token] [Crypto Token] [Runtime] [Normalize]

/-- The row that a change of the password or a deactivation has committed. -/
def bumpCommitted (calls : List (Call Token)) : Ev Token → Option (Dirty User)
  | ⟨i, .commit user, .ok _⟩ => if calls[i]?.any Call.bumps then some user else none
  | _ => none

/-- How many changes of the password and deactivations of the user have committed. -/
def committedBumps (id : UUID) (c : (system Token).Config) : ℕ :=
  c.world.history.countP fun ev => (bumpCommitted c.calls ev).any fun user => user.loaded.id = id

/-- A change of the password or a deactivation that commits finds the version that it has loaded. -/
def bumpsFresh : (system Token).Transition → Bool
  | ⟨c, .run i⟩ =>
    match c.procs[i]? with
    | some ⟨_, .await o _⟩ => (bumpCommitted c.calls ⟨i, o, (exec o c.world.state).1⟩).all fun d =>
        d.loaded.tokenVersion = Revocation.storedVersion d.loaded.id c.world.state
    | _ => true
  | _ => true

def RefusesReissued (c : (system Token).Config) : Prop :=
  ∀ before ev d between ev' d' after, c.world.history = before ++ ev :: between ++ ev' :: after →
    bumpCommitted c.calls ev = some d → bumpCommitted c.calls ev' = some d' →
      d'.loaded.id = d.loaded.id →
    ∀ claims secret token, ⟨ev.pid, .encode .changePassword claims secret, .ok token⟩ ∈
      c.world.history →
      ∀ user s, (getCurrentUser (some token)).alone exec c.world.state ≠ (.ok user, s)

/-- The versions have grown by the number of changes of the password and deactivations that have
committed, and each of these that has succeeded has committed. -/
structure GrownByBumps (base : UUID → ℤ) (c : (system Token).Config) : Prop where
  grown : ∀ id, Revocation.storedVersion id c.world.state = base id + committedBumps id c
  commits : ∀ (i : ℕ) call response, c.procs[i]? = some ⟨call, .done (.ok response)⟩ →
    Call.bumps call = true →
    ∃ ev ∈ own i c.world.history, (bumpCommitted c.calls ev).isSome
  refuses : RefusesReissued c

namespace Bumps

structure Chronicle (base : UUID → ℤ) (before : List (Ev Token)) (ev : Ev Token) : Prop where
  read : ∀ user, readUser ev = some user → Runtime.uuid user.id = some user.id
  bump : ∀ d, bump ev = some d → Runtime.uuid d.loaded.id = some d.loaded.id ∧
    d.current.tokenVersion = base d.loaded.id + bumpsOf d.loaded.id before + 1

structure Counted (base : UUID → ℤ) (c : (system Token).Config) : Prop where
  traced : c.Traced Fine Renewed
  labelled : c.Labelled
  canonical : ∀ row ∈ (c.world.state : State Token).users.table.rows,
    Runtime.uuid row.id = some row.id
  version : ∀ id, Revocation.storedVersion id c.world.state = base id + bumpsOf id c.world.history
  chronicle : Recorded (Chronicle base) c.world.history

variable {base : UUID → ℤ} {c : (system Token).Config} {β : Type} {i : ℕ} {user : User}

omit [DecidableEq Token] [Normalize] in
lemma bumpCommitted_eq {calls : List (Call Token)} {l : List (Ev Token)} {ev : Ev Token}
    {call : Call Token} (hcall : calls[ev.pid]? = some call) (hfine : Fine call l ev) :
    bumpCommitted calls ev = bump ev := by
  obtain ⟨i, o, r⟩ := ev
  cases o with
  | commit d =>
    cases r with
    | error e => rfl
    | ok _ =>
      rcases hfine with ⟨hbumps, hver, -, -⟩ | ⟨hno, hver⟩
      · simp [bumpCommitted, bump, hcall, hbumps, hver]
      · simp [bumpCommitted, bump, hcall, hno, hver]
  | _ => cases r <;> rfl

lemma bumpCommitted_of_mem (h : c.Traced Fine Renewed) {ev : Ev Token}
    (hev : ev ∈ c.world.history) :
    bumpCommitted c.calls ev = bump ev := by
  obtain ⟨before, -, call, hcall, hfine⟩ := h.history.of_mem hev
  exact bumpCommitted_eq hcall hfine

lemma committedBumps_eq (h : c.Traced Fine Renewed) (id : UUID) :
    committedBumps id c = bumpsOf id c.world.history :=
  List.countP_congr fun ev hev => by rw [bumpCommitted_of_mem h hev]

namespace Counted

lemma fine (h : Counted base c) {call : Call Token} {o : Op Token β}
    {k : Except Exn β → Handler Token (Response Token)}
    (hp : c.procs[i]? = some ⟨call, .await o k⟩) :
    Fine call (own i c.world.history) ⟨i, o, (exec o c.world.state).1⟩ :=
  (h.traced.rest i _ hp _ fun _ ha => ⟨_, ha⟩).1

lemma bump_succ (h : Counted base c) {call : Call Token} {o : Op Token β}
    {k : Except Exn β → Handler Token (Response Token)}
    (hp : c.procs[i]? = some ⟨call, .await o k⟩) {d : Dirty User}
    (hd : bump ⟨i, o, (exec o c.world.state).1⟩ = some d) :
    d.current.tokenVersion = d.loaded.tokenVersion + 1 ∧ Seen (own i c.world.history) d.loaded := by
  have hfine := h.fine hp
  cases o with
  | commit user =>
    cases hu : (c.world.state : State Token).users.update user with
    | none => simp [exec, hu, Auth.bump] at hd
    | some users =>
      simp only [exec, hu, Auth.bump] at hd
      split at hd
      · cases hd
      case isFalse hne =>
        cases hd
        rcases hfine with ⟨-, hver, hseen, -⟩ | ⟨-, hver⟩
        · exact ⟨hver, hseen⟩
        · exact (hne hver).elim
  | insertUser => simp [Auth.bump] at hd
  | _ => cases hd

omit [Normalize] in
lemma stored_of_bump {o : Op Token β} {s : State Token} {d : Dirty User}
    (hd : bump ⟨i, o, (exec o s).1⟩ = some d) :
    Revocation.storedVersion d.loaded.id (exec o s).2 = d.current.tokenVersion := by
  cases o with
  | commit user =>
    cases hu : s.users.update user with
    | none => simp [exec, hu, Auth.bump] at hd
    | some users =>
      have hx : exec (.commit user) s = (.ok (), { s with users := users }) := by simp [exec, hu]
      rw [hx] at hd ⊢
      simp only [Auth.bump] at hd
      split at hd
      · cases hd
      case isFalse hne =>
        cases hd
        rw [Revocation.storedVersion_update hu, if_pos ⟨rfl, hne⟩]
  | insertUser => simp [Auth.bump] at hd
  | _ => cases hd

lemma version_iff (h : Counted base c) (a : (system Token).Act) :
    (∀ id, Revocation.storedVersion id (Machine.step a c).world.state =
        base id + bumpsOf id (Machine.step a c).world.history) ↔ bumpsFresh ⟨c, a⟩ = true := by
  cases a with
  | spawn call => exact ⟨fun _ => rfl, fun _ => h.version⟩
  | env e => exact ⟨fun _ => rfl, fun _ => h.version⟩
  | fault i e =>
    refine ⟨fun _ => rfl, fun _ id => ?_⟩
    rcases hp : c.procs[i]? with _ | ⟨call, r | ⟨o, k⟩⟩
    · simpa [Machine.step, hp] using h.version id
    · simpa [Machine.step, hp] using h.version id
    · have hb := (Revocation.of_error i o e).2.1
      simpa [Machine.step, hp, Revocation.bumpsOf_append, bumpsOf, hb] using h.version id
  | run i =>
    rcases hp : c.procs[i]? with _ | ⟨call, r | ⟨o, k⟩⟩
    · simpa [Machine.step, bumpsFresh, hp] using h.version
    · simpa [Machine.step, bumpsFresh, hp] using h.version
    · rw [step_run hp rfl]
      simp only [bumpsFresh, hp, bumpCommitted_eq (getElem?_calls hp) (h.fine hp),
        Option.all_eq_true,
        decide_eq_true_eq, World.perform_history, World.perform_state, Revocation.bumpsOf_append]
      push_cast
      constructor
      · intro hversion d hd
        have hafter := hversion d.loaded.id
        have hcurrent := stored_of_bump hd
        have hone : bumpsOf d.loaded.id [⟨i, o, (exec o c.world.state).1⟩] = 1 := by
          simp [bumpsOf, hd]
        have hbefore := h.version d.loaded.id
        have hsucc := (h.bump_succ hp hd).1
        change Revocation.storedVersion d.loaded.id (exec o c.world.state).2 = _ at hafter
        change _ = _ + (_ + (bumpsOf d.loaded.id [⟨i, o, (exec o c.world.state).1⟩] : ℤ)) at hafter
        rw [hcurrent, hone] at hafter
        push_cast at hafter
        omega
      · intro hfresh id
        have hv := Revocation.exec_version (o := o) (s := c.world.state) i
          (fun d hd => by rw [(h.bump_succ hp hd).1, hfresh d hd]) id
        rw [← add_assoc, ← h.version id]
        exact hv

lemma chronicle_step (h : Counted base c) {call : Call Token} {o : Op Token β}
    {k : Except Exn β → Handler Token (Response Token)}
    (hp : c.procs[i]? = some ⟨call, .await o k⟩) (hfresh : bumpsFresh ⟨c, .run i⟩ = true) :
    Chronicle base c.world.history ⟨i, o, (exec o c.world.state).1⟩ where
  read user hr := h.canonical user (Table.mem_get? (Revocation.exec_read hr))
  bump d hd := by
    simp only [bumpsFresh, hp, bumpCommitted_eq (getElem?_calls hp) (h.fine hp), Option.all_eq_true,
      decide_eq_true_eq] at hfresh
    obtain ⟨hsucc, ev, hev, hr⟩ := h.bump_succ hp hd
    obtain ⟨before, -, hc⟩ := h.chronicle.of_mem (mem_own.mp hev).1
    refine ⟨hc.read _ hr, ?_⟩
    rw [hsucc, hfresh d hd, h.version]

lemma step [CanonicalIds] {t : (system Token).Transition} (h : Counted base t.before)
    (hfresh : bumpsFresh t = true) : Counted base t.after := by
  have htraced := h.traced.step h.labelled Revocation.code_follows t.act
  have hlabelled := h.labelled.step t.act
  have hversion := (h.version_iff t.act).mpr hfresh
  obtain ⟨c, a⟩ := t
  simp only [Transition.after] at htraced hlabelled hversion ⊢
  have hm := step_moves a c
  generalize Machine.step a c = d at hm htraced hlabelled hversion
  cases hm with
  | idle => exact h
  | spawn call s admitted =>
    cases admitted
    exact ⟨htraced, hlabelled, h.canonical, hversion, h.chronicle⟩
  | run i call o k pending ready =>
    exact ⟨htraced, hlabelled, Revocation.canonical_exec (h.fine pending) h.canonical, hversion,
      h.chronicle.append (h.chronicle_step pending hfresh)⟩
  | fault i e call o k pending =>
    obtain ⟨hr, hb, -⟩ := Revocation.of_error i o e
    exact ⟨htraced, hlabelled, h.canonical, hversion,
      h.chronicle.append ⟨by simp [hr], by simp [hb]⟩⟩
  | env e => exact ⟨htraced, hlabelled, h.canonical, hversion, h.chronicle⟩

lemma start {s : State Token} (hs : ∀ row ∈ s.users.table.rows, Runtime.uuid row.id = some row.id) :
    Counted (fun id => Revocation.storedVersion id s) (start s : (system Token).Config) where
  traced := ⟨fun _ _ h => (by cases h), recorded_nil⟩
  labelled := labelled_start s
  canonical := hs
  version id := by simp [Machine.start, bumpsOf]
  chronicle := recorded_nil

lemma bump_unique (h : Counted base c) {before after : List (Ev Token)} {d : Dirty User}
    {first ev : Ev Token} (hh : c.world.history = before ++ first :: after)
    (hd : bump first = some d) (hev : ev ∈ own first.pid c.world.history) {d' : Dirty User}
    (hd' : bump ev = some d') : d' = d := by
  obtain ⟨hmem, hpid⟩ := mem_own.mp hev
  have hclean : ∀ l e r, c.world.history = l ++ e :: r → (Auth.bump e).isSome →
      Clean (own e.pid l) := by
    intro l e r hh hb
    obtain ⟨call, -, hfine⟩ := h.traced.history l e r hh
    obtain ⟨x, hx⟩ := Option.isSome_iff_exists.mp hb
    obtain ⟨j, o, res⟩ := e
    cases o with
    | commit u =>
      cases res with
      | error e => cases hx
      | ok a =>
        rcases hfine with ⟨-, -, -, hclean⟩ | ⟨-, hver⟩
        · exact hclean
        · simp [Auth.bump, hver] at hx
    | _ => cases res <;> cases hx
  rw [hh] at hmem
  rcases List.mem_append.mp hmem with hmem | hmem
  · have hnone := hclean before _ after hh (by simp [hd]) ev (mem_own.mpr ⟨hmem, hpid⟩)
    rw [hnone] at hd'
    cases hd'
  rcases List.mem_cons.mp hmem with rfl | hmem
  · rw [hd] at hd'
    exact (Option.some.inj hd').symm
  · obtain ⟨between, rest, rfl⟩ := List.append_of_mem hmem
    have hnone := hclean (before ++ first :: between) ev rest (by simp [hh])
      (by simp [hd']) first (mem_own.mpr ⟨by simp, hpid.symm⟩)
    rw [hnone] at hd
    cases hd

end Counted

omit [Normalize] in
lemma getCurrentUser_alone {token : Token} {s t : State Token}
    (h : (getCurrentUser (some token)).alone exec s = (.ok user, t)) :
    ∃ payload id, Decodes token (Crypto.accessSecret Token) "access" payload ∧
      Runtime.uuid payload.sub = some id ∧ s.users.table.get? id = some user ∧
      payload.ver = user.tokenVersion := by
  have hdecode : (verifyAccessToken token).alone exec s =
      (verified token (Crypto.accessSecret Token) "access" s.now, s) := rfl
  unfold getCurrentUser at h
  dsimp only at h
  rw [alone_bind, hdecode] at h
  cases hv : verified token (Crypto.accessSecret Token) "access" s.now with
  | error e => simp [hv] at h
  | ok payload =>
    simp only [hv, alone_require_bind] at h
    split_ifs at h
    case neg => cases h
    cases hid : Runtime.uuid payload.sub with
    | none => simp [hid] at h
    | some id =>
      have hread : exec (.getUserById id) s = (.ok (s.users.table.get? id), s) := rfl
      simp only [hid, alone_perform_bind hread] at h
      cases hrow : s.users.table.get? id with
      | none => simp [hrow] at h
      | some row =>
        simp only [hrow, alone_require_bind] at h
        split_ifs at h with hver hactive
        · cases h
          exact ⟨payload, id, ⟨_, hv⟩, hid, hrow, hver⟩
        · cases h
        · cases h

lemma Counted.refusesReissued (h : Counted base c) : RefusesReissued c := by
  intro before first d between second d' after hh hd hd' hsame claims secret token hissued
    user s hadmits
  rw [bumpCommitted_of_mem h.traced (by simp [hh])] at hd hd'
  -- what the token carries is what the first bump has computed
  obtain ⟨l, r, hlr⟩ := List.append_of_mem hissued
  obtain ⟨call, -, hfine⟩ := h.traced.history l _ r hlr
  obtain ⟨⟨sub, ver, hsub, hver, u, ev, hev, hbump, rfl, rfl⟩, hpeek⟩ := hfine
  have hown : ev ∈ own first.pid c.world.history := by
    obtain ⟨hmem, hpid⟩ := mem_own.mp hev
    exact mem_own.mpr ⟨hlr ▸ List.mem_append_left _ hmem, hpid⟩
  have hfirst : c.world.history = before ++ first :: (between ++ second :: after) := by simp [hh]
  obtain rfl := h.bump_unique hfirst hd hown hbump
  obtain ⟨hcanonical, hcomputed⟩ := (h.chronicle before _ _ hfirst).bump u hd
  -- and the version that is stored is newer
  have hstored := h.version u.loaded.id
  have hone : bumpsOf u.loaded.id [first] = 1 := by simp [bumpsOf, hd]
  have htwo : bumpsOf u.loaded.id [second] = 1 := by simp [bumpsOf, hd', hsame]
  have hcount : bumpsOf u.loaded.id c.world.history = bumpsOf u.loaded.id before +
      (1 + (bumpsOf u.loaded.id between + (1 + bumpsOf u.loaded.id after))) := by
    rw [hfirst, Revocation.bumpsOf_append, ← List.singleton_append, Revocation.bumpsOf_append, hone,
      Revocation.bumpsOf_append, ← List.singleton_append, Revocation.bumpsOf_append, htwo]
  obtain ⟨payload, id, hdecodes, hid, hrow, hread⟩ := getCurrentUser_alone hadmits
  obtain ⟨-, hpsub, hpver⟩ := Revocation.Decodes.peek hdecodes
  rw [hpeek token rfl] at hpsub hpver
  rw [hsub, Option.some.injEq] at hpsub
  rw [hver, Option.getD_some] at hpver
  rw [← hpsub, hcanonical, Option.some.injEq] at hid
  subst hid
  simp only [Revocation.storedVersion, hrow, Option.map_some, Option.getD_some] at hstored
  omega

lemma Counted.grownByBumps (h : Counted base c) : GrownByBumps base c where
  grown id := by rw [h.version, committedBumps_eq h.traced]
  commits i call response hp hbumps := by
    have hended := h.traced.rest i _ hp
    have hcommitted : ∃ ev ∈ own i c.world.history, (Auth.bump ev).isSome := by
      cases call with
      | changePassword | deactivate => exact hended
      | _ => cases hbumps
    obtain ⟨ev, hev, hbump⟩ := hcommitted
    exact ⟨ev, hev, by rwa [bumpCommitted_of_mem h.traced (mem_own.mp hev).1]⟩
  refuses := h.refusesReissued

end Bumps

/-- In every run the token versions grow by the number of changes of the password and deactivations
that commit, and each of them ends the tokens that another one has re-issued, if and only if none of
them commits when the version that it has loaded is not stored any more. -/
theorem versions_count_bumps_iff [CanonicalIds] (s : State Token)
    (hs : ∀ row ∈ s.users.table.rows, Runtime.uuid row.id = some row.id)
    (acts : List (system Token).Act) :
    (∀ t ∈ transitions (start s) acts,
        GrownByBumps (fun id => Revocation.storedVersion id s) t.after) ↔
      ∀ t ∈ transitions (start s) acts, bumpsFresh t = true := by
  have hstart : Bumps.Counted (fun id => Revocation.storedVersion id s)
      (start s : (system Token).Config) :=
    Bumps.Counted.start hs
  constructor
  · intro h t ht
    have hfresh : ∀ t : (system Token).Transition,
        GrownByBumps (fun id => Revocation.storedVersion id s) t.after →
        Bumps.Counted (fun id => Revocation.storedVersion id s) t.before → bumpsFresh t = true := by
      intro t hg hb
      have htraced := hb.traced.step hb.labelled Revocation.code_follows t.act
      exact (hb.version_iff t.act).mp fun id => (Bumps.committedBumps_eq htraced id) ▸ hg.grown id
    have hb := ((invariant (fun t hg hb => hb.step (hfresh t hg hb)) hstart acts h).1 t ht).1
    exact hfresh t (h t ht) hb
  · intro h t ht
    have hrun := invariant (P := fun t => bumpsFresh t = true)
      (fun t hfresh (hb : Bumps.Counted (fun id => Revocation.storedVersion id s) t.before) =>
        hb.step hfresh) hstart acts h
    exact (hrun.1 t ht).2.grownByBumps

end

section Sample

attribute [local instance] Runtime.ascii Crypto.transparent Normalize.plain

def adaCookies : Cookies (Claims × String) :=
  ⟨some (⟨some "ada", some "access", some 1, some "", some 0, some 3600⟩, "access"), none⟩

/-- A change of the password, and a deactivation with the cookie that it has re-issued. -/
def successiveRun : List (system (Claims × String)).Act :=
  .spawn (Call.changePassword adaCookies "pw" "new") :: runs 0 20 ++
    .spawn (Call.deactivate ⟨some (⟨some "ada", some "access", some 2, some "x", some 0, some 3600⟩,
      "access"), none⟩) :: runs 1 20

theorem versions_count_bumps_iff_successive :
    (∀ t ∈ transitions (start Sample.state) successiveRun, bumpsFresh t = true) ∧
      ∀ t ∈ transitions (start Sample.state) successiveRun,
        GrownByBumps (fun id => Revocation.storedVersion id Sample.state) t.after :=
  ⟨by decide +kernel, (@versions_count_bumps_iff _ _ _ _ _ ⟨fun _ => rfl⟩ Sample.state (by decide)
    successiveRun).mpr (by decide +kernel)⟩

/-- Two changes of the password are under way when the first one commits. -/
def racedRun : List (system (Claims × String)).Act :=
  .spawn (Call.changePassword adaCookies "pw" "new") ::
    .spawn (Call.changePassword adaCookies "pw" "newer") :: (runs 0 5 ++ runs 1 20)

theorem raced_bump_is_lost :
    committedBumps "ada" (run (racedRun ++ [.run 0]) (start Sample.state)) = 2 ∧
      ¬∀ t ∈ transitions (start Sample.state) (racedRun ++ [.run 0]),
        GrownByBumps (fun id => Revocation.storedVersion id Sample.state) t.after := by
  refine ⟨by decide +kernel, fun h => ?_⟩
  have hlast := (after_last (P := GrownByBumps fun id => Revocation.storedVersion id Sample.state)
    h).grown "ada"
  exact absurd hlast (by decide +kernel)

end Sample

end Askit.Auth
