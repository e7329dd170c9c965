import Askit.Auth.Chronicle

/-! A change of the password or a deactivation ends all tokens issued before it, and all that are
ever derived from them. -/

namespace Askit.Auth

open Interleaving Machine Coro Tables
open Game (UUID Time Runtime Dirty)

section

variable {Token : Type}
variable {l l' l'' : List (Ev Token)} {user : User} {i : ℕ}
variable [DecidableEq Token] [Crypto Token] [Runtime] [Normalize]

namespace Revocation

variable {base : UUID → ℤ}

omit [DecidableEq Token] [Crypto Token] [Runtime] [Normalize] in
lemma of_error (i : ℕ) (o : Op Token β) (e : Exn) :
    readUser ⟨i, o, .error e⟩ = none ∧ bump ⟨i, o, .error e⟩ = none ∧
      issued ⟨i, o, .error e⟩ = none := by
  cases o <;> exact ⟨rfl, rfl, rfl⟩

lemma Run.step [CanonicalIds] {t : (system Token).Transition} (h : Run base t.before)
    (hu : Unforged t) (hn : OneBumpAtATime t.before) : Run base t.after := by
  have htraced := h.traced.step h.labelled code_follows t.act
  have hlabelled := h.labelled.step t.act
  have hprefix := history_grows t.act t.before
  have hgenuine : ∀ call ∈ (Machine.step t.act t.before).calls,
      ∀ token ∈ (Call.cookies call).refreshToken,
        Genuine token (Machine.step t.act t.before).world.history := by
    intro call hc token ht
    rcases calls_step t.act t.before with hcalls | ⟨call', hact, hcalls⟩
    · exact (h.genuine call (hcalls ▸ hc) token ht).mono hprefix
    · rcases List.mem_append.mp (hcalls ▸ hc) with hold | hnew
      · exact (h.genuine call hold token ht).mono hprefix
      · obtain rfl : call = call' := List.mem_singleton.mp hnew
        obtain ⟨c, a⟩ := t
        obtain rfl : a = .spawn call := hact
        exact (hu.genuine token ht).mono hprefix
  obtain ⟨c, a⟩ := t
  simp only [Transition.after] at htraced hlabelled hgenuine ⊢
  have hm := step_moves a c
  generalize Machine.step a c = d at hm htraced hlabelled hgenuine
  cases hm with
  | idle => exact h
  | spawn call s admitted =>
    cases admitted
    refine ⟨htraced, hlabelled, h.canonical, h.version, h.chronicle, hgenuine, ?_⟩
    intro i call' β o k user hp hc hs hclean
    rcases Nat.lt_trichotomy i c.procs.length with hlt | rfl | hgt
    · rw [List.getElem?_append_left hlt] at hp
      exact h.unchanged i call' o k user hp hc hs hclean
    · obtain ⟨ev, hev, -⟩ := hs
      rw [own_eq_nil fun ev hev => Nat.ne_of_lt (h.labelled ev hev)] at hev
      cases hev
    · rw [List.getElem?_eq_none (by simp; omega)] at hp
      cases hp
  | run i call o k pending ready =>
    refine ⟨htraced, hlabelled, canonical_exec (h.fine pending) h.canonical, fun id => ?_,
      h.chronicle.append (h.chronicle_step pending), hgenuine, ?_⟩
    · have hv := exec_version (o := o) (s := c.world.state) i
        (fun d hd => (h.bump_fresh pending hd).2.2) id
      rw [World.perform_history, bumpsOf_append]
      push_cast
      rw [← add_assoc, ← h.version id]
      exact hv
    · apply h.unchanged_event hn pending
      · exact exec_version i fun d hd => (h.bump_fresh pending hd).2.2
      · exact fun d hd => ⟨(h.bump_fresh pending hd).1, (h.bump_fresh pending hd).2.1⟩
      · intro user hr
        have hrow := exec_read hr
        simp [storedVersion, hrow]
  | fault i e call o k pending =>
    obtain ⟨hr, hb, hi⟩ := of_error i o e
    have hcount : ∀ id, bumpsOf id [⟨i, o, .error e⟩] = 0 := fun id => by simp [bumpsOf, hb]
    refine ⟨htraced, hlabelled, h.canonical, fun id => ?_, h.chronicle.append ⟨?_, ?_, ?_⟩,
      hgenuine, ?_⟩
    · rw [World.fail_history, bumpsOf_append, hcount]
      exact h.version id
    · simp [hr]
    · simp [hb]
    · simp [hi]
    · apply h.unchanged_event hn pending
      · simp [hcount]
      · simp [hb]
      · simp [hr]
  | env e => exact ⟨htraced, hlabelled, h.canonical, h.version, h.chronicle, hgenuine, h.unchanged⟩

lemma run_start {s : State Token}
    (hs : ∀ row ∈ s.users.table.rows, Runtime.uuid row.id = some row.id) :
    Run (fun id => storedVersion id s) (start s : (system Token).Config) where
  traced := ⟨fun _ _ h => (by cases h), recorded_nil⟩
  labelled := labelled_start s
  canonical := hs
  version id := by simp [start, bumpsOf]
  chronicle := recorded_nil
  genuine call hc := by cases hc
  unchanged i call β o k user hp := by cases hp

/-- A token and all that is derived from it name the same user and carry the same version. -/
structure Carries (token : Token) (id : UUID) (ver : ℤ) : Prop where
  sub : (Crypto.peek token).sub.bind Runtime.uuid = some id
  ver : (Crypto.peek token).ver = some ver

omit [DecidableEq Token] [Normalize] in
lemma Carries.decodes {token : Token} {id : UUID} {ver : ℤ} (h : Carries token id ver)
    {secret expectedType : String} {p : JWTPayload} (hd : Decodes token secret expectedType p) :
    Runtime.uuid p.sub = some id ∧ p.ver = ver := by
  obtain ⟨-, hsub, hver⟩ := Decodes.peek hd
  have hid := h.sub
  rw [hsub, Option.bind_some] at hid
  rw [hver, h.ver]
  exact ⟨hid, rfl⟩

omit [DecidableEq Token] [Normalize] in
lemma Carries.vouches {token : Token} {id : UUID} {ver : ℤ} (h : Carries token id ver)
    {secret expectedType : String} (hv : Vouches token secret expectedType l user) :
    Seen l user ∧ user.id = id ∧ user.tokenVersion = ver := by
  obtain ⟨hs, p, hd, hid, hver⟩ := hv
  obtain ⟨hid', hver'⟩ := h.decodes hd
  rw [hid, Option.some.injEq] at hid'
  exact ⟨hs, hid', hver.symm.trans hver'⟩

lemma Run.carries {c : (system Token).Config} (h : Run base c) {token token' : Token} {id : UUID}
    {ver : ℤ} (hc : Carries token id ver) (hd : Derived c token token') :
    Carries token' id ver := by
  induction hd with
  | self => exact hc
  | @renew t t' call ev derived request presented event renewal ih =>
    obtain ⟨before, after, hh⟩ := List.append_of_mem event
    obtain ⟨call', hcall, hfine⟩ := h.traced.history before ev after hh
    obtain rfl : call = call' := Option.some.inj (request.symm.trans hcall)
    have hwarrant : ∃ sub, (Crypto.peek t').sub = some sub ∧ (Crypto.peek t').ver = some ver ∧
        Runtime.uuid sub = some id := by
      obtain ⟨j, o, r⟩ := ev
      cases o with
      | encode issuer claims secret =>
        obtain ⟨⟨sub, ver', hsub, hver, hw⟩, hpeek⟩ := hfine
        cases r with
        | error e => cases issuer <;> cases renewal
        | ok token =>
          cases issuer with
          | autoRefresh =>
            cases renewal
            obtain ⟨presented', p, ht, hd, rfl, rfl⟩ := hw
            obtain rfl : t = presented' := Option.some.inj (presented.symm.trans ht)
            obtain ⟨hid, hv⟩ := ih.decodes hd
            rw [hpeek _ rfl]
            exact ⟨_, hsub, hv ▸ hver, hid⟩
          | refresh =>
            cases renewal
            obtain ⟨presented', user, ht, hvouch, rfl, rfl⟩ := hw
            obtain rfl : t = presented' := Option.some.inj (presented.symm.trans ht)
            obtain ⟨⟨e, he, hr⟩, hid, hv⟩ := ih.vouches hvouch
            have hmem : e ∈ c.world.history := hh ▸ List.mem_append_left _ (mem_own.mp he).1
            obtain ⟨_, -, hread⟩ := h.chronicle.of_mem hmem
            rw [hpeek _ rfl]
            exact ⟨_, hsub, hv ▸ hver, hid ▸ (hread.read user hr).1⟩
          | register | login | changePassword => cases renewal
      | _ => cases renewal
    obtain ⟨sub, hsub, hver, hid⟩ := hwarrant
    exact ⟨by rw [hsub]; exact hid, hver⟩

lemma Run.read_after {c : (system Token).Config} (h : Run base c) {before after : List (Ev Token)}
    {j : ℕ} {d : Dirty User} {call : Call Token}
    (hh : c.world.history = before ++ ⟨j, .commit d, .ok ()⟩ :: after)
    (hj : c.calls[j]? = some call) (hbumps : call.bumps = true)
    (hnone : ∀ ev ∈ before, ev.pid = i → readUser ev = none)
    (hs : Seen (own i c.world.history) user) (hid : user.id = d.loaded.id) :
    base d.loaded.id + bumpsOf d.loaded.id before < user.tokenVersion := by
  have hbump : bump (⟨j, .commit d, .ok ()⟩ : Ev Token) = some d := by
    obtain ⟨call', hcall, hfine⟩ := h.traced.history before _ after hh
    obtain rfl : call = call' := Option.some.inj (hj.symm.trans hcall)
    rcases hfine with ⟨-, hver, -, -⟩ | ⟨hno, -⟩
    · exact if_neg (by omega)
    · rw [hbumps] at hno
      cases hno
  obtain ⟨ev, hev, hr⟩ := hs
  obtain ⟨hmem, hpid⟩ := mem_own.mp hev
  rw [hh] at hmem
  rcases List.mem_append.mp hmem with hmem | hmem
  · rw [hnone ev hmem hpid] at hr
    cases hr
  rcases List.mem_cons.mp hmem with rfl | hmem
  · cases hr
  obtain ⟨between, rest, rfl⟩ := List.append_of_mem hmem
  have hread := (h.chronicle (before ++ ⟨j, .commit d, .ok ()⟩ :: between) ev rest
    (by simp [hh])).read user hr
  have hone : bumpsOf d.loaded.id [(⟨j, .commit d, .ok ()⟩ : Ev Token)] = 1 := by
    simp [bumpsOf, hbump]
  rw [hread.2, hid, bumpsOf_append, ← List.singleton_append, bumpsOf_append, hone]
  push_cast
  omega

end Revocation

/-- In a run in which the clients forge no tokens and no two changes of the password or
deactivations of one user overlap, each of them ends all tokens of the user. -/
theorem bump_revokes_all_tokens [CanonicalIds] (s : State Token)
    (hs : ∀ row ∈ s.users.table.rows, Runtime.uuid row.id = some row.id)
    (acts : List (system Token).Act)
    (hu : ∀ t ∈ transitions (start s) acts, Unforged t)
    (hn : ∀ t ∈ transitions (start s) acts, OneBumpAtATime t.before) :
    Revokes (run acts (start s)) := by
  obtain ⟨-, h⟩ := invariant (I := Revocation.Run fun id => Revocation.storedVersion id s)
    (P := fun t => Unforged t ∧ OneBumpAtATime t.before) (fun t ht h => h.step ht.1 ht.2)
    (Revocation.run_start hs) acts fun t ht => ⟨hu t ht, hn t ht⟩
  generalize run acts (start s) = c at h
  intro before j call d after hh hj hbumps e he token claims hissued hsub token' hd i hnone haccepts
  -- the token carries a version from before the bump
  obtain ⟨first, rest, rfl⟩ := List.append_of_mem he
  obtain ⟨hpeek, sub, ver, id, hsub', hver, hid, hle⟩ :=
    (h.chronicle first e (rest ++ ⟨j, .commit d, .ok ()⟩ :: after) (by simp [hh])).issued token
      claims hissued
  obtain rfl : id = d.loaded.id := by
    rw [hsub', Option.bind_some, hid] at hsub
    exact Option.some.inj hsub
  have hcarries : Revocation.Carries token' d.loaded.id ver :=
    h.carries ⟨by rw [hpeek, hsub']; exact hid, by rw [hpeek, hver]⟩ hd
  have hmono := Revocation.bumpsOf_le d.loaded.id (List.prefix_append first (e :: rest))
  -- and whoever accepts it has read that version after the bump
  have hnever : ∀ {secret expectedType l user}, Vouches token' secret expectedType l user →
      l ⊆ own i c.world.history → False := by
    intro secret expectedType l user hv hl
    obtain ⟨⟨ev, hev, hr⟩, hid', hver'⟩ := hcarries.vouches hv
    have := h.read_after hh hj hbumps hnone ⟨ev, hl hev, hr⟩ hid'
    omega
  rcases haccepts with ⟨user, hcall⟩ | ⟨cookies, response, hp, ht⟩
  · obtain ⟨start, stop, heq⟩ := List.append_of_mem hcall
    obtain ⟨call', -, hv⟩ := h.traced.history _ _ _ heq
    refine hnever hv fun ev hev => ?_
    obtain ⟨hmem, hpid⟩ := mem_own.mp hev
    exact mem_own.mpr ⟨heq ▸ List.mem_append_left _ hmem, hpid⟩
  · obtain ⟨token'', user, ht', hv⟩ := h.traced.rest i _ hp
    obtain rfl : token' = token'' := Option.some.inj (ht.symm.trans ht')
    exact hnever hv (List.Subset.refl _)

instance (c : (system Token).Config) : Decidable (OneBumpAtATime c) :=
  have (i j : ℕ) : Decidable (i ≠ j → ∀ id ∈ handled c i, id ∉ handled c j) := inferInstance
  inferInstanceAs (Decidable (∀ i < c.procs.length, ∀ j < c.procs.length, i ≠ j →
    ∀ id ∈ handled c i, id ∉ handled c j))

def PresentsIssued : (system Token).Transition → Prop
  | ⟨c, .spawn call⟩ => (Call.cookies call).refreshToken.all fun token =>
      c.world.history.any fun ev => (issued ev).any fun t => t.1 = token
  | _ => True

instance : DecidablePred (@PresentsIssued Token _ _ _ _)
  | ⟨_, .spawn _⟩ => inferInstanceAs (Decidable (_ = true))
  | ⟨_, .run _⟩ | ⟨_, .fault _ _⟩ | ⟨_, .env _⟩ => isTrue trivial

lemma PresentsIssued.unforged {t : (system Token).Transition} (h : PresentsIssued t) :
    Unforged t := by
  obtain ⟨c, a⟩ := t
  cases a with
  | spawn call =>
    intro token ht _ _ _ _
    have ht : (Call.cookies call).refreshToken = some token := ht
    simp only [PresentsIssued, ht, Option.all_some, List.any_eq_true, Option.any_eq_true] at h
    obtain ⟨ev, hev, ⟨token', claims⟩, hi, heq⟩ := h
    obtain rfl : token' = token := of_decide_eq_true heq
    exact ⟨ev, hev, claims, hi⟩
  | _ => trivial

end

section Sample

attribute [local instance] Runtime.ascii Crypto.transparent Normalize.plain

/-- Ada logs in, changes her password, and comes back with the cookies of her login. -/
def changedRun : List (system (Claims × String)).Act :=
  let cookies : Cookies (Claims × String) :=
    ⟨some (⟨some "ada", some "access", some 1, some "", some 0, some 3600⟩, "access"),
      some (⟨some "ada", some "refresh", some 1, some "x", some 0, some 604800⟩, "refresh")⟩
  .spawn (Call.login ⟨none, none⟩ "ada@x" "pw") :: runs 0 20 ++
    .spawn (Call.changePassword cookies "pw" "new") :: runs 1 20 ++
    .spawn (Call.profile cookies) :: runs 2 5

theorem bump_revokes_all_tokens_changed : Revokes (run changedRun (start Sample.state)) :=
  @bump_revokes_all_tokens _ _ _ _ _ ⟨fun _ => rfl⟩ Sample.state (by decide) changedRun
    (fun t ht => PresentsIssued.unforged
      ((by decide +kernel : ∀ t ∈ transitions (start Sample.state) changedRun, PresentsIssued t)
        t ht))
    (by decide +kernel)

end Sample

end Askit.Auth
