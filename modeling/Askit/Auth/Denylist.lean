import Askit.Auth.Looks

/-! A refresh token on the denylist stays refused, although its entry expires. -/

namespace Askit.Auth

open Interleaving Machine Coro Tables
open Game (UUID Time Runtime)

section

variable {Token : Type} [DecidableEq Token]
variable [Crypto Token] [Runtime] [Normalize]

namespace Denylist

variable {l l' l'' : List (Ev Token)} {i : ℕ} {call : Call Token} {α β : Type}

section Events

variable {token : Token} {history : List (Ev Token)} {ev : Ev Token}

omit [Crypto Token] [Runtime] [Normalize] in
lemma lateLook_append : LateLook i token (history ++ [ev]) ↔
    LateLook i token history ∨ (looks i token ev = true ∧ ¬Unset token history) := by
  constructor
  · rintro ⟨before, ev', after, heq, hlook, hset⟩
    rcases List.eq_nil_or_concat after with rfl | ⟨after, last, rfl⟩
    · obtain ⟨rfl, hev⟩ := List.append_inj' heq rfl
      cases hev
      exact .inr ⟨hlook, hset⟩
    · rw [List.concat_eq_append, ← List.cons_append, ← List.append_assoc] at heq
      exact .inl ⟨before, ev', after, List.append_inj_left' heq rfl, hlook, hset⟩
  · rintro (⟨before, ev', after, rfl, hlook, hset⟩ | ⟨hlook, hset⟩)
    · exact ⟨before, ev', after ++ [ev], by simp, hlook, hset⟩
    · exact ⟨history, ev, [], rfl, hlook, hset⟩

omit [Crypto Token] [Runtime] [Normalize] in
lemma LateLook.denied (h : LateLook i token history) : ¬Unset token history := by
  obtain ⟨before, ev, after, rfl, -, hset⟩ := h
  exact fun hunset => hset fun e he => hunset e (List.mem_append_left _ he)

omit [Crypto Token] [Runtime] [Normalize] in
lemma LateLook.mono {l : List (Ev Token)} (h : LateLook i token history) :
    LateLook i token (history ++ l) := by
  obtain ⟨before, ev, after, rfl, hlook, hset⟩ := h
  exact ⟨before, ev, after ++ l, by simp, hlook, hset⟩

end Events

/-- What is known once the process has looked for a token that is on the denylist. -/
def Lapsed (i : ℕ) (w : (system Token).World) : Prop :=
  ∀ token exp, Expires token exp → LateLook i token w.history →
    (standing token (own i w.history) = some none → seconds exp ≤ Rotation.now w) ∧
      ∀ t, standing token (own i w.history) = some (some t) → seconds exp ≤ t

def Outlives (w : (system Token).World) : Prop :=
  ∀ token exp, Expires token exp → ¬Unset token w.history →
    ∃ expiry, (w.state : State Token).redis.blacklist token = some expiry ∧ seconds exp ≤ expiry

structure Run (c : (system Token).Config) : Prop where
  traced : c.Traced Rightful Renewed
  labelled : c.Labelled
  genuine : ∀ call ∈ c.calls, ∀ token ∈ (Call.cookies call).refreshToken,
    Genuine token c.world.history
  reads : ∀ ev ∈ c.world.history, ∀ t, clockRead ev = some t → t ≤ now c
  outlives : Outlives c.world
  lapsed : ∀ i, Lapsed i c.world
  timely : Recorded (fun before ev => ∀ token, Verified token (own ev.pid before) →
    ¬LateLook ev.pid token before) c.world.history

lemma Lapsed.timely {w : (system Token).World} (h : Lapsed i w) {token : Token}
    (hv : Verified token (own i w.history)) : ¬LateLook i token w.history := by
  obtain ⟨t, exp, ht, hexp, hlt⟩ := hv
  exact fun hlate => hlt.not_ge ((h token exp hexp hlate).2 t ht)

omit [DecidableEq Token] [Crypto Token] [Runtime] [Normalize] in
lemma seconds_le {t u n m : ℤ} (ht : t ≤ u) (hn : n ≤ m) :
    seconds (t / 1000000 + n) ≤ u + seconds m := by
  change ((t / 1000000 + n) * 1000000 : ℤ) ≤ u + m * 1000000
  omega

lemma Run.exp_le {c : (system Token).Config} (h : Run c) {token : Token} {exp : ℤ}
    (hg : Genuine token c.world.history) (hexp : Expires token exp) :
    seconds exp ≤ now c + seconds refreshTokenLifetime := by
  obtain ⟨hpeek, secret, t, raw, hraw⟩ := hexp
  obtain ⟨ev, hev, claims, hissued⟩ := hg secret t raw hraw
  obtain ⟨before, hbefore, call, -, hrightful⟩ := h.traced.history.of_mem hev
  obtain ⟨pid, o, r⟩ := ev
  cases o with
  | encode issuer claims' s =>
    cases r with
    | error e => cases hissued
    | ok token' =>
      cases hissued
      obtain ⟨⟨read, hread, time, htime, expiresIn, hle, hclaims⟩, hpeek', -⟩ := hrightful
      have hnow := h.reads read (hbefore.subset (mem_own.mp hread).1) time htime
      rw [hpeek' token rfl, hclaims, Option.some.injEq] at hpeek
      rw [← hpeek]
      exact seconds_le hnow (by exact_mod_cast hle)
  | _ => cases hissued

lemma Outlives.perform {c : (system Token).Config} (h : Run c)
    {k : Except Exn β → Handler Token (Response Token)} {o : Op Token β}
    (pending : c.procs[i]? = some ⟨call, .await o k⟩) :
    Outlives (c.world.perform i o).2 := by
  intro token exp hexp hset
  cases hs : sets token ⟨i, o, ((system Token).exec o c.world.state).1⟩ with
  | false =>
    rw [World.perform_history, unset_append, hs] at hset
    obtain ⟨expiry, hexpiry, hle⟩ := h.outlives token exp hexp fun hu => hset ⟨hu, rfl⟩
    exact ⟨expiry, (Rotation.exec_blacklist (i := i) hs).trans hexpiry, hle⟩
  | true =>
    have hrightful := (h.traced.rest i _ pending _ fun a ha => ⟨c.world.state, ha⟩).1
    cases o with
    | setBlacklist t ex =>
      obtain rfl : t = token := of_decide_eq_true hs
      obtain ⟨hcookie, rfl⟩ := hrightful
      have hg := h.genuine call (List.mem_of_getElem? (getElem?_calls pending)) t hcookie
      exact ⟨_, Function.update_self _ _ _, h.exp_le hg hexp⟩
    | insertUser => simp only [system, exec] at hs; split at hs <;> cases hs
    | commit => simp only [system, exec] at hs; split at hs <;> cases hs
    | _ => cases hs

lemma Outlives.fail {w : (system Token).World} (h : Outlives w) (o : Op Token β) (e : Exn) :
    Outlives (w.fail i o e) := by
  intro token exp hexp hset
  rw [World.fail_history, unset_append, Rotation.sets_error] at hset
  exact h token exp hexp fun hu => hset ⟨hu, rfl⟩

lemma Lapsed.append {v w : (system Token).World} (h : Lapsed i v) {ev : Ev Token}
    (hw : w.history = v.history ++ [ev]) (hnow : Rotation.now v ≤ Rotation.now w)
    (hlook : ∀ token, looks i token ev = false)
    (hadvance : ev.pid = i → ∀ token st, advance token st ev = st) : Lapsed i w := by
  intro token exp hexp hlate
  rw [hw, lateLook_append, hlook] at hlate
  obtain ⟨hnone, hsome⟩ := h token exp hexp (hlate.resolve_right fun hl => by cases hl.1)
  have hown : standing token (own i w.history) = standing token (own i v.history) := by
    rw [hw]
    by_cases hpid : ev.pid = i
    · subst hpid
      rw [show own ev.pid (v.history ++ [ev]) = own ev.pid v.history ++ [ev] from
        own_append_self ev.op ev.outcome, standing_append, hadvance rfl]
    · rw [show own i (v.history ++ [ev]) = own i v.history from
        own_append_of_ne hpid ev.op ev.outcome]
  rw [hown]
  exact ⟨fun hst => (hnone hst).trans hnow, hsome⟩

omit [Crypto Token] [Runtime] [Normalize] in
lemma looks_of_ne {j : ℕ} (hij : j ≠ i) (token : Token) (o : Op Token β) (r : Except Exn β) :
    looks i token ⟨j, o, r⟩ = false := by
  cases o <;> cases r <;> simp [looks, hij]

lemma Lapsed.perform {w : (system Token).World} (h : Lapsed i w) (hb : Outlives w)
    (o : Op Token β) :
    Lapsed i (w.perform i o).2 := by
  have hnow : Rotation.now (w.perform i o).2 = Rotation.now w := exec_now o w.state
  cases o with
  | existsBlacklist t =>
    intro token exp hexp hlate
    by_cases ht : t = token
    · subst ht
      have hset : ¬Unset t w.history := by
        rw [World.perform_history, lateLook_append] at hlate
        rcases hlate with hlate | hlate
        · exact LateLook.denied hlate
        · exact hlate.2
      obtain ⟨expiry, hexpiry, hle⟩ := hb t exp hexp hset
      rw [World.perform_history, own_append_self, standing_append]
      simp only [system, exec, advance, if_true]
      split
      · exact ⟨fun hst => (by cases hst), fun _ hst => (by cases hst)⟩
      · rename_i hfree
        simp only [Redis.blacklisted, hexpiry, Option.any_some, decide_eq_true_eq, not_lt] at hfree
        exact ⟨fun _ => hle.trans hfree, fun _ hst => by cases hst⟩
    · have hlook : looks i token (⟨i, .existsBlacklist t,
          ((system Token).exec (.existsBlacklist t) w.state).1⟩ : Ev Token) = false := by
        simp [looks, system, exec, ht]
      rw [World.perform_history, lateLook_append, hlook] at hlate
      rw [World.perform_history, own_append_self, standing_append]
      simp only [system, exec, advance, if_neg ht]
      exact h token exp hexp (hlate.resolve_right fun hl => by cases hl.1)
  | now =>
    intro token exp hexp hlate
    rw [World.perform_history, lateLook_append] at hlate
    obtain ⟨hnone, hsome⟩ := h token exp hexp (hlate.resolve_right fun hl => by cases hl.1)
    rw [World.perform_history, own_append_self, standing_append]
    simp only [system, exec, advance]
    cases hst : standing token (own i w.history) with
    | none => exact ⟨fun hst => (by cases hst), fun _ hst => (by cases hst)⟩
    | some read =>
      refine ⟨fun hst => (by cases hst), fun t ht => ?_⟩
      cases read with
      | none =>
        obtain rfl : (w.state : State Token).now = t := by simpa using ht
        exact hnone hst
      | some t' =>
        obtain rfl : t' = t := by simpa using ht
        exact hsome t' hst
  | _ =>
    refine h.append (World.perform_history _ _ _) hnow.ge (fun token => ?_) fun _ token st => ?_
    · cases ((system Token).exec _ w.state).1 <;> rfl
    · cases ((system Token).exec _ w.state).1 <;> rfl

lemma Run.resume {c : (system Token).Config} (h : Run c)
    {k : Except Exn β → Handler Token (Response Token)} {o : Op Token β}
    (pending : c.procs[i]? = some ⟨call, .await o k⟩) {w : (system Token).World}
    {r : Except Exn β} (hw : w.history = c.world.history ++ [⟨i, o, r⟩])
    (hnow : Rotation.now w = now c) (hread : ∀ t, clockRead ⟨i, o, r⟩ = some t → t ≤ now c)
    (ht : Config.Traced Rightful Renewed ⟨w, c.procs.set i ⟨call, k r⟩⟩)
    (hl : Config.Labelled ⟨w, c.procs.set i ⟨call, k r⟩⟩) (hb : Outlives w) (hlapsed : Lapsed i w) :
    Run ⟨w, c.procs.set i ⟨call, k r⟩⟩ := by
  refine ⟨ht, hl, fun call' hcall token hc => ?_, fun ev hev t ht => ?_, hb, fun j => ?_, ?_⟩
  · rw [Config.calls, calls_set pending] at hcall
    exact (h.genuine call' hcall token hc).mono (hw ▸ List.prefix_append _ _)
  · have hle : t ≤ now c := by
      rw [hw] at hev
      rcases List.mem_append.mp hev with hev | hev
      · exact h.reads ev hev t ht
      · rw [List.mem_singleton.mp hev] at ht
        exact hread t ht
    exact hle.trans hnow.ge
  · by_cases hij : i = j
    · exact hij ▸ hlapsed
    · exact (h.lapsed j).append hw hnow.ge (fun token => looks_of_ne hij token o r)
        fun hpid => (hij hpid).elim
  · rw [hw]
    exact h.timely.append fun token hv => (h.lapsed i).timely hv

lemma Run.step {t : (system Token).Transition} (h : Run t.before) (hu : Unforged t) :
    Run t.after := by
  obtain ⟨c, a⟩ := t
  have ht := Config.Traced.step (P := Rightful) (Q := Renewed) h.traced h.labelled
    (fun i call => code_follows i call) a
  have hl := h.labelled.step a
  change Run (Machine.step a c)
  have hm := step_moves a c
  generalize Machine.step a c = d at hm ht hl
  cases hm with
  | idle => exact h
  | spawn call s admitted =>
    cases admitted
    refine ⟨ht, hl, fun call' hcall token hc => ?_, h.reads, h.outlives, h.lapsed, h.timely⟩
    rw [Config.calls, List.map_append, List.map_singleton] at hcall
    rcases List.mem_append.mp hcall with hcall | hcall
    · exact h.genuine call' hcall token hc
    · obtain rfl : call' = call := List.mem_singleton.mp hcall
      exact Unforged.genuine hu token hc
  | run i call o k pending ready =>
    apply h.resume pending (World.perform_history _ _ _) (exec_now o c.world.state) _ ht hl
      (Outlives.perform h pending) ((h.lapsed i).perform h.outlives o)
    intro t htime
    cases o with
    | now => exact (Option.some.inj htime).ge
    | _ =>
      generalize ((system Token).exec _ c.world.state).1 = r at htime
      cases r <;> cases htime
  | fault i e call o k pending =>
    apply h.resume pending (World.fail_history _ _ _ _) rfl _ ht hl (h.outlives.fail o e)
    · apply (h.lapsed i).append (World.fail_history _ _ _ _) le_rfl
      · exact fun token => by cases o <;> rfl
      · exact fun _ token st => by cases o <;> rfl
    · intro t htime
      cases o <;> cases htime
  | env d =>
    have hd : now c ≤ now ⟨{ c.world with state := (system Token).env d c.world.state }, c.procs⟩ :=
      Int.le_add_of_nonneg_right (Int.natCast_nonneg d)
    refine ⟨ht, hl, h.genuine, fun ev hev t htime => (h.reads ev hev t htime).trans hd, h.outlives,
      fun i token exp hexp hlate => ?_, h.timely⟩
    obtain ⟨hnone, hsome⟩ := h.lapsed i token exp hexp hlate
    exact ⟨fun hst => (hnone hst).trans hd, hsome⟩

lemma run_start (s : State Token) : Run (start s : (system Token).Config) where
  traced := ⟨fun i p h => (by cases h), recorded_nil⟩
  labelled := labelled_start s
  genuine call h := by cases h
  reads ev h := by cases h
  outlives token exp _ h := (h fun ev hev => by cases hev).elim
  lapsed i token exp _ h := by
    obtain ⟨before, ev, after, heq, -⟩ := h
    simp [start] at heq
  timely := recorded_nil

end Denylist

/-- In a run in which the clients forge no tokens, whoever looks for a refresh token after it has
been put on the denylist does not accept it, however late. -/
theorem denied_token_stays_denied (s : State Token) (acts : List (system Token).Act)
    (hu : ∀ t ∈ transitions (start s) acts, Unforged t) :
    StaysDenied (run acts (start s)) := by
  obtain ⟨-, h⟩ := invariant (I := Denylist.Run) (P := Unforged) (fun t ht h => h.step ht)
    (Denylist.run_start s) acts hu
  generalize run acts (start s) = c at h
  intro i token before after hhistory hlate
  have hcookie : ∀ call, c.calls[i]? = some call → call.cookies.refreshToken = some token := by
    obtain ⟨first, ev, rest, rfl, hlook, -⟩ := hlate
    intro call hcall
    obtain ⟨call', hcall', hrightful⟩ :=
      h.traced.history first ev (rest ++ after) (by simp [hhistory])
    obtain ⟨pid, o, r⟩ := ev
    cases o with
    | existsBlacklist t =>
      cases r with
      | error e => cases hlook
      | ok found =>
        obtain ⟨rfl, rfl⟩ : pid = i ∧ t = token := of_decide_eq_true hlook
        obtain rfl : call = call' := Option.some.inj (hcall.symm.trans hcall')
        exact hrightful
    | _ => cases hlook
  constructor
  · rintro ev hev rfl
    obtain ⟨first, rest, rfl⟩ := List.append_of_mem hev
    have hsplit : c.world.history = (before ++ first) ++ ev :: rest := by simp [hhistory]
    obtain ⟨call, hcall, hrightful⟩ := h.traced.history _ _ _ hsplit
    have htimely := h.timely _ _ _ hsplit token
    by_contra hrenewed
    obtain ⟨token', hc, hverified⟩ : ∃ token', call.cookies.refreshToken = some token' ∧
        Denylist.Verified token' (own ev.pid (before ++ first)) := by
      obtain ⟨pid, o, r⟩ := ev
      cases o with
      | encode issuer claims secret =>
        cases issuer <;> cases r <;> first
          | exact (hrenewed rfl).elim
          | exact hrightful.2.2 (.inl rfl)
          | exact hrightful.2.2 (.inr rfl)
      | _ => exact (hrenewed rfl).elim
    obtain rfl : token = token' := Option.some.inj ((hcookie call hcall).symm.trans hc)
    exact htimely hverified (Denylist.LateLook.mono hlate)
  · intro cookies response hp
    obtain ⟨token', hc, hverified⟩ := h.traced.rest i _ hp
    obtain rfl : token = token' :=
      Option.some.inj ((hcookie (.refresh cookies) (getElem?_calls hp)).symm.trans hc)
    exact (h.lapsed i).timely hverified (hhistory ▸ Denylist.LateLook.mono hlate)

end

section Sample

attribute [local instance] Runtime.ascii Crypto.transparent Normalize.plain

/-- Ada logs in and out, and comes back with her refresh token at once and after a week. -/
def loggedOutRun : List (system (Claims × String)).Act :=
  let cookies : Cookies (Claims × String) :=
    ⟨none, some (⟨some "ada", some "refresh", some 1, some "x", some 0, some 604800⟩, "refresh")⟩
  .spawn (Call.login ⟨none, none⟩ "ada@x" "pw") :: runs 0 20 ++
    .spawn (Call.logout cookies) :: runs 1 5 ++
    .spawn (Call.refresh cookies) :: runs 2 10 ++
    .env (604800000000 : ℕ) :: .spawn (Call.refresh cookies) :: runs 3 10

def refusal : Option (system (Claims × String)).Proc → Option Exn
  | some ⟨_, .done (.error e)⟩ => some e
  | _ => none

theorem denied_token_stays_denied_logged_out :
    refusal (run loggedOutRun (start Sample.state)).procs[2]? = some .tokenRevokedError ∧
      refusal (run loggedOutRun (start Sample.state)).procs[3]? = some .tokenExpiredError ∧
      StaysDenied (run loggedOutRun (start Sample.state)) :=
  ⟨by decide +kernel, by decide +kernel, denied_token_stays_denied Sample.state loggedOutRun
    fun t ht => PresentsIssued.unforged
      ((by decide +kernel : ∀ t ∈ transitions (start Sample.state) loggedOutRun, PresentsIssued t)
        t ht)⟩

end Sample

end Askit.Auth
