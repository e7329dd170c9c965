import Askit.Auth.Revocation
import Askit.Interleaving.Contract

/-! How far a request has come that spends a refresh token. -/

namespace Askit.Auth

open Interleaving Machine Coro Tables
open Game (UUID Time Runtime)

section

variable {Token : Type} [DecidableEq Token]

def sets (token : Token) : Ev Token → Bool
  | ⟨_, .setBlacklist t _, .ok _⟩ => t = token
  | _ => false

def looks (i : ℕ) (token : Token) : Ev Token → Bool
  | ⟨j, .existsBlacklist t, .ok _⟩ => j = i ∧ t = token
  | _ => false

/-- Since the process has last looked, nobody has put the token on the denylist. -/
def stillAbsent (i : ℕ) (token : Token) (history : List (Ev Token)) : Bool :=
  history.foldl (fun absent ev => !sets token ev && (absent || looks i token ev)) false

def signsPair : Ev Token → Bool
  | ⟨_, .encode .refresh _ _, .ok _⟩ => true
  | _ => false

def raised : Ev Token → Bool
  | ⟨_, _, .error _⟩ => true
  | _ => false

def Unset (token : Token) (history : List (Ev Token)) :
    Prop := ∀ ev ∈ history, sets token ev = false

def NoPair (l : List (Ev Token)) : Prop := ∀ ev ∈ l, signsPair ev = false

lemma stillAbsent_append (i : ℕ) (token : Token) (history : List (Ev Token)) (ev : Ev Token) :
    stillAbsent i token (history ++ [ev]) =
      (!sets token ev && (stillAbsent i token history || looks i token ev)) := by
  simp [stillAbsent]

lemma unset_append {token : Token} {history : List (Ev Token)} {ev : Ev Token} :
    Unset token (history ++ [ev]) ↔ Unset token history ∧ sets token ev = false := by
  simp [Unset, or_imp, forall_and]

omit [DecidableEq Token] in
lemma noPair_append {l : List (Ev Token)} {ev : Ev Token} :
    NoPair (l ++ [ev]) ↔ NoPair l ∧ signsPair ev = false := by
  simp [NoPair, or_imp, forall_and]

variable [Crypto Token] [Runtime] [Normalize]

/-- The token has the claims of one that the service has signed at `iat`. -/
def Signed (token : Token) (iat : ℤ) : Prop :=
  ∃ sub type ver jti, Crypto.peek token = ⟨some sub, some type, some ver, some jti, some iat,
    some (iat + refreshTokenLifetime)⟩ ∧ (Runtime.uuid sub).isSome

/-- A request that presents the token comes after it has been signed, with an access token, if any,
that has the claims of a signed one. -/
def PresentsSigned (token : Token) (iat : ℤ) : (system Token).Transition → Prop
  | ⟨c, .spawn call⟩ => (Call.cookies call).refreshToken = some token →
      seconds iat ≤ (c.world.state : State Token).now ∧
        ∀ accessToken ∈ (Call.cookies call).accessToken, ∀ now,
          verified accessToken (Crypto.accessSecret Token) "access" now ≠ .error .keyError
  | _ => True

/-- A request that spends the token finds that nobody has spent it since it has looked. -/
def spendsOnLook (token : Token) : (system Token).Transition → Bool
  | ⟨c, .run i⟩ | ⟨c, .fault i _⟩ =>
    match c.procs[i]? with
    | some ⟨.refresh _, .await (.setBlacklist t _) _⟩ =>
      t ≠ token || stillAbsent i token c.world.history
    | _ => true
  | _ => true

def refusals : List Exn := [.tokenRevokedError, .tokenExpiredError, .invalidTokenError]

/-- At most one request is answered with a new pair for the token; the others, if no call of theirs
has raised, end with one of the errors and sign no token of a pair. -/
structure SingleUse (token : Token) (c : (system Token).Config) : Prop where
  once : ∀ (i j : ℕ) (cookies cookies' : Cookies Token) (response response' : Response Token),
    c.procs[i]? = some ⟨Call.refresh cookies, .done (.ok response)⟩ →
    c.procs[j]? = some ⟨Call.refresh cookies', .done (.ok response')⟩ →
    cookies.refreshToken = some token → cookies'.refreshToken = some token → i = j
  refused : ∀ (i : ℕ) (cookies : Cookies Token) (e : Exn),
    c.procs[i]? = some ⟨Call.refresh cookies, .done (.error e)⟩ →
    cookies.refreshToken = some token →
    (∀ ev ∈ c.world.history, ev.pid = i → raised ev = false) →
    e ∈ refusals ∧ ∀ ev ∈ c.world.history, ev.pid = i → signsPair ev = false

namespace Rotation

abbrev now (w : (system Token).World) : Time := (w.state : State Token).now

def deadline (iat : ℤ) : Time := seconds (iat + refreshTokenLifetime)

def Burnt (token : Token) (iat : ℤ) (w : (system Token).World) : Prop :=
  ¬Unset token w.history → ∃ expiry, (w.state : State Token).redis.blacklist token = some expiry ∧
    deadline iat ≤ expiry

/-- A request to `/auth/refresh` that presents the token. -/
def Spender (token : Token) : Call Token → Prop
  | .refresh cookies => cookies.refreshToken = some token
  | _ => False

structure Rely (token : Token) (i : ℕ) (v w : (system Token).World) : Prop where
  start : v.history <+: w.history
  own : own i w.history = own i v.history
  time : now v ≤ now w
  absent : stillAbsent i token w.history = true →
    stillAbsent i token v.history = true ∧ (Unset token v.history → Unset token w.history)

structure Guar (i : ℕ) (v w : (system Token).World) : Prop where
  history : ∃ ev, ev.pid = i ∧ w.history = v.history ++ [ev]
  time : now v ≤ now w

/-- What is known of the operations of a request from its code, and of the commit from the run. -/
def Allowed (token : Token) (iat : ℤ) (i : ℕ) (call : Call Token) (w : (system Token).World) :
    {β : Type} → Op Token β → Prop
  | _, .setBlacklist t ex => t = token → ex = refreshTokenLifetime ∧ seconds iat ≤ now w ∧
      (Spender token call → stillAbsent i token w.history = true)
  | _, _ => True

def contract (token : Token) (iat : ℤ) (i : ℕ) (call : Call Token) :
    Contract (system Token) (Burnt token iat) where
  rely := Rely token i
  guar := Guar i
  allowed o w := Allowed token iat i call w o
  faults _ _ := True
  refl _ := ⟨List.prefix_refl _, rfl, le_rfl, fun h => ⟨h, id⟩⟩
  trans h₁ h₂ := ⟨h₁.start.trans h₂.start, h₂.own.trans h₁.own, h₁.time.trans h₂.time, fun h =>
    ⟨(h₁.absent (h₂.absent h).1).1, fun hu => (h₂.absent h).2 ((h₁.absent (h₂.absent h).1).2 hu)⟩⟩

def Raised (i : ℕ) (w : (system Token).World) : Prop := ∃ ev ∈ own i w.history, raised ev = true

def Spent (token : Token) (i : ℕ) (w : (system Token).World) : Prop :=
  ∃ before ev after, w.history = before ++ ev :: after ∧ ev.pid = i ∧ sets token ev = true ∧
    Unset token before

def Post (token : Token) (i : ℕ) (r : Except Exn (Response Token)) (w : (system Token).World) :
    Prop :=
  match r with
  | .ok _ => Spent token i w
  | .error e => Raised i w ∨ e ∈ refusals ∧ NoPair (own i w.history)

variable {token : Token} {iat : ℤ} {i : ℕ} {call : Call Token} {v w : (system Token).World}
variable {α β γ : Type}

lemma Raised.rely (h : Raised i v) (hr : Rely token i v w) : Raised i w := by
  unfold Raised
  rw [hr.own]
  exact h

lemma Spent.mono (h : Spent token i v) (hw : v.history <+: w.history) : Spent token i w := by
  obtain ⟨before, ev, after, hv, hpid, hset, hunset⟩ := h
  obtain ⟨l, hl⟩ := hw
  exact ⟨before, ev, after ++ l, by rw [← hl, hv]; simp, hpid, hset, hunset⟩

lemma Spent.unique {j : ℕ} (h : Spent token i w) (h' : Spent token j w) : i = j := by
  obtain ⟨before, ev, after, hw, rfl, hset, hunset⟩ := h
  obtain ⟨before', ev', after', hw', rfl, hset', hunset'⟩ := h'
  rcases List.append_eq_append_iff.mp (hw.symm.trans hw') with ⟨l, hb, hl⟩ | ⟨l, hb, hl⟩
  · cases l with
    | nil => rw [(List.cons.inj hl).1]
    | cons x l =>
      have hx : ev = x := (List.cons.inj hl).1
      have := hunset' ev (by simp [hb, hx])
      rw [hset] at this
      cases this
  · cases l with
    | nil => rw [(List.cons.inj hl).1]
    | cons x l =>
      have hx : ev' = x := (List.cons.inj hl).1
      have := hunset ev' (by simp [hb, hx])
      rw [hset'] at this
      cases this

def discipline (token : Token) (iat : ℤ) : Discipline (system Token) (Burnt token iat) where
  contract := contract token iat
  post i call r w := Spender token call → Post token i r w
  stable i call r v w h hr hc := by
    have hv := h hc
    cases r with
    | ok response => exact hv.mono hr.start
    | error e => exact hv.imp (·.rely hr) fun hv => ⟨hv.1, hr.own.symm ▸ hv.2⟩

omit [Normalize] in
lemma exec_blacklist {o : Op Token β} {s : State Token}
    (h : sets token ⟨i, o, (exec o s).1⟩ = false) :
    (exec o s).2.redis.blacklist token = s.redis.blacklist token := by
  cases o with
  | setBlacklist t ex =>
    apply Function.update_of_ne
    rintro rfl
    simp [sets, exec] at h
  | insertUser => simp only [exec]; split <;> rfl
  | commit => simp only [exec]; split <;> rfl
  | _ => rfl

omit [Crypto Token] [Runtime] [Normalize] in
lemma sets_error (o : Op Token β) (e : Exn) : sets token ⟨i, o, .error e⟩ = false := by
  cases o <;> rfl

lemma burnt_perform {o : Op Token β} (ha : Allowed token iat i call w o) (h : Burnt token iat w) :
    Burnt token iat (w.perform i o).2 := by
  intro hset
  cases hs : sets token ⟨i, o, ((system Token).exec o w.state).1⟩ with
  | false =>
    rw [World.perform_history, unset_append, hs] at hset
    obtain ⟨expiry, hexpiry, hle⟩ := h fun hu => hset ⟨hu, rfl⟩
    exact ⟨expiry, (exec_blacklist (i := i) hs).trans hexpiry, hle⟩
  | true =>
    cases o with
    | setBlacklist t ex =>
      obtain rfl : t = token := of_decide_eq_true hs
      obtain ⟨rfl, hle, -⟩ := ha rfl
      refine ⟨_, Function.update_self _ _ _, ?_⟩
      simp only [deadline, seconds] at hle ⊢
      rw [add_mul]
      exact Int.add_le_add_right hle _
    | insertUser => simp only [system, exec] at hs; split at hs <;> cases hs
    | commit => simp only [system, exec] at hs; split at hs <;> cases hs
    | _ => cases hs

lemma burnt_fail {o : Op Token β} {e : Exn} (h : Burnt token iat w) :
    Burnt token iat (w.fail i o e) := by
  intro hset
  rw [World.fail_history, unset_append, sets_error] at hset
  exact h fun hu => hset ⟨hu, rfl⟩

lemma guar_perform (o : Op Token β) : Guar i w (w.perform i o).2 :=
  ⟨⟨_, rfl, rfl⟩, (exec_now o w.state).ge⟩

lemma guar_fail (o : Op Token β) (e : Exn) : Guar i w (w.fail i o e) :=
  ⟨⟨_, rfl, rfl⟩, le_rfl⟩

lemma Guar.rely (h : Guar i v w) {j : ℕ} (hj : i ≠ j) : Rely token j v w := by
  obtain ⟨⟨⟨k, o, r⟩, rfl, hw⟩, ht⟩ := h
  have hlook : looks j token ⟨k, o, r⟩ = false := by
    cases o <;> cases r <;> simp [looks, hj]
  refine ⟨hw ▸ List.prefix_append _ _, by rw [hw, own_append_of_ne hj], ht, fun habsent => ?_⟩
  rw [hw, stillAbsent_append, hlook, Bool.or_false, Bool.and_eq_true, Bool.not_eq_true'] at habsent
  exact ⟨habsent.2, fun hu => hw ▸ unset_append.mpr ⟨hu, habsent.1⟩⟩

lemma raised_fail (w : (system Token).World) (o : Op Token β) (e : Exn) :
    Raised i (w.fail i o e) :=
  ⟨⟨i, o, .error e⟩, mem_own.mpr ⟨List.mem_append_right _ (List.mem_singleton_self _), rfl⟩, rfl⟩

/-- The operations that neither write the denylist nor sign a pair, and that do not fail by
themselves. -/
def Plain : {β : Type} → Op Token β → Prop
  | _, .setBlacklist .. | _, .encode .refresh _ _ | _, .insertUser .. | _, .commit _ => False
  | _, _ => True

/-- Where a request stands that has not spent the token: once it has looked, the token is unspent as
far as it can still know, or (if `late`) has expired. -/
structure Stage (token : Token) (iat : ℤ) (i : ℕ) (look : Option Bool) (w : (system Token).World) :
    Prop where
  noPair : NoPair (own i w.history)
  signed : seconds iat ≤ now w
  absent : ∀ late ∈ look, stillAbsent i token w.history = true →
    Unset token w.history ∨ (late = true ∧ deadline iat ≤ now w)

variable {look : Option Bool} {Q : Except Exn β → (system Token).World → Prop}

lemma Stage.early (h : Stage token iat i (some true) w) (hlt : now w < deadline iat) :
    Stage token iat i (some false) w := by
  refine ⟨h.noPair, h.signed, fun late hl habsent => ?_⟩
  rcases h.absent true rfl habsent with hunset | ⟨-, hle⟩
  · exact .inl hunset
  · exact absurd hle hlt.not_ge

lemma Stage.rely (h : Stage token iat i look v) (hr : Rely token i v w) :
    Stage token iat i look w := by
  refine ⟨hr.own ▸ h.noPair, h.signed.trans hr.time, fun late hl habsent => ?_⟩
  obtain ⟨hv, hu⟩ := hr.absent habsent
  rcases h.absent late hl hv with hunset | ⟨hlate, hle⟩
  · exact .inl (hu hunset)
  · exact .inr ⟨hlate, hle.trans hr.time⟩

lemma Stage.append {ev : Ev Token} (h : Stage token iat i look v) (hpid : ev.pid = i)
    (hw : w.history = v.history ++ [ev]) (ht : now v ≤ now w) (hset : sets token ev = false)
    (hlook : look = none ∨ looks i token ev = false) (hpair : signsPair ev = false) :
    Stage token iat i look w := by
  obtain ⟨j, o, r⟩ := ev
  obtain rfl : j = i := hpid
  refine ⟨?_, h.signed.trans ht, fun late hl habsent => ?_⟩
  · rw [hw, own_append_self]
    exact noPair_append.mpr ⟨h.noPair, hpair⟩
  · rcases hlook with rfl | hlook
    · cases hl
    rw [hw, stillAbsent_append, hset, hlook] at habsent
    simp only [Bool.not_false, Bool.or_false, Bool.true_and] at habsent
    rw [hw, unset_append]
    rcases h.absent late hl habsent with hunset | ⟨hlate, hle⟩
    · exact .inl ⟨hunset, hset⟩
    · exact .inr ⟨hlate, hle.trans ht⟩

lemma Stage.fail {o : Op Token β} {e : Exn} (h : Stage token iat i look w) :
    Stage token iat i look (w.fail i o e) := by
  apply h.append rfl (World.fail_history _ _ _ _) le_rfl (sets_error o e)
  · right
    cases o <;> rfl
  · cases o with
    | encode issuer => cases issuer <;> rfl
    | _ => rfl

lemma Stage.perform {o : Op Token β} (h : Stage token iat i look w) (ho : Plain o)
    (hl : look = none ∨ ∀ r, looks i token ⟨i, o, r⟩ = false) :
    Stage token iat i look (w.perform i o).2 := by
  apply h.append rfl (World.perform_history _ _ _) (exec_now o w.state).ge
  · cases o <;> first | rfl | exact ho.elim
  · exact hl.imp_right fun hl => hl _
  · cases o with
    | encode issuer claims secret => cases issuer <;> first | rfl | exact ho.elim
    | _ => rfl

lemma Stage.looked (h : Stage token iat i none w) (hb : Burnt token iat w) :
    Stage token iat i
      (if w.state.redis.blacklisted w.state.now token then none else some true)
      (w.perform i (.existsBlacklist token)).2 := by
  have hstart : Stage token iat i none (w.perform i (.existsBlacklist token)).2 :=
    h.append rfl (World.perform_history _ _ _) le_rfl rfl (.inl rfl) rfl
  split
  case isTrue => exact hstart
  case isFalse hfree =>
    refine ⟨hstart.noPair, hstart.signed, fun late hl _ => ?_⟩
    cases hl
    by_cases hunset : Unset token w.history
    · left
      exact unset_append.mpr ⟨hunset, rfl⟩
    · right
      obtain ⟨expiry, hexpiry, hle⟩ := hb hunset
      refine ⟨rfl, hle.trans ?_⟩
      simp only [Redis.blacklisted, hexpiry, Option.any_some, decide_eq_true_eq, not_lt] at hfree
      exact hfree

omit [Normalize] in
lemma Plain.ok {o : Op Token β} (ho : Plain o) (s : State Token) : ∃ a, (exec o s).1 = .ok a := by
  cases o <;> first | exact ⟨_, rfl⟩ | exact ho.elim

lemma plain_bind {o : Op Token γ} {f : γ → Handler Token β} (ho : Plain o)
    (hl : ∀ r, looks i token ⟨i, o, r⟩ = false) (hw : Stage token iat i look w)
    (hf : ∀ a s v, Stage token iat i look v → exec o s = (.ok a, v.state) →
      (contract token iat i call).Ensures i Q (f a) v)
    (he : ∀ e v, Stage token iat i look v → Raised i v → Q (.error e) v) :
    (contract token iat i call).Ensures i Q (await o >>= f) w := by
  apply Contract.Ensures.op_bind
  intro v hr hi ha
  have hv := hw.rely hr
  refine ⟨fun _ => ⟨burnt_perform ha hi, guar_perform o, ?_, ?_⟩, fun e _ => ?_⟩
  · exact fun a hx => hf a v.state _ (hv.perform ho (.inr hl)) (Prod.ext hx rfl)
  · intro e hx
    obtain ⟨a, ha⟩ := ho.ok v.state
    cases ha.symm.trans hx
  · exact ⟨burnt_fail hi, guar_fail o e, he e _ hv.fail (raised_fail v o e)⟩

lemma stage_all {x : Handler Token β} (hx : x.All (system Token).Answers Plain)
    (hw : Stage token iat i none w) :
    (contract token iat i call).Ensures i (fun _ => Stage token iat i none) x w := by
  apply Contract.Ensures.of_all (fun h hr => h.rely hr) _ _ hx hw
  · exact fun o v ho hi hv ha _ =>
      ⟨burnt_perform ha hi, guar_perform o, hv.perform ho (.inl rfl)⟩
  · exact fun o e v _ hi hv _ _ => ⟨burnt_fail hi, guar_fail o e, hv.fail⟩

end Rotation

end

end Askit.Auth
