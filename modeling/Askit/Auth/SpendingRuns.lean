import Askit.Auth.Spends

/-! The endpoints spend a refresh token on what they have looked up. -/

namespace Askit.Auth

open Interleaving Machine Coro Tables
open Game (UUID Time Runtime)

section

variable {Token : Type} [DecidableEq Token]
variable [Crypto Token] [Runtime] [Normalize]

namespace Rotation

variable {token : Token} {iat : ℤ} {i : ℕ} {call : Call Token} {v w : (system Token).World}
variable {α β γ : Type}
variable {look : Option Bool} {Q : Except Exn β → (system Token).World → Prop}

lemma decode_ensures (t : Token) (secret expectedType : String) (hw : Stage token iat i look w) :
    (contract token iat i call).Ensures i
      (fun r v => Stage token iat i look v ∧
        (∀ p, r = .ok p → verified t secret expectedType (now v) = .ok p) ∧
        ∀ e, r = .error e → verified t secret expectedType (now v) = .error e ∨ Raised i v)
      (decode t secret expectedType) w := by
  apply plain_bind (by trivial) (fun _ => by rfl) hw
  · intro a s v hv hx
    cases hx
    exact ⟨hv, fun p h => h, fun e h => .inl h⟩
  · exact fun e v hv hr => ⟨hv, fun p h => (by cases h), fun _ _ => .inr hr⟩

lemma renewAccessToken_plain (cookies : Cookies Token) (t : Token) :
    (renewAccessToken cookies t).All (system Token).Answers Plain := by
  apply All.perform_bind (by trivial)
  intro blacklisted _
  apply All.ite
  · exact fun _ => trivial
  intro _
  apply All.bind
  · exact All.perform_bind (by trivial) fun _ _ => trivial
  intro payload
  apply All.bind
  · exact All.perform_bind (by trivial) fun _ _ => All.perform_bind (by trivial) fun _ _ =>
      (all_perform _).mpr trivial
  · exact fun _ => trivial

lemma renewAccessToken_returns (cookies : Cookies Token) (t : Token) :
    (renewAccessToken cookies t).Returns (system Token).Answers
      fun c => c.1.refreshToken = cookies.refreshToken := by
  apply Returns.bind
  intro blacklisted
  cases blacklisted with
  | true => rfl
  | false => exact Returns.bind fun payload => Returns.bind fun newToken => rfl

/-- How the middleware ends in a request that presents the token: it fails only when a call of it
does. -/
def Refreshed (token : Token) (iat : ℤ) (i : ℕ) (refreshToken : Option Token)
    (r : Except Exn (Cookies Token × Option Token)) (w : (system Token).World) : Prop :=
  Stage token iat i none w ∧ (∀ c, r = .ok c → c.1.refreshToken = refreshToken) ∧
    ∀ e, r = .error e → Raised i w

lemma refreshed_ok {cookies : Cookies Token} (h : Stage token iat i none w) (new : Option Token) :
    Refreshed token iat i cookies.refreshToken (.ok (cookies, new)) w := by
  refine ⟨h, ?_, fun e he => by cases he⟩
  rintro c ⟨⟩
  rfl

lemma refreshed_error {rt : Option Token} (h : Stage token iat i none w) (hr : Raised i w)
    (e : Exn) :
    Refreshed token iat i rt (.error e) w :=
  ⟨h, fun c hc => (by cases hc), fun _ _ => hr⟩

omit [DecidableEq Token] [Crypto Token] [Runtime] [Normalize] in
lemma payload_error {raw : Claims} {expectedType : String} {e : Exn}
    (h : payload raw expectedType = .error e) :
    e = .invalidTokenError ∨
    (e = .keyError ∧ (raw.sub = none ∨ raw.iat = none ∨ raw.exp = none)) := by
  obtain ⟨sub, type, ver, jti, iat, exp⟩ := raw
  unfold payload at h
  by_cases ht : type = some expectedType
  · right
    cases sub <;> cases iat <;> cases exp <;> simp [ht] at h <;> cases h <;> simp
  · left
    simp only [ht, if_true, ne_eq, not_false_eq_true] at h
    cases h
    rfl

omit [DecidableEq Token] [Runtime] [Normalize] in
lemma verified_error {t : Token} {secret expectedType : String} {n : Time} {e : Exn}
    (h : verified t secret expectedType n = .error e) :
    e = .tokenExpiredError ∨ e = .invalidTokenError ∨ (e = .keyError ∧
      ((Crypto.peek t).sub = none ∨ (Crypto.peek t).iat = none ∨ (Crypto.peek t).exp = none)) := by
  unfold verified at h
  split at h
  case h_1 raw hd =>
    rw [Crypto.peek_decode hd]
    exact .inr (payload_error h)
  case h_2 =>
    cases h
    exact .inl rfl
  case h_3 =>
    cases h
    exact .inr (.inl rfl)

lemma autoRefresh_ensures {cookies : Cookies Token} (hw : Stage token iat i none w)
    (hc : ∀ accessToken ∈ cookies.accessToken, ∀ now,
      verified accessToken (Crypto.accessSecret Token) "access" now ≠ .error .keyError) :
    (contract token iat i call).Ensures i (Refreshed token iat i cookies.refreshToken)
      (autoRefresh cookies) w := by
  obtain ⟨accessToken, refreshToken⟩ := cookies
  cases accessToken with
  | none => exact refreshed_ok hw none
  | some accessToken =>
    apply Contract.Ensures.tryCatch (S := fun r v => Stage token iat i none v ∧
      (∀ c, r = .ok c → c.1.refreshToken = refreshToken) ∧
      ∀ e, r = .error e → e = .tokenExpiredError ∨ e = .invalidTokenError ∨ Raised i v)
    · apply Contract.Ensures.bind (decode_ensures accessToken _ _ hw)
      · rintro payload v ⟨hv, -⟩
        refine ⟨hv, ?_, fun e he => by cases he⟩
        rintro c ⟨⟩
        rfl
      · rintro e v ⟨hv, -, hr⟩
        refine ⟨hv, fun c hc => (by cases hc), ?_⟩
        rintro e' ⟨⟩
        rcases hr _ rfl with hr | hr
        · rcases verified_error hr with rfl | rfl | ⟨rfl, -⟩
          · exact .inl rfl
          · exact .inr (.inl rfl)
          · exact (hc accessToken rfl _ hr).elim
        · exact .inr (.inr hr)
    · exact fun c v h => ⟨h.1, h.2.1, fun e he => by cases he⟩
    · rintro e v ⟨hv, -, he⟩
      cases e with
      | tokenExpiredError =>
        cases refreshToken with
        | none => exact refreshed_ok hv none
        | some refreshToken =>
          apply Contract.Ensures.tryCatch (Contract.Ensures.returns
            (renewAccessToken_returns _ _) (stage_all (renewAccessToken_plain _ _) hv))
          · exact fun c v' h => ⟨h.1, fun c' hc => h.2 c' hc, fun e he => by cases he⟩
          · exact fun e v' h => refreshed_ok h.1 none
      | invalidTokenError => exact refreshed_ok hv none
      | _ =>
        rcases he _ rfl with he | he | he
        · cases he
        · cases he
        · exact refreshed_error hv he _

lemma spent_bind {o : Op Token γ} {f : γ → Handler Token β} (ho : ∀ s, ∃ a, (exec o s).1 = .ok a)
    (hw : Spent token i w)
    (hf : ∀ a v, Spent token i v → (contract token iat i call).Ensures i Q (f a) v)
    (he : ∀ e v, Spent token i v → Raised i v → Q (.error e) v) :
    (contract token iat i call).Ensures i Q (await o >>= f) w := by
  apply Contract.Ensures.op_bind
  intro v hr hi ha
  have hv := hw.mono hr.start
  refine ⟨fun _ => ⟨burnt_perform ha hi, guar_perform o, ?_, ?_⟩, fun e _ => ?_⟩
  · exact fun a _ => hf a _ (hv.mono (List.prefix_append _ _))
  · intro e hx
    obtain ⟨a, ha⟩ := ho v.state
    cases ha.symm.trans hx
  · exact ⟨burnt_fail hi, guar_fail o e, he e _ (hv.mono (List.prefix_append _ _))
      (raised_fail v o e)⟩

lemma createToken_spent {issuer : Issuer} {sub tokenType secret : String} {expiresIn : ℕ} {ver : ℤ}
    (hw : Spent token i w) :
    (contract token iat i call).Ensures i
      (fun r v => Spent token i v ∧ ∀ e, r = .error e → Raised i v)
      (createToken issuer sub tokenType secret expiresIn ver) w := by
  apply spent_bind (fun s => ⟨_, rfl⟩) hw
  swap
  · exact fun e v hv hr => ⟨hv, fun _ _ => hr⟩
  intro time v hv
  apply spent_bind (fun s => ⟨_, rfl⟩) hv
  swap
  · exact fun e v hv hr => ⟨hv, fun _ _ => hr⟩
  intro jti v hv
  rw [← bind_pure (await _)]
  apply spent_bind (fun s => ⟨_, rfl⟩) hv
  · exact fun a v hv => ⟨hv, fun e he => by cases he⟩
  · exact fun e v hv hr => ⟨hv, fun _ _ => hr⟩

omit [DecidableEq Token] [Normalize] in
lemma Signed.accepted {n : Time} {p : JWTPayload} {secret expectedType : String}
    (h : Signed token iat) (hd : verified token secret expectedType n = .ok p) :
    n < deadline iat ∧ (Runtime.uuid p.sub).isSome := by
  obtain ⟨sub, type, ver, jti, hpeek, hid⟩ := h
  unfold verified at hd
  split at hd
  case h_1 raw hraw =>
    have hclaims := Crypto.peek_decode hraw
    rw [hpeek] at hclaims
    have hsub := (Revocation.payload_eq hd).1
    rw [← hclaims, Option.some.injEq] at hsub
    exact ⟨Crypto.lt_exp hraw (by rw [← hclaims]), hsub ▸ hid⟩
  case h_2 => cases hd
  case h_3 => cases hd

omit [DecidableEq Token] [Normalize] in
lemma Signed.refused {n : Time} {e : Exn} {secret expectedType : String}
    (h : Signed token iat) (hd : verified token secret expectedType n = .error e) :
    e ∈ refusals := by
  obtain ⟨sub, type, ver, jti, hpeek, -⟩ := h
  rcases verified_error hd with rfl | rfl | ⟨-, habsent⟩
  · simp [refusals]
  · simp [refusals]
  · simp [hpeek] at habsent

lemma spend_ensures {user : User} (hc : Spender token call)
    (hw : Stage token iat i (some false) w) :
    (contract token iat i call).Ensures i (Post token i)
      (do
        await (.setBlacklist token refreshTokenLifetime)
        let accessToken ← createAccessToken .refresh user.id user.tokenVersion
        let newRefreshToken ← createRefreshToken .refresh user.id user.tokenVersion
        pure ⟨.message "OK", .set accessToken, .set newRefreshToken⟩) w := by
  apply Contract.Ensures.op_bind
  intro v hr hi ha
  have hv := hw.rely hr
  refine ⟨fun _ => ⟨burnt_perform ha hi, guar_perform _, ?_, fun e he => by cases he⟩,
    fun e _ => ⟨burnt_fail hi, guar_fail _ e, .inl (raised_fail v _ e)⟩⟩
  rintro _ -
  have hunset : Unset token v.history := by
    rcases hv.absent false rfl ((ha rfl).2.2 hc) with h | ⟨h, -⟩
    · exact h
    · cases h
  have hspent : Spent token i (v.perform i (Op.setBlacklist token refreshTokenLifetime)).2 :=
    ⟨v.history, _, [], rfl, rfl, decide_eq_true rfl, hunset⟩
  apply Contract.Ensures.bind (createToken_spent hspent)
  swap
  · exact fun e u h => .inl (h.2 e rfl)
  rintro accessToken u ⟨hu, -⟩
  apply Contract.Ensures.bind (createToken_spent hu)
  · exact fun newRefreshToken u' h => h.1
  · exact fun e u' h => .inl (h.2 e rfl)

lemma refresh_ensures (hs : Signed token iat) (hc : Spender token call)
    (hw : Stage token iat i none w) :
    (contract token iat i call).Ensures i (Post token i) (refresh (some token)) w := by
  apply Contract.Ensures.op_bind
  intro v hr hi ha
  have hv := hw.rely hr
  refine ⟨fun _ => ⟨burnt_perform (show Allowed token iat i call v (.existsBlacklist token) from ha)
    hi, guar_perform _, ?_, fun e he => by cases he⟩,
    fun e _ => ⟨burnt_fail hi, guar_fail _ e, .inl (raised_fail v _ e)⟩⟩
  rintro blacklisted hb
  cases hb
  have hlook := hv.looked hi
  apply Contract.Ensures.require
  swap
  · intro _
    exact .inr ⟨by simp [refusals], hlook.noPair⟩
  intro hfree
  rw [if_neg (by simpa using hfree)] at hlook
  apply Contract.Ensures.bind (decode_ensures token _ _ hlook)
  swap
  · rintro e u ⟨hu, -, he⟩
    exact (he e rfl).symm.imp_right fun he => ⟨Signed.refused hs he, hu.noPair⟩
  rintro p u ⟨hu, hp, -⟩
  obtain ⟨hearly, hid⟩ := Signed.accepted hs (hp p rfl)
  have hu := hu.early hearly
  cases huid : Runtime.uuid p.sub with
  | none => simp [huid] at hid
  | some userId =>
    apply plain_bind (by trivial) (fun _ => by rfl) hu
    swap
    · exact fun e v' _ hr => .inl hr
    intro found s v hv _
    cases found with
    | none => exact .inr ⟨by simp [refusals], hv.noPair⟩
    | some user =>
      apply Contract.Ensures.require
      swap
      · exact fun _ => .inr ⟨by simp [refusals], hv.noPair⟩
      intro _
      apply Contract.Ensures.require
      swap
      · exact fun _ => .inr ⟨by simp [refusals], hv.noPair⟩
      intro _
      exact spend_ensures hc hv

lemma other_ensures {x : Handler Token β} (hc : ¬Spender token call) :
    (contract token iat i call).Ensures i (fun _ _ => ¬Spender token call) x w := by
  apply Contract.Ensures.of_all (A := fun _ => ¬Spender token call) (fun h _ => h) _ _
    (all_true x) hc
  · exact fun o v _ hi _ ha _ => ⟨burnt_perform ha hi, guar_perform o, hc⟩
  · exact fun o e v _ hi _ _ _ => ⟨burnt_fail hi, guar_fail o e, hc⟩

lemma code_ensures (hs : Signed token iat) (hsigned : Spender token call → seconds iat ≤ now w)
    (hfresh : own i w.history = [])
    (haccess : Spender token call → ∀ accessToken ∈ call.cookies.accessToken, ∀ n,
      verified accessToken (Crypto.accessSecret Token) "access" n ≠ .error .keyError) :
    (contract token iat i call).Ensures i (fun r v => Spender token call → Post token i r v)
      (code call) w := by
  by_cases hc : Spender token call
  swap
  · exact (other_ensures hc).mono fun r v h hc => (h hc).elim
  cases call with
  | refresh cookies =>
    have hw : Stage token iat i none w :=
      ⟨fun ev hev => by simp [hfresh] at hev, hsigned hc, fun _ h => by cases h⟩
    apply Contract.Ensures.bind (autoRefresh_ensures hw (haccess hc))
    swap
    · exact fun e v h _ => .inl (h.2.2 e rfl)
    rintro ⟨cookies', new⟩ v ⟨hv, hkeep, -⟩
    have hkeep : cookies'.refreshToken = some token := (hkeep _ rfl).trans hc
    apply Contract.Ensures.bind (S := Post token i)
    · rw [Call.endpoint, hkeep]
      exact refresh_ensures hs hc hv
    · exact fun response v h _ => h
    · exact fun e v h _ => h
  | _ => exact hc.elim

end Rotation

end

end Askit.Auth
