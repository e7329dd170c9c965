import Askit.Auth.Tame

/-! What a request has looked up before it accepts a refresh token. -/

namespace Askit.Auth

open Interleaving Machine Coro Tables
open Game (UUID Time Runtime)

section

variable {Token : Type} [DecidableEq Token]
variable [Crypto Token] [Runtime] [Normalize]

namespace Denylist

variable {l l' l'' : List (Ev Token)} {i : ℕ} {call : Call Token} {α β : Type}

omit [DecidableEq Token] [Crypto Token] [Runtime] [Normalize] in
lemma payload_exp {raw : Claims} {expectedType : String} {p : JWTPayload}
    (h : payload raw expectedType = .ok p) : raw.exp = some p.exp := by
  obtain ⟨sub, type, ver, jti, iat, exp⟩ := raw
  unfold payload at h
  by_cases ht : type = some expectedType
  · cases sub <;> cases iat <;> cases exp <;> simp [ht] at h
    cases h
    rfl
  · simp only [ht, if_true, ne_eq, not_false_eq_true] at h
    cases h

omit [DecidableEq Token] [Runtime] [Normalize] in
lemma expires_of_verified {token : Token} {secret expectedType : String} {t : Time} {p : JWTPayload}
    (h : verified token secret expectedType t = .ok p) :
    Expires token p.exp ∧ t < seconds p.exp := by
  unfold verified at h
  split at h
  case h_1 raw hraw =>
    have hexp := payload_exp h
    exact ⟨⟨by rw [Crypto.peek_decode hraw, hexp], secret, t, raw, hraw⟩, Crypto.lt_exp hraw hexp⟩
  case h_2 => cases h
  case h_3 => cases h

lemma decode_follows {token : Token} {secret expectedType : String}
    (hl : standing token l = some none) :
    Follows i call (fun r l' => ∀ payload, r = .ok payload → Verified token l')
      (decode token secret expectedType) l := by
  apply Follows.perform_bind (fun _ _ => by trivial)
  swap
  · rintro e _ ⟨⟩
  intro t _ payload hpayload
  obtain ⟨hexp, hlt⟩ := expires_of_verified hpayload
  refine ⟨t, payload.exp, ?_, hexp, hlt⟩
  rw [standing_append, hl]
  rfl

lemma look_follows {token : Token} {f : Bool → Handler Token β}
    {Q : Except Exn β → List (Ev Token) → Prop} (hc : call.cookies.refreshToken = some token)
    (hf : ∀ found l', (found = false → standing token l' = some none) →
      Follows i call Q (f found) l')
    (he : ∀ e l', Q (.error e) l') :
    Follows i call Q (await (.existsBlacklist token) >>= f) l := by
  apply Follows.perform_bind (fun _ _ => hc)
  · intro found _
    apply hf
    rintro rfl
    simp [standing_append, advance]
  · exact fun e => he e _

lemma renewAccessToken_follows {token : Token} {cookies : Cookies Token}
    (hc : call.cookies.refreshToken = some token) (ht : cookies.refreshToken = some token) :
    Follows i call (fun r _ => ∀ c, r = .ok c → c.1.refreshToken = some token)
      (renewAccessToken cookies token) l := by
  apply look_follows hc
  swap
  · rintro e l' c ⟨⟩
  intro found l' hfound
  apply Follows.ite
  · rintro - c ⟨⟩
    exact ht
  intro habsent
  apply Follows.bind (decode_follows (hfound (by simpa using habsent)))
  swap
  · rintro e l'' - c ⟨⟩
  intro payload l'' hv
  apply Follows.bind (createToken_follows (by decide) fun _ => ⟨token, hc, hv payload rfl⟩)
  · rintro new _ - c ⟨⟩
    exact ht
  · rintro e _ - c ⟨⟩

lemma autoRefresh_follows {cookies : Cookies Token} (hc : call.cookies = cookies) :
    Follows i call (fun r _ => ∀ c, r = .ok c → c.1.refreshToken = cookies.refreshToken)
      (autoRefresh cookies) l := by
  obtain ⟨accessToken, refreshToken⟩ := cookies
  have hkeep : ∀ l' : List (Ev Token), Follows i call
      (fun r _ => ∀ c, r = .ok c → c.1.refreshToken = refreshToken)
      (pure (⟨accessToken, refreshToken⟩, none) : Handler Token (Cookies Token × Option Token))
        l' := by
    rintro l' c ⟨⟩
    rfl
  cases accessToken with
  | none => exact hkeep l
  | some accessToken =>
    apply Follows.tryCatch
      (S := fun r _ => ∀ c, r = .ok c → c.1.refreshToken = refreshToken)
    · apply Follows.bind (decode_tame accessToken _ _ l)
      · exact fun _ l' _ => hkeep l'
      · rintro e l' - c ⟨⟩
    · exact fun c l' h => h
    · intro e l' _
      cases e with
      | tokenExpiredError =>
        cases refreshToken with
        | none => exact hkeep l'
        | some token =>
          apply Follows.tryCatch (renewAccessToken_follows (by rw [hc]) rfl)
          · exact fun c l'' h => h
          · exact fun _ l'' _ => hkeep l''
      | invalidTokenError => exact hkeep l'
      | _ => rintro c ⟨⟩

lemma refresh_follows {cookies : Cookies Token} (hcall : call = .refresh cookies)
    {token : Option Token} (ht : token = cookies.refreshToken) :
    Follows i call (Renewed call) (refresh token) l := by
  subst hcall
  cases token with
  | none => exact trivial
  | some token =>
    have hcookie : (Call.refresh cookies).cookies.refreshToken = some token := ht.symm
    apply look_follows hcookie
    swap
    · exact fun _ _ => trivial
    intro found l' hfound
    apply Follows.require_bind
    swap
    · exact fun _ => trivial
    intro habsent
    apply Follows.bind (decode_follows (hfound habsent))
    swap
    · exact fun _ _ _ => trivial
    intro payload l' hv
    have hv := hv payload rfl
    cases Runtime.uuid payload.sub with
    | none => exact trivial
    | some userId =>
      apply Follows.bind (Tame.perform (by trivial) l')
      swap
      · exact fun _ _ _ => trivial
      intro user l' hl
      have hv := hv.mono hl
      cases user with
      | none => exact trivial
      | some user =>
        apply Follows.require_bind
        swap
        · exact fun _ => trivial
        intro _
        apply Follows.require_bind
        swap
        · exact fun _ => trivial
        intro _
        apply Follows.perform_bind (fun _ _ => ⟨hcookie, rfl⟩)
        swap
        · exact fun _ => trivial
        intro _ _
        have hv : Verified token (l' ++ [⟨i, .setBlacklist token refreshTokenLifetime, .ok ()⟩]) :=
          hv.mono (.append fun _ _ => rfl)
        apply Follows.bind (createToken_follows (by decide) fun _ => ⟨token, hcookie, hv⟩)
        swap
        · exact fun _ _ _ => trivial
        intro accessToken l' hl
        have hv := hv.mono hl
        apply Follows.bind (createToken_follows le_rfl fun _ => ⟨token, hcookie, hv⟩)
        · exact fun newToken l' hl => ⟨token, hcookie, hv.mono hl⟩
        · exact fun _ _ _ => trivial

lemma logout_follows {token : Option Token} (ht : call.cookies.refreshToken = token) :
    Follows i call (fun _ _ => True) (logout token) l := by
  cases token with
  | none => exact trivial
  | some token =>
    apply Follows.bind (S := fun _ _ => True)
    · apply Follows.tryCatch (S := fun _ _ => True)
      · exact Follows.perform fun _ _ => ⟨⟨ht, rfl⟩, trivial⟩
      · exact fun _ _ _ => trivial
      · exact fun _ _ _ => trivial
    · exact fun _ _ _ => trivial
    · exact fun _ _ _ => trivial

lemma endpoint_follows (call : Call Token) {cookies : Cookies Token}
    (hc : cookies.refreshToken = call.cookies.refreshToken) :
    Follows i call (Renewed call) (call.endpoint cookies) l := by
  have htame : ∀ {x : Handler Token (Response Token)}, Tame i call x →
      (∀ r l', Renewed call r l') → Follows i call (Renewed call) x l :=
    fun hx hr => (hx l).mono fun r l' _ => hr r l'
  cases call with
  | refresh _ => exact refresh_follows rfl hc
  | logout _ => exact (logout_follows hc.symm).mono fun _ _ _ => trivial
  | register _ username email password =>
    exact htame (register_tame username email password) fun _ _ => trivial
  | login _ email password => exact htame (login_tame email password) fun _ _ => trivial
  | profile _ => exact htame (authenticated_tame cookies fun _ => .pure _) fun _ _ => trivial
  | updateProfile _ username =>
    exact htame (authenticated_tame cookies (updateProfileRoute_tame username)) fun _ _ => trivial
  | changePassword _ currentPassword nextPassword =>
    exact htame (authenticated_tame cookies (changePasswordRoute_tame currentPassword nextPassword))
      fun _ _ => trivial
  | deactivate _ =>
    exact htame (authenticated_tame cookies fun _ => .op_bind (by trivial) fun _ => .pure _)
      fun _ _ => trivial
  | optional _ => exact htame (optionallyAuthenticated_tame cookies) fun _ _ => trivial

lemma code_follows (i : ℕ) (call : Call Token) : Follows i call (Renewed call) (code call) [] := by
  apply Follows.bind (autoRefresh_follows rfl)
  · rintro ⟨cookies, new⟩ l hc
    apply Follows.bind (endpoint_follows call (hc _ rfl))
    · intro response l' h
      cases call <;> exact h
    · intro e l' h
      cases call <;> trivial
  · intro e l' h
    cases call <;> trivial

end Denylist

end

end Askit.Auth
