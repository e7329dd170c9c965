import Askit.Auth.Warrants

/-! The endpoints issue and renew only what they may. -/

namespace Askit.Auth

open Interleaving Machine Coro Tables
open Game (UUID Time Runtime Dirty)

section

variable {Token : Type}
variable {l l' l'' : List (Ev Token)} {user : User} {i : ℕ}
variable [DecidableEq Token] [Crypto Token] [Runtime] [Normalize]

namespace Revocation

variable {call : Call Token} {α β : Type}

lemma mint_follows {issuer : Issuer} {sub : String} {ver : ℤ} {f : Token → Token → Response Token}
    (hw : ∀ l', Extends l l' → Warrants call l' sub ver issuer) :
    Follows i call (fun _ l' => Extends l l')
      (do
        let accessToken ← createAccessToken issuer sub ver
        let refreshToken ← createRefreshToken issuer sub ver
        pure (f accessToken refreshToken)) l := by
  apply Follows.bind (createToken_follows hw)
  · intro accessToken l' hl
    apply Follows.bind (createToken_follows fun l'' h => hw l'' (hl.trans h))
    · exact fun _ _ h => hl.trans h
    · exact fun _ _ h => hl.trans h
  · exact fun _ _ h => h

lemma createUser_follows [CanonicalIds] (username email password : String) :
    Follows i call (fun r l' => Extends l l' ∧ ∀ user, r = .ok user → Seen l' user)
      (createUser username email password) l := by
  apply silent_bind (by trivial)
  swap
  · exact fun e hl => ⟨hl, fun user h => by cases h⟩
  intro passwordHash _ hl
  apply silent_bind (by trivial)
  swap
  · exact fun e hl' => ⟨hl.trans hl', fun user h => by cases h⟩
  intro id hid hl'
  have hl := hl.trans hl'
  have hcanonical : Runtime.uuid id = some id := by
    obtain ⟨s, hs⟩ := hid
    cases hs
    exact CanonicalIds.uuid_uuid4 _
  apply Follows.tryCatch (S := fun r l' => Extends l l' ∧ ∀ user, r = .ok user → Seen l' user)
  · apply Follows.perform_bind
    · exact fun _ _ => hcanonical
    swap
    · exact fun e => ⟨hl.trans (.append rfl), fun user h => by cases h⟩
    rintro _ -
    have hl := Extends.trans hl (@Extends.append _ _
      ⟨i, .insertUser id username email passwordHash, .ok ()⟩ rfl)
    apply silent_bind (by trivial)
    swap
    · exact fun e h => ⟨hl.trans h, fun user h => by cases h⟩
    intro found _ h
    have hl := hl.trans h
    cases found with
    | none => exact ⟨hl, fun user h => by cases h⟩
    | some user =>
      refine ⟨hl, fun user' h => ?_⟩
      cases h
      exact ⟨_, List.mem_append_right _ (List.mem_singleton_self _), rfl⟩
  · exact fun _ _ h => h
  · rintro e l' ⟨hl', -⟩
    cases e with
    | integrityError =>
      apply silent_bind (by trivial)
      · exact fun _ _ h => ⟨hl'.trans h, fun user h => by cases h⟩
      · exact fun _ h => ⟨hl'.trans h, fun user h => by cases h⟩
    | _ => exact ⟨hl', fun user h => by cases h⟩

lemma register_follows [CanonicalIds] (username email password : String) :
    Follows i call (fun _ _ => True) (register username email password) l := by
  apply Follows.bind (S := fun r l' => ∀ user, r = .ok user → Seen l' user)
  · apply Follows.tryCatch (S := fun r l' => ∀ user, r = .ok user → Seen l' user)
    · apply silent_bind (by trivial)
      swap
      · exact fun e _ user h => by cases h
      intro found _ _
      apply Follows.require_bind
      · exact fun _ => (createUser_follows username email password).mono fun _ _ h => h.2
      · exact fun _ user h => by cases h
    · exact fun _ _ h => h
    · intro e l' _
      cases e with
      | _ => exact fun user h => by cases h
  · intro user l' hseen
    have hw : ∀ l'', Extends l' l'' → Warrants call l'' user.id user.tokenVersion .register :=
      fun l'' h => ⟨user, (hseen user rfl).mono h.start, rfl, rfl⟩
    exact (mint_follows (f := fun a r => ⟨user.out, .set a, .set r⟩) hw).mono fun _ _ _ => trivial
  · exact fun _ _ _ => trivial

lemma commit_follows {d : Dirty User} (hc : call.bumps = false)
    (hd : d.current.tokenVersion = d.loaded.tokenVersion) {f : Unit → Handler Token β}
    {Q : Except Exn β → List (Ev Token) → Prop}
    (hf : ∀ l', Extends l l' → Follows i call Q (f ()) l') (he : ∀ e l', Q (.error e) l') :
    Follows i call Q (await (.commit d) >>= f) l :=
  .perform_bind (fun _ _ => .inr ⟨hc, hd⟩) (fun _ _ => hf _ (.append (if_pos hd))) fun e => he e _

lemma authenticate_follows (hc : call.bumps = false) (email password : String) :
    Follows i call (fun _ _ => True) (authenticate email password) l := by
  apply silent_bind (by trivial)
  swap
  · exact fun _ _ => trivial
  intro found _ hl
  cases found with
  | none => trivial
  | some user =>
    apply Follows.require_bind
    swap
    · exact fun _ => trivial
    intro _
    apply Follows.require_bind
    swap
    · exact fun _ => trivial
    intro _
    have hseen : Seen (l ++ [⟨i, .getUserByEmail email, .ok (some user)⟩]) user :=
      ⟨_, List.mem_append_right _ (List.mem_singleton_self _), rfl⟩
    apply Follows.bind (S := fun _ l' => Seen l' user)
    · apply silent_bind (by trivial)
      · exact fun now _ h => Follows.perform fun r _ =>
          ⟨.inr ⟨hc, rfl⟩, (hseen.mono h.start).mono (List.prefix_append _ _)⟩
      · exact fun _ h => hseen.mono h.start
    · intro _ l' hseen'
      have hw : ∀ l'', Extends l' l'' → Warrants call l'' user.id user.tokenVersion .login :=
        fun _ h => ⟨user, hseen'.mono h.start, rfl, rfl⟩
      apply Follows.bind (createToken_follows hw)
      · intro accessToken l'' hl''
        apply Follows.bind (createToken_follows fun _ h => hw _ (hl''.trans h))
        · exact fun _ _ _ => trivial
        · exact fun _ _ _ => trivial
      · exact fun _ _ _ => trivial
    · exact fun _ _ _ => trivial

lemma recordFailedLogin_silent (email : String) :
    (recordFailedLogin email : Handler Token ℕ).All (system Token).Answers Op.Silent := by
  apply All.perform_bind (by trivial)
  intro count _
  split
  · exact All.perform_bind (by trivial) fun _ _ => trivial
  · trivial

lemma login_follows (hc : call.bumps = false) (email password : String) :
    Follows i call (fun _ _ => True) (login email password) l := by
  apply Follows.bind (S := fun _ _ => True)
  · apply (silent_all _).mono fun _ _ _ => trivial
    exact All.perform_bind (by trivial) fun _ _ => trivial
  swap
  · exact fun _ _ _ => trivial
  intro attempts l' _
  apply Follows.require_bind
  swap
  · exact fun _ => trivial
  intro _
  apply Follows.bind (S := fun _ _ => True)
  · apply Follows.tryCatch (authenticate_follows hc email password)
    · exact fun _ _ _ => trivial
    · intro e l'' _
      cases e with
      | invalidCredentialsError =>
        apply (silent_all _).mono fun _ _ _ => trivial
        exact (recordFailedLogin_silent email).bind fun _ => trivial
      | _ => trivial
  swap
  · exact fun _ _ _ => trivial
  intro issued l'' _
  apply (silent_all _).mono fun _ _ _ => trivial
  exact All.perform_bind (by trivial) fun _ _ => trivial

lemma refresh_follows {cookies : Cookies Token} {token : Option Token}
    (ht : cookies.refreshToken = token) :
    Follows i (.refresh cookies) (Renewed (.refresh cookies)) (refresh token) l := by
  cases token with
  | none => trivial
  | some token =>
    apply silent_bind (by trivial)
    swap
    · exact fun _ _ => trivial
    intro blacklisted _ _
    apply Follows.require_bind
    swap
    · exact fun _ => trivial
    intro _
    apply Follows.bind (decode_follows token _ _)
    swap
    · exact fun _ _ _ => trivial
    rintro payload l' ⟨-, hd⟩
    cases hid : Runtime.uuid payload.sub with
    | none => trivial
    | some userId =>
      apply silent_bind (by trivial)
      swap
      · exact fun _ _ => trivial
      intro found hfound _
      cases found with
      | none => trivial
      | some user =>
        apply Follows.require_bind
        swap
        · exact fun _ => trivial
        intro _
        apply Follows.require_bind
        swap
        · exact fun _ => trivial
        intro hver
        obtain ⟨s, hs⟩ := hfound
        have hrow : s.users.table.get? userId = some user := Except.ok.inj hs
        have hv : ∀ l'', l' ++ [⟨i, .getUserById userId, .ok (some user)⟩] <+: l'' →
            Vouches token (Crypto.refreshSecret Token) "refresh" l'' user := by
          refine fun l'' hl => ⟨⟨_, hl.subset (List.mem_append_right _ (List.mem_singleton_self _)),
            rfl⟩, payload, hd payload rfl, ?_, hver⟩
          rw [hid, ← Table.key_get? hrow]
        apply Follows.perform_bind
        · exact fun _ _ => ⟨ht, rfl⟩
        swap
        · exact fun _ => trivial
        rintro _ -
        have hl := @Extends.append _ (l' ++ [⟨i, .getUserById userId, .ok (some user)⟩])
          ⟨i, .setBlacklist token refreshTokenLifetime, .ok ()⟩ rfl
        have hw : ∀ l'', Extends _ l'' →
            Warrants (.refresh cookies) l'' user.id user.tokenVersion .refresh :=
          fun l'' h => ⟨token, user, ht, hv l'' (hl.start.trans h.start), rfl, rfl⟩
        apply (mint_follows (f := fun a r => ⟨.message "OK", .set a, .set r⟩) hw).mono
        intro r l'' h
        cases r with
        | ok response => exact ⟨token, user, ht, hv l'' (hl.start.trans h.start)⟩
        | error e => trivial

lemma authenticated_follows {cookies : Cookies Token}
    {endpoint : User → Handler Token (Response Token)}
    {Q : Except Exn (Response Token) → List (Ev Token) → Prop} (hl : Clean l)
    (he : ∀ user l', Seen l' user → Clean l' → Follows i call Q (endpoint user) l')
    (hQ : ∀ e l', Q (.error e) l') :
    Follows i call Q (authenticated cookies endpoint) l := by
  obtain ⟨accessToken, refreshToken⟩ := cookies
  cases accessToken with
  | none => exact hQ _ _
  | some token =>
    apply Follows.bind (getCurrentUser_follows token)
    swap
    · exact fun _ _ _ => hQ _ _
    rintro user l' ⟨hl', hv⟩
    have hv := hv user rfl
    apply callEndpoint_follows hv
    swap
    · exact fun _ _ => hQ _ _
    intro l'' hl''
    exact he user l'' (hv.1.mono hl''.start) (hl''.clean (hl'.clean hl))

lemma changePasswordRoute_follows (hc : call.bumps = true) (hs : Seen l user) (hl : Clean l)
    (currentPassword nextPassword : String) :
    Follows i call (fun r l' => ∀ response, r = .ok response → ∃ ev ∈ l', (bump ev).isSome)
      (changePasswordRoute currentPassword nextPassword user) l := by
  apply Follows.bind (S := fun r l' => ∀ current, r = .ok current → ∃ d ev, ev ∈ l' ∧
    bump ev = some d ∧ d.loaded.id = current.id ∧ d.current.tokenVersion = current.tokenVersion)
  swap
  · intro current l' h
    obtain ⟨d, ev, hev, hd, hid, hver⟩ := h current rfl
    have hw : ∀ l'', Extends l' l'' →
        Warrants call l'' current.id current.tokenVersion .changePassword :=
      fun l'' h => ⟨d, ev, h.start.subset hev, hd, hid.symm, hver.symm⟩
    exact (mint_follows (f := fun a r => ⟨.message "OK", .set a, .set r⟩) hw).mono
      fun _ l'' h _ _ => ⟨ev, h.start.subset hev, by rw [hd]; rfl⟩
  swap
  · exact fun _ _ _ _ h => by cases h
  apply Follows.require_bind
  swap
  · exact fun _ _ h => by cases h
  intro _
  apply silent_bind (by trivial)
  swap
  · exact fun _ _ _ h => by cases h
  intro passwordHash _ hl'
  apply Follows.perform_bind
  · exact fun _ _ => .inl ⟨hc, rfl, hs.mono hl'.start, hl'.clean hl⟩
  · rintro _ - current ⟨⟩
    refine ⟨_, _, List.mem_append_right _ (List.mem_singleton_self _), if_neg ?_, rfl, rfl⟩
    simp
  · exact fun _ _ h => by cases h

lemma logout_follows {token : Option Token} (ht : call.cookies.refreshToken = token) :
    Follows i call (fun _ _ => True) (logout token) l := by
  cases token with
  | none => trivial
  | some token =>
    apply Follows.bind (S := fun _ _ => True)
    · apply Follows.tryCatch (S := fun _ _ => True)
      · exact Follows.perform fun _ _ => ⟨⟨ht, rfl⟩, trivial⟩
      · exact fun _ _ _ => trivial
      · exact fun _ _ _ => trivial
    · exact fun _ _ _ => trivial
    · exact fun _ _ _ => trivial

lemma endpoint_follows [CanonicalIds] (call : Call Token) {cookies : Cookies Token}
    (ht : cookies.refreshToken = call.cookies.refreshToken) (hl : Clean l) :
    Follows i call (Renewed call) (call.endpoint cookies) l := by
  cases call with
  | register _ username email password => exact register_follows username email password
  | login _ email password => exact login_follows rfl email password
  | refresh _ => exact refresh_follows ht.symm
  | logout _ =>
    exact logout_follows ht.symm
  | profile _ => exact authenticated_follows hl (fun user l' _ _ => trivial) fun _ _ => trivial
  | updateProfile _ username =>
    apply authenticated_follows hl _ fun _ _ => trivial
    intro user l' _ _
    apply Follows.bind (S := fun _ _ => True)
    · apply Follows.tryCatch (S := fun _ _ => True)
      · apply commit_follows rfl rfl
        · intro l'' _
          apply (silent_all _).mono fun _ _ _ => trivial
          apply All.perform_bind (by trivial)
          intro found _
          cases found <;> trivial
        · exact fun _ _ => trivial
      · exact fun _ _ _ => trivial
      · intro e l'' _
        cases e with
        | integrityError =>
          apply (silent_all _).mono fun _ _ _ => trivial
          exact All.perform_bind (by trivial) fun _ _ => trivial
        | _ => trivial
    · exact fun _ _ _ => trivial
    · exact fun _ _ _ => trivial
  | changePassword _ currentPassword nextPassword =>
    apply authenticated_follows hl _ fun _ _ => trivial
    intro user l' hs hl'
    apply (changePasswordRoute_follows rfl hs hl' currentPassword nextPassword).mono
    intro r l'' h
    cases r with
    | ok response => exact h response rfl
    | error e => trivial
  | deactivate _ =>
    apply authenticated_follows hl _ fun _ _ => trivial
    intro user l' hs hl'
    apply Follows.perform_bind
    · exact fun _ _ => .inl ⟨rfl, rfl, hs, hl'⟩
    · intro _ _
      refine ⟨_, List.mem_append_right _ (List.mem_singleton_self _), ?_⟩
      simp [bump]
    · exact fun _ => trivial
  | optional _ =>
    obtain ⟨accessToken, refreshToken⟩ := cookies
    cases accessToken with
    | none => trivial
    | some token =>
      apply Follows.bind (S := fun r l' => ∀ user, r = .ok (some user) →
        Vouches token (Crypto.accessSecret Token) "access" l' user)
      · apply Follows.tryCatch (optionalUser_follows token)
        · exact fun _ _ h => h.2
        · intro e l' _
          cases e with
          | _ => exact fun user h => by cases h
      · intro found l' hv
        cases found with
        | none => trivial
        | some user =>
          exact callEndpoint_follows (hv user rfl) (fun _ _ => trivial) fun _ _ => trivial
      · exact fun _ _ _ => trivial

lemma code_follows [CanonicalIds] (i : ℕ) (call : Call Token) :
    Follows i call (Renewed call) (code call) [] := by
  apply Follows.bind (autoRefresh_follows rfl)
  · rintro ⟨cookies, new⟩ l ⟨hl, hc⟩
    have hclean : Clean l := hl.clean fun ev h => by cases h
    apply Follows.bind (endpoint_follows call (hc _ rfl) hclean)
    · intro response l' h
      cases call <;> trivial
    · intro e l' h
      cases call <;> trivial
  · intro e l' h
    cases call <;> trivial

end Revocation

end

end Askit.Auth
