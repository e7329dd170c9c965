import Askit.Auth.SpendingRuns

/-! A refresh token is spent once, in every run in which each request that spends it still finds it
absent from the denylist. -/

namespace Askit.Auth

open Interleaving Machine Coro Tables
open Game (UUID Time Runtime)

section

variable {Token : Type} [DecidableEq Token]
variable [Crypto Token] [Runtime] [Normalize]

namespace Rotation

variable {token : Token} {iat : ℤ} {i : ℕ} {call : Call Token} {v w : (system Token).World}
variable {α β γ : Type}
variable {look : Option Bool} {Q : Except Exn β → (system Token).World → Prop}

/-- The requests that present the token come after it has been signed, and each process keeps to its
contract. -/
structure Run (token : Token) (iat : ℤ) (c : (system Token).Config) : Prop where
  traced : c.Traced Fine Renewed
  labelled : c.Labelled
  signed : ∀ call ∈ c.calls, (Call.cookies call).refreshToken = some token →
    seconds iat ≤ now c.world
  kept : (discipline token iat).Kept c

lemma now_step (a : (system Token).Act) (c : (system Token).Config) :
    now c.world ≤ now (Machine.step a c).world := by
  have hm := step_moves a c
  generalize Machine.step a c = d at hm
  cases hm with
  | idle | fault => exact le_rfl
  | spawn call s admitted =>
    cases admitted
    exact le_rfl
  | run i call o k pending ready => exact (exec_now o _).ge
  | env d => exact Int.le_add_of_nonneg_right (Int.natCast_nonneg d)

lemma rely_time {s : State Token} (w : (system Token).World) (h : now w ≤ s.now) :
    Rely token i w ⟨s, w.history⟩ :=
  ⟨List.prefix_refl _, rfl, h, fun h => ⟨h, id⟩⟩

omit [DecidableEq Token] [Crypto Token] [Runtime] [Normalize] in
lemma Spender.presents (h : Spender token call) : call.cookies.refreshToken = some token := by
  cases call with
  | refresh cookies => exact h
  | _ => exact h.elim

lemma stillAbsent_of_spends {c : (system Token).Config} {a : (system Token).Act}
    (h : spendsOnLook token ⟨c, a⟩ = true) (ha : a = .run i ∨ ∃ e, a = .fault i e) {ex : ℕ}
    {k : Except Exn Unit → Handler Token (Response Token)}
    (hp : c.procs[i]? = some ⟨call, .await (.setBlacklist token ex) k⟩) (hc : Spender token call) :
    stillAbsent i token c.world.history = true := by
  cases call with
  | refresh cookies =>
    rcases ha with rfl | ⟨e, rfl⟩
    all_goals simpa [spendsOnLook, hp] using h
  | _ => exact hc.elim

lemma Run.allowed {c : (system Token).Config} (h : Run token iat c) {a : (system Token).Act}
    (hl : spendsOnLook token ⟨c, a⟩ = true) (ha : a = .run i ∨ ∃ e, a = .fault i e) {o : Op Token β}
    {k : Except Exn β → Handler Token (Response Token)}
    (hp : c.procs[i]? = some ⟨call, .await o k⟩) : Allowed token iat i call c.world o := by
  cases o with
  | setBlacklist t ex =>
    rintro rfl
    obtain ⟨⟨hcookie, hex⟩, -⟩ := h.traced.rest i _ hp (.ok ()) fun a _ => ⟨c.world.state, rfl⟩
    exact ⟨hex, h.signed call (List.mem_of_getElem? (getElem?_calls hp)) hcookie,
      stillAbsent_of_spends hl ha hp⟩
  | _ => trivial

lemma permits {t : (system Token).Transition} (hs : Signed token iat) (h : Run token iat t.before)
    (hp : PresentsSigned token iat t) (hl : spendsOnLook token t = true) :
    (discipline token iat).Permits t := by
  obtain ⟨c, a⟩ := t
  constructor
  · rintro call s ha admitted hi
    obtain rfl : a = .spawn call := ha
    cases admitted
    refine ⟨hi, fun j p _ hj => rely_time _ le_rfl, ?_⟩
    apply code_ensures hs
    · exact fun hc => (hp hc.presents).1
    · exact own_eq_nil fun ev hev => Nat.ne_of_lt (h.labelled ev hev)
    · exact fun hc => (hp hc.presents).2
  · intro d _ hi
    exact ⟨hi, fun j p _ _ => rely_time _ (Int.le_add_of_nonneg_right (Int.natCast_nonneg d))⟩
  · exact fun i call _ o k ha hpend => h.allowed hl ha hpend
  · exact fun _ _ _ _ _ _ _ _ => trivial
  · rintro i p w _ _ _ hg j q hj _
    exact hg.rely fun hij => hj (congrArg some hij.symm)

lemma Run.step [CanonicalIds] {t : (system Token).Transition} (hs : Signed token iat)
    (h : Run token iat t.before) (hp : PresentsSigned token iat t)
    (hl : spendsOnLook token t = true) :
    Run token iat t.after := by
  have hkept := h.kept.step (permits hs h hp hl)
  obtain ⟨c, a⟩ := t
  refine ⟨h.traced.step h.labelled Revocation.code_follows a, h.labelled.step a, ?_, hkept⟩
  intro call hcall ht
  have hnow := now_step a c
  rcases calls_step a c with hcalls | ⟨call', rfl, hcalls⟩
  · exact (h.signed call (hcalls ▸ hcall) ht).trans hnow
  · rcases List.mem_append.mp (hcalls ▸ hcall) with hold | hnew
    · exact (h.signed call hold ht).trans hnow
    · obtain rfl : call = call' := List.mem_singleton.mp hnew
      exact (hp ht).1.trans hnow

lemma run_start (s : State Token) : Run token iat (start s : (system Token).Config) where
  traced := ⟨fun _ _ h => (by cases h), recorded_nil⟩
  labelled := labelled_start s
  signed call hc := by cases hc
  kept := ⟨fun h => (h fun ev hev => by cases hev).elim, fun i p h => by cases h⟩

end Rotation

/-- In a run in which every request that comes to spend the token still finds it absent from the
denylist, it is spent at most once. -/
theorem single_use_on_look [CanonicalIds] (s : State Token) (token : Token) (iat : ℤ)
    (hs : Signed token iat) (acts : List (system Token).Act)
    (hp : ∀ t ∈ transitions (start s) acts, PresentsSigned token iat t)
    (hl : ∀ t ∈ transitions (start s) acts, spendsOnLook token t = true) :
    SingleUse token (run acts (start s)) := by
  obtain ⟨-, h⟩ := invariant (I := Rotation.Run token iat)
    (P := fun t => PresentsSigned token iat t ∧ spendsOnLook token t = true)
    (fun t ht h => h.step hs ht.1 ht.2) (Rotation.run_start s) acts fun t ht => ⟨hp t ht, hl t ht⟩
  generalize run acts (start s) = c at h
  constructor
  · intro i j cookies cookies' response response' hi hj hc hc'
    have hspent : Rotation.Spent token i c.world := h.kept.ensures i _ hi hc
    exact hspent.unique (h.kept.ensures j _ hj hc')
  · intro i cookies e hi hc hnone
    have hpost : Rotation.Raised i c.world ∨ e ∈ refusals ∧ NoPair (own i c.world.history) :=
      h.kept.ensures i _ hi hc
    rcases hpost with ⟨ev, hev, hraised⟩ | ⟨he, hpair⟩
    · obtain ⟨hmem, hpid⟩ := mem_own.mp hev
      rw [hnone ev hmem hpid] at hraised
      cases hraised
    · exact ⟨he, fun ev hev hpid => hpair ev (mem_own.mpr ⟨hev, hpid⟩)⟩

end

section Sample

attribute [local instance] Runtime.ascii Crypto.transparent Normalize.plain

def Sample.refreshToken : Claims × String :=
  (⟨some "ada", some "refresh", some 1, some "x", some 0, some 604800⟩, "refresh")

def refreshCall : Call (Claims × String) := .refresh ⟨none, some Sample.refreshToken⟩

/-- One request after the other. -/
def rotationRun : List (system (Claims × String)).Act :=
  .spawn refreshCall :: .spawn refreshCall :: runs 0 20 ++ runs 1 20

/-- Both requests look before one of them spends the token. -/
def racedRotationRun : List (system (Claims × String)).Act :=
  .spawn refreshCall :: .spawn refreshCall :: runs 0 3 ++ runs 1 3 ++ runs 0 20 ++ runs 1 20

def presentsAlone (iat : ℤ) : (system (Claims × String)).Transition → Bool
  | ⟨c, .spawn call⟩ => (Call.cookies call).accessToken.isNone && seconds iat ≤ c.world.state.now
  | _ => true

lemma presentsSigned_of_alone {token : Claims × String} {iat : ℤ}
    {t : (system (Claims × String)).Transition} (h : presentsAlone iat t = true) :
    PresentsSigned token iat t := by
  obtain ⟨c, a⟩ := t
  cases a with
  | spawn call =>
    intro _
    simp only [presentsAlone, Bool.and_eq_true, Option.isNone_iff_eq_none, decide_eq_true_eq] at h
    exact ⟨h.2, fun accessToken ha => by simp [h.1] at ha⟩
  | _ => trivial

lemma Sample.signed : Signed Sample.refreshToken 0 := ⟨"ada", "refresh", 1, "x", rfl, rfl⟩

theorem single_use_on_look_rotated :
    SingleUse Sample.refreshToken (run rotationRun (start Sample.state)) :=
  @single_use_on_look _ _ _ _ _ ⟨fun _ => rfl⟩ Sample.state Sample.refreshToken 0 Sample.signed
    rotationRun (fun t ht => presentsSigned_of_alone
      ((by decide +kernel : ∀ t ∈ transitions (start Sample.state) rotationRun,
        presentsAlone 0 t = true) t ht))
    (by decide +kernel)

def renews (token : Claims × String) : Option (system (Claims × String)).Proc → Bool
  | some ⟨.refresh cookies, .done (.ok _)⟩ => cookies.refreshToken = some token
  | _ => false

lemma exists_of_renews {token : Claims × String} {p : Option (system (Claims × String)).Proc}
    (h : renews token p = true) : ∃ cookies response,
      p = some ⟨Call.refresh cookies, .done (.ok response)⟩ ∧
      cookies.refreshToken = some token := by
  unfold renews at h
  split at h
  · exact ⟨_, _, rfl, of_decide_eq_true h⟩
  · cases h

/-- Two requests that both look before one of them spends the token are both answered with a new
pair. -/
theorem raced_refresh_spends_twice :
    Signed Sample.refreshToken 0 ∧
    (∀ t ∈ transitions (start Sample.state) racedRotationRun,
      PresentsSigned Sample.refreshToken 0 t) ∧
    ¬SingleUse Sample.refreshToken (run racedRotationRun (start Sample.state)) := by
  refine ⟨Sample.signed, fun t ht => presentsSigned_of_alone ?_, fun h => ?_⟩
  · exact (by decide +kernel : ∀ t ∈ transitions (start Sample.state) racedRotationRun,
      presentsAlone 0 t = true) t ht
  · obtain ⟨cookies, response, hi, hc⟩ := exists_of_renews (by decide +kernel :
      renews Sample.refreshToken (run racedRotationRun (start Sample.state)).procs[0]? = true)
    obtain ⟨cookies', response', hj, hc'⟩ := exists_of_renews (by decide +kernel :
      renews Sample.refreshToken (run racedRotationRun (start Sample.state)).procs[1]? = true)
    exact absurd (h.once 0 1 _ _ _ _ hi hj hc hc') (by decide)

end Sample

end Askit.Auth
