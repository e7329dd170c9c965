import Askit.Auth.System
import Askit.Interleaving.Sequential

/-! The lockout of an account: how many passwords can be tried against it before it resets. -/

namespace Askit.Auth

open Interleaving Coro Tables
open Game (UUID Time Runtime Dirty)

section

variable {Token : Type} [DecidableEq Token] [Crypto Token] [Runtime]

/-- The state, and the time that the next operations will take. -/
structure Clocked (Token : Type) where
  state : State Token
  drift : ℕ → ℕ

def Clocked.tick (c : Clocked Token) : State Token :=
  { c.state with now := c.state.now + c.drift 0 }

def timed {β : Type} (o : Op Token β) (c : Clocked Token) : Except Exn β × Clocked Token :=
  ((exec o c.tick).1, ⟨(exec o c.tick).2, fun n => c.drift (n + 1)⟩)

structure Login (Token : Type) where
  email : String
  before : Clocked Token
  outcome : Except Exn (Response Token)
  after : Clocked Token

variable [Normalize]

/-- The requests, each with its address and password, are handled one after the other. -/
def logins : List (String × String) → Clocked Token → List (Login Token)
  | [], _ => []
  | (email, password) :: requests, c =>
    let r := (login email password).alone timed c
    ⟨email, c, r.1, r.2⟩ :: logins requests r.2

namespace Login

/-- The request names the account and has got as far as a password that is not the account's. -/
def failed (email : String) (l : Login Token) : Bool :=
  l.email = email &&
    match l.outcome with
    | .error .invalidCredentialsError => true
    | _ => false

def succeeds (l : Login Token) : Bool := l.outcome.isOk

/-- While the request was handled, a counter of failed logins has expired. -/
def expires (key : String) (l : Login Token) : Bool :=
  match l.before.state.redis.attempts key with
  | some (_, some expiry) => l.before.state.now < expiry && expiry ≤ l.after.state.now
  | _ => false

/-- The request has logged in another account, the counter of which is the same. -/
def sharesReset (email : String) (l : Login Token) : Bool :=
  l.email ≠ email && loginAttemptsKey l.email = loginAttemptsKey email && l.succeeds

end Login

/-- Nothing resets the account in the course of these requests. A counter that expires during a
request has done so before the request counts its failure. -/
structure Unreset (email : String) (window : List (Login Token)) : Prop where
  unexpired : ∀ l ∈ window.tail, l.expires (loginAttemptsKey email) = false
  unsuccessful : ∀ l ∈ window, l.email = email → l.succeeds = false

/-- Between two resets of the account at most `maxLoginAttempts` passwords are refused, and all
further requests are. -/
def LocksOut (email : String) (steps : List (Login Token)) : Prop :=
  ∀ before window after, steps = before ++ window ++ after → Unreset email window →
    window.countP (Login.failed email) ≤ maxLoginAttempts ∧
    (window.countP (Login.failed email) = maxLoginAttempts → ∀ l ∈ after.head?,
      l.expires (loginAttemptsKey email) = false → l.email = email →
        l.outcome = .error .accountLockedError)

namespace Lockout

variable {email password key : String} {c d : Clocked Token} {α β : Type}

def Quiet : {β : Type} → Op Token β → Prop
  | _, .incrAttempts _ | _, .expireAttempts .. | _, .deleteAttempts _ => False
  | _, _ => True

structure Later (c d : Clocked Token) : Prop where
  now : c.state.now ≤ d.state.now
  attempts : d.state.redis.attempts = c.state.redis.attempts

omit [DecidableEq Token] [Crypto Token] [Runtime] [Normalize] in
lemma now_tick (c : Clocked Token) : c.state.now ≤ c.tick.now :=
  Int.le_add_of_nonneg_right (Int.natCast_nonneg _)

omit [Normalize] in
lemma Later.timed {o : Op Token β} (h : Later c d) (ho : Quiet o) : Later c (timed o d).2 := by
  refine ⟨h.now.trans ((now_tick d).trans (exec_now o d.tick).ge), ?_⟩
  rw [← h.attempts]
  cases o with
  | insertUser => simp only [Auth.timed, exec]; split <;> rfl
  | commit => simp only [Auth.timed, exec]; split <;> rfl
  | incrAttempts | expireAttempts | deleteAttempts => exact ho.elim
  | _ => rfl

lemma quiet_alone {x : Handler Token α} (hx : x.All (system Token).Answers Quiet) :
    Later c (x.alone timed c).2 :=
  alone_of_all (fun _ c _ h => ⟨c.tick, h⟩) (fun _ _ ho h => h.timed ho) hx ⟨le_rfl, rfl⟩

lemma createToken_quiet (issuer : Issuer) (sub tokenType secret : String) (expiresIn : ℕ)
    (ver : ℤ) :
    (createToken issuer sub tokenType secret expiresIn ver : Handler Token Token).All
      (system Token).Answers Quiet :=
  All.perform_bind (by trivial) fun _ _ => All.perform_bind (by trivial) fun _ _ =>
    (all_perform _).mpr trivial

lemma authenticate_quiet (email password : String) :
    (authenticate email password : Handler Token _).All (system Token).Answers Quiet := by
  apply All.perform_bind (by trivial)
  intro user _
  cases user with
  | none => trivial
  | some user =>
    apply All.require_bind
    intro _
    apply All.require_bind
    intro _
    apply All.bind
    · exact All.perform_bind (by trivial) fun _ _ => (all_perform _).mpr trivial
    intro _
    apply All.bind (createToken_quiet ..)
    intro accessToken
    apply All.bind (createToken_quiet ..)
    exact fun _ => trivial

omit [DecidableEq Token] [Crypto Token] [Runtime] [Normalize] in
lemma counter_congr {r r' : Redis Token} (h : r.attempts = r'.attempts) (now : Time)
    (key : String) :
    r.counter now key = r'.counter now key := by
  unfold Redis.counter
  rw [h]

def count (c : Clocked Token) (now : Time) (key : String) : ℕ :=
  ((c.state.redis.counter now key).map Prod.fst).getD 0

inductive Counts (key : String) (c d : Clocked Token) : Prop
  | again (n : ℕ) (expiry : Option Time)
      (found : c.state.redis.counter d.state.now key = some (n, expiry))
      (attempts : d.state.redis.attempts =
        Function.update c.state.redis.attempts key (some (n + 1, expiry)))
  | first (now : Time) (stop : now ≤ d.state.now) (gone : c.state.redis.counter now key = none)
      (attempts : d.state.redis.attempts = Function.update c.state.redis.attempts key
        (some (1, some (d.state.now + seconds loginLockoutTtl))))

inductive Handled (key : String) (c d : Clocked Token) : Except Exn (Response Token) → Prop
  | locked (now : Time) (start : c.state.now ≤ now) (stop : now ≤ d.state.now)
      (full : maxLoginAttempts ≤ count c now key)
      (attempts : d.state.redis.attempts = c.state.redis.attempts) :
      Handled key c d (.error .accountLockedError)
  | refused (now : Time) (start : c.state.now ≤ now) (stop : now ≤ d.state.now)
      (free : count c now key < maxLoginAttempts) (counts : Counts key c d) :
      Handled key c d (.error .invalidCredentialsError)
  | admitted (now : Time) (start : c.state.now ≤ now) (stop : now ≤ d.state.now)
      (free : count c now key < maxLoginAttempts) (response : Response Token)
      (attempts : d.state.redis.attempts = Function.update c.state.redis.attempts key none) :
      Handled key c d (.ok response)
  | raised (now : Time) (start : c.state.now ≤ now) (stop : now ≤ d.state.now)
      (free : count c now key < maxLoginAttempts) (e : Exn) (he : e ≠ .invalidCredentialsError)
      (attempts : d.state.redis.attempts = c.state.redis.attempts) : Handled key c d (.error e)

/-- No counter is stored before its first failure. -/
def Positive (c : Clocked Token) : Prop :=
  ∀ key expiry, c.state.redis.attempts key ≠ some (0, expiry)

def stored (c : Clocked Token) (key : String) (counter : ℕ × Option Time) : Clocked Token :=
  ⟨{ c.tick with redis := c.state.redis.setCounter key (some counter) }, fun n => c.drift (n + 1)⟩

lemma recordFailedLogin_counts (hc : Positive c) :
    ∃ n d, (recordFailedLogin email).alone timed c = (.ok n, d) ∧ c.state.now ≤ d.state.now ∧
      Counts (loginAttemptsKey email) c d := by
  have hincr : timed (.incrAttempts (loginAttemptsKey email)) c =
      (.ok (c.state.redis.incr c.tick.now (loginAttemptsKey email)).1,
        stored c (loginAttemptsKey email)
          (c.state.redis.incr c.tick.now (loginAttemptsKey email))) := rfl
  rw [recordFailedLogin, alone_perform_bind hincr]
  cases hfound : c.state.redis.counter c.tick.now (loginAttemptsKey email) with
  | none =>
    have hfirst : c.state.redis.incr c.tick.now (loginAttemptsKey email) = (1, none) := by
      simp [Redis.incr, hfound]
    rw [hfirst]
    have hexpire : timed (.expireAttempts (loginAttemptsKey email) loginLockoutTtl)
        (stored c (loginAttemptsKey email) (1, none)) = (.ok (), stored
          (stored c (loginAttemptsKey email) (1, none)) (loginAttemptsKey email)
          (1, some ((stored c (loginAttemptsKey email) (1, none)).tick.now +
            seconds loginLockoutTtl))) := by
      simp [timed, exec, stored, Redis.counter, Redis.setCounter, live, Clocked.tick, Option.filter]
    simp only [if_true, alone_perform_bind hexpire, alone_pure]
    refine ⟨_, _, rfl, (now_tick c).trans (now_tick _), .first c.tick.now (now_tick _) hfound ?_⟩
    exact Function.update_idem _ _ _
  | some found =>
    obtain ⟨n, expiry⟩ := found
    have hagain : c.state.redis.incr c.tick.now (loginAttemptsKey email) = (n + 1, expiry) := by
      simp [Redis.incr, hfound]
    have hn : n ≠ 0 := by
      rintro rfl
      exact hc _ _ (Option.filter_eq_some_iff.mp hfound).1
    rw [hagain]
    simp only [Nat.add_eq_right, hn, if_false]
    exact ⟨_, _, rfl, now_tick c, .again n expiry hfound rfl⟩

omit [DecidableEq Token] [Crypto Token] [Runtime] [Normalize] in
lemma Counts.of_later (h : Later c d) {d' : Clocked Token} (hd : Counts key d d') :
    Counts key c d' := by
  have hcounter := counter_congr h.attempts
  cases hd with
  | again n expiry found attempts =>
    exact .again n expiry ((hcounter _ _).symm.trans found) (by rw [attempts, h.attempts])
  | first now stop gone attempts =>
    exact .first now stop ((hcounter _ _).symm.trans gone) (by rw [attempts, h.attempts])

omit [DecidableEq Token] [Crypto Token] [Runtime] [Normalize] in
lemma Positive.of_later (hc : Positive c) (h : Later c d) : Positive d := by
  intro key expiry
  rw [h.attempts]
  exact hc key expiry

lemma login_handled (hc : Positive c) (email password : String) :
    c.state.now ≤ ((login email password).alone timed c).2.state.now ∧
      Handled (loginAttemptsKey email) c ((login email password).alone timed c).2
        ((login email password).alone timed c).1 := by
  have hget : (getLoginAttempts email : Handler Token ℕ).alone timed c =
      (.ok (count c c.tick.now (loginAttemptsKey email)),
        ⟨c.tick, fun n => c.drift (n + 1)⟩) := rfl
  rw [login, alone_bind_ok hget, alone_require_bind]
  split
  case isFalse hfull =>
    exact ⟨now_tick c, .locked c.tick.now (now_tick c) le_rfl (not_lt.mp hfull) rfl⟩
  case isTrue hfree =>
    have hquiet : Later ⟨c.tick, fun n => c.drift (n + 1)⟩
        ((authenticate email password).alone timed ⟨c.tick, fun n => c.drift (n + 1)⟩).2 :=
      quiet_alone (authenticate_quiet email password)
    rw [alone_bind, alone_tryCatch]
    generalize (authenticate email password).alone timed ⟨c.tick, fun n => c.drift (n + 1)⟩ = r
      at hquiet
    have hd : Later c r.2 := ⟨(now_tick c).trans hquiet.now, hquiet.attempts⟩
    obtain ⟨e | ⟨user, tokens⟩, d⟩ := r
    all_goals replace hd : Later c d := hd
    all_goals replace hquiet : c.tick.now ≤ d.state.now := hquiet.now
    · by_cases he : e = .invalidCredentialsError
      · subst he
        obtain ⟨n, d', hrecord, hnow, hcounts⟩ := recordFailedLogin_counts (hc.of_later hd)
        dsimp only
        rw [alone_bind_ok hrecord]
        exact ⟨hd.now.trans hnow, .refused c.tick.now (now_tick c) (hquiet.trans hnow) hfree
          (hcounts.of_later hd)⟩
      · have hraised : Handled (loginAttemptsKey email) c d (.error e) :=
          .raised c.tick.now (now_tick c) hquiet hfree e he hd.attempts
        cases e with
        | invalidCredentialsError => exact (he rfl).elim
        | _ => exact ⟨hd.now, hraised⟩
    · have hreset : (resetLoginAttempts email : Handler Token Unit).alone timed d =
          (.ok (), ⟨{ d.tick with redis := d.state.redis.setCounter (loginAttemptsKey email) none },
            fun n => d.drift (n + 1)⟩) := rfl
      simp only [alone_bind_ok hreset, alone_pure]
      refine ⟨(now_tick c).trans (hquiet.trans (now_tick d)),
        .admitted c.tick.now (now_tick c) (hquiet.trans (now_tick d)) hfree _ ?_⟩
      exact congrArg (fun a => Function.update a (loginAttemptsKey email) none) hd.attempts

/-- After `n` refused passwords the counter is there, and no lower. -/
structure Counted (key : String) (n : ℕ) (c : Clocked Token) : Prop where
  positive : Positive c
  le : n ≤ maxLoginAttempts
  stored : n ≠ 0 → ∃ k expiry, c.state.redis.attempts key = some (k, expiry) ∧
    live c.state.now expiry = true ∧ n ≤ k

/-- The request that `l` records has been handled. -/
structure Recorded (l : Login Token) : Prop where
  later : l.before.state.now ≤ l.after.state.now
  handled : Handled (loginAttemptsKey l.email) l.before l.after l.outcome

omit [DecidableEq Token] [Crypto Token] [Runtime] [Normalize] in
lemma Handled.positive {r : Except Exn (Response Token)} (hc : Positive c) (h : Handled key c d r) :
    Positive d := by
  intro key' expiry hd
  have hupdate : ∀ {m : ℕ} {e : Option Time},
      d.state.redis.attempts = Function.update c.state.redis.attempts key
      (some (m + 1, e)) → False := by
    intro m e hattempts
    rw [hattempts, Function.update_apply] at hd
    split at hd
    · cases hd
    · exact hc key' expiry hd
  cases h with
  | locked _ _ _ _ hattempts | raised _ _ _ _ _ _ hattempts =>
    rw [hattempts] at hd
    exact hc key' expiry hd
  | refused _ _ _ _ hcounts =>
    cases hcounts with
    | again _ _ _ hattempts | first _ _ _ hattempts => exact hupdate hattempts
  | admitted _ _ _ _ _ hattempts =>
    rw [hattempts, Function.update_apply] at hd
    split at hd
    · cases hd
    · exact hc key' expiry hd

omit [DecidableEq Token] [Crypto Token] [Runtime] [Normalize] in
lemma counter_of_unexpired {l : Login Token} {k : ℕ} {expiry : Option Time} {now : Time}
    (hstored : l.before.state.redis.attempts key = some (k, expiry))
    (hlive : live l.before.state.now expiry = true) (hl : l.expires key = false)
    (hnow : now ≤ l.after.state.now) : l.before.state.redis.counter now key = some (k, expiry) := by
  rw [Redis.counter, hstored, Option.filter_eq_some_iff]
  refine ⟨rfl, ?_⟩
  cases expiry with
  | none => rfl
  | some e =>
    simp only [live, decide_eq_true_eq] at hlive ⊢
    simp only [Login.expires, hstored, hlive, decide_true, Bool.true_and, decide_eq_false_iff_not,
      not_le] at hl
    exact hnow.trans_lt hl

omit [DecidableEq Token] [Crypto Token] [Runtime] [Normalize] in
lemma Counted.read {n : ℕ} {l : Login Token} (h : Counted key n l.before)
    (hl : n = 0 ∨ l.expires key = false) (hn : n ≠ 0) :
    ∃ k expiry, l.before.state.redis.attempts key = some (k, expiry) ∧ n ≤ k ∧
      ∀ now ≤ l.after.state.now, l.before.state.redis.counter now key = some (k, expiry) := by
  obtain ⟨k, expiry, hstored, hlive, hle⟩ := h.stored hn
  exact ⟨k, expiry, hstored, hle, fun now hnow =>
    counter_of_unexpired hstored hlive (hl.resolve_left hn) hnow⟩

omit [DecidableEq Token] [Crypto Token] [Runtime] [Normalize] in
lemma Counted.unchanged {n : ℕ} {l : Login Token} (h : Counted key n l.before)
    (hl : n = 0 ∨ l.expires key = false) (hpos : Positive l.after)
    (hattempts : l.after.state.redis.attempts key = l.before.state.redis.attempts key) :
    Counted key n l.after := by
  refine ⟨hpos, h.le, fun hn => ?_⟩
  obtain ⟨k, expiry, hstored, hle, hread⟩ := h.read hl hn
  exact ⟨k, expiry, hattempts.trans hstored, (Option.filter_eq_some_iff.mp (hread _ le_rfl)).2, hle⟩

omit [DecidableEq Token] [Crypto Token] [Runtime] [Normalize] in
lemma Counted.refused {n : ℕ} {l : Login Token} (h : Counted key n l.before)
    (hl : n = 0 ∨ l.expires key = false) (hpos : Positive l.after)
    (hcounts : Counts key l.before l.after) {now : Time} (hnow : now ≤ l.after.state.now)
    (hfree : count l.before now key < maxLoginAttempts) {m : ℕ} (hm : m ≤ 1) :
    Counted key (n + m) l.after := by
  refine ⟨hpos, ?_, fun _ => ?_⟩
  · by_cases hn : n = 0
    · simp only [maxLoginAttempts]
      omega
    · obtain ⟨k, expiry, -, hle, hread⟩ := h.read hl hn
      simp only [count, hread now hnow, Option.map_some, Option.getD_some] at hfree
      omega
  · cases hcounts with
    | again k expiry found attempts =>
      refine ⟨k + 1, expiry, by rw [attempts, Function.update_self],
        (Option.filter_eq_some_iff.mp found).2, ?_⟩
      by_cases hn : n = 0
      · omega
      · obtain ⟨k', expiry', -, hle, hread⟩ := h.read hl hn
        have := found.symm.trans (hread _ le_rfl)
        simp only [Option.some.injEq, Prod.mk.injEq] at this
        omega
    | first now' stop gone attempts =>
      have hn : n = 0 := by
        by_contra hn
        obtain ⟨k, expiry, -, -, hread⟩ := h.read hl hn
        cases gone.symm.trans (hread _ stop)
      refine ⟨1, _, by rw [attempts, Function.update_self], ?_, by omega⟩
      simp [live, seconds, loginLockoutTtl]

omit [DecidableEq Token] [Crypto Token] in
lemma Counted.step {email : String} {n : ℕ} {l : Login Token}
    (h : Counted (loginAttemptsKey email) n l.before) (hr : Recorded l)
    (hl : n = 0 ∨ l.expires (loginAttemptsKey email) = false)
    (hs : l.email = email → l.succeeds = false) (hshared : l.sharesReset email = false) :
    Counted (loginAttemptsKey email) (n + if l.failed email then 1 else 0) l.after := by
  obtain ⟨-, hr⟩ := hr
  have hpos := hr.positive h.positive
  obtain ⟨email', before, outcome, after⟩ := l
  have hother : ∀ {a}, loginAttemptsKey email' ≠ loginAttemptsKey email →
      after.state.redis.attempts =
        Function.update before.state.redis.attempts (loginAttemptsKey email') a →
      after.state.redis.attempts (loginAttemptsKey email) =
        before.state.redis.attempts (loginAttemptsKey email) := by
    intro a hne hattempts
    rw [hattempts, Function.update_of_ne hne.symm]
  dsimp only at hr hs h hl hpos ⊢
  cases hr with
  | locked _ _ _ _ hattempts =>
    simpa [Login.failed] using h.unchanged hl hpos (congrFun hattempts _)
  | raised _ _ _ _ e he hattempts =>
    have hfailed : Login.failed email ⟨email', before, .error e, after⟩ = false := by
      cases e <;> simp_all [Login.failed]
    simpa [hfailed] using h.unchanged hl hpos (congrFun hattempts _)
  | admitted _ _ _ _ response hattempts =>
    have hne : loginAttemptsKey email' ≠ loginAttemptsKey email := by
      intro hkey
      by_cases heq : email' = email
      · cases hs heq
      · simp [Login.sharesReset, Login.succeeds, heq, hkey, Except.isOk, Except.toBool] at hshared
    simpa [Login.failed] using h.unchanged hl hpos (hother hne hattempts)
  | refused now _ stop hfree hcounts =>
    by_cases hkey : loginAttemptsKey email' = loginAttemptsKey email
    · rw [hkey] at hfree hcounts
      exact h.refused hl hpos hcounts stop hfree (by split <;> simp)
    · have hne : email' ≠ email := fun heq => hkey (congrArg _ heq)
      have hattempts : after.state.redis.attempts (loginAttemptsKey email) =
          before.state.redis.attempts (loginAttemptsKey email) := by
        cases hcounts with
        | again _ _ _ hattempts | first _ _ _ hattempts => exact hother hkey hattempts
      simpa [Login.failed, hne] using h.unchanged hl hpos hattempts

/-- The requests have been handled one after the other, from `c` on. -/
def Handles (c : Clocked Token) : List (Login Token) → Prop
  | [] => True
  | l :: steps => l.before = c ∧ Recorded l ∧ Handles l.after steps

def final (c : Clocked Token) (steps : List (Login Token)) : Clocked Token :=
  steps.foldl (fun _ l => l.after) c

lemma handles_logins (requests : List (String × String)) (hc : Positive c) :
    Handles c (logins requests c) := by
  induction requests generalizing c with
  | nil => trivial
  | cons request requests ih =>
    obtain ⟨email, password⟩ := request
    have hr := login_handled hc email password
    exact ⟨rfl, ⟨hr.1, hr.2⟩, ih (hr.2.positive hc)⟩

omit [DecidableEq Token] [Crypto Token] in
lemma Handles.append {before after : List (Login Token)} (h : Handles c (before ++ after)) :
    Handles c before ∧ Handles (final c before) after := by
  induction before generalizing c with
  | nil => exact ⟨trivial, h⟩
  | cons l before ih =>
    obtain ⟨hb, hl, hrest⟩ := h
    exact ⟨⟨hb, hl, (ih hrest).1⟩, (ih hrest).2⟩

omit [DecidableEq Token] [Crypto Token] in
lemma Handles.positive {steps : List (Login Token)} (h : Handles c steps) (hc : Positive c) :
    Positive (final c steps) := by
  induction steps generalizing c with
  | nil => exact hc
  | cons l steps ih =>
    obtain ⟨rfl, hl, hrest⟩ := h
    exact ih hrest (hl.handled.positive hc)

omit [DecidableEq Token] [Crypto Token] in
lemma Counted.run {n : ℕ} {steps : List (Login Token)} (h : Counted (loginAttemptsKey email) n c)
    (hs : Handles c steps)
    (hfirst : n = 0 ∨ ∀ l ∈ steps, l.expires (loginAttemptsKey email) = false)
    (hu : Unreset email steps) (hshared : ∀ l ∈ steps, l.sharesReset email = false) :
    Counted (loginAttemptsKey email) (n + steps.countP (Login.failed email)) (final c steps) := by
  induction steps generalizing c n with
  | nil => exact h
  | cons l steps ih =>
    obtain ⟨rfl, hl, hrest⟩ := hs
    have hstep := h.step hl (hfirst.imp_right fun hx => hx l (by simp))
      (hu.unsuccessful l (by simp)) (hshared l (by simp))
    have hrun := ih hstep hrest (.inr hu.unexpired)
      ⟨fun l' hl' => hu.unexpired l' (List.mem_of_mem_tail hl'),
        fun l' hl' => hu.unsuccessful l' (by simp [hl'])⟩ fun l' hl' => hshared l' (by simp [hl'])
    rw [List.countP_cons, Nat.add_comm (steps.countP _), ← Nat.add_assoc]
    exact hrun

omit [DecidableEq Token] [Crypto Token] in
lemma Counted.locked {l : Login Token}
    (h : Counted (loginAttemptsKey l.email) maxLoginAttempts l.before) (hr : Recorded l)
    (hl : l.expires (loginAttemptsKey l.email) = false) :
    l.outcome = .error .accountLockedError := by
  obtain ⟨k, expiry, -, hle, hread⟩ := h.read (.inr hl) (by decide)
  have hfull : ∀ now ≤ l.after.state.now,
      ¬count l.before now (loginAttemptsKey l.email) < maxLoginAttempts := by
    intro now hnow
    simpa [count, hread now hnow] using hle
  obtain ⟨-, hr⟩ := hr
  generalize l.outcome = outcome at hr
  cases hr with
  | locked => rfl
  | refused now _ stop free | admitted now _ stop free | raised now _ stop free =>
    exact (hfull now stop free).elim

end Lockout

/-- Where no login to another account with the same counter succeeds, the account locks out. -/
theorem locks_out_unshared (c : Clocked Token) (hc : Lockout.Positive c)
    (requests : List (String × String)) (email : String)
    (hshared : ∀ l ∈ logins requests c, l.sharesReset email = false) :
    LocksOut email (logins requests c) := by
  intro before window after hsteps hu
  have hhandles := Lockout.handles_logins requests hc
  rw [hsteps] at hhandles hshared
  obtain ⟨hinit, hafter⟩ := hhandles.append
  obtain ⟨hbefore, hwindow⟩ := hinit.append
  have hzero : Lockout.Counted (loginAttemptsKey email) 0 (Lockout.final c before) :=
    ⟨hbefore.positive hc, Nat.zero_le _, fun h => (h rfl).elim⟩
  have hcounted := hzero.run hwindow (.inl rfl) hu fun l hl => hshared l (by simp [hl])
  rw [Nat.zero_add] at hcounted
  refine ⟨hcounted.le, fun hfull l hl hexpires hemail => ?_⟩
  cases after with
  | nil => cases hl
  | cons l' after =>
    cases hl
    obtain ⟨hstart, hr, -⟩ := hafter
    subst hemail
    apply Lockout.Counted.locked _ hr hexpires
    rw [hfull] at hcounted
    rw [hstart, Lockout.final, List.foldl_append]
    exact hcounted

end

section Sample

attribute [local instance] Runtime.ascii Crypto.transparent Normalize.plain

def clocked : Clocked (Claims × String) := ⟨Sample.state, fun _ => 0⟩

/-- Nine guesses at ada's password, a login of eve's, and nine guesses more. -/
def guesses : List (String × String) :=
  List.replicate 9 ("ada@x", "no") ++ [("Ada@x", "pw")] ++ List.replicate 9 ("ada@x", "no")

theorem locks_out_unshared_alone :
    LocksOut "ada@x" (logins (List.replicate 12 ("ada@x", "no")) clocked) :=
  locks_out_unshared clocked (fun _ _ h => by cases h) (List.replicate 12 ("ada@x", "no")) "ada@x"
    (by decide +kernel)

/-- The login of another user resets the counter of ada's account. -/
theorem other_login_resets_counter : ¬LocksOut "ada@x" (logins guesses clocked) := by
  intro h
  have hunreset : Unreset "ada@x" (logins guesses clocked) :=
    ⟨by decide +kernel, by decide +kernel⟩
  have hle := (h [] (logins guesses clocked) [] (by simp) hunreset).1
  exact absurd hle (by decide +kernel)

end Sample

end Askit.Auth
