import Askit.Game.Entitlement
import Mathlib.Data.List.Pairwise

/-! Where the tokens come from that admit players: each has been handed out by one join, for the
player that this join has created, and it admits to the room of that join only. -/

namespace Askit.Game

open Interleaving Machine Coro Tables

section

variable [Runtime]

def Issued (c : system.Config) (j : ℕ) (roomCode token : String) (playerId : UUID) : Prop :=
  ∃ code nickname user sessionId, c.calls[j]? = some (.joinRoom code nickname user) ∧
    Runtime.upper code = Runtime.upper roomCode ∧
    ⟨j, .commit { newPlayer := some ⟨playerId, sessionId, nickname, user, 0, true⟩ }, .ok ()⟩ ∈
      c.world.history ∧
    ⟨j, .setWsToken token playerId wsTokenTtl, .ok ()⟩ ∈ c.world.history

def Recognised (c : system.Config) (i : ℕ) (roomCode token : String) (playerId : UUID) : Prop :=
  ∃ id origin room, c.calls[i]? = some (.playerEndpoint id roomCode origin (some token)) ∧
    ⟨i, .getWsToken token, .ok (some playerId)⟩ ∈ c.world.history ∧
    ⟨i, .getRoom roomCode, .ok (some room)⟩ ∈ c.world.history ∧ ∃ p ∈ room.players,
      p.playerId = playerId

namespace Tickets

open Residents (Joined)

/-! Only the join hands out tokens. -/

def Op.Tokenless : {β : Type} → Op β → Prop
  | _, .setWsToken .. => False
  | _, _ => True

abbrev Tokenless {α : Type} (x : Handler α) : Prop := x.All system.Answers Op.Tokenless

lemma code_tokenless (call : Call)
    (h : ∀ roomCode nickname user, call ≠ .joinRoom roomCode nickname user) :
    Tokenless (code call) := by
  apply All.mono (code_keeps call)
  intro β o ho
  cases o with
  | setWsToken =>
    cases call with
    | joinRoom roomCode nickname user => exact h _ _ _ rfl
    | _ => exact ho
  | _ => trivial

abbrev Ev := Event Op Exn

section Duty

variable {i : ℕ} {call : Call} {l : List Ev} {α β γ : Type}

def Duty (call : Call) (l : List Ev) : Ev → Prop
  | ⟨i, .setWsToken token playerId ttl, _⟩ => (∀ t p n r, ⟨i, .setWsToken t p n, r⟩ ∉ l) ∧
      ⟨i, .uuid4, .ok token⟩ ∈ l ∧ ttl = wsTokenTtl ∧ ∃ roomCode nickname user room,
        call = .joinRoom roomCode nickname user ∧
        ⟨i, .getRoom roomCode, .ok (some room)⟩ ∈ l ∧
        ⟨i, .commit { newPlayer := some ⟨playerId, room.session.sessionId, nickname, user, 0, true⟩
          }, .ok ()⟩ ∈ l
  | _ => True

abbrev Follows (i : ℕ) (call : Call) (Q : Except Exn α → List Ev → Prop) (x : Handler α)
    (l : List Ev) : Prop :=
  x.Follows system.Answers i (Duty call) Q l

omit [Runtime] in
lemma tokenless_duty {o : Op β} (ho : Op.Tokenless o) (r : Except Exn β) :
    Duty call l ⟨i, o, r⟩ := by
  cases o with
  | setWsToken => exact ho.elim
  | _ => trivial

lemma tokenless_ends {x : Handler α} (hx : Tokenless x) : Follows i call (fun _ _ => True) x l :=
  .of_all hx (fun _ r _ ho _ _ => ⟨tokenless_duty ho r, trivial⟩) trivial

def Unissued (i : ℕ) (l : List Ev) : Prop := ∀ t p n r, ⟨i, .setWsToken t p n, r⟩ ∉ l

omit [Runtime] in
lemma Unissued.append (h : Unissued i l) {o : Op β} (ho : Op.Tokenless o) (r : Except Exn β) :
    Unissued i (l ++ [⟨i, o, r⟩]) := by
  intro t p n q hmem
  rcases List.mem_append.mp hmem with hmem | hmem
  · exact h t p n q hmem
  · cases List.mem_singleton.mp hmem
    exact ho

lemma tokenless_bind {o : Op γ} {f : γ → Handler β} {Q : Except Exn β → List Ev → Prop}
    (ho : Op.Tokenless o) (hl : Unissued i l)
    (hf : ∀ a, system.Answers o a → Unissued i (l ++ [⟨i, o, .ok a⟩]) →
      Follows i call Q (f a) (l ++ [⟨i, o, .ok a⟩]))
    (he : ∀ e, Q (.error e) (l ++ [⟨i, o, .error e⟩])) : Follows i call Q (await o >>= f) l :=
  .perform_bind (fun r _ => tokenless_duty ho r) (fun a ha => hf a ha (hl.append ho _)) he

lemma playerId_of_answers {playerId : UUID} {p : GamePlayer}
    (h : system.Answers (.getPlayer playerId) (some p)) :
    p.playerId = playerId := by
  obtain ⟨(s : State), hs⟩ := h
  have hp : (State.db s).players.get? playerId = some p := by simpa [system, exec] using hs
  exact Table.key_get? hp

lemma joinRoom_follows (roomCode nickname : String) (user : Option UUID) (hl : Unissued i l) :
    Follows i call (fun r l' => ∀ p, r = .ok p → Unissued i l' ∧ ∃ room,
      ⟨i, .getRoom roomCode, .ok (some room)⟩ ∈ l' ∧
        ⟨i, .commit
          { newPlayer := some ⟨p.playerId, room.session.sessionId, nickname, user, 0, true⟩ },
          .ok ()⟩ ∈ l')
      (joinRoom roomCode nickname user) l := by
  have hfail : ∀ (e : Exn) (l' : List Ev) (p : GamePlayer),
    (.error e : Except Exn GamePlayer) = .ok p →
      Unissued i l' ∧ ∃ room, ⟨i, .getRoom roomCode, .ok (some room)⟩ ∈ l' ∧
        ⟨i, .commit { newPlayer := some ⟨p.playerId, room.session.sessionId, nickname, user, 0,
          true⟩ }, .ok ()⟩ ∈ l' := by
    rintro _ _ _ ⟨⟩
  apply tokenless_bind (by trivial) hl
  swap
  · exact fun e => hfail e _
  rintro (_ | room) - hl
  · exact hfail _ _
  iterate 4
    apply Follows.require_bind
    swap
    · exact fun _ => hfail _ _
    intro _
  apply tokenless_bind (by trivial) hl
  swap
  · exact fun e => hfail e _
  intro playerId _ hl
  apply tokenless_bind (by trivial) hl
  swap
  · exact fun e => hfail e _
  intro _ _ hl
  apply tokenless_bind (by trivial) hl
  swap
  · exact fun e => hfail e _
  rintro refreshed hrefreshed hl p ⟨⟩
  have hid : (refreshed.getD ⟨playerId, room.session.sessionId, nickname, user, 0, true⟩).playerId =
      playerId := by
    cases refreshed with
    | none => rfl
    | some row => exact playerId_of_answers hrefreshed
  exact ⟨hl, room, by simp, by simp [hid]⟩

lemma code_follows (i : ℕ) (call : Call) : Follows i call (fun _ _ => True) (code call) [] := by
  by_cases h : ∀ roomCode nickname user, call ≠ .joinRoom roomCode nickname user
  · exact tokenless_ends (code_tokenless call h)
  · simp only [ne_eq, not_forall, not_not] at h
    obtain ⟨roomCode, nickname, user, rfl⟩ := h
    have hnil : Unissued i [] := fun _ _ _ _ hmem => (by cases hmem)
    apply Follows.bind (joinRoom_follows roomCode nickname user hnil)
    swap
    · exact fun _ _ _ => trivial
    intro player l₁ h₁
    obtain ⟨hl₁, room, hread, hcommit⟩ := h₁ player rfl
    apply tokenless_bind (by trivial) hl₁
    swap
    · exact fun _ => trivial
    intro token _ hl₂
    apply Follows.perform
    exact fun r _ => ⟨⟨hl₂, by simp, rfl, roomCode, nickname, user, room, rfl, by simp [hread], by
      simp [hcommit]⟩, trivial⟩

end Duty

section Runs

def drawnId : Ev → Option UUID
  | ⟨_, .uuid4, .ok id⟩ => some id
  | _ => none

def Truthful (s : State) (history : List Ev) : Ev → Prop
  | ⟨_, .getWsToken token, .ok (some playerId)⟩ =>
    ∃ j n, ⟨j, .setWsToken token playerId n, .ok ()⟩ ∈ history
  | ⟨_, .commit changes, .ok _⟩ => ∀ p ∈ changes.newPlayer, Joined s p.sessionId p.playerId
  | _ => True

variable {s₀ s t : State} {c : system.Config} {history history' : List Ev}
    {sessionId playerId : UUID}

omit [Runtime] in
lemma truthful_of_error {i : ℕ} {β : Type} (o : Op β) (e : Exn) :
    Truthful s history ⟨i, o, .error e⟩ := by
  cases o <;> trivial

omit [Runtime] in
lemma Truthful.mono {ev : Ev} (h : Truthful s history ev) (hh : history ⊆ history')
    (hj : ∀ sessionId playerId, Joined s sessionId playerId → Joined t sessionId playerId) :
    Truthful t history' ev := by
  obtain ⟨i, o, r⟩ := ev
  cases r with
  | error e => exact truthful_of_error o e
  | ok a =>
    cases o with
    | getWsToken token =>
      cases a with
      | none => trivial
      | some playerId =>
        obtain ⟨j, n, hev⟩ := h
        exact ⟨j, n, hh hev⟩
    | commit changes => exact fun p hp => hj _ _ (h p hp)
    | _ => exact h

def Drawn (first last : ℕ) (ids : List UUID) : Prop :=
  ids.Nodup ∧ ∀ id ∈ ids, ∃ n, first ≤ n ∧ n < last ∧ id = Runtime.uuid4 n

section Drawn

variable {first last last' : ℕ} {ids : List UUID}

lemma drawn_nil (first : ℕ) : Drawn first first [] := ⟨List.nodup_nil, fun id h => (by cases h)⟩

lemma Drawn.mono (h : Drawn first last ids) (hle : last ≤ last') : Drawn first last' ids :=
  ⟨h.1, fun id hid => (h.2 id hid).imp fun _ hn => ⟨hn.1, hn.2.1.trans_le hle, hn.2.2⟩⟩

lemma Drawn.concat (h : Drawn first last ids) (hle : first ≤ last) :
    Drawn first (last + 1) (ids ++ [Runtime.uuid4 last]) := by
  constructor
  · rw [List.nodup_append]
    refine ⟨h.1, List.nodup_singleton _, ?_⟩
    rintro id hid id' hid' rfl
    obtain ⟨n, -, hn, heq⟩ := h.2 id hid
    rw [List.mem_singleton] at hid'
    exact absurd (Runtime.uuid4_injective (heq.symm.trans hid')) (Nat.ne_of_lt hn)
  · intro id hid
    rcases List.mem_append.mp hid with hid | hid
    · exact (h.mono (Nat.le_succ _)).2 id hid
    · exact ⟨last, hle, Nat.lt_succ_self _, List.mem_singleton.mp hid⟩

lemma draws_exec {β : Type} (o : Op β) (s : State) : s.draws ≤ (Game.exec o s).2.draws := by
  cases o with
  | uuid4 | shuffle => exact Nat.le_succ _
  | commit changes =>
    cases he : s.db.commit changes with
    | none => rw [exec_commit_none he]
    | some e => rw [exec_commit_some he]
  | listen roomCode =>
    simp only [Game.exec]
    split <;> exact le_rfl
  | _ => exact le_rfl

lemma Drawn.exec (h : Drawn first s.draws (history.filterMap drawnId)) (hle : first ≤ s.draws)
    {i : ℕ} {β : Type} (o : Op β) :
    Drawn first (Game.exec o s).2.draws ((history ++ [(⟨i, o, (Game.exec o s).1⟩ : Ev)]).filterMap
      drawnId) := by
  rw [List.filterMap_append]
  cases o with
  | uuid4 => exact h.concat hle
  | commit changes =>
    have hnone : [(⟨i, .commit changes, (Game.exec (.commit changes) s).1⟩ : Ev)].filterMap
        drawnId = [] := rfl
    rw [hnone, List.append_nil]
    exact h.mono (draws_exec _ s)
  | listen roomCode =>
    have hnone : [(⟨i, .listen roomCode, (Game.exec (.listen roomCode) s).1⟩ : Ev)].filterMap
        drawnId = [] := rfl
    rw [hnone, List.append_nil]
    exact h.mono (draws_exec _ s)
  | _ => exact (List.append_nil _).symm ▸ h.mono (draws_exec _ s)

omit [Runtime] in
lemma drawnId_fault (history : List Ev) (i : ℕ) {β : Type} (o : Op β) (e : Exn) :
    (history ++ [(⟨i, o, .error e⟩ : Ev)]).filterMap drawnId = history.filterMap drawnId := by
  have hnone : [(⟨i, o, .error e⟩ : Ev)].filterMap drawnId = [] := by cases o <;> rfl
  rw [List.filterMap_append, hnone, List.append_nil]

omit [Runtime] in
lemma drawn_once (h : (history.filterMap drawnId).Nodup) {i j : ℕ} {id : UUID}
    (hi : (⟨i, .uuid4, .ok id⟩ : Ev) ∈ history) (hj : (⟨j, .uuid4, .ok id⟩ : Ev) ∈ history) :
    i = j := by
  by_contra hne
  have hpair := List.pairwise_filterMap.mp h
  have : Std.Symm fun a b : Ev => ∀ x, drawnId a = some x → ∀ y, drawnId b = some y → x ≠ y :=
    ⟨fun a b hab x hx y hy heq => hab y hy x hx heq.symm⟩
  have hevents : (⟨i, .uuid4, .ok id⟩ : Ev) ≠ ⟨j, .uuid4, .ok id⟩ := by
    rintro ⟨⟩
    exact hne rfl
  exact hpair.forall hi hj hevents id rfl id rfl rfl

end Drawn

/-- What holds in every run: joins do their duty, what has been answered is so, no identifier has
been drawn twice, and the tokens have been handed out in the run. -/
structure Kept (s₀ : State) (c : system.Config) : Prop where
  labelled : c.Labelled
  traced : c.Traced Duty fun _ _ _ => True
  answers : ∀ ev ∈ c.world.history, Truthful c.world.state c.world.history ev
  drawn : Drawn s₀.draws (State.draws c.world.state) (c.world.history.filterMap drawnId)
  draws : s₀.draws ≤ State.draws c.world.state
  tokens : ∀ token playerId, (State.redis c.world.state).wsToken token = some playerId →
    ∃ j n, ⟨j, .setWsToken token playerId n, .ok ()⟩ ∈ c.world.history

lemma kept_start (hfresh : ∀ token, s₀.redis.wsToken token = none) : Kept s₀ (start s₀) where
  labelled := @labelled_start _ _ _ system s₀
  traced := @traced_start _ _ _ system _ _ s₀
  answers ev h := by cases h
  drawn := drawn_nil _
  draws := le_rfl
  tokens token playerId h := by cases (hfresh token).symm.trans h

lemma Kept.truthful (h : Kept s₀ c) {i : ℕ} {β : Type} (o : Op β) :
    Truthful (exec o c.world.state).2 (c.world.history ++ [⟨i, o, (exec o c.world.state).1⟩])
      ⟨i, o, (exec o c.world.state).1⟩ := by
  cases o with
  | getWsToken token =>
    simp only [exec]
    cases htoken : (State.redis c.world.state).wsToken token with
    | none => trivial
    | some playerId =>
      obtain ⟨j, n, hev⟩ := h.tokens token playerId htoken
      exact ⟨j, n, List.mem_append_left _ hev⟩
  | commit changes =>
    cases hr : (exec (.commit changes) c.world.state).1 with
    | error e => trivial
    | ok u => exact fun p hp => Residents.joined_of_commit hp hr
  | _ => trivial

lemma tokens_exec (h : ∀ token playerId, s.redis.wsToken token = some playerId →
      ∃ j n, ⟨j, .setWsToken token playerId n, .ok ()⟩ ∈ history) {i : ℕ} {β : Type} (o : Op β) :
    ∀ token playerId, (exec o s).2.redis.wsToken token = some playerId →
      ∃ j n, ⟨j, .setWsToken token playerId n, .ok ()⟩ ∈ history ++ [⟨i, o, (exec o s).1⟩] := by
  intro token playerId htoken
  have hold : s.redis.wsToken token = some playerId →
      ∃ j n, ⟨j, .setWsToken token playerId n, .ok ()⟩ ∈ history ++ [⟨i, o, (exec o s).1⟩] := by
    intro hs
    obtain ⟨j, n, hev⟩ := h token playerId hs
    exact ⟨j, n, List.mem_append_left _ hev⟩
  cases o with
  | setWsToken t p n =>
    by_cases heq : token = t
    · subst heq
      obtain rfl : p = playerId := by simpa [exec, Redis.setWsToken] using htoken
      exact ⟨i, n, List.mem_concat_self⟩
    · exact hold (by simpa [exec, Redis.setWsToken, Function.update_of_ne heq] using htoken)
  | commit changes =>
    cases he : s.db.commit changes with
    | none =>
      rw [exec_commit_none he] at htoken
      exact hold htoken
    | some e =>
      rw [exec_commit_some he] at htoken
      exact hold htoken
  | listen roomCode =>
    simp only [exec] at htoken
    split at htoken <;> exact hold htoken
  | _ => exact hold htoken

omit [Runtime] in
lemma tokens_env {e : Env} {token : String} {playerId : UUID}
    (h : (e.act s).redis.wsToken token = some playerId) :
    s.redis.wsToken token = some playerId := by
  cases e with
  | clock now => exact h
  | lose key =>
    cases key with
    | wsToken t =>
      by_cases heq : token = t
      · subst heq
        simp [Env.act, Redis.lose, Redis.setWsToken] at h
      · simpa [Env.act, Redis.lose, Redis.setWsToken, Function.update_of_ne heq] using h
    | _ => exact h

lemma enter_draws {call : Call} {u : State} (h : enter call s = some u) : u.draws = s.draws := by
  cases call with
  | hostFrames | playerFrame | questionTimeout =>
    simp only [enter] at h
    split at h <;> cases h
    rfl
  | _ =>
    cases h
    rfl

lemma Kept.step (h : Kept s₀ c) (a : system.Act) : Kept s₀ (Machine.step a c) := by
  have hlabelled := h.labelled.step a
  have htraced := h.traced.step h.labelled (fun i call => code_follows i call) a
  have hm := step_moves a c
  generalize Machine.step a c = d at hm hlabelled htraced
  cases hm with
  | idle => exact h
  | spawn call s admitted =>
    obtain ⟨hdb, hredis, -⟩ := enter_eq_some admitted
    have hroster : ∀ sessionId playerId, Joined c.world.state sessionId playerId →
        Joined s sessionId playerId := by
      rintro sessionId playerId ⟨nickname, hmem⟩
      exact ⟨nickname, hdb ▸ hmem⟩
    refine ⟨hlabelled, htraced, fun ev hev => (h.answers ev hev).mono (List.Subset.refl _) hroster,
      (enter_draws admitted).symm ▸ h.drawn, (enter_draws admitted).symm ▸ h.draws,
      fun token playerId ht => ?_⟩
    exact h.tokens token playerId (hredis ▸ ht)
  | env e =>
    refine ⟨hlabelled, htraced, ?_, ?_, ?_, fun token playerId ht => h.tokens token playerId
      (tokens_env ht)⟩ <;>
      cases e
    · exact h.answers
    · exact h.answers
    · exact h.drawn
    · exact h.drawn
    · exact h.draws
    · exact h.draws
  | fault i e call o k pending =>
    have hsubset : c.world.history ⊆ c.world.history ++ [⟨i, o, .error e⟩] :=
      List.subset_append_left _ _
    refine ⟨hlabelled, htraced, fun ev hev => ?_, ?_, h.draws, fun token playerId ht => ?_⟩
    · rcases List.mem_append.mp hev with hev | hev
      · exact (h.answers ev hev).mono hsubset fun _ _ hj => hj
      · rw [List.mem_singleton.mp hev]
        exact truthful_of_error o e
    · exact (drawnId_fault _ i o e).symm ▸ h.drawn
    · obtain ⟨j, n, hev⟩ := h.tokens token playerId ht
      exact ⟨j, n, hsubset hev⟩
  | run i call o k pending ready =>
    refine ⟨hlabelled, htraced, fun ev hev => ?_, h.drawn.exec h.draws o,
      h.draws.trans (draws_exec o _), tokens_exec h.tokens o⟩
    rcases List.mem_append.mp hev with hev | hev
    · exact (h.answers ev hev).mono (List.subset_append_left _ _) fun _ _ hj => hj.exec o
    · rw [List.mem_singleton.mp hev]
      exact h.truthful o

lemma kept_run (hfresh : ∀ token, s₀.redis.wsToken token = none) (acts : List system.Act) :
    Kept s₀ (run acts (start s₀)) :=
  (invariant (I := Kept s₀) (P := fun _ => True) (fun t _ h => h.step t.act)
    (kept_start hfresh) acts
    fun _ _ => trivial).2

omit [Runtime] in
lemma split_cases {ev ev' : Ev} {before after before' after' : List Ev}
    (h : before ++ ev :: after = before' ++ ev' :: after') :
    ev = ev' ∨ ev ∈ before' ∨ ev' ∈ before := by
  obtain ⟨gap, hbefore, hrest⟩ | ⟨gap, hbefore, hrest⟩ := List.append_eq_append_iff.mp h
  · cases gap with
    | nil => exact .inl (List.cons.inj hrest).1
    | cons first gap =>
      obtain ⟨rfl, -⟩ := List.cons.inj hrest
      exact .inr (.inl (by simp [hbefore]))
  · cases gap with
    | nil => exact .inl (List.cons.inj hrest).1.symm
    | cons first gap =>
      obtain ⟨rfl, -⟩ := List.cons.inj hrest
      exact .inr (.inr (by simp [hbefore]))

lemma Kept.duty (h : Kept s₀ c) {j : ℕ} {token : String} {playerId : UUID} {n : ℕ}
    {r : Except Exn Unit} {before after : List Ev}
    (hev : c.world.history = before ++ ⟨j, .setWsToken token playerId n, r⟩ :: after) :
    ∃ call, c.calls[j]? = some call ∧ Duty call (own j before)
      ⟨j, .setWsToken token playerId n, r⟩ :=
  h.traced.history before _ after hev

lemma Kept.issued_once (h : Kept s₀ c) {i j : ℕ} {token : String} {playerId playerId' : UUID}
    {n n' : ℕ} {r r' : Except Exn Unit}
    (hi : ⟨i, .setWsToken token playerId n, r⟩ ∈ c.world.history)
    (hj : ⟨j, .setWsToken token playerId' n', r'⟩ ∈ c.world.history) :
    i = j ∧ playerId = playerId' := by
  obtain ⟨before, after, hhistory⟩ := List.append_of_mem hi
  obtain ⟨before', after', hhistory'⟩ := List.append_of_mem hj
  obtain ⟨call, hcall, hfirst, hdrawn, -⟩ := h.duty hhistory
  obtain ⟨call', hcall', hfirst', hdrawn', -⟩ := h.duty hhistory'
  have hsub : own i before ⊆ c.world.history := fun ev hev => by
    rw [hhistory]
    exact List.mem_append_left _ (mem_own.mp hev).1
  have hsub' : own j before' ⊆ c.world.history := fun ev hev => by
    rw [hhistory']
    exact List.mem_append_left _ (mem_own.mp hev).1
  obtain rfl := drawn_once h.drawn.1 (hsub hdrawn) (hsub' hdrawn')
  refine ⟨rfl, ?_⟩
  -- the earlier of the two would have kept the process from the later
  rcases split_cases (hhistory.symm.trans hhistory') with heq | hmem | hmem
  · cases heq
    rfl
  · exact absurd (mem_own.mpr ⟨hmem, rfl⟩) (hfirst' _ _ _ _)
  · exact absurd (mem_own.mpr ⟨hmem, rfl⟩) (hfirst _ _ _ _)

end Runs

end Tickets

open Tickets

/-- Whoever is recognised in a room as a player shows a token that one join of the room has handed
out, on creating that player, and no other join has handed it out. -/
theorem recognised_by_own_join {s : State} (hfresh : ∀ token, s.redis.wsToken token = none)
    (hids : (s.db.sessions.rows.map GameSession.sessionId).Nodup) (acts : List system.Act) {i : ℕ}
    {roomCode token : String} {playerId : UUID}
    (hshown : Recognised (run acts (start s)) i roomCode token playerId) :
    ∃ j, Issued (run acts (start s)) j roomCode token playerId ∧
      ∀ k code player, Issued (run acts (start s)) k code token player →
        k = j ∧ player = playerId := by
  have h := kept_run hfresh acts
  obtain ⟨-, -, room, -, htoken, hread, p, hp, rfl⟩ := hshown
  obtain ⟨j, n, hissued⟩ := h.answers _ htoken
  obtain ⟨before, after, hhistory⟩ := List.append_of_mem hissued
  obtain ⟨call, hcall', -, -, rfl, code, nickname, user, joined, rfl, hread', hcommit⟩ :=
    h.duty hhistory
  have hmem : ∀ {ev : Ev}, ev ∈ own j before → ev ∈ (run acts (start s)).world.history := by
    intro ev hev
    rw [hhistory]
    exact List.mem_append_left _ (mem_own.mp hev).1
  -- the player belongs to one session, and the session to one room
  have hmembers := Residents.kept_run s acts
  obtain ⟨hroom, hplayers⟩ := hmembers.answers _ hread
  obtain ⟨hcode, -⟩ := hmembers.answers _ (hmem hread')
  have hsame : room.session.sessionId = joined.session.sessionId :=
    (hplayers p hp).unique (h.answers _ (hmem hcommit) _ rfl)
  rw [← hsame] at hcode
  refine ⟨j, ⟨code, nickname, user, _, hcall', hroom.unique hids hcode, hmem hcommit, hissued⟩, ?_⟩
  rintro k code' player ⟨-, -, -, -, -, -, -, hissued'⟩
  obtain ⟨hk, hplayer⟩ := h.issued_once hissued hissued'
  exact ⟨hk.symm, hplayer.symm⟩

end

section Sample

attribute [local instance] Runtime.ascii

def joinRun : List system.Act :=
  .spawn (Call.joinRoom "abcdef" "Cyd" none) :: runs 0 6 ++
    .spawn (Call.playerEndpoint 7 "ABCDEF" none (some "x")) :: runs 1 2

theorem recognised_by_own_join_cyd :
    ∃ j, Issued (run joinRun (start Sample.state)) j "ABCDEF" "x" "" ∧
      ∀ k code player, Issued (run joinRun (start Sample.state)) k code "x" player →
        k = j ∧ player = "" := by
  have htoken : (run joinRun (start Sample.state)).world.history[6]? = some
      ⟨1, .getWsToken "x", .ok (some "")⟩ := by
    rfl
  have hroom : ∃ room, (run joinRun (start Sample.state)).world.history[7]? =
      some ⟨1, .getRoom "ABCDEF", .ok (some room)⟩ ∧ ∃ p ∈ room.players, p.playerId = "" :=
    ⟨_, rfl, by decide +kernel⟩
  obtain ⟨room, hread, hplayer⟩ := hroom
  have hshown : Recognised (run joinRun (start Sample.state)) 1 "ABCDEF" "x" "" :=
    ⟨7, none, room, rfl, List.mem_of_getElem? htoken, List.mem_of_getElem? hread, hplayer⟩
  exact recognised_by_own_join (fun _ => rfl) (by decide +kernel) joinRun hshown

end Sample

end Askit.Game
