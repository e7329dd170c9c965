import Askit.Game.RoomTables

/-! Two states as one room sees them. Operations of the room are answered the same in both and keep
them the same, and operations of other rooms are not seen. -/

namespace Askit.Game

open Interleaving Coro Tables
variable [Runtime]

namespace Isolation

section Keys

variable {κ α : Type} [DecidableEq κ] {P : κ → Prop} {f g : κ → α} {k : κ} {v w : α}

omit [Runtime]

lemma update_other (h : ∀ c, P c → g c = f c) (hk : ¬P k) :
    ∀ c, P c → g c = Function.update f k v c := by
  intro c hc
  have hne : c ≠ k := by
    rintro rfl
    exact hk hc
  rw [Function.update_of_ne hne]
  exact h c hc

lemma update_both (h : ∀ c, P c → g c = f c) (hv : P k → w = v) :
    ∀ c, P c → Function.update g k w c = Function.update f k v c := by
  intro c hc
  by_cases hck : c = k
  · subst hck
    rw [Function.update_self, Function.update_self]
    exact hv hc
  · rw [Function.update_of_ne hck, Function.update_of_ne hck]
    exact h c hc

end Keys

section Redis

variable {R : Realm} {r q : Redis} {roomCode : String}

section Other

variable (h : SameRedis R r q) (hroom : Runtime.upper roomCode ≠ R.code)

include h hroom

lemma SameRedis.setQuestions_other (ids : Option (List UUID)) :
    SameRedis R (r.setQuestions roomCode ids) q :=
  { h with questions := update_other h.questions hroom }

lemma SameRedis.setQuestionStart_other (start : Option Time) :
    SameRedis R (r.setQuestionStart roomCode start) q :=
  { h with questionStart := update_other h.questionStart hroom }

lemma SameRedis.setAnswered_other (index : ℕ) (players : List UUID) :
    SameRedis R (r.setAnswered roomCode index players) q :=
  { h with answered := update_other h.answered hroom }

lemma SameRedis.setPrevRanking_other (ranking : Option (List (UUID × ℕ))) :
    SameRedis R (r.setPrevRanking roomCode ranking) q :=
  { h with prevRanking := update_other h.prevRanking hroom }

omit hroom in
lemma SameRedis.setWsToken_other {token : String} (htoken : token ∉ R.tokens)
    (playerId : Option UUID) :
    SameRedis R (r.setWsToken token playerId) q :=
  { h with wsToken := update_other h.wsToken htoken }

end Other

section Both

variable (h : SameRedis R r q)

include h

lemma SameRedis.setQuestions (ids : Option (List UUID)) :
    SameRedis R (r.setQuestions roomCode ids) (q.setQuestions roomCode ids) :=
  { h with questions := update_both h.questions fun _ => rfl }

lemma SameRedis.setQuestionStart (start : Option Time) :
    SameRedis R (r.setQuestionStart roomCode start) (q.setQuestionStart roomCode start) :=
  { h with questionStart := update_both h.questionStart fun _ => rfl }

lemma SameRedis.setAnswered (index : ℕ) {players players' : List UUID}
    (heq : Runtime.upper roomCode = R.code → players' = players) :
    SameRedis R (r.setAnswered roomCode index players) (q.setAnswered roomCode index players') :=
  { h with
    answered := update_both h.answered fun hroom => by
      rw [h.answered roomCode hroom, heq hroom] }

lemma SameRedis.setPrevRanking (ranking : Option (List (UUID × ℕ))) :
    SameRedis R (r.setPrevRanking roomCode ranking) (q.setPrevRanking roomCode ranking) :=
  { h with prevRanking := update_both h.prevRanking fun _ => rfl }

lemma SameRedis.setWsToken (token : String) (playerId : Option UUID) :
    SameRedis R (r.setWsToken token playerId) (q.setWsToken token playerId) :=
  { h with wsToken := update_both h.wsToken fun _ => rfl }

lemma SameRedis.lose (key : RedisKey) : SameRedis R (r.lose key) (q.lose key) := by
  cases key with
  | questions room => exact h.setQuestions none
  | questionStart room => exact h.setQuestionStart none
  | answered room index => exact h.setAnswered index fun _ => rfl
  | prevRanking room => exact h.setPrevRanking none
  | wsToken token => exact h.setWsToken token none

end Both

end Redis

section Registry

variable {R Q : Realm} {g g' : Registry} {roomCode : String} {websocket : Socket}
    {playerId : Option UUID}

section Other

variable (h : SameRegistry R g g') (hroom : Runtime.upper roomCode ≠ R.code)

include h hroom

lemma SameRegistry.join_other (hp : ∀ p ∈ playerId, p ∉ R.players) :
    SameRegistry R (g.join websocket roomCode playerId) g' where
  rooms := update_other h.rooms hroom
  hosts := by
    cases playerId with
    | none => exact update_other h.hosts hroom
    | some p => exact h.hosts
  subscriptions := by
    simp only [Registry.join]
    split
    · exact update_other h.subscriptions hroom
    · exact h.subscriptions
  players := by
    cases playerId with
    | none => exact h.players
    | some p =>
      have hnot := hp p rfl
      simp only [Registry.join]
      rw [List.filter_cons_of_neg (by simpa using hnot), List.filter_filter, h.players]
      apply List.filter_congr
      intro e _
      by_cases he : e.1 = p
      · simp [he, hnot]
      · simp [he]

lemma SameRegistry.leave_other : SameRegistry R (g.leave websocket roomCode).2 g' := by
  simp only [Registry.leave]
  split
  · exact ⟨update_other h.rooms hroom, h.hosts, update_other h.subscriptions hroom, h.players⟩
  · exact ⟨update_other h.rooms hroom, h.hosts, h.subscriptions, h.players⟩

lemma SameRegistry.forget_other (hp : ∀ p ∈ playerId, p ∉ R.players) :
    SameRegistry R (g.forget roomCode playerId) g' := by
  cases playerId with
  | none => exact ⟨h.rooms, update_other h.hosts hroom, h.subscriptions, h.players⟩
  | some p =>
    refine ⟨h.rooms, h.hosts, h.subscriptions, ?_⟩
    have hnot := hp p rfl
    simp only [Registry.forget, List.filter_filter]
    rw [h.players]
    apply List.filter_congr
    intro e _
    by_cases he : e.1 = p
    · simp [he, hnot]
    · simp [he]

lemma SameRegistry.update_other (f : Subscription → Subscription) :
    SameRegistry R (g.update roomCode f) g' :=
  { h with subscriptions := Isolation.update_other h.subscriptions hroom }

end Other

section Both

variable (h : SameRegistry R g g')

include h

lemma SameRegistry.forget :
    SameRegistry R (g.forget roomCode playerId) (g'.forget roomCode playerId) := by
  cases playerId with
  | none => exact ⟨h.rooms, update_both h.hosts fun _ => rfl, h.subscriptions, h.players⟩
  | some p =>
    refine ⟨h.rooms, h.hosts, h.subscriptions, ?_⟩
    simp only [Registry.forget]
    rw [h.players, List.filter_filter, List.filter_filter]
    simp only [Bool.and_comm]

lemma SameRegistry.playerSocket {p : UUID} (hp : p ∈ R.players) :
    g'.playerSocket p = g.playerSocket p := by
  rw [Registry.playerSocket, Registry.playerSocket, h.players]
  induction g.players with
  | nil => rfl
  | cons e rest ih =>
    by_cases he : e.1 ∈ R.players
    · rw [List.filter_cons_of_pos (by simpa using he), List.lookup_cons, List.lookup_cons, ih]
    · have hne : (p == e.1) = false := by
        refine beq_eq_false_iff_ne.mpr ?_
        rintro rfl
        exact he hp
      rw [List.filter_cons_of_neg (by simpa using he), List.lookup_cons, hne, ih]

lemma SameRegistry.socketPlayer (hg : ∀ e ∈ g.players, e.2 = websocket → e.1 ∈ R.players) :
    g'.players.find? (fun p => p.2 = websocket) = g.players.find? fun p => p.2 = websocket := by
  rw [h.players, List.find?_filter]
  apply List.find?_congr
  intro e he
  by_cases hw : e.2 = websocket
  · simp [hw, hg e he hw]
  · simp [hw]

variable (hroom : Runtime.upper roomCode = R.code)

include hroom

lemma SameRegistry.join (hp : ∀ p ∈ playerId, p ∈ R.players) :
    SameRegistry R (g.join websocket roomCode playerId) (g'.join websocket roomCode playerId) where
  rooms := update_both h.rooms fun _ => by rw [h.rooms roomCode hroom]
  hosts := by
    cases playerId with
    | none => exact update_both h.hosts fun _ => rfl
    | some p => exact h.hosts
  subscriptions := by
    simp only [Registry.join, h.rooms roomCode hroom, h.subscriptions roomCode hroom]
    split
    · exact update_both h.subscriptions fun _ => rfl
    · exact h.subscriptions
  players := by
    cases playerId with
    | none => exact h.players
    | some p =>
      have hmem := hp p rfl
      simp only [Registry.join]
      rw [List.filter_cons_of_pos (by simpa using hmem), h.players, List.filter_filter,
        List.filter_filter]
      simp only [Bool.and_comm]

lemma SameRegistry.leave :
    (g'.leave websocket roomCode).1 = (g.leave websocket roomCode).1 ∧
      SameRegistry R (g.leave websocket roomCode).2 (g'.leave websocket roomCode).2 := by
  simp only [Registry.leave, h.rooms roomCode hroom, h.subscriptions roomCode hroom]
  split
  · exact ⟨rfl, update_both h.rooms fun _ => rfl, h.hosts, update_both h.subscriptions fun _ =>
      rfl, h.players⟩
  · exact ⟨rfl, update_both h.rooms fun _ => rfl, h.hosts, h.subscriptions, h.players⟩

lemma SameRegistry.update (f : Subscription → Subscription) :
    SameRegistry R (g.update roomCode f) (g'.update roomCode f) :=
  { h with
    subscriptions := update_both h.subscriptions fun _ => by
      rw [h.subscriptions roomCode hroom] }

end Both

end Registry

/-- The identifier of a player that is inserted is new. -/
def Op.Fresh (s : State) : {β : Type} → Op β → Prop
  | _, .commit changes => ∀ p ∈ changes.newPlayer, s.db.players.get? p.playerId = none
  | _, _ => True

def Op.Spares (R : Realm) : {β : Type} → Op β → Prop
  | _, .setWsToken token _ _ => token ∉ R.tokens
  | _, _ => True

section Exec

variable {R Q : Realm} {s t : State} {roomCode : String} {answers : Prop} {β : Type} {o : Op β}

lemma Same.exec_other (h : Same R s t) (hcovers : Covers R s.db) (hRQ : Apart R Q)
    (hroom : Runtime.upper roomCode = Q.code) (hlocal : o.Local roomCode answers)
    (hQ : Q.Contains o) (hallows : ∀ a, (Game.exec o s).1 = .ok a → Q.Allows o a)
    (hspares : Op.Spares R o) :
    Same R (Game.exec o s).2 (o.outside.foldl Outside.act t) := by
  have hne : Runtime.upper roomCode ≠ R.code := hroom ▸ hRQ.code.symm
  cases o with
  | commit changes =>
    cases hc : s.db.commit changes with
    | none =>
      rw [exec_commit_none hc]
      exact h
    | some d =>
      rw [exec_commit_some hc] at hallows ⊢
      have hnew : ∀ p ∈ changes.newPlayer, p.playerId ∈ Q.players := fun p hp =>
        hallows () rfl p hp (hQ.newPlayer p hp)
      exact { h with db := h.db.commit_other hcovers hRQ hQ hnew hc }
  | setQuestions room ids ex =>
    obtain rfl : room = roomCode := hlocal
    exact { h with redis := h.redis.setQuestions_other hne _ }
  | setQuestionStart room start ex =>
    obtain rfl : room = roomCode := hlocal
    exact { h with redis := h.redis.setQuestionStart_other hne _ }
  | saddAnswered room index playerId =>
    obtain rfl : room = roomCode := hlocal.1
    exact { h with redis := h.redis.setAnswered_other hne _ _ }
  | setPrevRanking room ranking ex | deletePrevRanking room =>
    obtain rfl : room = roomCode := hlocal
    exact { h with redis := h.redis.setPrevRanking_other hne _ }
  | setWsToken token playerId ex => exact { h with redis := h.redis.setWsToken_other hspares _ }
  | publish room envelope | subscribe room =>
    obtain rfl : room = roomCode := hlocal
    exact { h with registry := h.registry.update_other hne _ }
  | listen room =>
    obtain rfl : room = roomCode := hlocal
    simp only [Game.exec]
    split
    · exact { h with registry := h.registry.update_other hne _ }
    · exact h
  | createTask timer =>
    obtain rfl : timer.roomCode = roomCode := hlocal
    refine { h with timers := ?_ }
    have hother : [timer].filter (fun timer => Runtime.upper timer.roomCode = R.code) =
        [] := by simp [hne]
    simp only [Game.exec, List.filter_append]
    rw [hother, List.append_nil]
    exact h.timers
  | shuffle | uuid4 => exact { h with draws := congrArg (· + 1) h.draws }
  | joinRoom websocket room playerId =>
    obtain rfl : room = roomCode := hlocal
    have hspared : ∀ p ∈ playerId, p ∉ R.players := fun p hp hR => hRQ.players p hR (hQ.2 p hp)
    exact { h with registry := h.registry.join_other hne hspared }
  | leaveRoom websocket room =>
    obtain rfl : room = roomCode := hlocal
    exact { h with registry := h.registry.leave_other hne }
  | forget room playerId =>
    obtain rfl : room = roomCode := hlocal
    have hspared : ∀ p ∈ playerId, p ∉ R.players := fun p hp hR => hRQ.players p hR (hQ p hp)
    exact { h with registry := h.registry.forget_other hne hspared }
  | releaseLock =>
    exact { h with
      registry := ⟨h.registry.rooms, h.registry.hosts, h.registry.subscriptions,
        h.registry.players⟩ }
  | _ => exact h

lemma Same.exec (h : Same R s t) (hcovers : Covers R s.db)
    (hsession : (s.db.sessions.get? R.code).map GameSession.sessionId = R.sessionId)
    (hseats : ∀ e ∈ s.registry.players, e.2 ∈ R.sockets → e.1 ∈ R.players)
    (hroom : Runtime.upper roomCode = R.code) (hlocal : o.Local roomCode answers)
    (hR : R.Contains o) (hallows : ∀ a, (Game.exec o s).1 = .ok a → R.Allows o a)
    (hfresh : Op.Fresh s o) :
    (Game.exec o t).1 = (Game.exec o s).1 ∧ Same R (Game.exec o s).2 (Game.exec o t).2 := by
  cases o with
  | getRoom room =>
    obtain rfl : room = roomCode := hlocal
    refine ⟨?_, h⟩
    simp only [Game.exec, Db.room?, hroom, h.db.session, h.db.quizzes]
    cases hg : s.db.sessions.get? R.code with
    | none => rfl
    | some g =>
      rw [hg, Option.map_some] at hsession
      rw [Option.bind_some, Option.bind_some, h.db.roster _ hsession.symm]
  | getQuestion questionId => exact ⟨by simp only [Game.exec, Db.question?, h.db.quizzes], h⟩
  | getPlayer playerId => exact ⟨by simp only [Game.exec, h.db.player _ hR], h⟩
  | selectedAnswers sessionId questionId | answersWithPlayers sessionId questionId =>
    exact ⟨by simp only [Game.exec, h.db.answersOf hcovers hR], h⟩
  | commit changes =>
    cases hc : s.db.commit changes with
    | none =>
      have hc' := h.db.commit_none hR hfresh hsession hc
      rw [exec_commit_none hc, exec_commit_none hc']
      exact ⟨rfl, h⟩
    | some d =>
      rw [exec_commit_some hc] at hallows ⊢
      have hnew : ∀ p ∈ changes.newPlayer, p.playerId ∈ R.players := fun p hp =>
        hallows () rfl p hp (hR.newPlayer p hp)
      obtain ⟨e, hc', hdb⟩ := h.db.commit hcovers hR hnew hsession hc
      rw [exec_commit_some hc']
      exact ⟨rfl, { h with db := hdb }⟩
  | getQuestions room =>
    obtain rfl : room = roomCode := hlocal
    exact ⟨by simp only [Game.exec, h.redis.questions _ hroom], h⟩
  | setQuestions room ids ex => exact ⟨rfl, { h with redis := h.redis.setQuestions _ }⟩
  | getQuestionStart room =>
    obtain rfl : room = roomCode := hlocal
    exact ⟨by simp only [Game.exec, h.redis.questionStart _ hroom], h⟩
  | setQuestionStart room start ex => exact ⟨rfl, { h with redis := h.redis.setQuestionStart _ }⟩
  | sismemberAnswered room index playerId =>
    obtain rfl : room = roomCode := hlocal.1
    exact ⟨by simp only [Game.exec, h.redis.answered _ hroom], h⟩
  | saddAnswered room index playerId =>
    refine ⟨rfl, { h with redis := h.redis.setAnswered _ fun hcode => ?_ }⟩
    rw [h.redis.answered _ hcode]
  | getPrevRanking room =>
    obtain rfl : room = roomCode := hlocal
    exact ⟨by simp only [Game.exec, h.redis.prevRanking _ hroom], h⟩
  | setPrevRanking room ranking ex | deletePrevRanking room =>
    exact ⟨rfl, { h with redis := h.redis.setPrevRanking _ }⟩
  | getWsToken token => exact ⟨by simp only [Game.exec, h.redis.wsToken _ hR], h⟩
  | setWsToken token playerId ex => exact ⟨rfl, { h with redis := h.redis.setWsToken _ _ }⟩
  | publish room envelope | subscribe room =>
    obtain rfl : room = roomCode := hlocal
    exact ⟨rfl, { h with registry := h.registry.update hroom _ }⟩
  | listen room =>
    obtain rfl : room = roomCode := hlocal
    have hpending : t.registry.pending room = s.registry.pending room := by
      rw [Registry.pending, Registry.pending, h.registry.subscriptions _ hroom]
    simp only [Game.exec, hpending]
    split
    · exact ⟨rfl, { h with registry := h.registry.update hroom _ }⟩
    · exact ⟨rfl, h⟩
  | now => exact ⟨by simp only [Game.exec, h.now], h⟩
  | createTask timer =>
    refine ⟨rfl, { h with timers := ?_ }⟩
    simp only [Game.exec, List.filter_append, h.timers]
  | shuffle | uuid4 =>
    refine ⟨by simp only [Game.exec, h.draws], { h with draws := congrArg (· + 1) h.draws }⟩
  | joinRoom websocket room playerId =>
    obtain rfl : room = roomCode := hlocal
    exact ⟨rfl, { h with registry := h.registry.join hroom hR.2 }⟩
  | leaveRoom websocket room =>
    obtain rfl : room = roomCode := hlocal
    obtain ⟨hanswer, hregistry⟩ := h.registry.leave hroom
    exact ⟨congrArg Except.ok hanswer, { h with registry := hregistry }⟩
  | forget room playerId => exact ⟨rfl, { h with registry := h.registry.forget }⟩
  | releaseLock =>
    exact ⟨rfl, { h with
      registry := ⟨h.registry.rooms, h.registry.hosts, h.registry.subscriptions,
        h.registry.players⟩ }⟩
  | playerSocket playerId => exact ⟨by simp only [Game.exec, h.registry.playerSocket hR], h⟩
  | hostSocket room =>
    obtain rfl : room = roomCode := hlocal
    exact ⟨by simp only [Game.exec, h.registry.hosts _ hroom], h⟩
  | roomSockets room =>
    obtain rfl : room = roomCode := hlocal
    exact ⟨by simp only [Game.exec, h.registry.rooms _ hroom], h⟩
  | socketPlayer websocket =>
    have hfind := h.registry.socketPlayer fun e he (hw : e.2 = websocket) => hseats e he (hw ▸ hR)
    exact ⟨by simp only [Game.exec, hfind], h⟩
  | _ => exact ⟨rfl, h⟩

omit [Runtime] in
lemma mem_playersOf_iff {d : Db} {sessionId playerId : UUID} :
    (∃ p ∈ d.playersOf sessionId, p.playerId = playerId) ↔
      ∃ p ∈ d.players.get? playerId, p.sessionId = sessionId := by
  constructor
  · rintro ⟨p, hp, rfl⟩
    obtain ⟨hmem, hs⟩ := List.mem_filter.mp hp
    exact ⟨p, Table.get?_of_mem hmem, of_decide_eq_true hs⟩
  · rintro ⟨p, hp, rfl⟩
    exact ⟨p, List.mem_filter.mpr ⟨Table.mem_get? hp, decide_eq_true rfl⟩, Table.key_get? hp⟩

lemma Same.enter {call : Call} (h : Same R s t) (hroom : Runtime.upper call.room = R.code)
    (hsession : (s.db.sessions.get? R.code).map GameSession.sessionId = R.sessionId) :
    (∀ s', Game.enter call s = some s' → ∃ t', Game.enter call t = some t' ∧ Same R s' t') ∧
      (Game.enter call s = none → Game.enter call t = none) := by
  cases call with
  | hostFrames room hostId frames =>
    have hiff : (∃ g ∈ t.db.sessions.get? (Runtime.upper room), g.hostId = hostId) ↔
        ∃ g ∈ s.db.sessions.get? (Runtime.upper room), g.hostId = hostId := by
      rw [show Runtime.upper room = R.code from hroom, h.db.session]
    simp only [Game.enter, hiff]
    split
    · refine ⟨?_, fun hnone => (by cases hnone)⟩
      rintro _ ⟨⟩
      exact ⟨t, rfl, h⟩
    · exact ⟨fun _ hsome => (by cases hsome), fun _ => rfl⟩
  | playerFrame room playerId data =>
    have hroom : Runtime.upper room = R.code := hroom
    have hiff : (∃ g ∈ t.db.sessions.get? R.code, ∃ p ∈ t.db.players.get? playerId,
      p.sessionId = g.sessionId) ↔
        ∃ g ∈ s.db.sessions.get? R.code, ∃ p ∈ s.db.players.get? playerId,
          p.sessionId = g.sessionId := by
      rw [h.db.session]
      refine exists_congr fun g => and_congr_right fun hg => ?_
      rw [hg, Option.map_some] at hsession
      rw [← mem_playersOf_iff, ← mem_playersOf_iff, h.db.roster _ hsession.symm]
    simp only [Game.enter, hroom, hiff]
    split
    · refine ⟨?_, fun hnone => (by cases hnone)⟩
      rintro _ ⟨⟩
      exact ⟨t, rfl, h⟩
    · exact ⟨fun _ hsome => (by cases hsome), fun _ => rfl⟩
  | questionTimeout timer =>
    have hroom : Runtime.upper timer.roomCode = R.code := hroom
    have hmem : ∀ l : List Timer, timer ∈ l ↔ timer ∈ l.filter fun u =>
        Runtime.upper u.roomCode = R.code := by
      intro l
      simp [hroom]
    have hiff : timer ∈ t.timers ↔ timer ∈ s.timers := by rw [hmem, h.timers, ← hmem]
    simp only [Game.enter, hiff]
    split
    · refine ⟨?_, fun hnone => (by cases hnone)⟩
      rintro _ ⟨⟩
      refine ⟨_, rfl, { h with timers := ?_ }⟩
      rw [← List.erase_filter, ← List.erase_filter, h.timers]
    · exact ⟨fun _ hsome => (by cases hsome), fun _ => rfl⟩
  | _ =>
    refine ⟨?_, fun hnone => (by cases hnone)⟩
    rintro _ ⟨⟩
    exact ⟨t, rfl, h⟩

lemma Same.enter_other {call : Call} {s' : State} (h : Same R s t)
    (hroom : Runtime.upper call.room ≠ R.code) (hs : Game.enter call s = some s') :
    Same R s' t := by
  cases call with
  | hostFrames | playerFrame =>
    simp only [Game.enter] at hs
    split at hs <;> cases hs
    exact h
  | questionTimeout timer =>
    have hroom : Runtime.upper timer.roomCode ≠ R.code := hroom
    simp only [Game.enter] at hs
    split at hs <;> cases hs
    refine { h with timers := h.timers.trans ?_ }
    rw [← List.erase_filter, List.erase_of_not_mem (by simp [hroom])]
  | _ =>
    cases hs
    exact h

lemma Same.env (h : Same R s t) (e : Env) : Same R (e.act s) (e.act t) := by
  cases e with
  | clock now => exact { h with now := rfl }
  | lose key => exact { h with redis := h.redis.lose key }

end Exec

end Isolation

end Askit.Game
