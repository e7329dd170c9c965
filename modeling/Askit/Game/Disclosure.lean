import Askit.Game.Alone
import Askit.Game.History
import Askit.Game.Roster

/-! What a player hears of the others' scores once a game with private results is finished:
GAME_FINISHED is restricted to the player's own entry, and ROOM_STATE is not. -/

namespace Askit.Game

open Interleaving Machine Coro Tables

section

variable [Runtime]

namespace Disclosure

def seatedAs (playerId : UUID) : Event Op Exn → Option Socket
  | ⟨_, .joinRoom websocket _ (some p), .ok _⟩ => if p = playerId then some websocket else none
  | _ => none

def framesFor (playerId : UUID) (s : State) (history : List (Event Op Exn)) :
    List (Socket × Frame) :=
  (sentFrames history).filter fun x =>
    x.1 ∈ history.filterMap (seatedAs playerId) ∨ s.registry.playerSocket playerId = some x.1

end Disclosure

structure OthersScores (sessionId playerId : UUID) (s s' : State) : Prop where
  rows : List.Forall₂ (fun p p' => p' = { p with score := p'.score } ∧
    (p' ≠ p → p.sessionId = sessionId ∧ p.playerId ≠ playerId)) s.db.players.rows s'.db.players.rows
  rest : s' = { s with db := { s.db with players := s'.db.players } }

/-- Whatever happens from here on, with the handlers that are in flight, the player hears the
same. -/
def ToldAlike (playerId : UUID) (history : List (Event Op Exn)) (ps : List system.Proc)
    (s s' : State) : Prop :=
  ∀ acts : List system.Act,
    Disclosure.framesFor playerId s' (run acts ⟨⟨s', history⟩, ps⟩).world.history =
      Disclosure.framesFor playerId s (run acts ⟨⟨s, history⟩, ps⟩).world.history

namespace Disclosure

open Alone

variable {w : system.World} {ps : List system.Proc} {call : Call} {α : Type}

lemma run_attempt {β : Type} {o : Op β} {f : β → Handler α} {g : Except Exn α → Handler Unit}
    {a : β} {t : State} (n : ℕ) (hready : ready o w.state = true)
    (h : exec o w.state = (.ok a, t)) :
    run (runs ps.length (n + 1)) ⟨w, ps ++ [⟨call, attempt (await o >>= f) >>= g⟩]⟩ =
      run (runs ps.length n)
        ⟨⟨t, w.history ++ [⟨ps.length, o, .ok a⟩]⟩, ps ++ [⟨call, attempt (f a) >>= g⟩]⟩ := by
  refine (run_runs_await (M := system) n hready).trans ?_
  have hperform : w.perform ps.length o = ((.ok a), ⟨t, w.history ++ [⟨ps.length, o, .ok a⟩]⟩) := by
    have h' : system.exec o w.state = (.ok a, t) := h
    simp only [World.perform, h']
  rw [hperform]
  rfl

lemma run_sendQuietly_bind {f : Unit → Handler Unit} (n : ℕ) (websocket : Socket)
    (message : Frame) :
    run (runs ps.length (n + 1)) (⟨w, ps ++ [⟨call, sendQuietly websocket message >>= f⟩]⟩ :
      system.Config) =
      run (runs ps.length n)
        ⟨⟨w.state, w.history ++ [⟨ps.length, .sendJson websocket message, .ok ()⟩]⟩,
          ps ++ [⟨call, f ()⟩]⟩ :=
  run_runs_await (M := system) n rfl

variable {s : State} {roomCode token : String} {playerId : UUID} {g : GameSession}

def connected (s : State) (playerId : UUID) : State :=
  { s with db := { s.db with players := Db.flushConnected s.db.players (some (playerId, true)) } }

def seated (s : State) (roomCode : String) (playerId : UUID) : State :=
  { connected s playerId with registry := s.registry.join ⟨.player, 0⟩ roomCode (some playerId) }

lemma socket_seated (s : State) (roomCode : String) (playerId : UUID) :
    exec (.playerSocket playerId) (seated s roomCode playerId) =
      (.ok (some ⟨.player, 0⟩), seated s roomCode playerId) := by
  simp [exec, seated, Registry.playerSocket, Registry.join]

omit [Runtime] in
lemma attempt_pure (a : α) : attempt (pure a : Handler α) = pure (.ok a) := rfl

def shownPlayers (d : Db) (sessionId : UUID) : List PlayerInfo :=
  (d.playersOf sessionId).map fun p => ⟨p.playerId, p.nickname, p.score, p.isConnected⟩

def returning (i : ℕ) (roomCode token : String) : List system.Act :=
  .spawn (Call.playerEndpoint 0 roomCode none (some token)) :: runs i 9

lemma run_returning (ps : List system.Proc) (history : List (Event Op Exn)) {quiz : Quiz}
    (hg : s.db.sessions.get? (Runtime.upper roomCode) = some g)
    (hquiz : s.db.quizzes.table.get? g.quizId = some quiz)
    (hstatus : g.status = .finished)
    (hplayer : ∃ p ∈ s.db.playersOf g.sessionId, p.playerId = playerId)
    (htoken : s.redis.wsToken token = some playerId) (hne : token ≠ "")
    (hlock : s.registry.locked = false) :
    ∃ events, (run (returning ps.length roomCode token) ⟨⟨s, history⟩, ps⟩).world.history =
      history ++ events ∧
      events.filterMap (seatedAs playerId) = [⟨.player, 0⟩] ∧
      sentFrames events = [(⟨.player, 0⟩, .roomState (roomState ⟨g, [], quiz.loaded⟩
        (shownPlayers (connected s playerId).db g.sessionId) quiz.loaded.questions.length none
          [] none))] := by
  have hroom : ∀ t : State, t.db.sessions = s.db.sessions → t.db.quizzes = s.db.quizzes →
      exec (.getRoom roomCode) t = (.ok (some ⟨g, t.db.playersOf g.sessionId, quiz.loaded⟩),
        t) := by
    intro t hs hq
    exact congrArg (fun r => (Except.ok r, t)) (room?_eq (hs ▸ hg) (hq ▸ hquiz))
  have hmember : ((s.db.playersOf g.sessionId).find? fun p => p.playerId = playerId).isSome := by
    obtain ⟨p, hp, hid⟩ := hplayer
    exact List.find?_isSome.mpr ⟨p, hp, by simpa using hid⟩
  obtain ⟨p, hp⟩ := Option.isSome_iff_exists.mp hmember
  have hid : p.playerId = playerId := by simpa using List.find?_some hp
  have htok : exec (.getWsToken token) s = (.ok (some playerId), s) :=
    congrArg (fun r => (Except.ok r, s)) htoken
  rw [returning, run_cons, step_spawn rfl, Game.code, websocketPlayerEndpoint,
    if_neg (by simp [foreignOrigin])]
  simp only [Option.filter_some, hne, ne_eq, not_false_eq_true, decide_true, if_true]
  rw [run_await 8 rfl htok]
  dsimp only
  rw [run_await 7 rfl (hroom s rfl rfl)]
  dsimp only
  rw [hp]
  dsimp only
  simp only [servePlayer, Game.connect, setPlayerConnected, bind_assoc]
  rw [run_await 6 rfl rfl, run_await 5 (by simp [ready, hlock]) rfl, run_await 4 rfl rfl,
    run_await 3 rfl (t := seated s roomCode p.playerId) rfl, buildRoomState, run_attempt 2 rfl
    (hroom _ rfl rfl)]
  simp only [hstatus, reduceCtorEq, or_self, if_false, greetPlayer, sendRoomState,
    sendToPlayer, attempt_pure, pure_bind, bind_assoc]
  rw [run_await 1 rfl (socket_seated s roomCode p.playerId)]
  dsimp only
  rw [run_sendQuietly_bind 0, hid]
  simp only [runs, List.replicate_zero, run_nil, List.append_assoc]
  refine ⟨_, rfl, ?_, rfl⟩
  have hseat : seatedAs playerId ⟨ps.length, .joinRoom ⟨.player, 0⟩ roomCode
    (some playerId), .ok ()⟩ =
      some ⟨.player, 0⟩ := if_pos rfl
  simp only [List.cons_append, List.nil_append, List.filterMap_cons, hseat]
  rfl

lemma shown_of_alike {s' : State} {history : List (Event Op Exn)}
    (h : ToldAlike playerId history ps s s')
    (hrest : s' = { s with db := { s.db with players := s'.db.players } })
    (hg : s.db.sessions.get? (Runtime.upper roomCode) = some g) (hstatus : g.status = .finished)
    (hplayer : ∃ p ∈ s.db.playersOf g.sessionId, p.playerId = playerId)
    (hplayer' : ∃ p ∈ s'.db.playersOf g.sessionId, p.playerId = playerId)
    (htoken : s.redis.wsToken token = some playerId) (hne : token ≠ "")
    (hlock : s.registry.locked = false) :
    shownPlayers (connected s' playerId).db g.sessionId =
      shownPlayers (connected s playerId).db g.sessionId := by
  obtain ⟨quiz, hquiz, hid⟩ := List.mem_map.mp (s.db.quizId_fk g (Table.mem_get? hg))
  have hget : s.db.quizzes.table.get? g.quizId = some quiz := Table.get?_eq_some.mpr ⟨hquiz, hid⟩
  obtain ⟨events, hrun, hseated, hsent⟩ :=
    run_returning ps history hg hget hstatus hplayer htoken hne hlock
  obtain ⟨hg', hget', htoken', hlock', hregistry⟩ :
    s'.db.sessions.get? (Runtime.upper roomCode) = some g ∧
      s'.db.quizzes.table.get? g.quizId = some quiz ∧ s'.redis.wsToken token = some playerId ∧
      s'.registry.locked = false ∧ s'.registry = s.registry := by
    rw [hrest]
    exact ⟨hg, hget, htoken, hlock, rfl⟩
  obtain ⟨events', hrun', hseated', hsent'⟩ :=
    run_returning ps history hg' hget' hstatus hplayer' htoken' hne hlock'
  have hframes := h (returning ps.length roomCode token)
  rw [hrun, hrun', framesFor, framesFor, List.filterMap_append, List.filterMap_append, hseated,
    hseated', hregistry] at hframes
  simp only [sentFrames, List.filterMap_append, List.filter_append] at hframes hsent hsent'
  rw [hsent, hsent'] at hframes
  have hlast := List.append_cancel_left hframes
  simp [roomState] at hlast
  exact hlast

omit [Runtime] in
lemma score_connect (p : GamePlayer) (playerId : UUID) :
    (if p.playerId = playerId then p.connect true else p).score = p.score := by
  split <;> rfl

omit [Runtime] in
lemma sessionId_connect (p : GamePlayer) (playerId : UUID) :
    (if p.playerId = playerId then p.connect true else p).sessionId = p.sessionId := by
  split <;> rfl

omit [Runtime] in
lemma exists_member {sessionId : UUID} {s s' : State} (h : OthersScores sessionId playerId s s')
    (hplayer : ∃ p ∈ s.db.playersOf sessionId, p.playerId = playerId) :
    ∃ p ∈ s'.db.playersOf sessionId, p.playerId = playerId := by
  have hids : s'.db.players.rows.map (fun p => (p.sessionId, p.playerId)) =
      s.db.players.rows.map fun p => (p.sessionId, p.playerId) := by
    refine (List.forall₂_eq_eq_eq ▸ List.forall₂_map_left_iff.mpr
      (List.forall₂_map_right_iff.mpr ?_)).symm
    exact h.rows.imp fun p p' hp => by rw [hp.1]
  obtain ⟨p, hp, hid⟩ := hplayer
  obtain ⟨hrow, hsession⟩ := List.mem_filter.mp hp
  have hmem : (p.sessionId, p.playerId) ∈ s'.db.players.rows.map fun p =>
      (p.sessionId, p.playerId) :=
    hids ▸ List.mem_map_of_mem hrow
  obtain ⟨p', hrow', hp'⟩ := List.mem_map.mp hmem
  rw [Prod.mk.injEq] at hp'
  exact ⟨p', List.mem_filter.mpr ⟨hrow', by simpa [hp'.1] using hsession⟩, hp'.2.trans hid⟩

omit [Runtime] in
lemma eq_of_shown {sessionId : UUID} {rows rows' : List GamePlayer}
    (h : List.Forall₂ (fun p p' => p' = { p with score := p'.score } ∧
      (p' ≠ p → p.sessionId = sessionId ∧ p.playerId ≠ playerId)) rows rows')
    (hs : ((rows'.map fun r => if r.playerId = playerId then r.connect true else r).filter
        (·.sessionId = sessionId)).map GamePlayer.score =
      ((rows.map fun r => if r.playerId = playerId then r.connect true else r).filter
        (·.sessionId = sessionId)).map GamePlayer.score) : rows' = rows := by
  induction h with
  | nil => rfl
  | @cons p p' rows rows' hp _ ih =>
    have hsession : p'.sessionId = p.sessionId := by rw [hp.1]
    simp only [List.map_cons, List.filter_cons, sessionId_connect, hsession] at hs
    by_cases hin : p.sessionId = sessionId
    · simp only [hin, decide_true, if_true, List.map_cons, score_connect, List.cons.injEq] at hs
      rw [ih hs.2, hp.1, hs.1]
    · simp only [hin, decide_false, Bool.false_eq_true, if_false] at hs
      have heq : p' = p := by
        by_contra hne
        exact hin (hp.2 hne).1
      rw [ih hs, heq]

end Disclosure

open Disclosure

/-- A player who can come back hears every change of another player's score: ROOM_STATE shows all of
them. -/
theorem told_alike_iff {s s' : State} {history : List (Event Op Exn)} {ps : List system.Proc}
    {roomCode token : String} {playerId : UUID} {g : GameSession}
    (hg : s.db.sessions.get? (Runtime.upper roomCode) = some g)
    (hfinished : g.status = .finished ∧ g.publicResults = false)
    (hplayer : ∃ p ∈ s.db.playersOf g.sessionId, p.playerId = playerId)
    (htoken : s.redis.wsToken token = some playerId) (hne : token ≠ "")
    (hlock : s.registry.locked = false)
    (hothers : OthersScores g.sessionId playerId s s') :
    ToldAlike playerId history ps s s' ↔ s' = s := by
  constructor
  · intro h
    have hshown := shown_of_alike h hothers.rest hg hfinished.1 hplayer
      (exists_member hothers hplayer) htoken hne hlock
    have hscores := congrArg (List.map PlayerInfo.score) hshown
    simp only [shownPlayers, connected, Db.playersOf, Db.flushConnected, Table.rows_modify,
      List.map_map] at hscores
    have hrows : s'.db.players.rows = s.db.players.rows := eq_of_shown hothers.rows hscores
    have htable : s'.db.players = s.db.players := by
      cases hp : s'.db.players
      cases hq : s.db.players
      simpa [hp, hq] using hrows
    rw [hothers.rest, htable]
  · rintro rfl acts
    rfl

end

section Sample

attribute [local instance] Runtime.ascii

def endedSession : GameSession :=
    { Sample.session with status := .finished, currentQuestionIndex := 2 }

/-- The game is finished, its results are private, and Ben has so many points. -/
def endedPrivately (score : ℤ) : State :=
  { Sample.state with
    db := { Sample.state.db with
      sessions := ⟨[endedSession], by decide⟩
      players := Sample.state.db.players.modify "p2"
        (fun p => { p with score := score }) fun _ => rfl
      quizId_fk := by decide }
    redis := Sample.state.redis.setWsToken "token" (some "p1") }

lemma endedPrivately_others (a b : ℤ) :
    OthersScores "session" "p1" (endedPrivately a) (endedPrivately b) :=
  ⟨.cons ⟨rfl, fun h => absurd rfl h⟩
    (.cons ⟨rfl, fun _ => ⟨rfl, show "p2" ≠ "p1" by decide⟩⟩ .nil), rfl⟩

theorem told_alike_iff_ben : ToldAlike "p1" [] [] (endedPrivately 500) (endedPrivately 600) ↔
    endedPrivately 600 = endedPrivately 500 :=
  told_alike_iff
    (show (endedPrivately 500).db.sessions.get? (Runtime.upper "ABCDEF") = some
      endedSession from rfl)
    (by decide) (by decide) (show (endedPrivately 500).redis.wsToken "token" = some "p1" from rfl)
      (by decide) rfl
    (endedPrivately_others 500 600)

end Sample

end Askit.Game
