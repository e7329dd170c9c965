import Askit.Game.Effects
import Askit.Game.Realms
import Mathlib.Data.List.Find

/-! The rows of the database as one room sees them. -/

namespace Askit.Game

open Interleaving Coro Tables

inductive Outside
  | env (e : Env)
  | draw

def Outside.act (s : State) : Outside → State
  | .env e => e.act s
  | .draw => { s with draws := s.draws + 1 }

def Op.outside : {β : Type} → Op β → List Outside
  | _, .uuid4 | _, .shuffle _ => [.draw]
  | _, _ => []

variable [Runtime]

namespace Isolation

open scoped Classical in
/-- The rows of the room are the same in the second database, and it has no player that the first
does not have. -/
structure SameDb (R : Realm) (d e : Db) : Prop where
  quizzes : e.quizzes = d.quizzes
  session : e.sessions.get? R.code = d.sessions.get? R.code
  roster : ∀ sessionId, R.sessionId = some sessionId → e.playersOf sessionId = d.playersOf sessionId
  player : ∀ playerId ∈ R.players, e.players.get? playerId = d.players.get? playerId
  known : ∀ playerId, (e.players.get? playerId).isSome → (d.players.get? playerId).isSome
  answers : e.answers.rows.filter (fun a => a.playerId ∈ R.players) =
    d.answers.rows.filter fun a => a.playerId ∈ R.players

structure SameRedis (R : Realm) (r q : Redis) : Prop where
  questions : ∀ roomCode, Runtime.upper roomCode = R.code →
    q.questions roomCode = r.questions roomCode
  questionStart : ∀ roomCode, Runtime.upper roomCode = R.code →
    q.questionStart roomCode = r.questionStart roomCode
  answered : ∀ roomCode, Runtime.upper roomCode = R.code → q.answered roomCode = r.answered roomCode
  prevRanking : ∀ roomCode, Runtime.upper roomCode = R.code →
    q.prevRanking roomCode = r.prevRanking roomCode
  wsToken : ∀ token ∈ R.tokens, q.wsToken token = r.wsToken token

open scoped Classical in
structure SameRegistry (R : Realm) (g h : Registry) : Prop where
  rooms : ∀ roomCode, Runtime.upper roomCode = R.code → h.rooms roomCode = g.rooms roomCode
  hosts : ∀ roomCode, Runtime.upper roomCode = R.code → h.hosts roomCode = g.hosts roomCode
  subscriptions : ∀ roomCode, Runtime.upper roomCode = R.code →
    h.subscriptions roomCode = g.subscriptions roomCode
  players : h.players = g.players.filter fun e => e.1 ∈ R.players

structure Same (R : Realm) (s t : State) : Prop where
  db : SameDb R s.db t.db
  redis : SameRedis R s.redis t.redis
  registry : SameRegistry R s.registry t.registry
  now : t.now = s.now
  draws : t.draws = s.draws
  timers : t.timers.filter (fun timer => Runtime.upper timer.roomCode = R.code) =
    s.timers.filter fun timer => Runtime.upper timer.roomCode = R.code

structure Apart (R Q : Realm) : Prop where
  code : R.code ≠ Q.code
  session : ∀ sessionId, R.sessionId = some sessionId → Q.sessionId ≠ some sessionId
  players : ∀ playerId ∈ R.players, playerId ∉ Q.players
  sockets : ∀ websocket ∈ R.sockets, websocket ∉ Q.sockets

section Database

variable {R Q : Realm} {d e : Db} {changes : Changes}

def Covers (R : Realm) (d : Db) : Prop := ∀ p ∈ d.players.rows, R.sessionId = some p.sessionId →
    p.playerId ∈ R.players

structure SamePlayers (R : Realm) (t u : Table GamePlayer.playerId) : Prop where
  roster : ∀ sessionId, R.sessionId = some sessionId →
    u.rows.filter (fun p => p.sessionId = sessionId) = t.rows.filter fun p =>
      p.sessionId = sessionId
  player : ∀ playerId ∈ R.players, u.get? playerId = t.get? playerId
  known : ∀ playerId, (u.get? playerId).isSome → (t.get? playerId).isSome
  covered : ∀ p ∈ t.rows, R.sessionId = some p.sessionId → p.playerId ∈ R.players

variable {t u : Table GamePlayer.playerId} {k : UUID} {f : GamePlayer → GamePlayer}
variable (hf : ∀ p, (f p).playerId = p.playerId)

omit [Runtime]

lemma covered_modify (h : SamePlayers R t u) (hs : ∀ p, (f p).sessionId = p.sessionId) :
    ∀ p ∈ (t.modify k f hf).rows, R.sessionId = some p.sessionId → p.playerId ∈ R.players := by
  intro p hp
  obtain ⟨row, hrow, rfl⟩ := List.mem_map.mp hp
  split
  · rw [hs, hf]
    exact h.covered row hrow
  · exact h.covered row hrow

lemma SamePlayers.modify_other (h : SamePlayers R t u) (hs : ∀ p, (f p).sessionId = p.sessionId)
    (hk : k ∉ R.players) : SamePlayers R (t.modify k f hf) u where
  roster sessionId hsession := by
    rw [Table.filter_modify_of_not (fun p => by rw [hs])]
    · exact h.roster sessionId hsession
    · rintro p hp rfl
      refine decide_eq_false fun heq => hk (h.covered p hp ?_)
      rw [heq, hsession]
  player playerId hplayer := by
    have hne : playerId ≠ k := by
      rintro rfl
      exact hk hplayer
    rw [Table.get?_modify_of_ne t f hf hne]
    exact h.player playerId hplayer
  known playerId hsome := by
    rw [Table.get?_modify, Option.isSome_map]
    exact h.known playerId hsome
  covered := covered_modify hf h hs

lemma SamePlayers.modify (h : SamePlayers R t u) (hs : ∀ p, (f p).sessionId = p.sessionId) :
    SamePlayers R (t.modify k f hf) (u.modify k f hf) where
  roster sessionId hsession := by
    rw [Table.filter_modify (fun p => by rw [hs]), Table.filter_modify (fun p => by rw [hs]),
      h.roster sessionId hsession]
  player playerId hplayer := by
    rw [Table.get?_modify, Table.get?_modify, h.player playerId hplayer]
  known playerId hsome := by
    rw [Table.get?_modify, Option.isSome_map] at hsome ⊢
    exact h.known playerId hsome
  covered := covered_modify hf h hs

lemma SamePlayers.insert_other {t' : Table GamePlayer.playerId} {p : GamePlayer}
    (h : SamePlayers R t u) (ht : t.insert p = some t')
    (hsession : R.sessionId ≠ some p.sessionId) (hp : p.playerId ∉ R.players) :
    SamePlayers R t' u where
  roster sessionId hsid := by
    have hne : p.sessionId ≠ sessionId := fun heq => hsession (heq ▸ hsid)
    rw [Table.rows_insert ht, List.filter_append, h.roster sessionId hsid]
    simp [hne]
  player playerId hplayer := by
    have hne : playerId ≠ p.playerId := by
      rintro rfl
      exact hp hplayer
    rw [Table.get?_insert ht, if_neg hne]
    exact h.player playerId hplayer
  known playerId hsome := by
    rw [Table.get?_insert ht]
    split
    · rfl
    · exact h.known playerId hsome
  covered q hq hqs := by
    rcases (Table.mem_insert ht q).mp hq with hq | rfl
    · exact h.covered q hq hqs
    · exact absurd hqs hsession

lemma SamePlayers.insert {t' : Table GamePlayer.playerId} {p : GamePlayer} (h : SamePlayers R t u)
    (ht : t.insert p = some t') (hp : R.sessionId = some p.sessionId → p.playerId ∈ R.players) :
    ∃ u', u.insert p = some u' ∧ SamePlayers R t' u' := by
  have hfresh : p.playerId ∉ u.rows.map GamePlayer.playerId := by
    have hnone := Table.get?_eq_none.mpr (Table.fresh_of_insert ht)
    apply Table.get?_eq_none.mp
    cases hu : u.get? p.playerId with
    | none => rfl
    | some row =>
      have hsome := h.known p.playerId (by rw [hu]; rfl)
      rw [hnone] at hsome
      cases hsome
  obtain ⟨u', hu⟩ := Table.exists_insert hfresh
  refine ⟨u', hu, ?_, ?_, ?_, ?_⟩
  · intro sessionId hsession
    rw [Table.rows_insert ht, Table.rows_insert hu, List.filter_append, List.filter_append,
      h.roster sessionId hsession]
  · intro playerId hplayer
    rw [Table.get?_insert ht, Table.get?_insert hu, h.player playerId hplayer]
  · intro playerId hsome
    rw [Table.get?_insert ht]
    rw [Table.get?_insert hu] at hsome
    split
    · rfl
    · rename_i hne
      rw [if_neg hne] at hsome
      exact h.known playerId hsome
  · intro q hq
    rcases (Table.mem_insert ht q).mp hq with hq | rfl
    · exact h.covered q hq
    · exact hp

lemma SameDb.samePlayers (h : SameDb R d e) (hd : Covers R d) : SamePlayers R d.players e.players :=
  ⟨h.roster, h.player, h.known, hd⟩

lemma SamePlayers.flush_other (h : SamePlayers R t u) (changes : Changes)
    (hplayer : ∀ p ∈ changes.player, p.loaded.playerId ∉ R.players)
    (hconnected : ∀ p ∈ changes.connected, p.1 ∉ R.players) :
    SamePlayers R (Db.flushConnected (Db.flushPlayer t changes.player) changes.connected) u := by
  have hflushed : SamePlayers R (Db.flushPlayer t changes.player) u := by
    cases hp : changes.player with
    | none => exact h
    | some p => exact h.modify_other (GamePlayer.playerId_flush p) (fun _ => rfl) (hplayer p hp)
  cases hc : changes.connected with
  | none => exact hflushed
  | some p =>
    exact hflushed.modify_other (GamePlayer.playerId_connect p.2) (fun _ => rfl) (hconnected p hc)

lemma SamePlayers.flush (h : SamePlayers R t u) (changes : Changes) :
    SamePlayers R (Db.flushConnected (Db.flushPlayer t changes.player) changes.connected)
      (Db.flushConnected (Db.flushPlayer u changes.player) changes.connected) := by
  have hflushed : SamePlayers R (Db.flushPlayer t changes.player)
      (Db.flushPlayer u changes.player) := by
    cases changes.player with
    | none => exact h
    | some p => exact h.modify (GamePlayer.playerId_flush p) fun _ => rfl
  cases changes.connected with
  | none => exact hflushed
  | some p => exact hflushed.modify (GamePlayer.playerId_connect p.2) fun _ => rfl

lemma SameDb.commit_other {d' : Db} (h : SameDb R d e) (hd : Covers R d) (hRQ : Apart R Q)
    (hQ : Q.Holds changes) (hnew : ∀ p ∈ changes.newPlayer, p.playerId ∈ Q.players)
    (hcommit : d.commit changes = some d') :
    SameDb R d' e := by
  obtain ⟨hquizzes, hsessions⟩ := commit_eq_some hcommit
  have hother : ∀ playerId ∈ Q.players, playerId ∉ R.players := fun playerId hq hr =>
    hRQ.players playerId hr hq
  have hflushed := (h.samePlayers hd).flush_other changes (fun p hp => hother _ (hQ.player p hp))
    fun p hp => hother _ (hQ.connected p hp)
  have hplayers : SamePlayers R d'.players e.players := by
    have hinsert := commit_players hcommit
    cases hn : changes.newPlayer with
    | none =>
      rw [hn] at hinsert
      exact Option.some.inj hinsert ▸ hflushed
    | some p =>
      rw [hn, Db.insertPlayer] at hinsert
      split at hinsert
      · refine hflushed.insert_other hinsert (fun hs => ?_) (hother _ (hnew p hn))
        exact hRQ.session _ hs (hQ.newPlayer p hn)
      · cases hinsert
  refine ⟨h.quizzes.trans hquizzes.symm, ?_, hplayers.roster, hplayers.player, hplayers.known, ?_⟩
  · rw [hsessions, flushSession_get?_of_ne fun g hg => (hQ.session g hg).symm ▸ hRQ.code.symm]
    exact h.session
  · rcases commit_answers hcommit with ⟨-, hanswers⟩ | ⟨a, ha, -, hanswers⟩
    · rw [hanswers]
      exact h.answers
    · have hnot := hother _ (hQ.newAnswer a ha)
      rw [Table.rows_insert hanswers, List.filter_append, h.answers]
      simp [hnot]

lemma SameDb.answer_mem (h : SameDb R d e) {a : GamePlayerAnswer} (ha : a.playerId ∈ R.players) :
    a.key ∈ e.answers.rows.map GamePlayerAnswer.key ↔
      a.key ∈ d.answers.rows.map GamePlayerAnswer.key := by
  have hmem : ∀ r : GamePlayerAnswer, r.key = a.key →
      (r ∈ e.answers.rows ↔ r ∈ d.answers.rows) := by
    intro r hr
    have heq : r.playerId = a.playerId := congrArg Prod.fst hr
    have hplayer : r.playerId ∈ R.players := heq ▸ ha
    have hrows := congrArg (fun rows => r ∈ rows) h.answers
    simpa [hplayer] using hrows
  simp only [List.mem_map]
  exact exists_congr fun r => ⟨fun ⟨hr, hk⟩ => ⟨(hmem r hk).mp hr, hk⟩, fun ⟨hr, hk⟩ =>
    ⟨(hmem r hk).mpr hr, hk⟩⟩

lemma SameDb.insertAnswer (h : SameDb R d e) {a : GamePlayerAnswer} (ha : a.playerId ∈ R.players) :
    (e.insertAnswer (some a)).isSome = (d.insertAnswer (some a)).isSome := by
  have hquestion : e.question? a.questionId = d.question? a.questionId := by
    rw [Db.question?, h.quizzes, Db.question?]
  simp only [Db.insertAnswer, h.player _ ha, hquestion]
  split
  · rw [Bool.eq_iff_iff, Option.isSome_iff_ne_none, Option.isSome_iff_ne_none, ne_eq, ne_eq,
      Table.insert_eq_none, Table.insert_eq_none, h.answer_mem ha]
  · rfl

lemma session_any (hsession : (d.sessions.get? R.code).map GameSession.sessionId = R.sessionId)
    {sessionId : UUID} (h : R.sessionId = some sessionId) :
    d.sessions.rows.any (fun g => g.sessionId = sessionId) = true := by
  rw [h, Option.map_eq_some_iff] at hsession
  obtain ⟨g, hg, hid⟩ := hsession
  exact List.any_eq_true.mpr ⟨g, Table.mem_get? hg, decide_eq_true hid⟩

lemma SameDb.commit {d' : Db} (h : SameDb R d e) (hd : Covers R d) (hR : R.Holds changes)
    (hnew : ∀ p ∈ changes.newPlayer, p.playerId ∈ R.players)
    (hsession : (d.sessions.get? R.code).map GameSession.sessionId = R.sessionId)
    (hcommit : d.commit changes = some d') : ∃ e', e.commit changes = some e' ∧ SameDb R d' e' := by
  obtain ⟨hquizzes, hsessions⟩ := commit_eq_some hcommit
  have hflushed := (h.samePlayers hd).flush changes
  obtain ⟨players, hplayers, hsame⟩ : ∃ players, e.insertPlayer
      (Db.flushConnected (Db.flushPlayer e.players changes.player) changes.connected)
        changes.newPlayer = some players ∧
      SamePlayers R d'.players players := by
    have hinsert := commit_players hcommit
    cases hn : changes.newPlayer with
    | none =>
      rw [hn] at hinsert
      exact ⟨_, rfl, Option.some.inj hinsert ▸ hflushed⟩
    | some p =>
      rw [hn, Db.insertPlayer] at hinsert
      split at hinsert
      · obtain ⟨players, hplayers, hsame⟩ := hflushed.insert hinsert fun _ => hnew p hn
        refine ⟨players, ?_, hsame⟩
        rw [Db.insertPlayer, if_pos (session_any (h.session ▸ hsession) (hR.newPlayer p hn))]
        exact hplayers
      · cases hinsert
  obtain ⟨answers, hanswers, hrows⟩ : ∃ answers, e.insertAnswer changes.newAnswer = some answers ∧
      ∀ p : GamePlayerAnswer → Bool, e.answers.rows.filter p = d.answers.rows.filter p →
        answers.rows.filter p = d'.answers.rows.filter p := by
    rcases commit_answers hcommit with ⟨hnone, hanswers⟩ | ⟨a, ha, -, hanswers⟩
    · refine ⟨e.answers, by rw [hnone]; rfl, fun p hp => ?_⟩
      rw [hanswers]
      exact hp
    · have hsome := h.insertAnswer (hR.newAnswer a ha)
      have hd' : d.insertAnswer (some a) = some d'.answers := by
        simp only [Db.commit, Option.bind_eq_some_iff, Option.map_eq_some_iff, ha] at hcommit
        obtain ⟨answers, hinserted, players, -, rfl⟩ := hcommit
        exact hinserted
      rw [hd', Option.isSome_some, Option.isSome_iff_exists] at hsome
      obtain ⟨answers, he⟩ := hsome
      refine ⟨answers, ha ▸ he, fun p hp => ?_⟩
      rw [Db.insertAnswer] at he
      split at he
      · rw [Table.rows_insert he, Table.rows_insert hanswers, List.filter_append,
          List.filter_append, hp]
      · cases he
  refine ⟨⟨e.quizzes, e.flushSession changes.session, players, answers, e.quizId_flushSession
    changes.session⟩, ?_, ?_⟩
  · rw [Db.commit, hanswers, Option.bind_some, hplayers]
    rfl
  · refine ⟨h.quizzes.trans hquizzes.symm, ?_, hsame.roster, hsame.player, hsame.known,
      hrows _ h.answers⟩
    rw [hsessions]
    cases hs : changes.session with
    | none => exact h.session
    | some g =>
      have hcode := hR.session g hs
      simp only [Db.flushSession, ← hcode, Table.get?_modify_self]
      rw [hcode, h.session]

lemma exists_insertPlayer (hR : R.Holds changes)
    (hfresh : ∀ p ∈ changes.newPlayer, d.players.get? p.playerId = none)
    (hsession : (d.sessions.get? R.code).map GameSession.sessionId = R.sessionId) :
    ∃ players, d.insertPlayer (Db.flushConnected (Db.flushPlayer d.players changes.player)
      changes.connected)
      changes.newPlayer = some players := by
  cases hn : changes.newPlayer with
  | none => exact ⟨_, rfl⟩
  | some p =>
    have hnone : (Db.flushConnected (Db.flushPlayer d.players changes.player)
      changes.connected).get? p.playerId =
        none := by
      have hold := hfresh p hn
      cases changes.player <;> cases changes.connected <;>
        simp [Db.flushPlayer, Db.flushConnected, Table.get?_modify, hold]
    obtain ⟨players, hplayers⟩ := Table.exists_insert (r := p) (Table.get?_eq_none.mp hnone)
    exact ⟨players, by rw [Db.insertPlayer,
      if_pos (session_any hsession (hR.newPlayer p hn)), hplayers]⟩

lemma SameDb.commit_none (h : SameDb R d e) (hR : R.Holds changes)
    (hfresh : ∀ p ∈ changes.newPlayer, d.players.get? p.playerId = none)
    (hsession : (d.sessions.get? R.code).map GameSession.sessionId = R.sessionId)
    (hcommit : d.commit changes = none) : e.commit changes = none := by
  obtain ⟨players, hplayers⟩ := exists_insertPlayer hR hfresh hsession
  rw [Db.commit, Option.bind_eq_none_iff] at hcommit ⊢
  intro answers hanswers
  exfalso
  obtain ⟨answers', hd⟩ : ∃ answers', d.insertAnswer changes.newAnswer = some answers' := by
    cases ha : changes.newAnswer with
    | none => exact ⟨_, rfl⟩
    | some a =>
      have hsome := h.insertAnswer (hR.newAnswer a ha)
      rw [ha] at hanswers
      rw [hanswers, Option.isSome_some, eq_comm, Option.isSome_iff_exists] at hsome
      exact hsome
  have hnone := hcommit answers' hd
  rw [hplayers] at hnone
  cases hnone

lemma SameDb.answersOf (h : SameDb R d e) (hd : Covers R d) {sessionId questionId : UUID}
    (hsession : R.sessionId = some sessionId) :
    e.answersOf sessionId questionId = d.answersOf sessionId questionId := by
  classical
  have hcovered : ∀ p ∈ d.playersOf sessionId, p.playerId ∈ R.players := by
    intro p hp
    obtain ⟨hmem, hs⟩ := List.mem_filter.mp hp
    refine hd p hmem ?_
    rw [of_decide_eq_true hs, hsession]
  -- only answers of the room's players can be found
  have hfound : ∀ f : Db, f.playersOf sessionId = d.playersOf sessionId → ∀ playerId ∉ R.players,
      (f.players.get? playerId).filter (fun p => p.sessionId = sessionId) = none := by
    intro f hf playerId hnot
    cases hp : (f.players.get? playerId).filter fun p => p.sessionId = sessionId with
    | none => rfl
    | some p =>
      obtain ⟨hget, hs⟩ := Option.filter_eq_some_iff.mp hp
      have hmem : p ∈ f.playersOf sessionId := List.mem_filter.mpr ⟨Table.mem_get? hget, hs⟩
      exact absurd (Table.key_get? hget ▸ hcovered p (hf ▸ hmem)) hnot
  have hrows : ∀ f : Db, f.playersOf sessionId = d.playersOf sessionId →
    f.answersOf sessionId questionId =
      (f.answers.rows.filter fun a => a.playerId ∈ R.players).filterMap fun a =>
        if a.questionId = questionId then
          ((f.players.get? a.playerId).filter fun p => p.sessionId = sessionId).map fun p => (a, p)
        else none := by
    intro f hf
    rw [List.filterMap_filter]
    refine List.filterMap_congr fun a _ => ?_
    by_cases ha : a.playerId ∈ R.players
    · simp [ha]
    · simp [ha, hfound f hf a.playerId ha]
  rw [hrows e (h.roster sessionId hsession), hrows d rfl, h.answers]
  refine List.filterMap_congr fun a ha => ?_
  rw [h.player a.playerId (of_decide_eq_true (List.mem_filter.mp ha).2)]

end Database

end Isolation

end Askit.Game
