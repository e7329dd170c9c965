import Askit.Game.FeedHandlers

/-! The feed of answers that a host watches live and the one that is rebuilt for a reconnect. -/

namespace Askit.Game

open Interleaving Machine Coro Tables

section

variable [Runtime]

namespace LiveFeed

section Rebuilt

variable {roomCode : String} {sessionId : UUID} {l : List Accepted} {s : State} {room : String}
    {loaded : Room}

lemma Kept.env (e : Env) (h : Kept roomCode sessionId l s) :
    Kept roomCode sessionId l (e.act s) := by
  cases e with
  | clock now => exact h.of_db rfl rfl
  | lose key =>
    cases key with
    | questions room =>
      apply h.same
      refine ⟨rfl, fun g hg => ⟨g, hg, rfl, rfl⟩, rfl, rfl, fun _ _ => rfl, ?_⟩
      rintro room' ids ⟨hup, hids⟩
      refine ⟨hup, ?_⟩
      by_cases hroom : room' = room
      · subst hroom
        simp [Env.act, Redis.lose, Redis.setQuestions] at hids
      · simpa [Env.act, Redis.lose, Redis.setQuestions, Function.update_of_ne hroom] using hids
    | questionStart | answered | prevRanking | wsToken => exact h.of_db rfl rfl

lemma kept_of_opened {g : GameSession} (h : Opened roomCode g s) :
    Kept roomCode g.sessionId [] s := by
  have hposition : s.position roomCode = ⟨.waiting, 0⟩ :=
    (State.position_eq h.stored).trans h.waiting
  have hunordered : ∀ room ids, ¬Ordered roomCode s room ids := by
    rintro room ids ⟨hup, hids⟩
    rw [h.unordered room hup] at hids
    cases hids
  refine ⟨⟨g, h.stored, rfl⟩, h.only, fun a ha => ?_, fun _ =>
    ⟨by rw [hposition], hunordered, fun a ha hof => ?_⟩,
    fun _ _ _ _ hr => absurd hr (hunordered _ _), fun _ _ hr => absurd hr (hunordered _ _),
    fun a ha => by cases ha⟩
  · obtain ⟨p, hp, -⟩ := h.unanswered a ha
    rw [hp]
    rfl
  · obtain ⟨p, hp, hne⟩ := h.unanswered a ha
    obtain ⟨p', hp', hsession⟩ := hof
    obtain rfl : p = p' := Option.some.inj (hp.symm.trans hp')
    exact hne hsession

/-- What the host is shown of who answered what, when nothing else happens meanwhile. -/
def feed (s : State) (room : String) (g : GameSession) : List WSHostAnswerUpdate :=
  match Submissions.currentQuestion s room g.currentQuestionIndex with
  | some question => details s.db g.sessionId question.questionId
  | none => []

omit [Runtime] in
lemma map_answersOf (d : Db) (sessionId questionId : UUID) : (d.answersOf sessionId questionId).map
    (fun (a, p) => ⟨p.playerId, p.nickname, a.isCorrect, a.selectedAnswerIds,
      a.timeTakenMs, p.score⟩) =
      details d sessionId questionId := by
  rw [Db.answersOf, List.map_filterMap, details]
  congr 1
  funext a
  unfold detail
  split
  · rw [Option.map_map]
    rfl
  · rfl

lemma buildQuestionMessage_alone (s : State) (question : QuizQuestion)
    (questionIndex totalQuestions : ℕ) (room : String) (randomizeAnswers : Bool) : ∃ message,
      (buildQuestionMessage question questionIndex totalQuestions room randomizeAnswers).alone
        exec s =
        (.ok message, s) := by
  unfold buildQuestionMessage
  rw [alone_perform_bind (t := s) (a := s.redis.questionStart room) rfl]
  cases s.redis.questionStart room <;> exact ⟨_, rfl⟩

lemma buildQuestionEnded_alone (sessionId : UUID)
    (hroom : s.db.room? (Runtime.upper room) = some loaded) (question : QuizQuestion) :
    ∃ ended t, (buildQuestionEnded room sessionId question).alone exec s =
      (.ok (some loaded, ended), t) := by
  have hread : exec (.getRoom room) s = (.ok (some loaded), s) := by rw [← hroom]; rfl
  obtain ⟨t, prevRanking, hboard⟩ := History.getLeaderboard_alone hread
  rw [buildQuestionEnded, alone_bind_ok (Distribution.computeAnswerDistribution_alone s
    sessionId question), alone_bind_ok hboard]
  exact ⟨_, t, rfl⟩

lemma buildRoomState_alone (hroom : s.db.room? (Runtime.upper room) = some loaded)
    (hshows : loaded.session.position.Shows) :
    ∃ state, ((buildRoomState room true).alone exec s).1 = .ok (some state) ∧
      state.hostAnswerDetails = feed s room loaded.session := by
  unfold feed
  rw [buildRoomState, alone_perform_bind (t := s) (a := some loaded) (by rw [← hroom]; rfl)]
  simp only [alone_ite]
  rw [if_pos (show loaded.session.status = .question ∨
    loaded.session.status = .revealing from hshows)]
  rw [alone_bind_ok (Alone.getCurrentQuestion_alone s room), hroom]
  simp only [Option.bind_some, Option.getD_some]
  cases Submissions.currentQuestion s room loaded.session.currentQuestionIndex with
  | none => exact ⟨_, rfl, rfl⟩
  | some question =>
    obtain ⟨message, hmessage⟩ := buildQuestionMessage_alone s question
      loaded.session.currentQuestionIndex
      loaded.quiz.questions.length room loaded.session.randomizeAnswers
    have hdetails : (answerDetails true loaded.session.sessionId question).alone exec s =
        (.ok (details s.db loaded.session.sessionId question.questionId), s) := by
      rw [← map_answersOf]
      rfl
    dsimp only
    rw [alone_bind_ok hmessage, alone_bind_ok hdetails, alone_ite]
    split
    · obtain ⟨ended, t, hended⟩ := buildQuestionEnded_alone loaded.session.sessionId hroom question
      rw [alone_bind_ok hended]
      exact ⟨_, rfl, rfl⟩
    · exact ⟨_, rfl, rfl⟩

lemma buildRoomState_returns (room : String) : (buildRoomState room false).Returns system.Answers
    fun state => ∀ st ∈ state, st.hostAnswerDetails = [] := by
  have hnone : ∀ loaded players count question ended,
      ∀ st ∈ some (roomState loaded players count question [] ended),
      st.hostAnswerDetails = [] := by
    rintro loaded players count question ended _ ⟨⟩
    rfl
  apply Returns.perform_bind
  intro loaded _
  cases loaded with
  | none => exact (returns_pure _).mpr (by simp)
  | some loaded =>
    dsimp only
    split
    · apply Returns.bind
      rintro ⟨refreshed, question⟩
      cases question with
      | none => exact (returns_pure _).mpr (hnone _ _ _ _ _)
      | some question =>
        apply Returns.bind
        intro message
        change Returns _ _ (if _ then _ else _ : Handler (Option WSRoomState))
        split
        · exact Returns.bind fun ended => (returns_pure _).mpr (hnone _ _ _ _ _)
        · exact (returns_pure _).mpr (hnone _ _ _ _ _)
    · exact (returns_pure _).mpr (hnone _ _ _ _ _)

lemma Kept.feed (h : Kept roomCode sessionId l s) (hup : Runtime.upper room = roomCode)
    {g : GameSession} (hg : s.db.sessions.get? roomCode = some g) (hshows : g.position.Shows)
    {ids : List UUID} (hids : s.redis.questions room = some ids) :
    ((LiveFeed.feed s room g).map some).Perm (updatesOf g.sessionId g.currentQuestionIndex l) := by
  obtain ⟨g', hg', rfl⟩ := h.stored
  obtain rfl : g = g' := Option.some.inj (hg.symm.trans hg')
  have hpos := State.position_eq hg
  have hin := h.order room ids ⟨hup, hids⟩
  rw [← hpos] at hshows
  obtain ⟨hone, hle⟩ := hin.shown hshows
  have hindex : (s.position roomCode).index = g.currentQuestionIndex := by rw [hpos]; rfl
  rw [hindex] at hone hle
  have hlt : g.currentQuestionIndex - 1 < ids.length := by omega
  obtain ⟨question, hquestion, hid⟩ := hin.exist _ (List.getElem_mem hlt)
  have hcurrent : Submissions.currentQuestion s room g.currentQuestionIndex = some question := by
    rw [Submissions.currentQuestion, if_neg (by omega), hids, Option.bind_some,
      List.getElem?_eq_getElem hlt, Option.bind_some, hquestion]
  rw [LiveFeed.feed, hcurrent]
  have hfeed := hin.feed hshows question.questionId
    (by rw [hindex, List.getElem?_eq_getElem hlt, hid])
  rwa [hindex] at hfeed

omit [Runtime] in
lemma feed_of_unordered {g : GameSession} (h : s.redis.questions room = none) :
    feed s room g = [] := by
  simp [feed, Submissions.currentQuestion, h]

end Rebuilt

end LiveFeed

/-- While a question is running or being revealed the feed is rebuilt for the host if and only if
the order of the questions is there under the spelling of the room's code, or no answer has been
accepted for the question. That of a player is always empty. -/
theorem rebuilt_feed_is_live_iff (roomCode : String) (g : GameSession) (s : State)
    (hs : Opened (Runtime.upper roomCode) g s) (l : List system.Turn) :
    let t : State := (inTurn Op.rests l (system.start s)).world.state
    let accepted := notes Op.rests acceptedAnswer l (system.start s)
    (∀ room, t.db.room? (Runtime.upper roomCode) = some room → room.session.position.Shows →
      (RebuildsFeed roomCode room.session t accepted ↔ (t.redis.questions roomCode).isSome ∨
        updatesOf room.session.sessionId room.session.currentQuestionIndex accepted = [])) ∧
    ∀ code state, ((buildRoomState code false).alone exec t).1 = .ok (some state) →
      state.hostAnswerDetails = [] := by
  intro t accepted
  have hkept : LiveFeed.Kept (Runtime.upper roomCode) g.sessionId accepted t := by
    have hstart : (system.start s).Settled Op.rests
        (fun l w => LiveFeed.Kept (Runtime.upper roomCode) g.sessionId l w.state) [] :=
      settled_start (LiveFeed.kept_of_opened hs)
    have hrun := settled_inTurn acceptedAnswer
      (fun i l w call u h hu => LiveFeed.code_feeds call hu h) (fun l w e h => h.env e) hstart l
    simpa using hrun.inv
  refine ⟨fun room hroom hshows => ?_, fun code state hstate => ?_⟩
  · obtain ⟨state, hstate, hdetails⟩ := LiveFeed.buildRoomState_alone hroom hshows
    have hrebuilds : RebuildsFeed roomCode room.session t accepted ↔
        ((LiveFeed.feed t roomCode room.session).map some).Perm
          (updatesOf room.session.sessionId room.session.currentQuestionIndex accepted) := by
      simp [RebuildsFeed, hstate, ← hdetails]
    rw [hrebuilds]
    cases hids : t.redis.questions roomCode with
    | some ids =>
      exact iff_of_true (hkept.feed rfl (LiveFeed.session_of_room? hroom) hshows hids) (.inl rfl)
    | none =>
      rw [LiveFeed.feed_of_unordered hids, List.map_nil, List.nil_perm]
      simp
  · exact Returns.alone (fun o s a ha => ⟨s, ha⟩) (LiveFeed.buildRoomState_returns code)
      hstate state rfl

end

section Sample

attribute [local instance] Runtime.ascii

lemma Sample.opened : Opened (Runtime.upper "ABCDEF") Sample.session Sample.state where
  stored := by decide +kernel
  waiting := rfl
  only := by decide +kernel
  unordered _ _ := rfl
  unanswered a h := by cases h

/-- The first question is running, and a player has answered it. -/
def answeredGame : List system.Turn :=
  [.serve (Call.hostFrames "ABCDEF" "host" [.startGame]), .resume 0,
    .serve (Call.playerFrame "ABCDEF" "p1" (.answer "q1" ["q1a"]))]

def Sample.answered : Room where
  session :=
    { Sample.session with status := .question, currentQuestionIndex := 1, startedAt := some 0 }
  players := [⟨"p1", "session", "Ann", none, 1000, true⟩, ⟨"p2", "session", "Ben", none, 0, true⟩]
  quiz := Sample.quiz

def afterTurns (l : List system.Turn) :
    State := (inTurn Op.rests l (system.start Sample.state)).world.state

def acceptedIn (l : List system.Turn) :
    List Accepted := notes Op.rests acceptedAnswer l (system.start Sample.state)

theorem rebuilt_feed_is_live_answered :
    RebuildsFeed "ABCDEF" Sample.answered.session (afterTurns answeredGame)
      (acceptedIn answeredGame) ∧
      acceptedIn answeredGame = [⟨"session", 1, some ⟨"p1", "Ann", true, ["q1a"], 0, 1000⟩⟩] :=
  ⟨((rebuilt_feed_is_live_iff "ABCDEF" Sample.session Sample.state Sample.opened
      answeredGame).1 Sample.answered
    (by decide +kernel) (.inl rfl)).mpr (.inl (by decide +kernel)), by decide +kernel⟩

/-- The host reloads the page under another spelling of the code, or once the order of the questions
has expired. -/
theorem reloaded_feed_is_empty :
    (afterTurns answeredGame).db.room? (Runtime.upper "abcdef") = some Sample.answered ∧
    ¬RebuildsFeed "abcdef" Sample.answered.session (afterTurns answeredGame)
      (acceptedIn answeredGame) ∧
    (afterTurns (answeredGame ++ [.env (Env.lose (.questions "ABCDEF"))])).db.room?
        (Runtime.upper "ABCDEF") =
      some Sample.answered ∧
    ¬RebuildsFeed "ABCDEF" Sample.answered.session
      (afterTurns (answeredGame ++ [.env (Env.lose (.questions "ABCDEF"))]))
      (acceptedIn (answeredGame ++ [.env (Env.lose (.questions "ABCDEF"))])) := by
  decide +kernel

end Sample

end Askit.Game
