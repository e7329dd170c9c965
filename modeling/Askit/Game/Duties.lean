import Askit.Game.ServiceDuties

/-! What each handler does before it sends: what it has read of the room, what it has recorded, and
what it has closed. -/

namespace Askit.Game

open Interleaving Machine Coro Tables

namespace Recipients

section

variable [Runtime]
variable {i : ℕ} {call : Call} {roomCode : String} {playerId : UUID} {websocket : Socket}
    {message : Frame}
variable {l l' : List Ev} {α β γ : Type}

section Router

lemma announceFinished_follows {room : Room} {finished : WSGameFinished}
    (hroom : ⟨i, .getRoom call.room, .ok (some room)⟩ ∈ l)
    (hresults : finished.publicResults = room.session.publicResults) :
    Follows i call (fun _ l' => l <+: l') (announceFinished call.room room finished) l := by
  apply Follows.ite
  · exact fun hpublic => broadcastToRoom_follows none (hresults.trans hpublic) trivial
  · intro _
    apply Follows.bind (sendToHost_follows (fun _ h => (by cases h)) (by trivial))
    swap
    · exact fun _ _ h => h
    intro _ l₁ h₁
    have hplayers : Follows i call (fun _ l' => l₁ <+: l')
      ((room.players.map GamePlayer.playerId).forM fun targetId =>
        sendToPlayer targetId (.gameFinished (gameFinishedForPlayer finished targetId))) l₁ := by
      apply Follows.forM _ (List.prefix_refl _)
      intro targetId htarget l₂ h₂
      have hread := (h₁.trans h₂).subset hroom
      have hown : Personal i call l₂ targetId
          (.gameFinished (gameFinishedForPlayer finished targetId)) :=
        ⟨⟨room, hread, List.mem_map.mp htarget⟩, room, room, hread, hread, hresults,
          .inr fun e he => of_decide_eq_true (List.mem_filter.mp he).2⟩
      exact (sendToPlayer_follows hown (by trivial)).mono fun _ _ h => h₂.trans h
    exact hplayers.mono fun _ _ h => h₁.trans h

lemma endGame_follows : Follows i call (fun _ _ => True) (endGame call.room) l := by
  apply quiet_bind (by trivial)
  swap
  · exact fun _ => trivial
  rintro (_ | room) -
  · trivial
  apply quiet_bind (by trivial)
  swap
  · exact fun _ => trivial
  intro endedAt _
  apply quiet_bind (by trivial)
  swap
  · exact fun _ => trivial
  intro _ _
  apply Follows.bind buildGameFinished_follows
  swap
  · exact fun _ _ _ => trivial
  rintro (_ | ⟨room, finished⟩) l₁ ⟨-, hfinished⟩
  · trivial
  obtain ⟨hroom, hresults⟩ := hfinished room finished rfl
  apply Follows.bind (announceFinished_follows hroom hresults)
  · exact fun _ l₂ _ => quiet_ends ((all_perform _).mpr (by trivial))
  · exact fun _ _ _ => trivial

lemma advanceToQuestion_quiet (roomCode : String) (questionIndex : ℕ) :
    (advanceToQuestion roomCode questionIndex).All system.Answers Quiet := by
  apply All.perform_bind (by trivial)
  rintro (_ | room) -
  · trivial
  apply All.perform_bind (by trivial)
  rintro (_ | ids) -
  · trivial
  apply All.perform_bind (by trivial)
  intro _ _
  apply All.ite
  · exact fun _ => All.perform_bind (by trivial) fun _ _ => All.perform_bind (by trivial)
      fun _ _ => trivial
  intro _
  apply All.perform_bind (by trivial)
  intro _ _
  apply All.perform_bind (by trivial)
  intro _ _
  apply All.perform_bind (by trivial)
  intro _ _
  cases ids[questionIndex - 1]? with
  | none => trivial
  | some questionId => exact (all_perform _).mpr (by trivial)

lemma sendQuestion_follows (questionIndex totalQuestions : ℕ) :
    Follows i call (fun _ _ => True) (sendQuestion call.room questionIndex totalQuestions) l := by
  apply Follows.bind (quiet_follows (advanceToQuestion_quiet _ _))
  swap
  · exact fun _ _ _ => trivial
  rintro (_ | question) l₁ _
  · exact endGame_follows
  apply quiet_bind (by trivial)
  swap
  · exact fun _ => trivial
  intro room _
  apply Follows.bind (quiet_follows (buildQuestionMessage_quiet _ _ _ _ _))
  swap
  · exact fun _ _ _ => trivial
  intro message l₂ _
  apply Follows.bind (broadcastToRoom_follows none (by trivial) (by trivial))
  · exact fun _ l₃ _ => quiet_ends ((all_perform _).mpr (by trivial))
  · exact fun _ _ _ => trivial

lemma startGame_quiet (roomCode : String) (hostId : UUID) :
    (startGame roomCode hostId).All system.Answers Quiet := by
  apply All.perform_bind (by trivial)
  rintro (_ | room) -
  · trivial
  apply All.require_bind
  intro _
  apply All.require_bind
  intro _
  apply All.bind
  · exact All.ite (fun _ => (all_perform _).mpr (by trivial)) fun _ => trivial
  · exact fun _ => All.perform_bind (by trivial) fun _ _ => All.perform_bind (by trivial) fun _ _ =>
      All.perform_bind (by trivial) fun _ _ => trivial

lemma handleStartGame_follows (hostId : UUID) :
    Follows i call (fun _ _ => True) (handleStartGame call.room hostId) l := by
  apply Follows.bind (quiet_follows (startGame_quiet _ _))
  swap
  · exact fun _ _ _ => trivial
  intro questions l₁ _
  apply Follows.bind (S := fun _ _ => True)
  · apply Follows.forM _ trivial
    intro ms _ l₂ _
    apply Follows.bind (broadcastToRoom_follows none (by trivial) (by trivial))
    · exact fun _ _ _ => quiet_ends ((all_perform _).mpr (by trivial))
    · exact fun _ _ _ => trivial
  · exact fun _ _ _ => sendQuestion_follows _ _
  · exact fun _ _ _ => trivial

lemma announceEnded_follows (sessionId : UUID) {room : Room} {question : QuizQuestion}
    (hasks : Asks i call l room question)
    (hclosed : Closes i call.room room.session.currentQuestionIndex l ∨
      Overtaken i call room.session.currentQuestionIndex l) :
    Follows i call (fun _ _ => True) (do
      let (_, ended) ← buildQuestionEnded call.room sessionId question
      broadcastToRoom call.room (.questionEnded ended) none) l := by
  apply Follows.bind ((quiet_follows (buildQuestionEnded_quiet _ _ _)).and_returns
    (buildQuestionEnded_returns _ _ _))
  swap
  · exact fun _ _ _ => trivial
  rintro ⟨refreshed, ended⟩ l₁ ⟨h₁, hshown⟩
  have hdue : Due i call l₁ (.questionEnded ended) :=
    ⟨_, (hasks.mono h₁.subset).shows (hshown _ rfl).1 (hshown _ rfl).2,
      hclosed.imp (·.mono h₁.subset) (·.mono h₁.subset)⟩
  exact (broadcastToRoom_follows none (by trivial) hdue).mono fun _ _ _ => trivial

lemma closes_of_commit {session : GameSession} (h : session.roomCode = Runtime.upper roomCode)
    {j : ℕ} :
    Closes j roomCode session.currentQuestionIndex
      (l ++ [⟨j, .commit { session := some ⟨session, { session with status := .revealing }⟩ },
        .ok ()⟩]) :=
  ⟨session, by simp, h, rfl⟩

lemma handleNextQuestion_follows :
    Follows i call (fun _ _ => True) (handleNextQuestion call.room) l := by
  apply quiet_bind (by trivial)
  swap
  · exact fun _ => trivial
  rintro (_ | room) hroom
  · trivial
  apply Follows.ite
  · intro _
    apply Follows.bind (getCurrentQuestion_follows.and_returns
      (getCurrentQuestion_returns call.room))
    swap
    · exact fun _ _ _ => trivial
    rintro ⟨refreshed, question⟩ l₁ ⟨⟨-, hread⟩, hreturns⟩
    cases question with
    | none => trivial
    | some question =>
      obtain ⟨loaded, rfl, hasks⟩ := hread _ _ rfl
      apply quiet_bind (by trivial)
      swap
      · exact fun _ => trivial
      intro _ _
      exact announceEnded_follows _ (hasks.mono (List.subset_append_left _ _))
        (.inl (closes_of_commit (hreturns _ rfl loaded rfl)))
  · intro _
    apply Follows.ite
    · exact fun _ => trivial
    intro _
    apply Follows.ite
    · exact fun _ => endGame_follows
    · exact fun _ => sendQuestion_follows _ _

lemma questionTimeout_follows {timer : Timer} (hcall : call = .questionTimeout timer) :
    Follows i call (fun _ _ => True)
      (questionTimeout timer.roomCode timer.questionIndex timer.timeLimitMs) l := by
  have hroomCode : timer.roomCode = call.room := by rw [hcall]; rfl
  rw [hroomCode]
  apply quiet_bind (by trivial)
  swap
  · exact fun _ => trivial
  intro _ _
  apply quiet_bind (by trivial)
  swap
  · exact fun _ => trivial
  rintro (_ | room) hroom
  · trivial
  apply Follows.ite
  · exact fun _ => trivial
  intro hindex
  apply Follows.ite
  · exact fun _ => trivial
  intro _
  apply quiet_bind (by trivial)
  swap
  · exact fun _ => trivial
  intro _ _
  apply Follows.bind getCurrentQuestion_follows
  swap
  · exact fun _ _ _ => trivial
  rintro ⟨refreshed, question⟩ l₁ ⟨h₁, hread⟩
  cases question with
  | none => trivial
  | some question =>
    obtain ⟨loaded, rfl, hasks⟩ := hread _ _ rfl
    have hcloses : Closes i call.room timer.questionIndex l₁ := by
      rw [← not_not.mp hindex]
      exact (closes_of_commit (roomCode_of_answers hroom)).mono h₁.subset
    apply announceEnded_follows _ hasks
    -- the room is read anew after the commit
    by_cases hsame : loaded.session.currentQuestionIndex = timer.questionIndex
    · exact .inl (hsame ▸ hcloses)
    · exact .inr ⟨timer, loaded, hcall, hroomCode ▸ hcloses, hroomCode ▸ hasks.read, rfl, hsame⟩

lemma handleHostMessage_follows (hostId : UUID) (data : ClientMessage) :
    Follows i call (fun _ _ => True) (handleHostMessage call.room hostId data) l := by
  apply Follows.tryCatch (S := fun _ _ => True)
  · cases data with
    | startGame => exact handleStartGame_follows hostId
    | nextQuestion => exact handleNextQuestion_follows
    | answer _ _ | malformed => trivial
  · exact fun _ _ _ => trivial
  · exact fun _ _ _ => (sendToHost_follows (fun _ h => (by cases h)) (by trivial)).mono
      fun _ _ _ => trivial

lemma hostFrames_follows (hostId : UUID) (frames : List ClientMessage) :
    Follows i call (fun _ _ => True) (hostFrames call.room hostId frames) l := by
  apply Follows.forM _ trivial
  intro data _ l₁ _
  apply quiet_bind (by trivial)
  · exact fun _ _ => handleHostMessage_follows hostId data
  · exact fun _ => trivial

end Router

section Answers

variable {data : ClientMessage}

lemma sendError_follows (hcall : call = .playerFrame roomCode playerId data) (code text : String) :
    Follows i call (fun _ _ => True) (sendToPlayer playerId (.error code text)) l := by
  have hpersonal : Personal i call l playerId (.error code text) := ⟨data, by rw [hcall]; rfl⟩
  exact (sendToPlayer_follows hpersonal (by trivial)).mono fun _ _ _ => trivial

lemma answerRejected_follows (hcall : call = .playerFrame roomCode playerId data) (e : Exn) :
    Follows i call (fun _ _ => True) (answerRejected playerId e) l := by
  cases e with
  | alreadyAnsweredError | questionNotActiveError =>
    apply quiet_bind (by trivial)
    · exact fun _ _ => sendError_follows hcall _ _
    · exact fun _ => trivial
  | _ => exact sendError_follows hcall _ _

lemma sendFeedback_follows (hcall : call = .playerFrame call.room playerId data)
    {result : WSAnswerResult} {room : Option Room} (hjudged : Judged i playerId result l)
    (hroom : ∀ r ∈ room, ⟨i, .getRoom call.room, .ok (some r)⟩ ∈ l) :
    Follows i call (fun _ l' => l <+: l') (sendFeedback playerId result room) l := by
  apply Follows.ite
  swap
  · exact fun _ => List.prefix_refl l
  intro hshown
  cases room with
  | none => cases hshown
  | some room =>
    obtain ⟨player, record, question, hcommit, hp, hq, hr⟩ := hjudged
    refine sendToPlayer_follows ⟨data, hcall⟩ ⟨playerId, data, hcall, ?_⟩
    exact ⟨i, player, record, question, room, hcommit, hp, hq, hr, hroom room rfl, hshown⟩

lemma answerAccepted_follows (hcall : call = .playerFrame roomCode playerId data)
    (answerIds : List String) {result : WSAnswerResult} (hjudged : Judged i playerId result l) :
    Follows i call (fun _ _ => True) (answerAccepted roomCode playerId answerIds result) l := by
  have hroomCode : call.room = roomCode := by rw [hcall]; rfl
  subst hroomCode
  apply quiet_bind (by trivial)
  swap
  · exact fun _ => trivial
  intro room _
  have hread : ∀ r ∈ room, ⟨i, .getRoom call.room, .ok (some r)⟩ ∈ l ++
      [⟨i, .getRoom call.room, .ok room⟩] := by
    rintro r rfl
    exact List.mem_concat_self
  apply Follows.bind (broadcastToRoom_follows none (by trivial) (by trivial))
  swap
  · exact fun _ _ _ => trivial
  intro _ l₁ h₁
  apply Follows.bind (sendFeedback_follows hcall
    (hjudged.mono ((List.prefix_append _ _).trans h₁).subset)
    fun r hr => h₁.subset (hread r hr))
  swap
  · exact fun _ _ _ => trivial
  intro _ l₂ _
  cases room.bind (hostAnswerUpdate playerId answerIds result) with
  | none => trivial
  | some update => exact (sendToHost_follows (fun _ h => (by cases h))
      (by trivial)).mono fun _ _ _ => trivial

lemma handlePlayerMessage_follows (hcall : call = .playerFrame roomCode playerId data) :
    Follows i call (fun _ _ => True) (handlePlayerMessage roomCode playerId data) l := by
  apply Follows.tryCatch (S := fun _ _ => True)
  · cases data with
    | answer questionId answerIds =>
      apply Follows.tryCatch (S := fun _ _ => True)
      · have hroomCode : call.room = roomCode := by rw [hcall]; rfl
        subst hroomCode
        apply Follows.bind (submitAnswer_follows questionId answerIds)
        · exact fun result l₁ h₁ => answerAccepted_follows hcall answerIds (h₁.2 result rfl)
        · exact fun _ _ _ => trivial
      · exact fun _ _ _ => trivial
      · exact fun e _ _ => answerRejected_follows hcall e
    | startGame | nextQuestion | malformed => trivial
  · exact fun _ _ _ => trivial
  · exact fun _ _ _ => sendError_follows hcall _ _

end Answers

section Endpoints

lemma disconnectFrom_quiet (websocket : Socket) (roomCode : String) (playerId : Option UUID) :
    (disconnectFrom websocket roomCode playerId).All system.Answers Quiet := by
  apply All.perform_bind (by trivial)
  intro cancelled _
  apply All.bind
  · apply All.ite
    · intro _
      exact All.tryCatch ((all_perform _).mpr (by trivial)) fun _ => All.perform_bind (by trivial)
        fun _ _ => trivial
    · exact fun _ => trivial
  · exact fun _ => (all_perform _).mpr (by trivial)

lemma setPlayerConnected_quiet (playerId : UUID) (connected : Bool) :
    (setPlayerConnected playerId connected).All system.Answers Quiet :=
  All.perform_bind (by trivial) fun _ _ => (all_perform _).mpr (by trivial)

lemma attempt_quiet {x : Handler α} (h : x.All system.Answers Quiet) :
    (attempt x).All system.Answers Quiet :=
  All.tryCatch (h.map _) fun _ => trivial

lemma connect_follows {playerId : Option UUID}
    (h : ∀ l', l <+: l' → Admitted i call l' websocket roomCode playerId) :
    Follows i call (fun _ l' => l <+: l') (do
      await (.accept websocket)
      await (.joinRoom websocket roomCode playerId)) l := by
  apply quiet_bind (by trivial)
  · exact fun _ _ => Follows.perform fun _ _ => ⟨h _ (List.prefix_append _ _), by simp⟩
  · exact fun _ => List.prefix_append _ _

lemma sendFinished_follows {send : Frame → Handler Unit} {room : Room}
    {payload : WSGameFinished → WSGameFinished}
    (hsend : ∀ l' room' finished, l <+: l' → ⟨i, .getRoom call.room, .ok (some room')⟩ ∈ l' →
      finished.publicResults = room'.session.publicResults →
      Follows i call (fun _ l'' => l' <+: l'') (send (.gameFinished (payload finished))) l') :
    Follows i call (fun _ l' => l <+: l') (sendFinished send call.room room payload) l := by
  apply Follows.ite
  swap
  · exact fun _ => List.prefix_refl l
  intro _
  apply Follows.bind buildGameFinished_follows
  swap
  · exact fun _ _ h => h.1
  rintro (_ | ⟨room', finished⟩) l₁ ⟨h₁, hfinished⟩
  · exact h₁
  obtain ⟨hread, hresults⟩ := hfinished room' finished rfl
  exact (hsend l₁ room' finished h₁ hread hresults).mono fun _ _ h => h₁.trans h

lemma greetPlayer_follows {room : Room} {player : GamePlayer} {state : Option WSRoomState}
    (hroom : ⟨i, .getRoom call.room, .ok (some room)⟩ ∈ l) (hplayer : player ∈ room.players)
    (hdetails : ∀ s ∈ state, s.hostAnswerDetails = [])
    (hdue : ∀ s ∈ state, Due i call l (.roomState s)) :
    Follows i call (fun _ _ => True) (greetPlayer call.room room player state) l := by
  apply Follows.bind (S := fun _ l' => l <+: l')
  · cases state with
    | none => exact List.prefix_refl l
    | some s =>
      have hfinds : Finds i call l player.playerId := ⟨room, hroom, player, hplayer, rfl⟩
      exact sendToPlayer_follows ⟨hdetails s rfl, hfinds⟩ (hdue s rfl)
  swap
  · exact fun _ _ _ => trivial
  intro _ l₁ h₁
  apply Follows.bind (S := fun _ l' => l₁ <+: l')
  · apply sendFinished_follows
    intro l₂ room' finished h₂ hread hresults
    have hroom := (h₁.trans h₂).subset hroom
    refine sendToPlayer_follows ⟨⟨room, hroom, player, hplayer, rfl⟩, room, room', hroom, hread, ?_,
      ?_⟩ (by trivial)
    · unfold playerPayload
      split <;> exact hresults
    · unfold playerPayload
      split
      · next hpublic => exact .inl hpublic
      · exact .inr fun e he => of_decide_eq_true (List.mem_filter.mp he).2
  · exact fun _ l₂ _ => (broadcastToRoom_follows _ (by trivial) (by trivial)).mono
      fun _ _ _ => trivial
  · exact fun _ _ _ => trivial

lemma leavePlayer_follows (websocket : Socket) (player : GamePlayer) :
    Follows i call (fun _ _ => True) (leavePlayer websocket call.room player) l := by
  apply Follows.bind (quiet_follows (disconnectFrom_quiet _ _ _))
  swap
  · exact fun _ _ _ => trivial
  intro _ l₁ _
  apply Follows.bind (quiet_follows (attempt_quiet (setPlayerConnected_quiet _ _)))
  swap
  · exact fun _ _ _ => trivial
  intro _ l₂ _
  exact (broadcastToRoom_follows _ (by trivial) (by trivial)).mono fun _ _ _ => trivial

lemma servePlayer_follows {room : Room} {player : GamePlayer}
    (hroom : ⟨i, .getRoom call.room, .ok (some room)⟩ ∈ l) (hplayer : player ∈ room.players)
    (hadmitted : ∀ l', l <+: l' → Admitted i call l' websocket call.room (some player.playerId)) :
    Follows i call (fun _ _ => True) (servePlayer websocket call.room room player) l := by
  apply Follows.bind (connect_follows hadmitted)
  swap
  · exact fun _ _ _ => trivial
  intro _ l₁ h₁
  apply Follows.bind (quiet_follows (setPlayerConnected_quiet _ _))
  swap
  · exact fun _ _ _ => trivial
  intro _ l₂ h₂
  apply Follows.bind (Follows.reify ((buildRoomState_follows false).and_returns
    (LiveFeed.buildRoomState_returns _)))
  swap
  · exact fun _ _ _ => trivial
  rintro v l₃ ⟨_, ⟨⟩, ⟨h₃, hdue⟩, hdetails⟩
  cases v with
  | error e =>
    exact quiet_ends (All.bind (disconnectFrom_quiet _ _ _) fun _ =>
      (all_perform _).mpr (by trivial))
  | ok state =>
    apply Follows.bind (greetPlayer_follows ((h₁.trans (h₂.trans h₃)).subset hroom) hplayer
      (hdetails state rfl)
      fun s hs => hdue s (congrArg Except.ok hs))
    swap
    · exact fun _ _ _ => trivial
    intro _ l₄ _
    apply Follows.bind (quiet_follows (attempt_quiet ((all_perform _).mpr (by trivial))))
    · exact fun _ _ _ => leavePlayer_follows _ _
    · exact fun _ _ _ => trivial

lemma serveHost_follows {room : Room}
    (hadmitted : ∀ l', l <+: l' → Admitted i call l' websocket call.room none) :
    Follows i call (fun _ _ => True) (serveHost websocket call.room room) l := by
  apply Follows.bind (connect_follows hadmitted)
  swap
  · exact fun _ _ _ => trivial
  intro _ l₁ h₁
  apply Follows.bind (Follows.reify (buildRoomState_follows true))
  swap
  · exact fun _ _ _ => trivial
  rintro v l₂ ⟨_, ⟨⟩, -, hdue⟩
  cases v with
  | error e =>
    exact quiet_ends (All.bind (disconnectFrom_quiet _ _ _) fun _ =>
      (all_perform _).mpr (by trivial))
  | ok state =>
    apply Follows.bind (S := fun _ _ => True)
    · apply Follows.bind (S := fun _ _ => True)
      · cases state with
        | none => trivial
        | some s => exact (sendToHost_follows (fun _ h => (by cases h))
            (hdue s rfl)).mono fun _ _ _ => trivial
      · intro _ l₃ _
        refine (sendFinished_follows fun l₄ _ _ _ _ _ => ?_).mono fun _ _ _ => trivial
        exact sendToHost_follows (fun _ h => (by cases h)) (by trivial)
      · exact fun _ _ _ => trivial
    · intro _ l₃ _
      exact quiet_ends (All.bind (attempt_quiet ((all_perform _).mpr (by trivial))) fun _ =>
        disconnectFrom_quiet _ _ _)
    · exact fun _ _ _ => trivial

lemma websocketPlayerEndpoint_follows (id : ℕ) (origin wsToken : Option String)
    (hcall : call = .playerEndpoint id roomCode origin wsToken) :
    Follows i call (fun _ _ => True) (websocketPlayerEndpoint id roomCode origin wsToken) [] := by
  have hroomCode : call.room = roomCode := by rw [hcall]; rfl
  subst hroomCode
  have hclose (code : ℕ) (reason : String) (l : List Ev) : Follows i call (fun _ _ => True)
      (await (.close ⟨.player, id⟩ code reason)) l := quiet_ends ((all_perform _).mpr (by trivial))
  apply Follows.ite
  · exact fun _ => hclose _ _ _
  intro _
  cases htoken : wsToken.filter (· ≠ "") with
  | none => exact hclose _ _ _
  | some token =>
    obtain ⟨rfl, -⟩ := Option.filter_eq_some_iff.mp htoken
    apply quiet_bind (by trivial)
    swap
    · exact fun _ => trivial
    rintro (_ | playerId) -
    · exact hclose _ _ _
    apply quiet_bind (by trivial)
    swap
    · exact fun _ => trivial
    rintro (_ | room) -
    · exact hclose _ _ _
    dsimp only
    split
    · next player hfind =>
      have hplayer : player.playerId = playerId := by simpa using List.find?_some hfind
      apply servePlayer_follows (by simp) (List.mem_of_find?_eq_some hfind)
      intro l' hl'
      exact ⟨id, origin, token, room, hcall, rfl, hl'.subset (by simp [hplayer]),
        hl'.subset (by simp), player, List.mem_of_find?_eq_some hfind, rfl⟩
    · exact hclose _ _ _

lemma websocketHostEndpoint_follows (id : ℕ) (origin : Option String) (hostUser : UUID)
    (hcall : call = .hostEndpoint id roomCode origin hostUser) :
    Follows i call (fun _ _ => True) (websocketHostEndpoint id roomCode origin hostUser) [] := by
  have hroomCode : call.room = roomCode := by rw [hcall]; rfl
  subst hroomCode
  have hclose (code : ℕ) (reason : String) (l : List Ev) : Follows i call (fun _ _ => True)
      (await (.close ⟨.host, id⟩ code reason)) l := quiet_ends ((all_perform _).mpr (by trivial))
  apply Follows.ite
  · exact fun _ => hclose _ _ _
  intro _
  apply quiet_bind (by trivial)
  swap
  · exact fun _ => trivial
  rintro (_ | room) -
  · exact hclose _ _ _
  apply Follows.ite
  · exact fun _ => hclose _ _ _
  intro hhost
  apply serveHost_follows
  intro l' hl'
  exact ⟨id, origin, hostUser, room, hcall, rfl, hl'.subset (by simp), not_not.mp hhost⟩

end Endpoints

lemma code_follows (i : ℕ) (call : Call) : Follows i call (fun _ _ => True) (code call) [] := by
  cases call with
  | joinRoom roomCode nickname user =>
    have hsilent : Sends (fun _ => False) (joinRoomRoute roomCode nickname user) := by
      apply All.bind _ fun _ => All.perform_bind trivial fun _ _ => (all_perform _).mpr trivial
      apply All.perform_bind trivial
      rintro (_ | room) -
      · trivial
      · exact All.require_bind fun _ => All.require_bind fun _ => All.require_bind fun _ =>
          All.require_bind fun _ =>
          All.perform_bind trivial fun _ _ => All.perform_bind trivial fun _ _ =>
            All.perform_bind trivial fun _ _ => trivial
    exact quiet_ends (quiet_of hsilent ((code_keeps (.joinRoom roomCode nickname user)).off id))
  | hostFrames roomCode hostId frames => exact hostFrames_follows hostId frames
  | playerFrame roomCode playerId data => exact handlePlayerMessage_follows rfl
  | questionTimeout timer => exact questionTimeout_follows rfl
  | playerEndpoint id roomCode origin wsToken =>
    exact websocketPlayerEndpoint_follows id origin wsToken rfl
  | hostEndpoint id roomCode origin hostUser =>
    exact websocketHostEndpoint_follows id origin hostUser rfl
  | subscriber roomCode => exact quiet_ends ((all_perform _).mpr (by trivial))
  | delivery roomCode => exact deliverNext_follows

end

end Recipients

end Askit.Game
