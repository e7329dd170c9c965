import Askit.Game.Openings

/-! What the host's handlers and the endpoints read before they send a question. -/

namespace Askit.Game

open Interleaving Machine Coro Tables
open HostTurns (orderRead)

section

variable [Runtime]

namespace Rebuilt

def roomAnswer (roomCode : String) : Ev → Option (Option Room)
  | ⟨_, .getRoom room, .ok r⟩ =>
    if Runtime.upper room = Runtime.upper roomCode then some r else none
  | _ => none

/-- Where the parts of a message have been read, but for the start of the question. -/
structure Sources (roomCode : String) (l : List Ev) (question : QuizQuestion) (index total : ℕ)
    (randomize : Bool) : Prop where
  numbered : index ≠ 0
  asked : ∃ ids id, (∃ ev ∈ l, orderRead roomCode ev = some ids) ∧ ids[index - 1]? = some id ∧
    ∃ ev ∈ l, questionRead ev = some (id, some question)
  counted : ∃ ev ∈ l, ∃ room, roomAnswer roomCode ev = some (some room) ∧
    room.quiz.questions.length = total
  drawn : ∃ ev ∈ l, ∃ r, roomAnswer roomCode ev = some r ∧
    (r.map fun r => r.session.randomizeAnswers).getD false = randomize

def questionMessage (question : QuizQuestion) (index total : ℕ) (randomize : Bool)
    (startedAt : Time) :
    WSQuestion :=
  ⟨index, total, question.questionId, question.text,
    (if randomize then Runtime.seededShuffle question.questionId question.answers
      else question.answers).map fun a => ⟨a.answerId, a.text⟩,
    question.timeLimit, startedAt, question.allowMultipleAnswers⟩

def Made (i : ℕ) (roomCode : String) (l : List Ev) (m : WSQuestion) : Prop :=
  ∃ question total randomize l₀ start, Sources roomCode l question m.questionIndex total randomize ∧
    l₀ ++ [⟨i, .getQuestionStart roomCode, .ok start⟩] <+: l ∧ building l₀ = some m.questionIndex ∧
    ∀ t ∈ start, m = questionMessage question m.questionIndex total randomize t

variable {i : ℕ} {roomCode : String} {call : Call} {l l' l'' : List Ev} {α β γ : Type}

lemma Sources.mono {question : QuizQuestion} {index total : ℕ} {randomize : Bool}
    (h : Sources roomCode l question index total randomize) (hl : l <+: l') :
    Sources roomCode l' question index total randomize := by
  obtain ⟨ids, id, ⟨ev, hev, hids⟩, hid, ev', hev', hq⟩ := h.asked
  obtain ⟨c, hc, hroom⟩ := h.counted
  obtain ⟨d, hd, hflag⟩ := h.drawn
  exact ⟨h.numbered, ⟨ids, id, ⟨ev, hl.subset hev, hids⟩, hid, ev', hl.subset hev', hq⟩,
    ⟨c, hl.subset hc, hroom⟩, d, hl.subset hd, hflag⟩

lemma Made.mono {m : WSQuestion} (h : Made i roomCode l m) (hl : l <+: l') :
    Made i roomCode l' m := by
  obtain ⟨question, total, randomize, l₀, start, hs, hp, hb, hm⟩ := h
  exact ⟨question, total, randomize, l₀, start, hs.mono hl, hp.trans hl, hb, hm⟩

def Fine (call : Call) (l : List Ev) : Ev → Prop
  | ⟨i, .sendJson _ (.roomState state), _⟩ => call.Builds →
      ∃ roomCode, state.roomCode = Runtime.upper roomCode ∧ ∀ m ∈ state.currentQuestion,
        Made i roomCode l m
  | ⟨i, .publish roomCode ⟨.question message, _⟩, _⟩ => call.Builds ∧ Made i roomCode l message
  | _ => True

abbrev Follows (i : ℕ) (call : Call) (Q : Except Exn α → List Ev → Prop) (x : Handler α)
    (l : List Ev) : Prop :=
  x.Follows system.Answers i (Fine call) Q l

/-- A frame that carries no question. -/
def Plain : Frame → Prop
  | .roomState _ | .question _ => False
  | _ => True

lemma fine_plain {o : Op β} (ho : o.Sends Plain) (r : Except Exn β) : Fine call l ⟨i, o, r⟩ := by
  cases o with
  | sendJson websocket message =>
    cases message with
    | roomState => exact ho.elim
    | _ => trivial
  | publish room envelope =>
    obtain ⟨message, exclude⟩ := envelope
    cases message with
    | question => exact ho.elim
    | _ => trivial
  | _ => trivial

lemma plain_follows {x : Handler α} (hx : Sends Plain x) :
    Follows i call (fun _ l' => l <+: l') x l :=
  .of_all hx (fun _ r _ ho _ hl => ⟨fine_plain ho r, hl.trans (List.prefix_append _ _)⟩)
    (List.prefix_refl l)

lemma plain_ends {x : Handler α} (hx : Sends Plain x) : Follows i call (fun _ _ => True) x l :=
  (plain_follows hx).mono fun _ _ _ => trivial

lemma plain_bind {o : Op γ} {f : γ → Handler β} {Q : Except Exn β → List Ev → Prop}
    (ho : o.Sends Plain)
    (hf : ∀ a, system.Answers o a → Follows i call Q (f a) (l ++ [⟨i, o, .ok a⟩]))
    (he : ∀ e, Q (.error e) (l ++ [⟨i, o, .error e⟩])) : Follows i call Q (await o >>= f) l :=
  .perform_bind (fun r _ => fine_plain ho r) hf he

omit [Runtime] in
lemma building_append (l : List Ev) {ev : Ev} (hc : committedIndex ev = none)
    (hr : indexRead ev = none) :
    building (l ++ [ev]) = building l := by
  simp [building, List.filterMap_append, hc, hr]

/-- The process has last moved the session to the `k`-th question. -/
def Moved (k : ℕ) (l : List Ev) : Prop := (l.filterMap committedIndex).getLast? = some k

omit [Runtime] in
lemma Moved.building {k : ℕ} (h : Moved k l) : building l = some k := by
  have hl : (l.filterMap committedIndex).getLast? = some k := h
  simp [Rebuilt.building, hl]

omit [Runtime] in
lemma moved_commit (l : List Ev) {ev : Ev} {k : ℕ} (hc : committedIndex ev = some k) :
    Moved k (l ++ [ev]) := by
  simp [Moved, List.filterMap_append, hc]

omit [Runtime] in
lemma Moved.append {k : ℕ} (h : Moved k l) {ev : Ev} (hc : committedIndex ev = none) :
    Moved k (l ++ [ev]) := by
  have hl : (l.filterMap committedIndex).getLast? = some k := h
  rw [Moved, List.filterMap_append, List.getLast?_append]
  simp [hc, hl]

def Uncommitted (l : List Ev) : Prop := l.filterMap committedIndex = []

omit [Runtime] in
lemma Uncommitted.append (h : Uncommitted l) {ev : Ev} (hc : committedIndex ev = none) :
    Uncommitted (l ++ [ev]) := by
  have hl : l.filterMap committedIndex = [] := h
  rw [Uncommitted, List.filterMap_append, hl]
  simp [hc]

omit [Runtime] in
lemma Uncommitted.building_read (h : Uncommitted l) {ev : Ev} {k : ℕ}
    (hc : committedIndex ev = none) (hr : indexRead ev = some k) :
    building (l ++ [ev]) = some k := by
  have hl : (l ++ [ev]).filterMap committedIndex = [] := h.append hc
  simp [building, hl, List.filterMap_append, hr]

structure Current (roomCode : String) (l : List Ev) (room : Room) (question : QuizQuestion) :
    Prop where
  numbered : room.session.currentQuestionIndex ≠ 0
  asked : ∃ ids id, (∃ ev ∈ l, orderRead roomCode ev = some ids) ∧
    ids[room.session.currentQuestionIndex - 1]? = some id ∧
    ∃ ev ∈ l, questionRead ev = some (id, some question)
  read : ∃ ev ∈ l, roomAnswer roomCode ev = some (some room)

lemma roomAnswer_ok (r : Option Room) :
    roomAnswer roomCode ⟨i, .getRoom roomCode, .ok r⟩ = some r := by
  simp [roomAnswer]

lemma orderRead_ok (ids : Option (List UUID)) :
    orderRead roomCode ⟨i, .getQuestions roomCode, .ok ids⟩ = ids := by
  simp [orderRead]

lemma getCurrentQuestion_follows (hl : Uncommitted l) :
    Follows i call (fun r l' => l <+: l' ∧ Uncommitted l' ∧ ∀ refreshed question,
        r = .ok (refreshed, some question) → ∃ room, refreshed = some room ∧
          building l' = some room.session.currentQuestionIndex ∧ Current roomCode l' room question)
      (getCurrentQuestion roomCode) l := by
  apply plain_bind (by trivial)
  swap
  · exact fun e => ⟨List.prefix_append _ _, hl.append rfl, fun _ _ h => (by cases h)⟩
  rintro (_ | room) -
  · exact ⟨List.prefix_append _ _, hl.append rfl, fun _ _ h => (by cases h)⟩
  have hroom : roomAnswer roomCode ⟨i, .getRoom roomCode, .ok (some room)⟩ = some (some room) :=
    roomAnswer_ok _
  have hbuild : building (l ++ [⟨i, .getRoom roomCode, .ok (some room)⟩]) =
      some room.session.currentQuestionIndex := hl.building_read rfl rfl
  replace hl : Uncommitted (l ++ [⟨i, .getRoom roomCode, .ok (some room)⟩]) := hl.append rfl
  apply Follows.ite
  · exact fun _ => ⟨List.prefix_append _ _, hl, fun _ _ h => (by cases h)⟩
  intro hindex
  apply plain_bind (by trivial)
  swap
  · exact fun e => ⟨by simp, hl.append rfl, fun _ _ h => (by cases h)⟩
  rintro (_ | ids) -
  · exact ⟨by simp, hl.append rfl, fun _ _ h => (by cases h)⟩
  have hids : orderRead roomCode ⟨i, .getQuestions roomCode, .ok (some ids)⟩ = some ids :=
    orderRead_ok _
  dsimp only
  cases hid : ids[room.session.currentQuestionIndex - 1]? with
  | none => exact ⟨by simp, hl.append rfl, fun _ _ h => (by cases h)⟩
  | some id =>
    apply plain_bind (by trivial)
    swap
    · exact fun e => ⟨by simp, (hl.append rfl).append rfl, fun _ _ h => (by cases h)⟩
    intro question _
    refine ⟨by simp, (hl.append rfl).append rfl, ?_⟩
    rintro refreshed q ⟨⟩
    refine ⟨room, rfl, ?_, hindex, ⟨ids, id, ⟨_, by simp, hids⟩, hid,
      ⟨i, .getQuestion id, .ok (some q)⟩, by simp, rfl⟩, _, by simp, hroom⟩
    rw [building_append _ rfl rfl, building_append _ rfl rfl, hbuild]

lemma buildQuestionMessage_follows {question : QuizQuestion} {index total : ℕ} {randomize : Bool}
    (hs : Sources roomCode l question index total randomize) (hb : building l = some index) :
    Follows i call (fun r l' => l <+: l' ∧ building l' = some index ∧
        (l'.filterMap committedIndex = l.filterMap committedIndex) ∧
        ∀ m, r = .ok m → Made i roomCode l' m)
      (buildQuestionMessage question index total roomCode randomize) l := by
  apply plain_bind (by trivial)
  swap
  · exact fun e => ⟨by simp, (building_append _ rfl rfl).trans hb,
      by simp [List.filterMap_append, committedIndex], fun _ h => (by cases h)⟩
  intro start _
  have hmade (t : Time) (ht : ∀ t' ∈ start, t' = t) :
      Made i roomCode (l ++ [⟨i, .getQuestionStart roomCode, .ok start⟩])
        (questionMessage question index total randomize t) :=
    ⟨question, total, randomize, l, start, hs.mono (by simp), List.prefix_refl _, hb,
      fun t' h => (by rw [ht t' h]; rfl)⟩
  cases start with
  | some t =>
    refine ⟨by simp, (building_append _ rfl rfl).trans hb, by
      simp [List.filterMap_append, committedIndex], ?_⟩
    rintro m ⟨⟩
    exact hmade t (by simp)
  | none =>
    apply plain_bind (by trivial)
    · intro t _
      refine ⟨by simp, ?_, by simp [List.filterMap_append, committedIndex], ?_⟩
      · rw [building_append _ rfl rfl, building_append _ rfl rfl, hb]
      · rintro m ⟨⟩
        exact (hmade t (by simp)).mono (List.prefix_append _ _)
    · intro e
      refine ⟨by simp, ?_, by simp [List.filterMap_append, committedIndex], fun _ h => (by cases h)⟩
      rw [building_append _ rfl rfl, building_append _ rfl rfl, hb]

lemma getLeaderboard_returns (roomCode : String) :
    (getLeaderboard roomCode).Returns system.Answers fun q =>
    ∀ room ∈ q.1, room.session.roomCode = Runtime.upper roomCode := by
  apply Returns.perform_bind
  rintro (_ | room) hroom
  · exact (returns_pure _).mpr (by simp)
  apply Returns.perform_bind
  intro prevRanking _
  apply Returns.perform_bind
  rintro _ - r ⟨⟩
  exact roomCode_of_answers hroom

lemma buildQuestionEnded_follows (sessionId : UUID) (question : QuizQuestion) :
    Follows i call (fun r l' => l <+: l' ∧ ∀ q, r = .ok q → ∀ room ∈ q.1,
        room.session.roomCode = Runtime.upper roomCode)
      (buildQuestionEnded roomCode sessionId question) l := by
  apply Follows.bind (plain_follows (Messages.computeAnswerDistribution _ _))
  · intro distribution l₁ h₁
    apply Follows.bind ((plain_follows Messages.getLeaderboard).and_returns
      (getLeaderboard_returns roomCode))
    · rintro ⟨refreshed, leaderboard⟩ l₂ ⟨h₂, hr⟩
      refine ⟨h₁.trans h₂, ?_⟩
      rintro q ⟨⟩
      exact hr _ rfl
    · exact fun e l₂ h₂ => ⟨h₁.trans h₂.1, fun _ h => (by cases h)⟩
  · exact fun e l₁ h₁ => ⟨h₁, fun _ h => (by cases h)⟩

def Shown (i : ℕ) (roomCode : String) (l : List Ev) (state : WSRoomState) : Prop :=
  state.roomCode = Runtime.upper roomCode ∧ ∀ m ∈ state.currentQuestion, Made i roomCode l m

lemma Shown.mono {state : WSRoomState} (h : Shown i roomCode l state) (hl : l <+: l') :
    Shown i roomCode l' state :=
  ⟨h.1, fun m hm => (h.2 m hm).mono hl⟩

lemma buildRoomState_follows (forHost : Bool) (hl : Uncommitted l) :
    Follows i call (fun r l' => l <+: l' ∧ ∀ state, r = .ok (some state) →
      Shown i roomCode l' state)
      (buildRoomState roomCode forHost) l := by
  apply plain_bind (by trivial)
  swap
  · exact fun e => ⟨List.prefix_append _ _, fun _ h => (by cases h)⟩
  rintro (_ | room) hroom
  · exact ⟨List.prefix_append _ _, fun _ h => (by cases h)⟩
  have hcode : room.session.roomCode = Runtime.upper roomCode := roomCode_of_answers hroom
  have hread : ∀ l', l ++ [⟨i, .getRoom roomCode, .ok (some room)⟩] <+: l' →
      ∃ ev ∈ l', ∃ r, roomAnswer roomCode ev = some (some r) ∧
        r.quiz.questions.length = room.quiz.questions.length :=
    fun l' h => ⟨_, h.subset (by simp), room, roomAnswer_ok (i := i) _, rfl⟩
  replace hl : Uncommitted (l ++ [⟨i, .getRoom roomCode, .ok (some room)⟩]) := hl.append rfl
  dsimp only
  apply Follows.ite
  swap
  · intro _
    refine ⟨List.prefix_append _ _, ?_⟩
    rintro state ⟨⟩
    exact ⟨hcode, fun m h => (by cases h)⟩
  intro _
  apply Follows.bind ((getCurrentQuestion_follows hl).and_returns
    (getCurrentQuestion_returns roomCode))
  swap
  · exact fun e l₁ h₁ => ⟨(List.prefix_append _ _).trans h₁.1.1, fun _ h => (by cases h)⟩
  rintro ⟨refreshed, question⟩ l₁ ⟨⟨h₁, hl₁, hcurrent⟩, hreturns⟩
  cases question with
  | none =>
    refine ⟨(List.prefix_append _ _).trans h₁, ?_⟩
    rintro state ⟨⟩
    refine ⟨?_, fun m h => (by cases h)⟩
    cases refreshed with
    | none => exact hcode
    | some r => exact hreturns _ rfl r rfl
  | some question =>
    obtain ⟨room', rfl, hb, hc⟩ := hcurrent refreshed question rfl
    have hcode' : room'.session.roomCode = Runtime.upper roomCode := hreturns _ rfl room' rfl
    obtain ⟨ev, hev, hans⟩ := hc.read
    have hs : Sources roomCode l₁ question room'.session.currentQuestionIndex
      room.quiz.questions.length
        room'.session.randomizeAnswers :=
          ⟨hc.numbered, hc.asked, hread l₁ h₁, ev, hev, some room', hans, rfl⟩
    apply Follows.bind (buildQuestionMessage_follows hs hb)
    swap
    · exact fun e l₂ h₂ => ⟨(List.prefix_append _ _).trans (h₁.trans h₂.1), fun _ h => (by cases h)⟩
    rintro message l₂ ⟨h₂, -, -, hmade⟩
    replace hmade := hmade message rfl
    apply Follows.bind (plain_follows (Messages.answerDetails _ _ _))
    swap
    · exact fun e l₃ h₃ => ⟨(List.prefix_append _ _).trans (h₁.trans (h₂.trans h₃)),
        fun _ h => (by cases h)⟩
    intro details l₃ h₃
    have hl₃ : l <+: l₃ := (List.prefix_append _ _).trans (h₁.trans (h₂.trans h₃))
    have hshown {state : WSRoomState} {l' : List Ev} (hl' : l₃ <+: l')
        (hcode : state.roomCode = Runtime.upper roomCode)
          (hm : state.currentQuestion = some message) :
        Shown i roomCode l' state :=
      ⟨hcode, fun m h => (Option.some.inj (hm.symm.trans h)) ▸ hmade.mono (h₃.trans hl')⟩
    apply Follows.ite
    · intro _
      apply Follows.bind (buildQuestionEnded_follows _ _)
      swap
      · exact fun e l₄ h₄ => ⟨hl₃.trans h₄.1, fun _ h => (by cases h)⟩
      rintro ⟨refreshed, ended⟩ l₄ ⟨h₄, hr⟩
      refine ⟨hl₃.trans h₄, ?_⟩
      rintro state ⟨⟩
      refine hshown h₄ ?_ rfl
      cases refreshed with
      | none => exact hcode'
      | some r => exact hr _ rfl r rfl
    · intro _
      refine ⟨hl₃, ?_⟩
      rintro state ⟨⟩
      exact hshown (List.prefix_refl _) hcode' rfl

def Counted (roomCode : String) (total : ℕ) (l : List Ev) : Prop :=
  ∃ ev ∈ l, ∃ room, roomAnswer roomCode ev = some (some room) ∧ room.quiz.questions.length = total

lemma Counted.mono {total : ℕ} (h : Counted roomCode total l) (hl : l <+: l') :
    Counted roomCode total l' := by
  obtain ⟨ev, hev, room⟩ := h
  exact ⟨ev, hl.subset hev, room⟩

lemma startGame_follows (hostId : UUID) :
    Follows i call (fun r l' => l <+: l' ∧ ∀ questions, r = .ok questions →
        Counted roomCode questions.length l')
      (startGame roomCode hostId) l := by
  apply plain_bind (by trivial)
  swap
  · exact fun e => ⟨List.prefix_append _ _, fun _ h => (by cases h)⟩
  rintro (_ | room) -
  · exact ⟨List.prefix_append _ _, fun _ h => (by cases h)⟩
  have hread : ∀ l' n, l ++ [⟨i, .getRoom roomCode, .ok (some room)⟩] <+: l' →
      room.quiz.questions.length = n → ∃ ev ∈ l', ∃ r, roomAnswer roomCode ev = some (some r) ∧
        r.quiz.questions.length = n :=
    fun l' n h hn => ⟨_, h.subset (by simp), room, roomAnswer_ok (i := i) _, hn⟩
  apply Follows.require_bind
  swap
  · exact fun _ => ⟨List.prefix_append _ _, fun _ h => (by cases h)⟩
  intro _
  apply Follows.require_bind
  swap
  · exact fun _ => ⟨List.prefix_append _ _, fun _ h => (by cases h)⟩
  intro _
  have horder : (questionOrder room).Returns system.Answers fun questions =>
      room.quiz.questions.length = questions.length := by
    unfold questionOrder
    split
    · refine ⟨fun questions hq => ?_, fun _ => trivial⟩
      obtain ⟨s, hs⟩ := hq
      cases hs
      exact (Runtime.shuffle_perm _ _).length_eq.symm
    · exact (sortByPosition_perm _).length_eq.symm
  have hplain : Sends Plain (questionOrder room) :=
    All.ite (fun _ => (all_perform _).mpr trivial) fun _ => trivial
  apply Follows.bind ((plain_follows hplain).and_returns horder)
  swap
  · exact fun e l₁ h₁ => ⟨(List.prefix_append _ _).trans h₁.1, fun _ h => (by cases h)⟩
  rintro questions l₁ ⟨h₁, hn⟩
  replace hn := hn questions rfl
  have hl₁ : l <+: l₁ := (List.prefix_append _ _).trans h₁
  apply plain_bind (by trivial)
  swap
  · exact fun e => ⟨hl₁.trans (List.prefix_append _ _), fun _ h => (by cases h)⟩
  intro startedAt _
  apply plain_bind (by trivial)
  swap
  · exact fun e => ⟨hl₁.trans (by simp), fun _ h => (by cases h)⟩
  intro _ _
  apply plain_bind (by trivial)
  swap
  · exact fun e => ⟨hl₁.trans (by simp), fun _ h => (by cases h)⟩
  intro _ _
  refine ⟨hl₁.trans (by simp), ?_⟩
  rintro q ⟨⟩
  exact hread _ _ (h₁.trans (by simp)) hn

lemma advanceToQuestion_follows (questionIndex : ℕ) :
    Follows i call (fun r l' => l <+: l' ∧ ∀ question, r = .ok (some question) →
        Moved questionIndex l' ∧ ∃ ids id, (∃ ev ∈ l', orderRead roomCode ev = some ids) ∧
          ids[questionIndex - 1]? = some id ∧ ∃ ev ∈ l', questionRead ev = some (id, some question))
      (advanceToQuestion roomCode questionIndex) l := by
  apply plain_bind (by trivial)
  swap
  · exact fun e => ⟨by simp, fun _ h => (by cases h)⟩
  rintro (_ | room) -
  · exact ⟨by simp, fun _ h => (by cases h)⟩
  apply plain_bind (by trivial)
  swap
  · exact fun e => ⟨by simp, fun _ h => (by cases h)⟩
  rintro (_ | ids) -
  · exact ⟨by simp, fun _ h => (by cases h)⟩
  have hids : orderRead roomCode ⟨i, .getQuestions roomCode, .ok (some ids)⟩ = some ids :=
    orderRead_ok _
  apply plain_bind (by trivial)
  swap
  · exact fun e => ⟨by simp, fun _ h => (by cases h)⟩
  intro _ _
  apply Follows.ite
  · intro _
    apply plain_bind (by trivial)
    swap
    · exact fun e => ⟨by simp, fun _ h => (by cases h)⟩
    intro endedAt _
    apply plain_bind (by trivial)
    swap
    · exact fun e => ⟨by simp, fun _ h => (by cases h)⟩
    exact fun _ _ => ⟨by simp, fun _ h => (by cases h)⟩
  intro _
  apply plain_bind (by trivial)
  swap
  · exact fun e => ⟨by simp, fun _ h => (by cases h)⟩
  intro _ _
  apply plain_bind (by trivial)
  swap
  · exact fun e => ⟨by simp, fun _ h => (by cases h)⟩
  intro now _
  apply plain_bind (by trivial)
  swap
  · exact fun e => ⟨by simp, fun _ h => (by cases h)⟩
  intro _ _
  cases hid : ids[questionIndex - 1]? with
  | none => exact ⟨by simp, fun _ h => (by cases h)⟩
  | some id =>
    apply Follows.perform
    refine fun r _ => ⟨fine_plain (by trivial) r, by simp, ?_⟩
    rintro question rfl
    refine ⟨?_, ids, id, ⟨_, by simp, hids⟩, hid,
      ⟨i, .getQuestion id, .ok (some question)⟩, by simp, rfl⟩
    exact (((moved_commit _ rfl).append rfl).append rfl).append rfl

/-- A broadcast that Redis refuses goes to the sockets of this process, as a question. -/
def Posts : {β : Type} → Op β → Prop
  | _, .sendJson _ (.roomState _) | _, .publish .. => False
  | _, _ => True

lemma sendToLocalRoom_posts (message : WSQuestion) (excludePlayerId : Option UUID) :
    (sendToLocalRoom roomCode (.question message) excludePlayerId).All system.Answers Posts := by
  apply All.perform_bind (by trivial)
  intro connections _
  apply All.forM
  intro websocket _
  apply All.perform_bind (by trivial)
  intro playerId _
  apply All.ite
  · exact fun _ => trivial
  · exact fun _ => All.tryCatch ((all_perform _).mpr (by trivial)) fun _ => trivial

lemma posts_follows {x : Handler α} (hx : x.All system.Answers Posts) :
    Follows i call (fun _ _ => True) x l := by
  apply Follows.of_all hx (A := fun _ => True) _ trivial
  intro β o r l' ho _ _
  refine ⟨?_, trivial⟩
  cases o with
  | sendJson websocket message =>
    cases message with
    | roomState => exact ho.elim
    | _ => trivial
  | publish => exact ho.elim
  | _ => trivial

lemma sendQuestion_follows (hb : call.Builds) {total questionIndex : ℕ} (hindex : questionIndex ≠ 0)
    (hl : Counted roomCode total l) :
    Follows i call (fun _ _ => True) (sendQuestion roomCode questionIndex total) l := by
  apply Follows.bind (advanceToQuestion_follows questionIndex)
  swap
  · exact fun _ _ _ => trivial
  rintro question l₁ ⟨h₁, hquestion⟩
  cases question with
  | none => exact plain_ends (Messages.endGame fun _ => trivial)
  | some question =>
    obtain ⟨hmoved, ids, id, ⟨ev, hev, hids⟩, hid, ev', hev', hq⟩ := hquestion question rfl
    apply plain_bind (by trivial)
    swap
    · exact fun _ => trivial
    intro room _
    have hs : Sources roomCode (l₁ ++ [⟨i, .getRoom roomCode, .ok room⟩]) question
      questionIndex total
        ((room.map fun r => r.session.randomizeAnswers).getD false) :=
      ⟨hindex, ⟨ids, id, ⟨ev, by simp [hev], hids⟩, hid, ev', by simp [hev'], hq⟩,
        (hl.mono h₁).mono (List.prefix_append _ _), _, by
        simp, room, roomAnswer_ok (i := i) room, rfl⟩
    apply Follows.bind (buildQuestionMessage_follows hs (hmoved.append rfl).building)
    swap
    · exact fun _ _ _ => trivial
    rintro message l₂ ⟨-, -, -, hmade⟩
    apply Follows.bind (S := fun _ _ => True)
    · apply Follows.tryCatch (S := fun _ _ => True)
      · exact Follows.perform fun r _ => ⟨⟨hb, hmade message rfl⟩, trivial⟩
      · exact fun _ _ _ => trivial
      · exact fun _ _ _ => posts_follows (sendToLocalRoom_posts message none)
    · exact fun _ l₃ _ => plain_ends ((all_perform _).mpr (by trivial))
    · exact fun _ _ _ => trivial

lemma handleStartGame_follows (hb : call.Builds) (hostId : UUID) :
    Follows i call (fun _ _ => True) (handleStartGame roomCode hostId) l := by
  apply Follows.bind (startGame_follows hostId)
  swap
  · exact fun _ _ _ => trivial
  rintro questions l₁ ⟨-, h₁⟩
  apply Follows.bind (plain_follows _)
  · exact fun _ l₂ h₂ => sendQuestion_follows hb one_ne_zero ((h₁ questions rfl).mono h₂)
  · exact fun _ _ _ => trivial
  · exact All.forM fun _ _ => All.bind (Messages.broadcastToRoom (by trivial) none) fun _ =>
      (all_perform _).mpr (by trivial)

lemma handleNextQuestion_follows (hb : call.Builds) :
    Follows i call (fun _ _ => True) (handleNextQuestion roomCode) l := by
  apply plain_bind (by trivial)
  swap
  · exact fun _ => trivial
  rintro (_ | room) -
  · exact trivial
  have hcounted : Counted roomCode room.quiz.questions.length
      (l ++ [⟨i, .getRoom roomCode, .ok (some room)⟩]) :=
    ⟨_, by simp, room, roomAnswer_ok (i := i) _, rfl⟩
  apply Follows.ite
  · intro _
    apply plain_ends
    apply All.bind Messages.getCurrentQuestion
    rintro ⟨refreshed, question⟩
    cases question with
    | none => trivial
    | some question =>
      apply All.bind ((all_perform _).mpr (by trivial))
      exact fun _ => All.bind (Messages.buildQuestionEnded _ _) fun ⟨_, _⟩ =>
        Messages.broadcastToRoom (by trivial) none
  · intro _
    apply Follows.ite
    · exact fun _ => trivial
    · intro _
      apply Follows.ite
      · exact fun _ => plain_ends (Messages.endGame fun _ => trivial)
      · exact fun _ => sendQuestion_follows hb (Nat.succ_ne_zero _) hcounted

lemma hostFrames_follows (hb : call.Builds) (hostId : UUID) (frames : List ClientMessage) :
    Follows i call (fun _ _ => True) (hostFrames roomCode hostId frames) l := by
  induction frames generalizing l with
  | nil => trivial
  | cons data frames ih =>
    apply Follows.bind (S := fun _ _ => True)
    · apply plain_bind (by trivial)
      · intro _ _
        apply Follows.tryCatch (S := fun _ _ => True)
        · cases data with
          | startGame => exact handleStartGame_follows hb hostId
          | nextQuestion => exact handleNextQuestion_follows hb
          | answer _ _ | malformed => exact trivial
        · exact fun _ _ _ => trivial
        · exact fun _ _ _ => plain_ends (Messages.sendToHost (by trivial))
      · exact fun _ => trivial
    · exact fun _ _ _ => ih
    · exact fun _ _ _ => trivial

section Endpoints

lemma sendRoomState_follows {send : Frame → Handler Unit} {state : Option WSRoomState}
    (hsend : ∀ s, state = some s → Follows i call (fun _ l' => l <+: l') (send (.roomState s)) l) :
    Follows i call (fun _ l' => l <+: l') (sendRoomState send state) l := by
  cases state with
  | none => exact List.prefix_refl l
  | some s => exact hsend s rfl

lemma sendQuietly_follows (websocket : Socket) {state : WSRoomState}
    (h : Shown i roomCode l state) :
    Follows i call (fun _ l' => l <+: l') (sendQuietly websocket (.roomState state)) l := by
  apply Follows.tryCatch (S := fun _ l' => l <+: l')
  · exact Follows.perform fun r _ => ⟨fun _ => ⟨roomCode, h⟩, List.prefix_append _ _⟩
  · exact fun _ _ h => h
  · exact fun _ _ h => h

lemma sendToPlayer_follows (playerId : UUID) {state : WSRoomState} (h : Shown i roomCode l state) :
    Follows i call (fun _ l' => l <+: l') (sendToPlayer playerId (.roomState state)) l := by
  apply plain_bind (by trivial)
  · rintro (_ | websocket) -
    · exact List.prefix_append _ _
    · exact (sendQuietly_follows websocket (h.mono (List.prefix_append _ _))).mono fun _ _ hl =>
        (List.prefix_append _ _).trans hl
  · exact fun e => List.prefix_append _ _

lemma sendToHost_follows {state : WSRoomState} (h : Shown i roomCode l state) :
    Follows i call (fun _ l' => l <+: l') (sendToHost roomCode (.roomState state)) l := by
  apply plain_bind (by trivial)
  · rintro (_ | websocket) -
    · exact List.prefix_append _ _
    · exact (sendQuietly_follows websocket (h.mono (List.prefix_append _ _))).mono fun _ _ hl =>
        (List.prefix_append _ _).trans hl
  · exact fun e => List.prefix_append _ _

/-- Nothing that an endpoint does before it builds the state moves the session. -/
def Idle {β : Type} (o : Op β) : Prop :=
  o.Sends Plain ∧ match o with
    | .commit changes => changes.session = none
    | _ => True

lemma idle_follows {x : Handler α} (hx : x.All system.Answers Idle) (hl : Uncommitted l) :
    Follows i call (fun _ l' => Uncommitted l') x l := by
  apply Follows.of_all hx _ hl
  intro β o r l' ho _ hl'
  refine ⟨fine_plain ho.1 r, hl'.append ?_⟩
  cases o with
  | commit changes =>
    have hnone : changes.session = none := ho.2
    cases r <;> simp [committedIndex, hnone]
  | _ => cases r <;> rfl

lemma setPlayerConnected_idle (playerId : UUID) (connected : Bool) :
    (setPlayerConnected playerId connected).All system.Answers Idle :=
  All.perform_bind (by exact ⟨trivial, trivial⟩) fun _ _ => (all_perform _).mpr ⟨trivial, rfl⟩

lemma servePlayer_follows (websocket : Socket) (room : Room) (player : GamePlayer)
    (hl : Uncommitted l) :
    Follows i call (fun _ _ => True) (servePlayer websocket roomCode room player) l := by
  have hconnect : (connect websocket roomCode player.playerId).All system.Answers Idle :=
    All.perform_bind (by exact ⟨trivial, trivial⟩) fun _ _ => (all_perform _).mpr ⟨trivial, trivial⟩
  apply Follows.bind (idle_follows hconnect hl)
  swap
  · exact fun _ _ _ => trivial
  intro _ l₁ h₁
  apply Follows.bind (idle_follows (setPlayerConnected_idle _ _) h₁)
  swap
  · exact fun _ _ _ => trivial
  intro _ l₂ h₂
  apply Follows.bind (Follows.reify (buildRoomState_follows false h₂))
  swap
  · exact fun _ _ _ => trivial
  rintro v l₃ ⟨_, ⟨⟩, -, hshown⟩
  cases v with
  | error e =>
    exact plain_ends (All.bind (Messages.disconnectFrom websocket _) fun _ =>
      (all_perform _).mpr (by trivial))
  | ok state =>
    apply Follows.bind (S := fun _ _ => True)
    · apply Follows.bind (sendRoomState_follows fun s hs =>
        sendToPlayer_follows player.playerId (hshown s (congrArg Except.ok hs)))
      · intro _ l₄ _
        apply plain_ends
        apply All.bind (Messages.sendFinished (fun _ => Messages.sendToPlayer _ (by trivial)) _ _)
        exact fun _ => Messages.broadcastToRoom (by trivial) _
      · exact fun _ _ _ => trivial
    · intro _ l₄ _
      apply plain_ends
      apply All.bind (Messages.attempt ((all_perform _).mpr (by trivial)))
      exact fun _ => Messages.leavePlayer (fun _ _ => trivial) _ _
    · exact fun _ _ _ => trivial

lemma serveHost_follows (websocket : Socket) (room : Room) (hl : Uncommitted l) :
    Follows i call (fun _ _ => True) (serveHost websocket roomCode room) l := by
  have hconnect : (connectHost websocket roomCode).All system.Answers Idle :=
    All.perform_bind (by exact ⟨trivial, trivial⟩) fun _ _ => (all_perform _).mpr ⟨trivial, trivial⟩
  apply Follows.bind (idle_follows hconnect hl)
  swap
  · exact fun _ _ _ => trivial
  intro _ l₁ h₁
  apply Follows.bind (Follows.reify (buildRoomState_follows true h₁))
  swap
  · exact fun _ _ _ => trivial
  rintro v l₃ ⟨_, ⟨⟩, -, hshown⟩
  cases v with
  | error e =>
    exact plain_ends (All.bind (Messages.disconnectFrom websocket _) fun _ =>
      (all_perform _).mpr (by trivial))
  | ok state =>
    apply Follows.bind (S := fun _ _ => True)
    · apply Follows.bind (sendRoomState_follows fun s hs =>
        sendToHost_follows (hshown s (congrArg Except.ok hs)))
      · intro _ l₄ _
        exact plain_ends (Messages.sendFinished (fun _ => Messages.sendToHost (by trivial)) _ _)
      · exact fun _ _ _ => trivial
    · intro _ l₄ _
      apply plain_ends
      apply All.bind (Messages.attempt ((all_perform _).mpr (by trivial)))
      exact fun _ => Messages.disconnectFrom _ _
    · exact fun _ _ _ => trivial

lemma websocketPlayerEndpoint_follows (id : ℕ) (origin wsToken : Option String) :
    Follows i call (fun _ _ => True) (websocketPlayerEndpoint id roomCode origin wsToken) [] := by
  have hclose (code : ℕ) (reason : String) (l : List Ev) : Follows i call (fun _ _ => True)
      (await (.close ⟨.player, id⟩ code reason)) l := Follows.perform fun r _ =>
        ⟨fine_plain (by trivial) r, trivial⟩
  apply Follows.ite
  · exact fun _ => hclose _ _ _
  intro _
  cases wsToken.filter (· ≠ "") with
  | none => exact hclose _ _ _
  | some token =>
    apply plain_bind (by trivial)
    swap
    · exact fun _ => trivial
    rintro (_ | playerId) -
    · exact hclose _ _ _
    apply plain_bind (by trivial)
    swap
    · exact fun _ => trivial
    rintro (_ | room) -
    · exact hclose _ _ _
    dsimp only
    split
    · exact servePlayer_follows _ _ _ rfl
    · exact hclose _ _ _

lemma websocketHostEndpoint_follows (id : ℕ) (origin : Option String) (hostUser : UUID) :
    Follows i call (fun _ _ => True) (websocketHostEndpoint id roomCode origin hostUser) [] := by
  have hclose (code : ℕ) (reason : String) (l : List Ev) : Follows i call (fun _ _ => True)
      (await (.close ⟨.host, id⟩ code reason)) l := Follows.perform fun r _ =>
        ⟨fine_plain (by trivial) r, trivial⟩
  apply Follows.ite
  · exact fun _ => hclose _ _ _
  intro _
  apply plain_bind (by trivial)
  swap
  · exact fun _ => trivial
  rintro (_ | room) -
  · exact hclose _ _ _
  apply Follows.ite
  · exact fun _ => hclose _ _ _
  · exact fun _ => serveHost_follows _ _ rfl

end Endpoints

lemma code_follows (i : ℕ) (call : Call) : Follows i call (fun _ _ => True) (code call) [] := by
  have hsilent : ∀ {x : Handler Unit}, ¬call.Builds →
    x.All system.Answers (Op.Within call.footprint) →
      (∀ roomCode message, ¬call.footprint.announces roomCode message) →
        Follows i call (fun _ _ => True) x [] := by
    intro x hb hx hn
    apply Follows.of_all hx (A := fun _ => True) _ trivial
    intro β o r l ho _ _
    refine ⟨?_, trivial⟩
    cases o with
    | sendJson websocket message =>
      cases message with
      | roomState => exact fun h => (hb h).elim
      | _ => trivial
    | publish room envelope =>
      obtain ⟨message, exclude⟩ := envelope
      cases message with
      | question message => exact (hn _ _ ho).elim
      | _ => trivial
    | _ => trivial
  cases call with
  | hostFrames roomCode hostId frames => exact hostFrames_follows (by trivial) hostId frames
  | playerEndpoint id roomCode origin wsToken =>
    exact websocketPlayerEndpoint_follows id origin wsToken
  | hostEndpoint id roomCode origin hostUser =>
    exact websocketHostEndpoint_follows id origin hostUser
  | _ => exact hsilent id (code_keeps _) fun _ _ h => h

end Rebuilt

end

end Askit.Game
