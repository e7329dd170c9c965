import Askit.Game.Progress

/-! The handlers of a room, step by step, and the run of a room from its creation. -/

namespace Askit.Game.Progress

open Interleaving Machine Coro Tables

variable [Runtime] {roomCode : String} {quiz : Quiz} {i : ℕ} {call : Call} {v w : system.World}
variable {α β γ : Type} {Q : Except Exn β → system.World → Prop} {p : Position}

lemma closeQuestion_ensures {g : GameSession} {k : ℕ}
    (hl : Loaded roomCode quiz i ⟨.question, k⟩ g w)
    (hc : ∀ timer, call = .questionTimeout timer → timer.questionIndex = k) :
    (contract roomCode quiz i call).Ensures i (fun _ _ => True) (closeQuestion g) w := by
  refine commit_ensures hl.key fun v row hr hi hrow hcur => ⟨?_, fun _ _ _ _ _ => trivial⟩
  rcases hcur with hcur | ⟨hs, hstill⟩
  · obtain ⟨hp, hg⟩ := (hl.rely hr).eq hi hrow hcur
    have hf : (GameSession.flush ⟨g, { g with status := .revealing }⟩ row).position =
        ⟨.revealing, k⟩ := by
      rw [flush_of_current (hp.trans hg.symm)]
      exact congrArg (Position.mk .revealing) (congrArg Position.index hg)
    refine ⟨.inr ?_, nofun, fun timer ht _ => hc timer ht ▸ hp, fun hx => hi.ordered ?_⟩
    · rw [hp, hf]
      exact .reveal
    · rw [position_eq hrow, hp]
      rwa [hf] at hx
  · exact .still hi hrow hs hstill

lemma questionTimeout_ensures {timer : Timer}
    (hu : Runtime.upper timer.roomCode = Runtime.upper roomCode) (hb : seen i w.history = none) :
    (contract roomCode quiz i (.questionTimeout timer)).Ensures i (fun _ _ => True)
      (questionTimeout timer.roomCode timer.questionIndex timer.timeLimitMs) w := by
  refine .perform_bind faultless fun v hr hi _ _ => ⟨inv_perform (by exact trivial) hi,
    guar_perform (by exact trivial), fun _ _ => ?_, fun _ _ => trivial⟩
  have hv : seen i (v.perform i (.sleep timer.timeLimitMs)).2.history = none := by
    rw [World.perform_history, seen_append]
    exact hr.seen.trans hb
  refine first_getRoom_bind hu hv (fun v₁ g players hi₁ hl hp => ?_) fun _ _ => trivial
  refine .ite (fun _ => trivial) fun hidx => .ite (fun _ => trivial) fun hst => ?_
  simp only [not_not] at hidx hst
  have hg : g.position = ⟨.question, timer.questionIndex⟩ := by
    simp [GameSession.position, hidx, hst]
  refine .bind (closeQuestion_ensures (hg ▸ hl) fun t ht => ?_) (fun _ v₂ _ => ?_)
    fun _ _ _ => trivial
  · cases ht
    rfl
  · apply ensures_silent
    apply All.bind (getCurrentQuestion_keeps _)
    rintro ⟨_, question⟩
    cases question with
    | none => trivial
    | some question => exact All.bind (buildQuestionEnded_keeps _ _ _) fun _ =>
        broadcastToRoom_keeps _ (by trivial) none

lemma finished_of_rely (hv : Inv roomCode quiz v) (hw : Inv roomCode quiz w)
    (hf : (position roomCode v).status = .finished) (hr : Rely roomCode quiz i v w) :
    (position roomCode w).status = .finished :=
  hv.valid.finished_of_rank_le hw.valid hf hr.rank

def Ending (roomCode : String) (quiz : Quiz) (p : Position) (w : system.World) : Prop :=
  (Inv roomCode quiz w ∧ (position roomCode w).status = .finished) ∨
    Position.Next quiz.questions.length p ⟨.finished, quiz.questions.length⟩

lemma Ending.rely (h : Ending roomCode quiz p v) (hr : Rely roomCode quiz i v w)
    (hi : Inv roomCode quiz w) : Ending roomCode quiz p w :=
  h.imp (fun h => ⟨hi, finished_of_rely h.1 hi h.2 hr⟩) id

def Over (roomCode : String) (quiz : Quiz) (i : ℕ) (w : system.World) : Prop :=
  ∃ p, Sees roomCode i p w ∧ Ordered roomCode quiz w ∧ Ending roomCode quiz p w

lemma finish_ensures {g : GameSession} {endedAt : Option Time} (hl : Loaded roomCode quiz i p g w)
    (ho : Ordered roomCode quiz w) (he : Ending roomCode quiz p w)
    (hc : ∀ timer, call ≠ .questionTimeout timer) :
    (contract roomCode quiz i call).Ensures i (fun _ v => Over roomCode quiz i v)
      (await (.commit { session := some ⟨g,
        { g with status := .finished, endedAt := endedAt }⟩ })) w := by
  refine commit_ensures hl.key fun v row hr hi hrow hcur => ?_
  have hl := hl.rely hr
  have hrow' : position roomCode v = row.position := position_eq hrow
  have hf := @flush_finished g row endedAt fun hg => by
    have := hl.valid.finished_of_rank_le hi.valid hg hl.upper
    rwa [hrow'] at this
  have hfit : Fits roomCode quiz call ⟨g, { g with status := .finished, endedAt := endedAt }⟩ row
      v := by
    refine ⟨?_, nofun, fun t ht => (hc t ht).elim, fun _ => hr.ordered ho⟩
    rw [hf]
    rcases he.rely hr hi with ⟨-, hfin⟩ | hnext
    · rw [hrow'] at hfin
      exact .inl (by rw [← hfin]; rfl)
    · rcases hcur with hcur | ⟨-, hstill⟩
      · obtain ⟨hp, -⟩ := hl.eq hi hrow hcur
        have hidx : row.currentQuestionIndex = quiz.questions.length :=
          (congrArg Position.index hp).trans hnext.index_of_finished
        rw [hidx, hp]
        exact .inr hnext
      · exact .inl (hf ▸ hstill)
  refine ⟨hfit, fun v' hi' hs hp' ho' => ⟨_, ⟨hs, ?_⟩, ho' (hr.ordered ho), .inl ⟨hi', ?_⟩⟩⟩
  · rw [hp']
    exact Position.rank_le_of_finished (hfit.valid hi hrow) (by rw [hf]) hl.valid.index_le
  · rw [hp', hf]

lemma endGame_ensures (h : Over roomCode quiz i w) (hc : ∀ timer, call ≠ .questionTimeout timer) :
    (contract roomCode quiz i call).Ensures i (fun _ _ => True) (endGame roomCode) w := by
  obtain ⟨p, hs, ho, he⟩ := h
  refine hs.getRoom_bind rfl (fun v g players hr hi hl _ => ?_) fun _ _ => trivial
  refine hl.read_bind trivial (fun v₁ endedAt _ hr₁ hi₁ _ => ?_) fun _ _ => trivial
  have ho₁ := hr₁.ordered (hr.ordered ho)
  refine .bind (finish_ensures (hl.rely hr₁) ho₁ (he.rely (hr.trans hr₁) hi₁) hc) (fun _ v₂ _ => ?_)
    fun _ _ _ => trivial
  refine ensures_silent (All.bind (buildGameFinished_keeps _) fun finished => ?_)
  cases finished with
  | none => trivial
  | some f =>
    exact All.bind (announceFinished_keeps roomCode _ _) fun _ => (all_perform _).mpr trivial

/-- The process sees the room one step before question `k`, or before the end of a room without
questions. -/
def Before (quiz : Quiz) (p : Position) (k : ℕ) : Prop :=
  Position.Next quiz.questions.length p ⟨.question, k⟩ ∨
    quiz.questions.length < k ∧ Position.Next quiz.questions.length p
      ⟨.finished, quiz.questions.length⟩

lemma askQuestion_ensures {g : GameSession} {k : ℕ} (hl : Loaded roomCode quiz i p g w)
    (ho : Ordered roomCode quiz w) (hn : Position.Next quiz.questions.length p ⟨.question, k⟩)
    (hc : ∀ timer, call ≠ .questionTimeout timer) :
    (contract roomCode quiz i call).Ensures i (fun _ _ => True)
      (await (.commit { session := some ⟨g,
        { g with status := .question, currentQuestionIndex := k }⟩ })) w := by
  refine commit_ensures hl.key fun v row hr hi hrow hcur => ⟨?_, fun _ _ _ _ _ => trivial⟩
  refine ⟨?_, nofun, fun t ht => (hc t ht).elim, fun _ => hr.ordered ho⟩
  rcases hcur with hcur | ⟨-, hstill⟩
  · obtain ⟨hp, hg⟩ := (hl.rely hr).eq hi hrow hcur
    rw [flush_of_current (hp.trans hg.symm), hp]
    exact .inr hn
  · exact .inl hstill

lemma advanceToQuestion_ensures {k : ℕ} (hs : Sees roomCode i p w) (ho : Ordered roomCode quiz w)
    (hb : Before quiz p k) (hc : ∀ timer, call ≠ .questionTimeout timer) :
    (contract roomCode quiz i call).Ensures i (fun r v => r = .ok none → Over roomCode quiz i v)
      (advanceToQuestion roomCode k) w := by
  refine hs.getRoom_bind rfl (fun v g players hr hi hl _ => ?_) fun _ _ => nofun
  refine hl.read_bind trivial (fun v₁ ids s hr₁ hi₁ hx => ?_) fun _ _ => nofun
  obtain ⟨hids, rfl⟩ := Prod.mk.inj hx
  obtain ⟨ids', hstored, hperm⟩ := hr₁.ordered (hr.ordered ho)
  obtain rfl : some ids' = ids := hstored.symm.trans (Except.ok.inj hids)
  have hl := hl.rely hr₁
  refine hl.read_bind trivial (fun v₂ _ _ hr₂ hi₂ _ => ?_) fun _ _ => nofun
  have ho₂ := hr₂.ordered (hr₁.ordered (hr.ordered ho))
  have hl := hl.rely hr₂
  have hlen : ids'.length = quiz.questions.length := by simpa using hperm.length_eq
  refine .ite (fun hlt => ?_) fun hge => ?_
  · rcases hb with hb | ⟨-, hend⟩
    · have := hb.index_le_of_question
      omega
    · refine hl.read_bind trivial (fun v₃ endedAt _ hr₃ _ _ => ?_) fun _ _ => nofun
      exact .bind (finish_ensures (hl.rely hr₃) (hr₃.ordered ho₂) (.inr hend) hc)
        (fun _ _ hover _ => hover) fun _ _ _ => nofun
  · rcases hb with hb | ⟨hlt, -⟩
    · refine .bind (askQuestion_ensures hl ho₂ hb hc) (fun _ v₃ _ => ?_) fun _ _ _ => nofun
      refine silent_bind trivial (fun v₄ now _ => ?_) fun _ _ => nofun
      refine silent_bind trivial (fun v₅ _ _ => ?_) fun _ _ => nofun
      have hk := hb.index_le_of_question
      obtain ⟨questionId, hid⟩ : ∃ questionId, ids'[k - 1]? = some questionId :=
        ⟨_, List.getElem?_eq_getElem (by omega)⟩
      rw [hid]
      refine .perform faultless fun v₆ _ hi₆ _ _ => ⟨inv_perform (by exact trivial) hi₆,
        guar_perform (by exact trivial), fun hnone => ?_⟩
      obtain ⟨q, hq, -⟩ := exists_question (Table.mem_get? hi₆.stored)
        (hperm.mem_iff.mp (List.mem_of_getElem? hid))
      have hx : (v₆.perform i (.getQuestion questionId)).1 = .ok (some q) := congrArg Except.ok hq
      rw [hx] at hnone
      cases hnone
    · omega

lemma sendQuestion_ensures {k total : ℕ} (hs : Sees roomCode i p w) (ho : Ordered roomCode quiz w)
    (hb : Before quiz p k) (hc : ∀ timer, call ≠ .questionTimeout timer) :
    (contract roomCode quiz i call).Ensures i (fun _ _ => True)
      (sendQuestion roomCode k total) w := by
  refine .bind (advanceToQuestion_ensures hs ho hb hc) (fun question v hv => ?_)
    fun _ _ _ => trivial
  cases question with
  | none => exact endGame_ensures (hv rfl) hc
  | some question =>
    exact ensures_elsewhere (All.perform_bind trivial fun room _ =>
      All.bind (buildQuestionMessage_keeps _ _ _ _ _) fun message =>
        All.bind (broadcastToRoom_keeps roomCode (by exact trivial) none) fun _ =>
          (all_perform _).mpr trivial)

/-- `get_current_question` hands over the room that it has reloaded. -/
def Refreshed (roomCode : String) (quiz : Quiz) (i : ℕ) (p : Position)
    (r : Except Exn (Option Room × Option QuizQuestion)) (w : system.World) : Prop :=
  ∀ a, r = .ok a → ∃ g players, a.1 = some ⟨g, players, quiz.loaded⟩ ∧ Loaded roomCode quiz i p g w

lemma getCurrentQuestion_ensures (hs : Sees roomCode i p w) :
    (contract roomCode quiz i call).Ensures i (Refreshed roomCode quiz i p)
      (getCurrentQuestion roomCode) w := by
  refine hs.getRoom_bind rfl (fun v g players hr hi hl _ => ?_) fun _ _ _ => nofun
  have hdone : ∀ u (q : Option QuizQuestion), Rely roomCode quiz i v u →
      Refreshed roomCode quiz i p (.ok (some ⟨g, players, quiz.loaded⟩, q)) u := by
    rintro u q hu a ⟨rfl⟩
    exact ⟨g, players, rfl, hl.rely hu⟩
  refine .ite (fun _ => hdone v none ⟨rfl, le_rfl, id⟩) fun _ => ?_
  refine hl.read_bind trivial (fun v₁ ids _ hr₁ _ _ => ?_) fun _ _ _ => nofun
  cases ids with
  | none => exact hdone v₁ none hr₁
  | some ids =>
    dsimp only
    split
    · exact (hl.rely hr₁).read_bind trivial (fun v₂ q _ hr₂ _ _ => hdone v₂ q (hr₁.trans hr₂))
        fun _ _ _ => nofun
    · exact hdone v₁ none hr₁

lemma handleNextQuestion_ensures (hb : seen i w.history = none)
    (hc : ∀ timer, call ≠ .questionTimeout timer) :
    (contract roomCode quiz i call).Ensures i (fun _ _ => True)
      (handleNextQuestion roomCode) w := by
  refine first_getRoom_bind rfl hb (fun v g players hi hl hp => ?_) fun _ _ => trivial
  have hlen : quiz.loaded.questions.length = quiz.questions.length :=
    (sortByPosition_perm quiz.questions).length_eq
  refine .ite (fun hst => ?_) fun _ => .ite (fun _ => trivial) fun hst => ?_
  · refine .bind (getCurrentQuestion_ensures hl.toSees) (fun a v₁ ha => ?_) fun _ _ _ => trivial
    obtain ⟨refreshed, question⟩ := a
    obtain ⟨g', players', rfl, hl'⟩ := ha _ rfl
    cases question with
    | none => trivial
    | some question =>
      have hg : g.position = ⟨.question, g.currentQuestionIndex⟩ := congrArg (Position.mk · _) hst
      refine .bind (closeQuestion_ensures (hg ▸ hl') fun t ht => (hc t ht).elim) (fun _ v₂ _ => ?_)
        fun _ _ _ => trivial
      exact ensures_silent (All.bind (buildQuestionEnded_keeps _ _ _) fun ⟨_, _⟩ =>
        broadcastToRoom_keeps _ (by trivial) none)
  · simp only [not_not] at hst
    have hg : g.position = ⟨.revealing, g.currentQuestionIndex⟩ := congrArg (Position.mk · _) hst
    have hidx : 1 ≤ g.currentQuestionIndex ∧ g.currentQuestionIndex ≤ quiz.questions.length := by
      simpa [hg, Position.Valid] using hl.valid
    have ho : Ordered roomCode quiz v := hi.ordered (hp ▸ hidx.1)
    refine .ite (fun hlt => ?_) fun hge => ?_
    · simp only [hlen] at hlt
      have he : g.currentQuestionIndex = quiz.questions.length := by omega
      refine endGame_ensures ⟨_, hl.toSees, ho, .inr ?_⟩ hc
      rw [hg, he]
      exact .finish (by omega)
    · simp only [hlen] at hge
      refine sendQuestion_ensures hl.toSees ho (.inl ?_) hc
      rw [hg]
      exact .next (by omega)

def Started (roomCode : String) (quiz : Quiz) (i : ℕ) (r : Except Exn (List QuizQuestion))
    (w : system.World) : Prop :=
  ∀ questions, r = .ok questions → questions.length = quiz.questions.length ∧
    Sees roomCode i ⟨.starting, 0⟩ w ∧ Ordered roomCode quiz w

lemma questionOrder_ensures {g : GameSession} {players : List GamePlayer}
    (hs : Sees roomCode i p w) :
    (contract roomCode quiz i call).Ensures i
      (fun r v => Rely roomCode quiz i w v ∧ ∀ questions, r = .ok questions →
        questions.Perm quiz.questions) (questionOrder ⟨g, players, quiz.loaded⟩) w := by
  have hp := sortByPosition_perm quiz.questions
  refine .ite (fun _ => ?_) fun _ => ?_
  · apply Contract.Ensures.perform faultless
    intro v hr hi ha _
    have hsilent := @Sees.silent _ _ quiz _ call _ _ (.shuffle quiz.loaded.questions) trivial v
      hi (hs.rely hr) ha
    refine ⟨hsilent.1, hsilent.2.1, hr.trans hsilent.2.2, fun questions hq => ?_⟩
    cases hq
    exact (Runtime.shuffle_perm _ _).trans hp
  · refine ⟨⟨rfl, le_rfl, id⟩, fun questions hq => ?_⟩
    cases hq
    exact (sortByPosition_perm _).trans hp

lemma startGame_ensures {hostId : UUID} (hb : seen i w.history = none)
    (hc : ∀ timer, call ≠ .questionTimeout timer) :
    (contract roomCode quiz i call).Ensures i (Started roomCode quiz i)
      (startGame roomCode hostId) w := by
  refine first_getRoom_bind rfl hb (fun v g players hi hl hp => ?_) fun _ _ _ => nofun
  refine .require (fun _ => .require (fun hst => ?_) fun _ _ => nofun) fun _ _ => nofun
  have hg : g.position = ⟨.waiting, 0⟩ := hl.valid.waiting hst
  refine .bind (questionOrder_ensures hl.toSees) (fun questions v₁ hv₁ => ?_) fun _ _ _ _ => nofun
  obtain ⟨hr₁, hq⟩ := hv₁
  have hperm := hq questions rfl
  refine (hl.rely hr₁).read_bind trivial (fun v₂ startedAt _ hr₂ _ _ => ?_) fun _ _ _ => nofun
  have hl₂ := (hl.rely hr₁).rely hr₂
  refine .bind (S := fun _ v => Sees roomCode i ⟨.starting, 0⟩ v) ?_ (fun _ v₃ hs₃ => ?_)
    fun _ _ _ _ => nofun
  · refine commit_ensures hl₂.key fun v₃ row hr₃ hi₃ hrow hcur => ?_
    rcases hcur with hcur | ⟨hne, -⟩
    · obtain ⟨hrow', -⟩ := (hl₂.rely hr₃).eq hi₃ hrow hcur
      have hf :=
        flush_of_current (s := ⟨g, { g with status := .starting, startedAt := some startedAt }⟩)
        hrow'
      have hcurrent : GameSession.position
          { g with status := .starting, startedAt := some startedAt } =
          ⟨.starting, 0⟩ := congrArg (Position.mk .starting) (congrArg Position.index hg)
      simp only [hcurrent] at hf
      refine ⟨⟨.inr ?_, fun _ => ⟨hrow'.trans hg, hf⟩, fun t ht => (hc t ht).elim, fun hx => ?_⟩,
        fun v' _ hs hp' _ => ⟨hs.trans (congrArg some hcurrent), ?_⟩⟩
      · rw [hf, hrow', hg]
        exact .start
      · simp [hf] at hx
      · rw [hp', hf]
    · exact (hne rfl).elim
  · refine .perform_bind faultless fun v₄ hr₄ hi₄ _ _ => ?_
    have hord : Ordered roomCode quiz (v₄.perform i
        (.setQuestions roomCode (questions.map QuizQuestion.questionId) sessionKeyTtl)).2 :=
      ⟨_, Function.update_self _ _ _, hperm.map _⟩
    have hs₄ := hs₃.rely hr₄
    refine ⟨⟨hi₄.session, hi₄.stored, hi₄.valid, fun _ => hord⟩,
      ⟨⟨_, rfl, rfl, False.elim⟩, .inl rfl, fun _ _ hne => (hne rfl).elim, fun _ => hord⟩, ?_,
      fun _ _ _ => nofun⟩
    rintro _ - questions' ⟨rfl⟩
    refine ⟨hperm.length_eq, ⟨?_, hs₄.rank⟩, hord⟩
    rw [World.perform_history, seen_append, hs₄.seen]
    rfl

lemma handleStartGame_ensures {hostId : UUID} (hb : seen i w.history = none)
    (hc : ∀ timer, call ≠ .questionTimeout timer) :
    (contract roomCode quiz i call).Ensures i (fun _ _ => True)
      (handleStartGame roomCode hostId) w := by
  refine .bind (startGame_ensures hb hc) (fun questions v hv => ?_) fun _ _ _ => trivial
  obtain ⟨hlen, hs, ho⟩ := hv questions rfl
  refine .bind (hs.ensures (All.forM fun ms _ =>
    All.bind (broadcastToRoom_keeps roomCode (by trivial) _)
    fun _ => (all_perform _).mpr trivial)) (fun _ v₁ hr => ?_) fun _ _ _ => trivial
  refine sendQuestion_ensures (hs.rely hr) (hr.ordered ho) ?_ hc
  rcases Nat.eq_zero_or_pos quiz.questions.length with h0 | hpos
  · refine .inr ⟨by omega, ?_⟩
    rw [h0]
    exact .empty rfl
  · exact .inl (.first hpos)

lemma hostFrames_ensures {hostId : UUID} (frames : List ClientMessage)
    (hc : ∀ timer, call ≠ .questionTimeout timer) :
    (contract roomCode quiz i call).Ensures i (fun _ _ => True)
      (hostFrames roomCode hostId frames) w := by
  induction frames generalizing w with
  | nil => trivial
  | cons data frames ih =>
    refine .bind (S := fun _ _ => True) ?_ (fun _ v _ => ih) fun _ _ _ => trivial
    refine .perform_bind faultless fun v hr hi _ _ => ⟨inv_perform (by exact trivial) hi,
      guar_perform (by exact trivial), fun _ _ => ?_, fun _ _ => trivial⟩
    have hb : seen i (v.perform i .receiveJson).2.history = none := by
      rw [World.perform_history, seen_append]
      exact if_pos rfl
    refine .tryCatch (S := fun _ _ => True) ?_ (fun _ _ _ => trivial)
      fun _ _ _ => ensures_silent (sendToHost_keeps _ _)
    cases data with
    | startGame => exact handleStartGame_ensures hb hc
    | nextQuestion => exact handleNextQuestion_ensures hb hc
    | answer questionId answerIds => trivial
    | malformed => trivial

end Askit.Game.Progress

namespace Askit.Game

open Interleaving Machine Coro Tables

section

variable [Runtime]

/-- The host's frames of the room all come with one spelling of its code, and no commit of its
session is stale. -/
def Undisturbed (roomCode : String) : system.Transition → Prop
  | ⟨_, .spawn (.hostFrames room _ _)⟩ =>
    Runtime.upper room = Runtime.upper roomCode → room = roomCode
  | ⟨c, .run i⟩ => Awaits (Op.Current (Runtime.upper roomCode) i c.world) c.procs[i]?
  | _ => True

instance (roomCode : String) : DecidablePred (Undisturbed roomCode)
  | ⟨_, .spawn (.hostFrames room _ _)⟩ =>
    inferInstanceAs (Decidable (Runtime.upper room = Runtime.upper roomCode → room = roomCode))
  | ⟨c, .run i⟩ =>
    inferInstanceAs (Decidable (Awaits (Op.Current (Runtime.upper roomCode) i c.world) c.procs[i]?))
  | ⟨_, .spawn (.joinRoom ..)⟩ | ⟨_, .spawn (.playerFrame ..)⟩ | ⟨_, .spawn (.questionTimeout _)⟩
  | ⟨_, .spawn (.playerEndpoint ..)⟩ | ⟨_, .spawn (.hostEndpoint ..)⟩ | ⟨_, .spawn (.subscriber _)⟩
  | ⟨_, .spawn (.delivery _)⟩ | ⟨_, .fault _ _⟩ | ⟨_, .env _⟩ => isTrue trivial

lemma Undisturbed.oneSpelling {roomCode room : String} {hostId : UUID} {frames : List ClientMessage}
    {t : system.Transition} (h : Undisturbed roomCode t)
    (ht : t.act = .spawn (.hostFrames room hostId frames)) :
    Runtime.upper room = Runtime.upper roomCode → room = roomCode := by
  obtain ⟨c, a⟩ := t
  obtain rfl : a = _ := ht
  exact h

lemma Undisturbed.current {roomCode : String} {t : system.Transition} (h : Undisturbed roomCode t)
    {i : ℕ} {call : Call} {β : Type} {o : Op β} {k : Except Exn β → Handler Unit}
    (ht : t.act = .run i) (hp : t.before.procs[i]? = some ⟨call, .await o k⟩) :
    o.Current (Runtime.upper roomCode) i t.before.world := by
  obtain ⟨c, a⟩ := t
  obtain rfl : a = _ := ht
  exact Awaits.pending h hp

def StartsRoom (roomCode : String) (t : system.Transition) : Prop :=
  ∃ ev, t.after.world.history = t.before.world.history ++ [ev] ∧
    Progress.Starts (Runtime.upper roomCode) ev

structure FollowsLifecycle (roomCode : String) (n : ℕ) (ts : List system.Transition) : Prop where
  steps : ∀ t ∈ ts, position roomCode t.after.world = position roomCode t.before.world ∨
    Position.Next n (position roomCode t.before.world) (position roomCode t.after.world)
  timers : ∀ t ∈ ts, ∀ i timer {β : Type} (o : Op β), t.Runs i (.questionTimeout timer) o →
    position roomCode t.after.world ≠ position roomCode t.before.world →
      position roomCode t.before.world = ⟨.question, timer.questionIndex⟩ ∧
        position roomCode t.after.world = ⟨.revealing, timer.questionIndex⟩
  startedOnce : ts.Pairwise fun t u => StartsRoom roomCode t → ¬StartsRoom roomCode u
  revealed : ts.Pairwise fun t u => ∀ i, position roomCode t.after.world = ⟨.revealing, i⟩ →
    position roomCode u.after.world ≠ ⟨.question, i⟩
  finished : ts.Pairwise fun t u => (position roomCode t.after.world).status = .finished →
    position roomCode u.after.world = position roomCode t.after.world

namespace Progress

variable {roomCode : String} {quiz : Quiz} {v w : system.World}

lemma Inv.of_eq (h : Inv roomCode quiz v) (hd : w.state.db = v.state.db)
    (hr : w.state.redis = v.state.redis) : Inv roomCode quiz w := by
  have hp : position roomCode w = position roomCode v :=
    State.position_congr hd _
  exact ⟨hd ▸ h.session, hd ▸ h.stored, hp ▸ h.valid, fun hx => by
    obtain ⟨ids, hids, hperm⟩ := h.ordered (hp ▸ hx)
    exact ⟨ids, hr ▸ hids, hperm⟩⟩

lemma Rely.of_eq {i : ℕ} (hd : w.state.db = v.state.db) (hr : w.state.redis = v.state.redis)
    (hh : w.history = v.history) : Rely roomCode quiz i v w := by
  have hp : position roomCode w = position roomCode v :=
    State.position_congr hd _
  exact ⟨by rw [hh], (congrArg Position.rank hp).ge, fun ⟨ids, hids, hperm⟩ => ⟨ids,
    hr ▸ hids, hperm⟩⟩

lemma ensures_code {call : Call} {i : ℕ}
    (hone : ∀ room hostId frames, call = .hostFrames room hostId frames →
      Runtime.upper room = Runtime.upper roomCode → room = roomCode)
    (hb : seen i w.history = none) :
    (contract roomCode quiz i call).Ensures i (fun _ _ => True) (code call) w := by
  by_cases he : call.Elsewhere roomCode
  · exact ensures_elsewhere he.keeps
  · cases call with
    | hostFrames room hostId frames =>
      obtain rfl := hone room hostId frames rfl (not_not.mp he)
      exact hostFrames_ensures frames nofun
    | questionTimeout timer => exact questionTimeout_ensures (not_not.mp he) hb
    | _ => exact (he trivial).elim

lemma permits {t : system.Transition} (hf : Faithful t.act) (hu : Undisturbed roomCode t)
    (hl : t.before.Labelled) : (discipline roomCode quiz).Permits t where
  spawn call s hact henter hi := by
    obtain ⟨hd, hr, -⟩ := enter_eq_some henter
    refine ⟨hi.of_eq hd hr, fun j p _ _ => .of_eq hd hr rfl, ?_⟩
    exact ensures_code (fun room hostId frames hc hroom => hu.oneSpelling (hc ▸ hact) hroom)
      (seen_eq_none fun ev hev => (hl ev hev).ne)
  env e hact hi := by
    cases e with
    | clock now => exact ⟨hi.of_eq rfl rfl, fun j p _ _ => .of_eq rfl rfl rfl⟩
    | lose key => exact (hact ▸ hf : Faithful (.env (.lose key))).elim
  allowed i call _ o k hact hp := by
    rcases hact with hact | ⟨e, hact⟩
    · exact hu.current hact hp
    · exact (hf.noFault i e hact).elim
  faults i e _ _ _ _ hact _ := hf.noFault i e hact
  compatible i p w hp hi hw hg j q hj hq := Guar.rely hg (by simpa [eq_comm] using hj)

lemma step_guar {t : system.Transition} (hk : (discipline roomCode quiz).Kept t.before)
    (hf : Faithful t.act) (hu : Undisturbed roomCode t) (hl : t.before.Labelled) :
    (∃ i p, t.act = .run i ∧ t.before.procs[i]? = some p ∧
      Guar roomCode quiz i p.call t.before.world t.after.world) ∨
    position roomCode t.after.world = position roomCode t.before.world ∧
      t.after.world.history = t.before.world.history := by
  rcases hk.guar_run (permits hf hu hl) (hf.noFault ·  ·) with h | ⟨s, hs, h⟩
  · exact .inl h
  · refine .inr ⟨?_, hs ▸ rfl⟩
    have hd : s.db = t.before.world.state.db := by
      rcases h with rfl | ⟨call, henter⟩ | ⟨e, hact, rfl⟩
      · rfl
      · exact (enter_eq_some henter).1
      · cases e <;> rfl
    rw [hs]
    exact State.position_congr hd _

lemma starts_room {t : system.Transition} (hs : StartsRoom roomCode t)
    (h : (∃ i p, t.act = .run i ∧ t.before.procs[i]? = some p ∧
        Guar roomCode quiz i p.call t.before.world t.after.world) ∨
      position roomCode t.after.world = position roomCode t.before.world ∧
        t.after.world.history = t.before.world.history) :
    position roomCode t.before.world = ⟨.waiting, 0⟩ ∧
      position roomCode t.after.world = ⟨.starting, 0⟩ := by
  obtain ⟨ev, hev, hst⟩ := hs
  rcases h with ⟨i, p, -, -, hg⟩ | ⟨-, hh⟩
  · obtain ⟨ev', -, hev', hg'⟩ := hg.history
    rw [hev', List.append_cancel_left_eq, List.singleton_inj] at hev
    exact hg' (hev ▸ hst)
  · simp [hh] at hev

lemma kept_start {s : State} (h : Created roomCode quiz s) :
    (discipline roomCode quiz).Kept (start s) := by
  obtain ⟨g, hg, hp, hq, hquiz⟩ := h
  have hw : position roomCode (start s : system.Config).world = ⟨.waiting, 0⟩ :=
    (State.position_eq hg).trans hp
  refine ⟨⟨⟨g, hg, hq⟩, hquiz, hw ▸ rfl, fun hx => ?_⟩, nofun⟩
  rw [hw] at hx
  exact absurd hx (by decide)

end Progress

/-- In a run without stale commits the room goes through its questions in order. -/
theorem undisturbed_room_follows_lifecycle (roomCode : String) (quiz : Quiz) (s : State)
    (hs : Created roomCode quiz s) (acts : List system.Act)
    (hf : ∀ a ∈ acts, Faithful a)
    (hu : ∀ t ∈ transitions (start s) acts, Undisturbed roomCode t) :
    FollowsLifecycle roomCode quiz.questions.length (transitions (start s) acts) := by
  obtain ⟨hkept, -⟩ := invariant (I := fun c => (Progress.discipline roomCode quiz).Kept
    c ∧ c.Labelled)
    (P := fun t => Faithful t.act ∧ Undisturbed roomCode t)
    (fun t ht h => ⟨h.1.step (Progress.permits ht.1 ht.2 h.2), h.2.step t.act⟩)
    ⟨Progress.kept_start hs, labelled_start s⟩ acts fun t ht => ⟨hf _ (act_mem ht), hu t ht⟩
  have hguar := fun t ht =>
    Progress.step_guar (hkept t ht).1.1 (hf _ (act_mem ht)) (hu t ht) (hkept t ht).1.2
  have hvalid : ∀ t ∈ transitions (start s) acts,
      (position roomCode t.before.world).Valid quiz.questions.length ∧
        (position roomCode t.after.world).Valid quiz.questions.length :=
    fun t ht => ⟨(hkept t ht).1.1.inv.valid, (hkept t ht).2.1.inv.valid⟩
  have hrank : ∀ t ∈ transitions (start s) acts,
      (position roomCode t.before.world).rank ≤ (position roomCode t.after.world).rank := by
    intro t ht
    rcases hguar t ht with ⟨i, p, -, -, hg⟩ | ⟨hp, -⟩
    · exact hg.rank
    · exact (congrArg Position.rank hp).ge
  have hchain := (pairwise_transitions
    (R := fun c d => (position roomCode c.world).rank ≤ (position roomCode d.world).rank)
    (fun _ => le_rfl) (fun _ _ _ h₁ h₂ => h₁.trans h₂) acts hrank).2
  refine ⟨fun t ht => ?_, fun t ht i timer _ o ho hne => ?_, ?_, ?_, ?_⟩
  · rcases hguar t ht with ⟨i, p, -, -, hg⟩ | ⟨hp, -⟩
    · exact hg.moves
    · exact .inl hp
  · rcases hguar t ht with ⟨j, p, hact, hp, hg⟩ | ⟨hp, -⟩
    · obtain ⟨hact', k, hk⟩ := ho
      obtain rfl : i = j := by simpa using hact'.symm.trans hact
      obtain rfl : _ = p := Option.some.inj (hk.symm.trans hp)
      have hb := hg.timer timer rfl hne
      rcases hg.moves with hm | hm
      · exact (hne hm).elim
      · exact ⟨hb, (hb ▸ hm).eq_revealing⟩
    · exact (hne hp).elim
  · refine hchain.imp_of_mem fun {t u} ht hu htu hts hus => ?_
    obtain ⟨-, hta⟩ := Progress.starts_room hts (hguar t ht)
    obtain ⟨hub, -⟩ := Progress.starts_room hus (hguar u hu)
    rw [show position roomCode t.after.world = _ from hta, show position roomCode u.before.world =
      _ from hub] at htu
    exact absurd htu (by decide)
  · refine hchain.imp_of_mem fun {t u} ht hu htu i hti hui => ?_
    have h := htu.trans (hrank u hu)
    rw [hti, hui] at h
    simp only [Position.rank] at h
    omega
  · refine hchain.imp_of_mem fun {t u} ht hu htu hti => ?_
    obtain ⟨hvt, hvu⟩ := And.intro (hvalid t ht).2 (hvalid u hu).2
    exact (Position.eq_of_rank_eq hvt hvu (le_antisymm (htu.trans (hrank u hu))
      (Position.rank_le_of_finished hvt hti hvu.index_le))).symm

lemma FollowsLifecycle.last {roomCode : String} {n : ℕ} {c : system.Config} {as : List system.Act}
    {a : system.Act} (h : FollowsLifecycle roomCode n (transitions c (as ++ [a]))) :
    position roomCode (step a (run as c)).world = position roomCode (run as c).world ∨
      Position.Next n (position roomCode (run as c).world)
        (position roomCode (step a (run as c)).world) :=
  h.steps _ (last_mem_transitions c as a)

end

section Sample

attribute [local instance] Runtime.ascii

/-- The timer of question 1 closes it. -/
def timedRun : List system.Act :=
  .spawn (Call.hostFrames "ABCDEF" "host" [.startGame]) :: runs 0 22 ++
    .spawn (Call.questionTimeout ⟨"ABCDEF", 1, 30000⟩) :: runs 1 3

theorem undisturbed_room_follows_lifecycle_timed :
    FollowsLifecycle "ABCDEF" 2 (transitions (start Sample.state) timedRun) :=
  undisturbed_room_follows_lifecycle "ABCDEF" Sample.quiz Sample.state
    ⟨Sample.session, by decide +kernel⟩ timedRun (by decide +kernel) (by decide +kernel)

/-- The timer of question 2 reads the running question; the host closes it and ends the game. -/
def staleRun : List system.Act :=
  .spawn (Call.hostFrames "ABCDEF" "host"
    [.startGame, .nextQuestion, .nextQuestion, .nextQuestion, .nextQuestion]) :: runs 0 47 ++
    .spawn (Call.questionTimeout ⟨"ABCDEF", 2, 30000⟩) :: runs 1 2 ++ runs 0 20

/-- The stale commit of the timer then reopens the finished room. -/
theorem stale_timer_breaks_lifecycle :
    Created "ABCDEF" Sample.quiz Sample.state ∧ (∀ a ∈ staleRun ++ [.run 1], Faithful a) ∧
      ¬FollowsLifecycle "ABCDEF" 2 (transitions (start Sample.state) (staleRun ++ [.run 1])) := by
  refine ⟨⟨Sample.session, by decide +kernel⟩, by decide +kernel, fun h => ?_⟩
  have hb : position "ABCDEF" (run staleRun (start Sample.state)).world = ⟨.finished, 2⟩ := by
    decide +kernel
  have ha : position "ABCDEF" (step (.run 1) (run staleRun (start Sample.state))).world =
      ⟨.revealing, 2⟩ := by
    decide +kernel
  have hstep := h.last
  rw [hb, ha] at hstep
  rcases hstep with h | h
  · exact absurd h (by decide)
  · cases h

end Sample

end Askit.Game
