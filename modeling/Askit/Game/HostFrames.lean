import Askit.Game.HostRules

/-! What a frame of the host does to the position of its room. -/

namespace Askit.Game

open Interleaving Machine Coro Tables

section

variable [Runtime]

namespace HostLoop

variable (roomCode : String) (quiz : Quiz) (randomize : Bool)
variable {roomCode quiz randomize} {call : Call} {i : ℕ} {u v w : system.World}

/-- Between two frames of the host all the questions reached are announced. -/
structure Rest (roomCode : String) (w : system.World) : Prop where
  even : (announced roomCode w).length = (position roomCode w).index
  waiting : (position roomCode w).status = .waiting ↔ orders roomCode w = []
  zero : orders roomCode w = [] → (position roomCode w).index = 0

lemma Rest.frame (h : Rest roomCode v) (hf : Frame roomCode v w) : Rest roomCode w := by
  refine ⟨?_, ?_, ?_⟩
  · rw [hf.announced, hf.index, h.even]
  · rw [hf.orders, ← h.waiting]
    rcases hf.status with hs | ⟨hs, hi⟩
    · rw [hs]
    · have hw : (position roomCode v).status ≠ .waiting := by
        intro hw
        have := h.zero (h.waiting.mp hw)
        omega
      simp [hs, hw]
  · rw [hf.orders, hf.index]
    exact h.zero

structure AtEnd (roomCode : String) (quiz : Quiz) (w : system.World) :
    Prop extends Rest roomCode w where
  last : (position roomCode w).index = quiz.questions.length
  ordered : orders roomCode w ≠ []

lemma AtEnd.frame (h : AtEnd roomCode quiz v) (hf : Frame roomCode v w) : AtEnd roomCode quiz w :=
  ⟨h.toRest.frame hf, hf.index.trans h.last, hf.orders ▸ h.ordered⟩

/-- Question `k` comes next. -/
structure Ready (roomCode : String) (quiz : Quiz) (k : ℕ) (w : system.World) : Prop
    extends Rest roomCode w where
  ordered : orders roomCode w ≠ []
  next : k = (position roomCode w).index + 1
  status : (position roomCode w).status = .starting ∧ (position roomCode w).index = 0 ∨
    (position roomCode w).status = .revealing ∧ k ≤ quiz.questions.length

lemma Ready.frame {k : ℕ} (h : Ready roomCode quiz k v) (hf : Frame roomCode v w) :
    Ready roomCode quiz k w := by
  refine ⟨h.toRest.frame hf, hf.orders ▸ h.ordered, hf.index ▸ h.next, ?_⟩
  rcases hf.status with hs | ⟨hs, hi⟩
  · rw [hs, hf.index]
    exact h.status
  · refine .inr ⟨hs, ?_⟩
    rcases h.status with ⟨-, h0⟩ | ⟨-, hk⟩
    · omega
    · exact hk

/-- Question `k` is committed and not yet announced. -/
structure Pending (roomCode : String) (k : ℕ) (order : List UUID) (w : system.World) : Prop where
  behind : (announced roomCode w).length + 1 = k
  index : (position roomCode w).index = k
  ordered : orders roomCode w = [order]
  status : (position roomCode w).status ≠ .waiting

lemma Pending.frame {k : ℕ} {order : List UUID} (h : Pending roomCode k order v)
    (hf : Frame roomCode v w) : Pending roomCode k order w := by
  refine ⟨hf.announced ▸ h.behind, hf.index ▸ h.index, hf.orders ▸ h.ordered, ?_⟩
  rcases hf.status with hs | ⟨hs, -⟩
  · rw [hs]
    exact h.status
  · simp [hs]

section Host

variable {α β γ : Type} {Q : Except Exn β → system.World → Prop} (hh : call.Hosts roomCode)

include hh

lemma finish_ensures {g : GameSession} {endedAt : Option Time}
    (hk : g.roomCode = Runtime.upper roomCode) (h : AtEnd roomCode quiz w) :
    (contract roomCode quiz randomize call).Ensures i
      (fun r v => r = .ok () ∧ AtEnd roomCode quiz v)
      (await (.commit { session := some ⟨g,
        { g with status := .finished, endedAt := endedAt }⟩ })) w := by
  apply commit_ensures hk
  intro v row hr hi hrow
  have hp : position roomCode v = row.position := position_eq hrow
  have h' := h.frame (hr.frame hh)
  have hlast : row.position.index = quiz.questions.length := hp ▸ h'.last
  have hwait : row.position.status ≠ .waiting := by
    intro hw
    rw [← hp] at hw
    exact h'.ordered (h'.waiting.mp hw)
  have hf := flush_status_or g row .finished endedAt
  have hidx : (GameSession.flush ⟨g, { g with status := .finished, endedAt := endedAt }⟩
      row).position.index = row.position.index := by
    rcases hf with hf | hf <;> rw [hf]
  have hst : (GameSession.flush ⟨g, { g with status := .finished, endedAt := endedAt }⟩
      row).position.status ≠ .waiting := by
    rcases hf with hf | hf
    · rwa [hf]
    · simp [hf]
  refine ⟨⟨?_, .inl hidx, fun hn => (h'.ordered hn).elim, fun _ => ?_, fun hc => (hc hh).elim⟩,
    fun v' hp' ha ho => ⟨rfl, ⟨?_, ?_, fun hn => ?_⟩, ?_, ho ▸ h'.ordered⟩⟩
  · rcases hf with hf | hf
    · exact hf ▸ hp ▸ hi.valid
    · exact hf ▸ hlast
  · rw [h'.even, h'.last]
  · rw [ha, h'.even, hp', hidx, hp]
  · rw [hp', ho]
    simp [hst, h'.ordered]
  · exact (h'.ordered (ho ▸ hn)).elim
  · rw [hp', hidx, hlast]

lemma endGame_ensures (h : AtEnd roomCode quiz w) :
    (contract roomCode quiz randomize call).Ensures i (fun _ v => Rest roomCode v)
      (endGame roomCode) w := by
  apply getRoom_bind rfl
  intro v g players hr _ hg _
  have hv := h.frame (hr.frame hh)
  refine read_bind trivial (fun _ => ⟨_, rfl⟩) fun v₁ endedAt _ hr₁ _ _ => ?_
  refine .bind (finish_ensures hh (Table.key_get? hg) (hv.frame (hr₁.frame hh)))
    (fun _ v₂ hv₂ => ?_)
    fun _ _ hv₂ => hv₂.2.toRest
  refine .mono (ensures_offstage ?_) fun _ _ hr₃ => hv₂.2.toRest.frame (hr₃.frame hh)
  refine All.bind (buildGameFinished_keeps _) fun finished => ?_
  cases finished with
  | none => trivial
  | some f =>
    exact All.bind (announceFinished_keeps roomCode _ _) fun _ => (all_perform _).mpr trivial

lemma askQuestion_ensures {g : GameSession} {k : ℕ} (hk : g.roomCode = Runtime.upper roomCode)
    (hg : g.status ≠ .question) (hidx : g.currentQuestionIndex ≠ k) (hn : k ≤ quiz.questions.length)
    {order : List UUID} (ho : orders roomCode w = [order]) (h : Ready roomCode quiz k w) :
    (contract roomCode quiz randomize call).Ensures i
      (fun r v => r = .ok () ∧ Pending roomCode k order v)
      (await (.commit { session := some ⟨g,
        { g with status := .question, currentQuestionIndex := k }⟩ })) w := by
  apply commit_ensures hk
  intro v row hr hi hrow
  have hp : position roomCode v = row.position := position_eq hrow
  have h' := h.frame (hr.frame hh)
  have hf := @flush_ask g row k hg hidx
  have hnext := h'.next
  have heven := h'.even
  refine ⟨⟨hf ▸ ⟨by omega, hn⟩, .inr ?_, fun hno => (h'.ordered hno).elim, fun hfin => ?_,
    fun hc => (hc hh).elim⟩, fun v' hp' ha ho' =>
      ⟨rfl, ?_, ?_, ho'.trans ((hr.frame hh).orders.trans ho), ?_⟩⟩
  · rw [hf, ← hp]
    exact hnext
  · rw [hf] at hfin
    cases hfin
  · rw [ha, heven, ← hnext]
  · rw [hp', hf]
  · rw [hp', hf]
    exact nofun

/-- What `advance_to_question` hands over. -/
structure Advanced (roomCode : String) (quiz : Quiz) (k : ℕ) (question : Option QuizQuestion)
    (w : system.World) : Prop where
  none : question = none → AtEnd roomCode quiz w
  some : ∀ q, question = some q → ∃ order, Pending roomCode k order w ∧
    order[k - 1]? = some q.questionId

lemma advanceToQuestion_ensures {k : ℕ} (h : Ready roomCode quiz k w) :
    (contract roomCode quiz randomize call).Ensures i
      (fun r v => ∃ q, r = .ok q ∧ Advanced roomCode quiz k q v)
        (advanceToQuestion roomCode k) w := by
  apply getRoom_bind rfl
  intro v g players hr hi hg _
  have hv := h.frame (hr.frame hh)
  have hkey : g.roomCode = Runtime.upper roomCode := Table.key_get? hg
  have hgp : position roomCode v = g.position := position_eq hg
  refine read_bind trivial (fun _ => ⟨_, rfl⟩) fun v₁ ids s hr₁ hi₁ hx => ?_
  obtain ⟨hids, rfl⟩ := Prod.mk.inj hx
  have hv₁ := hv.frame (hr₁.frame hh)
  obtain ⟨order, horder⟩ : ∃ order, order ∈ orders roomCode v₁ :=
    List.exists_mem_of_ne_nil _ hv₁.ordered
  obtain ⟨hsingle, ⟨hperm, -⟩, hstored, -⟩ := hi₁.started order horder
  obtain rfl : some order = ids := hstored.symm.trans (Except.ok.inj hids)
  have hlen : order.length = quiz.questions.length := by simpa using hperm.length_eq
  refine read_bind trivial (fun _ => ⟨_, rfl⟩) fun v₂ _ _ hr₂ hi₂ _ => ?_
  have hv₂ := hv₁.frame (hr₂.frame hh)
  have hsingle₂ : orders roomCode v₂ = [order] := (hr₂.frame hh).orders.trans hsingle
  have hnext := hv₂.next
  refine .ite (fun hlt => ?_) fun hge => ?_
  · have hend : AtEnd roomCode quiz v₂ := by
      refine ⟨hv₂.toRest, ?_, hv₂.ordered⟩
      rcases hv₂.status with ⟨-, h0⟩ | ⟨-, hk⟩ <;> omega
    refine read_bind trivial (fun _ => ⟨_, rfl⟩) fun v₃ endedAt _ hr₃ _ _ => ?_
    refine .bind (finish_ensures hh hkey (hend.frame (hr₃.frame hh))) (fun _ v₄ hv₄ => ?_)
      fun e v₄ hv₄ => ?_
    · exact ⟨none, rfl, fun _ => hv₄.2, nofun⟩
    · cases hv₄.1
  · have hidx : g.currentQuestionIndex = (position roomCode v).index :=
      (congrArg Position.index hgp).symm
    have hst : g.status ≠ .question := by
      have hs : (position roomCode v).status = g.status := congrArg Position.status hgp
      rw [← hs]
      rcases hv.status with ⟨h', -⟩ | ⟨h', -⟩ <;> simp [h']
    have hne : g.currentQuestionIndex ≠ k := by
      have := hv.next
      omega
    refine .bind (askQuestion_ensures hh hkey hst hne (by omega) hsingle₂ hv₂)
      (fun _ v₃ hv₃ => ?_) fun e v₃ hv₃ => ?_
    · refine read_bind trivial (fun _ => ⟨_, rfl⟩) fun v₄ now _ hr₄ _ _ => ?_
      refine read_bind trivial (fun _ => ⟨_, rfl⟩) fun v₅ _ _ hr₅ _ _ => ?_
      obtain ⟨questionId, hid⟩ : ∃ questionId, order[k - 1]? = some questionId :=
        ⟨_, List.getElem?_eq_getElem (by omega)⟩
      rw [hid]
      apply Contract.Ensures.perform faultless
      intro v₆ hr₆ hi₆ _ _
      have hsilent : (contract roomCode quiz randomize call).Silent i (fun _ => True)
          (.getQuestion questionId) := silent trivial
      obtain ⟨hi₇, hg₇, hr₇⟩ := hsilent v₆ hi₆ trivial trivial
      obtain ⟨q, hq, rfl⟩ := exists_question (Table.mem_get? hi₆.stored)
        (hperm.mem_iff.mp (List.mem_of_getElem? hid))
      refine ⟨hi₇, hg₇, some q, congrArg Except.ok hq, nofun, ?_⟩
      rintro _ ⟨⟩
      have hframe := (((hr₄.frame hh).trans (hr₅.frame hh)).trans (hr₆.frame hh)).trans
        (hr₇.frame hh)
      exact ⟨order, hv₃.2.frame hframe, hid⟩
    · cases hv₃.1

omit hh in
lemma buildQuestionMessage_ensures {question : QuizQuestion} {k total : ℕ}
    {randomizeAnswers : Bool} :
    (contract roomCode quiz randomize call).Ensures i
      (fun r v => Rely roomCode call w v ∧ ∃ m, r = .ok m ∧ m.questionIndex = k ∧
        m.questionId = question.questionId)
      (buildQuestionMessage question k total roomCode randomizeAnswers) w := by
  refine read_bind trivial (fun _ => ⟨_, rfl⟩) fun v start _ hr _ _ => ?_
  cases start with
  | some start => exact ⟨hr, _, rfl, rfl, rfl⟩
  | none =>
    refine read_bind trivial (fun _ => ⟨_, rfl⟩) fun v₁ now _ hr₁ _ _ => ?_
    exact ⟨(contract roomCode quiz randomize call).trans hr hr₁, _, rfl, rfl, rfl⟩

omit [Runtime] hh in
lemma prefix_snoc {l order : List α} {a : α} (h : l <+: order) (ha : order[l.length]? = some a) :
    l ++ [a] <+: order := by
  have hl : l = order.take l.length := List.prefix_iff_eq_take.mp h
  have hs : order.take (l.length + 1) = l ++ [a] := by
    rw [List.take_add_one, ha, ← hl, Option.toList_some]
  rw [← hs]
  exact List.take_prefix _ _

lemma publish_ensures {k : ℕ} {order : List UUID} {m : WSQuestion} (h : Pending roomCode k order w)
    (hk : m.questionIndex = k) (hid : order[k - 1]? = some m.questionId) :
    (contract roomCode quiz randomize call).Ensures i (fun r v => r = .ok () ∧ Rest roomCode v)
      (await (.publish roomCode ⟨.question m, none⟩)) w := by
  apply Contract.Ensures.perform faultless
  intro v hr hi _ _
  set v' := (v.perform i (.publish roomCode ⟨.question m, none⟩)).2 with hv'
  have h' := h.frame (hr.frame hh)
  have hp : position roomCode v' = position roomCode v := rfl
  have hev : announcement (Runtime.upper roomCode)
      ⟨i, .publish roomCode ⟨.question m, none⟩, .ok ()⟩ = some (k, m.questionId) := by
    simp [announcement, hk]
  have hh' : v'.history = v.history ++ [⟨i, .publish roomCode ⟨.question m, none⟩, .ok ()⟩] := rfl
  have ha : announced roomCode v' = announced roomCode v ++ [(k, m.questionId)] := by
    simp [announced, hh', hev]
  have ho : orders roomCode v' = orders roomCode v := by simp [orders, hh', storedOrder]
  have hlen : (announced roomCode v').length = k := by
    rw [ha, List.length_append, List.length_singleton, h'.behind]
  obtain ⟨hsingle, hadm, hstored, hprefix⟩ := hi.started order (by simp [h'.ordered])
  have hpos : (announced roomCode v).length = k - 1 := by
    have := h'.behind
    omega
  have hprefix' : announced roomCode v' <+: numbered order := by
    rw [ha]
    apply prefix_snoc hprefix
    have hk1 : k - 1 + 1 = k := by
      have := h'.behind
      omega
    simp [numbered, hpos, hid, hk1]
  have hinv : Inv roomCode quiz randomize v' := by
    refine ⟨hi.session, hi.stored, hi.valid, fun hn => ?_, fun order' horder' => ?_, fun hfin => ?_⟩
    · rw [ho, h'.ordered] at hn
      cases hn
    · rw [ho, h'.ordered, List.mem_singleton] at horder'
      subst horder'
      exact ⟨ho.trans hsingle, hadm, hstored, hprefix'⟩
    · have hfin' := hi.finished (hp ▸ hfin)
      have hlast := hi.valid.index_le
      have := h'.index
      omega
  refine ⟨hinv, ⟨.inl rfl, fun hc => (hc hh).elim⟩, rfl, hlen.trans h'.index.symm, ?_, fun hn => ?_⟩
  · rw [ho, h'.ordered]
    exact iff_of_false h'.status (by simp)
  · rw [ho, h'.ordered] at hn
    cases hn

lemma sendQuestion_ensures {k total : ℕ} (h : Ready roomCode quiz k w) :
    (contract roomCode quiz randomize call).Ensures i (fun _ v => Rest roomCode v)
      (sendQuestion roomCode k total) w := by
  refine .bind (advanceToQuestion_ensures hh h) (fun question v hv => ?_) fun e v hv => ?_
  · obtain ⟨q, hq, hadv⟩ := hv
    cases hq
    cases question with
    | none => exact endGame_ensures hh (hadv.none rfl)
    | some question =>
      obtain ⟨order, hpend, hid⟩ := hadv.some question rfl
      refine read_bind trivial (fun _ => ⟨_, rfl⟩) fun v₁ room _ hr₁ _ _ => ?_
      refine .bind buildQuestionMessage_ensures (fun m v₂ hv₂ => ?_) fun e v₂ hv₂ => ?_
      · obtain ⟨hr₂, m', hm, hk, hqid⟩ := hv₂
        cases hm
        have hpend₂ := (hpend.frame (hr₁.frame hh)).frame (hr₂.frame hh)
        refine .bind (S := fun _ v => Rest roomCode v) ?_ (fun _ v₃ hv₃ => ?_) fun _ _ hv₃ => hv₃
        · refine .tryCatch (publish_ensures hh hpend₂ hk (hqid ▸ hid)) (fun _ _ h => h.2)
            fun e v₃ h => ?_
          cases h.1
        · have harm : Keeps (.offstage roomCode)
              (await (.createTask ⟨roomCode, k, question.timeLimit⟩)) := (all_perform _).mpr trivial
          exact .mono (ensures_offstage harm) fun _ _ hr₃ => hv₃.frame (hr₃.frame hh)
      · obtain ⟨-, m', hm, -⟩ := hv₂
        cases hm
  · obtain ⟨q, hq, -⟩ := hv
    cases hq

lemma handleNextQuestion_ensures (h : Rest roomCode w) :
    (contract roomCode quiz randomize call).Ensures i (fun _ v => Rest roomCode v)
      (handleNextQuestion roomCode) w := by
  apply getRoom_bind rfl
  intro v g players hr hi hg _
  have hv := h.frame (hr.frame hh)
  have hgp : position roomCode v = g.position := position_eq hg
  have hlen : quiz.loaded.questions.length = quiz.questions.length :=
    (sortByPosition_perm quiz.questions).length_eq
  refine .ite (fun hst => ?_) fun _ => .ite (fun _ => hv) fun hst => ?_
  · have hg1 : 1 ≤ (position roomCode v).index := by
      have hp : position roomCode v = ⟨.question, g.currentQuestionIndex⟩ :=
        hgp.trans (congrArg (Position.mk · _) hst)
      have := hi.valid
      rw [hp] at this ⊢
      exact this.1
    refine .bind (.returns (getCurrentQuestion_returns roomCode)
      (ensures_offstage (getCurrentQuestion_keeps roomCode))) (fun a v₁ hv₁ => ?_) fun _ v₁ hv₁ =>
        hv.frame (hv₁.1.frame hh)
    obtain ⟨hr₁, ha⟩ := hv₁
    obtain ⟨refreshed, question⟩ := a
    have hkey : (refreshed.getD ⟨g, players, quiz.loaded⟩).session.roomCode =
        Runtime.upper roomCode := by
      cases refreshed with
      | none => exact Table.key_get? hg
      | some room => exact ha _ rfl room rfl
    have hrest := hv.frame (hr₁.frame hh)
    cases question with
    | none => exact hrest
    | some question =>
      refine .bind (S := fun _ v => Rest roomCode v)
        (closeQuestion_ensures hkey (hg1.trans hr₁.index) ?_)
        (fun _ v₂ hv₂ => ?_) fun _ _ hv₂ => hv₂
      · intro u u' hu hidx hst' ha ho
        have hu' := hrest.frame (hu.frame hh)
        have hpos : 1 ≤ (position roomCode u).index := (hg1.trans hr₁.index).trans hu.index
        refine ⟨ha ▸ hidx ▸ hu'.even, iff_of_false hst' fun hn => ?_, fun hn => ?_⟩
        · have := hu'.zero (ho ▸ hn)
          omega
        · have := hu'.zero (ho ▸ hn)
          omega
      · refine .mono (ensures_offstage (All.mono ?_ fun _ ho => silent_offstage ho roomCode))
          fun _ _ hr₃ => hv₂.frame (hr₃.frame hh)
        exact All.bind (buildQuestionEnded_keeps _ _ _) fun ⟨_, _⟩ =>
          broadcastToRoom_keeps _ (by trivial) none
  · have hp : position roomCode v = ⟨.revealing, g.currentQuestionIndex⟩ :=
      hgp.trans (congrArg (Position.mk · _) (not_not.mp hst))
    have hvalid := hi.valid
    rw [hp] at hvalid
    have hord : orders roomCode v ≠ [] := by
      intro hn
      have h0 : g.currentQuestionIndex = 0 := (congrArg Position.index hp).symm.trans (hv.zero hn)
      have h1 : 1 ≤ g.currentQuestionIndex := hvalid.1
      omega
    refine .ite (fun hlt => ?_) fun hge => ?_
    · have hlt' : quiz.questions.length < g.currentQuestionIndex + 1 := hlen ▸ hlt
      apply endGame_ensures hh
      refine ⟨hv, ?_, hord⟩
      rw [hp]
      exact le_antisymm hvalid.2 (Nat.le_of_lt_succ hlt')
    · have hge' : ¬quiz.questions.length < g.currentQuestionIndex + 1 := hlen ▸ hge
      apply sendQuestion_ensures hh
      refine ⟨hv, hord, by rw [hp], .inr ⟨by rw [hp], Nat.le_of_not_lt hge'⟩⟩

structure Starting (roomCode : String) (status : GameSessionStatus) (w : system.World) : Prop where
  status : (position roomCode w).status = status
  index : (position roomCode w).index = 0
  orders : orders roomCode w = []
  announced : announced roomCode w = []

omit hh in
lemma Starting.frame {status : GameSessionStatus} (h : Starting roomCode status v)
    (hf : Frame roomCode v w) : Starting roomCode status w := by
  refine ⟨?_, hf.index.trans h.index, hf.orders.trans h.orders, hf.announced.trans h.announced⟩
  rcases hf.status with hs | ⟨-, hi⟩
  · exact hs.trans h.status
  · rw [h.index] at hi
    exact absurd hi (by decide)

omit hh in
lemma questionOrder_ensures {g : GameSession} {players : List GamePlayer}
    (hg : g.randomizeQuestions = randomize) :
    (contract roomCode quiz randomize call).Ensures i
      (fun r v => Rely roomCode call w v ∧ ∃ questions, r = .ok questions ∧
        Admissible quiz randomize (questions.map QuizQuestion.questionId))
      (questionOrder ⟨g, players, quiz.loaded⟩) w := by
  have hp := sortByPosition_perm quiz.questions
  subst hg
  refine .ite (fun hrand => ?_) fun hrand => ?_
  · apply Contract.Ensures.perform faultless
    intro v hr hi _ _
    have hsilent : (contract roomCode quiz g.randomizeQuestions call).Silent i (fun _ => True)
        (.shuffle quiz.loaded.questions) := silent trivial
    obtain ⟨hi', hg', hr'⟩ := hsilent v hi trivial trivial
    refine ⟨hi', hg', (contract roomCode quiz g.randomizeQuestions call).trans hr hr', _, rfl,
      ((Runtime.shuffle_perm _ _).trans hp).map _, fun hfalse => ?_⟩
    rw [hfalse] at hrand
    cases hrand
  · refine ⟨.of_frame (.refl w), _, rfl, ((sortByPosition_perm _).trans hp).map _, fun _ => ?_⟩
    exact congrArg (List.map QuizQuestion.questionId) (sortByPosition_idem quiz.questions)

lemma startCommit_ensures {g : GameSession} {startedAt : Option Time}
    (hk : g.roomCode = Runtime.upper roomCode) (hg : g.status = .waiting)
    (h : Starting roomCode .waiting w) :
    (contract roomCode quiz randomize call).Ensures i
      (fun r v => r = .ok () ∧ Starting roomCode .starting v)
      (await (.commit { session := some ⟨g,
        { g with status := .starting, startedAt := startedAt }⟩ })) w := by
  apply commit_ensures hk
  intro v row hr hi hrow
  have hp : position roomCode v = row.position := position_eq hrow
  have h' := h.frame (hr.frame hh)
  have hidx : row.position.index = 0 := hp ▸ h'.index
  have hf : (GameSession.flush ⟨g, { g with status := .starting, startedAt := startedAt }⟩
      row).position = ⟨.starting, row.position.index⟩ := by
    simp [GameSession.position, GameSession.flush, changed, hg]
  refine ⟨⟨hf ▸ hidx, .inl (by rw [hf]), fun _ => by rw [hf, hidx], fun hfin => ?_,
    fun hc => (hc hh).elim⟩, fun v' hp' ha ho => ⟨rfl, ?_, ?_, ho.trans h'.orders,
      ha.trans h'.announced⟩⟩
  · rw [hf] at hfin
    cases hfin
  · rw [hp', hf]
  · rw [hp', hf, hidx]

lemma storeOrder_ensures {ids : List UUID} {ex : ℕ} (hadm : Admissible quiz randomize ids)
    (h : Starting roomCode .starting w) :
    (contract roomCode quiz randomize call).Ensures i
      (fun r v => r = .ok () ∧ Ready roomCode quiz 1 v)
      (await (.setQuestions roomCode ids ex)) w := by
  apply Contract.Ensures.perform faultless
  intro v hr hi _ _
  set v' := (v.perform i (.setQuestions roomCode ids ex)).2 with hv'
  have h' := h.frame (hr.frame hh)
  have hp : position roomCode v' = position roomCode v := rfl
  have hist : v'.history = v.history ++ [⟨i, .setQuestions roomCode ids ex, .ok ()⟩] := rfl
  have ha : announced roomCode v' = [] := by
    simpa [announced, hist, announcement] using h'.announced
  have hev : storedOrder (Runtime.upper roomCode) ⟨i, .setQuestions roomCode ids ex,
      .ok ()⟩ = some ids :=
    if_pos rfl
  have hsingle : orders roomCode v' = [ids] := by
    have := h'.orders
    simp only [orders] at this
    simp [orders, hist, hev, this]
  have hq : v'.state.redis.questions roomCode = some ids := Function.update_self _ _ _
  have hinv : Inv roomCode quiz randomize v' := by
    refine ⟨hi.session, hi.stored, hi.valid, fun hn => ?_, fun order horder => ?_, fun hfin => ?_⟩
    · rw [hsingle] at hn
      cases hn
    · rw [hsingle, List.mem_singleton] at horder
      subst horder
      exact ⟨hsingle, hadm, hq, ha ▸ List.nil_prefix⟩
    · rw [hp, h'.status] at hfin
      cases hfin
  refine ⟨hinv, ⟨.inl rfl, fun hc => (hc hh).elim⟩, rfl, ⟨?_, ?_, fun hn => ?_⟩, ?_, ?_, ?_⟩
  · rw [ha, hp, h'.index]
    rfl
  · rw [hp, h'.status, hsingle]
    exact iff_of_false (by decide) (by simp)
  · rw [hsingle] at hn
    cases hn
  · simp [hsingle]
  · rw [hp, h'.index]
  · rw [hp]
    exact .inl ⟨h'.status, h'.index⟩

lemma startGame_ensures {hostId : UUID} (h : Rest roomCode w) :
    (contract roomCode quiz randomize call).Ensures i
      (fun r v => (∀ questions, r = .ok questions → Ready roomCode quiz 1 v) ∧ Rest roomCode v)
      (startGame roomCode hostId) w := by
  apply getRoom_bind rfl
  intro v g players hr hi hg hrand
  have hv := h.frame (hr.frame hh)
  have hgp : position roomCode v = g.position := position_eq hg
  refine .require (fun _ => .require (fun hst => ?_) fun _ => ⟨nofun, hv⟩) fun _ => ⟨nofun, hv⟩
  have hst' : (position roomCode v).status = .waiting := (congrArg Position.status hgp).trans hst
  have hord := hv.waiting.mp hst'
  have hwait : Starting roomCode .waiting v :=
    ⟨hst', hv.zero hord, hord, (hi.unstarted hord).2⟩
  have hraise : ∀ e : Exn, ∀ questions : List QuizQuestion, Except.error e ≠ .ok questions := nofun
  refine .bind (questionOrder_ensures hrand) (fun questions v₁ hv₁ => ?_) fun e v₁ hv₁ => ?_
  · obtain ⟨hr₁, questions', hq, hadm⟩ := hv₁
    cases hq
    have hwait₁ := hwait.frame (hr₁.frame hh)
    refine read_bind trivial (fun _ => ⟨_, rfl⟩) fun v₂ startedAt _ hr₂ _ _ => ?_
    refine .bind (startCommit_ensures hh (Table.key_get? hg) hst (hwait₁.frame (hr₂.frame hh)))
      (fun _ v₃ hv₃ => ?_) fun e v₃ hv₃ => by cases hv₃.1
    refine .bind (storeOrder_ensures hh hadm hv₃.2) (fun _ v₄ hv₄ => ?_)
      fun e v₄ hv₄ => by cases hv₄.1
    exact ⟨fun _ _ => hv₄.2, hv₄.2.toRest⟩
  · obtain ⟨-, questions', hq, -⟩ := hv₁
    cases hq

lemma handleStartGame_ensures {hostId : UUID} (h : Rest roomCode w) :
    (contract roomCode quiz randomize call).Ensures i (fun _ v => Rest roomCode v)
      (handleStartGame roomCode hostId) w := by
  refine .bind (startGame_ensures hh h) (fun questions v hv => ?_) fun _ _ hv => hv.2
  have hready := hv.1 questions rfl
  have hcount : Keeps .silent ([3000, 2000, 1000].forM fun ms => do
      broadcastToRoom roomCode (.gameStarting ms questions.length) none
      await (.sleep 1000)) :=
    All.forM fun ms _ => All.bind (broadcastToRoom_keeps roomCode (by trivial) _) fun _ =>
      (all_perform _).mpr trivial
  refine .bind (ensures_offstage (All.mono hcount fun _ ho => silent_offstage ho roomCode))
    (fun _ v₁ hr₁ => ?_) fun _ _ hr₁ => hready.toRest.frame (hr₁.frame hh)
  exact sendQuestion_ensures hh (hready.frame (hr₁.frame hh))

lemma hostFrames_ensures {hostId : UUID} (frames : List ClientMessage) (h : Rest roomCode w) :
    (contract roomCode quiz randomize call).Ensures i (fun _ v => Rest roomCode v)
      (hostFrames roomCode hostId frames) w := by
  induction frames generalizing w with
  | nil => exact h
  | cons data frames ih =>
    refine .bind (S := fun _ v => Rest roomCode v) ?_ (fun _ v hv => ih hv) fun _ _ hv => hv
    have hreceive : (contract roomCode quiz randomize call).Silent i (fun _ => True) .receiveJson :=
      silent trivial
    refine .silent_bind faultless (fun _ _ => trivial) hreceive trivial (fun v _ _ hr _ _ => ?_)
      fun _ v _ hr _ => h.frame (hr.frame hh)
    have hv := h.frame (hr.frame hh)
    have hreport : ∀ u, Rest roomCode u → (contract roomCode quiz randomize call).Ensures i
        (fun _ v => Rest roomCode v) (sendToHost roomCode handlerError) u := by
      intro u hu
      exact .mono (ensures_offstage (sendToHost_keeps _ _)) fun _ _ hr => hu.frame (hr.frame hh)
    refine .tryCatch (S := fun _ v => Rest roomCode v) ?_ (fun _ _ h => h)
      fun _ u hu => hreport u hu
    cases data with
    | startGame => exact handleStartGame_ensures hh hv
    | nextQuestion => exact handleNextQuestion_ensures hh hv
    | answer questionId answerIds => exact hv
    | malformed => exact hv

end Host

lemma announced_congr (hh : w.history = v.history) : announced roomCode w = announced roomCode v :=
  congrArg (List.filterMap _) hh

lemma orders_congr (hh : w.history = v.history) : orders roomCode w = orders roomCode v :=
  congrArg (List.filterMap _) hh

lemma Frame.of_eq (hd : w.state.db = v.state.db) (hr : w.state.redis = v.state.redis)
    (hh : w.history = v.history) : Frame roomCode v w := by
  have hp : position roomCode w = position roomCode v := State.position_congr hd _
  exact ⟨announced_congr hh, orders_congr hh, by rw [hr], by rw [hp], .inl (by rw [hp])⟩

lemma Inv.of_eq (h : Inv roomCode quiz randomize v) (hd : w.state.db = v.state.db)
    (hr : w.state.redis = v.state.redis) (hh : w.history = v.history) :
    Inv roomCode quiz randomize w := by
  have hp : position roomCode w = position roomCode v := State.position_congr hd _
  have hf : Frame roomCode v w := .of_eq hd hr hh
  refine ⟨hd ▸ h.session, hd ▸ h.stored, hp ▸ h.valid, ?_, ?_, ?_⟩
  · rw [hp, hf.announced, hf.orders]
    exact h.unstarted
  · rw [hf.announced, hf.orders, hr]
    exact h.started
  · rw [hp, hf.announced]
    exact h.finished

end HostLoop

end

end Askit.Game
