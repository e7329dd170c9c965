import Askit.Game.Alone
import Askit.Game.Distribution
import Askit.Game.History
import Askit.Interleaving.Serial

/-! What a feed of answers shows, and what keeps it. -/

namespace Askit.Game

open Interleaving Machine Coro Tables

def Op.rests : {β : Type} → Op β → Bool
  | _, .receiveJson | _, .disconnected _ => true
  | _, _ => false

def Position.Shows (p : Position) : Prop := p.status = .question ∨ p.status = .revealing

structure Accepted where
  sessionId : UUID
  questionIndex : ℕ
  update : Option WSHostAnswerUpdate
  deriving DecidableEq, Repr

def updatesOf (sessionId : UUID) (index : ℕ) (accepted : List Accepted) :
    List (Option WSHostAnswerUpdate) :=
  (accepted.filter fun a => a.sessionId = sessionId ∧ a.questionIndex = index).map Accepted.update

/-- A room whose game has not been started yet. -/
structure Opened [Runtime] (roomCode : String) (g : GameSession) (s : State) : Prop where
  stored : s.db.sessions.get? roomCode = some g
  waiting : g.position = ⟨.waiting, 0⟩
  only : ∀ h ∈ s.db.sessions.rows, h.sessionId = g.sessionId → h.roomCode = roomCode
  unordered : ∀ room, Runtime.upper room = roomCode → s.redis.questions room = none
  unanswered : ∀ a ∈ s.db.answers.rows, ∃ p ∈ s.db.players.get? a.playerId,
    p.sessionId ≠ g.sessionId

section

variable [Runtime]

/-- What `handle_answer` accepts and builds, when the call is served in the state `s`. -/
def acceptedAnswer : Call → State → Option Accepted
  | .playerFrame roomCode playerId (.answer questionId answerIds), s =>
    match (submitAnswer roomCode playerId questionId answerIds).alone exec s with
    | (.ok result, t) => (s.db.room? (Runtime.upper roomCode)).map fun room =>
      ⟨room.session.sessionId, room.session.currentQuestionIndex,
        (t.db.room? (Runtime.upper roomCode)).bind (hostAnswerUpdate playerId answerIds result)⟩
    | _ => none
  | _, _ => none

/-- The state that is rebuilt for the host has exactly one entry for each of the answers that have
been accepted for the question, and it is the update that was built for that answer. -/
def RebuildsFeed (roomCode : String) (g : GameSession) (s : State) (accepted : List Accepted) :
    Prop :=
  ∃ state, ((buildRoomState roomCode true).alone exec s).1 = .ok (some state) ∧
    (state.hostAnswerDetails.map some).Perm (updatesOf g.sessionId g.currentQuestionIndex accepted)

instance (roomCode : String) (g : GameSession) (s : State) (accepted : List Accepted) :
    Decidable (RebuildsFeed roomCode g s accepted) :=
  match h : ((buildRoomState roomCode true).alone exec s).1 with
  | .ok (some state) => decidable_of_iff ((state.hostAnswerDetails.map some).Perm
      (updatesOf g.sessionId g.currentQuestionIndex accepted)) (by simp [RebuildsFeed, h])
  | .ok none => isFalse (by simp [RebuildsFeed, h])
  | .error _ => isFalse (by simp [RebuildsFeed, h])

namespace LiveFeed

section Details

omit [Runtime]

def detail (d : Db) (sessionId questionId : UUID) (a : GamePlayerAnswer) :
    Option WSHostAnswerUpdate :=
  if a.questionId = questionId then
    ((d.players.get? a.playerId).filter fun p => p.sessionId = sessionId).map fun p =>
      ⟨p.playerId, p.nickname, a.isCorrect, a.selectedAnswerIds, a.timeTakenMs, p.score⟩
  else none

def details (d : Db) (sessionId questionId : UUID) : List WSHostAnswerUpdate :=
  d.answers.rows.filterMap (detail d sessionId questionId)

def face (p : GamePlayer) : UUID × UUID × String × ℤ :=
    (p.playerId, p.sessionId, p.nickname, p.score)

variable {d e : Db} {sessionId questionId : UUID}

lemma detail_congr {a : GamePlayerAnswer}
    (h : (e.players.get? a.playerId).map face = (d.players.get? a.playerId).map face) :
    detail e sessionId questionId a = detail d sessionId questionId a := by
  unfold detail
  cases hd : d.players.get? a.playerId with
  | none =>
    rw [hd, Option.map_none, Option.map_eq_none_iff] at h
    rw [h]
  | some p =>
    rw [hd, Option.map_some, Option.map_eq_some_iff] at h
    obtain ⟨q, hq, hface⟩ := h
    simp only [face, Prod.mk.injEq] at hface
    obtain ⟨hid, hsession, hnickname, hscore⟩ := hface
    rw [hq, Option.filter_some, Option.filter_some, hsession]
    split
    · split
      · simp [hid, hnickname, hscore]
      · rfl
    · rfl

lemma details_congr (ha : e.answers = d.answers) (hp : ∀ a ∈ d.answers.rows,
    (e.players.get? a.playerId).map face = (d.players.get? a.playerId).map face) :
    details e sessionId questionId = details d sessionId questionId := by
  unfold details
  rw [ha]
  exact List.filterMap_congr fun a h => detail_congr (hp a h)

end Details

section Kept

def OfSession (d : Db) (sessionId : UUID) (a : GamePlayerAnswer) : Prop :=
  ∃ p ∈ d.players.get? a.playerId, p.sessionId = sessionId

variable (roomCode : String) (sessionId : UUID)

/-- Redis holds the order `ids` of the room's questions, under the spelling `room` of its code. -/
def Ordered (s : State) (room : String) (ids : List UUID) : Prop :=
  Runtime.upper room = roomCode ∧ s.redis.questions room = some ids

omit [Runtime] in
structure InOrder (l : List Accepted) (s : State) (ids : List UUID) : Prop where
  nodup : ids.Nodup
  exist : ∀ id ∈ ids, ∃ q, s.db.question? id = some q ∧ q.questionId = id
  asked : ∀ a ∈ s.db.answers.rows, OfSession s.db sessionId a →
    a.questionId ∈ ids.take (s.position roomCode).index
  shown : (s.position roomCode).Shows →
    1 ≤ (s.position roomCode).index ∧ (s.position roomCode).index ≤ ids.length
  feed : (s.position roomCode).Shows → ∀ q, ids[(s.position roomCode).index - 1]? = some q →
    ((details s.db sessionId q).map some).Perm (updatesOf sessionId (s.position roomCode).index l)

structure Kept (l : List Accepted) (s : State) : Prop where
  stored : ∃ g, s.db.sessions.get? roomCode = some g ∧ g.sessionId = sessionId
  only : ∀ g ∈ s.db.sessions.rows, g.sessionId = sessionId → g.roomCode = roomCode
  joined : ∀ a ∈ s.db.answers.rows, (s.db.players.get? a.playerId).isSome
  waiting : (s.position roomCode).status = .waiting → (s.position roomCode).index = 0 ∧
    (∀ room ids, ¬Ordered roomCode s room ids) ∧ ∀ a ∈ s.db.answers.rows,
      ¬OfSession s.db sessionId a
  one : ∀ room ids room' ids', Ordered roomCode s room ids →
    Ordered roomCode s room' ids' → room = room'
  order : ∀ room ids, Ordered roomCode s room ids → InOrder roomCode sessionId l s ids
  past : ∀ a ∈ l, a.sessionId = sessionId → a.questionIndex ≤ (s.position roomCode).index

variable {roomCode sessionId} {l : List Accepted} {s t : State}

omit [Runtime] in
lemma ofSession_congr {d e : Db} {a : GamePlayerAnswer}
    (h : (e.players.get? a.playerId).map face = (d.players.get? a.playerId).map face) :
    OfSession e sessionId a ↔ OfSession d sessionId a := by
  unfold OfSession
  cases hd : d.players.get? a.playerId with
  | none =>
    rw [hd, Option.map_none, Option.map_eq_none_iff] at h
    simp [h]
  | some p =>
    rw [hd, Option.map_some, Option.map_eq_some_iff] at h
    obtain ⟨q, hq, hface⟩ := h
    simp only [face, Prod.mk.injEq] at hface
    simp [hq, hface.2.1]

variable (roomCode) in
structure Same (s t : State) : Prop where
  stored : t.db.sessions.get? roomCode = s.db.sessions.get? roomCode
  only : ∀ g ∈ t.db.sessions.rows, ∃ h ∈ s.db.sessions.rows, h.roomCode = g.roomCode ∧
    h.sessionId = g.sessionId
  quizzes : t.db.quizzes = s.db.quizzes
  answers : t.db.answers = s.db.answers
  players : ∀ a ∈ s.db.answers.rows,
    (t.db.players.get? a.playerId).map face = (s.db.players.get? a.playerId).map face
  questions : ∀ room ids, Ordered roomCode t room ids → Ordered roomCode s room ids

lemma Same.position (h : Same roomCode s t) : t.position roomCode = s.position roomCode := by
  simp only [State.position, h.stored]

lemma InOrder.same {ids : List UUID} (hs : Same roomCode s t)
    (h : InOrder roomCode sessionId l s ids) : InOrder roomCode sessionId l t ids where
  nodup := h.nodup
  exist id hid := by simpa [Db.question?, hs.quizzes] using h.exist id hid
  asked a ha hof := by
    rw [hs.answers] at ha
    rw [hs.position]
    exact h.asked a ha ((ofSession_congr (hs.players a ha)).mp hof)
  shown := by simpa [hs.position] using h.shown
  feed := by simpa [hs.position, details_congr hs.answers hs.players] using h.feed

lemma Kept.same (hs : Same roomCode s t) (h : Kept roomCode sessionId l s) :
    Kept roomCode sessionId l t where
  stored := by simpa [hs.stored] using h.stored
  only g hg hsession := by
    obtain ⟨r, hr, hcode, hid⟩ := hs.only g hg
    exact hcode ▸ h.only r hr (hid.trans hsession)
  joined a ha := by
    rw [hs.answers] at ha
    have hsome := h.joined a ha
    have hmap := congrArg Option.isSome (hs.players a ha)
    simpa [hsome] using hmap
  waiting hw := by
    rw [hs.position] at hw ⊢
    obtain ⟨hi, ho, ha⟩ := h.waiting hw
    refine ⟨hi, fun room ids hr => ho room ids (hs.questions room ids hr), fun a ha' => ?_⟩
    rw [hs.answers] at ha'
    exact fun hof => ha a ha' ((ofSession_congr (hs.players a ha')).mp hof)
  one room ids room' ids' hr hr' := h.one room ids room' ids' (hs.questions _ _ hr)
    (hs.questions _ _ hr')
  order room ids hr := (h.order room ids (hs.questions room ids hr)).same hs
  past := by simpa [hs.position] using h.past

omit [Runtime] in
lemma exists_commit_session (d : Db) (g : Dirty GameSession) :
    ∃ e, d.commit { session := some g } = some e ∧
    e.sessions = d.flushSession (some g) ∧ e.quizzes = d.quizzes ∧ e.players = d.players ∧
    e.answers = d.answers := ⟨_, rfl, rfl, rfl, rfl, rfl⟩

variable (roomCode) in
/-- The steps of a session from the state `s`: to the next question of the order, or on with the one
it is at. -/
def Moves (s : State) (p : Position) : Prop :=
  (p.index = (s.position roomCode).index ∧ p.status ≠ .waiting ∧
    (p.Shows → (s.position roomCode).Shows)) ∨
  (p = ⟨.question, (s.position roomCode).index + 1⟩ ∧
    ∀ room ids, Ordered roomCode s room ids → (s.position roomCode).index < ids.length)

omit [Runtime] in
lemma updatesOf_eq_nil {sessionId : UUID} {index : ℕ} {l : List Accepted}
    (h : ∀ a ∈ l, a.sessionId = sessionId → a.questionIndex < index) :
    updatesOf sessionId index l = [] := by
  rw [updatesOf, List.map_eq_nil_iff, List.filter_eq_nil_iff]
  intro a ha hsame
  obtain ⟨hsession, hindex⟩ : a.sessionId = sessionId ∧ a.questionIndex = index := by
    simpa using hsame
  exact absurd hindex (Nat.ne_of_lt (h a ha hsession))

omit [Runtime] in
lemma ofSession_of_detail {d : Db} {questionId : UUID} {a : GamePlayerAnswer}
    {u : WSHostAnswerUpdate} (h : detail d sessionId questionId a = some u) :
    a.questionId = questionId ∧ OfSession d sessionId a := by
  unfold detail at h
  split at h
  · next hq =>
    obtain ⟨p, hp, -⟩ := Option.map_eq_some_iff.mp h
    obtain ⟨hrow, hsession⟩ := Option.filter_eq_some_iff.mp hp
    exact ⟨hq, p, hrow, by simpa using hsession⟩
  · cases h

omit [Runtime] in
lemma not_mem_take {ids : List UUID} (hn : ids.Nodup) {n : ℕ} {q : UUID} (hq : ids[n]? = some q) :
    q ∉ ids.take n := by
  intro hmem
  obtain ⟨i, hi, hqi⟩ := List.mem_take_iff_getElem.mp hmem
  obtain ⟨hlt, hqn⟩ := List.getElem?_eq_some_iff.mp hq
  have hin : i = n := hn.getElem_inj_iff.mp (hqi.trans hqn.symm)
  omega

omit [Runtime] in
lemma InOrder.details_next {ids : List UUID} (h : InOrder roomCode sessionId l s ids) {q : UUID}
    (hq : ids[(s.position roomCode).index]? = some q) : details s.db sessionId q = [] := by
  rw [details, List.filterMap_eq_nil_iff]
  intro a ha
  cases hd : detail s.db sessionId q a with
  | none => rfl
  | some u =>
    obtain ⟨rfl, hof⟩ := ofSession_of_detail hd
    exact absurd (h.asked a ha hof) (not_mem_take h.nodup hq)

lemma InOrder.moved {ids : List UUID} (h : InOrder roomCode sessionId l s ids)
    (hpast : ∀ a ∈ l, a.sessionId = sessionId → a.questionIndex ≤ (s.position roomCode).index)
    (hq : t.db.quizzes = s.db.quizzes) (hp : t.db.players = s.db.players)
    (ha : t.db.answers = s.db.answers) {room : String} (hr : Ordered roomCode s room ids)
    (hm : Moves roomCode s (t.position roomCode)) :
    InOrder roomCode sessionId l t ids := by
  have hdetails : ∀ q, details t.db sessionId q = details s.db sessionId q := fun q =>
    details_congr ha fun a _ => by rw [hp]
  have hexist : ∀ id ∈ ids, ∃ q, t.db.question? id = some q ∧ q.questionId = id := by
    simpa only [Db.question?, hq] using h.exist
  have hasked : ∀ a ∈ t.db.answers.rows, OfSession t.db sessionId a →
      a.questionId ∈ ids.take (s.position roomCode).index := by
    intro a hrow hof
    rw [ha] at hrow
    exact h.asked a hrow ((ofSession_congr (by rw [hp])).mp hof)
  rcases hm with ⟨hindex, -, hshows⟩ | ⟨hnext, hlong⟩
  · refine ⟨h.nodup, hexist, by rwa [hindex], fun hs => ?_, fun hs q hid => ?_⟩
    · rw [hindex]
      exact h.shown (hshows hs)
    · rw [hindex] at hid ⊢
      rw [hdetails]
      exact h.feed (hshows hs) q hid
  · have hlt := hlong room ids hr
    have hindex : (t.position roomCode).index = (s.position roomCode).index + 1 := by rw [hnext]
    refine ⟨h.nodup, hexist, fun a hrow hof => ?_, fun _ => ?_, fun _ q hid => ?_⟩
    · rw [hindex]
      exact (List.take_subset_take_left ids (Nat.le_succ _)) (hasked a hrow hof)
    · omega
    · rw [hindex, Nat.add_sub_cancel] at hid
      have hnil : updatesOf sessionId ((s.position roomCode).index + 1) l = [] :=
        updatesOf_eq_nil fun a hal hs => Nat.lt_succ_of_le (hpast a hal hs)
      rw [hdetails, h.details_next hid, hindex, hnil]
      exact .nil

lemma Kept.session (h : Kept roomCode sessionId l s) {g cur : GameSession}
    (hg : s.db.sessions.get? g.roomCode = some g) {e : Db}
    (he : s.db.commit { session := some ⟨g, cur⟩ } = some e)
    (hm : g.roomCode = roomCode → Moves roomCode s cur.position) :
    Kept roomCode sessionId l { s with db := e } := by
  obtain ⟨e', he', hsessions, hquizzes, hplayers, hanswers⟩ := exists_commit_session s.db ⟨g, cur⟩
  obtain rfl : e = e' := Option.some.inj (he.symm.trans he')
  have hrows : ∀ r ∈ e.sessions.rows, ∃ r' ∈ s.db.sessions.rows,
      r'.roomCode = r.roomCode ∧ r'.sessionId = r.sessionId := by
    intro r hr
    rw [hsessions, Db.flushSession, Table.rows_modify] at hr
    obtain ⟨r', hr', rfl⟩ := List.mem_map.mp hr
    exact ⟨r', hr', by split <;> exact ⟨rfl, rfl⟩⟩
  by_cases hroom : g.roomCode = roomCode
  · have hflushed : e.sessions.get? roomCode = some (GameSession.flush ⟨g, cur⟩ g) := by
      rw [hsessions, ← hroom]
      exact flushSession_get? (s := ⟨g, cur⟩) hg
    have hposition : State.position { s with db := e } roomCode = cur.position := by
      rw [State.position_eq hflushed, flush_of_current rfl]
    replace hm := hm hroom
    rw [← hposition] at hm
    have hindex : (s.position roomCode).index ≤
        (State.position { s with db := e } roomCode).index := by
      rcases hm with ⟨hindex, -, -⟩ | ⟨hnext, -⟩
      · exact hindex.ge
      · rw [hnext]
        exact Nat.le_succ _
    have hwaiting : (State.position { s with db := e } roomCode).status ≠ .waiting := by
      rcases hm with ⟨-, hstatus, -⟩ | ⟨hnext, -⟩
      · exact hstatus
      · rw [hnext]
        exact fun hw => by cases hw
    refine ⟨?_, ?_, ?_, fun hw => absurd hw hwaiting, h.one, fun room ids hr => ?_,
      fun a hal hs => ?_⟩
    · obtain ⟨r, hget, hr⟩ := h.stored
      refine ⟨GameSession.flush ⟨g, cur⟩ g, hflushed, ?_⟩
      obtain rfl : g = r := Option.some.inj (by rw [← hget, ← hroom, hg])
      exact hr
    · intro r hr hsession
      obtain ⟨r', hr', hcode, hid⟩ := hrows r hr
      exact hcode ▸ h.only r' hr' (hid.trans hsession)
    · simpa [hanswers, hplayers] using h.joined
    · exact (h.order room ids hr).moved h.past hquizzes hplayers hanswers hr hm
    · exact (h.past a hal hs).trans hindex
  · apply h.same
    refine ⟨?_, hrows, hquizzes, hanswers, fun a _ => by rw [hplayers], fun room ids hr => hr⟩
    rw [hsessions]
    apply flushSession_get?_of_ne
    rintro _ ⟨⟩
    exact hroom

/-- Of the session nothing has been asked or ordered yet, and `ids` are questions. -/
structure Unasked (roomCode : String) (sessionId : UUID) (s : State) (ids : List UUID) : Prop where
  position : s.position roomCode = ⟨.starting, 0⟩
  unordered : ∀ room ids, ¬Ordered roomCode s room ids
  unanswered : ∀ a ∈ s.db.answers.rows, ¬OfSession s.db sessionId a
  nodup : ids.Nodup
  exist : ∀ id ∈ ids, ∃ q, s.db.question? id = some q ∧ q.questionId = id

lemma Kept.ordered (h : Kept roomCode sessionId l s) {room : String} {ids : List UUID}
    (hroom : Runtime.upper room = roomCode → Unasked roomCode sessionId s ids) :
    Kept roomCode sessionId l { s with redis := s.redis.setQuestions room (some ids) } := by
  by_cases hup : Runtime.upper room = roomCode
  · have hun := hroom hup
    have hposition : State.position
        { s with redis := s.redis.setQuestions room (some ids) } roomCode =
        ⟨.starting, 0⟩ := hun.position
    have hordered : ∀ room' ids', Ordered roomCode
        { s with redis := s.redis.setQuestions room (some ids) } room' ids' →
        room' = room ∧ ids' = ids := by
      rintro room' ids' ⟨hup', hids'⟩
      by_cases heq : room' = room
      · subst heq
        exact ⟨rfl, by simpa [Redis.setQuestions] using hids'.symm⟩
      · refine absurd ⟨hup', ?_⟩ (hun.unordered room' ids')
        simpa [Redis.setQuestions, Function.update_of_ne heq] using hids'
    refine ⟨h.stored, h.only, h.joined, fun hw => ?_, fun _ _ _ _ hr hr' => ?_,
      fun room' ids' hr => ?_, h.past⟩
    · rw [hposition] at hw
      cases hw
    · exact (hordered _ _ hr).1.trans (hordered _ _ hr').1.symm
    · obtain ⟨rfl, rfl⟩ := hordered _ _ hr
      refine ⟨hun.nodup, hun.exist, fun a ha hof => absurd hof (hun.unanswered a ha), fun hs =>
        ?_, fun hs => ?_⟩
      all_goals
        rw [hposition] at hs
        rcases hs with hs | hs <;> cases hs
  · apply h.same
    refine ⟨rfl, fun g hg => ⟨g, hg, rfl, rfl⟩, rfl, rfl, fun _ _ => rfl, ?_⟩
    rintro room' ids' ⟨hup', hids'⟩
    refine ⟨hup', ?_⟩
    have hne : room' ≠ room := by
      rintro rfl
      exact hup hup'
    simpa [Redis.setQuestions, Function.update_of_ne hne] using hids'

end Kept

end LiveFeed

end

end Askit.Game
