import Askit.Game.Effects

/-! A room goes through its questions in order in every run in which no handler commits on a reading
of the session that has become stale. -/

namespace Askit.Game

open Interleaving Machine Coro Tables

/-- What a process takes the position of its room to be: what it has read first since its last
frame, or left behind with its last commit. -/
def sees (i : ℕ) (seen : Option Position) : Event Op Exn → Option Position
  | ⟨j, .receiveJson, _⟩ => if j = i then none else seen
  | ⟨j, .getRoom _, .ok (some room)⟩ =>
    if j = i then seen.or (some room.session.position) else seen
  | ⟨j, .commit ⟨some s, _, _, _, _⟩, .ok _⟩ => if j = i then some s.current.position else seen
  | _ => seen

def seen (i : ℕ) (history : List (Event Op Exn)) : Option Position := history.foldl (sees i) none

lemma seen_append (i : ℕ) (history : List (Event Op Exn)) (ev : Event Op Exn) :
    seen i (history ++ [ev]) = sees i (seen i history) ev := by
  simp [seen]

lemma sees_of_ne {i : ℕ} {ev : Event Op Exn} (h : ev.pid ≠ i) (seen : Option Position) :
    sees i seen ev = seen := by
  obtain ⟨j, o, r⟩ := ev
  have hj : j ≠ i := h
  cases o with
  | receiveJson => exact if_neg hj
  | getRoom roomCode =>
    rcases r with e | _ | room
    · rfl
    · rfl
    · exact if_neg hj
  | commit changes =>
    obtain ⟨_ | s, _, _, _, _⟩ := changes
    · rfl
    · rcases r with e | u
      · rfl
      · exact if_neg hj
  | _ => rfl

lemma seen_eq_none {i : ℕ} {history : List (Event Op Exn)} (h : ∀ ev ∈ history, ev.pid ≠ i) :
    seen i history = none := by
  induction history with
  | nil => rfl
  | cons ev history ih =>
    have hev : sees i none ev = none := sees_of_ne (h ev (by simp)) none
    rw [seen, List.foldl_cons, hev]
    exact ih fun e he => h e (by simp [he])

lemma sees_silent {i : ℕ} {p : Position} {β : Type} {o : Op β} (ho : o.Within .silent)
    (r : Except Exn β) : sees i (some p) ⟨i, o, r⟩ = some p := by
  cases o with
  | receiveJson => exact ho.elim
  | commit changes => exact ho.elim
  | getRoom roomCode =>
    rcases r with e | _ | room
    · rfl
    · rfl
    · exact if_pos rfl
  | _ => rfl

variable [Runtime]

/-- The commit of a session whose row still stands where the process takes it to stand, or which
leaves the row standing where it is; a start is never of the second kind. -/
def Op.Current (roomCode : String) (i : ℕ) (w : system.World) : {β : Type} → Op β → Prop
  | _, .commit changes => ∀ s ∈ changes.session, s.loaded.roomCode = roomCode →
      ∀ row ∈ w.state.db.sessions.get? roomCode, seen i w.history = some row.position ∨
        s.current.status ≠ .starting ∧ (GameSession.flush s row).position = row.position
  | _, _ => True

instance (roomCode : String) (i : ℕ) (w : system.World) {β : Type} (o : Op β) :
    Decidable (o.Current roomCode i w) := by
  induction o using Op.casesOn with
  | commit changes =>
    exact inferInstanceAs (Decidable (∀ s ∈ changes.session, s.loaded.roomCode = roomCode →
      ∀ row ∈ w.state.db.sessions.get? roomCode, seen i w.history = some row.position ∨
        s.current.status ≠ .starting ∧ (GameSession.flush s row).position = row.position))
  | _ => exact isTrue trivial

namespace Progress

/-- The stored order of the room's questions is complete. -/
def Ordered (roomCode : String) (quiz : Quiz) (w : system.World) : Prop :=
  ∃ ids, w.state.redis.questions roomCode = some ids ∧
    ids.Perm (quiz.questions.map QuizQuestion.questionId)

def Starts (roomCode : String) : Event Op Exn → Prop
  | ⟨_, .commit changes, .ok _⟩ => ∃ s ∈ changes.session,
      s.loaded.roomCode = roomCode ∧ s.current.status = .starting
  | _ => False

variable (roomCode : String) (quiz : Quiz)

structure Inv (w : system.World) : Prop where
  session : ∃ g, w.state.db.sessions.get? (Runtime.upper roomCode) = some g ∧ g.quizId = quiz.quizId
  stored : w.state.db.quizzes.table.get? quiz.quizId = some quiz
  valid : (position roomCode w).Valid quiz.questions.length
  ordered : 1 ≤ (position roomCode w).index → Ordered roomCode quiz w

structure Rely (i : ℕ) (v w : system.World) : Prop where
  seen : seen i w.history = seen i v.history
  rank : (position roomCode v).rank ≤ (position roomCode w).rank
  ordered : Ordered roomCode quiz v → Ordered roomCode quiz w

/-- What each step of the `i`-th process, which handles `call`, does to the room. -/
structure Guar (i : ℕ) (call : Call) (v w : system.World) : Prop where
  history : ∃ ev, ev.pid = i ∧ w.history = v.history ++ [ev] ∧
    (Starts (Runtime.upper roomCode) ev →
      position roomCode v = ⟨.waiting, 0⟩ ∧ position roomCode w = ⟨.starting, 0⟩)
  moves : position roomCode w = position roomCode v ∨
    Position.Next quiz.questions.length (position roomCode v) (position roomCode w)
  timer : ∀ timer, call = .questionTimeout timer → position roomCode w ≠ position roomCode v →
    position roomCode v = ⟨.question, timer.questionIndex⟩
  ordered : Ordered roomCode quiz v → Ordered roomCode quiz w

def contract (i : ℕ) (call : Call) : Contract system (Inv roomCode quiz) where
  rely := Rely roomCode quiz i
  guar := Guar roomCode quiz i call
  allowed o w := o.Current (Runtime.upper roomCode) i w
  faults _ _ := False
  refl _ := ⟨rfl, le_rfl, id⟩
  trans h₁ h₂ := ⟨h₂.seen.trans h₁.seen, h₁.rank.trans h₂.rank, fun h => h₂.ordered (h₁.ordered h)⟩

def discipline : Discipline system (Inv roomCode quiz) where
  contract := contract roomCode quiz
  post _ _ _ _ := True
  stable _ _ _ := fun _ _ => trivial

variable {roomCode quiz} {i : ℕ} {call : Call} {v w : system.World}

lemma faultless : (contract roomCode quiz i call).Faultless := fun _ _ => id

lemma Guar.rank (h : Guar roomCode quiz i call v w) :
    (position roomCode v).rank ≤ (position roomCode w).rank := by
  rcases h.moves with h | h
  · rw [h]
  · rw [h.rank_eq]
    exact Nat.le_succ _

lemma Guar.rely (h : Guar roomCode quiz i call v w) {j : ℕ} (hj : i ≠ j) :
    Rely roomCode quiz j v w := by
  refine ⟨?_, h.rank, h.ordered⟩
  obtain ⟨ev, hi, hw, -⟩ := h.history
  rw [hw, seen_append, sees_of_ne (hi.trans_ne hj)]

section Elsewhere

variable {β : Type} {o : Op β}

lemma position_perform (ho : o.Within (.elsewhere roomCode)) :
    position roomCode (w.perform i o).2 = position roomCode w :=
  exec_position_elsewhere ho w.state

lemma ordered_perform (ho : o.Within (.elsewhere roomCode)) (h : Ordered roomCode quiz w) :
    Ordered roomCode quiz (w.perform i o).2 := by
  obtain ⟨ids, hs, hp⟩ := h
  exact ⟨ids, (exec_questions_elsewhere ho w.state).trans hs, hp⟩

lemma inv_perform (ho : o.Within (.elsewhere roomCode)) (h : Inv roomCode quiz w) :
    Inv roomCode quiz (w.perform i o).2 where
  session := by
    obtain ⟨g, hg, hq⟩ := h.session
    exact ⟨g, (exec_session_elsewhere ho w.state).trans hg, hq⟩
  stored := (congrArg (fun q => q.table.get? quiz.quizId) (exec_quizzes o w.state)).trans h.stored
  valid := (position_perform ho).symm ▸ h.valid
  ordered hi := ordered_perform ho (h.ordered (position_perform ho ▸ hi))

lemma not_starts (ho : o.Within (.elsewhere roomCode)) (r : Except Exn β) :
    ¬Starts (Runtime.upper roomCode) ⟨i, o, r⟩ := by
  cases o with
  | commit changes =>
    cases r with
    | ok u =>
      rintro ⟨s, hs, hc, -⟩
      exact ho s hs hc
    | error e => exact id
  | _ => exact id

lemma guar_perform (ho : o.Within (.elsewhere roomCode)) :
    Guar roomCode quiz i call w (w.perform i o).2 where
  history := ⟨_, rfl, rfl, fun h => (not_starts ho _ h).elim⟩
  moves := .inl (position_perform ho)
  timer _ _ h := (h (position_perform ho)).elim
  ordered := ordered_perform ho

end Elsewhere

lemma ensures_elsewhere {α : Type} {x : Handler α} (hx : Keeps (.elsewhere roomCode) x) :
    (contract roomCode quiz i call).Ensures i (fun _ _ => True) x w :=
  .of_all (fun _ _ => trivial)
    (fun _ _ ho hi _ _ _ => ⟨inv_perform ho hi, guar_perform ho, trivial⟩)
    (fun _ _ _ _ _ _ _ => False.elim) hx trivial

lemma ensures_silent {α : Type} {x : Handler α} (hx : Keeps .silent x) :
    (contract roomCode quiz i call).Ensures i (fun _ _ => True) x w :=
  ensures_elsewhere (All.mono hx fun _ ho => silent_elsewhere ho roomCode)

lemma silent_bind {α β : Type} {Q : Except Exn β → system.World → Prop} {o : Op α}
    {f : α → Handler β} (ho : o.Within .silent)
    (hf : ∀ v a, Inv roomCode quiz v → (contract roomCode quiz i call).Ensures i Q (f a) v)
    (he : ∀ e v, Q (.error e) v) :
    (contract roomCode quiz i call).Ensures i Q (await o >>= f) w :=
  .perform_bind faultless fun _ _ hi _ _ =>
    have hi' := inv_perform (silent_elsewhere ho _) hi
    ⟨hi', guar_perform (silent_elsewhere ho _), fun a _ => hf _ a hi', fun e _ => he e _⟩

/-- The process takes the room to stand, or to have stood, at `p`. -/
structure Sees (roomCode : String) (i : ℕ) (p : Position) (w : system.World) : Prop where
  seen : seen i w.history = some p
  rank : p.rank ≤ (position roomCode w).rank

lemma Sees.rely {p : Position} (h : Sees roomCode i p v) (hr : Rely roomCode quiz i v w) :
    Sees roomCode i p w :=
  ⟨hr.seen.trans h.seen, h.rank.trans hr.rank⟩

lemma Rely.trans {u : system.World} (h₁ : Rely roomCode quiz i u v)
    (h₂ : Rely roomCode quiz i v w) :
    Rely roomCode quiz i u w :=
  (contract roomCode quiz i (.subscriber "")).trans h₁ h₂

variable {α β γ : Type} {Q : Except Exn β → system.World → Prop} {p : Position}

lemma Sees.silent {o : Op β} (ho : o.Within .silent) :
    (contract roomCode quiz i call).Silent i (Sees roomCode i p) o := by
  intro w hi h _
  have hw := silent_elsewhere ho roomCode
  refine ⟨inv_perform hw hi, guar_perform hw, ?_, ?_, ordered_perform hw⟩
  · rw [World.perform_history, seen_append, h.seen, sees_silent ho]
  · exact (congrArg Position.rank (position_perform hw)).ge

lemma Sees.ensures {x : Handler α} (h : Sees roomCode i p w) (hx : Keeps .silent x) :
    (contract roomCode quiz i call).Ensures i (fun _ v => Rely roomCode quiz i w v) x w :=
  .silent faultless Sees.rely (fun _ => Sees.silent) hx h

lemma Sees.read_bind {o : Op γ} {f : γ → Handler β} (h : Sees roomCode i p w)
    (ho : o.Within .silent)
    (hf : ∀ v a s, Rely roomCode quiz i w v → Inv roomCode quiz v → exec o s = (.ok a, v.state) →
      (contract roomCode quiz i call).Ensures i Q (f a) v)
    (he : ∀ e v, Q (.error e) v) :
    (contract roomCode quiz i call).Ensures i Q (await o >>= f) w :=
  .silent_bind faultless Sees.rely (Sees.silent ho) h hf fun e v _ _ _ => he e v

lemma Inv.room (h : Inv roomCode quiz w) {room : String}
    (hu : Runtime.upper room = Runtime.upper roomCode) :
    ∃ g players, w.state.db.sessions.get? (Runtime.upper roomCode) = some g ∧
      w.state.db.room? (Runtime.upper room) = some ⟨g, players, quiz.loaded⟩ := by
  obtain ⟨g, hg, hq⟩ := h.session
  exact ⟨g, _, hg, hu ▸ room?_eq hg (hq ▸ h.stored)⟩

/-- The process has loaded the row `g` since it saw the room at `p`. -/
structure Loaded (roomCode : String) (quiz : Quiz) (i : ℕ) (p : Position) (g : GameSession)
    (w : system.World) : Prop extends Sees roomCode i p w where
  key : g.roomCode = Runtime.upper roomCode
  valid : g.position.Valid quiz.questions.length
  lower : p.rank ≤ g.position.rank
  upper : g.position.rank ≤ (position roomCode w).rank

lemma Loaded.rely {g : GameSession} (h : Loaded roomCode quiz i p g v)
    (hr : Rely roomCode quiz i v w) : Loaded roomCode quiz i p g w :=
  ⟨h.toSees.rely hr, h.key, h.valid, h.lower, h.upper.trans hr.rank⟩

lemma Loaded.eq {g row : GameSession} (h : Loaded roomCode quiz i p g w) (hi : Inv roomCode quiz w)
    (hrow : w.state.db.sessions.get? (Runtime.upper roomCode) = some row)
    (hs : seen i w.history = some row.position) : row.position = p ∧ g.position = p := by
  have hp : p = row.position := Option.some.inj (h.seen.symm.trans hs)
  have hw : position roomCode w = row.position := position_eq hrow
  refine ⟨hp.symm, Position.eq_of_rank_eq h.valid (hp ▸ hw ▸ hi.valid) (le_antisymm ?_ h.lower)⟩
  exact hp ▸ hw ▸ h.upper

lemma Sees.getRoom_bind {room : String} (hu : Runtime.upper room = Runtime.upper roomCode)
    {f : Option Room → Handler β} (h : Sees roomCode i p w)
    (hf : ∀ v g players, Rely roomCode quiz i w v → Inv roomCode quiz v →
      Loaded roomCode quiz i p g v →
      v.state.db.sessions.get? (Runtime.upper roomCode) = some g →
      (contract roomCode quiz i call).Ensures i Q (f (some ⟨g, players, quiz.loaded⟩)) v)
    (he : ∀ e v, Q (.error e) v) :
    (contract roomCode quiz i call).Ensures i Q (await (.getRoom room) >>= f) w := by
  refine h.read_bind trivial (fun v a s hr hi hx => ?_) he
  obtain ⟨g, players, hg, hroom⟩ := hi.room hu
  obtain ⟨ha, rfl⟩ := Prod.mk.inj hx
  obtain rfl : some ⟨g, players, quiz.loaded⟩ = a := Except.ok.inj (hroom ▸ ha)
  have hp := position_eq hg
  exact hf v g players hr hi ⟨h.rely hr, Table.key_get? hg, hp ▸ hi.valid, hp ▸ (h.rely hr).rank,
    (congrArg Position.rank hp).ge⟩ hg

lemma first_getRoom_bind {room : String} (hu : Runtime.upper room = Runtime.upper roomCode)
    {f : Option Room → Handler β} (hb : seen i w.history = none)
    (hf : ∀ v g players, Inv roomCode quiz v → Loaded roomCode quiz i g.position g v →
      position roomCode v = g.position →
      (contract roomCode quiz i call).Ensures i Q (f (some ⟨g, players, quiz.loaded⟩)) v)
    (he : ∀ e v, Q (.error e) v) :
    (contract roomCode quiz i call).Ensures i Q (await (.getRoom room) >>= f) w := by
  refine .perform_bind faultless fun v hr hi _ _ => ⟨inv_perform (by exact trivial) hi,
    guar_perform (by exact trivial), fun a ha => ?_, fun e _ => he e _⟩
  obtain ⟨g, players, hg, hroom⟩ := hi.room hu
  have hx : (v.perform i (.getRoom room)).1 = .ok (some ⟨g, players, quiz.loaded⟩) :=
    congrArg Except.ok hroom
  obtain rfl : some ⟨g, players, quiz.loaded⟩ = a := Except.ok.inj (hx.symm.trans ha)
  have hp : position roomCode (v.perform i (.getRoom room)).2 = g.position := position_eq hg
  have hs : seen i (v.perform i (.getRoom room)).2.history = some g.position := by
    have hv : seen i v.history = none := hr.seen.trans hb
    have hx' : (system.exec (.getRoom room) v.state).1 = .ok (some ⟨g, players, quiz.loaded⟩) := hx
    rw [World.perform_history, seen_append, hv, hx']
    exact if_pos rfl
  refine hf _ g players (inv_perform (by exact trivial) hi) ?_ hp
  exact ⟨⟨hs, (congrArg Position.rank hp).ge⟩, Table.key_get? hg,
    position_eq hg ▸ hi.valid, le_rfl, (congrArg Position.rank hp).ge⟩

structure Fits (roomCode : String) (quiz : Quiz) (call : Call) (s : Dirty GameSession)
    (row : GameSession) (w : system.World) : Prop where
  moves : (GameSession.flush s row).position = row.position ∨
    Position.Next quiz.questions.length row.position (GameSession.flush s row).position
  starts : s.current.status = .starting →
    row.position = ⟨.waiting, 0⟩ ∧ (GameSession.flush s row).position = ⟨.starting, 0⟩
  timer : ∀ timer, call = .questionTimeout timer →
    (GameSession.flush s row).position ≠ row.position →
      row.position = ⟨.question, timer.questionIndex⟩
  ordered : 1 ≤ (GameSession.flush s row).position.index → Ordered roomCode quiz w

lemma Fits.valid {s : Dirty GameSession} {row : GameSession} (h : Fits roomCode quiz call s row w)
    (hi : Inv roomCode quiz w)
    (hrow : w.state.db.sessions.get? (Runtime.upper roomCode) = some row) :
    (GameSession.flush s row).position.Valid quiz.questions.length := by
  have hv : row.position.Valid quiz.questions.length := position_eq hrow ▸ hi.valid
  rcases h.moves with hm | hm
  · exact hm ▸ hv
  · exact hm.valid hv

lemma commit_ensures {s : Dirty GameSession} {Q : Except Exn Unit → system.World → Prop}
    (hk : s.loaded.roomCode = Runtime.upper roomCode)
    (h : ∀ v row, Rely roomCode quiz i w v → Inv roomCode quiz v →
      v.state.db.sessions.get? (Runtime.upper roomCode) = some row →
      (seen i v.history = some row.position ∨
        s.current.status ≠ .starting ∧ (GameSession.flush s row).position = row.position) →
      Fits roomCode quiz call s row v ∧ ∀ v', Inv roomCode quiz v' →
        seen i v'.history = some s.current.position →
        position roomCode v' = (GameSession.flush s row).position →
        (Ordered roomCode quiz v → Ordered roomCode quiz v') → Q (.ok ()) v') :
    (contract roomCode quiz i call).Ensures i Q (await (.commit { session := some s })) w := by
  refine .perform faultless fun v hr hi ha _ => ?_
  obtain ⟨row, hrow, hq⟩ := hi.session
  obtain ⟨hfit, hpost⟩ := h v row hr hi hrow (ha s rfl hk row hrow)
  set v' := (v.perform i (.commit { session := some s })).2 with hv'
  have hrow' : v'.state.db.sessions.get? (Runtime.upper roomCode) =
      some (GameSession.flush s row) := hk ▸ flushSession_get? (hk.symm ▸ hrow)
  have hp : position roomCode v = row.position := position_eq hrow
  have hp' : position roomCode v' = (GameSession.flush s row).position := position_eq hrow'
  have hi' : Inv roomCode quiz v' :=
    ⟨⟨_, hrow', hq⟩, hi.stored, hp' ▸ hfit.valid hi hrow, fun hx => hfit.ordered (hp' ▸ hx)⟩
  refine ⟨hi', ⟨⟨_, rfl, rfl, fun hst => ?_⟩, ?_, fun timer hc hne => ?_, id⟩,
    hpost v' hi' ?_ hp' id⟩
  · obtain ⟨t, ht, -, hs⟩ := hst
    cases ht
    rw [hp, hp']
    exact hfit.starts hs
  · rw [hp, hp']
    exact hfit.moves
  · rw [hp] at hne ⊢
    exact hfit.timer timer hc (hp' ▸ hne)
  · rw [hv', World.perform_history, seen_append]
    exact if_pos rfl

lemma Fits.still {s : Dirty GameSession} {row : GameSession} (hi : Inv roomCode quiz w)
    (hrow : w.state.db.sessions.get? (Runtime.upper roomCode) = some row)
    (hs : s.current.status ≠ .starting) (h : (GameSession.flush s row).position = row.position) :
    Fits roomCode quiz call s row w where
  moves := .inl h
  starts hc := (hs hc).elim
  timer _ _ hne := (hne h).elim
  ordered hx := hi.ordered (by rwa [position_eq hrow, ← h])

end Progress

end Askit.Game
