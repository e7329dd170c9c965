import Askit.Game.HostReads

/-! What the reads of a room say about its position. -/

namespace Askit.Game

open Interleaving Machine Coro Tables

section

variable [Runtime]

namespace HostTurns

variable (roomCode : String)
variable {roomCode} {room : String} {i : ℕ} {call : Call} {l l' l'' : List (Event Op Exn)}
    {α β γ : Type}
variable {resets : Event Op Exn → Bool}

section World

variable {w : system.World}

def reads (roomCode : String) (history : List (Event Op Exn)) : List Room :=
  history.filterMap (roomRead roomCode)

lemma reads_append (history : List (Event Op Exn)) (ev : Event Op Exn) :
    reads roomCode (history ++ [ev]) = reads roomCode history ++ (roomRead roomCode ev).toList := by
  cases hr : roomRead roomCode ev <;> simp [reads, hr]

structure Facts (roomCode : String) (w : system.World) : Prop where
  session : (w.state.db.sessions.get? (Runtime.upper roomCode)).isSome
  waiting : (position roomCode w).status = .waiting →
    (position roomCode w).index = 0 ∧ orders roomCode w = []
  started : ∀ ev ∈ w.history, starts roomCode ev = true → (position roomCode w).status ≠ .waiting
  asked : (position roomCode w).index ≠ 0 → orders roomCode w ≠ []
  single : (orders roomCode w).length ≤ 1
  stored : ∀ room ids, Runtime.upper room = Runtime.upper roomCode →
    w.state.redis.questions room = some ids → ids ∈ orders roomCode w
  read : ∀ ev ∈ w.history, ∀ ids, orderRead roomCode ev = some ids → ids ∈ orders roomCode w
  past : ∀ r ∈ reads roomCode w.history,
    r.session.currentQuestionIndex ≤ (position roomCode w).index
  ascending : (reads roomCode w.history).Pairwise fun r r' =>
    r.session.currentQuestionIndex ≤ r'.session.currentQuestionIndex

lemma roomRead_perform {o : Op β} {r : Room}
    (h : roomRead roomCode ⟨i, o, (exec o w.state).1⟩ = some r) :
    r.session.position = position roomCode w := by
  cases o with
  | getRoom room =>
    simp only [roomRead, exec] at h
    split at h
    · rename_i hu
      rw [hu] at h
      simp only [Db.room?, Option.bind_eq_some_iff, Option.map_eq_some_iff] at h
      obtain ⟨g, hg, q, -, rfl⟩ := h
      exact (position_eq hg).symm
    · cases h
  | _ => cases h

lemma orderRead_perform {o : Op β} {ids : List UUID}
    (h : orderRead roomCode ⟨i, o, (exec o w.state).1⟩ = some ids) :
    ∃ room, Runtime.upper room = Runtime.upper roomCode ∧ w.state.redis.questions room =
      some ids := by
  cases o with
  | getQuestions room =>
    simp only [orderRead, exec] at h
    split at h
    · exact ⟨room, ‹_›, h⟩
    · cases h
  | _ => cases h

lemma Facts.reads_append (h : Facts roomCode w) {ev : Event Op Exn}
    (hev : ∀ r, roomRead roomCode ev = some r → r.session.position = position roomCode w) {n : ℕ}
    (hn : (position roomCode w).index ≤ n) :
    (∀ r ∈ reads roomCode (w.history ++ [ev]), r.session.currentQuestionIndex ≤ n) ∧
      (reads roomCode (w.history ++ [ev])).Pairwise fun r r' =>
        r.session.currentQuestionIndex ≤ r'.session.currentQuestionIndex := by
  have hnew : ∀ r, roomRead roomCode ev = some r →
      r.session.currentQuestionIndex = (position roomCode w).index :=
    fun r hr => congrArg Position.index (hev r hr)
  rw [HostTurns.reads_append]
  constructor
  · intro r hr
    rcases List.mem_append.mp hr with hr | hr
    · exact (h.past r hr).trans hn
    · rw [hnew r (by simpa using hr)]
      exact hn
  · refine List.pairwise_append.mpr ⟨h.ascending, ?_, ?_⟩
    · cases roomRead roomCode ev <;> simp
    · intro r hr r' hr'
      rw [hnew r' (by simpa using hr')]
      exact h.past r hr

lemma Facts.rest {v : system.World} (h : Facts roomCode w) {ev : Event Op Exn}
    (hh : v.history = w.history ++ [ev]) (hp : position roomCode v = position roomCode w)
    (hs : (v.state.db.sessions.get? (Runtime.upper roomCode)).isSome)
    (hq : v.state.redis.questions = w.state.redis.questions)
    (ho : storedOrder (Runtime.upper roomCode) ev = none)
    (hstart : starts roomCode ev = true → (position roomCode w).status ≠ .waiting)
    (horder : ∀ ids, orderRead roomCode ev = some ids → ids ∈ orders roomCode w)
    (hev : ∀ r, roomRead roomCode ev = some r → r.session.position = position roomCode w) :
    Facts roomCode v := by
  have horders : orders roomCode v = orders roomCode w := by simp [orders, hh, ho]
  obtain ⟨hpast, hasc⟩ := h.reads_append hev le_rfl
  constructor
  · exact hs
  · rw [hp, horders]
    exact h.waiting
  · intro e he hst
    rw [hh] at he
    rw [hp]
    rcases List.mem_append.mp he with he | he
    · exact h.started e he hst
    · rw [List.mem_singleton.mp he] at hst
      exact hstart hst
  · rw [hp, horders]
    exact h.asked
  · rw [horders]
    exact h.single
  · rw [hq, horders]
    exact h.stored
  · intro e he ids hids
    rw [hh] at he
    rw [horders]
    rcases List.mem_append.mp he with he | he
    · exact h.read e he ids hids
    · rw [List.mem_singleton.mp he] at hids
      exact horder ids hids
  · rw [hh, hp]
    exact hpast
  · rw [hh]
    exact hasc

lemma Facts.fail (h : Facts roomCode w) (o : Op β) (e : Exn) : Facts roomCode (w.fail i o e) := by
  apply h.rest (World.fail_history w i o e) rfl h.session rfl
  · cases o <;> rfl
  · intro hs
    cases o <;> cases hs
  · intro ids hids
    cases o <;> cases hids
  · intro r hr
    cases o <;> cases hr

lemma quiet_elsewhere {o : Op β} (ho : o.Within quiet) (room : String) :
    o.Within (.elsewhere room) := by
  cases o with
  | commit | setQuestions => exact ho.elim
  | publish _ e => cases e with | mk message excluded => cases message <;> trivial
  | _ => trivial

lemma Facts.quiet (h : Facts roomCode w) {o : Op β} (ho : o.Within quiet) :
    Facts roomCode (w.perform i o).2 := by
  apply h.rest (World.perform_history w i o) (exec_position_elsewhere (quiet_elsewhere ho _) _)
    (exec_sessions_isSome o h.session)
  · exact funext fun room => exec_questions_elsewhere (quiet_elsewhere ho room) _
  · cases o with
    | setQuestions => exact ho.elim
    | _ => rfl
  · intro hst
    cases o with
    | commit => exact ho.elim
    | _ => cases hst
  · intro ids hids
    obtain ⟨room, hu, hq⟩ := orderRead_perform hids
    exact h.stored room ids hu hq
  · exact fun r hr => roomRead_perform hr

lemma Facts.store (h : Facts roomCode w) {ids : List UUID} {ex : ℕ}
    (hs : Runtime.upper room = Runtime.upper roomCode →
      orders roomCode w = [] ∧ (position roomCode w).status ≠ .waiting) :
    Facts roomCode (w.perform i (.setQuestions room ids ex)).2 := by
  set v := (w.perform i (.setQuestions room ids ex)).2 with hv
  have hq : v.state.redis.questions = Function.update w.state.redis.questions room (some ids) := rfl
  have hh : v.history = w.history ++ [⟨i, .setQuestions room ids ex, .ok ()⟩] := rfl
  have hreads : reads roomCode v.history = reads roomCode w.history := by
    simp [reads, hh, roomRead]
  have hread : ∀ ev ∈ v.history, ∀ ids, orderRead roomCode ev = some ids →
      ids ∈ orders roomCode w := by
    intro ev hev ids' hids
    rw [hh] at hev
    rcases List.mem_append.mp hev with hev | hev
    · exact h.read ev hev ids' hids
    · cases List.mem_singleton.mp hev
      cases hids
  have hstart : ∀ ev ∈ v.history, starts roomCode ev = true → (position roomCode w).status ≠
      .waiting := by
    intro ev hev hst
    rw [hh] at hev
    rcases List.mem_append.mp hev with hev | hev
    · exact h.started ev hev hst
    · cases List.mem_singleton.mp hev
      cases hst
  by_cases hu : Runtime.upper room = Runtime.upper roomCode
  · obtain ⟨hnil, hw⟩ := hs hu
    have horders : orders roomCode v = [ids] := by
      have happ : orders roomCode v = orders roomCode w ++ [ids] := by
        simp [orders, hh, storedOrder, hu]
      rw [happ, hnil, List.nil_append]
    refine ⟨h.session, fun hwait => (hw hwait).elim, hstart, ?_, ?_, ?_, ?_, ?_, ?_⟩
    · simp [horders]
    · simp [horders]
    · intro room' ids' hu' hids'
      rw [hq] at hids'
      rw [horders]
      by_cases hr : room' = room
      · subst hr
        simpa using hids'.symm
      · rw [Function.update_of_ne hr] at hids'
        exact absurd (h.stored room' ids' hu' hids') (by simp [hnil])
    · intro ev hev ids' hids'
      exact absurd (hread ev hev ids' hids') (by simp [hnil])
    · rw [hreads]
      exact h.past
    · rw [hreads]
      exact h.ascending
  · have horders : orders roomCode v = orders roomCode w := by
      simp [orders, hh, storedOrder, hu]
    refine ⟨h.session, ?_, hstart, ?_, ?_, ?_, ?_, ?_, ?_⟩
    · rw [horders]
      exact h.waiting
    · rw [horders]
      exact h.asked
    · rw [horders]
      exact h.single
    · intro room' ids' hu' hids'
      rw [hq, Function.update_of_ne (by rintro rfl; exact hu hu')] at hids'
      rw [horders]
      exact h.stored room' ids' hu' hids'
    · rw [horders]
      exact hread
    · rw [hreads]
      exact h.past
    · rw [hreads]
      exact h.ascending

def Advances (roomCode : String) (changes : Changes) (w : system.World) : Prop :=
  ∀ s ∈ changes.session, s.loaded.roomCode = Runtime.upper roomCode → s.current.status ≠ .waiting ∧
    (s.current.currentQuestionIndex = s.loaded.currentQuestionIndex ∨
      s.current.currentQuestionIndex = (position roomCode w).index + 1 ∧ orders roomCode w ≠ [])

lemma commit_position {changes : Changes} {e : Db}
    (hs : (w.state.db.sessions.get? (Runtime.upper roomCode)).isSome)
    (hc : w.state.db.commit changes = some e) {v : system.World} (hv : v.state.db = e) :
    (position roomCode v = position roomCode w ∧
        ∀ s ∈ changes.session, s.loaded.roomCode ≠ Runtime.upper roomCode) ∨
      ∃ s, changes.session = some s ∧ s.loaded.roomCode = Runtime.upper roomCode ∧
        position roomCode v =
          ⟨changed s.loaded.status s.current.status (position roomCode w).status,
            changed s.loaded.currentQuestionIndex s.current.currentQuestionIndex
              (position roomCode w).index⟩ := by
  obtain ⟨row, hrow⟩ := Option.isSome_iff_exists.mp hs
  have hse : v.state.db.sessions = w.state.db.flushSession changes.session := by
    rw [hv]
    exact (commit_eq_some hc).2
  by_cases h : ∀ s ∈ changes.session, s.loaded.roomCode ≠ Runtime.upper roomCode
  · left
    refine ⟨?_, h⟩
    rw [position_eq hrow, position_eq]
    rw [hse, flushSession_get?_of_ne h]
    exact hrow
  · right
    push Not at h
    obtain ⟨s, hs, hk⟩ := h
    refine ⟨s, hs, hk, ?_⟩
    rw [position_eq hrow]
    apply position_eq (g := GameSession.flush s row)
    rw [hse, Option.mem_def.mp hs, ← hk]
    exact flushSession_get? (hk.symm ▸ hrow)

lemma Advances.waiting {changes : Changes} {s : Dirty GameSession}
    (ha : Advances roomCode changes w) (hs : changes.session = some s)
    (hk : s.loaded.roomCode = Runtime.upper roomCode)
    (hw : changed s.loaded.status s.current.status (position roomCode w).status = .waiting) :
    (position roomCode w).status = .waiting := by
  rw [changed] at hw
  split at hw
  · exact hw
  · exact ((ha s hs hk).1 hw).elim

lemma perform_commit_none {changes : Changes} (h : w.state.db.commit changes = none) :
    (w.perform i (.commit changes)).2 = w.fail i (.commit changes) .integrityError := by
  change (⟨(exec (.commit changes) w.state).2,
    w.history ++ [⟨i, .commit changes, (exec (.commit changes) w.state).1⟩]⟩ : system.World) = _
  rw [exec_commit_none h]
  rfl

lemma perform_commit_some {changes : Changes} {e : Db} (h : w.state.db.commit changes = some e) :
    (w.perform i (.commit changes)).2 =
      ⟨{ w.state with db := e }, w.history ++ [⟨i, .commit changes, .ok ()⟩]⟩ := by
  change (⟨(exec (.commit changes) w.state).2,
    w.history ++ [⟨i, .commit changes, (exec (.commit changes) w.state).1⟩]⟩ : system.World) = _
  rw [exec_commit_some h]

lemma Facts.commit (h : Facts roomCode w) {changes : Changes} (ha : Advances roomCode changes w) :
    Facts roomCode (w.perform i (.commit changes)).2 := by
  cases hc : w.state.db.commit changes with
  | none =>
    rw [perform_commit_none hc]
    exact h.fail _ _
  | some e =>
    have hse : ((w.perform i (.commit changes)).2.state.db.sessions.get?
        (Runtime.upper roomCode)).isSome := exec_sessions_isSome _ h.session
    rw [perform_commit_some hc] at hse ⊢
    set v : system.World := ⟨{ w.state with db := e }, w.history ++ [⟨i, .commit changes, .ok ()⟩]⟩
    rcases commit_position h.session hc (v := v) rfl with ⟨hp, hne⟩ | ⟨s, hs, hk, hp⟩
    · apply h.rest rfl hp hse rfl rfl
      · intro hst
        simp only [starts, Option.any_eq_true, decide_eq_true_eq] at hst
        obtain ⟨s, hs, hk, -⟩ := hst
        exact (hne s hs hk).elim
      · simp [orderRead]
      · simp [roomRead]
    · have horders : orders roomCode v = orders roomCode w := by
        simp [orders, v, storedOrder]
      obtain ⟨hcur, hidx⟩ := ha s hs hk
      have hwait : (position roomCode v).status = .waiting → (position roomCode w).status =
          .waiting := by
        rw [hp]
        exact ha.waiting hs hk
      have hle : (position roomCode w).index ≤ (position roomCode v).index ∧
          ((position roomCode v).index ≠ (position roomCode w).index → orders roomCode w ≠ []) := by
        rw [hp]
        simp only [changed]
        split_ifs with heq
        · simp
        · rcases hidx with hidx | ⟨hidx, ho⟩
          · exact (heq hidx).elim
          · exact ⟨by omega, fun _ => ho⟩
      have hunread : ∀ r, roomRead roomCode ⟨i, .commit changes, .ok ()⟩ = some r →
          r.session.position = position roomCode w := by simp [roomRead]
      obtain ⟨hpast, hasc⟩ := h.reads_append hunread hle.1
      refine ⟨hse, ?_, ?_, ?_, ?_, ?_, ?_, hpast, hasc⟩
      · intro hw
        obtain ⟨hz, ho⟩ := h.waiting (hwait hw)
        have heq : (position roomCode v).index = (position roomCode w).index :=
          not_not.mp fun hne => hle.2 hne ho
        rw [horders, heq]
        exact ⟨hz, ho⟩
      · intro ev hev hst hw
        rcases List.mem_append.mp hev with hev | hev
        · exact h.started ev hev hst (hwait hw)
        · rw [List.mem_singleton.mp hev] at hst
          simp only [starts, Option.any_eq_true, decide_eq_true_eq] at hst
          obtain ⟨s', hs', -, hl, hc'⟩ := hst
          obtain rfl : s = s' := Option.some.inj (hs.symm.trans hs')
          rw [hp] at hw
          simp [changed, hl, hcur] at hw
      · intro hne
        rw [horders]
        by_cases heq : (position roomCode v).index = (position roomCode w).index
        · exact h.asked (heq ▸ hne)
        · exact hle.2 heq
      · rw [horders]
        exact h.single
      · rw [horders]
        exact h.stored
      · intro ev hev ids hids
        rw [horders]
        rcases List.mem_append.mp hev with hev | hev
        · exact h.read ev hev ids hids
        · rw [List.mem_singleton.mp hev] at hids
          cases hids

/-- What the host who is handling a frame has read is how the room still stands. -/
structure Fresh (roomCode : String) (w : system.World) (l : List (Event Op Exn)) : Prop where
  index : ∀ r ∈ since roomCode moves l,
    r.session.currentQuestionIndex = (position roomCode w).index ∧
      (r.session.status = .waiting → r.session.currentQuestionIndex = 0)
  order : ∀ r ∈ since roomCode stores l, r.session.status = .waiting → orders roomCode w = []

lemma fresh_nil : Fresh roomCode w [] :=
    ⟨fun r hr => by simp [since] at hr, fun r hr => by simp [since] at hr⟩

lemma Fresh.congr {v : system.World} (h : Fresh roomCode w l)
    (hi : (position roomCode v).index = (position roomCode w).index)
    (ho : orders roomCode v = orders roomCode w) : Fresh roomCode v l := by
  constructor
  · rw [hi]
    exact h.index
  · rw [ho]
    exact h.order

lemma Fresh.append {v : system.World} {ev : Event Op Exn} (h : Fresh roomCode w l)
    (hf : Facts roomCode w)
    (hi : moves ev = false → (position roomCode v).index = (position roomCode w).index)
    (ho : stores ev = false → orders roomCode v = orders roomCode w)
    (hev : ∀ r, roomRead roomCode ev = some r → r.session.position = position roomCode w) :
    Fresh roomCode v (l ++ [ev]) := by
  have hnew : ∀ r, roomRead roomCode ev = some r →
      r.session.currentQuestionIndex = (position roomCode w).index ∧
        (r.session.status = .waiting → (position roomCode w).status = .waiting) := by
    intro r hr
    exact ⟨congrArg Position.index (hev r hr), fun hw => hev r hr ▸ hw⟩
  constructor
  · intro r hr
    rw [since_append] at hr
    cases hm : moves ev with
    | true => simp [hm] at hr
    | false =>
      rw [hi hm]
      simp only [hm, Bool.false_eq_true, if_false, List.mem_append, Option.mem_toList] at hr
      rcases hr with hr | hr
      · exact h.index r hr
      · obtain ⟨hidx, hw⟩ := hnew r hr
        exact ⟨hidx, fun hwait => hidx.trans (hf.waiting (hw hwait)).1⟩
  · intro r hr hwait
    rw [since_append] at hr
    cases hs : stores ev with
    | true => simp [hs] at hr
    | false =>
      rw [ho hs]
      simp only [hs, Bool.false_eq_true, if_false, List.mem_append, Option.mem_toList] at hr
      rcases hr with hr | hr
      · exact h.order r hr hwait
      · exact (hf.waiting ((hnew r hr).2 hwait)).2

end World

end HostTurns

end

end Askit.Game
