import Askit.Game.AnsweredSets

/-! Whoever is turned away as having answered has answered, on record, a question that was current
during the call. -/

namespace Askit.Game

open Interleaving Machine Coro Tables

section

variable [Runtime]

namespace FastPath

open HostTurns
variable (roomCode : String)
variable {roomCode} {room : String} {playerId : UUID} {i : ℕ} {l l' : List (Event Op Exn)}
variable {α β γ : Type}

section Run

variable {c : system.Config} {w v : system.World}

lemma roomRead_step {a : system.Act} {ev : Event Op Exn} {r : Room}
    (hs : (Machine.step a c).world.history = c.world.history ++ [ev])
    (hr : roomRead roomCode ev = some r) :
    r.session.position = position roomCode c.world ∧ ev.pid < c.procs.length := by
  have hm := step_moves a c
  generalize Machine.step a c = d at hm hs
  cases hm with
  | idle | spawn | env => simp at hs
  | run i call o k pending ready =>
    obtain rfl : _ = ev := by simpa using hs
    exact ⟨roomRead_perform hr, (List.getElem?_eq_some_iff.mp pending).1⟩
  | fault i e call o k pending =>
    obtain rfl : _ = ev := by simpa using hs
    cases o <;> cases hr

lemma mem_reads {history : List (Event Op Exn)} {r : Room} :
    r ∈ reads roomCode history ↔ ∃ ev ∈ history, roomRead roomCode ev = some r := by
  simp [reads]

lemma before_of_lt {before after : List (Event Op Exn)} {ev ev' : Event Op Exn} {r r' : Room}
    (hasc : (reads roomCode (before ++ ev :: after)).Pairwise fun r r' =>
      r.session.currentQuestionIndex ≤ r'.session.currentQuestionIndex)
    (hr : roomRead roomCode ev = some r) (hev' : ev' ∈ before ++ ev :: after)
    (hr' : roomRead roomCode ev' = some r')
    (hlt : r'.session.currentQuestionIndex < r.session.currentQuestionIndex) : ev' ∈ before := by
  rcases List.mem_append.mp hev' with h | h
  · exact h
  · rcases List.mem_cons.mp h with rfl | h
    · rw [hr] at hr'
      cases hr'
      exact (Nat.lt_irrefl _ hlt).elim
    · have hsplit : reads roomCode (before ++ ev :: after) =
          reads roomCode before ++ r :: reads roomCode after := by
        simp [reads, hr]
      rw [hsplit] at hasc
      have hle := (List.pairwise_cons.mp (List.pairwise_append.mp hasc).2.1).1 r'
        (mem_reads.mpr ⟨ev', h, hr'⟩)
      omega

lemma exists_moment {s : State} {acts : List system.Act}
    (hall : ∀ t ∈ transitions (start s) acts, Turns roomCode t.before)
    (hlast : Turns roomCode (Machine.run acts (start s))) {r : Room}
    (hm : Meanwhile roomCode i r (Machine.run acts (start s)).world.history) :
    ∃ as, as <+: acts ∧ i < (Machine.run as (start s)).procs.length ∧
      Turns roomCode (Machine.run as (start s)) ∧
      r.session.position = position roomCode (Machine.run as (start s)).world := by
  obtain ⟨ev, hev, hread, hi⟩ : ∃ ev ∈ (Machine.run acts (start s)).world.history,
      roomRead roomCode ev = some r ∧ (ev.pid = i ∨
        ∃ first ∈ reads roomCode (own i (Machine.run acts (start s)).world.history),
          first.session.currentQuestionIndex < r.session.currentQuestionIndex) := by
    rcases hm with hm | ⟨hm, hfirst⟩
    · obtain ⟨ev, hev, hread⟩ := mem_reads.mp hm
      exact ⟨ev, (mem_own.mp hev).1, hread, .inl (mem_own.mp hev).2⟩
    · obtain ⟨ev, hev, hread⟩ := mem_reads.mp hm
      exact ⟨ev, hev, hread, .inr hfirst⟩
  obtain ⟨before, after, hsplit⟩ := List.append_of_mem hev
  obtain ⟨as, a, hpre, hbefore, hstep⟩ := exists_step_of_history (M := system)
    (c := start s) rfl hsplit
  obtain ⟨bs, rfl⟩ := hpre
  have hturns : Turns roomCode (Machine.run as (start s)) := by
    apply hall ⟨Machine.run as (start s), a⟩
    rw [transitions_append]
    exact List.mem_append_left _ (last_mem_transitions _ as a)
  obtain ⟨hpos, hpid⟩ := roomRead_step (hbefore.symm ▸ hstep) hread
  refine ⟨as, ⟨a :: bs, by simp⟩, ?_, hturns, hpos⟩
  rcases hi with rfl | ⟨first, hfirst, hlt⟩
  · exact hpid
  · obtain ⟨ev', hev', hread'⟩ := mem_reads.mp hfirst
    obtain ⟨hmem, hpid'⟩ := mem_own.mp hev'
    have hasc := hlast.facts.ascending
    rw [hsplit] at hasc hmem
    have hin := before_of_lt hasc hread hmem hread' hlt
    rw [← hbefore] at hin
    exact hpid' ▸ hturns.labelled ev' hin

lemma orders_grow {u : system.World} (h : u.history <+: w.history) (hu : orders roomCode u ≠ [])
    (hw : (orders roomCode w).length ≤ 1) {ids : List UUID} (hids : ids ∈ orders roomCode w) :
    orders roomCode u = [ids] := by
  obtain ⟨l, hl⟩ := h
  rw [orders, ← hl, List.filterMap_append] at hw hids
  change (orders roomCode u ++ l.filterMap (storedOrder (Runtime.upper roomCode))).length ≤ 1 at hw
  change ids ∈ orders roomCode u ++ l.filterMap (storedOrder (Runtime.upper roomCode)) at hids
  generalize l.filterMap (storedOrder (Runtime.upper roomCode)) = rest at hw hids
  rcases hu' : orders roomCode u with _ | ⟨x, _ | ⟨y, _⟩⟩
  · exact (hu hu').elim
  · rw [hu', List.length_append, List.length_singleton] at hw
    obtain rfl : rest = [] := List.eq_nil_of_length_eq_zero (by omega)
    rw [hu', List.append_nil, List.mem_singleton] at hids
    rw [hids]
  · rw [hu'] at hw
    simp at hw

lemma Sound.turnedAway (h : Sound roomCode c) (hr : TurnedAway roomCode playerId c.procs[i]?) :
    ∃ room data, Runtime.upper room = Runtime.upper roomCode ∧
      c.calls[i]? = some (.playerFrame room playerId data) ∧ ∃ ev ∈ own i c.world.history,
      rejects ev := by
  cases hp : c.procs[i]? with
  | none =>
    rw [hp] at hr
    exact hr.elim
  | some p =>
    obtain ⟨call, rest⟩ := p
    rw [hp] at hr
    cases call with
    | playerFrame room q data =>
      cases rest with
      | done r => exact hr.elim
      | await o k =>
        obtain ⟨hu, rfl, ho⟩ := hr
        refine ⟨room, data, hu, getElem?_calls hp, ?_⟩
        have hruled := (h.traced.rest i _ hp (.error .failure) nofun).1 room q data rfl hu
        cases o with
        | log entry =>
          cases entry with
          | answerIgnored reason _ => cases reason <;> first | exact hruled | exact ho.elim
          | answerSubmitted => exact ho.elim
        | _ => exact ho.elim
    | _ => exact hr.elim

end Run

end FastPath

open FastPath in
/-- Host frames are handled one after another and submissions in any way, calls may fail, and Redis
may lose keys. -/
theorem rejected_answer_is_recorded (roomCode : String) (quiz : Quiz) (s : State)
    (hs : Created roomCode quiz s)
    (hredis : ∀ room, Runtime.upper room = Runtime.upper roomCode →
      s.redis.questions room = none ∧ ∀ index, s.redis.answered room index = [])
    (acts : List system.Act) (hf : ∀ a ∈ acts, ForeignFaults a)
    (ht : ∀ t ∈ transitions (start s) acts, FramesInTurn roomCode t)
    (i : ℕ) (playerId : UUID)
    (raised : TurnedAway roomCode playerId (run acts (start s)).procs[i]?) :
    ∃ questionId, ((State.db (run acts (start s)).world.state).answers.get?
      (playerId, questionId)).isSome ∧
      ∃ as, as <+: acts ∧ i < (run as (start s)).procs.length ∧
        Current roomCode (run as (start s)).world questionId := by
  obtain ⟨hall, hsound⟩ := invariant (I := Sound roomCode)
    (P := fun t => ForeignFaults t.act ∧ FramesInTurn roomCode t) (fun t hP h => h.step hP.1 hP.2)
    (sound_start hs (fun room hu => (hredis room hu).1) fun room index hu =>
      (hredis room hu).2 index)
    acts (fun t h => ⟨hf _ (act_mem h), ht t h⟩)
  obtain ⟨room, data, hu, hcall, ev, hev, hrej⟩ := hsound.turnedAway raised
  obtain ⟨hmem, rfl⟩ := mem_own.mp hev
  obtain ⟨r, hm, hz, ids, hids, questionId, hq, hrec⟩ :=
    hsound.kept.rejected ev hmem hrej room playerId data hcall hu
  refine ⟨questionId, hrec, ?_⟩
  obtain ⟨as, ⟨bs, hacts⟩, hi, hturns, hpos⟩ :=
    exists_moment (fun t h => (hall t h).1.turns) hsound.turns hm
  have hidx : r.session.currentQuestionIndex = (position roomCode (run as (start s)).world).index :=
    congrArg Position.index hpos
  have hgrow : (run as (start s)).world.history <+: (run acts (start s)).world.history := by
    rw [← hacts, run_append]
    exact history_prefix_run bs _
  refine ⟨as, ⟨bs, hacts⟩, hi, hidx ▸ hz, ids, ?_, hidx ▸ hq⟩
  exact orders_grow hgrow (hturns.facts.asked (hidx ▸ hz)) hsound.turns.facts.single hids

end

section Sample

attribute [local instance] Runtime.ascii

/-- Two sockets of one player submit at once, and the slower one commits last. -/
def racedAnswers : List system.Act :=
  .spawn (Call.hostFrames "ABCDEF" "host" [.startGame]) :: runs 0 22 ++
    .spawn (Call.playerFrame "ABCDEF" "p1" (.answer "q1" ["q1a"])) ::
    .spawn (Call.playerFrame "ABCDEF" "p1" (.answer "q1" ["q1b"])) :: runs 1 8 ++
      runs 2 30 ++ runs 1 2

theorem rejected_answer_is_recorded_raced :
    ∃ questionId, ((State.db (run racedAnswers (start Sample.state)).world.state).answers.get?
        ("p1", questionId)).isSome ∧
      ∃ as, as <+: racedAnswers ∧ 1 < (run as (start Sample.state)).procs.length ∧
        Current "ABCDEF" (run as (start Sample.state)).world questionId :=
  rejected_answer_is_recorded "ABCDEF" Sample.quiz Sample.state
    ⟨Sample.session, by decide, by decide, by decide, by decide⟩ (fun _ _ => ⟨rfl, fun _ => rfl⟩)
    racedAnswers (by decide +kernel) (by decide +kernel) 1 "p1" (by decide +kernel)

end Sample

end Askit.Game
