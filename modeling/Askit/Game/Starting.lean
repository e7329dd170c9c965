import Askit.Game.Alone
import Askit.Game.Locality
import Askit.Game.Presence
import Askit.Interleaving.Segments

/-! A room that is found starting while none of its handlers is at work stays so. -/

namespace Askit.Game

open Interleaving Machine Coro Tables

section

variable [Runtime]

def Idle (roomCode : String) (c : system.Config) : Prop :=
  ∀ p ∈ c.procs, p.call.Elsewhere roomCode ∨ (∃ r, p.rest = .done r) ∨ ∃ k, p.rest = .await
    .receiveJson k

def Finished (roomCode : String) (s : State) :
    Prop := (s.position (Runtime.upper roomCode)).status = .finished

/-- Frames of the host that are handled one after the other, while nothing else happens, bring the
game to its end. -/
def HostFinishes (roomCode : String) (bound : ℕ) (c : system.Config) : Prop :=
  ∃ (code : String) (hostId : UUID) (frames : List ClientMessage) (n : ℕ),
    Runtime.upper code = Runtime.upper roomCode ∧
    (∀ data ∈ frames, data = .startGame ∨ data = .nextQuestion) ∧
    frames.length ≤ bound ∧
    Finished roomCode (run (.spawn (Call.hostFrames code hostId frames) :: runs c.procs.length n)
      c).world.state

def KeepsOrder (roomCode : String) : system.Act → Prop
  | .env (.lose (.questions code)) => Runtime.upper code ≠ Runtime.upper roomCode
  | _ => True

namespace Stranded

def Starting (roomCode : String) {β : Type} (o : Op β) (a : β) : Prop :=
  system.Answers o a ∧ ∃ s : State, (exec o s).1 = .ok a ∧
    (s.position (Runtime.upper roomCode)).status = .starting

lemma Starting.status {roomCode code : String} {room : Room}
    (hcode : Runtime.upper code = Runtime.upper roomCode)
    (h : Starting roomCode (.getRoom code) (some room)) : room.session.status = .starting := by
  obtain ⟨-, s, hs, hstatus⟩ := h
  have hroom : s.db.room? (Runtime.upper code) = some room := by simpa [exec] using hs
  simp only [Db.room?, Option.bind_eq_some_iff, Option.map_eq_some_iff] at hroom
  obtain ⟨g, hg, quiz, -, rfl⟩ := hroom
  rw [hcode] at hg
  rwa [State.position_eq hg] at hstatus

abbrev Spares (roomCode : String) {α : Type} (x : Handler α) : Prop :=
  x.All (Starting roomCode) (Op.Within (.elsewhere roomCode))

variable {roomCode code : String}

lemma spares_of_keeps {α : Type} {x : Handler α} (h : Keeps (.elsewhere roomCode) x) :
    Spares roomCode x :=
  All.answers h fun _ _ ha => ha.1

lemma handleStartGame_spares (hcode : Runtime.upper code = Runtime.upper roomCode) (hostId : UUID) :
    Spares roomCode (handleStartGame code hostId) := by
  suffices h : (startGame code hostId).All (Starting roomCode) (Op.Within (.elsewhere roomCode)) ∧
      (startGame code hostId).Returns (Starting roomCode) fun _ => False from
    h.1.bind_of_returns h.2 fun _ h => h.elim
  constructor
  · apply All.perform_bind (by trivial)
    rintro (_ | room) hroom
    · trivial
    apply All.require_bind
    intro _
    apply All.require_bind
    intro hwaiting
    rw [hroom.status hcode] at hwaiting
    cases hwaiting
  · apply Returns.perform_bind
    rintro (_ | room) hroom
    · trivial
    dsimp only
    unfold require
    split
    · split
      · next _ hwaiting =>
        rw [hroom.status hcode] at hwaiting
        cases hwaiting
      · trivial
    · trivial

lemma handleNextQuestion_spares (hcode : Runtime.upper code = Runtime.upper roomCode) :
    Spares roomCode (handleNextQuestion code) := by
  apply All.perform_bind (by trivial)
  rintro (_ | room) hroom
  · trivial
  have hstatus := hroom.status hcode
  apply All.ite
  · intro hquestion
    rw [hstatus] at hquestion
    cases hquestion
  · intro _
    apply All.ite
    · exact fun _ => trivial
    intro hrevealing
    simp [hstatus] at hrevealing

lemma questionTimeout_spares (hcode : Runtime.upper code = Runtime.upper roomCode)
    (questionIndex timeLimitMs : ℕ) :
    Spares roomCode (questionTimeout code questionIndex timeLimitMs) := by
  apply All.perform_bind (by trivial)
  intro _ _
  apply All.perform_bind (by trivial)
  rintro (_ | room) hroom
  · trivial
  apply All.ite
  · exact fun _ => trivial
  intro _
  apply All.ite
  · exact fun _ => trivial
  intro hquestion
  simp [hroom.status hcode] at hquestion

lemma handleHostMessage_spares (hcode : Runtime.upper code = Runtime.upper roomCode) (hostId : UUID)
    (data : ClientMessage) : Spares roomCode (handleHostMessage code hostId data) := by
  apply All.tryCatch
  · cases data with
    | startGame => exact handleStartGame_spares hcode hostId
    | nextQuestion => exact handleNextQuestion_spares hcode
    | answer _ _ | malformed => trivial
  · exact fun _ => spares_of_keeps (sendToHost_keeps _ _)

lemma hostFrames_spares (hcode : Runtime.upper code = Runtime.upper roomCode) (hostId : UUID)
    (frames : List ClientMessage) : Spares roomCode (hostFrames code hostId frames) := by
  apply All.forM
  intro data _
  exact All.perform_bind (by trivial) fun _ _ => handleHostMessage_spares hcode hostId data

lemma code_spares (roomCode : String) (call : Call) : Spares roomCode (Game.code call) := by
  by_cases h : call.Elsewhere roomCode
  · exact spares_of_keeps h.keeps
  · cases call with
    | hostFrames code hostId frames => exact hostFrames_spares (not_not.mp h) hostId frames
    | questionTimeout timer => exact questionTimeout_spares (not_not.mp h) _ _
    | _ => exact absurd trivial h

def busy : Footprint :=
  ⟨fun _ => True, fun _ _ => True, fun _ _ => True, fun _ => True, False, True, True, True⟩

omit [Runtime] in
lemma announces_busy (code : String) (message : Frame) : busy.Announces code message := by
  cases message <;> trivial

lemma keeps_busy {F : Footprint} {α : Type} {x : Handler α} (h : Keeps F x) (hF : ¬F.receives) :
    Keeps busy x := by
  apply All.mono h
  intro β o ho
  cases o with
  | receiveJson => exact hF ho
  | publish code e => exact announces_busy code e.message
  | _ => trivial

/-- Whenever a host socket waits for a frame, what is left of its loop spares the room. -/
abbrev Pauses (roomCode : String) (x : Handler Unit) : Prop :=
  x.AtEach system.Answers (fun o => ¬o.Within busy) (Spares roomCode)

lemma hostFrames_pauses (hcode : Runtime.upper code = Runtime.upper roomCode) (hostId : UUID)
    (frames : List ClientMessage) : Pauses roomCode (hostFrames code hostId frames) := by
  induction frames with
  | nil => trivial
  | cons data frames ih =>
    refine ⟨fun _ => hostFrames_spares hcode hostId (data :: frames), fun _ _ => ?_,
      fun _ => trivial⟩
    apply AtEach.bind_of_all
    · have hbusy := keeps_busy (handleHostMessage_keeps code hostId data) id
      exact All.mono hbusy fun _ ho => not_not.mpr ho
    · exact fun _ => ih

lemma questionTimeout_pauses (code : String) (questionIndex timeLimitMs : ℕ) :
    Pauses roomCode (questionTimeout code questionIndex timeLimitMs) := by
  apply AtEach.of_all
  have hbusy := keeps_busy (questionTimeout_keeps code questionIndex timeLimitMs) id
  exact All.mono hbusy fun _ ho => not_not.mpr ho

/-- What a process has left to do, as far as the room is concerned. -/
structure Leaves (roomCode : String) (call : Call) (x : Handler Unit) : Prop where
  elsewhere : call.Elsewhere roomCode → Keeps (.elsewhere roomCode) x
  pauses : ¬call.Elsewhere roomCode → Pauses roomCode x

lemma code_leaves (roomCode : String) (call : Call) : Leaves roomCode call (Game.code call) := by
  refine ⟨fun h => h.keeps, fun h => ?_⟩
  cases call with
  | hostFrames code hostId frames => exact hostFrames_pauses (not_not.mp h) hostId frames
  | questionTimeout timer => exact questionTimeout_pauses _ _ _
  | _ => exact absurd trivial h

lemma Leaves.answered {call : Call} {β : Type} {o : Op β} {k : Except Exn β → Handler Unit}
    (h : Leaves roomCode call (.await o k)) (s : State) :
    Leaves roomCode call (k (exec o s).1) := by
  cases hr : (exec o s).1 with
  | ok a => exact ⟨fun he => (h.elsewhere he).2.1 a ⟨s, hr⟩, fun he => (h.pauses he).2.1 a ⟨s, hr⟩⟩
  | error e => exact ⟨fun he => (h.elsewhere he).2.2 e, fun he => (h.pauses he).2.2 e⟩

lemma Leaves.failed {call : Call} {β : Type} {o : Op β} {k : Except Exn β → Handler Unit}
    (h : Leaves roomCode call (.await o k)) (e : Exn) : Leaves roomCode call (k (.error e)) :=
  ⟨fun he => (h.elsewhere he).2.2 e, fun he => (h.pauses he).2.2 e⟩

lemma leaves_run (s : State) (acts : List system.Act) :
    (run acts (start s)).Left (Leaves roomCode) :=
  (invariant (I := Config.Left (Leaves roomCode)) (P := fun _ => True)
    (fun t _ h => Config.Left.step h (code_leaves roomCode) (fun hx => hx.answered _)
      (fun hx => hx.failed) t.act)
    (left_start _ s) acts fun _ _ => trivial).2

structure Stuck (roomCode : String) (c : system.Config) : Prop where
  starting : (position roomCode c.world).status = .starting
  spared : c.Left fun _ x => Spares roomCode x

lemma stuck_of_idle {c : system.Config} (h : c.Left (Leaves roomCode)) (hidle : Idle roomCode c)
    (hstatus : (position roomCode c.world).status = .starting) : Stuck roomCode c := by
  refine ⟨hstatus, fun i p hp => ?_⟩
  obtain ⟨call, x⟩ := p
  by_cases he : call.Elsewhere roomCode
  · exact spares_of_keeps ((h i _ hp).elsewhere he)
  · rcases hidle _ (List.mem_of_getElem? hp) with he' | ⟨r, rfl⟩ | ⟨k, rfl⟩
    · exact absurd he' he
    · trivial
    · exact ((h i _ hp).pauses he).1 id

lemma Stuck.answered {c : system.Config} (h : Stuck roomCode c) {β : Type} {o : Op β}
    {k : Except Exn β → Handler Unit} (hx : Spares roomCode (.await o k)) :
    Spares roomCode (k (exec o c.world.state).1) := by
  cases hr : (exec o c.world.state).1 with
  | ok a => exact hx.2.1 a ⟨⟨_, hr⟩, _, hr, h.starting⟩
  | error e => exact hx.2.2 e

lemma Stuck.step {c : system.Config} (h : Stuck roomCode c) (a : system.Act) :
    Stuck roomCode (Machine.step a c) := by
  refine ⟨?_, h.spared.step (code_spares roomCode) (fun hx => h.answered hx)
    (fun hx e => hx.2.2 e) a⟩
  have hm := step_moves a c
  generalize Machine.step a c = d at hm
  cases hm with
  | idle | fault => exact h.starting
  | env e => cases e <;> exact h.starting
  | spawn call s admitted =>
    have hpos := State.position_congr (enter_eq_some admitted).1 (Runtime.upper roomCode)
    exact (congrArg Position.status hpos).trans h.starting
  | run i call o k pending ready =>
    have hpos := exec_position_elsewhere (h.spared i _ pending).1 c.world.state
    exact (congrArg Position.status hpos).trans h.starting

lemma Stuck.run {c : system.Config} (h : Stuck roomCode c) (acts : List system.Act) :
    Stuck roomCode (run acts c) :=
  (invariant (I := Stuck roomCode) (P := fun _ => True) (fun t _ h => h.step t.act) h acts
    fun _ _ => trivial).2

end Stranded

end

end Askit.Game
