import Askit.Game.Begun

/-! Which failures strand a room: a room that is found starting, while none of its handlers is at
work, never leaves that state, and from every other state the host can bring the game to its end. -/

namespace Askit.Game

open Interleaving Machine Coro Tables

section

variable [Runtime]

namespace Stranded

variable {roomCode code : String}

lemma hostFinishes_of_alone {roomCode code : String} {bound : ℕ} (frames : List ClientMessage)
    {c : system.Config} {g : GameSession}
    (hg : (State.db c.world.state).sessions.get? (Runtime.upper roomCode) = some g)
    (hcode : Runtime.upper code = Runtime.upper roomCode)
    (hframes : ∀ data ∈ frames, data = .startGame ∨ data = .nextQuestion)
    (hbound : frames.length ≤ bound)
    (hfinished : Finished roomCode ((hostFrames code g.hostId frames).alone exec c.world.state).2) :
    HostFinishes roomCode bound c := by
  have henter : enter (.hostFrames code g.hostId frames) c.world.state = some c.world.state :=
    if_pos ⟨g, hcode ▸ hg, rfl⟩
  obtain ⟨w, ps⟩ := c
  have hready : (hostFrames code g.hostId frames).All system.Answers fun o => ∀ s,
      ready o s = true := by
    apply All.mono ((hostFrames_keeps code g.hostId frames).off id)
    intro β o ho s
    cases o with
    | joinRoom | leaveRoom | listen => exact ho.elim
    | _ => rfl
  obtain ⟨n, hstate, -⟩ := exists_runs_of_ready (M := system)
    (c := ⟨w, ps ++ [⟨Call.hostFrames code g.hostId frames, _⟩]⟩) hready List.getElem?_concat_length
  refine ⟨code, g.hostId, frames, n, hcode, hframes, hbound, ?_⟩
  rw [run_cons, Alone.step_spawn henter, Game.code]
  exact hstate.symm ▸ hfinished

lemma Kept.hostFinishes {roomCode : String} {quiz : Quiz} {c : system.Config}
    (h : Kept roomCode quiz c) (hstatus : (position roomCode c.world).status ≠ .starting) :
    HostFinishes roomCode (2 * quiz.questions.length + 3) c := by
  obtain ⟨g, hg, hquiz⟩ := h.sound.session
  have hpos : position roomCode c.world = g.position := position_eq hg
  rw [hpos] at hstatus
  have hasked : g.status = .question ∨ g.status = .revealing → HostFinishes roomCode
      (2 * quiz.questions.length + 3) c := by
    intro hshows
    have hstatus : (position roomCode c.world).status = g.status := congrArg Position.status hpos
    obtain ⟨hone, code, hcode, hsome⟩ := h.sound.begun (hshows.imp hstatus.trans hstatus.trans)
    obtain ⟨ids, hids⟩ := Option.isSome_iff_exists.mp hsome
    have hplays : Plays roomCode code quiz g.position c.world.state :=
      ⟨⟨g, hg, hquiz, rfl⟩, h.sound.stored, ids, hids, h.sound.orders code hcode ids hids⟩
    have hindex : Asked quiz.questions.length g.position :=
      ⟨hshows, hpos ▸ hone, hpos ▸ h.sound.index⟩
    obtain ⟨frames, hframes, hlen, hfinished⟩ :=
      exists_frames g.hostId (.inr ⟨_, hplays, hindex, Nat.zero_le _⟩) hcode
    exact hostFinishes_of_alone frames hg hcode (fun data hdata => .inr (hframes data hdata))
      (by omega) hfinished
  cases hs : g.status with
  | starting => exact absurd hs hstatus
  | question => exact hasked (.inl hs)
  | revealing => exact hasked (.inr hs)
  | finished =>
    apply hostFinishes_of_alone [] hg rfl (by simp) (by simp)
    exact (congrArg Position.status hpos).trans hs
  | waiting =>
    obtain ⟨t, hstill, ht⟩ := hostFrames_alone roomCode g.hostId .startGame rfl
      c.world.state
    have hstarted := (handleStartGame_alone rfl hg hquiz h.sound.stored hs).still hstill
    obtain ⟨frames, hframes, hlen, hfinished⟩ := exists_frames g.hostId hstarted rfl
    apply hostFinishes_of_alone (.startGame :: frames) hg rfl
    · rintro data (_ | ⟨_, hdata⟩)
      · exact .inl rfl
      · exact .inr (hframes data hdata)
    · simp only [List.length_cons]
      omega
    · rw [ht]
      exact hfinished

end Stranded

open Stranded in
/-- Whatever has failed, an idle room can be brought to its end by its host, unless it is found
starting; then it stays so for ever. -/
theorem idle_room_finishes_or_stays {roomCode : String} {quiz : Quiz} {s : State}
    (hcreated : Created roomCode quiz s)
    (hfresh : ∀ code, Runtime.upper code = Runtime.upper roomCode → s.redis.questions code = none)
    {acts : List system.Act} (hkeys : ∀ a ∈ acts, KeepsOrder roomCode a)
    (hidle : Idle roomCode (run acts (start s))) :
    ((position roomCode (run acts (start s)).world).status ≠ .starting →
      HostFinishes roomCode (2 * quiz.questions.length + 3) (run acts (start s))) ∧
    ((position roomCode (run acts (start s)).world).status = .starting →
      ∀ more, (position roomCode (run more (run acts (start s))).world).status = .starting) := by
  refine ⟨(kept_run hcreated hfresh hkeys).hostFinishes, fun hstarting more => ?_⟩
  exact ((stuck_of_idle (leaves_run s acts) hidle hstarting).run more).starting

end

section Sample

attribute [local instance] Runtime.ascii

def refusedRun : List system.Act :=
  .spawn (Call.hostFrames "ABCDEF" "host" [.startGame]) :: runs 0 4 ++ .fault 0 .failure :: runs 0 3

theorem idle_room_finishes_or_stays_refused :
    (position "ABCDEF" (run refusedRun (start Sample.state)).world).status = .starting ∧
    ∀ more, (position "ABCDEF" (run more (run refusedRun (start Sample.state))).world).status =
      .starting := by
  have hcreated : Created "ABCDEF" Sample.quiz Sample.state :=
    ⟨Sample.session, by decide +kernel, rfl, rfl, by decide +kernel⟩
  have hkeys : ∀ a ∈ refusedRun, KeepsOrder "ABCDEF" a := by simp [refusedRun, runs, KeepsOrder]
  have hidle : Idle "ABCDEF" (run refusedRun (start Sample.state)) := by
    have hprocs : (run refusedRun (start Sample.state)).procs =
      [⟨Call.hostFrames "ABCDEF" "host" [.startGame], .done (.ok ())⟩] := by rfl
    intro p hp
    rw [hprocs, List.mem_singleton] at hp
    subst hp
    exact .inr (.inl ⟨_, rfl⟩)
  have hstarting : (position "ABCDEF" (run refusedRun (start Sample.state)).world).status =
      .starting := by
    decide +kernel
  exact ⟨hstarting, (idle_room_finishes_or_stays hcreated (fun _ _ => rfl) hkeys hidle).2 hstarting⟩

end Sample

end Askit.Game
