import Askit.Game.Copies

/-! The handlers on a cluster, next to their runs on one process. -/

namespace Askit.Game

open Interleaving Machine Coro

namespace Placement

variable [Runtime] {n : ℕ} {place : Socket → Fin n}

def Lost (place : Socket → Fin n) (history : List (Event (Placed n) Exn)) : Prop :=
  ¬Recorded (FindsAll place) history

structure Related (w : (cluster n place).World) (v : oneProcess.World) : Prop where
  agree : Agree w.history w.state v.state
  sited : Sited place w.history
  unlocked : Unlocked w.history

/-- As `Related`, with an endpoint of the process in its critical section. -/
structure Leaving (p : Fin n) (w : (cluster n place).World) (v : oneProcess.World) : Prop where
  agree : Agree w.history w.state v.state
  sited : Sited place w.history
  others : ∀ q, q ≠ p → (registered (· = q) w.history).locked = false

abbrev Sim {β : Type} (i : ℕ) (Q : Except Exn β → (cluster n place).World → oneProcess.World → Prop)
    (x : Coro (Placed n) Exn β) (y : Coro (Placed 1) Exn β) (w : (cluster n place).World)
    (v : oneProcess.World) : Prop :=
  Tracks (M := cluster n place) (N := oneProcess) Placed.waits Placed.waits (Lost place)
    Related i Q x y w v

/-- The handler on the process `p` and on the one process. -/
abbrev Runs {β : Type} (i : ℕ) (p : Fin n) (x : Handler β) (w : (cluster n place).World)
    (v : oneProcess.World) : Prop :=
  Sim i (fun _ => Related) (x.translate (Placed.mk p))
    (x.translate (Placed.mk ⟨0, Nat.one_pos⟩)) w v

section Handlers

variable {α β : Type} {i : ℕ} {p : Fin n} {w : (cluster n place).World} {v : oneProcess.World}

omit [Runtime] in
lemma lost_append {history : List (Event (Placed n) Exn)} {ev : Event (Placed n) Exn}
    (h : ¬FindsAll place history ev) : Lost place (history ++ [ev]) :=
  fun hall => h (recorded_append_iff.mp hall).2

lemma answers_execPlaced (o : Op β) (p : Fin n) (s : Cluster n) :
    ∃ u, (exec o u).1 = (execPlaced ⟨p, o⟩ s).1 :=
  ⟨s.view p, by cases o <;> rfl⟩

omit [Runtime] in
lemma ready_shared {o : Op β} (ho : Shared o) (u : State) : ready o u = true := by
  cases o <;> first | rfl | exact ho.elim

lemma sim_shared {o : Op α} {Q : Except Exn β → (cluster n place).World → oneProcess.World → Prop}
    {k : Except Exn α → Coro (Placed n) Exn β} {k' : Except Exn α → Coro (Placed 1) Exn β}
    (ho : Shared o) (h : Related w v)
    (hk : ∀ r w v, (∃ u, (exec o u).1 = r) → Related w v → Sim i Q (k r) (k' r) w v) :
    Sim i Q (.await ⟨p, o⟩ k) (.await ⟨0, o⟩ k') w v := by
  have hstep (w : (cluster n place).World) (v : oneProcess.World) (h : Related w v) :
      Sim i Q (k (w.perform i ⟨p, o⟩).1) (k' (v.perform i ⟨0, o⟩).1) (w.perform i ⟨p, o⟩).2
        (v.perform i ⟨0, o⟩).2 := by
    by_cases hall : FindsAll place w.history ⟨i, ⟨p, o⟩, (w.perform i ⟨p, o⟩).1⟩
    · obtain ⟨hanswer, hagree⟩ := h.agree.shared h.sited ho (w.perform i ⟨p, o⟩).1 hall
      have hsame : (v.perform i ⟨0, o⟩).1 = (w.perform i ⟨p, o⟩).1 := hanswer
      rw [hsame]
      refine hk _ _ _ (answers_execPlaced o p w.state) ⟨hagree, h.sited.of_rooms fun on => ?_,
        h.unlocked.of_locked fun on => ?_⟩
      · exact congrArg Registry.rooms (registered_same (after_shared ho) on i p _)
      · exact congrArg Registry.locked (registered_same (after_shared ho) on i p _)
    · exact .lost (lost_append hall)
  have hready (m : ℕ) (place : Socket → Fin m) (q : Fin m) (s : Cluster m) :
      (cluster m place).ready ⟨q, o⟩ s = true := ready_shared ho (s.view q)
  cases hwaits : o.waits with
  | true =>
    refine .rest ?_ ?_ h (fun w v _ => ?_) hstep
    · simp [Halts, Placed.waits, hwaits]
    · simp [Halts, Placed.waits, hwaits]
    · exact (hready n place p w.state).trans (hready 1 _ 0 v.state).symm
  | false =>
    refine .left ?_ (.right ?_ (hstep w v h))
    · simp [Halts, Placed.waits, hwaits, hready n place p w.state]
    · simp [Halts, Placed.waits, hwaits, hready 1 _ 0 v.state]

lemma runs_all {x : Handler β} (hx : x.All system.Answers Shared) (h : Related w v) :
    Runs i p x w v := by
  induction x generalizing w v with
  | done r => exact .done h
  | await o k ih =>
    refine sim_shared hx.1 h fun r w v hr h => ih r ?_ h
    cases r with
    | ok a => exact hx.2.1 a hr
    | error e => exact hx.2.2 e

lemma runs_bind {x : Handler α} {f : α → Handler β} (hx : Runs i p x w v)
    (hf : ∀ a (w : (cluster n place).World) v, Related w v → Runs i p (f a) w v) :
    Runs i p (x >>= f) w v := by
  unfold Runs
  rw [translate_bind, translate_bind]
  exact hx.bind (fun a w v h => hf a w v h) fun e w v h => h

lemma sim_register {o : Op α} {Q : Except Exn β → (cluster n place).World → oneProcess.World → Prop}
    {k : Except Exn α → Coro (Placed n) Exn β} {k' : Except Exn α → Coro (Placed 1) Exn β}
    (hwaits : o.waits = false) (hready : ready o ((w.state : Cluster n).view p) = true)
    (hready' : ready o ((v.state : Cluster 1).view 0) = true)
    (hk : Sim i Q (k (w.perform i ⟨p, o⟩).1) (k' (v.perform i ⟨0, o⟩).1) (w.perform i ⟨p, o⟩).2
      (v.perform i ⟨0, o⟩).2) : Sim i Q (.await ⟨p, o⟩ k) (.await ⟨0, o⟩ k') w v := by
  have hr : (cluster n place).ready ⟨p, o⟩ w.state = true := hready
  have hr' : oneProcess.ready ⟨0, o⟩ v.state = true := hready'
  refine .left ?_ (.right ?_ hk)
  · simp [Halts, Placed.waits, hwaits, hr]
  · simp [Halts, Placed.waits, hwaits, hr']

lemma runs_connect {websocket : Socket} {roomCode : String} {playerId : Option UUID}
    (hp : p = place websocket) (h : Related w v) : Runs i p
      (do
        await (.accept websocket)
        await (.joinRoom websocket roomCode playerId)) w v := by
  apply runs_bind (runs_all ((all_perform _).mpr (by trivial)) h)
  intro _ w v h
  have hlock : ((w.state : Cluster n).registries p).locked = false := by
    rw [h.agree.own]
    exact h.unlocked.own p
  have hlock' : ((v.state : Cluster 1).registries 0).locked = false := by
    rw [h.agree.all]
    exact h.unlocked.all
  apply sim_register rfl (by simp [ready, Cluster.view, hlock])
    (by simp [ready, Cluster.view, hlock'])
  refine .done ⟨h.agree.register _, ?_, h.unlocked.of_locked fun on => ?_⟩
  · subst hp
    exact h.sited.join _
  · dsimp only [World.perform_history]
    rw [registered_append]
    split <;> rfl

lemma Leaving.waited {roomCode : String} (h : Leaving p w v) :
    Leaving p (w.perform i ⟨p, .awaitCancelled roomCode⟩).2 v := by
  have hstate : (w.perform i ⟨p, .awaitCancelled roomCode⟩).2.state = w.state := put_view w.state p
  have hsame (on : Fin n → Bool) : registered on
      (w.history ++ [⟨i, ⟨p, .awaitCancelled roomCode⟩, .ok ()⟩]) = registered on w.history :=
    registered_same (fun _ => rfl) on i p _
  refine ⟨?_, h.sited.of_rooms fun on => congrArg Registry.rooms (hsame on), fun q hq => ?_⟩
  · rw [hstate]
    exact h.agree.append (fun _ => rfl) _
  · exact (congrArg Registry.locked (hsame _)).trans (h.others q hq)

lemma sim_waitLeft {roomCode : String} {cancelled : Bool} {y : Coro (Placed 1) Exn Unit}
    {Q : Except Exn Unit → (cluster n place).World → oneProcess.World → Prop} (h : Leaving p w v)
    (hk : ∀ w : (cluster n place).World, Leaving p w v → Sim i Q (.done (.ok ())) y w v) :
    Sim i Q ((unsubscribeFromRoom roomCode cancelled).translate (Placed.mk p)) y w v := by
  cases cancelled with
  | false => exact hk w h
  | true => exact .left rfl (hk _ h.waited)

lemma sim_waitRight {roomCode : String} {cancelled : Bool} (h : Leaving p w v) :
    Sim i (fun r w v => r = .ok () ∧ Leaving p w v) (.done (.ok ()))
      ((unsubscribeFromRoom roomCode cancelled).translate (Placed.mk 0)) w v := by
  cases cancelled with
  | false => exact .done ⟨rfl, h⟩
  | true =>
    refine .right rfl (.done ⟨rfl, ?_⟩)
    have hstate : (v.perform i ⟨0, .awaitCancelled roomCode⟩).2.state = v.state :=
      put_view v.state 0
    exact ⟨hstate.symm ▸ h.agree, h.sited, h.others⟩

lemma sim_forget {roomCode : String} {playerId : Option UUID} (h : Leaving p w v) :
    Runs i p (await (.forget roomCode playerId)) w v := by
  apply sim_register rfl rfl rfl
  refine .done ⟨h.agree.register _, h.sited.of_rooms fun on => ?_, ⟨fun q => ?_, ?_⟩⟩
  · dsimp only [World.perform_history]
    rw [registered_append]
    split
    · exact rooms_forget _ roomCode playerId
    · rfl
  · dsimp only [World.perform_history]
    rw [registered_append]
    split
    · exact locked_forget _ roomCode playerId
    · next hq => exact h.others q fun heq => hq (by simp [heq])
  · dsimp only [World.perform_history]
    rw [registered_append]
    exact locked_forget _ roomCode playerId

lemma runs_disconnect {websocket : Socket} {roomCode : String} {playerId : Option UUID}
    (hp : p = place websocket) (h : Related w v) :
    Runs i p (disconnectFrom websocket roomCode playerId) w v := by
  have hlock : ((w.state : Cluster n).registries p).locked = false := by
    rw [h.agree.own]
    exact h.unlocked.own p
  have hlock' : ((v.state : Cluster 1).registries 0).locked = false := by
    rw [h.agree.all]
    exact h.unlocked.all
  apply sim_register rfl (by simp [ready, Cluster.view, hlock])
    (by simp [ready, Cluster.view, hlock'])
  have hleaving : Leaving p (w.perform i ⟨p, .leaveRoom websocket roomCode⟩).2
      (v.perform i ⟨0, .leaveRoom websocket roomCode⟩).2 := by
    refine ⟨h.agree.register _, ?_, fun q hq => ?_⟩
    · subst hp
      exact h.sited.leave _
    · dsimp only [World.perform_history]
      rw [registered_append_of_ne _ hq]
      exact h.unlocked.own q
  obtain ⟨cancelled, hanswer⟩ : ∃ cancelled,
      (w.perform i ⟨p, .leaveRoom websocket roomCode⟩).1 = .ok cancelled := ⟨_, rfl⟩
  obtain ⟨cancelled', hanswer'⟩ : ∃ cancelled',
      (v.perform i ⟨0, .leaveRoom websocket roomCode⟩).1 = .ok cancelled' := ⟨_, rfl⟩
  rw [hanswer, hanswer']
  generalize (w.perform i ⟨p, .leaveRoom websocket roomCode⟩).2 = w at hleaving
  generalize (v.perform i ⟨0, .leaveRoom websocket roomCode⟩).2 = v at hleaving
  have hwait : Sim i (fun r w v => r = .ok () ∧ Leaving p w v)
      ((unsubscribeFromRoom roomCode cancelled).translate (Placed.mk p))
      ((unsubscribeFromRoom roomCode cancelled').translate (Placed.mk 0)) w v :=
    sim_waitLeft hleaving fun w h => sim_waitRight h
  change Sim i (fun _ => Related)
    ((unsubscribeFromRoom roomCode cancelled >>= fun _ =>
      await (.forget roomCode playerId)).translate
      (Placed.mk p))
    ((unsubscribeFromRoom roomCode cancelled' >>= fun _ =>
      await (.forget roomCode playerId)).translate
      (Placed.mk 0)) w v
  rw [translate_bind, translate_bind]
  apply hwait.bind
  · rintro _ w v ⟨-, h⟩
    exact sim_forget h
  · rintro e w v ⟨he, -⟩
    cases he

section Endpoints

lemma shared_of_keeps {F : Footprint} {x : Handler β} (hx : Keeps F x) (hF : ¬F.registers) :
    x.All system.Answers Shared := by
  apply All.mono hx
  intro β o ho
  cases o <;> trivial

lemma runs_keeps {F : Footprint} {x : Handler β} (hx : Keeps F x) (hF : ¬F.registers)
    (h : Related w v) : Runs i p x w v :=
  runs_all (shared_of_keeps hx hF) h

lemma runs_silent {x : Handler β} (hx : Keeps .silent x) (h : Related w v) : Runs i p x w v :=
  runs_keeps hx id h

lemma runs_perform {o : Op β} (ho : Shared o) (h : Related w v) : Runs i p (await o) w v :=
  runs_all ((all_perform _).mpr ho) h

lemma runs_attempt {x : Handler β} (hx : x.All system.Answers Shared) (h : Related w v) :
    Runs i p (attempt x) w v :=
  runs_all (All.tryCatch (hx.map _) fun _ => trivial) h

lemma setPlayerConnected_shared (playerId : UUID) (connected : Bool) :
    (setPlayerConnected playerId connected).All system.Answers Shared :=
  shared_of_keeps (F := .only fun _ => True)
    (setPlayerConnected_keeps (fun _ _ => trivial) playerId connected) id

lemma runs_servePlayer {websocket : Socket} {roomCode : String} {room : Room} {player : GamePlayer}
    (hp : p = place websocket) (h : Related w v) :
    Runs i p (servePlayer websocket roomCode room player) w v := by
  apply runs_bind (runs_connect hp h)
  intro _ w v h
  apply runs_bind (runs_all (setPlayerConnected_shared player.playerId true) h)
  intro _ w v h
  apply runs_bind (runs_attempt (shared_of_keeps (F := .silent)
    (buildRoomState_keeps roomCode false) id) h)
  intro state w v h
  cases state with
  | error e =>
    apply runs_bind (runs_disconnect hp h)
    exact fun _ w v h => runs_perform (by trivial) h
  | ok state =>
    apply runs_bind (runs_silent (greetPlayer_keeps roomCode room player state) h)
    intro _ w v h
    apply runs_bind (runs_attempt ((all_perform _).mpr (by trivial)) h)
    intro _ w v h
    apply runs_bind (runs_disconnect hp h)
    intro _ w v h
    apply runs_bind (runs_attempt (setPlayerConnected_shared player.playerId false) h)
    exact fun _ w v h => runs_silent (broadcastToRoom_keeps roomCode (by trivial) none) h

lemma runs_playerEndpoint {id : ℕ} (roomCode : String) (origin wsToken : Option String)
    (hp : p = place ⟨.player, id⟩) (h : Related w v) :
    Runs i p (websocketPlayerEndpoint id roomCode origin wsToken) w v := by
  unfold websocketPlayerEndpoint
  dsimp only
  split
  · exact runs_perform (by trivial) h
  cases wsToken.filter (· ≠ "") with
  | none => exact runs_perform (by trivial) h
  | some token =>
    apply runs_bind (runs_perform (by trivial) h)
    intro playerId w v h
    cases playerId with
    | none => exact runs_perform (by trivial) h
    | some playerId =>
      apply runs_bind (runs_perform (by trivial) h)
      intro room w v h
      cases room with
      | none => exact runs_perform (by trivial) h
      | some room =>
        cases hplayer : room.players.find? fun q => q.playerId = playerId with
        | none => 
          simp only [hplayer]
          exact runs_perform (by trivial) h
        | some player =>
          simp only [hplayer]
          exact runs_servePlayer hp h

lemma runs_serveHost {websocket : Socket} {roomCode : String} {room : Room}
    (hp : p = place websocket) (h : Related w v) :
    Runs i p (serveHost websocket roomCode room) w v := by
  apply runs_bind (runs_connect hp h)
  intro _ w v h
  apply runs_bind (runs_attempt (shared_of_keeps (F := .silent)
    (buildRoomState_keeps roomCode true) id) h)
  intro state w v h
  cases state with
  | error e =>
    apply runs_bind (runs_disconnect hp h)
    exact fun _ w v h => runs_perform (by trivial) h
  | ok state =>
    apply runs_bind (runs_silent (greetHost_keeps roomCode room state) h)
    intro _ w v h
    apply runs_bind (runs_attempt ((all_perform _).mpr (by trivial)) h)
    exact fun _ w v h => runs_disconnect hp h

lemma runs_hostEndpoint {id : ℕ} (roomCode : String) (origin : Option String) (hostUser : UUID)
    (hp : p = place ⟨.host, id⟩) (h : Related w v) :
    Runs i p (websocketHostEndpoint id roomCode origin hostUser) w v := by
  unfold websocketHostEndpoint
  dsimp only
  split
  · exact runs_perform (by trivial) h
  apply runs_bind (runs_perform (by trivial) h)
  intro room w v h
  cases room with
  | none => exact runs_perform (by trivial) h
  | some room =>
    dsimp only
    split
    · exact runs_perform (by trivial) h
    · exact runs_serveHost hp h

lemma runs_code (call : Call) (hcall : call.delivers = false) (q : Fin n) (h : Related w v) :
    Runs i (call.process place q) (code call) w v := by
  have hkeeps := code_keeps call
  cases call with
  | joinRoom | hostFrames | playerFrame | questionTimeout => exact runs_keeps hkeeps id h
  | playerEndpoint id roomCode origin wsToken => exact runs_playerEndpoint _ _ _ rfl h
  | hostEndpoint id roomCode origin hostUser => exact runs_hostEndpoint _ _ _ rfl h
  | subscriber | delivery => cases hcall

end Endpoints

end Handlers

end Placement

end Askit.Game
