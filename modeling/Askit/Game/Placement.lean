import Askit.Game.Placed

/-! Whether the sockets receive the same frames wherever they are placed. -/

namespace Askit.Game

open Interleaving Machine Coro

namespace Placement

variable [Runtime] {n : ℕ} {place : Socket → Fin n}

section Handlers

variable {α β : Type} {i : ℕ} {p : Fin n} {w : (cluster n place).World} {v : oneProcess.World}

lemma enter_registry (call : Call) (u : State) (d : Registry) :
    enter call { u with registry := d } = (enter call u).map fun t => { t with registry := d } := by
  cases call with
  | hostFrames | playerFrame | questionTimeout =>
    unfold enter
    dsimp only
    split <;> rfl
  | _ => rfl

lemma Related.enter {call : Fin n × Call} {s : Cluster n} (h : Related w v)
    (hs : (cluster n place).enter call w.state = some s) :
    call.2.delivers = false ∧ ∃ t : Cluster 1,
      oneProcess.enter (0, call.2) v.state = some t ∧
        Related (⟨s, w.history⟩ : (cluster n place).World) ⟨t, v.history⟩ := by
  obtain ⟨q, call⟩ := call
  have henter : (if call.delivers then none
      else (Game.enter call ((w.state : Cluster n).view q)).map
        ((w.state : Cluster n).put q)) = some s := hs
  split at henter
  · cases henter
  · next hcall =>
    obtain ⟨u, hu, rfl⟩ := Option.map_eq_some_iff.mp henter
    refine ⟨by simpa using hcall, (v.state : Cluster 1).put 0
      { u with registry := registered (fun _ => true) w.history }, ?_, ?_⟩
    · have hone : oneProcess.enter (0, call) v.state =
          (Game.enter call ((v.state : Cluster 1).view 0)).map ((v.state : Cluster 1).put 0) :=
            if_neg hcall
      rw [hone, h.agree.view q, enter_registry, hu]
      rfl
    · exact ⟨h.agree.placed (enter_eq_some hu).2.2, h.sited, h.unlocked⟩

lemma Related.refuse {call : Fin n × Call} (h : Related w v)
    (hs : (cluster n place).enter call w.state = none) :
    oneProcess.enter (0, call.2) v.state = none := by
  obtain ⟨q, call⟩ := call
  cases hcall : call.delivers with
  | true => exact if_pos hcall
  | false =>
    have hmany : (cluster n place).enter (q, call) w.state =
        (Game.enter call ((w.state : Cluster n).view q)).map ((w.state : Cluster n).put q) :=
      if_neg (by simp [hcall])
    have hone : oneProcess.enter (0, call) v.state =
        (Game.enter call ((v.state : Cluster 1).view 0)).map ((v.state : Cluster 1).put 0) :=
      if_neg (by simp [hcall])
    have hnone : Game.enter call ((w.state : Cluster n).view q) = none :=
      Option.map_eq_none_iff.mp (hmany.symm.trans hs)
    rw [hone, h.agree.view q, enter_registry, hnone]
    rfl

lemma Related.env (h : Related w v) (e : Env) : Related
    { w with state := (cluster n place).env e w.state }
      { v with state := oneProcess.env e v.state } := by
  refine ⟨?_, h.sited, h.unlocked⟩
  have hagree := h.agree
  cases e with
  | clock now =>
    exact ⟨hagree.db, hagree.redis, rfl, hagree.draws, hagree.timers, hagree.own, hagree.all,
      hagree.received⟩
  | lose key =>
    exact ⟨hagree.db, congrArg (Redis.lose · key) hagree.redis, hagree.now, hagree.draws,
      hagree.timers, hagree.own, hagree.all, hagree.received⟩

lemma simulates : Simulates (M := cluster n place) (N := oneProcess) Placed.waits Placed.waits
    (Lost place) Related (fun call => (0, call.2)) id where
  serve i w v call s h hs := by
    obtain ⟨hcall, t, ht, hrelated⟩ := h.enter hs
    have hcode : oneProcess.code (0, call.2) = (code call.2).translate (Placed.mk 0) :=
      congrArg (fun q : Fin 1 => (code call.2).translate (Placed.mk q)) (Subsingleton.elim _ _)
    rw [hcode]
    exact ⟨t, ht, runs_code call.2 hcall call.1 hrelated⟩
  refuse w v call h hs := h.refuse hs
  env w v e h := h.env e

lemma related_opened (s : State) :
    Related (⟨Cluster.opened n s, []⟩ : (cluster n place).World) ⟨Cluster.opened 1 s, []⟩ := by
  refine ⟨⟨rfl, rfl, rfl, rfl, rfl, fun _ => rfl, rfl, fun _ => rfl⟩, ⟨?_, ?_, ?_⟩,
    ⟨fun _ => rfl, rfl⟩⟩
  · intro p room websocket
    simp [registered, Registry.unused]
  · exact fun p room => List.nodup_nil
  · exact fun room => List.nodup_nil

end Handlers

end Placement

open Placement in
/-- Wherever the sockets are placed, each receives what it receives from one process that holds
them all, in every run in which every step finds in the dictionaries of its process what that one
finds. -/
theorem frames_independent_of_placement [Runtime] (n : ℕ) (place : Socket → Fin n) (s : State)
    (turns : List (cluster n place).Turn)
    (hfinds : Recorded (FindsAll place)
      (inTurn Placed.waits turns ((cluster n place).start (Cluster.opened n s))).world.history)
    (websocket : Socket) :
    Cluster.framesTo (inTurn Placed.waits turns
        ((cluster n place).start (Cluster.opened n s))).world.state websocket =
      Cluster.framesTo (inTurn Placed.waits (turns.map onOneProcess)
        (oneProcess.start (Cluster.opened 1 s))).world.state websocket := by
  have hstart : ((cluster n place).start (Cluster.opened n s)).Matches Placed.waits Placed.waits
      (Lost place) Related (oneProcess.start (Cluster.opened 1 s)) :=
    ⟨related_opened s, rfl, fun i p q hp => by cases hp⟩
  have hlost (history : List (Event (Placed n) Exn)) (ev : Event (Placed n) Exn)
      (h : Lost place history) : Lost place (history ++ [ev]) := fun hall => h hall.of_append
  rcases matches_inTurn hlost simulates hstart turns with h | h
  · exact absurd hfinds h
  · exact (h.inv.agree.received websocket).symm

section Sample

attribute [local instance] Runtime.ascii

/-- Both players hold their tokens. -/
def Sample.admitted : State :=
  { Sample.state with
    redis := (Sample.state.redis.setWsToken "t1" (some "p1")).setWsToken "t2" (some "p2") }

/-- The host and the players come in, the game starts, and the first player answers on the process
`p`. -/
def answeredOn {place : Socket → Fin 2} (p : Fin 2) : List (cluster 2 place).Turn :=
  [.serve (0, .hostEndpoint 0 "ABCDEF" none "host"),
    .serve (0, .playerEndpoint 0 "ABCDEF" none (some "t1")),
    .serve (0, .playerEndpoint 1 "ABCDEF" none (some "t2")),
    .serve (0, .hostFrames "ABCDEF" "host" [.startGame]), .resume 3, .resume 3,
    .resume 3, .resume 3, .serve (p, .playerFrame "ABCDEF" "p1" (.answer "q1" ["q1a"]))]

def secondApart (websocket : Socket) : Fin 2 := if websocket = ⟨.player, 1⟩ then 1 else 0

/-- The host's socket is on a process of its own. -/
def hostApart (websocket : Socket) : Fin 2 := if websocket.endpoint = .host then 0 else 1

def afterMany (place : Socket → Fin 2) (turns : List (cluster 2 place).Turn) :
    (cluster 2 place).World :=
  (inTurn Placed.waits turns ((cluster 2 place).start (Cluster.opened 2 Sample.admitted))).world

def afterOne (place : Socket → Fin 2) (turns : List (cluster 2 place).Turn) : oneProcess.World :=
  (inTurn Placed.waits (turns.map onOneProcess)
    (oneProcess.start (Cluster.opened 1 Sample.admitted))).world

theorem frames_independent_of_placement_second :
    Recorded (FindsAll secondApart) (afterMany secondApart (answeredOn 0)).history ∧
      Cluster.framesTo (afterMany secondApart (answeredOn 0)).state ⟨.player, 1⟩ =
        Cluster.framesTo (afterOne secondApart (answeredOn 0)).state ⟨.player, 1⟩ := by
  have hfinds : Recorded (FindsAll secondApart) (afterMany secondApart (answeredOn 0)).history := by
    decide +kernel
  exact ⟨hfinds, frames_independent_of_placement 2 secondApart Sample.admitted (answeredOn 0) hfinds
    ⟨.player, 1⟩⟩

/-- The answer comes in on the other process, and the host is not told of it. -/
theorem host_apart_misses_answer :
    Cluster.framesTo (afterMany hostApart (answeredOn 1)).state ⟨.host, 0⟩ ≠
      Cluster.framesTo (afterOne hostApart (answeredOn 1)).state ⟨.host, 0⟩ := by
  decide +kernel

end Sample

end Askit.Game
