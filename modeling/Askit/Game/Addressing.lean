import Askit.Game.Alone
import Askit.Game.Roster

/-! Operations of a room that are addressed with another spelling of its code. `get_room` finds the
room, and everything else is kept under the code as it came. -/

namespace Askit.Game

open Interleaving Machine Coro Tables

def readdressed (code code' roomCode : String) :
    String := if roomCode = code then code' else roomCode

/-- The same operation, addressed with `code'` where it has been addressed with `code`. -/
def Call.readdress (code code' : String) : Call → Call
  | .joinRoom roomCode nickname user => .joinRoom (readdressed code code' roomCode) nickname user
  | .hostFrames roomCode hostId frames =>
    .hostFrames (readdressed code code' roomCode) hostId frames
  | .playerFrame roomCode playerId data =>
    .playerFrame (readdressed code code' roomCode) playerId data
  | .questionTimeout t => .questionTimeout { t with roomCode := readdressed code code' t.roomCode }
  | .playerEndpoint id roomCode origin wsToken =>
    .playerEndpoint id (readdressed code code' roomCode) origin wsToken
  | .hostEndpoint id roomCode origin hostUser => .hostEndpoint id (readdressed code code' roomCode)
      origin hostUser
  | .subscriber roomCode => .subscriber (readdressed code code' roomCode)
  | .delivery roomCode => .delivery (readdressed code code' roomCode)

section

variable [Runtime]

/-- The schedules differ at most in the code with which some of the operations are addressed. -/
inductive Readdressed (code code' : String) : system.Act → system.Act → Prop
  | same (a : system.Act) : Readdressed code code' a a
  | spawn (call : Call) : Readdressed code code' (.spawn call) (.spawn (call.readdress code code'))

/-- Whichever operations of a schedule are addressed with `code'` instead of `code`, the database is
left the same and the sockets are sent the same frames. -/
def AddressedAlike (code code' : String) (s : State) : Prop :=
  ∀ acts acts' : List system.Act, List.Forall₂ (Readdressed code code') acts acts' →
    State.db (run acts' (start s)).world.state = State.db (run acts (start s)).world.state ∧
      sentFrames (run acts' (start s)).world.history = sentFrames (run acts (start s)).world.history

namespace Addressing

open Alone

variable {code code' : String} {s : State}

omit [Runtime] in
lemma readdressed_self (roomCode : String) : readdressed code code roomCode = roomCode := by
  unfold readdressed
  split
  · next h => exact h.symm
  · rfl

omit [Runtime] in
lemma readdress_self (call : Call) : call.readdress code code = call := by
  cases call <;> simp [Call.readdress, readdressed_self]

lemma eq_of_readdressed {acts acts' : List system.Act}
    (h : List.Forall₂ (Readdressed code code) acts acts') :
    acts' = acts := by
  induction h with
  | nil => rfl
  | cons ha _ ih =>
    rw [ih]
    cases ha with
    | same => rfl
    | spawn call => rw [readdress_self]

section Greeted

variable {ps : List system.Proc} {w : system.World} {g : GameSession}

lemma run_connects (w : system.World) (ps : List system.Proc) (roomCode : String) (id : ℕ)
    (hg : (State.db w.state).sessions.get? (Runtime.upper roomCode) = some g)
    (hlock : (State.registry w.state).locked = false) :
    ∃ (v : system.World) (p : system.Proc),
      run (.spawn (Call.hostEndpoint id roomCode none g.hostId) :: runs ps.length 3) ⟨w, ps⟩ =
        ⟨v, ps ++ [p]⟩ ∧
      State.db v.state = State.db w.state ∧
      State.registry v.state = (State.registry w.state).join ⟨.host, id⟩ roomCode none ∧
      sentFrames v.history = sentFrames w.history := by
  obtain ⟨room, hread, rfl⟩ := Db.exists_room? hg
  have hget : exec (.getRoom roomCode) w.state = (.ok (some room), w.state) :=
    congrArg (fun r => (Except.ok r, w.state)) hread
  rw [run_cons, step_spawn rfl, Game.code, websocketHostEndpoint, if_neg (by simp [foreignOrigin])]
  rw [run_await 2 rfl hget]
  dsimp only
  rw [if_neg (fun h => h rfl), serveHost, connectHost]
  simp only [bind_assoc]
  rw [run_await 1 rfl rfl, run_await 0 (by simp [ready, hlock]) rfl]
  exact ⟨_, _, rfl, rfl, rfl, by simp [sentFrames, sentFrame]⟩

lemma run_malformed (w : system.World) (ps : List system.Proc) (roomCode : String)
    (hg : (State.db w.state).sessions.get? (Runtime.upper roomCode) = some g) :
    State.db (run (.spawn (Call.hostFrames roomCode g.hostId [.malformed]) :: runs ps.length 3)
      ⟨w, ps⟩).world.state =
        State.db w.state ∧
      sentFrames (run (.spawn (Call.hostFrames roomCode g.hostId [.malformed]) :: runs ps.length 3)
          ⟨w, ps⟩).world.history =
        sentFrames w.history ++ (((State.registry w.state).hosts roomCode).map fun v =>
          (v, handlerError)).toList := by
  have henter : enter (.hostFrames roomCode g.hostId [.malformed]) w.state = some w.state :=
    if_pos ⟨g, hg, rfl⟩
  have hcode : hostFrames roomCode g.hostId [.malformed] =
      (await .receiveJson >>= fun _ => sendToHost roomCode handlerError) := by
    simp [hostFrames, handleHostMessage]
    rfl
  rw [run_cons, step_spawn henter, Game.code, hcode, run_await 2 rfl rfl, sendToHost,
    run_await 1 rfl rfl]
  cases hhost : (State.registry w.state).hosts roomCode with
  | none =>
    dsimp only
    rw [run_pure]
    exact ⟨rfl, by simp [sentFrames, sentFrame]⟩
  | some v =>
    dsimp only
    rw [run_sendQuietly]
    refine ⟨rfl, ?_⟩
    simp only [sentFrames, List.append_assoc, List.filterMap_append]
    rfl

end Greeted

variable {g : GameSession}

/-- The host connects with two sockets, and then a frame arrives that does not validate. -/
def greeted (hostId : UUID) (code first second : String) : List system.Act :=
  (.spawn (Call.hostEndpoint 0 first none hostId) :: runs 0 3) ++
    ((.spawn (Call.hostEndpoint 1 second none hostId) :: runs 1 3) ++
      (.spawn (Call.hostFrames code hostId [.malformed]) :: runs 2 3))

lemma run_greeted {first second : String} (hcode : Runtime.upper code = code)
    (hfirst : Runtime.upper first = code) (hsecond : Runtime.upper second = code)
    (hg : s.db.sessions.get? code = some g) (hlock : s.registry.locked = false) :
    sentFrames (run (greeted g.hostId code first second) (start s)).world.history =
      ((((s.registry.join ⟨.host, 0⟩ first none).join ⟨.host, 1⟩ second none).hosts code).map
        fun w =>
        (w, handlerError)).toList := by
  obtain ⟨v, p, hv, hdb, hreg, hsent⟩ := run_connects ⟨s, []⟩ [] first 0 (hfirst ▸ hg) hlock
  have hgv : (State.db v.state).sessions.get? (Runtime.upper second) = some g := by
    rw [hsecond, hdb]
    exact hg
  obtain ⟨u, q, hu, hdb', hreg', hsent'⟩ :=
    run_connects v [p] second 1 hgv (by rw [hreg]; exact hlock)
  have hgu : (State.db u.state).sessions.get? (Runtime.upper code) = some g := by
    rw [hcode, hdb', hdb]
    exact hg
  have hframe := (run_malformed u [p, q] code hgu).2
  have hone : run (.spawn (Call.hostEndpoint 0 first none g.hostId) :: runs 0 3) (start s) =
      ⟨v, [p]⟩ := hv
  have htwo : run (.spawn (Call.hostEndpoint 1 second none g.hostId) :: runs 1 3) ⟨v, [p]⟩ =
      ⟨u, [p, q]⟩ := hu
  have hthree : sentFrames (run (.spawn (Call.hostFrames code g.hostId [.malformed]) :: runs 2 3)
      ⟨u, [p, q]⟩).world.history = sentFrames u.history ++ _ := hframe
  rw [greeted, run_append, run_append, hone, htwo, hthree, hsent', hsent, hreg', hreg]
  rfl

lemma greeted_readdressed (hostId : UUID) :
    List.Forall₂ (Readdressed code code') (greeted hostId code code code)
      (greeted hostId code code code') := by
  have hself : ∀ acts, List.Forall₂ (Readdressed code code') acts acts := fun acts =>
    List.forall₂_same.mpr fun a _ => .same a
  have hsecond : Readdressed code code' (.spawn (Call.hostEndpoint 1 code none hostId))
      (.spawn (Call.hostEndpoint 1 code' none hostId)) := by
    have h : Readdressed code code' _ _ := .spawn (Call.hostEndpoint 1 code none hostId)
    rwa [Call.readdress, readdressed, if_pos rfl] at h
  exact List.rel_append (hself _) (List.rel_append (.cons hsecond (hself _)) (hself _))

end Addressing

open Addressing

/-- `get_room` finds the room under every spelling, but `_hosts` is kept under the code as it came:
no other spelling than the code itself serves alike. -/
theorem addressed_alike_iff {code code' : String} {s : State} {g : GameSession}
    (hcode : Runtime.upper code = code) (hcode' : Runtime.upper code' = code)
    (hg : s.db.sessions.get? code = some g) (hlock : s.registry.locked = false) :
    AddressedAlike code code' s ↔ code' = code := by
  constructor
  · intro h
    by_contra hne
    have hsame := run_greeted hcode hcode hcode hg hlock
    have hother := run_greeted hcode hcode hcode' hg hlock
    have hframes := (h _ _ (greeted_readdressed g.hostId)).2
    rw [hsame, hother] at hframes
    simp [Registry.join, Function.update_of_ne (Ne.symm hne)] at hframes
  · rintro rfl acts acts' h
    rw [eq_of_readdressed h]
    exact ⟨rfl, rfl⟩

end

section Sample

attribute [local instance] Runtime.ascii

theorem addressed_alike_itself : AddressedAlike "ABCDEF" "ABCDEF" Sample.state :=
  (addressed_alike_iff (g := Sample.session) (by decide) (by decide) (by decide) rfl).mpr rfl

/-- The host's second socket has come under `abcdef`, and the first one hears the answer to the
frame. -/
theorem lower_case_not_alike :
    Runtime.upper "abcdef" = "ABCDEF" ∧ ¬ AddressedAlike "ABCDEF" "abcdef" Sample.state := by
  refine ⟨by decide, fun h => ?_⟩
  have hframes := (h _ _ (Addressing.greeted_readdressed "host")).2
  revert hframes
  decide +kernel

end Sample

end Askit.Game
