import Askit.Game.Attended

/-! Who sits where: the registry's entry of a player, or of a room's host, leads to a socket that is
being served, as long as no endpoint clears it while another one is there. -/

namespace Askit.Game

open Interleaving Machine Coro Tables

section

variable [Runtime]

/-- The process is an endpoint of the seat, with this socket: a player's by the token that it was
shown, the host's by the room of its call. -/
def serves (c : system.Config) (seat : Seat) (i : ℕ) (websocket : Socket) : Prop :=
  c.procs[i]?.bind (fun p => Call.seat (own i c.world.history) p.call) = some (seat, websocket)

instance (c : system.Config) (seat : Seat) (i : ℕ) (websocket : Socket) :
    Decidable (serves c seat i websocket) :=
  inferInstanceAs (Decidable (_ = _))

def receiving (websocket : Socket) : Option system.Proc → Bool
  | some ⟨_, .await (.disconnected w) _⟩ => w = websocket
  | _ => false

def returned : Option system.Proc → Bool
  | some ⟨_, .done (.ok _)⟩ => true
  | _ => false

/-- With no way in or out pending at the seat, from the registration on, and somebody in the receive
loop there, the seat's entry is the socket of an endpoint in its receive loop, and a player is
marked as connected. -/
def Reachable (c : system.Config) (seat : Seat) : Prop :=
  (∃ i websocket, serves c seat i websocket ∧ receiving websocket c.procs[i]? = true) →
  (∀ i websocket, serves c seat i websocket → milestones (own i c.world.history) = [] ∨
    receiving websocket c.procs[i]? = true ∨ returned c.procs[i]? = true) →
  (∃ i websocket, serves c seat i websocket ∧ receiving websocket c.procs[i]? = true ∧
    Registry.seat (State.registry c.world.state) seat = some websocket) ∧
  ∀ p, seat = .player p → (State.db c.world.state).Connected p

namespace Presence

variable {c : system.Config} {seat : Seat} {i : ℕ} {websocket : Socket}

lemma serves_of_joined (h : Attended c)
    (hj : .joined seat websocket ∈ milestones (own i c.world.history)) :
    serves c seat i websocket := by
  obtain ⟨before, call, -, -, hbefore, hcall, -, hseat, -⟩ := exists_of_joined h.traced hj
  rw [Config.calls, List.getElem?_map] at hcall
  obtain ⟨p, hp, rfl⟩ := Option.map_eq_some_iff.mp hcall
  rw [serves, hp]
  exact Call.seat_mono (hbefore.filter _) hseat

lemma receiving_marks (h : Attended c) (hs : serves c seat i websocket)
    (hr : receiving websocket c.procs[i]? = true) :
    present seat (milestones (own i c.world.history)) = true ∧
      ∀ p, seat = .player p → .connected p true ∈ milestones (own i c.world.history) := by
  cases hp : c.procs[i]? with
  | none => simp [receiving, hp] at hr
  | some proc =>
    obtain ⟨call, r | ⟨o, k⟩⟩ := proc
    · simp [receiving, hp] at hr
    · cases o with
      | disconnected w =>
        have hseq := (h.traced.rest i _ hp (.error .failure) fun a ha => by cases ha).1
        obtain ⟨p, hm⟩ | ⟨code, hm⟩ := hseq
        · have hserves := serves_of_joined h (hm ▸ List.mem_cons_self)
          obtain ⟨rfl, -⟩ := Prod.mk.inj (Option.some.inj (hserves.symm.trans hs))
          simp [hm, present]
        · have hserves := serves_of_joined h (hm ▸ List.mem_cons_self)
          obtain ⟨rfl, -⟩ := Prod.mk.inj (Option.some.inj (hserves.symm.trans hs))
          simp [hm, present]
      | _ => simp [receiving, hp] at hr

lemma returned_not_holds (h : Attended c) (hr : returned c.procs[i]? = true) :
    holds seat websocket (milestones (own i c.world.history)) = false := by
  cases hp : c.procs[i]? with
  | none => simp [returned, hp] at hr
  | some proc =>
    obtain ⟨call, r | ⟨o, k⟩⟩ := proc
    · cases r with
      | error e => simp [returned, hp] at hr
      | ok a =>
        obtain hm | hm : milestones (own i c.world.history) = [] ∨ _ := h.traced.rest i _ hp rfl
        · rw [hm]
          rfl
        · cases hl : milestones (own i c.world.history) with
          | nil => rfl
          | cons x rest =>
            rw [hl] at hm
            cases x <;> simp_all [holds]
    · simp [returned, hp] at hr

omit [Runtime] in
lemma joined_of_holds (h : holds seat websocket l = true) : .joined seat websocket ∈ l := by
  cases l with
  | nil => simp [holds] at h
  | cons x rest =>
    cases x with
    | joined s w =>
      obtain ⟨⟨rfl, rfl⟩, -⟩ : (s = seat ∧ w = websocket) ∧ _ := by simpa [holds] using h
      exact List.mem_cons_self
    | _ => simp [holds] at h

lemma Attended.reachable (h : Attended c) (seat : Seat) : Reachable c seat := by
  rintro ⟨i, w, hs, hr⟩ hall
  obtain ⟨hpresent, hconnected⟩ := receiving_marks h hs hr
  obtain ⟨k, websocket, hk, hentry⟩ := h.seated seat i hpresent
  have hjoined := joined_of_holds hk
  have hserves := serves_of_joined h hjoined
  refine ⟨⟨k, websocket, hserves, ?_, hentry⟩, ?_⟩
  · rcases hall k websocket hserves with hnone | hr | hr
    · rw [hnone] at hjoined
      cases hjoined
    · exact hr
    · rw [returned_not_holds h hr] at hk
      cases hk
  · rintro p rfl
    exact h.flagged p i hpresent (hconnected p rfl)

end Presence

/-- As long as whoever clears a seat is the last one there, every seat at rest is reachable. -/
theorem reachable_while_last_leaves (s : State) (acts : List system.Act)
    (h : ∀ t ∈ transitions (start s) acts, leavesLast t = true) :
    ∀ t ∈ transitions (start s) acts, ∀ seat, Reachable t.after seat := by
  have hrun := invariant (I := Presence.Attended) (P := fun t => leavesLast t = true)
    (fun t ht h => h.step ht) (Presence.attended_start s) acts h
  exact fun t ht seat => (hrun.1 t ht).2.reachable seat

end

section Sample

attribute [local instance] Runtime.ascii

def admitted : State :=
  { Sample.state with redis := Sample.state.redis.setWsToken "t1" (some "p1") }

def connectRun (i : ℕ) : List system.Act :=
  .spawn (Call.playerEndpoint i "ABCDEF" none (some "t1")) :: runs i 10

/-- The first socket is gone before the second one comes. -/
def reconnectRun : List system.Act := connectRun 0 ++ runs 0 6 ++ connectRun 1

theorem reachable_on_reconnect :
    (∀ t ∈ transitions (start admitted) reconnectRun, leavesLast t = true) ∧
      ∀ t ∈ transitions (start admitted) reconnectRun, ∀ seat, Reachable t.after seat :=
  ⟨by decide +kernel, reachable_while_last_leaves admitted reconnectRun (by decide +kernel)⟩

/-- The second socket comes before the first one has been noticed to be gone. -/
def overlapRun : List system.Act := connectRun 0 ++ connectRun 1 ++ runs 0 5

theorem late_exit_clears_reconnected :
    (∀ a ∈ overlapRun ++ [.run 0], Faithful a) ∧
      ¬∀ t ∈ transitions (start admitted) (overlapRun ++ [.run 0]),
        ∀ seat, Reachable t.after seat := by
  refine ⟨by decide +kernel, fun h => ?_⟩
  have hlast := after_last (P := fun c : system.Config => ∀ seat, Reachable c seat) h (.player "p1")
  generalize hc : Machine.step (.run 0) (run overlapRun (start admitted)) = c at hlast
  have hserves : serves c (.player "p1") 1 ⟨.player, 1⟩ := by
    subst hc
    decide +kernel
  have hloop : receiving ⟨.player, 1⟩ c.procs[1]? = true := by
    subst hc
    decide +kernel
  have hreturned : returned c.procs[0]? = true := by
    subst hc
    decide +kernel
  have hlength : c.procs.length = 2 := by
    subst hc
    decide +kernel
  have hflag : ¬(State.db c.world.state).Connected "p1" := by
    subst hc
    decide +kernel
  refine hflag ((hlast ⟨1, _, hserves, hloop⟩ ?_).2 "p1" rfl)
  intro i websocket hs
  match i with
  | 0 => exact .inr (.inr hreturned)
  | 1 =>
    obtain ⟨-, rfl⟩ := Prod.mk.inj (Option.some.inj (hserves.symm.trans hs))
    exact .inr (.inl hloop)
  | i + 2 =>
    rw [serves, List.getElem?_eq_none (by omega)] at hs
    cases hs

end Sample

end Askit.Game
