import Askit.Game.HostFacts

/-! The frames of a room's hosts, handled one after another on however many sockets: the session's
index only grows, and one order is stored. Calls may fail, and Redis may lose keys. -/

namespace Askit.Game

open Interleaving Machine Coro Tables

section

variable [Runtime]

namespace HostTurns

variable (roomCode : String)
variable {roomCode} {room : String} {i : ℕ} {call : Call} {l l' l'' : List (Event Op Exn)}
    {α β γ : Type}
variable {resets : Event Op Exn → Bool}

section Run

variable {c : system.Config}

lemma stays_of_not_hosts {changes : Changes} (hc : ¬call.Hosts roomCode)
    (h : call.footprint.commits changes) :
    ∀ s ∈ changes.session, s.loaded.roomCode = Runtime.upper roomCode →
      s.current.status ≠ .waiting ∧
        s.current.currentQuestionIndex = s.loaded.currentQuestionIndex := by
  intro s hs hk
  cases call with
  | hostFrames room hostId frames =>
    obtain ⟨d, hd, rfl⟩ := h
    cases hs
    exact (hc (hd.1.symm.trans hk)).elim
  | questionTimeout timer =>
    obtain ⟨g, hg, rfl⟩ := h
    cases hs
    exact ⟨nofun, rfl⟩
  | playerFrame room playerId data =>
    obtain ⟨-, -, -, -, -, p, a, -, -, rfl⟩ := h.ofAnswer
    cases hs
  | joinRoom room nickname user =>
    obtain ⟨p, -, rfl⟩ := h
    cases hs
  | playerEndpoint id room origin wsToken =>
    obtain ⟨p, rfl⟩ := h
    cases hs
  | hostEndpoint | subscriber | delivery => exact h.elim

def Unfinished (p : system.Proc) : Prop := ∀ r, p.rest ≠ .done r

structure Turns (roomCode : String) (c : system.Config) : Prop where
  labelled : c.Labelled
  confined : c.Confined fun call => Op.Within (Call.footprint call)
  traced : c.Traced (fun call l ev => Call.Hosts roomCode call → Ruled roomCode l ev)
    fun _ _ _ => True
  facts : Facts roomCode c.world
  alone : ∀ (i j : ℕ) (p q : system.Proc), c.procs[i]? = some p → c.procs[j]? = some q →
    Call.Hosts roomCode p.call → Call.Hosts roomCode q.call → Unfinished p → Unfinished q → i = j
  fresh : ∀ (i : ℕ) (p : system.Proc), c.procs[i]? = some p → Call.Hosts roomCode p.call →
    Unfinished p → Fresh roomCode c.world (own i c.world.history)

lemma code_follows (i : ℕ) (call : Call) :
    (code call).Follows system.Answers i (fun l ev => call.Hosts roomCode → Ruled roomCode l ev)
      (fun _ _ => True) [] := by
  by_cases hc : call.Hosts roomCode
  · cases call with
    | hostFrames room hostId frames =>
      exact (hostFrames_follows hc hostId frames).weaken fun _ _ h _ => h
    | _ => exact hc.elim
  · exact Follows.of_all (S := fun _ => True) (A := fun _ => True) (all_true _)
      (fun _ _ _ _ _ _ => ⟨fun h => (hc h).elim, trivial⟩) trivial

lemma Turns.facts_perform (h : Turns roomCode c) {i : ℕ} {call : Call} {β : Type} {o : Op β}
    {k : Except Exn β → Handler Unit} (pending : c.procs[i]? = some ⟨call, .await o k⟩) :
    Facts roomCode (c.world.perform i o).2 := by
  have hwithin := (h.confined.rest i _ pending).1
  cases o with
  | commit changes =>
    apply h.facts.commit
    by_cases hc : call.Hosts roomCode
    · intro s hs hk
      have hruled := (h.traced.rest i _ pending (.error .failure) nofun).1 hc s hs
      obtain ⟨-, hw, hidx | ⟨⟨r, hr, hidx⟩, ev, hev, hids⟩⟩ := hruled
      · exact ⟨hw, .inl hidx⟩
      · obtain ⟨ids, hids⟩ := Option.isSome_iff_exists.mp hids
        obtain ⟨hri, hrw⟩ := (h.fresh i _ pending hc nofun).index r hr
        have ho := h.facts.read ev (mem_own.mp hev).1 ids hids
        refine ⟨hw, .inr ⟨?_, List.ne_nil_of_mem ho⟩⟩
        rcases hidx with hidx | ⟨hwait, hidx⟩
        · rw [hidx, hri]
        · rw [hidx, ← hri, hrw hwait]
    · intro s hs hk
      obtain ⟨hw, hidx⟩ := stays_of_not_hosts hc hwithin s hs hk
      exact ⟨hw, .inl hidx⟩
  | setQuestions room ids ex =>
    apply h.facts.store
    intro hu
    have hc : call.Hosts roomCode := by
      cases call with
      | hostFrames room' hostId frames =>
        obtain rfl : room = room' := hwithin
        exact hu
      | _ => exact hwithin.elim
    obtain ⟨⟨r, hr, hw⟩, ev, hev, hs⟩ := (h.traced.rest i _ pending (.error .failure) nofun).1 hc
    exact ⟨(h.fresh i _ pending hc nofun).order r hr hw,
      h.facts.started ev (mem_own.mp hev).1 hs⟩
  | publish room e =>
    apply h.facts.quiet
    cases e with | mk message excluded => cases message <;> trivial
  | _ => exact h.facts.quiet trivial

def Still (roomCode : String) {β : Type} : Op β → Prop
  | .commit changes => ∀ s ∈ changes.session, s.loaded.roomCode = Runtime.upper roomCode →
      s.current.currentQuestionIndex = s.loaded.currentQuestionIndex
  | _ => True

lemma index_perform {w : system.World} {o : Op β} (hf : Facts roomCode w)
    (h : moves ⟨i, o, (exec o w.state).1⟩ = false ∨ Still roomCode o) :
    (position roomCode (w.perform i o).2).index = (position roomCode w).index := by
  cases o with
  | commit changes =>
    cases hc : w.state.db.commit changes with
    | none =>
      rw [perform_commit_none hc]
      rfl
    | some e =>
      rw [perform_commit_some hc]
      rcases commit_position hf.session hc (v := ⟨{ w.state with db := e }, _⟩) rfl with
        ⟨hp, -⟩ | ⟨s, hs, hk, hp⟩
      · rw [hp]
      · have hidx : s.current.currentQuestionIndex = s.loaded.currentQuestionIndex := by
          rcases h with h | h
          · rw [exec_commit_some hc] at h
            simpa [moves, Option.mem_def.mp hs] using h
          · exact h s hs hk
        rw [hp]
        simp [changed, hidx]
  | listen room =>
    exact congrArg Position.index (State.position_congr (exec_listen_db room w.state) _)
  | _ => rfl

lemma orders_append {w v : system.World} {ev : Event Op Exn} (hv : v.history = w.history ++ [ev])
    (h : storedOrder (Runtime.upper roomCode) ev = none) :
    orders roomCode v = orders roomCode w := by
  simp [orders, hv, h]

lemma storedOrder_of_stores {ev : Event Op Exn} (h : stores ev = false) :
    storedOrder (Runtime.upper roomCode) ev = none := by
  obtain ⟨i, o, r⟩ := ev
  cases o with
  | setQuestions room ids ex => cases r <;> simp_all [stores, storedOrder]
  | _ => rfl

lemma storedOrder_of_not_hosts {o : Op β} (hc : ¬call.Hosts roomCode)
    (h : o.Within call.footprint) (r : Except Exn β) :
    storedOrder (Runtime.upper roomCode) ⟨i, o, r⟩ = none := by
  cases o with
  | setQuestions room ids ex =>
    cases call with
    | hostFrames room' hostId frames =>
      obtain rfl : room = room' := h
      cases r with
      | ok a => exact if_neg hc
      | error e => rfl
    | _ => exact h.elim
  | _ => rfl

omit [Runtime] in
lemma questions_of_lose {redis : Redis} (key : RedisKey) {ids : List UUID}
    (h : (redis.lose key).questions room = some ids) : redis.questions room = some ids := by
  cases key with
  | questions room' =>
    by_cases hr : room = room'
    · subst hr
      simp [Redis.lose, Redis.setQuestions] at h
    · simpa [Redis.lose, Redis.setQuestions, Function.update_of_ne hr] using h
  | _ => exact h

lemma Facts.congr {w : system.World} (h : Facts roomCode w) {s : State} (hd : s.db = w.state.db)
    (hq : ∀ room ids, s.redis.questions room = some ids → w.state.redis.questions room = some ids) :
    Facts roomCode ⟨s, w.history⟩ := by
  have hp : position roomCode (⟨s, w.history⟩ : system.World) = position roomCode w :=
    State.position_congr hd _
  refine ⟨hd ▸ h.session, ?_, ?_, ?_, h.single, fun room ids hu hids => h.stored room ids hu
    (hq room ids hids), h.read, ?_, h.ascending⟩
  · rw [hp]
    exact h.waiting
  · rw [hp]
    exact h.started
  · rw [hp]
    exact h.asked
  · rw [hp]
    exact h.past

lemma Turns.resume (h : Turns roomCode c) {i : ℕ} {call : Call} {o : Op β}
    {k : Except Exn β → Handler Unit} (pending : c.procs[i]? = some ⟨call, .await o k⟩)
    {w : system.World} {r : Except Exn β} (hh : w.history = c.world.history ++ [⟨i, o, r⟩])
    (hf : Facts roomCode w)
    (hi : moves ⟨i, o, r⟩ = false ∨ ¬call.Hosts roomCode →
      (position roomCode w).index = (position roomCode c.world).index)
    (ho : ¬call.Hosts roomCode → storedOrder (Runtime.upper roomCode) ⟨i, o, r⟩ = none)
    (hev : ∀ room, roomRead roomCode ⟨i, o, r⟩ = some room →
      room.session.position = position roomCode c.world)
    (hl : Config.Labelled ⟨w, c.procs.set i ⟨call, k r⟩⟩)
    (hc : Config.Confined (fun call => Op.Within (Call.footprint call))
      ⟨w, c.procs.set i ⟨call, k r⟩⟩)
    (ht : Config.Traced (fun call l ev => Call.Hosts roomCode call → Ruled roomCode l ev)
      (fun _ _ _ => True) ⟨w, c.procs.set i ⟨call, k r⟩⟩) :
    Turns roomCode ⟨w, c.procs.set i ⟨call, k r⟩⟩ := by
  -- the process at `j` was there before, and not finished if it is not now
  have hold : ∀ (j : ℕ) (p : system.Proc), (c.procs.set i ⟨call, k r⟩)[j]? = some p → Unfinished p →
      ∃ p', c.procs[j]? = some p' ∧ p'.call = p.call ∧ Unfinished p' := by
    intro j p hj hp
    by_cases hij : i = j
    · subst hij
      rw [List.getElem?_set_self (List.getElem?_eq_some_iff.mp pending).1] at hj
      cases hj
      exact ⟨_, pending, rfl, nofun⟩
    · rw [List.getElem?_set_ne hij] at hj
      exact ⟨p, hj, rfl, hp⟩
  refine ⟨hl, hc, ht, hf, ?_, ?_⟩
  · intro j j' p q hp hq hhp hhq hup huq
    obtain ⟨p', hp', hcp, hup'⟩ := hold j p hp hup
    obtain ⟨q', hq', hcq, huq'⟩ := hold j' q hq huq
    exact h.alone j j' p' q' hp' hq' (hcp ▸ hhp) (hcq ▸ hhq) hup' huq'
  · intro j p hj hhost hup
    change (c.procs.set i ⟨call, k r⟩)[j]? = some p at hj
    change Fresh roomCode w (own j w.history)
    rw [hh]
    obtain ⟨p', hp', hcp, hup'⟩ := hold j p hj hup
    by_cases hij : i = j
    · subst hij
      rw [own_append_self]
      apply (h.fresh i p' hp' (hcp ▸ hhost) hup').append h.facts
      · exact fun hm => hi (.inl hm)
      · exact fun hs => orders_append hh (storedOrder_of_stores hs)
      · exact hev
    · rw [own_append_of_ne hij]
      have hnot : ¬call.Hosts roomCode := fun hcall =>
        hij (h.alone i j _ p' pending hp' hcall (hcp ▸ hhost) nofun hup')
      exact (h.fresh j p' hp' (hcp ▸ hhost) hup').congr (hi (.inr hnot))
        (orders_append hh (ho hnot))

lemma Turns.spawn (h : Turns roomCode c) {call : Call} {s : State}
    (hf : FramesInTurn roomCode ⟨c, .spawn call⟩) (admitted : enter call c.world.state = some s)
    (hl : Config.Labelled (M := system)
      ⟨{ c.world with state := s }, c.procs ++ [⟨call, code call⟩]⟩)
    (hc : Config.Confined (M := system) (fun call => Op.Within (Call.footprint call))
      ⟨{ c.world with state := s }, c.procs ++ [⟨call, code call⟩]⟩)
    (ht : Config.Traced (M := system)
      (fun call l ev => Call.Hosts roomCode call → Ruled roomCode l ev)
      (fun _ _ _ => True) ⟨{ c.world with state := s }, c.procs ++ [⟨call, code call⟩]⟩) :
    Turns roomCode ⟨{ c.world with state := s }, c.procs ++ [⟨call, code call⟩]⟩ := by
  obtain ⟨hd, hr, -⟩ := enter_eq_some admitted
  have hfacts : Facts roomCode ⟨s, c.world.history⟩ := h.facts.congr hd (fun _ _ hids => hr ▸ hids)
  have hdone : call.Hosts roomCode → ∀ p ∈ c.procs, Call.Hosts roomCode p.call → ¬Unfinished p := by
    intro hcall p hp hhost hup
    cases call with
    | hostFrames room hostId frames =>
      obtain ⟨r, hr⟩ := hf hcall p hp hhost
      exact hup r hr
    | _ => exact hcall.elim
  have hcases : ∀ (j : ℕ) (p : system.Proc), (c.procs ++ [⟨call, code call⟩])[j]? = some p →
      c.procs[j]? = some p ∨ j = c.procs.length ∧ p = ⟨call, code call⟩ := by
    intro j p hj
    rcases Nat.lt_trichotomy j c.procs.length with hlt | rfl | hgt
    · rw [List.getElem?_append_left hlt] at hj
      exact .inl hj
    · rw [List.getElem?_concat_length] at hj
      exact .inr ⟨rfl, (Option.some.inj hj).symm⟩
    · rw [List.getElem?_eq_none (by simp; omega)] at hj
      cases hj
  refine ⟨hl, hc, ht, hfacts, ?_, ?_⟩
  · intro j j' p q hp hq hhp hhq hup huq
    rcases hcases j p hp with hp | ⟨rfl, rfl⟩
    · rcases hcases j' q hq with hq | ⟨rfl, rfl⟩
      · exact h.alone j j' p q hp hq hhp hhq hup huq
      · exact (hdone hhq p (List.mem_of_getElem? hp) hhp hup).elim
    · rcases hcases j' q hq with hq | ⟨rfl, rfl⟩
      · exact (hdone hhp q (List.mem_of_getElem? hq) hhq huq).elim
      · rfl
  · intro j p hj hhost hup
    rcases hcases j p hj with hp | ⟨rfl, rfl⟩
    · exact (h.fresh j p hp hhost hup).congr
        (congrArg Position.index (State.position_congr hd _)) rfl
    · rw [own_eq_nil fun ev hev => Nat.ne_of_lt (h.labelled ev hev)]
      exact fresh_nil

lemma Turns.step {t : system.Transition} (h : Turns roomCode t.before)
    (hf : FramesInTurn roomCode t) :
    Turns roomCode t.after := by
  obtain ⟨c, a⟩ := t
  have hl := h.labelled.step a
  have hc := h.confined.step (P := fun call => Op.Within (Call.footprint call)) code_keeps a
  have ht := h.traced.step h.labelled (fun i call => code_follows i call) a
  have hm := step_moves a c
  change Turns roomCode (Machine.step a c)
  generalize Machine.step a c = d at hm hl hc ht
  cases hm with
  | idle => exact h
  | spawn call s admitted => exact h.spawn hf admitted hl hc ht
  | run i call o k pending ready =>
    have hwithin := (h.confined.rest i _ pending).1
    apply h.resume pending (World.perform_history _ _ _) (h.facts_perform pending) _ _ _ hl hc ht
    · intro hi
      apply index_perform h.facts
      rcases hi with hi | hi
      · exact .inl hi
      · cases o with
        | commit changes => exact .inr fun s hs hk => (stays_of_not_hosts hi hwithin s hs hk).2
        | _ => exact .inr trivial
    · exact fun hn => storedOrder_of_not_hosts hn hwithin _
    · exact fun room hroom => roomRead_perform hroom
  | fault i e call o k pending =>
    apply h.resume pending (World.fail_history _ _ _ _) (h.facts.fail _ _)
      (fun _ => rfl) _ _ hl hc ht
    · intro _
      cases o <;> rfl
    · intro room hroom
      cases o <;> cases hroom
  | env e =>
    have hd : (e.act c.world.state).db = c.world.state.db := by cases e <;> rfl
    refine ⟨hl, hc, ht, h.facts.congr hd ?_, h.alone, fun i p hp hhost hup =>
      (h.fresh i p hp hhost hup).congr (congrArg Position.index (State.position_congr hd _)) rfl⟩
    intro room ids hids
    cases e with
    | clock now => exact hids
    | lose key => exact questions_of_lose key hids

lemma facts_start {quiz : Quiz} {s : State} (h : Created roomCode quiz s)
    (hq : ∀ room, Runtime.upper room = Runtime.upper roomCode → s.redis.questions room = none) :
    Facts roomCode ⟨s, []⟩ := by
  obtain ⟨g, hg, hp, -, -⟩ := h
  have hpos : position roomCode (⟨s, []⟩ : system.World) = ⟨.waiting, 0⟩ :=
    (position_eq hg).trans hp
  refine ⟨Option.isSome_iff_exists.mpr ⟨g, hg⟩, ?_, fun ev h => (by cases h), ?_, Nat.zero_le 1, ?_,
    fun ev h => (by cases h), fun r h => (by cases h), List.Pairwise.nil⟩
  · rw [hpos]
    exact fun _ => ⟨rfl, rfl⟩
  · rw [hpos]
    exact fun hne => (hne rfl).elim
  · intro room ids hu hids
    rw [hq room hu] at hids
    cases hids

lemma turns_start {quiz : Quiz} {s : State} (h : Created roomCode quiz s)
    (hq : ∀ room, Runtime.upper room = Runtime.upper roomCode → s.redis.questions room = none) :
    Turns roomCode (start s) where
  labelled := labelled_start s
  confined := ⟨fun i p h => (by cases h), fun ev h => (by cases h)⟩
  traced := ⟨fun i p h => (by cases h), recorded_nil⟩
  facts := facts_start h hq
  alone i j p q h := by cases h
  fresh i p h := by cases h

end Run

end HostTurns

end

end Askit.Game
