import Askit.Game.Confined

/-! Rooms do not disturb each other: without the requests for other rooms everything of a room is
the same. -/

namespace Askit.Game

open Interleaving Machine Coro Tables

section

variable [Runtime]

namespace Isolation

section Mirror

variable {s₀ : State} {fin c : system.Config} {home : String} {t : State}

structure Related (s₀ : State) (fin : system.Config) (home : String) (c : system.Config)
    (t : State) : Prop where
  same : Same (realm s₀ fin home home) c.world.state t
  locked : t.registry.locked = true → ∃ i call, c.calls[i]? = some call ∧
    Runtime.upper (Call.room call) = home ∧
    Inside (own i c.world.history)

/-- A step of a run that ends in `fin`. -/
structure Within (s₀ : State) (fin : system.Config) (home : String) (t : system.Transition) :
    Prop where
  kept : Kept s₀ fin home t.before
  before : Toward t.before fin
  after : Toward t.after fin

omit [Runtime] in
lemma inside_append {i j : ℕ} {history : List Ev} {ev : Ev} (h : Inside (own i history))
    (hev : ev.pid = j) (hl : i = j → locks ev = none) : Inside (own i (history ++ [ev])) := by
  obtain ⟨k, o, r⟩ := ev
  obtain rfl : k = j := hev
  by_cases hij : k = i
  · subst hij
    rw [own_append_self]
    exact (inside_append_of_none (hl rfl)).mpr h
  · rw [own_append_of_ne hij]
    exact h

lemma Related.ready (h : Related s₀ fin home c t) (hkept : Kept s₀ fin home c) {β : Type}
    {o : Op β} {roomCode : String} {answers : Prop} (hroom : Runtime.upper roomCode = home)
    (hlocal : o.Local roomCode answers) (hready : Game.ready o c.world.state = true) :
    Game.ready o t = true := by
  have hunlocked : (State.registry c.world.state).locked = false → t.registry.locked = false := by
    intro hfree
    by_contra hheld
    obtain ⟨i, -, -, -, hin⟩ := h.locked (by simpa using hheld)
    have hlocked := hkept.excludes.inside i hin
    rw [hfree] at hlocked
    cases hlocked
  cases o with
  | joinRoom | leaveRoom => simpa [Game.ready] using hunlocked (by simpa [Game.ready] using hready)
  | listen room =>
    obtain rfl : room = roomCode := hlocal
    simpa only [Game.ready, Registry.pending, h.same.registry.subscriptions _ hroom] using hready
  | _ => rfl

lemma Related.spawn (h : Related s₀ fin home c t) {call : Call} {s t' : State}
    (hsame : Same (realm s₀ fin home home) s t') (hlocked : t'.registry = t.registry) :
    Related s₀ fin home ⟨{ c.world with state := s }, c.procs ++ [⟨call, Game.code call⟩]⟩ t' := by
  refine ⟨hsame, fun hheld => ?_⟩
  obtain ⟨i, call', hcall, hroom, hin⟩ := h.locked (hlocked ▸ hheld)
  exact ⟨i, call', called_concat hcall _, hroom, hin⟩

lemma Related.resume (h : Related s₀ fin home c t) {i : ℕ} {call : Call} {x y : Handler Unit}
    (pending : c.procs[i]? = some ⟨call, x⟩) {s t' : State}
    (hsame : Same (realm s₀ fin home home) s t') {ev : Ev}
    (hev : ev.pid = i) (hlocked : t'.registry.locked = true →
      (t.registry.locked = true ∧ (Runtime.upper call.room = home → locks ev = none)) ∨
        (Runtime.upper call.room = home ∧ locks ev = some true)) :
    Related s₀ fin home ⟨⟨s, c.world.history ++ [ev]⟩, c.procs.set i ⟨call, y⟩⟩ t' := by
  refine ⟨hsame, fun hheld => ?_⟩
  rw [Config.calls, calls_set pending]
  rcases hlocked hheld with ⟨hold, hnone⟩ | ⟨hroom, hl⟩
  · obtain ⟨j, call', hcall, hroom, hin⟩ := h.locked hold
    refine ⟨j, call', hcall, hroom, inside_append hin hev ?_⟩
    rintro rfl
    cases (getElem?_calls pending).symm.trans hcall
    exact hnone hroom
  · refine ⟨i, call, getElem?_calls pending, hroom, ?_⟩
    obtain ⟨k, o, r⟩ := ev
    obtain rfl : k = i := hev
    rw [own_append_self]
    exact (inside_append_of_some hl).mpr rfl

lemma Within.joined {i : ℕ} {call : Call} {β : Type} {o : Op β} {k : Except Exn β → Handler Unit}
    (h : Within s₀ fin home ⟨c, .run i⟩) (pending : c.procs[i]? = some ⟨call, .await o k⟩)
    (hready : Game.ready o c.world.state = true) (sessionId p : UUID)
    (hp : Residents.Joined (Game.exec o c.world.state).2 sessionId p) :
    Residents.Joined fin.world.state sessionId p := by
  have hafter : Transition.after ⟨c, .run i⟩ = step (.run i) c := rfl
  have hstep : step (.run i) c = ⟨(c.world.perform i o).2,
      c.procs.set i ⟨call, k (c.world.perform i o).1⟩⟩ :=
    step_run pending hready
  have hjoined := h.after.joined sessionId p
  rw [hafter, hstep] at hjoined
  exact hjoined hp

lemma Within.spares {i : ℕ} {call : Call} {β : Type} {o : Op β} {k : Except Exn β → Handler Unit}
    (h : Within s₀ fin home ⟨c, .run i⟩) (pending : c.procs[i]? = some ⟨call, .await o k⟩)
    (hready : Game.ready o c.world.state = true) (hroom : Runtime.upper call.room ≠ home) :
    Op.Spares (realm s₀ fin home home) o := by
  cases o with
  | setWsToken token playerId n =>
    intro hmem
    have hafter : Transition.after ⟨c, .run i⟩ = step (.run i) c := rfl
    have hstep := step_run pending hready
    have hhistory := h.after.history.subset
    have hcall : fin.calls[i]? = some call := h.before.called (getElem?_calls pending)
    rw [hafter, hstep] at hhistory
    exact hmem rfl i call playerId n hcall hroom (hhistory List.mem_concat_self)
  | _ => trivial

lemma Kept.seats (h : Kept s₀ fin home c)
    (hids : (s₀.db.sessions.rows.map GameSession.sessionId).Nodup) (hsep : Separate home fin) :
    ∀ e ∈ (State.registry c.world.state).players,
      e.2 ∈ (realm s₀ fin home home).sockets → e.1 ∈ (realm s₀ fin home home).players := by
  intro e he hw
  obtain ⟨code, hplayer, hsocket⟩ := h.seated.seats e he
  obtain rfl := eq_of_socket hids hsep hw hsocket
  exact hplayer

omit [Runtime] in
lemma registry_outside {β : Type} (o : Op β) (t : State) :
    (o.outside.foldl Outside.act t).registry = t.registry := by
  cases o <;> rfl

lemma mirror (hids : (s₀.db.sessions.rows.map GameSession.sessionId).Nodup)
    (hdrawn : ∀ p ∈ s₀.db.players.rows, ∀ n, s₀.draws ≤ n → p.playerId ≠ Runtime.uuid4 n)
    (hsep : Separate home fin) :
    (onlyRoom home).Mirror (Within s₀ fin home) (Related s₀ fin home) where
  code call := rfl
  enter {c t call s} ht h hs hstays := by
    have hroom : Runtime.upper (Call.room call) = home := of_decide_eq_true hstays
    obtain ⟨t', ht', hsame⟩ := (h.same.enter hroom (ht.kept.fixed home)).1 s hs
    refine ⟨t', ht', ?_⟩
    have hstep : step (.spawn call) c = ⟨{ c.world with state := s },
        c.procs ++ [⟨call, system.code call⟩]⟩ := by
      simp [step, hs]
    rw [hstep]
    exact h.spawn hsame (enter_eq_some ht').2.2
  refuse {c t call} ht h hs hstays :=
    (h.same.enter (of_decide_eq_true hstays) (ht.kept.fixed home)).2 hs
  enterOther {c t call s} ht h hs hstays := by
    have hstep : step (.spawn call) c = ⟨{ c.world with state := s },
        c.procs ++ [⟨call, system.code call⟩]⟩ := by
      simp [step, hs]
    rw [hstep]
    exact h.spawn (h.same.enter_other (of_decide_eq_false hstays) hs) rfl
  perform {c t i call β o k} ht h pending hready hstays := by
    have hroom : Runtime.upper (Call.room call) = home := of_decide_eq_true hstays
    have hlocal := (ht.kept.stays.rest i _ pending).1
    have hcontains := (ht.kept.bounded i _ pending).1
    have hallows : ∀ a, (Game.exec o c.world.state).1 = .ok a →
        (realm s₀ fin home (Runtime.upper (Call.room call))).Allows o a :=
      fun a ha => ht.kept.allows hids hsep pending (ht.joined pending hready) ha
    rw [hroom] at hcontains hallows
    obtain ⟨hanswer, hsame⟩ := h.same.exec ht.before.covers (ht.kept.fixed home)
      (ht.kept.seats hids hsep) hroom hlocal
      hcontains hallows (ht.kept.fresh hdrawn pending)
    refine ⟨h.ready ht.kept hroom hlocal hready, hanswer, ?_⟩
    rw [step_run pending hready]
    refine h.resume pending hsame rfl fun hheld => ?_
    change (Game.exec o t).2.registry.locked = true at hheld
    rw [locked_exec i o t, hanswer] at hheld
    cases hl : locks ⟨i, o, (Game.exec o c.world.state).1⟩ with
    | none =>
      rw [hl] at hheld
      exact .inl ⟨hheld, fun _ => hl⟩
    | some b =>
      rw [hl] at hheld
      obtain rfl : b = true := hheld
      exact .inr ⟨hroom, hl⟩
  performOther {c t i call β o k} ht h pending hready hstays := by
    have hroom : Runtime.upper (Call.room call) ≠ home := of_decide_eq_false hstays
    have hsame := h.same.exec_other ht.before.covers (apart_realms hids hsep (Ne.symm hroom)) rfl
      (ht.kept.stays.rest i _ pending).1 (ht.kept.bounded i _ pending).1
      (fun a ha => ht.kept.allows hids hsep pending (ht.joined pending hready) ha)
        (ht.spares pending hready hroom)
    rw [step_run pending hready]
    refine h.resume pending hsame rfl fun hheld => .inl ⟨?_, fun heq => absurd heq hroom⟩
    exact (congrArg Registry.locked (registry_outside o t)).symm.trans hheld
  fail {c t i call β o k e} ht h pending := by
    have hstep : step (.fault i e) c =
        ⟨c.world.fail i o e, c.procs.set i ⟨call, k (.error e)⟩⟩ := by
      simp [step, pending]
    rw [hstep]
    exact h.resume pending h.same rfl fun hheld => .inl ⟨hheld, fun _ => by cases o <;> rfl⟩
  env {c t e} ht h := by
    refine ⟨h.same.env e, fun hheld => h.locked ?_⟩
    cases e <;> exact hheld

end Mirror

section Frames

variable {s₀ : State} {fin c : system.Config} {home : String}

omit [Runtime] in
lemma sentFrame_unlabelled : sentFrame ∘ Eraser.unlabelled = sentFrame := by
  funext ⟨i, o, r⟩
  cases r <;> cases o <;> rfl

omit [Runtime] in
lemma sentFrames_unlabelled (history : List Ev) :
    sentFrames (history.map Eraser.unlabelled) = sentFrames history := by
  rw [sentFrames, List.filterMap_map, sentFrame_unlabelled, sentFrames]

lemma Kept.frame (h : Kept s₀ fin home c) {ev : Ev} (hev : ev ∈ c.world.history) {w : Socket}
    {message : Frame} (hsent : sentFrame ev = some (w, message)) :
    ∃ call, c.calls[ev.pid]? = some call ∧
      w ∈ (realm s₀ fin home (Runtime.upper (Call.room call))).sockets := by
  obtain ⟨call, hcall, hcontains⟩ := h.contained ev hev
  obtain ⟨i, o, r⟩ := ev
  cases o with
  | sendJson websocket frame =>
    cases r with
    | error e => cases hsent
    | ok a =>
      cases hsent
      exact ⟨call, hcall, hcontains⟩
  | _ => cases r <;> cases hsent

lemma Kept.frames (h : Kept s₀ fin home fin)
    (hids : (s₀.db.sessions.rows.map GameSession.sessionId).Nodup) (hsep : Separate home fin) :
    sentFrames ((onlyRoom home).events fin) =
      (sentFrames fin.world.history).filter fun f => f.1 ∈ socketsOf home fin.calls := by
  rw [Eraser.events, sentFrames_unlabelled, sentFrames, List.filterMap_filter, sentFrames,
    List.filter_filterMap]
  refine List.filterMap_congr fun ev hev => ?_
  cases hsent : sentFrame ev with
  | none => simp
  | some f =>
    obtain ⟨w, message⟩ := f
    obtain ⟨call, hcall, hw⟩ := h.frame hev hsent
    have hiff : Runtime.upper (Call.room call) = home ↔ w ∈ socketsOf home fin.calls :=
      ⟨fun heq => heq ▸ hw, fun hmem => eq_of_socket hids hsep hw hmem⟩
    simp [hcall, onlyRoom, Option.filter, hiff]

end Frames

end Isolation

structure Unaffected (roomCode : String) (s t : State) : Prop where
  now : t.now = s.now
  session : t.db.sessions.get? roomCode = s.db.sessions.get? roomCode
  players : ∀ g ∈ s.db.sessions.get? roomCode, t.db.playersOf g.sessionId =
    s.db.playersOf g.sessionId
  answers : ∀ g ∈ s.db.sessions.get? roomCode, ∀ questionId,
    t.db.answersOf g.sessionId questionId = s.db.answersOf g.sessionId questionId
  questions : ∀ code, Runtime.upper code = roomCode →
    t.redis.questions code = s.redis.questions code
  questionStart : ∀ code, Runtime.upper code = roomCode → t.redis.questionStart code =
    s.redis.questionStart code
  answered : ∀ code, Runtime.upper code = roomCode → t.redis.answered code = s.redis.answered code
  prevRanking : ∀ code, Runtime.upper code = roomCode →
    t.redis.prevRanking code = s.redis.prevRanking code
  rooms : ∀ code, Runtime.upper code = roomCode → t.registry.rooms code = s.registry.rooms code
  hosts : ∀ code, Runtime.upper code = roomCode → t.registry.hosts code = s.registry.hosts code
  subscriptions : ∀ code, Runtime.upper code = roomCode → t.registry.subscriptions code =
    s.registry.subscriptions code
  sockets : ∀ g ∈ s.db.sessions.get? roomCode, ∀ p ∈ s.db.playersOf g.sessionId,
    t.registry.playerSocket p.playerId = s.registry.playerSocket p.playerId
  timers : t.timers.filter (fun timer => Runtime.upper timer.roomCode = roomCode) =
    s.timers.filter fun timer => Runtime.upper timer.roomCode = roomCode

namespace Isolation

lemma same_refl {R : Realm} {s : State} (hs : s.registry = .empty) : Same R s s where
  db := ⟨rfl, rfl, fun _ _ => rfl, fun _ _ => rfl, fun _ h => h, rfl⟩
  redis := ⟨fun _ _ => rfl, fun _ _ => rfl, fun _ _ => rfl, fun _ _ => rfl, fun _ _ => rfl⟩
  registry := by
    rw [hs]
    exact ⟨fun _ _ => rfl, fun _ _ => rfl, fun _ _ => rfl, rfl⟩
  now := rfl
  draws := rfl
  timers := rfl

lemma related_start {s : State} {fin : system.Config} {home : String} (hs : s.registry = .empty) :
    Related s fin home (start s) s := by
  refine ⟨same_refl hs, fun hheld => ?_⟩
  rw [hs] at hheld
  cases hheld

lemma Same.unaffected {s₀ s t : State} {fin : system.Config} {home : String}
    (h : Same (realm s₀ fin home home) s t) (hcovers : Covers (realm s₀ fin home home) s.db)
    (hsession : (s.db.sessions.get? home).map GameSession.sessionId =
      (realm s₀ fin home home).sessionId) :
    Unaffected home s t := by
  have hid : ∀ g ∈ s.db.sessions.get? home, (realm s₀ fin home home).sessionId =
      some g.sessionId := by
    intro g hg
    rw [← hsession, show s.db.sessions.get? home = some g from hg, Option.map_some]
  refine ⟨h.now, h.db.session, fun g hg => h.db.roster _ (hid g hg), fun g hg _ =>
    h.db.answersOf hcovers (hid g hg),
    h.redis.questions, h.redis.questionStart, h.redis.answered, h.redis.prevRanking,
    h.registry.rooms, h.registry.hosts,
    h.registry.subscriptions, fun g hg p hp => h.registry.playerSocket ?_, h.timers⟩
  obtain ⟨hmem, hs⟩ := List.mem_filter.mp hp
  exact hcovers p hmem ((hid g hg).trans (congrArg some (of_decide_eq_true hs).symm))

end Isolation

open Isolation

/-- Without the requests for other rooms, a room's requests have come to where they are, everything
of the room is as it is, and its sockets have been sent what they have been sent. -/
theorem rooms_apart {s : State} (hs : s.registry = .empty)
    (hids : (s.db.sessions.rows.map GameSession.sessionId).Nodup)
    (hdrawn : ∀ p ∈ s.db.players.rows, ∀ n, s.draws ≤ n → p.playerId ≠ Runtime.uuid4 n)
    (roomCode : String) (acts : List system.Act) {c : system.Config} (hc : run acts (start s) = c)
    (hsep : Separate roomCode c) {d : roomSystem.Config}
    (hd : run ((onlyRoom roomCode).eraseRun (start s) acts) (start s) = d) :
    Unaffected roomCode c.world.state d.world.state ∧
      d.procs = (c.procs.filter fun p => Runtime.upper (Call.room p.call) = roomCode).map
        (onlyRoom roomCode).proc ∧
      sentFrames d.world.history =
        (sentFrames c.world.history).filter fun f => f.1 ∈ socketsOf roomCode c.calls := by
  subst hc hd
  obtain ⟨hbefore, hlast⟩ := kept_run hs hids acts hsep
  have hstart : (onlyRoom roomCode).Erased (Related s (run acts (start s)) roomCode)
      (start s) (start s) :=
    ⟨@labelled_start _ _ _ system s, related_start hs, rfl, rfl⟩
  have herased := hstart.run (mirror hids hdrawn hsep) acts fun t ht =>
    ⟨hbefore t ht, (toward_of_mem ht).1, (toward_of_mem ht).2⟩
  refine ⟨herased.related.same.unaffected (toward_refl _).covers (hlast.fixed roomCode),
    herased.procs, ?_⟩
  rw [← hlast.frames hids hsep, ← herased.history, sentFrames_unlabelled]

end

section Sample

attribute [local instance] Runtime.ascii

def twoRooms : State :=
  { Sample.state with
    db := { Sample.state.db with
      sessions :=
        ⟨[Sample.session, { Sample.session with sessionId := "session2", roomCode := "UVWXYZ" }], by
        decide⟩
      quizId_fk := by decide } }

def twoRoomsRun : List system.Act :=
  [.spawn (Call.joinRoom "abcdef" "Cyd" none), .spawn (Call.hostEndpoint 1 "uvwxyz" none "host"),
    .spawn (Call.joinRoom "UVWXYZ" "Dan" none)] ++
      [0, 1, 1, 2, 0, 2, 2, 1, 0, 2, 1, 0, 2, 1, 0, 2, 1].map Act.run

theorem rooms_apart_twoRooms :
    let c := run twoRoomsRun (start twoRooms)
    let d := run ((onlyRoom "UVWXYZ").eraseRun (start twoRooms) twoRoomsRun) (start twoRooms)
    Unaffected "UVWXYZ" c.world.state d.world.state ∧
      d.procs = (c.procs.filter fun p => Runtime.upper (Call.room p.call) = "UVWXYZ").map
        (onlyRoom "UVWXYZ").proc ∧
      sentFrames d.world.history =
        (sentFrames c.world.history).filter fun f => f.1 ∈ socketsOf "UVWXYZ" c.calls := by
  have hcalls : (run twoRoomsRun (start twoRooms)).calls = [.joinRoom "abcdef" "Cyd" none,
      .hostEndpoint 1 "uvwxyz" none "host", .joinRoom "UVWXYZ" "Dan" none] := by rfl
  refine rooms_apart rfl (by decide +kernel) ?_ "UVWXYZ" twoRoomsRun rfl ⟨?_, ?_⟩ rfl
  · intro p hp n _ heq
    have hletter : 'p' ∈ (Runtime.uuid4 n).toList := by
      rw [← heq]
      exact (by decide +kernel : ∀ p ∈ Sample.players, 'p' ∈ p.playerId.toList) p hp
    simp [Runtime.uuid4] at hletter
  · intro call hcall call' hcall' w hw hw'
    rw [hcalls] at hcall hcall'
    have honly : ∀ call ∈ [Call.joinRoom "abcdef" "Cyd" none, .hostEndpoint 1 "uvwxyz" none "host",
        .joinRoom "UVWXYZ" "Dan" none], Call.socket call = some w → call =
        .hostEndpoint 1 "uvwxyz" none "host" := by
      simp [Call.socket]
    rw [honly call hcall hw, honly call' hcall' hw']
  · intro id code origin token hmem
    have hnone : Call.playerEndpoint id code origin
      (some token) ∉ [Call.joinRoom "abcdef" "Cyd" none,
        .hostEndpoint 1 "uvwxyz" none "host", .joinRoom "UVWXYZ" "Dan" none] := by simp
    exact absurd (hcalls ▸ hmem) hnone

end Sample

end Askit.Game
