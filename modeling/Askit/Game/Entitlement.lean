import Askit.Game.Duties
import Askit.Game.Residents

/-! In every run the registry holds only sockets that an endpoint has admitted, so that each frame
reaches only those who are entitled to it, and correct answers only when they are due. -/

namespace Askit.Game

open Interleaving Machine Coro Tables

section

variable [Runtime]

namespace Recipients

variable {i : ℕ} {call : Call} {roomCode : String} {playerId : UUID} {websocket : Socket}
    {message : Frame}
variable {l l' : List Ev} {α β γ : Type}

section Registry

variable {c d : system.Config} {s s₀ : State}

structure Backed (c : system.Config) (r : Registry) : Prop where
  hosts : ∀ room w, r.hosts room = some w → HostSocket c room w
  players : ∀ entry ∈ r.players, ∃ roomCode, PlayerSocket c roomCode entry.1 entry.2
  rooms : ∀ room, ∀ w ∈ r.rooms room, RoomSocket c room w
  inboxes : ∀ room, ∀ e ∈ r.pending room, ∃ (j : ℕ) (q : Except Exn Unit),
    ⟨j, .publish room e, q⟩ ∈ c.world.history

namespace Backed

variable {r : Registry}

lemma mono (h : Backed c r) (hd : Extends c d) : Backed d r where
  hosts room w hw := (h.hosts room w hw).mono hd
  players entry he := (h.players entry he).imp fun _ hw => hw.mono hd
  rooms room w hw := (h.rooms room w hw).mono hd
  inboxes room e he := by
    obtain ⟨j, q, hev⟩ := h.inboxes room e he
    exact ⟨j, q, hd.2.subset hev⟩

lemma empty (c : system.Config) : Backed c .empty where
  hosts room w h := by cases h
  players entry h := by cases h
  rooms room w h := by cases h
  inboxes room e h := by cases h

lemma join (h : Backed c r) {playerId : Option UUID}
    (hhost : playerId = none → HostSocket c roomCode websocket)
    (hplayer : ∀ p, playerId = some p → PlayerSocket c roomCode p websocket) :
    Backed c (r.join websocket roomCode playerId) where
  hosts room w hw := by
    cases playerId with
    | some p => exact h.hosts room w hw
    | none =>
      by_cases hroom : room = roomCode
      · subst hroom
        obtain rfl : websocket = w := by simpa [Registry.join] using hw
        exact hhost rfl
      · exact h.hosts room w (by simpa [Registry.join, hroom] using hw)
  players entry he := by
    cases playerId with
    | none => exact h.players entry he
    | some p =>
      rcases List.mem_cons.mp he with rfl | he
      · exact ⟨roomCode, hplayer p rfl⟩
      · exact h.players entry (List.mem_filter.mp he).1
  rooms room w hw := by
    have hmine : RoomSocket c roomCode websocket := by
      cases playerId with
      | none => exact .inl (hhost rfl)
      | some p => exact .inr ⟨p, hplayer p rfl⟩
    by_cases hroom : room = roomCode
    · subst hroom
      have hmem : w ∈ insert websocket (r.rooms room) := by simpa [Registry.join] using hw
      rcases List.mem_insert_iff.mp hmem with rfl | hmem
      · exact hmine
      · exact h.rooms room w hmem
    · exact h.rooms room w (by simpa [Registry.join, hroom] using hw)
  inboxes room e he := by
    apply h.inboxes room e
    unfold Registry.pending Registry.join at he
    dsimp only at he
    split at he
    · next hnew =>
      by_cases hroom : room = roomCode
      · subst hroom
        simp at he
      · simpa [Registry.pending, hroom] using he
    · exact he

lemma leave (h : Backed c r) (w : Socket) (roomCode : String) :
    Backed c (r.leave w roomCode).2 := by
  have hrooms : ∀ room, ∀ v ∈ Function.update r.rooms roomCode ((r.rooms roomCode).erase w) room,
      RoomSocket c room v := by
    intro room v hv
    by_cases hroom : room = roomCode
    · subst hroom
      rw [Function.update_self] at hv
      exact h.rooms room v (List.mem_of_mem_erase hv)
    · rw [Function.update_of_ne hroom] at hv
      exact h.rooms room v hv
  unfold Registry.leave
  dsimp only
  split
  · refine ⟨h.hosts, h.players, hrooms, fun room e he => h.inboxes room e ?_⟩
    by_cases hroom : room = roomCode
    · subst hroom
      simp [Registry.pending] at he
    · simpa [Registry.pending, hroom] using he
  · exact ⟨h.hosts, h.players, hrooms, h.inboxes⟩

lemma forget (h : Backed c r) (roomCode : String) (playerId : Option UUID) :
    Backed c (r.forget roomCode playerId) := by
  cases playerId with
  | some p => exact ⟨h.hosts, fun entry he => h.players entry (List.mem_filter.mp he).1,
      h.rooms, h.inboxes⟩
  | none =>
    refine ⟨fun room w hw => ?_, h.players, h.rooms, h.inboxes⟩
    by_cases hroom : room = roomCode
    · subst hroom
      simp [Registry.forget] at hw
    · exact h.hosts room w (by simpa [Registry.forget, hroom] using hw)

lemma update (h : Backed c r) (roomCode : String) (f : Subscription → Subscription)
    (hf : ∀ b, ∀ e ∈ (f b).inbox, e ∈ b.inbox ∨
      ∃ (j : ℕ) (q : Except Exn Unit), ⟨j, .publish roomCode e, q⟩ ∈ c.world.history) :
    Backed c (r.update roomCode f) := by
  refine ⟨h.hosts, h.players, h.rooms, fun room e he => ?_⟩
  by_cases hroom : room = roomCode
  · subst hroom
    cases hb : r.subscriptions room with
    | none => simp [Registry.pending, Registry.update, hb] at he
    | some b =>
      have hmem : e ∈ (f b).inbox := by simpa [Registry.pending, Registry.update, hb] using he
      rcases hf b e hmem with hmem | hpublished
      · exact h.inboxes room e (by simpa [Registry.pending, hb] using hmem)
      · exact hpublished
  · exact h.inboxes room e (by simpa [Registry.pending, Registry.update, hroom] using he)

lemma exec (h : Backed c s.registry) (hd : Extends c d) {o : Op β}
    (hcall : d.calls[i]? = some call) (hev : ⟨i, o, (exec o s).1⟩ ∈ d.world.history)
    (hduty : Duty call (own i c.world.history) ⟨i, o, (exec o s).1⟩) :
    Backed d (exec o s).2.registry := by
  have hown : own i c.world.history ⊆ d.world.history :=
    fun ev hev => hd.2.subset (mem_own.mp hev).1
  replace h : Backed d s.registry := h.mono hd
  cases o with
  | joinRoom w room playerId =>
    apply h.join
    · rintro rfl
      obtain ⟨id, origin, hostUser, loaded, rfl, hw, hread, hhost⟩ := hduty
      exact ⟨i, id, origin, hostUser, loaded, hcall, hw, hown hread, hhost⟩
    · rintro p rfl
      obtain ⟨id, origin, token, loaded, rfl, hw, htoken, hread, hp⟩ := hduty
      exact ⟨i, id, origin, token, loaded, hcall, hw, hown htoken, hown hread, hp⟩
  | leaveRoom w room => exact h.leave w room
  | forget room playerId => exact h.forget room playerId
  | releaseLock => exact ⟨h.hosts, h.players, h.rooms, h.inboxes⟩
  | publish room e =>
    apply h.update
    intro b e' he'
    unfold Registry.deliver at he'
    split at he'
    · rcases List.mem_append.mp he' with he' | he'
      · exact .inl he'
      · exact .inr ⟨i, _, List.mem_singleton.mp he' ▸ hev⟩
    · exact .inl he'
  | subscribe room => exact h.update room _ fun _ _ he => .inl he
  | listen room =>
    simp only [Game.exec]
    split
    · next e rest hpending =>
      refine ⟨h.hosts, h.players, h.rooms, fun room' e' he' => h.inboxes room' e' ?_⟩
      by_cases hroom : room' = room
      · subst hroom
        rw [hpending]
        cases hb : s.registry.subscriptions room' with
        | none => simp [Registry.pending, Registry.update, hb] at he'
        | some b => exact List.mem_cons_of_mem e (by simpa [Registry.pending, Registry.update,
            hb] using he')
      · simpa [Registry.pending, Registry.update, hroom] using he'
    · exact h
  | commit changes =>
    cases he : s.db.commit changes with
    | none =>
      rw [exec_commit_none he]
      exact h
    | some e =>
      rw [exec_commit_some he]
      exact h
  | _ => exact h

end Backed

end Registry

section Runs

variable {c d : system.Config} {s₀ : State}

def results (s : State) (roomCode : String) :
    Option Bool := (s.db.sessions.get? roomCode).map GameSession.publicResults

def Truthful (s₀ : State) (c : system.Config) : Ev → Prop
  | ⟨_, .hostSocket room, .ok (some w)⟩ => HostSocket c room w
  | ⟨_, .playerSocket playerId, .ok (some w)⟩ => ∃ roomCode, PlayerSocket c roomCode playerId w
  | ⟨_, .roomSockets room, .ok sockets⟩ => ∀ w ∈ sockets, RoomSocket c room w
  | ⟨_, .listen room, .ok e⟩ => ∃ (j : ℕ) (q : Except Exn Unit),
      ⟨j, .publish room e, q⟩ ∈ c.world.history
  | ⟨_, .getRoom roomCode, .ok (some room)⟩ => results s₀ (Runtime.upper roomCode) = some
      room.session.publicResults
  | _ => True

lemma truthful_of_error {β : Type} (o : Op β) (e : Exn) : Truthful s₀ c ⟨i, o, .error e⟩ := by
  cases o <;> trivial

lemma Truthful.mono {ev : Ev} (h : Truthful s₀ c ev) (hd : Extends c d) : Truthful s₀ d ev := by
  obtain ⟨j, o, r⟩ := ev
  cases r with
  | error e => exact truthful_of_error o e
  | ok a =>
    cases o with
    | hostSocket room =>
      cases a with
      | none => trivial
      | some w => exact HostSocket.mono h hd
    | playerSocket playerId =>
      cases a with
      | none => trivial
      | some w =>
        obtain ⟨roomCode, hw⟩ := h
        exact ⟨roomCode, hw.mono hd⟩
    | roomSockets room => exact fun w hw => (h w hw).mono hd
    | listen room =>
      obtain ⟨j, q, hev⟩ := h
      exact ⟨j, q, hd.2.subset hev⟩
    | getRoom roomCode =>
      cases a with
      | none => trivial
      | some room => exact h
    | _ => exact h

lemma results_exec {β : Type} (o : Op β) (s : State) (roomCode : String) :
    results (exec o s).2 roomCode = results s roomCode :=
  Residents.session_exec GameSession.publicResults (fun _ _ => rfl) o s roomCode

structure Kept (s₀ : State) (c : system.Config) : Prop where
  labelled : c.Labelled
  traced : c.Traced Duty fun _ _ _ => True
  answers : ∀ ev ∈ c.world.history, Truthful s₀ c ev
  backed : Backed c (State.registry c.world.state)
  fixed : ∀ roomCode, results c.world.state roomCode = results s₀ roomCode

lemma kept_start (hs : s₀.registry = .empty) : Kept s₀ (start s₀) where
  labelled := @labelled_start _ _ _ system s₀
  traced := @traced_start _ _ _ system _ _ s₀
  answers ev h := by cases h
  backed := by
    change Backed _ s₀.registry
    rw [hs]
    exact Backed.empty _
  fixed _ := rfl

lemma Kept.truthful (h : Kept s₀ c) (hd : Extends c d) {β : Type} {o : Op β} {r : Except Exn β}
    (hr : (exec o c.world.state).1 = r) : Truthful s₀ d ⟨i, o, r⟩ := by
  have hbacked := h.backed.mono hd
  cases o with
  | hostSocket room =>
    subst hr
    simp only [exec]
    cases hw : (State.registry c.world.state).hosts room with
    | none => trivial
    | some w => exact hbacked.hosts room w hw
  | playerSocket playerId =>
    subst hr
    simp only [exec]
    cases hw : (State.registry c.world.state).playerSocket playerId with
    | none => trivial
    | some w =>
      obtain ⟨l, r, hl, -⟩ := List.lookup_eq_some_iff.mp hw
      exact hbacked.players (playerId, w) (by simp [hl])
  | roomSockets room =>
    subst hr
    exact hbacked.rooms room
  | listen room =>
    subst hr
    simp only [exec]
    split
    · next e rest hpending =>
        exact hbacked.inboxes room e (by rw [hpending]; exact List.mem_cons_self)
    · trivial
  | getRoom roomCode =>
    subst hr
    simp only [exec]
    cases hroom : (State.db c.world.state).room? (Runtime.upper roomCode) with
    | none => trivial
    | some room =>
      change results s₀ _ = _
      rw [← h.fixed]
      exact congrArg (Option.map GameSession.publicResults) (Db.session_room? hroom)
  | _ => cases r <;> trivial

lemma Kept.step (h : Kept s₀ c) (a : system.Act) : Kept s₀ (Machine.step a c) := by
  have hd := extends_step a c
  have hlabelled := h.labelled.step a
  have htraced := h.traced.step h.labelled (fun i call => code_follows i call) a
  have hcalls := fun i call => @call_step _ _ _ system a c i call
  have hm := step_moves a c
  generalize Machine.step a c = d at hm hd hlabelled htraced hcalls
  have hanswers : ∀ ev ∈ c.world.history, Truthful s₀ d ev :=
    fun ev hev => (h.answers ev hev).mono hd
  cases hm with
  | idle => exact h
  | spawn call s admitted =>
    obtain ⟨hdb, -, hregistry⟩ := enter_eq_some admitted
    refine ⟨hlabelled, htraced, hanswers, ?_, fun roomCode => ?_⟩
    · change Backed _ (State.registry s)
      rw [hregistry]
      exact h.backed.mono hd
    · change (Table.get? (State.db s).sessions roomCode).map _ = _
      rw [hdb]
      exact h.fixed roomCode
  | env e =>
    refine ⟨hlabelled, htraced, hanswers, ?_, ?_⟩ <;> cases e
    · exact h.backed.mono hd
    · exact h.backed.mono hd
    · exact h.fixed
    · exact h.fixed
  | fault i e call o k pending =>
    refine ⟨hlabelled, htraced, fun ev hev => ?_, h.backed.mono hd, h.fixed⟩
    rcases List.mem_append.mp hev with hev | hev
    · exact hanswers ev hev
    · rw [List.mem_singleton.mp hev]
      exact truthful_of_error o e
  | run i call o k pending ready =>
    have hduty : Duty call (own i c.world.history) ⟨i, o, (exec o c.world.state).1⟩ :=
      (h.traced.rest i _ pending (exec o c.world.state).1 fun a ha => ⟨c.world.state, ha⟩).1
    have hcall := hcalls i call (getElem?_calls pending)
    refine ⟨hlabelled, htraced, fun ev hev => ?_, h.backed.exec hd hcall List.mem_concat_self hduty,
      fun roomCode => ?_⟩
    · rcases List.mem_append.mp hev with hev | hev
      · exact hanswers ev hev
      · rw [List.mem_singleton.mp hev]
        exact h.truthful hd rfl
    · exact (results_exec o _ roomCode).trans (h.fixed roomCode)

lemma kept_run (hs : s₀.registry = .empty) (acts : List system.Act) :
    Kept s₀ (run acts (start s₀)) :=
  (invariant (I := Kept s₀) (P := fun _ => True) (fun t _ h => h.step t.act) (kept_start hs) acts
    fun _ _ => trivial).2

lemma entitled_of_shared (hs : message.Shared) (hw : RoomSocket c call.room websocket) :
    Entitled c call websocket message := by
  cases message with
  | error | roomState | answerResult | hostAnswerUpdate => exact hs.elim
  | gameFinished finished =>
    rcases hw with hw | ⟨playerId, hw⟩
    · exact .inl hw
    · have hpublic : finished.publicResults = true := hs
      exact .inr ⟨playerId, ⟨call.room, rfl, hw⟩, fun h => (by rw [hpublic] at h; cases h)⟩
  | _ => exact hw

lemma Kept.duty (h : Kept s₀ c) {ev : Ev} (hev : ev ∈ c.world.history) :
    ∃ before call, before <+: c.world.history ∧ c.calls[ev.pid]? = some call ∧
    Duty call (own ev.pid before) ev := by
  obtain ⟨before, hbefore, call, hcall, hduty⟩ := h.traced.history.of_mem hev
  exact ⟨before, call, hbefore, hcall, hduty⟩

omit [Runtime] in
lemma own_subset {before history : List Ev} (h : before <+: history) : own i before ⊆ history :=
  fun _ hev => h.subset (mem_own.mp hev).1

lemma ownSocket_of_resident (hm : Residents.Kept s₀ c)
    (hids : (s₀.db.sessions.rows.map GameSession.sessionId).Nodup)
    (hresident : Residents.Resident s₀ c.world.state roomCode playerId) {code : String}
    (hw : PlayerSocket c code playerId websocket) : OwnSocket c roomCode playerId websocket := by
  refine ⟨code, ?_, hw⟩
  obtain ⟨j, id, origin, token, room, -, -, -, hread, p, hp, rfl⟩ := hw
  exact hresident.unique hids (hm.resident hread hp)

lemma ownSocket_of_finds (hm : Residents.Kept s₀ c)
    (hids : (s₀.db.sessions.rows.map GameSession.sessionId).Nodup) (hl : l ⊆ c.world.history)
    (hfinds : Finds i call l playerId) {code : String}
    (hw : PlayerSocket c code playerId websocket) : OwnSocket c call.room playerId websocket := by
  obtain ⟨room, hread, p, hp, rfl⟩ := hfinds
  exact ownSocket_of_resident hm hids (hm.resident (hl hread) hp) hw

lemma Kept.personal (h : Kept s₀ c) (hm : Residents.Kept s₀ c)
    (hids : (s₀.db.sessions.rows.map GameSession.sessionId).Nodup) (hcall : c.calls[i]? = some call)
    (hl : l ⊆ c.world.history) {code : String} (hw : PlayerSocket c code playerId websocket)
    (hp : Personal i call l playerId message) : Entitled c call websocket message := by
  have hframe : ∀ data, call = .playerFrame call.room playerId data →
      OwnSocket c call.room playerId websocket := by
    intro data heq
    have hmem : Call.playerFrame call.room playerId data ∈ c.calls :=
      List.mem_of_getElem? (hcall.trans (congrArg some heq))
    exact ownSocket_of_resident hm hids (hm.frames _ _ _ hmem) hw
  cases message with
  | error =>
    obtain ⟨data, heq⟩ := hp
    exact .inr ⟨playerId, data, heq, hframe data heq⟩
  | answerResult result =>
    obtain ⟨data, heq⟩ := hp
    exact ⟨playerId, data, heq, hframe data heq⟩
  | roomState state => exact .inr ⟨hp.1, playerId, ownSocket_of_finds hm hids hl hp.2 hw⟩
  | gameFinished finished =>
    obtain ⟨hfinds, room, room', hread, hread', hresults, hown⟩ := hp
    refine .inr ⟨playerId, ownSocket_of_finds hm hids hl hfinds hw, fun hprivate =>
      hown.resolve_left fun hpublic => ?_⟩
    -- both readings of the room say the same of its results
    have hsame : results s₀ (Runtime.upper call.room) = some room.session.publicResults :=
      h.answers _ (hl hread)
    have hsame' : results s₀ (Runtime.upper call.room) = some room'.session.publicResults :=
      h.answers _ (hl hread')
    rw [hsame, hpublic, Option.some.injEq, ← hresults, hprivate] at hsame'
    cases hsame'
  | _ => exact hp.elim

lemma Kept.entitled (h : Kept s₀ c) (hm : Residents.Kept s₀ c)
    (hids : (s₀.db.sessions.rows.map GameSession.sessionId).Nodup)
    (hcall : c.calls[i]? = some call) (hl : l ⊆ c.world.history)
    (hsent : Sent i call l websocket message) :
    Entitled c call websocket message := by
  cases hsent with
  | host found own due =>
    have hw : HostSocket c call.room websocket := h.answers _ (hl found)
    cases message with
    | answerResult result => exact (own result rfl).elim
    | hostAnswerUpdate update => exact hw
    | _ => exact .inl hw
  | player playerId found personal due =>
    obtain ⟨code, hw⟩ : ∃ code, PlayerSocket c code playerId websocket := h.answers _ (hl found)
    exact h.personal hm hids hcall hl hw personal
  | room sockets found mem shared due =>
    exact entitled_of_shared shared (h.answers _ (hl found) websocket mem)
  | relay sockets e found mem heard =>
    have hpublished : Truthful s₀ c ⟨i, .listen call.room, .ok e⟩ := h.answers _ (hl heard)
    obtain ⟨j, q, hev⟩ := hpublished
    obtain ⟨before, call', -, -, -, hshared, -⟩ := h.duty hev
    exact entitled_of_shared hshared (h.answers _ (hl found) websocket mem)

lemma Kept.traceable (h : Kept s₀ c) (hl : l ⊆ c.world.history)
    (hsent : Sent i call l websocket message) :
    Traceable c i call c.world.history message := by
  cases hsent with
  | host _ _ due | player _ _ _ due | room _ _ _ _ due => exact .inl (due_mono due hl)
  | relay sockets e found mem heard =>
    have hpublished : Truthful s₀ c ⟨i, .listen call.room, .ok e⟩ := h.answers _ (hl heard)
    obtain ⟨j, q, hev⟩ := hpublished
    obtain ⟨before, call', hbefore, hcall', hroom, hshared, hdue⟩ := h.duty hev
    exact .inr ⟨hshared, j, call', hcall', hroom.symm, due_mono hdue (own_subset hbefore)⟩

end Runs

end Recipients

open Recipients in
/-- Whatever fails and however the handlers interleave, a frame is sent only to sockets that are
entitled to it. -/
theorem frames_reach_entitled (s : State) (hs : s.registry = .empty)
    (hids : (s.db.sessions.rows.map GameSession.sessionId).Nodup) (acts : List system.Act) {i : ℕ}
    {websocket : Socket} {message : Frame} {r : Except Exn Unit}
    (hsent : ⟨i, .sendJson websocket message, r⟩ ∈ (run acts (start s)).world.history) :
    ∃ call, (run acts (start s)).calls[i]? = some call ∧
      Entitled (run acts (start s)) call websocket message := by
  have hkept := kept_run hs acts
  obtain ⟨before, call, hbefore, hcall, hduty⟩ := hkept.duty hsent
  exact ⟨call, hcall, hkept.entitled (Residents.kept_run s acts) hids hcall
    (own_subset hbefore) hduty⟩

open Recipients in
/-- Correct answers are sent out only to the player whose answer to the question has been recorded,
or after this very question has been closed; a timer that the room has overtaken alone shows those
of another question. -/
theorem correct_answers_are_due (s : State) (hs : s.registry = .empty)
    (acts : List system.Act) {i : ℕ}
    {websocket : Socket} {message : Frame} {r : Except Exn Unit}
    {before after : List (Event Op Exn)}
    (hsent : (run acts (start s)).world.history =
      before ++ ⟨i, .sendJson websocket message, r⟩ :: after) :
    ∃ call, (run acts (start s)).calls[i]? = some call ∧
      Traceable (run acts (start s)) i call before message := by
  obtain ⟨call, hcall, hduty⟩ := (kept_run hs acts).traced.history before _ after hsent
  obtain ⟨as, a, hprefix, hhistory, -⟩ := exists_step_of_history rfl hsent
  have htraceable := (kept_run hs as).traceable (l := own i before)
    (hhistory ▸ own_subset List.prefix_rfl) hduty
  have hgrows : Extends (run as (start s)) (run acts (start s)) := by
    obtain ⟨rest, hrest⟩ := hprefix
    rw [← hrest, List.append_assoc, run_append]
    exact ⟨calls_prefix_run _ _, history_prefix_run _ _⟩
  refine ⟨call, hcall, ?_⟩
  rw [hhistory] at htraceable
  rcases htraceable with hdue | ⟨hshared, j, call', hj, hrest⟩
  · exact .inl hdue
  · exact .inr ⟨hshared, j, call', hgrows.called hj, hrest⟩

end

section Sample

attribute [local instance] Runtime.ascii

def answerRun : List system.Act :=
  .spawn (Call.hostEndpoint 0 "ABCDEF" none "host") :: runs 0 3 ++
    .spawn (Call.playerFrame "ABCDEF" "p1" (.answer "q1" ["q1a"])) :: runs 1 16

lemma exists_sent {history : List (Event Op Exn)} {websocket : Socket} {message : Frame}
    (h : (websocket, message) ∈ sentFrames history) :
    ∃ i, ⟨i, .sendJson websocket message, .ok ()⟩ ∈ history := by
  obtain ⟨ev, hev, hsent⟩ := List.mem_filterMap.mp h
  obtain ⟨i, o, r⟩ := ev
  cases r with
  | error e => cases o <;> cases hsent
  | ok a =>
    cases o with
    | sendJson =>
      cases hsent
      exact ⟨i, hev⟩
    | _ => cases hsent

theorem frames_reach_entitled_answer :
    ∃ (i : ℕ) (call : Call), (run answerRun (start Sample.asking)).calls[i]? = some call ∧
      Entitled (run answerRun (start Sample.asking)) call ⟨.host, 0⟩
        (.hostAnswerUpdate ⟨"p1", "Ann", true, ["q1a"], 4000, 880⟩) := by
  have hframe : (⟨.host, 0⟩, .hostAnswerUpdate ⟨"p1", "Ann", true, ["q1a"], 4000, 880⟩) ∈
    sentFrames (run answerRun (start Sample.asking)).world.history := by decide +kernel
  obtain ⟨i, hsent⟩ := exists_sent hframe
  exact ⟨i, frames_reach_entitled Sample.asking rfl (by decide) answerRun hsent⟩

def closingRun : List system.Act :=
  .spawn (Call.hostEndpoint 0 "ABCDEF" none "host") :: runs 0 3 ++
    .spawn (Call.hostFrames "ABCDEF" "host" [.nextQuestion]) :: runs 1 10 ++ .fault 1
      .failure :: runs 1 3

def endedFirst : Frame :=
  .questionEnded ⟨"q1", ["q1a"], [("q1a", 0), ("q1b", 0)],
    [⟨1, "p1", "Ann", 0, 0⟩, ⟨2, "p2", "Ben", 0, 0⟩]⟩

theorem correct_answers_are_due_closing : ∃ (i : ℕ) (before after : List (Event Op Exn)),
    (run closingRun (start Sample.asking)).world.history =
      before ++ ⟨i, .sendJson ⟨.host, 0⟩ endedFirst, .ok ()⟩ :: after ∧
    ∃ call, (run closingRun (start Sample.asking)).calls[i]? = some call ∧
      Traceable (run closingRun (start Sample.asking)) i call before endedFirst := by
  have hframe : (⟨.host, 0⟩, endedFirst) ∈ sentFrames
      (run closingRun (start Sample.asking)).world.history := by
    decide +kernel
  obtain ⟨i, hsent⟩ := exists_sent hframe
  obtain ⟨before, after, hhistory⟩ := List.append_of_mem hsent
  exact ⟨i, before, after, hhistory, correct_answers_are_due Sample.asking rfl closingRun hhistory⟩

end Sample

end Askit.Game