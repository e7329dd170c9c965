import Askit.Game.Presence

/-! What an endpoint does and undoes in turn, and which failures get past its handlers. -/

namespace Askit.Game

open Interleaving Machine Coro Tables

/-- The calls with which an endpoint takes its socket and its player's flag back. -/
def Op.cleansUp : {β : Type} → Op β → Bool
  | _, .leaveRoom .. | _, .awaitCancelled _ | _, .forget .. | _, .releaseLock
  | _, .updateConnected _ false => true
  | _, .commit changes => changes.connected.any fun p => !p.2
  | _, _ => false

/-- Where these raise the exception is logged, or the endpoint is on its way out already. -/
def Op.absorbed : {β : Type} → Op β → Bool
  | _, .sendJson .. | _, .publish .. | _, .disconnected _ | _, .close .. => true
  | _, _ => false

/-- What `build_room_state` and `build_game_finished` await. -/
def Op.loads : {β : Type} → Op β → Bool
  | _, .getRoom _ | _, .getQuestion _ | _, .getQuestions _ | _, .getQuestionStart _ | _, .now
  | _, .selectedAnswers .. | _, .answersWithPlayers .. | _, .getPrevRanking _ | _,
      .setPrevRanking .. => true
  | _, _ => false

inductive Passage
  | entered (websocket : Socket) (roomCode : String) (playerId : Option UUID)
  | flagged (playerId : UUID) (connected : Bool)
  | left (websocket : Socket) (roomCode : String)
  | forgot (roomCode : String) (playerId : Option UUID)
  deriving DecidableEq, Repr

def passage : Event Op Exn → Option Passage
  | ⟨_, .joinRoom websocket roomCode playerId, .ok _⟩ => some (.entered websocket roomCode playerId)
  | ⟨_, .commit changes, .ok _⟩ => changes.connected.map fun p => .flagged p.1 p.2
  | ⟨_, .leaveRoom websocket roomCode, .ok _⟩ => some (.left websocket roomCode)
  | ⟨_, .forget roomCode playerId, .ok _⟩ => some (.forgot roomCode playerId)
  | _ => none

def passages (l : List (Event Op Exn)) : List Passage := l.filterMap passage

def Passage.isHost : Passage → Bool
  | .entered _ _ none => true
  | _ => false

/-- The end of `build_room_state` as its endpoint sees it: the room is gone, or the host is looked
up to be sent the state. -/
def builtState : Event Op Exn → Bool
  | ⟨_, .hostSocket _, _⟩ => true
  | ⟨_, .getRoom _, .ok none⟩ => true
  | _ => false

/-- A host's endpoint has registered its socket and builds the room's state, in a `try`. -/
def building (l : List (Event Op Exn)) :
    Bool := (passages l).any Passage.isHost && !l.any builtState

/-- An exception that an endpoint with a registered socket does not expect. -/
def Slips (l : List (Event Op Exn)) {β : Type} (o : Op β) : Prop :=
  passages l ≠ [] ∧ o.absorbed = false ∧ o.cleansUp = false ∧ ¬(building l = true ∧ o.loads = true)

instance (l : List (Event Op Exn)) {β : Type} (o : Op β) : Decidable (Slips l o) :=
  inferInstanceAs (Decidable (_ ∧ _ ∧ _ ∧ _))

/-- A call of the clean-up has raised, or one whose exception is not expected. -/
def Escapes (l : List (Event Op Exn)) : Prop :=
  ∃ (before : List (Event Op Exn)) (i : ℕ) (β : Type) (o : Op β) (e : Exn),
    before ++ [⟨i, o, .error e⟩] <+: l ∧ (Slips before o ∨ o.cleansUp = true)

def flagOf (p : UUID) : Passage → Option Bool
  | .flagged q connected => if q = p then some connected else none
  | _ => none

def lastFlag (p : UUID) (l : List Passage) : Option Bool := (l.filterMap (flagOf p)).getLast?

inductive Complete : List Passage → Prop
  | refused : Complete []
  | player (websocket : Socket) (roomCode : String) (p : UUID) : Complete
      [.entered websocket roomCode (some p), .flagged p true, .left websocket roomCode,
        .forgot roomCode (some p), .flagged p false]
  | host (websocket : Socket) (roomCode : String) : Complete
      [.entered websocket roomCode none, .left websocket roomCode, .forgot roomCode none]

def Departed (_ : Except Exn Unit) (l : List (Event Op Exn)) :
    Prop := ¬Escapes l → Complete (passages l)

def Call.socket : Call → Option Socket
  | .playerEndpoint id _ _ _ => some ⟨.player, id⟩
  | .hostEndpoint id _ _ _ => some ⟨.host, id⟩
  | _ => none

section

variable {l l' : List (Event Op Exn)} {i : ℕ} {β : Type}

lemma passages_append (l : List (Event Op Exn)) (ev : Event Op Exn) :
    passages (l ++ [ev]) = passages l ++ (passage ev).toList := by
  rw [passages, List.filterMap_append]
  cases h : passage ev <;> simp [passages, h]

lemma Escapes.mono (h : Escapes l) (hl : l <+: l') : Escapes l' := by
  obtain ⟨before, i, β, o, e, hbefore, h⟩ := h
  exact ⟨before, i, β, o, e, hbefore.trans hl, h⟩

lemma escapes_of_error {o : Op β} (hl : passages l ≠ []) (ho : o.absorbed = false)
    (hb : ¬(building l = true ∧ o.loads = true)) (e : Exn) : Escapes (l ++ [⟨i, o, .error e⟩]) := by
  refine ⟨l, i, β, o, e, List.prefix_rfl, ?_⟩
  cases hc : o.cleansUp with
  | true => exact .inr rfl
  | false => exact .inl ⟨hl, ho, hc, hb⟩

lemma escapes_append {o : Op β} {r : Except Exn β} : Escapes (l ++ [⟨i, o, r⟩]) ↔
    Escapes l ∨ ∃ e, r = .error e ∧ (Slips l o ∨ o.cleansUp = true) := by
  constructor
  · rintro ⟨before, j, γ, o', e, hbefore, h⟩
    rcases List.prefix_concat_iff.mp hbefore with heq | hbefore
    · obtain ⟨rfl, hev⟩ := List.append_inj' heq rfl
      cases hev
      exact .inr ⟨e, rfl, h⟩
    · exact .inl ⟨before, j, γ, o', e, hbefore, h⟩
  · rintro (h | ⟨e, rfl, h⟩)
    · exact h.mono (List.prefix_append _ _)
    · exact ⟨l, i, β, o, e, List.prefix_rfl, h⟩

end

namespace Cleanup

def Loud {β : Type} (o : Op β) : Prop := o.absorbed = false

lemma sendQuietly_raises (w : Socket) (message : Frame) : (sendQuietly w message).Raises Loud :=
  Raises.tryCatch_perform fun _ => trivial

lemma sendToPlayer_raises (playerId : UUID) (message : Frame) :
    (sendToPlayer playerId message).Raises Loud := by
  apply Raises.bind (Raises.perform (by rfl))
  intro websocket
  cases websocket with
  | none => trivial
  | some w => exact sendQuietly_raises w message

lemma sendToHost_raises (roomCode : String) (message : Frame) :
    (sendToHost roomCode message).Raises Loud := by
  apply Raises.bind (Raises.perform (by rfl))
  intro websocket
  cases websocket with
  | none => trivial
  | some w => exact sendQuietly_raises w message

lemma broadcastToRoom_raises (roomCode : String) (message : Frame) (excludePlayerId : Option UUID) :
    (broadcastToRoom roomCode message excludePlayerId).Raises Loud := by
  apply Raises.tryCatch_perform
  intro _
  apply Raises.bind (Raises.perform (by rfl))
  intro connections
  apply Raises.forM
  intro w _
  apply Raises.bind (Raises.perform (by rfl))
  intro playerId
  split
  · trivial
  · exact sendQuietly_raises w message

lemma getLeaderboard_raises (roomCode : String) : (getLeaderboard roomCode).Raises Loud := by
  unfold getLeaderboard
  repeat' first | trivial | exact Raises.perform (by rfl) | apply Raises.bind | intro _ | split

lemma getCurrentQuestion_raises (roomCode : String) :
    (getCurrentQuestion roomCode).Raises Loud := by
  unfold getCurrentQuestion
  repeat' first | trivial | exact Raises.perform (by rfl) | apply Raises.bind | intro _ | split

lemma buildGameFinished_raises (roomCode : String) : (buildGameFinished roomCode).Raises Loud := by
  unfold buildGameFinished
  repeat' first
    | trivial | exact Raises.perform (by rfl) | apply getLeaderboard_raises | apply Raises.bind
    | intro _ | split

lemma sendFinished_raises {send : Frame → Handler Unit} (h : ∀ message, (send message).Raises Loud)
    (roomCode : String) (room : Room) (payload : WSGameFinished → WSGameFinished) :
    (sendFinished send roomCode room payload).Raises Loud := by
  unfold sendFinished
  repeat' first
    | trivial | apply h | apply buildGameFinished_raises | apply Raises.bind | intro _ | split

lemma greetPlayer_raises (roomCode : String) (room : Room) (player : GamePlayer)
    (state : Option WSRoomState) :
    (greetPlayer roomCode room player state).Raises Loud := by
  apply Raises.bind
  · cases state with
    | none => trivial
    | some state => exact sendToPlayer_raises _ _
  intro _
  apply Raises.bind (sendFinished_raises (sendToPlayer_raises _) _ _ _)
  exact fun _ => broadcastToRoom_raises _ _ _

end Cleanup

section

variable [Runtime]

def Read (p : UUID) (l : List (Event Op Exn)) : Prop :=
  ∃ (i : ℕ) (code : String) (room : Room), ⟨i, .getRoom code, .ok (some room)⟩ ∈ l ∧
    ∃ q ∈ room.players, q.playerId = p

omit [Runtime] in
lemma Read.mono {p : UUID} {l l' : List (Event Op Exn)} (h : Read p l) (hl : l <+: l') :
    Read p l' := by
  obtain ⟨j, code, room, hmem, hq⟩ := h
  exact ⟨j, code, room, hl.subset hmem, hq⟩

def Dutiful (call : Call) (l : List (Event Op Exn)) : Event Op Exn → Prop
  | ⟨_, .joinRoom websocket _ _, _⟩ => call.socket = some websocket ∧ passages l = []
  | ⟨_, .commit changes, _⟩ => (passages l = [] ∧ changes.connected = none) ∨
      ∃ p connected, changes = { connected := some (p, connected) } ∧ Read p l ∧
        ∃ websocket roomCode, .entered websocket roomCode (some p) ∈ passages l
  | _ => True

namespace Cleanup

variable {i : ℕ} {call : Call} {α β : Type} {l l' l'' : List (Event Op Exn)} {websocket : Socket}
variable {roomCode : String} {p : UUID}

abbrev Follows (i : ℕ) (call : Call) (Q : Except Exn α → List (Event Op Exn) → Prop) (x : Handler α)
    (l : List (Event Op Exn)) : Prop :=
  x.Follows system.Answers i (Dutiful call) Q l

omit [Runtime] in
lemma passage_unmarked {o : Op β} (ho : o.Unmarked) (r : Except Exn β) :
    passage ⟨i, o, r⟩ = none := by
  cases o <;> first | rfl | exact ho.elim

omit [Runtime] in
lemma dutiful_unmarked {o : Op β} (ho : o.Unmarked) (r : Except Exn β) :
    Dutiful call l ⟨i, o, r⟩ := by
  cases o <;> trivial

def Still (l l' : List (Event Op Exn)) : Prop := l <+: l' ∧ passages l' = passages l

omit [Runtime] in
lemma Still.refl (l : List (Event Op Exn)) : Still l l := ⟨List.prefix_rfl, rfl⟩

omit [Runtime] in
lemma Still.trans (h : Still l l') (h' : Still l' l'') :
    Still l l'' := ⟨h.1.trans h'.1, h'.2.trans h.2⟩

omit [Runtime] in
lemma still_append {o : Op β} (ho : o.Unmarked) (r : Except Exn β) :
    Still l (l ++ [⟨i, o, r⟩]) := by
  refine ⟨List.prefix_append _ _, ?_⟩
  rw [passages_append, passage_unmarked ho]
  exact List.append_nil _

omit [Runtime] in
lemma not_building (hb : building l = false) (h : Still l l') : building l' = false := by
  simp only [building, h.2, Bool.and_eq_false_iff, Bool.not_eq_false', List.any_eq_true] at hb ⊢
  rcases hb with hb | ⟨ev, hev, hbuilt⟩
  · exact .inl hb
  · exact .inr ⟨ev, h.1.subset hev, hbuilt⟩

lemma unmarked_follows {x : Handler α} (hx : x.All system.Answers Op.Unmarked) :
    Follows i call (fun _ l' => Still l l') x l := by
  apply Coro.Follows.of_all hx _ (Still.refl l)
  exact fun o r l ho _ h => ⟨dutiful_unmarked ho r, h.trans (still_append ho r)⟩

lemma loud_follows {x : Handler α} (hx : x.All system.Answers Op.Unmarked) (hr : x.Raises Loud)
    (hl : passages l ≠ []) (hb : building l = false) :
    Follows i call (fun r l' => Still l l' ∧ ∀ e, r = .error e → Escapes l') x l := by
  have hraises := Coro.Follows.of_raises (i := i) (P := Dutiful call)
    (A := fun l' => Still l l') hx hr
    (fun o r l ho _ h => ⟨dutiful_unmarked ho r, h.trans (still_append ho r)⟩) (Still.refl l)
  apply hraises.mono
  rintro r l' ⟨hstill, hescapes⟩
  refine ⟨hstill, fun e he => ?_⟩
  obtain ⟨before, β, o, hbefore, ho, rfl⟩ := hescapes e he
  apply escapes_of_error (hbefore.2.symm ▸ hl) ho
  rw [not_building hb hbefore]
  exact fun h => (by cases h.1)

def Op.Parting : {β : Type} → Op β → Prop
  | _, .joinRoom .. | _, .commit _ => False
  | _, _ => True

lemma escaped_follows {x : Handler Unit} (hx : x.All system.Answers Op.Parting) (h : Escapes l) :
    Follows i call Departed x l := by
  have hall : Follows i call (fun _ l' => Escapes l') x l := by
    apply Coro.Follows.of_all hx _ h
    intro β o r l ho _ hl
    refine ⟨?_, hl.mono (List.prefix_append _ _)⟩
    cases o <;> trivial
  exact hall.mono fun _ _ h hnot => (hnot h).elim

lemma disconnectFrom_parting (w : Socket) (roomCode : String) (playerId : Option UUID) :
    (disconnectFrom w roomCode playerId).All system.Answers Op.Parting := by
  apply All.perform_bind (by trivial)
  intro cancelled _
  apply All.bind
  · apply All.ite
    · exact fun _ => All.tryCatch ((all_perform _).mpr (by trivial)) fun _ =>
        All.perform_bind (by trivial) fun _ _ => all_throw _
    · exact fun _ => all_pure ()
  · exact fun _ => (all_perform _).mpr (by trivial)

omit [Runtime] in
lemma escapes_of_cleanup {o : Op β} (ho : o.cleansUp = true) (e : Exn) :
    Escapes (l ++ [⟨i, o, .error e⟩]) :=
  escapes_append.mpr (.inr ⟨e, rfl, .inr ho⟩)

lemma disconnectFrom_follows (w : Socket) (roomCode : String) (playerId : Option UUID) :
    Follows i call (fun r l' => (r = .ok () → l <+: l' ∧
        passages l' = passages l ++ [.left w roomCode, .forgot roomCode playerId]) ∧
      ∀ e, r = .error e → Escapes l') (disconnectFrom w roomCode playerId) l := by
  apply Coro.Follows.perform_bind (fun _ _ => by trivial)
  swap
  · exact fun e => ⟨fun h => (by cases h), fun _ _ => escapes_of_cleanup (by rfl) e⟩
  intro cancelled _
  have hleft : passages (l ++ [⟨i, .leaveRoom w roomCode, .ok cancelled⟩]) =
      passages l ++ [.left w roomCode] := passages_append _ _
  have hgrown : l <+: l ++ [⟨i, .leaveRoom w roomCode, .ok cancelled⟩] := List.prefix_append _ _
  generalize l ++ [⟨i, .leaveRoom w roomCode, .ok cancelled⟩] = l₁ at hleft hgrown
  apply Coro.Follows.bind (S := fun r l₂ => Still l₁ l₂ ∧ ∀ e, r = .error e → Escapes l₂)
  · apply Coro.Follows.ite
    · intro _
      apply Coro.Follows.tryCatch (S := fun r l₂ => Still l₁ l₂ ∧ ∀ e, r = .error e → Escapes l₂)
      · apply Coro.Follows.perform
        intro r _
        refine ⟨by trivial, still_append (by trivial) r, ?_⟩
        rintro e rfl
        exact escapes_of_cleanup (by rfl) e
      · exact fun _ _ h => h
      · rintro e l₂ ⟨hstill, hescapes⟩
        have hescaped := hescapes e rfl
        apply Coro.Follows.perform_bind (fun _ _ => by trivial)
        · exact fun _ _ => ⟨hstill.trans (still_append (by trivial) _), fun _ _ =>
            hescaped.mono (List.prefix_append _ _)⟩
        · exact fun e => ⟨hstill.trans (still_append (by trivial) _), fun _ _ =>
            hescaped.mono (List.prefix_append _ _)⟩
    · exact fun _ => ⟨Still.refl l₁, fun e h => (by cases h)⟩
  · rintro _ l₂ ⟨hstill, -⟩
    apply Coro.Follows.perform
    intro r _
    refine ⟨by trivial, ?_, ?_⟩
    · rintro rfl
      refine ⟨(hgrown.trans hstill.1).trans (List.prefix_append _ _), ?_⟩
      rw [passages_append, hstill.2, hleft, List.append_assoc]
      rfl
    · rintro e rfl
      exact escapes_of_cleanup (by rfl) e
  · exact fun e l₂ h => ⟨fun h => (by cases h), fun _ _ => h.2 e rfl⟩

lemma setPlayerConnected_follows (websocket : Socket) (roomCode : String) (connected : Bool)
    (hread : Read p l) (hentered : .entered websocket roomCode (some p) ∈ passages l) :
    Follows i call
      (fun r l' => (r = .ok () → l <+: l' ∧ passages l' = passages l ++ [.flagged p connected]) ∧
      ∀ e, r = .error e → Escapes l') (setPlayerConnected p connected) l := by
  have hl := List.ne_nil_of_mem hentered
  apply Coro.Follows.perform_bind (fun _ _ => by trivial)
  swap
  · intro e
    refine ⟨fun h => (by cases h), fun _ _ => escapes_of_error (o := .updateConnected p connected)
      hl rfl (fun h => Bool.false_ne_true h.2) e⟩
  intro _ _
  have hstill : Still l (l ++ [⟨i, .updateConnected p connected, .ok ()⟩]) :=
    still_append (by trivial) _
  generalize l ++ [⟨i, .updateConnected p connected, .ok ()⟩] = l₁ at hstill
  apply Coro.Follows.perform
  intro r _
  refine ⟨.inr ⟨p, connected, rfl, hread.mono hstill.1, websocket, roomCode, hstill.2.symm ▸
    hentered⟩, ?_, ?_⟩
  · rintro rfl
    refine ⟨hstill.1.trans (List.prefix_append _ _), ?_⟩
    rw [passages_append, hstill.2]
    rfl
  · rintro e rfl
    exact escapes_of_error (o := .commit { connected := some (p, connected) }) (hstill.2.symm ▸ hl)
      rfl (fun h => Bool.false_ne_true h.2) e

lemma buildRoomState_raises (roomCode : String) (forHost : Bool) :
    (buildRoomState roomCode forHost).Raises Loud := by
  unfold buildRoomState answerDetails buildHostAnswerDetails buildQuestionMessage questionStartedAt
    buildQuestionEnded computeAnswerDistribution
  repeat' first
    | trivial | exact Raises.perform (by rfl) | apply getCurrentQuestion_raises
    | apply getLeaderboard_raises | apply Raises.bind | intro _ | split

lemma buildRoomState_follows (roomCode : String) (forHost : Bool) :
    Follows i call (fun r l' => Still l l' ∧ (r = .ok none → l'.any builtState = true))
      (buildRoomState roomCode forHost) l := by
  have hall := Presence.unmarked_of_keeps (buildRoomState_keeps roomCode forHost)
  apply Coro.Follows.perform_bind (fun _ _ => by trivial)
  swap
  · exact fun e => ⟨still_append (by trivial) _, fun h => (by cases h)⟩
  intro room hroom
  have hstill : Still l (l ++ [⟨i, .getRoom roomCode, .ok room⟩]) := still_append (by trivial) _
  have hrest := hall.2.1 room hroom
  cases room with
  | none =>
    refine ⟨hstill, fun _ => ?_⟩
    exact List.any_eq_true.mpr ⟨_, List.mem_append_right _ (List.mem_singleton_self _), rfl⟩
  | some room =>
    apply ((unmarked_follows hrest).and_returns (R := fun state => state.isSome = true) ?_).mono
    · rintro r l' ⟨h, hsome⟩
      exact ⟨hstill.trans h, fun hr => absurd (hsome none hr) (by simp)⟩
    · change Coro.Returns _ _ (ite _ _ _)
      repeat' first
        | trivial | exact (returns_pure _).mpr rfl | apply Returns.bind | intro _ | split

omit [Runtime] in
lemma departed_of_error {e : Exn} {Q : Prop}
    (h : Q ∧ ∀ e', (Except.error e : Except Exn α) = .error e' → Escapes l) :
    Departed (.error e) l := fun hnot => (hnot (h.2 e rfl)).elim

lemma connect_follows (w : Socket) (roomCode : String) (playerId : Option UUID)
    (hcall : call.socket = some w) (hl : passages l = []) :
    Follows i call
      (fun r l' => l <+: l' ∧
        passages l' = if r = .ok () then [.entered w roomCode playerId] else [])
      (do
        await (.accept w)
        await (.joinRoom w roomCode playerId)) l := by
  apply Coro.Follows.perform_bind (fun _ _ => by trivial)
  · intro _ _
    have hstill : Still l (l ++ [⟨i, .accept w, .ok ()⟩]) := still_append (by trivial) _
    generalize l ++ [⟨i, .accept w, .ok ()⟩] = l₁ at hstill
    apply Coro.Follows.perform
    intro r _
    have hnone : passages l₁ = [] := hstill.2.trans hl
    refine ⟨⟨hcall, hnone⟩, hstill.1.trans (List.prefix_append _ _), ?_⟩
    rw [passages_append, hnone]
    cases r <;> rfl
  · intro e
    have hstill : Still l (l ++ [⟨i, .accept w, .error e⟩]) := still_append (by trivial) _
    exact ⟨hstill.1, hstill.2.trans hl⟩

lemma disconnected_follows (w : Socket) :
    Follows i call (fun r l' => ∃ v, r = .ok v ∧ Still l l')
      (attempt (await (.disconnected w))) l := by
  apply Coro.Follows.reify
  apply Coro.Follows.perform
  refine fun r _ => ⟨by trivial, List.prefix_append _ _, ?_⟩
  rw [passages_append]
  exact List.append_nil _

end Cleanup

end

end Askit.Game
