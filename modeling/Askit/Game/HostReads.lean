import Askit.Game.HostLoop
import Askit.Interleaving.Trace

/-! What the handlers of a host's frames have read before they commit. -/

namespace Askit.Game

open Interleaving Machine Coro Tables

section

variable [Runtime]

/-- A frame of a host of the room comes when the earlier ones have been handled. -/
def FramesInTurn (roomCode : String) : system.Transition → Prop
  | ⟨c, .spawn (.hostFrames room _ _)⟩ => Runtime.upper room = Runtime.upper roomCode →
      ∀ p ∈ c.procs, Call.Hosts roomCode p.call → ∃ r, p.rest = .done r
  | _ => True

instance (roomCode : String) : DecidablePred (FramesInTurn roomCode)
  | ⟨c, .spawn (.hostFrames room _ _)⟩ =>
    have (p : system.Proc) : Decidable (Call.Hosts roomCode p.call → ∃ r, p.rest = .done r) :=
      have : Decidable (Call.Hosts roomCode p.call) :=
        (inferInstance : DecidablePred (Call.Hosts roomCode)) p.call
      have : Decidable (∃ r, p.rest = .done r) := inferInstance
      inferInstance
    inferInstanceAs (Decidable (Runtime.upper room = Runtime.upper roomCode →
      ∀ p ∈ c.procs, Call.Hosts roomCode p.call → ∃ r, p.rest = .done r))
  | ⟨_, .spawn (.joinRoom ..)⟩ | ⟨_, .spawn (.playerFrame ..)⟩ | ⟨_, .spawn (.questionTimeout _)⟩
  | ⟨_, .spawn (.playerEndpoint ..)⟩ | ⟨_, .spawn (.hostEndpoint ..)⟩ | ⟨_, .spawn (.subscriber _)⟩
  | ⟨_, .spawn (.delivery _)⟩ | ⟨_, .run _⟩ | ⟨_, .fault _ _⟩ | ⟨_, .env _⟩ => isTrue trivial

/-- A call that fails does not raise an exception of the application's own, nor one that stands for
a violated constraint. -/
def ForeignFaults : system.Act → Prop
  | .fault _ e => e ≠ .alreadyAnsweredError ∧ e ≠ .integrityError
  | _ => True

instance : DecidablePred ForeignFaults
  | .fault _ e => inferInstanceAs (Decidable (e ≠ .alreadyAnsweredError ∧ e ≠ .integrityError))
  | .spawn _ | .run _ | .env _ => isTrue trivial

namespace HostTurns

def roomRead (roomCode : String) : Event Op Exn → Option Room
  | ⟨_, .getRoom room, .ok r⟩ => if Runtime.upper room = Runtime.upper roomCode then r else none
  | _ => none

def orderRead (roomCode : String) : Event Op Exn → Option (List UUID)
  | ⟨_, .getQuestions room, .ok ids⟩ =>
    if Runtime.upper room = Runtime.upper roomCode then ids else none
  | _ => none

def moves : Event Op Exn → Bool
  | ⟨_, .commit changes, .ok _⟩ => changes.session.any fun s =>
      decide (s.current.currentQuestionIndex ≠ s.loaded.currentQuestionIndex)
  | _ => false

def stores : Event Op Exn → Bool
  | ⟨_, .setQuestions .., .ok _⟩ => true
  | _ => false

def starts (roomCode : String) : Event Op Exn → Bool
  | ⟨_, .commit changes, .ok _⟩ => changes.session.any fun s =>
      decide (s.loaded.roomCode = Runtime.upper roomCode ∧ s.loaded.status = .waiting ∧
        s.current.status ≠ .waiting)
  | _ => false

/-- What a process has read of the room since it has last done something of the kind `resets`. -/
def since (roomCode : String) (resets : Event Op Exn → Bool) (l : List (Event Op Exn)) :
    List Room :=
  l.foldl (fun rooms ev => if resets ev then [] else rooms ++ (roomRead roomCode ev).toList) []

variable (roomCode : String)

def quiet : Footprint :=
  ⟨fun _ => False, fun _ _ => False, fun _ _ => True, fun _ => True, True, True, True, True⟩

def Ruled (l : List (Event Op Exn)) : Event Op Exn → Prop
  | ⟨_, .commit changes, _⟩ => ∀ s ∈ changes.session,
      s.loaded.roomCode = Runtime.upper roomCode ∧ s.current.status ≠ .waiting ∧
      (s.current.currentQuestionIndex = s.loaded.currentQuestionIndex ∨
        (∃ room ∈ since roomCode moves l,
          s.current.currentQuestionIndex = room.session.currentQuestionIndex + 1 ∨
          room.session.status = .waiting ∧ s.current.currentQuestionIndex = 1) ∧
        ∃ ev ∈ l, (orderRead roomCode ev).isSome)
  | ⟨_, .setQuestions _ _ _, _⟩ =>
    (∃ room ∈ since roomCode stores l, room.session.status = .waiting) ∧ ∃ ev ∈ l,
      starts roomCode ev = true
  | _ => True

variable {roomCode} {room : String} {i : ℕ} {call : Call} {l l' l'' : List (Event Op Exn)}
    {α β γ : Type}
variable {resets : Event Op Exn → Bool}

lemma since_append (ev : Event Op Exn) : since roomCode resets (l ++ [ev]) =
    if resets ev then [] else since roomCode resets l ++ (roomRead roomCode ev).toList := by
  simp [since]

structure Extends (roomCode : String) (l l' : List (Event Op Exn)) : Prop where
  start : l <+: l'
  moves : since roomCode moves l ⊆ since roomCode moves l'
  stores : since roomCode stores l ⊆ since roomCode stores l'

lemma Extends.refl (l : List (Event Op Exn)) : Extends roomCode l l :=
  ⟨List.prefix_refl l, List.Subset.refl _, List.Subset.refl _⟩

lemma Extends.trans (h : Extends roomCode l l') (h' : Extends roomCode l' l'') :
    Extends roomCode l l'' :=
  ⟨List.IsPrefix.trans h.start h'.start, List.Subset.trans h.moves h'.moves,
    List.Subset.trans h.stores h'.stores⟩

lemma Extends.append {ev : Event Op Exn} (hm : HostTurns.moves ev = false)
    (hs : HostTurns.stores ev = false) : Extends roomCode l (l ++ [ev]) := by
  refine ⟨List.prefix_append _ _, ?_, ?_⟩
  · rw [since_append, hm]
    exact List.subset_append_left _ _
  · rw [since_append, hs]
    exact List.subset_append_left _ _

abbrev Follows (roomCode : String) (i : ℕ) (Q : Except Exn α → List (Event Op Exn) → Prop)
    (x : Handler α) (l : List (Event Op Exn)) : Prop :=
  x.Follows system.Answers i (Ruled roomCode) Q l

lemma ruled_quiet {o : Op β} (ho : o.Within quiet) (r : Except Exn β) :
    Ruled roomCode l ⟨i, o, r⟩ ∧ Extends roomCode l (l ++ [⟨i, o, r⟩]) := by
  cases o with
  | commit | setQuestions => exact ho.elim
  | _ => exact ⟨trivial, .append rfl rfl⟩

lemma quiet_follows {x : Handler α} (hx : Keeps quiet x) :
    Follows roomCode i (fun _ l' => Extends roomCode l l') x l := by
  apply Follows.of_all hx _ (Extends.refl l)
  intro β o r l' ho _ hl
  have hruled : Ruled roomCode l' ⟨i, o, r⟩ ∧ Extends roomCode l' (l' ++ [⟨i, o, r⟩]) :=
    ruled_quiet ho r
  exact ⟨hruled.1, hl.trans hruled.2⟩

lemma rest_follows {x : Handler α} (hx : Keeps quiet x) :
    Follows roomCode i (fun _ _ => True) x l :=
  (quiet_follows hx).mono fun _ _ _ => trivial

lemma quiet_bind {o : Op α} {f : α → Handler β} {Q : Except Exn β → List (Event Op Exn) → Prop}
    (ho : o.Within quiet)
    (hf : ∀ a, Extends roomCode l (l ++ [⟨i, o, .ok a⟩]) → Follows roomCode i Q (f a)
      (l ++ [⟨i, o, .ok a⟩]))
    (he : ∀ e l', Q (.error e) l') : Follows roomCode i Q (await o >>= f) l :=
  .perform_bind (fun r _ => (ruled_quiet ho r).1) (fun a _ => hf a (ruled_quiet ho _).2)
    fun e => he e _

lemma getRoom_bind (hu : Runtime.upper room = Runtime.upper roomCode) {f : Option Room → Handler β}
    {Q : Except Exn β → List (Event Op Exn) → Prop}
    (hnone : ∀ l', Follows roomCode i Q (f none) l')
    (hsome : ∀ r l', Extends roomCode l l' → r.session.roomCode = Runtime.upper roomCode →
      r ∈ since roomCode moves l' → r ∈ since roomCode stores l' →
      Follows roomCode i Q (f (some r)) l')
    (he : ∀ e l', Q (.error e) l') : Follows roomCode i Q (await (.getRoom room) >>= f) l := by
  apply Follows.perform_bind (fun r _ => (ruled_quiet (by trivial) r).1)
  swap
  · exact fun e => he e _
  intro r hr
  cases r with
  | none => exact hnone _
  | some r =>
    apply hsome r _ (ruled_quiet (by trivial) _).2 ((roomCode_of_answers hr).trans hu)
    · simp [since_append, moves, roomRead, hu]
    · simp [since_append, stores, roomRead, hu]

lemma stay_ruled {g g' : GameSession} (hk : g.roomCode = Runtime.upper roomCode)
    (hs : g'.status ≠ .waiting) (hi : g'.currentQuestionIndex = g.currentQuestionIndex)
    (r : Except Exn Unit) :
    Ruled roomCode l ⟨i, .commit { session := some ⟨g, g'⟩ }, r⟩ ∧
      Extends roomCode l (l ++ [⟨i, .commit { session := some ⟨g, g'⟩ }, r⟩]) := by
  constructor
  · rintro s ⟨⟩
    exact ⟨hk, hs, .inl hi⟩
  · apply Extends.append
    · cases r <;> simp [moves, hi]
    · cases r <;> rfl

lemma stay_bind {g g' : GameSession} {f : Unit → Handler β}
    {Q : Except Exn β → List (Event Op Exn) → Prop}
    (hk : g.roomCode = Runtime.upper roomCode) (hs : g'.status ≠ .waiting)
    (hi : g'.currentQuestionIndex = g.currentQuestionIndex)
    (hf : ∀ l', Extends roomCode l l' → ⟨i, .commit { session := some ⟨g, g'⟩ }, .ok ()⟩ ∈ l' →
      Follows roomCode i Q (f ()) l')
    (he : ∀ e l', Q (.error e) l') :
    Follows roomCode i Q (await (.commit { session := some ⟨g, g'⟩ }) >>= f) l :=
  .perform_bind (fun r _ => (stay_ruled hk hs hi r).1)
    (fun _ _ => hf _ (stay_ruled hk hs hi _).2
      (List.mem_append_right _ (List.mem_singleton_self _)))
    fun e => he e _

lemma endGame_follows (hu : Runtime.upper room = Runtime.upper roomCode) :
    Follows roomCode i (fun _ _ => True) (endGame room) l := by
  apply getRoom_bind hu
  · exact fun _ => trivial
  · intro r l' _ hk _ _
    apply quiet_bind (by trivial)
    · intro endedAt _
      apply stay_bind hk
      · exact nofun
      · rfl
      · intro l' _ _
        apply rest_follows
        apply All.bind (buildGameFinished_keeps _)
        intro finished
        cases finished with
        | none => trivial
        | some f =>
          exact All.bind (announceFinished_keeps room _ _) fun _ => (all_perform _).mpr (by trivial)
      · exact fun _ _ => trivial
    · exact fun _ _ => trivial
  · exact fun _ _ => trivial

/-- The host has read that question `k` is next. -/
def Next (roomCode : String) (k : ℕ) (l : List (Event Op Exn)) : Prop :=
  ∃ room ∈ since roomCode moves l, k = room.session.currentQuestionIndex + 1 ∨
    room.session.status = .waiting ∧ k = 1

lemma Next.mono {k : ℕ} (h : Next roomCode k l) (hl : Extends roomCode l l') :
    Next roomCode k l' := by
  obtain ⟨room, hroom, hk⟩ := h
  exact ⟨room, hl.moves hroom, hk⟩

lemma advanceToQuestion_follows (hu : Runtime.upper room = Runtime.upper roomCode) {k : ℕ}
    (hk : Next roomCode k l) :
    Follows roomCode i (fun _ _ => True) (advanceToQuestion room k) l := by
  apply getRoom_bind hu
  · exact fun _ => trivial
  · intro r l' hl hkey _ _
    apply quiet_bind (by trivial)
    · intro questionIds hl'
      cases questionIds with
      | none => exact trivial
      | some questionIds =>
        apply quiet_bind (by trivial)
        · intro _ hl''
          have hk := hk.mono ((hl.trans hl').trans hl'')
          apply Follows.ite
          · intro _
            apply quiet_bind (by trivial)
            · intro endedAt _
              apply stay_bind hkey
              · exact nofun
              · rfl
              · exact fun _ _ _ => trivial
              · exact fun _ _ => trivial
            · exact fun _ _ => trivial
          · intro _
            apply Follows.perform_bind
            · rintro _ _ s ⟨⟩
              refine ⟨hkey, nofun, .inr ⟨hk,
                ⟨i, .getQuestions room, .ok (some questionIds)⟩, ?_, ?_⟩⟩
              · simp
              · simp [orderRead, hu]
            · intro _ _
              apply quiet_bind (by trivial)
              · intro now _
                apply quiet_bind (by trivial)
                · intro _ _
                  cases questionIds[k - 1]? with
                  | none => exact trivial
                  | some questionId => exact rest_follows ((all_perform _).mpr (by trivial))
                · exact fun _ _ => trivial
              · exact fun _ _ => trivial
            · exact fun _ => trivial
        · exact fun _ _ => trivial
    · exact fun _ _ => trivial
  · exact fun _ _ => trivial

lemma sendQuestion_follows (hu : Runtime.upper room = Runtime.upper roomCode) {k total : ℕ}
    (hk : Next roomCode k l) :
    Follows roomCode i (fun _ _ => True) (sendQuestion room k total) l := by
  apply Follows.bind (advanceToQuestion_follows hu hk)
  · intro question l' _
    cases question with
    | none => exact endGame_follows hu
    | some question =>
      apply rest_follows
      exact All.perform_bind trivial fun room _ => All.bind (buildQuestionMessage_keeps _ _ _ _ _)
        fun message => All.bind (broadcastToRoom_keeps _ (by trivial) none) fun _ =>
          (all_perform _).mpr trivial
  · exact fun _ _ _ => trivial

def Begun (roomCode : String) (l : List (Event Op Exn)) : Prop :=
  ∃ room ∈ since roomCode moves l, room.session.status = .waiting

lemma startGame_follows (hu : Runtime.upper room = Runtime.upper roomCode) (hostId : UUID) :
    Follows roomCode i (fun r l' => ∀ a, r = .ok a → Begun roomCode l')
      (startGame room hostId) l := by
  apply getRoom_bind hu
  · exact fun _ => nofun
  · intro r l₁ _ hkey hm hs
    apply Follows.require_bind
    · intro _
      apply Follows.require_bind
      · intro hw
        apply Follows.bind (quiet_follows (questionOrder_keeps r))
        · intro questions l₂ h₂
          apply quiet_bind (by trivial)
          · intro startedAt h₃
            apply stay_bind hkey
            · exact nofun
            · rfl
            · intro l₄ h₄ hstart
              have hl := (Extends.trans h₂ h₃).trans h₄
              apply Follows.perform_bind
              · intro _ _
                exact ⟨⟨r, hl.stores hs, hw⟩, _, hstart, by simp [starts, hkey, hw]⟩
              · rintro _ _ _ _
                refine ⟨r, ?_, hw⟩
                rw [since_append]
                exact List.mem_append_left _ (hl.moves hm)
              · exact fun _ => nofun
            · exact fun _ _ => nofun
          · exact fun _ _ => nofun
        · exact fun _ _ _ => nofun
      · exact fun _ => nofun
    · exact fun _ => nofun
  · exact fun _ _ => nofun

lemma handleStartGame_follows (hu : Runtime.upper room = Runtime.upper roomCode) (hostId : UUID) :
    Follows roomCode i (fun _ _ => True) (handleStartGame room hostId) l := by
  apply Follows.bind (startGame_follows hu hostId)
  · intro questions l₁ h₁
    obtain ⟨r, hr, hw⟩ := h₁ questions rfl
    apply Follows.bind (quiet_follows _)
    · intro _ l₂ h₂
      exact sendQuestion_follows hu ⟨r, h₂.moves hr, .inr ⟨hw, rfl⟩⟩
    · exact fun _ _ _ => trivial
    · exact All.forM fun _ _ => All.bind (broadcastToRoom_keeps _ (by trivial) none) fun _ =>
        (all_perform _).mpr (by trivial)
  · exact fun _ _ _ => trivial

lemma handleNextQuestion_follows (hu : Runtime.upper room = Runtime.upper roomCode) :
    Follows roomCode i (fun _ _ => True) (handleNextQuestion room) l := by
  apply getRoom_bind hu
  · exact fun _ => trivial
  · intro r l₁ _ hkey hm _
    apply Follows.ite
    · intro _
      apply Follows.bind ((quiet_follows (getCurrentQuestion_keeps room)).and_returns
        (getCurrentQuestion_returns room))
      · rintro ⟨refreshed, question⟩ l₂ ⟨-, h₂⟩
        cases question with
        | none => exact trivial
        | some question =>
          apply stay_bind
          · cases refreshed with
            | none => exact hkey
            | some g => exact (h₂ _ rfl g rfl).trans hu
          · exact nofun
          · rfl
          · intro l₃ _ _
            exact rest_follows (All.bind (buildQuestionEnded_keeps _ _ _) fun ⟨_, _⟩ =>
              broadcastToRoom_keeps _ (by trivial) none)
          · exact fun _ _ => trivial
      · exact fun _ _ _ => trivial
    · intro _
      apply Follows.ite
      · exact fun _ => trivial
      · intro _
        apply Follows.ite
        · exact fun _ => endGame_follows hu
        · exact fun _ => sendQuestion_follows hu ⟨r, hm, .inl rfl⟩
  · exact fun _ _ => trivial

lemma hostFrames_follows (hu : Runtime.upper room = Runtime.upper roomCode) (hostId : UUID)
    (frames : List ClientMessage) :
    Follows roomCode i (fun _ _ => True) (hostFrames room hostId frames) l := by
  induction frames generalizing l with
  | nil => trivial
  | cons data frames ih =>
    apply Follows.bind (S := fun _ _ => True)
    · apply quiet_bind (by trivial)
      · intro _ _
        apply Follows.tryCatch (S := fun _ _ => True)
        · cases data with
          | startGame => exact handleStartGame_follows hu hostId
          | nextQuestion => exact handleNextQuestion_follows hu
          | answer _ _ | malformed => exact trivial
        · exact fun _ _ _ => trivial
        · exact fun _ _ _ => rest_follows (sendToHost_keeps _ _)
      · exact fun _ _ => trivial
    · exact fun _ _ _ => ih
    · exact fun _ _ _ => trivial

end HostTurns

end

end Askit.Game
