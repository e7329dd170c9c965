import Askit.Interleaving.Sequential
import Askit.Interleaving.Trace
import Askit.Rooms.Services

/-! The room codes that interleaved calls of `create_room` find free or taken. -/

namespace Askit.Rooms

open Interleaving Coro Machine Tables
open Game (UUID Time Runtime)

abbrev Ev := Event Op Exn

abbrev codesOf (s : State) : List String := s.sessions.table.rows.map SessionRow.roomCode

def generatedCode : Ev → Option String
  | ⟨_, .generateRoomCode, .ok code⟩ => some code
  | _ => none

def insertedCode : Ev → Option String
  | ⟨_, .commit session, .ok _⟩ => some session.roomCode
  | _ => none

def triedCode : Ev → Option (String × Bool)
  | ⟨_, .commit session, .ok _⟩ => some (session.roomCode, true)
  | ⟨_, .commit session, .error _⟩ => some (session.roomCode, false)
  | _ => none

def generated (l : List Ev) : List String := l.filterMap generatedCode

def inserted (l : List Ev) : List String := l.filterMap insertedCode

def tried (l : List Ev) : List (String × Bool) := l.filterMap triedCode

/-- A commit of the `i`-th process with its code, and whether this was free. -/
def attempt (s : State) (i : ℕ) (before : List Ev) : Ev → Option (String × Bool)
  | ⟨j, .commit session, _⟩ =>
    if j = i then some (session.roomCode, session.roomCode ∉ codesOf s ++ inserted before) else none
  | _ => none

def attempts (s : State) (i : ℕ) (history : List Ev) : List (String × Bool) :=
    gather (attempt s i) history

def Playable (s : State) (call : Call) : Prop :=
  ∃ quiz, s.quizzes.get? call.data.quizId = some quiz ∧ quiz.creatorId = call.userId ∧
    quiz.status = .published

namespace Codes

/-- What the database answers, as far as what the process has done itself decides it. -/
def Regular (s : State) (before : List Ev) : Ev → Prop
  | ⟨_, .selectQuiz quizId, r⟩ => r = .ok (s.quizzes.get? quizId)
  | ⟨_, .generateRoomCode, r⟩ => ∃ code, r = .ok code
  | ⟨_, .commit _, r⟩ => (∃ sessionId, r = .ok sessionId) ∨ r = .error .integrityError
  | ⟨_, .rollback, r⟩ => r = .ok ()
  | ⟨_, .refresh sessionId, r⟩ => ∀ i session, ⟨i, .commit session, .ok sessionId⟩ ∈ before →
      ∃ createdAt, r = .ok (some (session.row sessionId createdAt))

lemma Regular.anti {s : State} {before before' : List Ev} (hsub : before' ⊆ before) {ev : Ev}
    (h : Regular s before ev) : Regular s before' ev := by
  obtain ⟨i, o, r⟩ := ev
  cases o with
  | refresh sessionId => exact fun i session hev => h i session (hsub hev)
  | _ => exact h

def Decided (s : State) (before : List Ev) : Ev → Prop
  | ⟨_, .commit session, r⟩ => (∃ sessionId, r = .ok sessionId) ↔ session.roomCode ∉ codesOf s ++
    inserted before
  | _ => True

section Summaries

variable {l : List Ev} {ev : Ev}

lemma generated_append : generated (l ++ [ev]) = generated l ++ (generatedCode ev).toList := by
  rw [generated, List.filterMap_append, generated]
  cases h : generatedCode ev <;> simp [h]

lemma inserted_append : inserted (l ++ [ev]) = inserted l ++ (insertedCode ev).toList := by
  rw [inserted, List.filterMap_append, inserted]
  cases h : insertedCode ev <;> simp [h]

lemma tried_append : tried (l ++ [ev]) = tried l ++ (triedCode ev).toList := by
  rw [tried, List.filterMap_append, tried]
  cases h : triedCode ev <;> simp [h]

lemma attempts_eq_tried {s : State} {history : List Ev} (h : Recorded (Decided s) history) (i : ℕ) :
    attempts s i history = tried (own i history) := by
  induction history using List.reverseRecOn with
  | nil => rfl
  | append_singleton history ev ih =>
    obtain ⟨hbefore, hev⟩ := recorded_append_iff.mp h
    obtain ⟨j, o, r⟩ := ev
    rw [attempts, gather_append]
    by_cases hj : j = i
    · subst hj
      have hsame : attempt s j history ⟨j, o, r⟩ = triedCode ⟨j, o, r⟩ := by
        cases o with
        | commit session =>
          rw [attempt, if_pos rfl]
          cases r with
          | ok sessionId => simp [triedCode, hev.mp ⟨sessionId, rfl⟩]
          | error e =>
            have htaken : ¬session.roomCode ∉ codesOf s ++ inserted history := fun hfree => by
              obtain ⟨sessionId, hok⟩ := hev.mpr hfree
              cases hok
            rw [decide_eq_false htaken]
            rfl
        | _ => rfl
      rw [own_append_self, tried_append, ← ih hbefore, hsame]
      rfl
    · rw [own_append_of_ne hj, ← ih hbefore]
      have hnone : attempt s i history ⟨j, o, r⟩ = none := by
        cases o with
        | commit session => exact if_neg hj
        | _ => rfl
      rw [hnone]
      exact List.append_nil _

end Summaries

section Process

variable {s : State} {i : ℕ} {l : List Ev}

/-- How the loop ends that had so many turns left: with a code that was accepted, or with as many
that were refused. -/
def Stored (session : String → NewSession) (n i : ℕ) (l : List Ev) :
    Except Exn UUID → List Ev → Prop
  | .ok sessionId, l' => ∃ taken code, taken.length < n ∧ generated l' = generated l ++
    (taken ++ [code]) ∧
      tried l' = tried l ++ (taken.map (·, false) ++ [(code, true)]) ∧
        inserted l' = inserted l ++ [code] ∧
      ⟨i, .commit (session code), .ok sessionId⟩ ∈ l'
  | .error e, l' => e = .integrityError ∧ ∃ taken : List String, taken.length = n ∧
      generated l' = generated l ++ taken ∧ tried l' = tried l ++ taken.map (·, false) ∧
        inserted l' = inserted l

lemma Stored.refused {session : String → NewSession} {n : ℕ} {l m : List Ev} {code : String}
    {r : Except Exn UUID} {l' : List Ev} (h : Stored session n i m r l')
    (hgenerated : generated m = generated l ++ [code])
    (htried : tried m = tried l ++ [(code, false)]) (hinserted : inserted m = inserted l) :
    Stored session (n + 1) i l r l' := by
  cases r with
  | ok sessionId =>
    obtain ⟨taken, last, hlength, hg, ht, hi, hmem⟩ := h
    refine ⟨code :: taken, last, by simpa using hlength, ?_, ?_, by rw [hi, hinserted], hmem⟩
    · rw [hg, hgenerated]
      simp
    · rw [ht, htried]
      simp
  | error e =>
    obtain ⟨he, taken, hlength, hg, ht, hi⟩ := h
    refine ⟨he, code :: taken, by simp [hlength], ?_, ?_, by rw [hi, hinserted]⟩
    · rw [hg, hgenerated]
      simp
    · rw [ht, htried]
      simp

lemma storeRoom_follows [Runtime] {session : String → NewSession}
    (hsession : ∀ code, (session code).roomCode = code) (n : ℕ) (hn : n ≠ 0) :
    (storeRoom session n).Follows system.Answers i (fun _ _ => True)
      (fun r l' => Recorded (Regular s) l' → Stored session n i l r l') l := by
  induction n generalizing l with
  | zero => exact absurd rfl hn
  | succ n ih =>
    apply Follows.perform_bind (fun _ _ => trivial)
    · intro code _
      set m : List Ev := l ++ [⟨i, .generateRoomCode, .ok code⟩] with hm
      have hgenerated : generated m = generated l ++ [code] := generated_append
      have htried : tried m = tried l := tried_append.trans (List.append_nil _)
      have hinserted : inserted m = inserted l := inserted_append.trans (List.append_nil _)
      apply Follows.tryCatch (S := fun (r : Except Exn UUID) l' =>
        l' = m ++ [⟨i, .commit (session code), r⟩])
      · exact fun r _ => ⟨trivial, rfl⟩
      · rintro sessionId l' rfl -
        refine ⟨[], code, Nat.succ_pos n, ?_, ?_, ?_, by simp⟩
        · exact generated_append.trans ((List.append_nil _).trans hgenerated)
        · rw [tried_append, htried, triedCode, hsession]
          rfl
        · rw [inserted_append, hinserted, insertedCode, hsession]
          rfl
      · rintro e l' rfl
        set refused : List Ev := m ++ [⟨i, .commit (session code), .error e⟩] with hrefused
        have hg : generated refused = generated l ++ [code] :=
          generated_append.trans ((List.append_nil _).trans hgenerated)
        have ht : tried refused = tried l ++ [(code, false)] := by
          rw [hrefused, tried_append, htried, triedCode, hsession]
          rfl
        have hi : inserted refused = inserted l :=
          inserted_append.trans ((List.append_nil _).trans hinserted)
        have hother : e ≠ .integrityError → ¬Recorded (Regular s) refused := fun hne hrec => by
          rcases (recorded_append_iff.mp hrec).2 with ⟨sessionId, hok⟩ | herror
          · cases hok
          · exact hne (Except.error.inj herror)
        cases e with
        | integrityError =>
          apply Follows.perform_bind (fun _ _ => trivial)
          · intro _ _
            set rolled : List Ev := refused ++ [⟨i, .rollback, .ok ()⟩] with hrolled
            have hg' : generated rolled = generated l ++ [code] :=
              generated_append.trans ((List.append_nil _).trans hg)
            have ht' : tried rolled = tried l ++ [(code, false)] :=
              tried_append.trans ((List.append_nil _).trans ht)
            have hi' : inserted rolled = inserted l :=
              inserted_append.trans ((List.append_nil _).trans hi)
            apply Follows.ite
            · rintro rfl -
              have hlast : Stored session 0 i rolled (.error .integrityError) rolled :=
                ⟨rfl, [], rfl, (List.append_nil _).symm, (List.append_nil _).symm, rfl⟩
              exact hlast.refused hg' ht' hi'
            · intro hn'
              exact (ih hn').mono fun r l' h hrec => (h hrec).refused hg' ht' hi'
          · intro e' hrec
            have hrollback : Regular s refused ⟨i, .rollback, .error e'⟩ :=
              (recorded_append_iff.mp hrec).2
            cases hrollback
        | _ => exact fun hrec => absurd hrec (hother (by decide))
    · intro e hrec
      obtain ⟨code, hcode⟩ := (recorded_append_iff.mp hrec).2
      cases hcode

def Ended (call : Call) : Except Exn RoomResponse → List Ev → Prop
  | .ok response, l => ∃ taken code createdAt, taken.length < roomCodeAttempts ∧
      generated l = taken ++ [code] ∧ tried l = taken.map (·, false) ++ [(code, true)] ∧
        inserted l = [code] ∧
      response = ⟨response.sessionId, code, call.data.quizId, .waiting, 0, createdAt⟩ ∧
      ∃ i, ⟨i, .commit (newSession call.data.quizId call.userId call.data code),
        .ok response.sessionId⟩ ∈ l
  | .error e, l => e = .integrityError ∧ ∃ taken : List String, taken.length = roomCodeAttempts ∧
      generated l = taken ∧ tried l = taken.map (·, false) ∧ inserted l = []

lemma createRoom_follows [Runtime] (call : Call) (hplayable : Playable s call) :
    (createRoom call.userId call.data).Follows system.Answers i (fun _ _ => True)
      (fun r l' => Recorded (Regular s) l' → Ended call r l') [] := by
  obtain ⟨quiz, hquiz, hcreator, hstatus⟩ := hplayable
  apply Follows.perform_bind (fun _ _ => trivial)
  · intro found _
    by_cases hfound : found = some quiz
    · subst hfound
      dsimp only
      apply Follows.require_bind
      swap
      · exact fun h => absurd hcreator h
      intro _
      apply Follows.require_bind
      swap
      · exact fun h => absurd hstatus h
      intro _
      have hid : quiz.quizId = call.data.quizId := Table.key_get? hquiz
      rw [hid]
      apply Follows.bind (storeRoom_follows (s := s) (fun _ => rfl) roomCodeAttempts (by decide))
      · intro sessionId l' hstored
        apply Follows.perform_bind (fun _ _ => trivial)
        · intro row _
          cases row with
          | none =>
            intro hrec
            obtain ⟨hbefore, hrefresh⟩ := recorded_append_iff.mp hrec
            obtain ⟨taken, code, -, -, -, -, hmem⟩ := hstored hbefore
            obtain ⟨createdAt, hrow⟩ := hrefresh i _ hmem
            cases hrow
          | some row =>
            intro hrec
            obtain ⟨hbefore, hrefresh⟩ := recorded_append_iff.mp hrec
            obtain ⟨taken, code, hlength, hg, ht, hi, hmem⟩ := hstored hbefore
            obtain ⟨createdAt, hrow⟩ := hrefresh i _ hmem
            obtain rfl : row = (newSession call.data.quizId call.userId call.data code).row
                sessionId createdAt :=
              Option.some.inj (Except.ok.inj hrow)
            refine ⟨taken, code, createdAt, hlength, ?_, ?_, ?_, rfl, i,
              List.mem_append_left _ hmem⟩
            · exact generated_append.trans ((List.append_nil _).trans hg)
            · exact tried_append.trans ((List.append_nil _).trans ht)
            · exact inserted_append.trans ((List.append_nil _).trans hi)
        · intro e hrec
          obtain ⟨hbefore, hrefresh⟩ := recorded_append_iff.mp hrec
          obtain ⟨taken, code, -, -, -, -, hmem⟩ := hstored hbefore
          obtain ⟨createdAt, hrow⟩ := hrefresh i _ hmem
          cases hrow
      · intro e l' hstored hrec
        obtain ⟨he, taken, hlength, hg, ht, hi⟩ := hstored hrec
        exact ⟨he, taken, hlength, hg, ht, hi⟩
    · apply Follows.of_not_recorded
      intro hrec
      have hselect : Regular s [] ⟨i, .selectQuiz call.data.quizId, .ok found⟩ :=
        (recorded_append_iff.mp hrec).2
      exact hfound ((Except.ok.inj hselect).trans hquiz)
  · intro e hrec
    have hselect : Regular s [] ⟨i, .selectQuiz call.data.quizId, .error e⟩ :=
      (recorded_append_iff.mp hrec).2
    cases hselect

end Process

section Run

lemma insert_taken {t : Sessions} {r : SessionRow}
    (h : r.roomCode ∈ t.table.rows.map SessionRow.roomCode) :
    t.insert r = none := by
  unfold Sessions.insert
  split
  · split
    · next table ht => exact absurd h (Table.fresh_of_insert ht)
    · rfl
  · rfl

lemma insert_free {t : Sessions} {r : SessionRow}
    (h : r.roomCode ∉ t.table.rows.map SessionRow.roomCode)
    (hid : r.sessionId ∉ t.table.rows.map SessionRow.sessionId) :
    ∃ t', t.insert r = some t' ∧ t'.table.rows = t.table.rows ++ [r] := by
  unfold Sessions.insert
  rw [dif_pos hid]
  split
  · next table ht => exact ⟨_, rfl, Table.rows_insert ht⟩
  · next ht =>
    rw [Table.insert, dif_neg h] at ht
    cases ht

lemma byId_of_mem {t : Sessions} {r : SessionRow} (h : r ∈ t.table.rows) :
    t.byId r.sessionId = some r :=
  Table.get?_of_mem (t := (⟨t.table.rows, t.ids_nodup⟩ : Table SessionRow.sessionId)) h

variable [Runtime] {s u : State} {c : system.Config}

/-- No identifier that is still to be drawn belongs to a session. -/
def Fresh (u : State) : Prop :=
  ∀ row ∈ u.sessions.table.rows, ∀ n, u.draws ≤ n → Runtime.uuid4 n ≠ row.sessionId

lemma exec_commit_taken {session : NewSession} (h : session.roomCode ∈ codesOf u) :
    exec (.commit session) u = (.error .integrityError, { u with draws := u.draws + 1 }) := by
  have hinsert : u.sessions.insert (session.row (Runtime.uuid4 u.draws) u.now) = none :=
    insert_taken h
  rw [exec, hinsert]

lemma exec_commit_free {session : NewSession} (hu : Fresh u) (h : session.roomCode ∉ codesOf u) :
    ∃ sessions, exec (.commit session) u =
        (.ok (Runtime.uuid4 u.draws), { u with sessions := sessions, draws := u.draws + 1 }) ∧
      sessions.table.rows = u.sessions.table.rows ++
        [session.row (Runtime.uuid4 u.draws) u.now] := by
  have hid : Runtime.uuid4 u.draws ∉ u.sessions.table.rows.map SessionRow.sessionId :=
    fun hmem => by
    obtain ⟨row, hrow, heq⟩ := List.mem_map.mp hmem
    exact hu row hrow u.draws le_rfl heq.symm
  obtain ⟨sessions, hinsert, hrows⟩ := insert_free (t := u.sessions)
    (r := session.row (Runtime.uuid4 u.draws) u.now) h hid
  refine ⟨sessions, ?_, hrows⟩
  rw [exec, hinsert]

/-- What the database has become, and what it has answered. -/
structure Kept (s : State) (history : List Ev) (u : State) : Prop where
  recorded : Recorded (fun before ev => Regular s before ev ∧ Decided s before ev) history
  quizzes : u.quizzes = s.quizzes
  codes : codesOf u = codesOf s ++ inserted history
  grows : s.sessions.table.rows <+: u.sessions.table.rows
  fresh : Fresh u
  stored : ∀ i session sessionId, ⟨i, .commit session, .ok sessionId⟩ ∈ history →
    ∃ createdAt, session.row sessionId createdAt ∈ u.sessions.table.rows

lemma kept_nil (hs : Fresh s) : Kept s [] s :=
  ⟨recorded_nil, rfl, (List.append_nil _).symm, List.prefix_refl _, hs, fun _ _ _ h => (by cases h)⟩

lemma Kept.read {history : List Ev} {v : State} (h : Kept s history u) {ev : Ev}
    (hev : Regular s history ev) (hdecided : Decided s history ev)
    (hnone : insertedCode ev = none) (hquizzes : v.quizzes = u.quizzes)
    (hsessions : v.sessions = u.sessions) (hdraws : u.draws ≤ v.draws) :
    Kept s (history ++ [ev]) v where
  recorded := h.recorded.append ⟨hev, hdecided⟩
  quizzes := hquizzes.trans h.quizzes
  codes := by
    rw [inserted_append, hnone, Option.toList_none, List.append_nil, ← h.codes, codesOf, hsessions]
  grows := hsessions ▸ h.grows
  fresh row hrow n hn := h.fresh row (hsessions ▸ hrow) n (hdraws.trans hn)
  stored i session sessionId hmem := by
    rw [hsessions]
    rcases List.mem_append.mp hmem with hmem | hmem
    · exact h.stored i session sessionId hmem
    · rw [← List.mem_singleton.mp hmem] at hnone
      cases hnone

lemma Kept.commit {history : List Ev} (h : Kept s history u) (i : ℕ) (session : NewSession) :
    Kept s (history ++ [⟨i, .commit session, (exec (.commit session) u).1⟩])
      (exec (.commit session) u).2 := by
  by_cases hcode : session.roomCode ∈ codesOf u
  · rw [exec_commit_taken hcode]
    apply h.read
    · exact .inr rfl
    · rw [h.codes] at hcode
      exact ⟨fun ⟨_, hok⟩ => (by cases hok), fun hfree => absurd hcode hfree⟩
    · rfl
    · rfl
    · rfl
    · exact Nat.le_succ _
  · obtain ⟨sessions, hexec, hrows⟩ := exec_commit_free h.fresh hcode
    rw [hexec]
    refine ⟨h.recorded.append ⟨.inl ⟨_, rfl⟩, ?_⟩, h.quizzes, ?_, ?_, ?_, ?_⟩
    · rw [h.codes] at hcode
      exact ⟨fun _ => hcode, fun _ => ⟨_, rfl⟩⟩
    · rw [codesOf, hrows, List.map_append, inserted_append, ← List.append_assoc, ← h.codes]
      rfl
    · rw [hrows]
      exact h.grows.trans (List.prefix_append _ _)
    · intro row hrow n hn
      have hrow : row ∈ sessions.table.rows := hrow
      rw [hrows] at hrow
      rcases List.mem_append.mp hrow with hrow | hrow
      · exact h.fresh row hrow n (Nat.le_of_succ_le hn)
      · obtain rfl := List.mem_singleton.mp hrow
        intro heq
        exact absurd (Runtime.uuid4_injective heq) (Nat.ne_of_gt hn)
    · intro j session' sessionId hmem
      change ∃ createdAt, _ ∈ sessions.table.rows
      rw [hrows]
      rcases List.mem_append.mp hmem with hmem | hmem
      · obtain ⟨createdAt, hrow⟩ := h.stored j session' sessionId hmem
        exact ⟨createdAt, List.mem_append_left _ hrow⟩
      · cases List.mem_singleton.mp hmem
        exact ⟨u.now, by simp⟩

lemma Kept.exec {history : List Ev} (h : Kept s history u) (i : ℕ) {β : Type} (o : Op β) :
    Kept s (history ++ [⟨i, o, (exec o u).1⟩]) (exec o u).2 := by
  cases o with
  | commit session => exact h.commit i session
  | selectQuiz quizId =>
    have hselect : Regular s history ⟨i, .selectQuiz quizId, .ok (u.quizzes.get? quizId)⟩ :=
      congrArg (fun t => Except.ok (Table.get? t quizId)) h.quizzes
    exact h.read hselect trivial rfl rfl rfl le_rfl
  | generateRoomCode => exact h.read ⟨_, rfl⟩ trivial rfl rfl rfl le_rfl
  | rollback => exact h.read rfl trivial rfl rfl rfl le_rfl
  | refresh sessionId =>
    refine h.read ?_ trivial rfl rfl rfl le_rfl
    intro j session hmem
    obtain ⟨createdAt, hrow⟩ := h.stored j session sessionId hmem
    exact ⟨createdAt, congrArg Except.ok (byId_of_mem hrow)⟩

/-- The calls and the database of a run. -/
structure Running (s : State) (c : system.Config) : Prop where
  traced : c.Traced (fun _ _ _ => True) fun call r l => Playable s call → Recorded (Regular s) l →
    Ended call r l
  labelled : c.Labelled
  kept : Kept s c.world.history c.world.state

lemma follows (i : ℕ) (call : Call) : (system.code call).Follows system.Answers i (fun _ _ => True)
    (fun r l => Playable s call → Recorded (Regular s) l → Ended call r l) [] := by
  by_cases h : Playable s call
  · exact (createRoom_follows call h).mono fun r l hr _ => hr
  · exact (Follows.of_all (S := fun _ => True) (A := fun _ => True) (all_true _)
      (fun _ _ _ _ _ _ => ⟨trivial, trivial⟩) trivial).mono fun r l _ hp => absurd hp h

lemma Running.step (h : Running s c) {a : system.Act} (ha : ∀ i e, a ≠ .fault i e) :
    Running s (Machine.step a c) := by
  have htraced := h.traced.step h.labelled (fun i call => follows i call) a
  have hlabelled := h.labelled.step a
  have hm := step_moves a c
  generalize Machine.step a c = d at hm htraced hlabelled
  refine ⟨htraced, hlabelled, ?_⟩
  cases hm with
  | idle => exact h.kept
  | spawn call t admitted =>
    cases admitted
    exact h.kept
  | run i call o k pending ready => exact h.kept.exec i o
  | fault i e => exact absurd rfl (ha i e)
  | env now => exact ⟨h.kept.recorded, h.kept.quizzes, h.kept.codes, h.kept.grows, h.kept.fresh,
      h.kept.stored⟩

lemma running (hs : Fresh s) (acts : List system.Act) (hacts : ∀ i e, .fault i e ∉ acts) :
    Running s (Machine.run acts (start s)) := by
  apply (invariant (I := fun c : system.Config => Running s c)
    (P := fun t => ∀ i e, t.act ≠ .fault i e) (fun t ht h => h.step ht) _ acts _).2
  · exact ⟨traced_start (M := system) s, labelled_start (M := system) s, kept_nil hs⟩
  · intro t ht i e heq
    exact hacts i e (heq ▸ act_mem ht)

lemma regular_own {i : ℕ} (h : Running s c) : Recorded (Regular s) (own i c.world.history) :=
  h.kept.recorded.own fun _ _ hev => hev.1.anti fun _ hmem => (mem_own.mp hmem).1

lemma attempts_eq (h : Running s c) (i : ℕ) :
    attempts s i c.world.history = tried (own i c.world.history) :=
  attempts_eq_tried (fun before ev after heq => (h.kept.recorded before ev after heq).2) i

end Run

end Codes

/-- How a call for a playable quiz has ended: with the session under the first of its codes that was
free at its commit, or with five codes that were taken and no session. -/
def Created [Runtime] (s : State) (c : system.Config) (i : ℕ) (call : Call) :
    Except Exn RoomResponse → Prop
  | .ok response => ∃ taken code createdAt, taken.length < roomCodeAttempts ∧
      generated (own i c.world.history) = taken ++ [code] ∧
      attempts s i c.world.history = taken.map (·, false) ++ [(code, true)] ∧
      inserted (own i c.world.history) = [code] ∧
      response = ⟨response.sessionId, code, call.data.quizId, .waiting, 0, createdAt⟩ ∧
      ∃ row ∈ (State.sessions c.world.state).table.rows, ∃ storedAt,
        row = (newSession call.data.quizId call.userId call.data code).row
        response.sessionId storedAt
  | .error e => e = .integrityError ∧ ∃ taken : List String, taken.length = roomCodeAttempts ∧
      generated (own i c.world.history) = taken ∧ attempts s i c.world.history =
        taken.map (·, false) ∧
      inserted (own i c.world.history) = []

/-- What a run of calls has made of the sessions, and of each call for a playable quiz. -/
structure RoomsCreated [Runtime] (s : State) (c : system.Config) : Prop where
  unchanged : s.sessions.table.rows <+: (State.sessions c.world.state).table.rows
  codes : codesOf c.world.state = codesOf s ++ inserted c.world.history
  distinct : (codesOf c.world.state).Nodup
  ends : ∀ i call, c.calls[i]? = some call →
    ∃ n r, (run (runs i n) c).procs[i]? = some ⟨call, .done r⟩
  created : ∀ i call r, c.procs[i]? = some ⟨call, .done r⟩ → Playable s call → Created s c i call r

/-- However calls of `create_room` interleave and whatever codes they draw, each for a playable quiz
stores one session under its first code that is free, if one of five is. -/
theorem roomsCreated [Runtime] {s : State} (hs : Codes.Fresh s) (acts : List system.Act)
    (hacts : ∀ i e, .fault i e ∉ acts) : RoomsCreated s (run acts (start s)) := by
  have hrunning := Codes.running hs acts hacts
  refine ⟨hrunning.kept.grows, hrunning.kept.codes, Table.unique _, ?_, ?_⟩
  · intro i call hcall
    obtain ⟨rest, hproc⟩ := exists_proc hcall
    obtain ⟨n, -, hprocs⟩ := exists_runs_alone (M := system) (fun _ _ => rfl) hproc
    have hlt := (List.getElem?_eq_some_iff.mp hproc).1
    exact ⟨n, _, (congrArg (fun procs => procs[i]?) hprocs).trans (List.getElem?_set_self hlt)⟩
  · intro i call r hproc hplayable
    have hended : Codes.Ended call r (own i (run acts (start s)).world.history) :=
      hrunning.traced.rest i _ hproc hplayable (Codes.regular_own hrunning)
    cases r with
    | ok response =>
      obtain ⟨taken, code, createdAt, hlength, hg, ht, hi, hresponse, j, hmem⟩ := hended
      obtain ⟨storedAt, hrow⟩ := hrunning.kept.stored _ _ _ (mem_own.mp hmem).1
      exact ⟨taken, code, createdAt, hlength, hg, (Codes.attempts_eq hrunning i).trans ht, hi,
        hresponse, _, hrow, storedAt, rfl⟩
    | error e =>
      obtain ⟨he, taken, hlength, hg, ht, hi⟩ := hended
      exact ⟨he, taken, hlength, hg, (Codes.attempts_eq hrunning i).trans ht, hi⟩

section Sample

attribute [local instance] Runtime.ascii

/-- A published quiz, and a code that is drawn twice. -/
def collision : State :=
  ⟨⟨[⟨"q", "ada", .published⟩], by decide⟩, ⟨Table.empty, by decide⟩, fun n =>
    if n < 2 then "TAKEN1" else "FREE01", 0, 0, 0⟩

def request : Call := ⟨"ada", "q", false, false, true, false⟩

def twice : List system.Act := [.spawn request, .spawn request] ++ runs 0 4 ++ runs 1 7

theorem roomsCreated_twice : RoomsCreated collision (run twice (start collision)) :=
  roomsCreated (fun row hrow => (by cases hrow)) twice (by rintro i e h; simp [twice, runs] at h)

example : codesOf (run twice (start collision)).world.state = ["TAKEN1", "FREE01"] := by
    decide +kernel

end Sample

end Askit.Rooms
