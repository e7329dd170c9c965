import Askit.Game.TurnedAway

/-! Who is in an answered set has answered, on record, in every run. -/

namespace Askit.Game

open Interleaving Machine Coro Tables

section

variable [Runtime]

namespace FastPath

open HostTurns
variable (roomCode : String)
variable {roomCode} {room : String} {playerId : UUID} {i : ℕ} {l l' : List (Event Op Exn)}
variable {α β γ : Type}

section Run

variable {c : system.Config} {w v : system.World}

def Answered (roomCode : String) (w : system.World) (playerId : UUID) (r : Room) : Prop :=
  r.session.currentQuestionIndex ≠ 0 ∧ ∃ ids ∈ orders roomCode w, ∃ questionId,
    ids[r.session.currentQuestionIndex - 1]? = some questionId ∧
      (w.state.db.answers.get? (playerId, questionId)).isSome

def Meanwhile (roomCode : String) (i : ℕ) (r : Room) (history : List (Event Op Exn)) : Prop :=
  r ∈ reads roomCode (own i history) ∨ r ∈ reads roomCode history ∧
    ∃ first ∈ reads roomCode (own i history),
      first.session.currentQuestionIndex < r.session.currentQuestionIndex

structure Kept (roomCode : String) (calls : List system.Call) (w : system.World) : Prop where
  players : ∀ room playerId data, Call.playerFrame room playerId data ∈ calls →
    (w.state.db.players.get? playerId).isSome
  questions : ∀ ev ∈ w.history, ∀ questionId, asks questionId ev →
    (w.state.db.question? questionId).isSome
  recorded : ∀ ev ∈ w.history, ∀ a, records a ev → (w.state.db.answers.get? a.key).isSome
  members : ∀ room index playerId, Runtime.upper room = Runtime.upper roomCode →
    playerId ∈ w.state.redis.answered room index →
      ∃ r ∈ reads roomCode w.history, index ≤ r.session.currentQuestionIndex ∧
        Answered roomCode w playerId r
  rejected : ∀ ev ∈ w.history, rejects ev → ∀ room playerId data,
    calls[ev.pid]? = some (.playerFrame room playerId data) →
      Runtime.upper room = Runtime.upper roomCode →
        ∃ r, Meanwhile roomCode ev.pid r w.history ∧ Answered roomCode w playerId r

structure Grows (roomCode : String) (w v : system.World) : Prop where
  history : w.history <+: v.history
  answers : ∀ key, (w.state.db.answers.get? key).isSome → (v.state.db.answers.get? key).isSome
  players : ∀ id, (w.state.db.players.get? id).isSome → (v.state.db.players.get? id).isSome
  quizzes : v.state.db.quizzes = w.state.db.quizzes

lemma Grows.reads (h : Grows roomCode w v) {r : Room} (hr : r ∈ reads roomCode w.history) :
    r ∈ HostTurns.reads roomCode v.history := by
  obtain ⟨l, hl⟩ := h.history
  rw [← hl]
  simp only [HostTurns.reads, List.filterMap_append]
  exact List.mem_append_left _ hr

lemma Grows.own (h : Grows roomCode w v) {r : Room}
    (hr : r ∈ HostTurns.reads roomCode (own i w.history)) :
    r ∈ HostTurns.reads roomCode (Interleaving.own i v.history) := by
  obtain ⟨l, hl⟩ := h.history
  rw [← hl]
  simp only [HostTurns.reads, Interleaving.own, List.filter_append, List.filterMap_append]
  exact List.mem_append_left _ hr

lemma Answered.grows {r : Room} (ha : Answered roomCode w playerId r) (h : Grows roomCode w v) :
    Answered roomCode v playerId r := by
  obtain ⟨hz, ids, hids, q, hq, hr⟩ := ha
  refine ⟨hz, ids, ?_, q, hq, h.answers _ hr⟩
  obtain ⟨l, hl⟩ := h.history
  rw [orders, ← hl, List.filterMap_append]
  exact List.mem_append_left _ hids

lemma Meanwhile.grows {r : Room} (hm : Meanwhile roomCode i r w.history) (h : Grows roomCode w v) :
    Meanwhile roomCode i r v.history := by
  rcases hm with hm | ⟨hm, first, hf, hlt⟩
  · exact .inl (h.own hm)
  · exact .inr ⟨h.reads hm, first, h.own hf, hlt⟩

lemma grows_perform (o : Op β) : Grows roomCode w (w.perform i o).2 where
  history := List.prefix_append _ _
  answers key h := by
    cases o with
    | commit changes =>
      cases hc : w.state.db.commit changes with
      | none =>
        rw [perform_commit_none hc]
        exact h
      | some e =>
        rw [perform_commit_some hc]
        change (e.answers.get? key).isSome
        rcases commit_answers hc with ⟨-, he⟩ | ⟨a, -, -, he⟩
        · rw [he]
          exact h
        · rw [Table.get?_insert he]
          split
          · rfl
          · exact h
    | listen room => exact (exec_listen_db room w.state).symm ▸ h
    | _ => exact h
  players _ h := exec_players_isSome o _ h
  quizzes := exec_quizzes o _

lemma grows_fail (o : Op β) (e : Exn) : Grows roomCode w (w.fail i o e) :=
  ⟨List.prefix_append _ _, fun _ h => h, fun _ h => h, rfl⟩

lemma grows_of_db {s : State} (hd : s.db = w.state.db) : Grows roomCode w ⟨s, w.history⟩ :=
  ⟨List.prefix_refl _, fun _ h => hd ▸ h, fun _ h => hd ▸ h, congrArg Db.quizzes hd⟩

omit [Runtime] in
lemma question?_congr {d e : Db} (h : e.quizzes = d.quizzes) (questionId : UUID) :
    e.question? questionId = d.question? questionId := by
  simp only [Db.question?, h]

lemma Kept.grows {calls : List system.Call} (h : Kept roomCode calls w) (hg : Grows roomCode w v)
    {ev : Event Op Exn} (hh : v.history = w.history ++ [ev])
    (hask : ∀ questionId, asks questionId ev → (w.state.db.question? questionId).isSome)
    (hrec : ∀ a, records a ev → (v.state.db.answers.get? a.key).isSome)
    (hmem : ∀ room index playerId, Runtime.upper room = Runtime.upper roomCode →
      playerId ∈ v.state.redis.answered room index → playerId ∉ w.state.redis.answered room index →
        ∃ r ∈ reads roomCode w.history, index ≤ r.session.currentQuestionIndex ∧
          Answered roomCode w playerId r)
    (hrej : rejects ev → ∀ room playerId data, calls[ev.pid]? = some
      (.playerFrame room playerId data) →
      Runtime.upper room = Runtime.upper roomCode →
        ∃ r, Meanwhile roomCode ev.pid r w.history ∧ Answered roomCode w playerId r) :
    Kept roomCode calls v := by
  constructor
  · exact fun room p data hc => hg.players _ (h.players room p data hc)
  · intro e he q hq
    rw [question?_congr hg.quizzes]
    rw [hh] at he
    rcases List.mem_append.mp he with he | he
    · exact h.questions e he q hq
    · rw [List.mem_singleton.mp he] at hq
      exact hask q hq
  · intro e he a ha
    rw [hh] at he
    rcases List.mem_append.mp he with he | he
    · exact hg.answers _ (h.recorded e he a ha)
    · rw [List.mem_singleton.mp he] at ha
      exact hrec a ha
  · intro room index p hu hp
    have hold : ∃ r ∈ reads roomCode w.history, index ≤ r.session.currentQuestionIndex ∧
        Answered roomCode w p r := by
      by_cases hin : p ∈ w.state.redis.answered room index
      · exact h.members room index p hu hin
      · exact hmem room index p hu hp hin
    obtain ⟨r, hr, hle, ha⟩ := hold
    exact ⟨r, hg.reads hr, hle, ha.grows hg⟩
  · intro e he hr room p data hc hu
    have hold : ∃ r, Meanwhile roomCode e.pid r w.history ∧ Answered roomCode w p r := by
      rw [hh] at he
      rcases List.mem_append.mp he with he | he
      · exact h.rejected e he hr room p data hc hu
      · rw [List.mem_singleton.mp he] at hr hc ⊢
        exact hrej hr room p data hc hu
    obtain ⟨r, hm, ha⟩ := hold
    exact ⟨r, hm.grows hg, ha.grows hg⟩

def Rule (roomCode : String) (call : Call) (l : List (Event Op Exn)) (ev : Event Op Exn) : Prop :=
  ∀ room playerId data, call = .playerFrame room playerId data →
    Runtime.upper room = Runtime.upper roomCode → Ruled roomCode room playerId l ev

lemma code_follows (i : ℕ) (call : Call) :
    (code call).Follows system.Answers i (Rule roomCode call) (fun _ _ => True) [] := by
  by_cases hc : ∃ room playerId data, call = .playerFrame room playerId data ∧
    Runtime.upper room = Runtime.upper roomCode
  · obtain ⟨room, playerId, data, rfl, hu⟩ := hc
    apply (handlePlayerMessage_follows hu data).weaken
    rintro l ev h _ _ _ ⟨⟩ _
    exact h
  · exact Follows.of_all (S := fun _ => True) (A := fun _ => True) (all_true _)
      (fun _ _ _ _ _ _ => ⟨fun room p data h hu => (hc ⟨room, p, data, h, hu⟩).elim, trivial⟩)
        trivial

structure Sound (roomCode : String) (c : system.Config) : Prop where
  turns : Turns roomCode c
  traced : c.Traced (Rule roomCode) fun _ _ _ => True
  stays : c.Confined fun call => Op.Local (Call.room call) (Call.Answers call)
  kept : Kept roomCode c.calls c.world

lemma reads_own_subset {history : List (Event Op Exn)} {r : Room}
    (h : r ∈ reads roomCode (own i history)) : r ∈ reads roomCode history :=
  List.Sublist.subset (List.Sublist.filterMap _ List.filter_sublist) h

lemma Sound.answered (h : Sound roomCode c) {index : ℕ} {questionId : UUID}
    (hf : Found roomCode index questionId (own i c.world.history))
    (hr : (c.world.state.db.answers.get? (playerId, questionId)).isSome) :
    ∃ second ∈ reads roomCode (own i c.world.history),
      index ≤ second.session.currentQuestionIndex ∧ Answered roomCode c.world playerId second := by
  obtain ⟨first, second, ids, hreads, rfl, hz, ⟨ev, hev, hids⟩, hq, -⟩ := hf
  refine ⟨second, by simp [hreads], ?_, hz, ids, ?_, questionId, hq, hr⟩
  · have hasc : (reads roomCode (own i c.world.history)).Pairwise fun r r' =>
        r.session.currentQuestionIndex ≤ r'.session.currentQuestionIndex :=
      h.turns.facts.ascending.sublist (List.Sublist.filterMap _ List.filter_sublist)
    rw [hreads] at hasc
    simpa using hasc
  · exact h.turns.facts.read ev (mem_own.mp hev).1 ids hids

lemma Kept.refused {calls : List system.Call} (h : Kept roomCode calls w) {changes : Changes}
    {a : GamePlayerAnswer} {index : ℕ} (ha : changes.newAnswer = some a)
    (hn : changes.newPlayer = none) (hp : (w.state.db.players.get? a.playerId).isSome)
    (hf : Found roomCode index a.questionId (own i w.history))
    (hc : w.state.db.commit changes = none) : (w.state.db.answers.get? a.key).isSome := by
  obtain ⟨-, -, -, -, -, -, -, -, ev, hev, hask⟩ := hf
  have hq := h.questions ev (mem_own.mp hev).1 _ hask
  by_contra hnone
  rw [Option.not_isSome_iff_eq_none, Table.get?_eq_none] at hnone
  obtain ⟨t, ht⟩ : ∃ t, w.state.db.answers.insert a = some t := by
    cases ht : w.state.db.answers.insert a with
    | none => exact (hnone (Table.insert_eq_none.mp ht)).elim
    | some t => exact ⟨t, rfl⟩
  simp [Db.commit, Db.insertAnswer, Db.insertPlayer, ha, hn, hp, hq, ht] at hc

lemma Sound.member (h : Sound roomCode c) {i : ℕ} {call : Call} {index : ℕ}
    {k : Except Exn Unit → Handler Unit}
    (pending : c.procs[i]? = some ⟨call, .await (.saddAnswered room index playerId) k⟩)
    (hu : Runtime.upper room = Runtime.upper roomCode) :
    ∃ r ∈ reads roomCode c.world.history, index ≤ r.session.currentQuestionIndex ∧
      Answered roomCode c.world playerId r := by
  obtain ⟨hroom, hanswers⟩ := (h.stays.rest i _ pending).1
  cases call with
  | playerFrame room' p data =>
    obtain rfl : room = room' := hroom
    obtain ⟨rfl, a, ⟨ev, hev, hrec⟩, hp, hf⟩ :=
      (h.traced.rest i _ pending (.error .failure) nofun).1 room p data rfl hu
    have hdb := h.kept.recorded ev (mem_own.mp hev).1 a hrec
    rw [GamePlayerAnswer.key, hp] at hdb
    obtain ⟨r, hr, hle, ha⟩ := h.answered hf hdb
    exact ⟨r, reads_own_subset hr, hle, ha⟩
  | _ => exact hanswers.elim

lemma Sound.refuses (h : Sound roomCode c) {i : ℕ} {room : String} {playerId : UUID}
    {data : ClientMessage} {o : Op β} {k : Except Exn β → Handler Unit}
    (pending : c.procs[i]? = some ⟨.playerFrame room playerId data, .await o k⟩)
    (hu : Runtime.upper room = Runtime.upper roomCode)
    (hr : rejects ⟨i, o, (exec o c.world.state).1⟩) :
    ∃ r, Meanwhile roomCode i r c.world.history ∧ Answered roomCode c.world playerId r := by
  have hruled : Ruled roomCode room playerId (own i c.world.history)
      ⟨i, o, (exec o c.world.state).1⟩ :=
    (h.traced.rest i _ pending _ fun a ha => ⟨_, ha⟩).1 room playerId data rfl hu
  have hplayer : (c.world.state.db.players.get? playerId).isSome :=
    h.kept.players room playerId data (List.mem_of_getElem? (getElem?_calls pending))
  cases o with
  | sismemberAnswered room' index p =>
    obtain ⟨rfl, rfl, first, hreads, rfl⟩ := hruled
    have hin : p ∈ c.world.state.redis.answered room' first.session.currentQuestionIndex := by
      simpa [rejects, exec] using hr
    obtain ⟨r, hread, hle, ha⟩ := h.kept.members room' _ p hu hin
    have hfirst : first ∈ reads roomCode (own i c.world.history) := by simp [hreads]
    rcases hle.eq_or_lt with heq | hlt
    · refine ⟨first, .inl hfirst, ?_⟩
      rw [Answered, heq]
      exact ha
    · exact ⟨r, .inr ⟨hread, first, hfirst, hlt⟩, ha⟩
  | commit changes =>
    cases hc : c.world.state.db.commit changes with
    | some e =>
      rw [exec_commit_some hc] at hr
      exact hr.elim
    | none =>
      rw [exec_commit_none hc] at hr
      obtain ⟨a, ha⟩ := Option.isSome_iff_exists.mp hr
      obtain ⟨rfl, hn, index, hf⟩ := hruled a ha
      have hdb := h.kept.refused ha hn hplayer hf hc
      obtain ⟨r, hread, -, hans⟩ := h.answered hf hdb
      exact ⟨r, .inl hread, hans⟩
  | listen room' =>
    cases hp : c.world.state.registry.pending room' <;> simp [exec, hp, rejects] at hr
  | _ => exact hr.elim

omit [Runtime] in
lemma member_of_sadd {redis : Redis} {room' : String} {index index' : ℕ} {p p' : UUID}
    (h : p ∈ (redis.setAnswered room' index' (insert p' (redis.answered room' index'))).answered
      room index)
    (hnot : p ∉ redis.answered room index) : room = room' ∧ index = index' ∧ p = p' := by
  by_cases hr : room = room'
  · subst hr
    by_cases hi : index = index'
    · subst hi
      have h : p ∈ insert p' (redis.answered room index) := by
        simpa [Redis.setAnswered] using h
      rcases List.mem_insert_iff.mp h with rfl | h
      · exact ⟨rfl, rfl, rfl⟩
      · exact (hnot h).elim
    · simp [Redis.setAnswered, Function.update_of_ne hi] at h
      exact (hnot h).elim
  · simp [Redis.setAnswered, Function.update_of_ne hr] at h
    exact (hnot h).elim

lemma Sound.perform (h : Sound roomCode c) {i : ℕ} {call : Call} {o : Op β}
    {k : Except Exn β → Handler Unit} (pending : c.procs[i]? = some ⟨call, .await o k⟩) :
    Kept roomCode c.calls (c.world.perform i o).2 := by
  apply h.kept.grows (grows_perform o) (World.perform_history _ i o)
  · intro questionId hq
    cases o with
    | getQuestion id =>
      obtain ⟨rfl, hq⟩ := hq
      exact hq
    | _ => exact hq.elim
  · intro a ha
    cases o with
    | commit changes =>
      cases hc : c.world.state.db.commit changes with
      | none =>
        change records a ⟨i, .commit changes, (exec (.commit changes) c.world.state).1⟩ at ha
        rw [exec_commit_none hc] at ha
        exact ha.elim
      | some e =>
        change records a ⟨i, .commit changes, (exec (.commit changes) c.world.state).1⟩ at ha
        rw [exec_commit_some hc] at ha
        rw [perform_commit_some hc]
        change (e.answers.get? a.key).isSome
        rcases commit_answers hc with ⟨hn, -⟩ | ⟨a', ha', -, hins⟩
        · rw [show changes.newAnswer = some a from ha] at hn
          cases hn
        · obtain rfl : a = a' := Option.some.inj (ha.symm.trans ha')
          rw [Table.get?_insert hins, if_pos rfl]
          rfl
    | _ => exact ha.elim
  · intro room index p hu hp hnot
    cases o with
    | saddAnswered room' index' p' =>
      obtain ⟨rfl, rfl, rfl⟩ := member_of_sadd hp hnot
      exact h.member pending hu
    | commit changes => cases hc : c.world.state.db.commit changes with
      | none =>
        rw [perform_commit_none hc] at hp
        exact (hnot hp).elim
      | some e =>
        rw [perform_commit_some hc] at hp
        exact (hnot hp).elim
    | listen room' =>
      have hr : (exec (.listen room') c.world.state).2.redis = State.redis c.world.state := by
        simp only [exec]
        split <;> rfl
      exact (hnot (hr ▸ hp)).elim
    | _ => exact (hnot hp).elim
  · intro hr room p data hc hu
    obtain ⟨rest, hp⟩ := exists_proc hc
    obtain rfl := (Proc.mk.inj (Option.some.inj (pending.symm.trans hp))).1
    exact h.refuses pending hu hr

lemma Kept.fail {calls : List system.Call} (h : Kept roomCode calls w) {o : Op β} {e : Exn}
    (he : e ≠ .alreadyAnsweredError ∧ e ≠ .integrityError) :
    Kept roomCode calls (w.fail i o e) := by
  apply h.grows (grows_fail o e) (World.fail_history _ i o e)
  · intro questionId hq
    cases o <;> exact hq.elim
  · intro a ha
    cases o <;> exact ha.elim
  · exact fun _ _ _ _ hp hnot => (hnot hp).elim
  · intro hr
    obtain ⟨hne, hni⟩ := he
    cases e with
    | alreadyAnsweredError => exact (hne rfl).elim
    | integrityError => exact (hni rfl).elim
    | _ => cases o <;> exact hr.elim

omit [Runtime] in
lemma answered_of_lose {redis : Redis} (key : RedisKey) {index : ℕ}
    (h : playerId ∈ (redis.lose key).answered room index) :
    playerId ∈ redis.answered room index := by
  cases key with
  | answered room' index' =>
    by_cases hr : room = room'
    · subst hr
      by_cases hi : index = index'
      · subst hi
        simp [Redis.lose, Redis.setAnswered] at h
      · simpa [Redis.lose, Redis.setAnswered, Function.update_of_ne hi] using h
    · simpa [Redis.lose, Redis.setAnswered, Function.update_of_ne hr] using h
  | _ => exact h

lemma Kept.congr {calls : List system.Call} (h : Kept roomCode calls w) {s : State}
    (hd : s.db = w.state.db)
    (hm : ∀ room index p, p ∈ s.redis.answered room index → p ∈ w.state.redis.answered room index) :
    Kept roomCode calls ⟨s, w.history⟩ := by
  have hg : Grows roomCode w ⟨s, w.history⟩ := grows_of_db hd
  refine ⟨fun room p data hc => hg.players _ (h.players room p data hc), fun ev he q hq => ?_,
    fun ev he a ha => hg.answers _ (h.recorded ev he a ha), ?_, ?_⟩
  · rw [question?_congr hg.quizzes]
    exact h.questions ev he q hq
  · intro room index p hu hp
    obtain ⟨r, hr, hle, ha⟩ := h.members room index p hu (hm room index p hp)
    exact ⟨r, hr, hle, ha.grows hg⟩
  · intro ev he hrej room p data hc hu
    obtain ⟨r, hr, ha⟩ := h.rejected ev he hrej room p data hc hu
    exact ⟨r, hr, ha.grows hg⟩

lemma Kept.spawn (h : Kept roomCode c.calls c.world) (hl : c.Labelled) {call : system.Call}
    {s : State} (admitted : enter call c.world.state = some s) :
    Kept roomCode (Config.calls (M := system)
      ⟨{ c.world with state := s }, c.procs ++ [⟨call, code call⟩]⟩)
      { c.world with state := s } := by
  obtain ⟨hd, hr, -⟩ := enter_eq_some admitted
  have hk : Kept roomCode c.calls ⟨s, c.world.history⟩ := h.congr hd fun _ _ _ hp => hr ▸ hp
  have hcalls : Config.calls (M := system) ⟨{ c.world with state := s },
    c.procs ++ [⟨call, code call⟩]⟩ =
      c.calls ++ [call] := by
    simp [Config.calls]
  rw [hcalls]
  refine ⟨?_, hk.questions, hk.recorded, hk.members, ?_⟩
  · intro room p data hc
    rcases List.mem_append.mp hc with hc | hc
    · exact hk.players room p data hc
    · obtain rfl := (List.mem_singleton.mp hc)
      simp only [enter] at admitted
      split at admitted
      case isTrue hg =>
        cases admitted
        obtain ⟨-, -, q, hq, -⟩ := hg
        exact Option.isSome_iff_exists.mpr ⟨q, hq⟩
      case isFalse => cases admitted
  · intro ev he hrej room p data hc hu
    rw [List.getElem?_append_left (by simpa [Config.calls] using hl ev he)] at hc
    exact hk.rejected ev he hrej room p data hc hu

lemma Sound.step {t : system.Transition} (h : Sound roomCode t.before) (hf : ForeignFaults t.act)
    (ht : FramesInTurn roomCode t) : Sound roomCode t.after := by
  refine ⟨h.turns.step ht,
    h.traced.step h.turns.labelled (fun i call => code_follows i call) t.act,
    h.stays.step (P := fun call => Op.Local (Call.room call) (Call.Answers call))
    code_stays t.act, ?_⟩
  obtain ⟨c, a⟩ := t
  change Kept roomCode (Machine.step a c).calls (Machine.step a c).world
  have hm := step_moves a c
  generalize Machine.step a c = d at hm
  cases hm with
  | idle => exact h.kept
  | spawn call s admitted => exact h.kept.spawn h.turns.labelled admitted
  | run i call o k pending ready =>
    rw [Config.calls, calls_set pending]
    exact h.perform pending
  | fault i e call o k pending =>
    rw [Config.calls, calls_set pending]
    exact h.kept.fail hf
  | env e =>
    apply h.kept.congr (s := e.act c.world.state)
    · cases e <;> rfl
    · intro room index p hp
      cases e with
      | clock now => exact hp
      | lose key => exact answered_of_lose key hp

lemma sound_start {quiz : Quiz} {s : State} (h : Created roomCode quiz s)
    (hq : ∀ room, Runtime.upper room = Runtime.upper roomCode → s.redis.questions room = none)
    (ha : ∀ room index, Runtime.upper room = Runtime.upper roomCode →
      s.redis.answered room index = []) :
    Sound roomCode (start s) where
  turns := turns_start h hq
  traced := ⟨fun i p h => (by cases h), recorded_nil⟩
  stays := ⟨fun i p h => (by cases h), fun ev h => (by cases h)⟩
  kept := by
    refine ⟨fun _ _ _ h => (by cases h), fun _ h => (by cases h), fun _ h => (by cases h), ?_,
      fun _ h => (by cases h)⟩
    intro room index p hu hp
    have hp : p ∈ s.redis.answered room index := hp
    rw [ha room index hu] at hp
    cases hp

end Run

end FastPath

end

end Askit.Game
