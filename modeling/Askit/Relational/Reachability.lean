import Askit.Relational.Evolution

/-! What holds of the site after every run: identifiers are drawn before they are used, and the
records of a session are answers to questions of its quiz. -/

namespace Askit.Relational

open Interleaving Coro Tables
open Game (UUID Time Runtime GameSession GamePlayer GamePlayerAnswer)
open Auth (User)
open Quizzes (Platform QuizStatus QuizAnswerCreate QuizQuestionCreate QuizCreate QuizUpdate
  NewQuestion Exn newQuestions)

section Runs

variable [Platform]

namespace Site

structure Inv (s : Site) : Prop where
  quizzes : ∀ k ∈ s.db.quizzes.keys, Drawn 0 s.world.draws k
  questions : ∀ q ∈ s.db.questions.rows, Drawn 0 s.world.draws q.questionId
  answers : ∀ a ∈ s.db.answers.rows, Drawn 0 s.world.draws a.answerId
  players : ∀ p ∈ s.db.players.rows, Drawn 0 s.world.draws p.playerId
  ordered : ∀ roomCode ids, s.orders roomCode = some ids → ∀ id ∈ ids, Drawn 0 s.world.draws id
  orders : ∀ roomCode ids, s.orders roomCode = some ids → ∀ q ∈ s.db.questions.rows,
    q.questionId ∈ ids →
    ∃ g ∈ s.db.sessions.rows, g.roomCode = Runtime.upper roomCode ∧ g.quizId = q.quizId
  joined : ∀ roomCode playerId, (roomCode, playerId) ∈ s.admitted → Drawn 0 s.world.draws playerId
  admitted : ∀ roomCode playerId, (roomCode, playerId) ∈ s.admitted → ∀ p ∈ s.db.players.rows,
    p.playerId = playerId →
    ∃ g ∈ s.db.sessions.rows, g.roomCode = Runtime.upper roomCode ∧ g.sessionId = p.sessionId
  sited : s.db.Sited
  filled : s.db.Filled

lemma inv_init (now : Time) : Inv ⟨.empty, ⟨0, now⟩, fun _ => none, []⟩ := by
  constructor <;> simp [Database.empty, Table.empty, Table.keys, Rows.Sited, Rows.Filled]

variable {s : Site} {d : Database} {w : World}

lemma inv_evolves (h : Inv s) (he : Evolves s.db.toRows s.world.draws d.toRows w.draws) :
    Inv { s with db := d, world := w } where
  quizzes := he.quizzes.drawn h.quizzes he.draws
  questions := he.questions.drawn h.questions he.draws
  answers := he.answers.drawn h.answers he.draws
  players p hp := by
    rcases he.players p hp with ⟨r, hr, hid, -⟩ | hnew
    · exact hid ▸ (h.players r hr).mono le_rfl he.draws
    · exact hnew.mono (Nat.zero_le _) le_rfl
  ordered roomCode ids hids id hid := (h.ordered roomCode ids hids id hid).mono le_rfl he.draws
  orders roomCode ids hids q hq hmem := by
    rcases he.questions q hq with hold | hnew
    · obtain ⟨f, hf, hcode, hquiz⟩ := h.orders roomCode ids hids q hold hmem
      obtain ⟨g, hg, hsame⟩ := he.kept f hf q hq hold hquiz.symm
      exact ⟨g, hg, hsame.roomCode ▸ hcode, hsame.quizId ▸ hquiz⟩
    · exact ((h.ordered roomCode ids hids _ hmem).disjoint hnew).elim
  joined roomCode playerId hmem := (h.joined roomCode playerId hmem).mono le_rfl he.draws
  admitted roomCode playerId hmem p hp hid := by
    rcases he.players p hp with ⟨r, hr, hplayer, hsession⟩ | hnew
    · obtain ⟨f, hf, hcode, hfs⟩ := h.admitted roomCode playerId hmem r hr (hplayer.trans hid)
      obtain ⟨g, hg, hgs⟩ := List.mem_map.mp (d.intact.player_session p hp _ rfl)
      have hfg : f.sessionId = g.sessionId := (hfs.trans hsession).trans hgs.symm
      rcases he.sessions g hg with ⟨f', hf', hsame⟩ | hfresh
      · obtain rfl := List.inj_on_of_nodup_map s.db.sessions.unique hf' hf
          (hsame.sessionId.trans hfg.symm)
        exact ⟨g, hg, hsame.roomCode ▸ hcode, hgs⟩
      · exact (hfresh (hfg ▸ Table.key_mem_keys hf)).elim
    · exact ((h.joined roomCode playerId hmem).disjoint (hid ▸ hnew)).elim
  sited a ha p hp hplayer g hg hsession q hq hquestion := by
    have hold := he.records ha
    rcases he.players p hp with ⟨r, hr, hrid, hrs⟩ | hnew
    · rcases he.sessions g hg with ⟨f, hf, hsame⟩ | hfresh
      · rcases he.questions q hq with hqold | hqnew
        · have hsited := h.sited a hold r hr (hrid.trans hplayer) f hf
            (hsame.sessionId.trans (hsession.trans hrs.symm)) q hqold hquestion
          exact hsited.trans hsame.quizId
        · obtain ⟨q', hq', hid⟩ := List.mem_map.mp (s.db.intact.record_question a hold _ rfl)
          exact ((h.questions q' hq').disjoint (hid.trans hquestion.symm ▸ hqnew)).elim
      · refine (hfresh ?_).elim
        rw [hsession, ← hrs]
        exact s.db.intact.player_session r hr _ rfl
    · obtain ⟨p', hp', hid⟩ := List.mem_map.mp (s.db.intact.record_player a hold _ rfl)
      exact ((h.players p' hp').disjoint (hid.trans hplayer.symm ▸ hnew)).elim
  filled := he.filled h.filled

lemma evolves_unchanged {w : World} (h : s.world ≤ w) :
    Evolves s.db.toRows s.world.draws s.db.toRows w.draws :=
  .of_eq h rfl rfl rfl rfl rfl rfl

lemma evolves_commitQuiz {x : Handler LoadedQuiz} (hx : Uncommitted x) (hedits : Within Edits x)
    (hfound : ∀ quiz q, Yields x ⟨s.db, s.db, s.world⟩ quiz q →
      (q.seen.quizzes.get? quiz.quiz.quizId).isSome) :
    Evolves s.db.toRows s.world.draws (serve (x >>= commitQuiz) s.db s.world).2.1.toRows
      (serve (x >>= commitQuiz) s.db s.world).2.2.draws := by
  rcases serve_commitQuiz hx hfound with ⟨e, w, hw, h⟩ | ⟨quiz, q, -, hyields, h⟩
  · rw [h]
    exact evolves_unchanged hw
  · rw [h]
    exact .of_edits (hedits _ _ _ hyields)

lemma evolves_deleteQuiz (hsited : s.db.Sited) (quizId userId : UUID) :
    Evolves s.db.toRows s.world.draws (serve (deleteQuiz quizId userId) s.db s.world).2.1.toRows
      (serve (deleteQuiz quizId userId) s.db s.world).2.2.draws := by
  rcases serve_deleteQuiz quizId userId s.db s.world with ⟨err, w, hw, h⟩ | ⟨quiz, hquiz, howner⟩
  · rw [h]
    exact evolves_unchanged hw
  · obtain ⟨e, h, hdeleted⟩ := serve_deleteQuiz_of_owner (w := s.world) hquiz howner hsited
    rw [h]
    exact .of_deleted hdeleted _

omit [Platform] in
lemma favorites_written {d : Database} (w : World) (write : Write)
    (out : Option FavoriteActionResponse)
    (hkeeps : ∀ e, write d = .ok e → e.toRows = { d.toRows with favorites := e.favorites }) :
    ∃ r, ∃ e : Database, (execute write >>= fun _ => commit >>= fun _ => pure out :
      Handler (Option FavoriteActionResponse)).alone View.exec ⟨d, .ok d, w⟩ = (r, ⟨e, .ok e, w⟩) ∧
        e.toRows = { d.toRows with favorites := e.favorites } := by
  cases h : write d with
  | error err =>
    have hrefused : (execute write : Handler Unit).alone View.exec ⟨d, .ok d, w⟩ =
        (.error err, ⟨d, .ok d, w⟩) := by
      rw [alone_perform, View.exec, Except.bind, h]
    exact ⟨.error err, d, alone_bind_error hrefused, rfl⟩
  | ok e =>
    have hwritten : (execute write : Handler Unit).alone View.exec ⟨d, .ok d, w⟩ =
        (.ok (), ⟨d, .ok e, w⟩) := by
      rw [alone_perform, View.exec, Except.bind, h]
    exact ⟨.ok out, e, alone_bind_ok hwritten, hkeeps e h⟩

omit [Platform] in
lemma toggleFavorite_writes (quizId userId : UUID) (d : Database) (w : World) :
    ∃ r, ∃ e : Database, (toggleFavorite quizId userId).alone View.exec ⟨d, .ok d, w⟩ =
      (r, ⟨e, .ok e, w⟩) ∧
      e.toRows = { d.toRows with favorites := e.favorites } := by
  by_cases hforeign : (d.quizzes.get? quizId).all (·.creatorId ≠ userId)
  · refine ⟨.ok none, d, (alone_perform_bind (a := d.quizzes.get? quizId) rfl).trans ?_, rfl⟩
    rw [if_pos hforeign]
    rfl
  · cases hfav : (d.favorites.get? ⟨userId, quizId⟩).isSome with
    | true =>
      obtain ⟨r, e, hrun, he⟩ := favorites_written w (Sql.deleteFavorites fun f =>
        f.userId = userId ∧ f.quizId = quizId)
        (some ⟨quizId, false⟩) (d := d) fun e he => by
          obtain rfl := Except.ok.inj he
          rfl
      refine ⟨r, e, (alone_perform_bind (a := d.quizzes.get? quizId) rfl).trans ?_, he⟩
      rw [if_neg hforeign]
      refine (alone_perform_bind (a := (d.favorites.get? ⟨userId, quizId⟩).isSome) rfl).trans ?_
      rw [hfav]
      exact hrun
    | false =>
      obtain ⟨r, e, hrun, he⟩ := favorites_written w (Sql.insertFavorite ⟨userId, quizId⟩)
        (some ⟨quizId, true⟩) (d := d)
        fun e he => by
          unfold Sql.insertFavorite at he
          split_ifs at he
          cases he
          rfl
      refine ⟨r, e, (alone_perform_bind (a := d.quizzes.get? quizId) rfl).trans ?_, he⟩
      rw [if_neg hforeign]
      refine (alone_perform_bind (a := (d.favorites.get? ⟨userId, quizId⟩).isSome) rfl).trans ?_
      rw [hfav]
      exact hrun

lemma evolves_toggleFavorite (quizId userId : UUID) :
    Evolves s.db.toRows s.world.draws (serve (toggleFavorite quizId userId) s.db s.world).2.1.toRows
      (serve (toggleFavorite quizId userId) s.db s.world).2.2.draws := by
  obtain ⟨r, e, hrun, he⟩ := toggleFavorite_writes quizId userId s.db s.world
  rw [serve_eq, hrun]
  refine .of_eq le_rfl ?_ ?_ ?_ ?_ ?_ ?_ <;> rw [he]

lemma evolves_request (h : Inv s) (r : Request) :
    Evolves s.db.toRows s.world.draws (r.run s.db s.world).1.toRows
      (r.run s.db s.world).2.draws := by
  cases r with
  | createQuiz userId data =>
    refine evolves_commitQuiz (uncommitted_newQuiz data) (within_newQuiz data)
      fun quiz q hyields => ?_
    rw [Table.isSome_get?, Table.keys, (created_of_yields hyields).row]
    simp
  | updateQuiz quizId userId data =>
    refine evolves_commitQuiz (uncommitted_editQuiz data) (within_editQuiz data)
      fun quiz q hyields => ?_
    have hedited := edited_of_yields hyields
    rw [hedited.id_eq, hedited.row]
    rfl
  | setQuizStatus quizId newStatus userId =>
    refine evolves_commitQuiz (Alike.uncommitted_changeStatus newStatus)
      (within_changeStatus newStatus) fun quiz q hyields => ?_
    rw [(Alike.stored_of_changeStatus hyields).2.2.1.row]
    rfl
  | deleteQuiz quizId userId => exact evolves_deleteQuiz h.sited quizId userId
  | toggleFavorite quizId userId => exact evolves_toggleFavorite quizId userId

lemma evolves_updateSession {sessionId : UUID} {c : SessionSet}
    (h : Sql.updateSession sessionId c s.db = .ok d) :
    Evolves s.db.toRows s.world.draws d.toRows s.world.draws := by
  obtain rfl := Except.ok.inj h
  have hsame (g : GameSession) : SameRoom g (if g.sessionId = sessionId then c.apply g else g) := by
    split
    · exact ⟨rfl, rfl, rfl⟩
    · exact .refl g
  refine ⟨le_rfl, .of_subset (List.Subset.refl _), .of_subset (List.Subset.refl _),
    .of_subset (List.Subset.refl _), ?_,
    ?_, fun p hp => .inl ⟨p, hp, rfl, rfl⟩, List.Subset.refl _, id⟩
  · intro g hg
    obtain ⟨f, hf, rfl⟩ := List.mem_map.mp hg
    exact .inl ⟨f, hf, hsame f⟩
  · exact fun f hf _ _ _ _ => ⟨_, List.mem_map_of_mem hf, hsame f⟩

lemma evolves_updatePlayer {playerId : UUID} {c : PlayerSet}
    (h : Sql.updatePlayer playerId c s.db = .ok d) :
    Evolves s.db.toRows s.world.draws d.toRows s.world.draws := by
  obtain rfl := Except.ok.inj h
  refine ⟨le_rfl, .of_subset (List.Subset.refl _), .of_subset (List.Subset.refl _),
    .of_subset (List.Subset.refl _),
    fun g hg => .inl ⟨g, hg, .refl g⟩, fun f hf _ _ _ _ => ⟨f, hf, .refl f⟩, ?_,
    List.Subset.refl _, id⟩
  intro p hp
  obtain ⟨r, hr, rfl⟩ := List.mem_map.mp hp
  refine .inl ⟨r, hr, ?_⟩
  split <;> exact ⟨rfl, rfl⟩

lemma evolves_insertSession {g : GameSession} (h : Sql.insertSession g s.db = .ok d) :
    Evolves s.db.toRows s.world.draws d.toRows s.world.draw.draws := by
  unfold Sql.insertSession at h
  split_ifs at h with hnew
  cases h
  refine ⟨Nat.le_succ _, .of_subset (List.Subset.refl _), .of_subset (List.Subset.refl _),
    .of_subset (List.Subset.refl _), ?_, ?_, fun p hp => .inl ⟨p, hp, rfl, rfl⟩,
    List.Subset.refl _, id⟩
  · intro f hf
    rcases List.mem_append.mp hf with hf | hf
    · exact .inl ⟨f, hf, .refl f⟩
    · exact .inr (List.mem_singleton.mp hf ▸ hnew.1)
  · exact fun f hf _ _ _ _ => ⟨f, List.mem_append_left _ hf, .refl f⟩

lemma evolves_insertPlayer {p : GamePlayer} (hid : p.playerId = Runtime.uuid4 s.world.draws)
    (h : Sql.insertPlayer p s.db = .ok d) :
    Evolves s.db.toRows s.world.draws d.toRows s.world.draw.draws := by
  unfold Sql.insertPlayer at h
  split_ifs at h with hnew
  cases h
  refine ⟨Nat.le_succ _, .of_subset (List.Subset.refl _), .of_subset (List.Subset.refl _),
    .of_subset (List.Subset.refl _), fun g hg => .inl ⟨g, hg, .refl g⟩, fun f hf _ _ _ _ =>
    ⟨f, hf, .refl f⟩, ?_, List.Subset.refl _, id⟩
  intro r hr
  rcases List.mem_append.mp hr with hr | hr
  · exact .inl ⟨r, hr, rfl, rfl⟩
  · obtain rfl := List.mem_singleton.mp hr
    exact .inr (hid ▸ .next _)

lemma room?_some {roomCode : String} {g : GameSession} (h : s.db.room? roomCode = some g) :
    g ∈ s.db.sessions.rows ∧ g.roomCode = Runtime.upper roomCode :=
  ⟨List.mem_of_find?_eq_some h, by simpa using List.find?_some h⟩

omit [Platform] in
lemma update_cases {f : String → Option (List UUID)} {roomCode other : String}
    {o : Option (List UUID)} {ids : List UUID} (h : Function.update f roomCode o other = some ids) :
    f other = some ids ∨ other = roomCode ∧
    o = some ids := by
  by_cases heq : other = roomCode
  · subst heq
    rw [Function.update_self] at h
    exact .inr ⟨rfl, h⟩
  · rw [Function.update_of_ne heq] at h
    exact .inl h

lemma inv_orders (h : Inv s) {roomCode : String} {o : Option (List UUID)}
    (ho : ∀ ids, o = some ids → ∃ g ∈ s.db.sessions.rows, g.roomCode = Runtime.upper roomCode ∧
      ∀ id ∈ ids, ∃ q ∈ s.db.questions.rows, q.quizId = g.quizId ∧ q.questionId = id) :
    Inv { s with orders := Function.update s.orders roomCode o } where
  __ := h
  ordered other ids hother id hid := by
    rcases update_cases hother with hold | ⟨rfl, rfl⟩
    · exact h.ordered other ids hold id hid
    · obtain ⟨g, -, -, hids⟩ := ho ids rfl
      obtain ⟨q, hq, -, rfl⟩ := hids id hid
      exact h.questions q hq
  orders other ids hother q hq hmem := by
    rcases update_cases hother with hold | ⟨rfl, rfl⟩
    · exact h.orders other ids hold q hq hmem
    · obtain ⟨g, hg, hcode, hids⟩ := ho ids rfl
      obtain ⟨r, hr, hquiz, hid⟩ := hids _ hmem
      obtain rfl := List.inj_on_of_nodup_map s.db.questions.unique hr hq hid
      exact ⟨g, hg, hcode, hquiz.symm⟩

lemma inv_connect (h : Inv s) {roomCode : String} {g : GameSession} {p : GamePlayer}
    (hroom : s.db.room? roomCode = some g) (hp : p ∈ s.db.players.rows)
    (hsession : p.sessionId = g.sessionId) :
    Inv { s with admitted := (roomCode, p.playerId) :: s.admitted } where
  __ := h
  joined other playerId hmem := by
    rcases List.mem_cons.mp hmem with heq | hmem
    · cases heq
      exact h.players p hp
    · exact h.joined other playerId hmem
  admitted other playerId hmem r hr hid := by
    rcases List.mem_cons.mp hmem with heq | hmem
    · cases heq
      obtain rfl := List.inj_on_of_nodup_map s.db.players.unique hr hp hid
      exact ⟨g, (room?_some hroom).1, (room?_some hroom).2, hsession.symm⟩
    · exact h.admitted other playerId hmem r hr hid

lemma inv_record (h : Inv s) {roomCode : String} {ids : List UUID} {a : GamePlayerAnswer}
    (hadmitted : (roomCode, a.playerId) ∈ s.admitted) (horder : s.orders roomCode = some ids)
    (hmem : a.questionId ∈ ids) (hrecord : Sql.insertRecord a s.db = .ok d) :
    Inv { s with db := d } := by
  unfold Sql.insertRecord at hrecord
  split_ifs at hrecord with hnew
  cases hrecord
  refine { h with sited := ?_ }
  intro b hb p hp hplayer g hg hsession q hq hquestion
  rcases List.mem_append.mp hb with hb | hb
  · exact h.sited b hb p hp hplayer g hg hsession q hq hquestion
  · obtain rfl := List.mem_singleton.mp hb
    obtain ⟨f, hf, hfcode, hfs⟩ := h.admitted roomCode _ hadmitted p hp hplayer
    obtain ⟨f', hf', hcode', hquiz⟩ := h.orders roomCode ids horder q hq (hquestion ▸ hmem)
    obtain rfl := List.inj_on_of_nodup_map s.db.intact.room_codes hf hf' (hfcode.trans hcode'.symm)
    obtain rfl := List.inj_on_of_nodup_map s.db.sessions.unique hf hg (hfs.trans hsession.symm)
    exact hquiz.symm

theorem inv_step {t : Site} (h : Inv s) (hstep : Step s t) : Inv t := by
  cases hstep with
  | request r => exact inv_evolves h (evolves_request h r)
  | register hid hu =>
    unfold Sql.insertUser at hu
    split_ifs at hu
    cases hu
    exact inv_evolves h (.of_eq (Nat.le_succ _) rfl rfl rfl rfl rfl rfl)
  | account hu =>
    obtain rfl := Except.ok.inj hu
    exact inv_evolves h (.of_eq le_rfl rfl rfl rfl rfl rfl rfl)
  | createRoom hquiz howner hstatus hg => exact inv_evolves h (evolves_insertSession hg)
  | joinRoom hroom hstatus hhost hp => exact inv_evolves h (evolves_insertPlayer rfl hp)
  | connect hroom hp hsession => exact inv_connect h hroom hp hsession
  | @startGame roomCode hostId g ids d hroom hhost hstatus hg hids =>
    obtain ⟨hmem, hcode⟩ := room?_some hroom
    have hevolves := inv_evolves h (evolves_updateSession hg)
    obtain rfl := Except.ok.inj hg
    refine inv_orders hevolves fun ids' hids' => ⟨_, List.mem_map_of_mem hmem, ?_, fun id hid => ?_⟩
    · rw [if_pos rfl]
      exact hcode
    · cases hids'
      obtain ⟨q, hq, rfl⟩ := List.mem_map.mp (hids.mem_iff.mp hid)
      obtain ⟨hq, hquiz⟩ := Rows.mem_questionsOf.mp hq
      refine ⟨q, hq, ?_, rfl⟩
      rw [if_pos rfl]
      exact hquiz
  | progress hg => exact inv_evolves h (evolves_updateSession hg)
  | @submitAnswer roomCode g ids a c d e hroom hstatus hadmitted horder hstarted hcurrent
      hscore hrecord =>
    have hscored := inv_evolves h (evolves_updatePlayer hscore)
    exact inv_record (s := { s with db := d }) hscored hadmitted horder
      (List.mem_of_getElem? hcurrent) hrecord
  | setPlayerConnected hp => exact inv_evolves h (evolves_updatePlayer hp)
  | expire roomCode => exact inv_orders h fun _ ho => (by cases ho)
  | idle hw => exact inv_evolves h (.of_eq hw rfl rfl rfl rfl rfl rfl)

theorem Reachable.inv (h : Reachable s) : Inv s := by
  induction h with
  | init now => exact inv_init now
  | step _ hstep ih => exact inv_step ih hstep

end Site

/-- The owner of a quiz can delete it, which removes exactly what belongs to it; a delete that
raises removes nothing. -/
theorem deleteQuiz_exact {s : Site} (h : s.Reachable) (quizId userId : UUID) :
    (∀ quiz, s.db.quizzes.get? quizId = some quiz → quiz.creatorId = userId →
      ∃ e : Database, serve (deleteQuiz quizId userId) s.db s.world = (.ok (), e, s.world) ∧
        Deleted quizId s.db.toRows e.toRows) ∧
    ∀ err e w, serve (deleteQuiz quizId userId) s.db s.world = (.error err, e, w) → e = s.db := by
  refine ⟨fun quiz hquiz howner => serve_deleteQuiz_of_owner hquiz howner h.inv.sited,
    fun err e w herr => ?_⟩
  rcases serve_deleteQuiz quizId userId s.db s.world with ⟨err', w', -, hrun⟩ | ⟨quiz,
    hquiz, howner⟩
  · rw [hrun] at herr
    cases herr
    rfl
  · obtain ⟨e', hrun, -⟩ := serve_deleteQuiz_of_owner (w := s.world) hquiz howner h.inv.sited
    rw [hrun] at herr
    cases herr

end Runs

section

attribute [local instance] Platform.ascii

open Sample

theorem deleteQuiz_exact_played :
    (∃ e : Database, serve (deleteQuiz (Runtime.uuid4 10) grace.id) played.db played.world =
      (.ok (), e, played.world) ∧
      Deleted (Runtime.uuid4 10) played.db.toRows e.toRows) ∧
    ∃ err w, serve (deleteQuiz (Runtime.uuid4 10) member.id) played.db played.world =
      (.error err, played.db, w) := by
  constructor
  · exact (deleteQuiz_exact played_reachable (Runtime.uuid4 10) grace.id).1
      ⟨Runtime.uuid4 10, grace.id, "Rivers", some "of the world", 60000, .public_,
        .published, some 9, 7, 7⟩
      (by decide +kernel) rfl
  · have hraises : (serve (deleteQuiz (Runtime.uuid4 10) member.id) played.db played.world).1.isOk =
        false := by
      decide +kernel
    have hsame := (deleteQuiz_exact played_reachable (Runtime.uuid4 10) member.id).2
    generalize serve (deleteQuiz (Runtime.uuid4 10) member.id) played.db played.world =
      r at hraises hsame ⊢
    obtain ⟨err | _, e, w⟩ := r
    · exact ⟨err, w, by rw [hsame err e w rfl]⟩
    · cases hraises

end

end Askit.Relational
