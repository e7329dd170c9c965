import Askit.Relational.Alterations

/-! What belongs to whom: the favorites and the rooms of a user are of quizzes of their own, and
what a user's requests return and change is theirs. -/

namespace Askit.Relational

open Interleaving Coro Tables
open Game (UUID Time Runtime GameSession GamePlayer GamePlayerAnswer)
open Quizzes (Platform QuizStatus QuizQuestionCreate QuizCreate QuizUpdate QuizOut NewQuestion Exn)
open Site

namespace Site

variable [Platform] {s t : Site}

/-- What is no request of `QuizService` leaves the favorites alone, and makes rooms only for the
users' own quizzes. -/
lemma Step.request_or_rest (h : Step s t) : (∃ r : Request, t = s.after r) ∨
    t.db.favorites = s.db.favorites ∧
    ∀ g ∈ t.db.sessions.rows, (∃ f ∈ s.db.sessions.rows, f.quizId = g.quizId ∧
      f.hostId = g.hostId) ∨
      ∃ quiz, s.db.quizzes.get? g.quizId = some quiz ∧ quiz.creatorId = g.hostId := by
  have hmodified (sessionId : UUID) (c : SessionSet) :
    ∀ g ∈ (s.db.sessions.modify sessionId c.apply c.sessionId_apply).rows,
      ∃ f ∈ s.db.sessions.rows, f.quizId = g.quizId ∧ f.hostId = g.hostId := by
    intro g hg
    obtain ⟨f, hf, rfl⟩ := List.mem_map.mp hg
    refine ⟨f, hf, ?_⟩
    split <;> exact ⟨rfl, rfl⟩
  cases h with
  | request r => exact .inl ⟨r, rfl⟩
  | register hid hu =>
    unfold Sql.insertUser at hu
    split_ifs at hu
    cases hu
    exact .inr ⟨rfl, fun g hg => .inl ⟨g, hg, rfl, rfl⟩⟩
  | account hu =>
    obtain rfl := Except.ok.inj hu
    exact .inr ⟨rfl, fun g hg => .inl ⟨g, hg, rfl, rfl⟩⟩
  | createRoom hquiz howner hstatus hg =>
    unfold Sql.insertSession at hg
    split_ifs at hg
    cases hg
    refine .inr ⟨rfl, fun g hg => ?_⟩
    rcases List.mem_append.mp hg with hg | hg
    · exact .inl ⟨g, hg, rfl, rfl⟩
    · obtain rfl := List.mem_singleton.mp hg
      exact .inr ⟨_, hquiz, howner⟩
  | joinRoom hroom hstatus hhost hp =>
    unfold Sql.insertPlayer at hp
    split_ifs at hp
    cases hp
    exact .inr ⟨rfl, fun g hg => .inl ⟨g, hg, rfl, rfl⟩⟩
  | connect hroom hp hsession => exact .inr ⟨rfl, fun g hg => .inl ⟨g, hg, rfl, rfl⟩⟩
  | startGame hroom hhost hstatus hg hids =>
    obtain rfl := Except.ok.inj hg
    exact .inr ⟨rfl, fun g hg => .inl (hmodified _ _ g hg)⟩
  | progress hg =>
    obtain rfl := Except.ok.inj hg
    exact .inr ⟨rfl, fun g hg => .inl (hmodified _ _ g hg)⟩
  | submitAnswer hroom hstatus hadmitted horder hstarted hcurrent hscore hrecord =>
    obtain rfl := Except.ok.inj hscore
    unfold Sql.insertRecord at hrecord
    split_ifs at hrecord
    cases hrecord
    exact .inr ⟨rfl, fun g hg => .inl ⟨g, hg, rfl, rfl⟩⟩
  | setPlayerConnected hp =>
    obtain rfl := Except.ok.inj hp
    exact .inr ⟨rfl, fun g hg => .inl ⟨g, hg, rfl, rfl⟩⟩
  | expire roomCode => exact .inr ⟨rfl, fun g hg => .inl ⟨g, hg, rfl, rfl⟩⟩
  | idle hw => exact .inr ⟨rfl, fun g hg => .inl ⟨g, hg, rfl, rfl⟩⟩

lemma Step.owned (hs : s.Reachable) (h : Step s t) (howned : Owned s.db.toRows) :
    Owned t.db.toRows := by
  rcases h.request_or_rest with ⟨r, rfl⟩ | ⟨hfavorites, hsessions⟩
  · exact (confined_request hs.inv.sited howned r).2
  rcases h.request_or_keeps with ⟨r, rfl⟩ | hkept
  · exact (confined_request hs.inv.sited howned r).2
  refine ⟨fun f hf => ?_, fun g hg => ?_⟩
  · rw [hkept.quizzes]
    exact howned.favorites f (hfavorites ▸ hf)
  · rw [hkept.quizzes]
    rcases hsessions g hg with ⟨f, hf, hquiz, hhost⟩ | hnew
    · exact hquiz ▸ hhost ▸ howned.sessions f hf
    · exact hnew

lemma Reachable.owned (h : s.Reachable) : Owned s.db.toRows := by
  induction h with
  | init now => exact ⟨List.forall_mem_nil _, List.forall_mem_nil _⟩
  | step hs hstep ih => exact hstep.owned hs ih

structure SameFor (userId : UUID) (d e : Rows) : Prop where
  quizzes : ∀ quiz ∈ d.quizzes.rows, quiz.creatorId = userId → SameQuiz quiz.quizId d e
  created : ∀ quiz ∈ e.quizzes.rows, quiz.creatorId = userId → quiz ∈ d.quizzes.rows
  favorites : ∀ f : QuizFavorite, f.userId = userId → (f ∈ e.favorites.rows ↔ f ∈ d.favorites.rows)

omit [Platform] in
lemma SameFor.trans {userId : UUID} {d e f : Rows} (h : SameFor userId d e)
    (h' : SameFor userId e f) :
    SameFor userId d f where
  quizzes quiz hquiz hcreator := by
    have hsame := h.quizzes quiz hquiz hcreator
    have hget := hsame.fields.trans (Table.get?_of_mem hquiz)
    exact hsame.trans (h'.quizzes quiz (Table.mem_get? hget) hcreator)
  created quiz hquiz hcreator := h.created quiz (h'.created quiz hquiz hcreator) hcreator
  favorites fav hfav := (h'.favorites fav hfav).trans (h.favorites fav hfav)

lemma Step.sameFor {userId : UUID} (hs : s.Reachable) (h : Step s t)
    (hother : ∀ r : Request, r.user = userId → t ≠ s.after r) :
    SameFor userId s.db.toRows t.db.toRows := by
  have hrequest (r : Request) (ht : t = s.after r) : SameFor userId s.db.toRows t.db.toRows := by
    have huser : userId ≠ r.user := fun heq => hother r heq.symm ht
    have hspares := (confined_request (w := s.world) hs.inv.sited hs.owned r).1
    subst ht
    exact ⟨fun quiz hquiz hcreator => hspares.quizzes quiz hquiz (hcreator ▸ huser),
      fun quiz hquiz hcreator => hspares.created quiz hquiz (hcreator ▸ huser),
      fun f hf => hspares.favorites f (hf ▸ huser)⟩
  rcases h.request_or_rest with ⟨r, ht⟩ | ⟨hfavorites, -⟩
  · exact hrequest r ht
  rcases h.request_or_keeps with ⟨r, ht⟩ | hkept
  · exact hrequest r ht
  · exact ⟨fun quiz _ _ => hkept.same quiz.quizId, fun quiz hquiz _ => hkept.quizzes ▸ hquiz,
      fun f _ => by rw [hfavorites]⟩

end Site

open Site

/-- Whenever something about the quizzes or the favorites of a user has changed, a request of the
user has changed it. -/
theorem changed_by_own_request [Platform] {s : Site} {l : List Site} {userId : UUID}
    (hs : s.Reachable) (hrun : (s :: l).IsChain Step)
    (hchanged : ¬SameFor userId s.db.toRows (l.getLastD s).db.toRows) :
    ∃ a b, [a, b] <:+: s :: l ∧ ¬SameFor userId a.db.toRows b.db.toRows ∧
      ∃ r : Request, r.user = userId ∧ b = a.after r := by
  induction l generalizing s with
  | nil =>
    exact absurd ⟨fun _ _ _ => ⟨rfl, rfl, fun _ _ => rfl, rfl⟩, fun _ h _ => h, fun _ _ => .rfl⟩
      hchanged
  | cons t l ih =>
    obtain ⟨hstep, hrest⟩ := List.isChain_cons_cons.mp hrun
    rw [List.getLastD_cons] at hchanged
    by_cases hsame : SameFor userId s.db.toRows t.db.toRows
    · obtain ⟨a, b, hab, h⟩ := ih (.step hs hstep) hrest fun h => hchanged (hsame.trans h)
      exact ⟨a, b, hab.trans (List.suffix_cons s (t :: l)).isInfix, h⟩
    · refine ⟨s, t, ⟨[], l, rfl⟩, hsame, ?_⟩
      by_contra hnone
      exact hsame (hstep.sameFor hs fun r huser ht => hnone ⟨r, huser, ht⟩)

/-- However many requests a user makes, what the other users own stays, with their rooms and the
records in them. -/
theorem requests_spare_others [Platform] {s : Site} {userId : UUID} (hs : s.Reachable)
    (rs : List Request) (huser : ∀ r ∈ rs, r.user = userId) :
    Spares userId s.db.toRows (rs.foldl after s).db.toRows := by
  induction rs generalizing s with
  | nil => exact .refl _ _
  | cons r rs ih =>
    obtain ⟨hr, hrest⟩ := List.forall_mem_cons.mp huser
    have hspares := (confined_request (w := s.world) hs.inv.sited hs.owned r).1
    rw [hr] at hspares
    exact hspares.trans (ih (.step hs (.request s r)) hrest)

section Lists

variable [Platform] {s : Site} {userId : UUID}

omit [Platform] in
lemma mem_favoritedIds {d : Rows} {quizId : UUID} :
    quizId ∈ (d.favorites.rows.filter fun f => f.userId = userId).map QuizFavorite.quizId ↔
      ⟨userId, quizId⟩ ∈ d.favorites.rows := by
  simp only [List.mem_map, List.mem_filter, decide_eq_true_eq]
  constructor
  · rintro ⟨f, ⟨hf, rfl⟩, rfl⟩
    exact hf
  · exact fun h => ⟨_, ⟨h, rfl⟩, rfl⟩

lemma favorite_rows (h : s.Reachable) :
    ((s.db.favorites.rows.filter fun f => f.userId = userId).filterMap fun f =>
    s.db.quizzes.get? f.quizId).Perm
      ((s.db.quizzes.rows.filter fun q => q.creatorId = userId).filter fun q =>
      q.quizId ∈ (s.db.favorites.rows.filter fun f => f.userId = userId).map
        QuizFavorite.quizId) := by
  have hids : ((s.db.favorites.rows.filter fun f => f.userId = userId).map
      QuizFavorite.quizId).Nodup := by
    refine List.Nodup.map_on ?_ ((List.map_id s.db.favorites.rows ▸ s.db.favorites.unique).filter _)
    rintro ⟨a, quizId⟩ ha ⟨b, _⟩ hb rfl
    rw [List.mem_filter, decide_eq_true_eq] at ha hb
    obtain rfl : a = b := ha.2.trans hb.2.symm
    rfl
  have hmap : ((s.db.favorites.rows.filter fun f => f.userId = userId).filterMap fun f =>
    s.db.quizzes.get? f.quizId) =
      ((s.db.favorites.rows.filter fun f => f.userId = userId).map QuizFavorite.quizId).filterMap
        s.db.quizzes.get? := by
    rw [List.filterMap_map]
    rfl
  rw [hmap, List.perm_ext_iff_of_nodup]
  · intro q
    simp only [List.mem_filterMap, mem_favoritedIds, List.mem_filter, decide_eq_true_eq]
    constructor
    · rintro ⟨quizId, hfav, hq⟩
      obtain ⟨quiz, hquiz, hcreator⟩ := h.owned.favorites _ hfav
      rw [hq] at hquiz
      obtain rfl := Option.some.inj hquiz
      exact ⟨⟨Table.mem_get? hq, hcreator⟩, (Table.key_get? hq).symm ▸ hfav⟩
    · rintro ⟨⟨hq, -⟩, hfav⟩
      exact ⟨q.quizId, hfav, Table.get?_of_mem hq⟩
  · exact hids.filterMap fun a b q ha hb => (Table.key_get? ha).symm.trans (Table.key_get? hb)
  · exact ((List.Nodup.of_map _ s.db.quizzes.unique).filter _).filter _

end Lists

/-- The two lists show a user quizzes of their own: that of the favorites, those of the other that
are marked. -/
theorem lists_own [Platform] {s : Site} (h : s.Reachable) (userId : UUID) :
    ∃ outs favorites, serve (listQuizzes userId) s.db s.world = (.ok outs, s.db, s.world) ∧
      serve (listFavorites userId) s.db s.world = (.ok favorites, s.db, s.world) ∧
      (∀ out ∈ outs, out.creatorId = userId) ∧
      favorites.Perm (outs.filter fun out => out.isFavorited) := by
  refine ⟨_, _, Alike.serve_listQuizzes h.inv.filled s.world userId, Alike.serve_listFavorites
    h.inv.filled s.world userId,
    fun out hout => ?_, ?_⟩
  · obtain ⟨quiz, hquiz, rfl⟩ := List.mem_map.mp hout
    obtain ⟨q, hq, rfl⟩ := List.mem_map.mp hquiz
    have hmem := (Platform.arrange_perm _).mem_iff.mp hq
    exact of_decide_eq_true (List.mem_filter.mp hmem).2
  · rw [List.map_map, List.map_map, List.filter_map]
    refine ((Platform.arrange_perm _).trans (favorite_rows h)).map _ |>.trans ?_
    refine .trans (.of_eq (List.map_congr_left fun q hq => ?_))
      (((Platform.arrange_perm _).symm.filter _).map _)
    have hfav := (List.mem_filter.mp hq).2
    exact (congrArg (quizOut (s.db.load q) (q.maxParticipants.getD 0)) hfav).symm

section

attribute [local instance] Platform.ascii

open Sample

namespace Sample

def visits : List Request :=
  [.toggleFavorite (Runtime.uuid4 6) member.id, .toggleFavorite (Runtime.uuid4 10) member.id,
    .updateQuiz (Runtime.uuid4 10) member.id ⟨some "Mine", none, none, none, none⟩,
    .setQuizStatus (Runtime.uuid4 2) .published member.id, .deleteQuiz (Runtime.uuid4 10) member.id,
    .deleteQuiz (Runtime.uuid4 6) member.id]

/-- Both users author quizzes, one of them hosts a game. -/
def history : List Site :=
  [both.after (.createQuiz grace.id rivers), (both.after (.createQuiz grace.id rivers)).after
    (.createQuiz member.id oceans)]

end Sample

theorem changed_by_own_request_both :
    ∃ a b, [a, b] <:+: both :: history ∧ ¬SameFor member.id a.db.toRows b.db.toRows ∧
      ∃ r : Request, r.user = member.id ∧ b = a.after r := by
  refine changed_by_own_request (s := both) (l := history) both_reachable
    (.cons_cons (.request both (.createQuiz grace.id rivers))
      (.cons_cons (.request _ (.createQuiz member.id oceans))
      (.singleton _))) fun hsame => ?_
  have hcreated := hsame.created
    ⟨Runtime.uuid4 6, member.id, "Oceans", none, 30000, .private_, .draft, some 5, 7, 7⟩
      (by decide +kernel) rfl
  exact absurd hcreated (by decide +kernel)

/-- The other user has a quiz that is a favorite, and hosts a game of it in which an answer is
recorded; some of the requests succeed, and some are refused. -/
theorem requests_spare_others_played :
    Spares member.id played.db.toRows (visits.foldl after played).db.toRows ∧
      (∃ quiz ∈ played.db.quizzes.rows, quiz.creatorId = grace.id) ∧
      ⟨grace.id, Runtime.uuid4 10⟩ ∈ played.db.favorites.rows ∧
      record ∈ played.db.records.rows ∧
      (visits.foldl after played).db.quizzes.keys = [Runtime.uuid4 2, Runtime.uuid4 10] :=
  ⟨requests_spare_others played_reachable visits (by decide), by decide +kernel, by
    decide +kernel, by decide +kernel,
    by decide +kernel⟩

/-- One quiz of the user is a favorite, the other one is not, and a third one is another user's. -/
theorem lists_own_played : (∃ outs favorites,
    serve (listQuizzes member.id) played.db played.world = (.ok outs, played.db, played.world) ∧
      serve (listFavorites member.id) played.db played.world =
        (.ok favorites, played.db, played.world) ∧
      (∀ out ∈ outs, out.creatorId = member.id) ∧
      favorites.Perm (outs.filter fun out => out.isFavorited)) ∧
    played.db.quizzes.rows.map (fun q => (q.quizId, q.creatorId)) =
      [(Runtime.uuid4 2, member.id), (Runtime.uuid4 6, member.id), (Runtime.uuid4 10, grace.id)] ∧
    played.db.favorites.rows = [⟨member.id, Runtime.uuid4 2⟩, ⟨grace.id, Runtime.uuid4 10⟩] :=
  ⟨lists_own played_reachable member.id, by decide +kernel, by decide +kernel⟩

end

end Askit.Relational
