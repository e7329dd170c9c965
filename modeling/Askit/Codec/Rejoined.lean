import Askit.Codec.Cookies
import Mathlib.Algebra.Order.BigOperators.Group.List
import Mathlib.Algebra.Order.Ring.Nat

/-! When the join of the pairs of a parsed header, written in another encoding than it is read in,
gives the same pairs again. -/

namespace Askit.Codec.Cookies

variable {s t k v x : Text} {c : List (Text × Text)} {p q : Text × Text}

/-! The entries of a text. -/

lemma entries_append (s t : Text) : entries (s ++ semicolon :: t) = entries s ++ entries t := by
  rw [entries, List.splitOn_append_cons_self, List.filterMap_append]
  rfl

lemma strip_split_space (chunk : Text) : strip (split (' ' :: chunk)).1 = strip (split chunk).1 ∧
    strip (split (' ' :: chunk)).2 = strip (split chunk).2 := by
  have hspace : isSpace ' ' = true := by decide
  have hne : equals ≠ ' ' := by decide
  unfold split
  by_cases h : equals ∈ chunk
  · rw [if_pos h, if_pos (List.mem_cons_of_mem _ h), List.takeWhile_cons_of_pos (by decide),
      List.dropWhile_cons_of_pos (by decide)]
    exact ⟨strip_cons hspace _, rfl⟩
  · rw [if_neg h, if_neg (by simp [h, hne])]
    exact ⟨rfl, strip_cons hspace _⟩

lemma entry_space (chunk : Text) : entry (' ' :: chunk) = entry chunk := by
  obtain ⟨hkey, hval⟩ := strip_split_space chunk
  rw [entry, entry, hkey, hval]

lemma entries_space (s : Text) : entries (' ' :: s) = entries s := by
  rw [entries, List.splitOn_cons_eq_if_modifyHead, if_neg (by decide), entries]
  cases h : s.splitOn semicolon with
  | nil => rfl
  | cons chunk rest => rw [List.modifyHead_cons, List.filterMap_cons,
      List.filterMap_cons, entry_space]

lemma join_cons_cons (p q : Text × Text) (c : List (Text × Text)) :
    join (p :: q :: c) = pair p ++ semicolon :: ' ' :: join (q :: c) := by
  simp [join, List.intercalate_cons_cons]

lemma entries_join (c : List (Text × Text)) :
    entries (join c) = c.flatMap fun p => entries (pair p) := by
  induction c with
  | nil => rfl
  | cons p c ih =>
    cases c with
    | nil => simp [join]
    | cons q c =>
      rw [join_cons_cons, entries_append, entries_space, ih]
      rfl

lemma reread_pair (p : Text × Text) : reread (pair p) = pair (reread p.1, reread p.2) := by
  rw [pair, reread_append, reread_cons, reread_ascii (by decide)]
  rfl

lemma reread_join (c : List (Text × Text)) :
    reread (join c) = join (c.map fun p => (reread p.1, reread p.2)) := by
  induction c with
  | nil => rfl
  | cons p c ih =>
    cases c with
    | nil => simp [join, reread_pair]
    | cons q c =>
      rw [join_cons_cons, reread_append, reread_cons, reread_cons ' ', reread_ascii (by decide),
        reread_ascii (by decide), ih, reread_pair]
      simp only [List.map_cons, join_cons_cons]
      rfl

/-! The entries of one pair. -/

lemma split_pair (hk : equals ∉ k) (v : Text) : split (k ++ equals :: v) = (k, v) := by
  have htake : ∀ d ∈ k, decide (d ≠ equals) = true := fun d hd =>
    decide_eq_true (fun h => hk (h ▸ hd))
  rw [split, if_pos (by simp), List.takeWhile_append_of_pos htake,
    List.dropWhile_append_of_pos htake,
    List.takeWhile_cons_of_neg (by simp), List.dropWhile_cons_of_neg (by simp), List.append_nil,
    List.tail_cons]

lemma entries_pair (hk : semicolon ∉ k) (he : equals ∉ k) (hv : semicolon ∉ v) :
    entries (pair (k, v)) =
    if strip k = [] ∧ strip v = [] then [] else [(strip k, unquote (strip v))] := by
  have hchunk : semicolon ∉ k ++ equals :: v := by
    simp only [List.mem_append, List.mem_cons, not_or]
    exact ⟨hk, by decide, hv⟩
  rw [entries, pair, List.splitOn_eq_singleton hchunk, List.filterMap_cons,
    List.filterMap_nil, entry, split_pair he]
  dsimp only
  split_ifs <;> rfl

lemma split_within (chunk : Text) : (split chunk).2 <:+: chunk := by
  unfold split
  split
  · exact (List.tail_suffix _).isInfix.trans (List.dropWhile_suffix _).isInfix
  · exact List.infix_refl chunk

lemma splitOn_within (s : Text) : ∃ front rest, s.splitOn semicolon = front :: rest ∧ front <+: s ∧
    semicolon ∉ front ∧ ∀ chunk ∈ rest, chunk <:+: s ∧ semicolon ∉ chunk := by
  induction s with
  | nil => exact ⟨[], [], rfl, List.prefix_refl [], List.not_mem_nil, List.forall_mem_nil _⟩
  | cons d s ih =>
    obtain ⟨front, rest, hsplit, hfront, hfree, hrest⟩ := ih
    have hwithin : s <:+: d :: s := (List.suffix_cons d s).isInfix
    rw [List.splitOn_cons_eq_if_modifyHead, hsplit]
    by_cases hd : d = semicolon
    · rw [if_pos (by simp [hd])]
      refine ⟨[], front :: rest, rfl, List.nil_prefix, List.not_mem_nil, ?_⟩
      rintro chunk hchunk
      rcases List.mem_cons.mp hchunk with rfl | hchunk
      · exact ⟨hfront.isInfix.trans hwithin, hfree⟩
      · exact ⟨(hrest chunk hchunk).1.trans hwithin, (hrest chunk hchunk).2⟩
    · rw [if_neg (by simp [hd])]
      refine ⟨d :: front, rest, rfl, (List.prefix_cons_inj d).mpr hfront, by
        simp [hfree, Ne.symm hd], ?_⟩
      exact fun chunk hchunk => ⟨(hrest chunk hchunk).1.trans hwithin, (hrest chunk hchunk).2⟩

lemma mem_splitOn {chunk : Text} (h : chunk ∈ s.splitOn semicolon) :
    chunk <:+: s ∧ semicolon ∉ chunk := by
  obtain ⟨front, rest, hsplit, hfront, hfree, hrest⟩ := splitOn_within s
  rw [hsplit] at h
  rcases List.mem_cons.mp h with rfl | h
  · exact ⟨hfront.isInfix, hfree⟩
  · exact hrest chunk h

lemma mem_entries_pair (hk : semicolon ∉ k) (he : equals ∉ k) (hq : q ∈ entries (pair (k, v))) :
    ∃ x, q.2 = unquote (strip x) ∧ x <:+: v ∧ semicolon ∉ x ∧ (semicolon ∉ v → x = v) := by
  have hfirst : ∀ {v : Text}, semicolon ∉ v → q ∈ entries (pair (k, v)) →
      q.2 = unquote (strip v) := by
    intro v hv hq
    rw [entries_pair hk he hv] at hq
    split_ifs at hq
    · cases hq
    · rw [List.mem_singleton.mp hq]
  by_cases hv : semicolon ∈ v
  · obtain ⟨front, rest, rfl, hfront⟩ := List.eq_append_cons_of_mem hv
    have hsplit : pair (k, front ++ semicolon :: rest) = pair (k, front) ++ semicolon :: rest := by
      simp [pair]
    rw [hsplit, entries_append] at hq
    rcases List.mem_append.mp hq with hq | hq
    · exact ⟨front, hfirst hfront hq, (List.prefix_append _ _).isInfix, hfront,
        fun h => absurd hv h⟩
    · obtain ⟨chunk, hchunk, hentry⟩ := List.mem_filterMap.mp hq
      obtain ⟨hwithin, hfree⟩ := mem_splitOn hchunk
      have hpiece := split_within chunk
      have hrest : rest <:+: front ++ semicolon :: rest := ⟨front ++ [semicolon], [], by simp⟩
      refine ⟨(split chunk).2, ?_, (hpiece.trans hwithin).trans hrest, fun h =>
        hfree (hpiece.subset h),
        fun h => absurd hv h⟩
      simp only [entry] at hentry
      split_ifs at hentry
      cases hentry
      rfl
  · exact ⟨v, hfirst hv hq, List.infix_refl v, hv, fun _ => rfl⟩

/-! Pairs that a parser has returned. -/

structure Parsed (c : List (Text × Text)) : Prop where
  nodup : (c.map Prod.fst).Nodup
  latin_key : ∀ p ∈ c, Latin p.1
  latin_value : ∀ p ∈ c, Latin p.2
  stripped : ∀ p ∈ c, strip p.1 = p.1
  semicolon : ∀ p ∈ c, semicolon ∉ p.1
  equals : ∀ p ∈ c, equals ∉ p.1

/-- A pair whose text is read as the pair. -/
structure Plain (p : Text × Text) : Prop where
  ascii_key : breadth p.1 = 0
  ascii_value : breadth p.2 = 0
  semicolon : semicolon ∉ p.2
  stripped : strip p.2 = p.2
  unquoted : ¬Quoted p.2
  nonempty : ¬(p.1 = [] ∧ p.2 = [])

def Altered (v : Text) : Prop := semicolon ∈ v ∨ strip v ≠ v ∨ Quoted v

lemma not_of_ascent {α : Type} {l : List α} {P : α → Prop} (f : α → ℕ)
    (h : ∀ a ∈ l, P a → ∃ b ∈ l, P b ∧ f a < f b) : ∀ a ∈ l, ¬P a := by
  have hbound : ∀ a ∈ l, f a ≤ (l.map f).sum := fun a ha =>
    List.single_le_sum (fun _ _ => Nat.zero_le _) _ (List.mem_map_of_mem ha)
  suffices hgap : ∀ n, ∀ a ∈ l, (l.map f).sum - f a = n → ¬P a from fun a ha => hgap _ a ha rfl
  intro n
  induction n using Nat.strong_induction_on with
  | _ n ih =>
    rintro a ha rfl hP
    obtain ⟨b, hb, hPb, hlt⟩ := h a ha hP
    have hle := hbound b hb
    exact ih _ (by omega) b hb rfl hPb

lemma weight_unquote (h : Quoted s) : weight (unquote s) < weight s := by
  obtain ⟨hlength, hhead, hlast⟩ := h
  have hquote : weight [quote] = 1 := by decide
  rcases s with _ | ⟨a, t⟩
  · cases hhead
  · obtain rfl : a = quote := Option.some.inj hhead
    rcases List.eq_nil_or_concat' t with rfl | ⟨u, d, rfl⟩
    · exact absurd hlength (by decide)
    · have hu := weight_unescape u
      have hinner : unquote (quote :: (u ++ [d])) = unescape u := by
        rw [unquote, if_pos ⟨hlength, hhead, hlast⟩, List.tail_cons, List.dropLast_concat]
      have happend : weight (u ++ [d]) = weight u + weight [d] := List.countP_append
      rw [hinner, weight_cons, hquote, happend]
      omega

lemma quoted_of_altered (hx : semicolon ∉ x) (h : Altered (unquote (strip x))) :
    Quoted (strip x) := by
  by_contra hq
  rw [unquote, if_neg hq] at h
  rcases h with h | h | h
  · exact hx ((strip_within x).subset h)
  · exact h (strip_idem x)
  · exact hq h

section Same

variable (hc : Parsed c)
  (hsame : ∀ k, (cookieParser (reread (join c))).lookup k = c.lookup k)

include hc hsame

lemma mem_rejoined (hp : p ∈ c) : ∃ q ∈ c, p ∈ entries (pair (reread q.1, reread q.2)) := by
  have hparsed : p ∈ cookieParser (reread (join c)) := by
    have hnodup : ((cookieParser (reread (join c))).map Prod.fst).Nodup :=
      Dicts.nodup_foldl (d := []) List.nodup_nil _
    rw [← Dicts.lookup_eq_some (k := p.1) (v := p.2) hnodup, hsame, Dicts.lookup_eq_some hc.nodup]
    exact hp
  have hentry := (Dicts.mem_of_mem_foldl hparsed).resolve_right List.not_mem_nil
  rw [reread_join, entries_join, List.mem_flatMap] at hentry
  obtain ⟨r, hr, hentry⟩ := hentry
  obtain ⟨q, hq, rfl⟩ := List.mem_map.mp hr
  exact ⟨q, hq, hentry⟩

lemma not_altered : ∀ p ∈ c, ¬Altered p.2 := by
  refine not_of_ascent (P := fun p : Text × Text => Altered p.2) (fun p => weight p.2) ?_
  intro p hp haltered
  obtain ⟨q, hq, hentry⟩ := mem_rejoined hc hsame hp
  have hkey : semicolon ∉ reread q.1 :=
    fun h => hc.semicolon q hq ((mem_reread (hc.latin_key q hq) (by decide)).mp h)
  have hequals : equals ∉ reread q.1 :=
    fun h => hc.equals q hq ((mem_reread (hc.latin_key q hq) (by decide)).mp h)
  obtain ⟨x, hvalue, hwithin, hfree, hwhole⟩ := mem_entries_pair hkey hequals hentry
  rw [hvalue] at haltered
  have hquoted := quoted_of_altered hfree haltered
  refine ⟨q, hq, ?_, ?_⟩
  · by_contra hplain
    obtain ⟨hsemicolon, hstripped, hunquoted⟩ : semicolon ∉ q.2 ∧ strip q.2 = q.2 ∧
        ¬Quoted q.2 := by
      simpa only [Altered, not_or, not_not] using hplain
    have hx := hwhole fun h => hsemicolon ((mem_reread (hc.latin_value q hq) (by decide)).mp h)
    subst hx
    exact not_quoted_reread (hc.latin_value q hq) hstripped hunquoted hquoted
  · have hweight : weight (strip x) ≤ weight (reread q.2) :=
      ((strip_within x).trans hwithin).sublist.countP_le
    rw [weight_reread (hc.latin_value q hq)] at hweight
    rw [hvalue]
    exact lt_of_lt_of_le (weight_unquote hquoted) hweight

lemma eq_of_rejoined (hp : p ∈ c) : ∃ q ∈ c, p = (strip (reread q.1), strip (reread q.2)) ∧
    ¬(p.1 = [] ∧ p.2 = []) := by
  obtain ⟨q, hq, hentry⟩ := mem_rejoined hc hsame hp
  have hplain : semicolon ∉ q.2 ∧ strip q.2 = q.2 ∧ ¬Quoted q.2 := by
    simpa only [Altered, not_or, not_not] using not_altered hc hsame q hq
  have hmem : ∀ {d : Char}, wide d = false → (∀ s, Latin s → d ∉ s → d ∉ reread s) :=
    fun hd s hs h h' =>
    h ((mem_reread hs hd).mp h')
  rw [entries_pair (hmem (by decide) _ (hc.latin_key q hq) (hc.semicolon q hq))
    (hmem (by decide) _ (hc.latin_key q hq) (hc.equals q hq))
    (hmem (by decide) _ (hc.latin_value q hq) hplain.1)] at hentry
  split_ifs at hentry with hempty
  · cases hentry
  · have hunquoted := not_quoted_reread (hc.latin_value q hq) hplain.2.1 hplain.2.2
    rw [List.mem_singleton, unquote, if_neg hunquoted] at hentry
    refine ⟨q, hq, hentry, ?_⟩
    rw [hentry]
    exact hempty

lemma key_rejoined (hp : p ∈ c) (hkey : 0 < breadth (strip (reread p.1))) :
    strip (reread p.1) ∈ c.map Prod.fst := by
  have hplain : semicolon ∉ p.2 ∧ strip p.2 = p.2 ∧ ¬Quoted p.2 := by
    simpa only [Altered, not_or, not_not] using not_altered hc hsame p hp
  have hmem : ∀ {d : Char}, wide d = false → (∀ s, Latin s → d ∉ s → d ∉ reread s) :=
    fun hd s hs h h' =>
    h ((mem_reread hs hd).mp h')
  have hentry := entries_pair (hmem (by decide) _ (hc.latin_key p hp) (hc.semicolon p hp))
    (hmem (by decide) _ (hc.latin_key p hp) (hc.equals p hp))
    (hmem (by decide) _ (hc.latin_value p hp) hplain.1)
  rw [if_neg (by rintro ⟨h, -⟩; rw [h] at hkey; exact absurd hkey (by decide))] at hentry
  have hread : strip (reread p.1) ∈ (cookieParser (reread (join c))).map Prod.fst := by
    rw [cookieParser, Dicts.key_mem_foldl, reread_join, entries_join]
    have hread : (strip (reread p.1), unquote (strip (reread p.2))) ∈ entries
        (pair (reread p.1, reread p.2)) := by
      rw [hentry]
      exact List.mem_singleton_self _
    exact .inl (List.mem_map.mpr ⟨_, List.mem_flatMap.mpr ⟨_, List.mem_map_of_mem hp, hread⟩, rfl⟩)
  by_contra hnone
  rw [← Dicts.lookup_eq_none, ← hsame, Dicts.lookup_eq_none] at hnone
  exact hnone hread

lemma ascii_keys : ∀ p ∈ c, breadth p.1 = 0 := by
  have hnone := not_of_ascent (l := c.map Prod.fst) (P := fun k => 0 < breadth k) breadth ?_
  · intro p hp
    have := hnone p.1 (List.mem_map_of_mem hp)
    omega
  · intro k hk hpos
    obtain ⟨p, hp, rfl⟩ := List.mem_map.mp hk
    rcases breadth_grows (hc.latin_key p hp) (hc.stripped p hp) hpos with hlt | ⟨honce, htwice⟩
    · exact ⟨_, key_rejoined hc hsame hp (by omega), by omega, hlt⟩
    · obtain ⟨q, hq, hqp⟩ := List.mem_map.mp (key_rejoined hc hsame hp honce)
      have hgrown := key_rejoined hc hsame hq (by rw [hqp]; omega)
      rw [hqp] at hgrown
      exact ⟨_, hgrown, by omega, htwice⟩

lemma plain_of_same : ∀ p ∈ c, Plain p := by
  intro p hp
  obtain ⟨hsemicolon, hstripped, hunquoted⟩ : semicolon ∉ p.2 ∧ strip p.2 = p.2 ∧ ¬Quoted p.2 := by
    simpa only [Altered, not_or, not_not] using not_altered hc hsame p hp
  obtain ⟨q, hq, heq, hne⟩ := eq_of_rejoined hc hsame hp
  have hkey : p.1 = q.1 := by
    rw [heq, reread_eq_self (ascii_keys hc hsame q hq), hc.stripped q hq]
  obtain rfl : p = q := List.inj_on_of_nodup_map hc.nodup hp hq hkey
  refine ⟨ascii_keys hc hsame p hp, ?_, hsemicolon, hstripped, hunquoted, hne⟩
  have hvalue : strip (reread p.2) = p.2 := (congrArg Prod.snd heq).symm
  by_contra hwide
  rcases breadth_grows (hc.latin_value p hp) hstripped (Nat.pos_of_ne_zero hwide)
    with hlt | ⟨-, htwice⟩
  · rw [hvalue] at hlt
    exact lt_irrefl _ hlt
  · rw [hvalue, hvalue] at htwice
    exact lt_irrefl _ htwice

end Same

lemma entries_of_plain (hc : Parsed c) (h : ∀ p ∈ c, Plain p) : entries (reread (join c)) = c := by
  have hascii : c.map (fun p => (reread p.1, reread p.2)) = c := by
    conv_rhs => rw [← List.map_id c]
    exact List.map_congr_left fun p hp =>
      Prod.ext (reread_eq_self (h p hp).ascii_key) (reread_eq_self (h p hp).ascii_value)
  rw [reread_join, hascii, entries_join]
  conv_rhs => rw [← List.flatMap_singleton' c]
  apply List.flatMap_congr
  intro p hp
  have hplain := h p hp
  have hpair := entries_pair (hc.semicolon p hp) (hc.equals p hp) hplain.semicolon
  rw [hc.stripped p hp, hplain.stripped, if_neg hplain.nonempty, unquote,
    if_neg hplain.unquoted] at hpair
  exact hpair

lemma same_of_plain (hc : Parsed c) (h : ∀ p ∈ c, Plain p) :
    cookieParser (reread (join c)) = c := by
  rw [cookieParser, entries_of_plain hc h]
  exact Dicts.foldl_store (d := []) hc.nodup

lemma rejoined_iff (hc : Parsed c) :
    (∀ k, (cookieParser (latin1 (encode (join c)))).lookup k = c.lookup k) ↔ ∀ p ∈ c, Plain p := by
  constructor
  · exact plain_of_same hc
  · intro h k
    exact congrArg (List.lookup k) (same_of_plain hc h)

end Askit.Codec.Cookies
