import Askit.Codec.Dicts
import Mathlib.Data.List.DropRight
import Mathlib.Data.List.Infix

/-! Cookie headers: how a lenient parser reads them, and what a plain join of the pairs that it has
read gives when it is read again. -/

namespace Askit.Codec.Cookies

abbrev Text := List Char

def semicolon : Char := Char.ofNat 59

def equals : Char := Char.ofNat 61

def quote : Char := Char.ofNat 34

def backslash : Char := Char.ofNat 92

/-- The characters that `str.strip` takes away. -/
def isSpace (c : Char) : Bool :=
  let n := c.toNat
  (9 ≤ n && n ≤ 13) || (28 ≤ n && n ≤ 32) || n == 133 || n == 160 || n == 5760 ||
    (8192 ≤ n && n ≤ 8202) ||
    n == 8232 || n == 8233 || n == 8239 || n == 8287 || n == 12288

def strip (s : Text) : Text := (s.dropWhile isSpace).rdropWhile isSpace

def octalDigit (most : ℕ) (c : Char) : Bool := 48 ≤ c.toNat && c.toNat ≤ 48 + most

def octal (a b d : Char) : Char :=
    Char.ofNat ((a.toNat - 48) * 64 + (b.toNat - 48) * 8 + (d.toNat - 48))

/-- The substitution of `_unquote`: three octal digits after a backslash stand for a character, and
any character but a newline for itself. -/
def unescape : Text → Text
  | [] => []
  | c :: rest =>
    if c ≠ backslash then c :: unescape rest
    else
      match rest with
      | a :: b :: d :: rest =>
        if octalDigit 3 a && octalDigit 7 b && octalDigit 7 d then octal a b d :: unescape rest
        else if a = '\n' then c :: unescape (a :: b :: d :: rest)
        else a :: unescape (b :: d :: rest)
      | a :: rest => if a = '\n' then c :: unescape (a :: rest) else a :: unescape rest
      | [] => [c]

def Quoted (s : Text) : Prop := 2 ≤ s.length ∧ s.head? = some quote ∧ s.getLast? = some quote

instance (s : Text) : Decidable (Quoted s) :=
  inferInstanceAs (Decidable (2 ≤ s.length ∧ s.head? = some quote ∧ s.getLast? = some quote))

def unquote (s : Text) : Text := if Quoted s then unescape s.tail.dropLast else s

/-- A chunk without a sign of equality is the value of an empty name. -/
def split (chunk : Text) : Text × Text :=
  if equals ∈ chunk then (chunk.takeWhile (· ≠ equals), (chunk.dropWhile (· ≠ equals)).tail)
    else ([], chunk)

def entry (chunk : Text) : Option (Text × Text) :=
  let key := strip (split chunk).1
  let val := strip (split chunk).2
  if key = [] ∧ val = [] then none else some (key, unquote val)

def entries (s : Text) : List (Text × Text) := (s.splitOn semicolon).filterMap entry

def cookieParser (s : Text) : List (Text × Text) := (entries s).foldl store []

def latin1 (bytes : List UInt8) : Text := bytes.map fun b => Char.ofNat b.toNat

def encode (s : Text) : List UInt8 := s.flatMap String.utf8EncodeChar

def pair (p : Text × Text) : Text := p.1 ++ equals :: p.2

def join (cookies : List (Text × Text)) : Text := List.intercalate [semicolon, ' ']
    (cookies.map pair)

def reread (s : Text) : Text := latin1 (encode s)

lemma toNat_ofNat {n : ℕ} (h : n < 256) : (Char.ofNat n).toNat = n := by
  have hvalid : n.isValidChar := .inl (by omega)
  rw [Char.ofNat, dif_pos hvalid]
  rfl

/-! Stripping. -/

section Strip

variable {s : Text} {c : Char}

lemma strip_within (s : Text) : strip s <:+: s :=
  (List.rdropWhile_prefix isSpace (s.dropWhile isSpace)).isInfix.trans
    (List.dropWhile_suffix isSpace).isInfix

lemma strip_cons (h : isSpace c = true) (s : Text) : strip (c :: s) = strip s := by
  rw [strip, List.dropWhile_cons_of_pos h, strip]

lemma strip_head (h : strip (c :: s) = c :: s) : isSpace c = false := by
  by_contra hc
  rw [strip_cons (by simpa using hc)] at h
  have hle := (strip_within s).length_le
  rw [h, List.length_cons] at hle
  omega

lemma strip_eq_rdropWhile (h : isSpace c = false) :
    strip (c :: s) = (c :: s).rdropWhile isSpace := by
  rw [strip, List.dropWhile_cons_of_neg (by simp [h])]

lemma strip_last (h : strip (s ++ [c]) = s ++ [c]) : isSpace c = false := by
  by_contra hc
  have hc : isSpace c = true := by simpa using hc
  cases s with
  | nil => exact absurd (strip_head h) (by simp [hc])
  | cons d s =>
    rw [List.cons_append] at h
    have hd := strip_head h
    rw [strip_eq_rdropWhile hd, ← List.cons_append, List.rdropWhile_concat_pos isSpace
      (d :: s) c hc] at h
    have hle := (List.rdropWhile_prefix isSpace (d :: s)).length_le
    rw [h, List.length_append, List.length_singleton] at hle
    omega

lemma strip_idem (s : Text) : strip (strip s) = strip s := by
  cases hs : s.dropWhile isSpace with
  | nil => simp [strip, hs]
  | cons c t =>
    have hc : isSpace c = false := by
      have hhead := List.head_dropWhile_not isSpace (l := s)
        (by rw [hs]; exact List.cons_ne_nil c t)
      simpa [hs] using hhead
    have hcut : strip s = (c :: t).rdropWhile isSpace := by rw [strip, hs]
    have hne : (c :: t).rdropWhile isSpace ≠ [] := by
      rw [Ne, List.rdropWhile_eq_nil_iff]
      exact fun h => absurd (h c List.mem_cons_self) (by simp [hc])
    obtain ⟨d, u, hdu⟩ := List.exists_cons_of_ne_nil hne
    have hd : d = c := by
      obtain ⟨w, hw⟩ := List.rdropWhile_prefix isSpace (c :: t)
      rw [hdu, List.cons_append] at hw
      exact (List.cons.inj hw).1
    subst hd
    rw [hcut, hdu, strip_eq_rdropWhile hc, ← hdu, List.rdropWhile_idempotent isSpace]

end Strip

/-! Escapes. -/

def escaping (c : Char) : Bool := c == quote || c == backslash

def weight (s : Text) : ℕ := s.countP escaping

section Escapes

lemma weight_cons (c : Char) (s : Text) : weight (c :: s) = weight [c] + weight s := by
  rw [← List.singleton_append]
  exact List.countP_append

lemma weight_singleton (c : Char) : weight [c] ≤ 1 := List.countP_le_length

lemma unescape_cons {c : Char} (h : c ≠ backslash) (s : Text) :
    unescape (c :: s) = c :: unescape s := by
  rw [unescape.eq_def]
  simp only [if_pos h]

lemma octal_latin {a b d : Char} (h : (octalDigit 3 a && octalDigit 7 b && octalDigit 7 d) = true) :
    (octal a b d).toNat < 256 := by
  simp only [octalDigit, Bool.and_eq_true, decide_eq_true_eq] at h
  rw [octal, toNat_ofNat (by omega)]
  omega

lemma unescape_induction {R : Text → Text → Prop} (hnil : R [] [])
    (hkeep : ∀ c s t, R s t → R (c :: s) (c :: t))
    (hescape : ∀ a s t, R s t → R (backslash :: a :: s) (a :: t))
    (hoctal : ∀ a b d s t, (octalDigit 3 a && octalDigit 7 b && octalDigit 7 d) = true → R s t →
      R (backslash :: a :: b :: d :: s) (octal a b d :: t)) (s : Text) : R s (unescape s) := by
  induction s using unescape.induct with
  | case1 => exact hnil
  | case2 c rest hc ih =>
    rw [unescape_cons hc]
    exact hkeep c rest _ ih
  | case3 c hc a b d rest h ih =>
    obtain rfl : c = backslash := not_not.mp hc
    rw [unescape.eq_def]
    simp only [if_neg hc, if_pos h]
    exact hoctal a b d rest _ h ih
  | case4 c hc b d rest h ih =>
    rw [unescape.eq_def]
    simp only [if_neg hc, if_neg h, if_true]
    exact hkeep c _ _ ih
  | case5 c hc a b d rest h hnewline ih =>
    obtain rfl : c = backslash := not_not.mp hc
    rw [unescape.eq_def]
    simp only [if_neg hc, if_neg h, if_neg hnewline]
    exact hescape a _ _ ih
  | case6 c hc rest hshort ih =>
    rcases rest with _ | ⟨b, _ | ⟨d, rest⟩⟩
    · rw [unescape.eq_def]
      simp only [if_neg hc, if_true]
      exact hkeep c _ _ ih
    · rw [unescape.eq_def]
      simp only [if_neg hc, if_true]
      exact hkeep c _ _ ih
    · exact absurd rfl (hshort b d rest)
  | case7 c hc a rest hshort hnewline ih =>
    obtain rfl : c = backslash := not_not.mp hc
    rcases rest with _ | ⟨b, _ | ⟨d, rest⟩⟩
    · rw [unescape.eq_def]
      simp only [if_neg hc, if_neg hnewline]
      exact hescape a _ _ ih
    · rw [unescape.eq_def]
      simp only [if_neg hc, if_neg hnewline]
      exact hescape a _ _ ih
    · exact absurd rfl (hshort b d rest)
  | case8 c hc =>
    rw [unescape.eq_def]
    simp only [if_neg hc]
    exact hkeep c _ _ hnil

lemma weight_unescape (s : Text) : weight (unescape s) ≤ weight s := by
  have hbackslash : weight [backslash] = 1 := by decide
  apply unescape_induction (R := fun s t => weight t ≤ weight s)
  · exact le_refl _
  · intro c s t ih
    rw [weight_cons, weight_cons c s]
    omega
  · intro a s t ih
    rw [weight_cons, weight_cons backslash, weight_cons a s]
    omega
  · intro a b d s t _ ih
    have hone := weight_singleton (octal a b d)
    rw [weight_cons, weight_cons backslash, weight_cons a, weight_cons b, weight_cons d]
    omega

lemma latin_unescape {s : Text} (h : ∀ c ∈ s, c.toNat < 256) : ∀ c ∈ unescape s, c.toNat < 256 := by
  revert h
  apply unescape_induction (R := fun s t => (∀ c ∈ s, c.toNat < 256) → ∀ c ∈ t, c.toNat < 256)
  · exact id
  · intro c s t ih h
    rw [List.forall_mem_cons] at h ⊢
    exact ⟨h.1, ih h.2⟩
  · intro a s t ih h
    simp only [List.forall_mem_cons] at h ⊢
    exact ⟨h.2.1, ih h.2.2⟩
  · intro a b d s t hoctal ih h
    simp only [List.forall_mem_cons] at h ⊢
    exact ⟨octal_latin hoctal, ih h.2.2.2.2⟩

end Escapes

/-! Texts of Latin-1 characters, written as UTF-8 and read as Latin-1. -/

def Latin (s : Text) : Prop := ∀ c ∈ s, c.toNat < 256

lemma latin_of_all {s : Text} (h : s.all (fun c => decide (c.toNat < 256)) = true) : Latin s :=
  fun c hc => of_decide_eq_true (List.all_eq_true.mp h c hc)

def wide (c : Char) : Bool := 128 ≤ c.toNat

def breadth (s : Text) : ℕ := s.countP wide

def lead (c : Char) : Char := Char.ofNat (192 + c.toNat / 64)

def trail (c : Char) : Char := Char.ofNat (128 + c.toNat % 64)

section Reread

variable {s t : Text} {c : Char}

lemma reread_append (s t : Text) : reread (s ++ t) = reread s ++ reread t := by
  rw [reread, encode, List.flatMap_append, latin1, List.map_append]
  rfl

lemma reread_cons (c : Char) (s : Text) : reread (c :: s) = reread [c] ++ reread s :=
    reread_append [c] s

lemma reread_ascii (h : wide c = false) : reread [c] = [c] := by
  have hc : c.toNat < 128 := by simpa [wide] using h
  have hsmall : c.val.toNat ≤ 127 := Nat.le_of_lt_succ hc
  have hbyte : (UInt8.ofNat c.toNat).toNat = c.toNat := by
    rw [UInt8.toNat_ofNat']
    exact Nat.mod_eq_of_lt (by omega)
  simp only [reread, encode, latin1, List.flatMap_cons, List.flatMap_nil, List.append_nil,
    String.utf8EncodeChar]
  rw [if_pos hsmall, List.map_singleton]
  exact congrArg (fun d => [d]) ((congrArg Char.ofNat hbyte).trans (Char.ofNat_toNat c))

lemma reread_wide (h : wide c = true) (hl : c.toNat < 256) : reread [c] = [lead c, trail c] := by
  have hc : 128 ≤ c.toNat := by simpa [wide] using h
  have hlarge : ¬c.val.toNat ≤ 127 := Nat.not_le.mpr hc
  have hsmall : c.val.toNat ≤ 2047 := by
    have : c.val.toNat < 256 := hl
    omega
  have hlead : (UInt8.ofNat (c.toNat / 64 % 32 + 192)).toNat = 192 + c.toNat / 64 := by
    rw [UInt8.toNat_ofNat']
    omega
  have htrail : (UInt8.ofNat (c.toNat % 64 + 128)).toNat = 128 + c.toNat % 64 := by
    rw [UInt8.toNat_ofNat']
    omega
  simp only [reread, encode, latin1, List.flatMap_cons, List.flatMap_nil, List.append_nil,
    String.utf8EncodeChar]
  rw [if_neg hlarge, if_pos hsmall, List.map_cons, List.map_singleton]
  exact congrArg₂ (fun d e => [d, e]) (congrArg Char.ofNat hlead) (congrArg Char.ofNat htrail)

lemma latin_reread (s : Text) : Latin (reread s) := by
  intro d hd
  obtain ⟨b, -, rfl⟩ := List.mem_map.mp hd
  rw [toNat_ofNat b.toNat_lt]
  exact b.toNat_lt

lemma toNat_lead (hl : c.toNat < 256) : (lead c).toNat = 192 + c.toNat / 64 :=
    toNat_ofNat (by omega)

lemma toNat_trail : (trail c).toNat = 128 + c.toNat % 64 := toNat_ofNat (by omega)

lemma wide_lead (hl : c.toNat < 256) : wide (lead c) = true := by
  rw [wide, toNat_lead hl]
  exact decide_eq_true (by omega)

lemma wide_trail : wide (trail c) = true := by
  rw [wide, toNat_trail]
  exact decide_eq_true (by omega)

lemma isSpace_lead (hl : c.toNat < 256) : isSpace (lead c) = false := by
  have hlead := toNat_lead hl
  simp only [isSpace, hlead]
  simp
  omega

lemma isSpace_trail_lead (h : wide c = true) (hl : c.toNat < 256) :
    isSpace (trail (lead c)) = false := by
  have hc : 128 ≤ c.toNat := by simpa [wide] using h
  have htrail := toNat_trail (c := lead c)
  rw [toNat_lead hl] at htrail
  simp only [isSpace, htrail]
  simp
  omega

lemma countP_reread {p : Char → Bool} (hp : ∀ c, wide c = true → p c = false) (hs : Latin s) :
    (reread s).countP p = s.countP p := by
  induction s with
  | nil => rfl
  | cons c s ih =>
    obtain ⟨hc, hs⟩ := List.forall_mem_cons.mp hs
    rw [reread_cons, List.countP_append, ih hs, List.countP_cons]
    cases hw : wide c with
    | false => rw [reread_ascii hw, List.countP_singleton, Nat.add_comm]
    | true =>
      rw [reread_wide hw hc]
      simp [hp c hw, hp _ (wide_lead hc), hp _ wide_trail]

lemma breadth_reread (hs : Latin s) : breadth (reread s) = 2 * breadth s := by
  induction s with
  | nil => rfl
  | cons c s ih =>
    obtain ⟨hc, hs⟩ := List.forall_mem_cons.mp hs
    have ih := ih hs
    rw [breadth, breadth] at ih
    rw [reread_cons, breadth, breadth, List.countP_append, ih, List.countP_cons]
    cases hw : wide c with
    | false =>
      rw [reread_ascii hw, List.countP_singleton]
      simp [hw]
    | true =>
      rw [reread_wide hw hc]
      simp [wide_lead hc, wide_trail]
      omega

lemma weight_reread (hs : Latin s) : weight (reread s) = weight s := by
  apply countP_reread _ hs
  intro c hc
  simp only [escaping, Bool.or_eq_false_iff, beq_eq_false_iff_ne]
  constructor
  · rintro rfl
    exact absurd hc (by decide)
  · rintro rfl
    exact absurd hc (by decide)

lemma mem_reread (hs : Latin s) (hc : wide c = false) : c ∈ reread s ↔ c ∈ s := by
  have hcount := countP_reread (p := fun d => d == c) (s := s) (fun d hd => by
    rw [beq_eq_false_iff_ne]
    rintro rfl
    exact absurd hd (by simp [hc])) hs
  have hmem : ∀ t : Text, c ∈ t ↔ 0 < t.countP fun d => d == c := fun t => by
    simp [List.countP_pos_iff]
  rw [hmem, hmem, hcount]

lemma reread_eq_self (h : breadth s = 0) : reread s = s := by
  induction s with
  | nil => rfl
  | cons c s ih =>
    have hall := List.countP_eq_zero.mp h
    have hc : wide c = false := by simpa using hall c List.mem_cons_self
    rw [reread_cons, reread_ascii hc, ih (List.countP_eq_zero.mpr fun d hd =>
      hall d (List.mem_cons_of_mem c hd))]
    rfl

lemma reread_head (hs : Latin (c :: s)) (hc : isSpace c = false) :
    ∃ d t, reread (c :: s) = d :: t ∧ isSpace d = false := by
  rw [reread_cons]
  cases hw : wide c with
  | false => exact ⟨c, _, by rw [reread_ascii hw]; rfl, hc⟩
  | true =>
    have hl := hs c List.mem_cons_self
    exact ⟨lead c, _, by rw [reread_wide hw hl]; rfl, isSpace_lead hl⟩

lemma strip_reread (hs : Latin s) (hstripped : strip s = s) : strip (reread s) = reread s ∨
    ∃ u c, s = u ++ [c] ∧ wide c = true ∧ isSpace (trail c) = true ∧ strip (reread s) = reread u ++
      [lead c] := by
  rcases List.eq_nil_or_concat' s with rfl | ⟨u, c, rfl⟩
  · exact .inl rfl
  · have hcut : strip (reread (u ++ [c])) = (reread (u ++ [c])).rdropWhile isSpace := by
      obtain ⟨a, t, hat⟩ := List.exists_cons_of_ne_nil
        (List.append_ne_nil_of_right_ne_nil u (List.cons_ne_nil c []))
      rw [hat] at hs hstripped ⊢
      obtain ⟨d, w, hdw, hd⟩ := reread_head hs (strip_head hstripped)
      rw [hdw, strip_eq_rdropWhile hd]
    have hl : c.toNat < 256 := hs c (by simp)
    rw [hcut, reread_append]
    cases hw : wide c with
    | false =>
      rw [reread_ascii hw, List.rdropWhile_concat_neg _ _ _ (by simp [strip_last hstripped])]
      exact .inl rfl
    | true =>
      rw [reread_wide hw hl]
      have hassoc : reread u ++ [lead c, trail c] = (reread u ++ [lead c]) ++ [trail c] := by simp
      cases htrail : isSpace (trail c) with
      | false =>
        rw [hassoc, List.rdropWhile_concat_neg _ _ _ (by simp [htrail])]
        exact .inl rfl
      | true =>
        refine .inr ⟨u, c, rfl, hw, htrail, ?_⟩
        rw [hassoc, List.rdropWhile_concat_pos _ _ _ htrail,
          List.rdropWhile_concat_neg _ _ _ (by simp [isSpace_lead hl])]

lemma breadth_append_wide (u : Text) (h : wide c = true) : breadth (u ++ [c]) = breadth u + 1 := by
  rw [breadth, breadth, List.countP_append, List.countP_singleton, if_pos h]

lemma breadth_le_strip_reread (hs : Latin s) (hstripped : strip s = s) :
    2 * breadth s ≤ breadth (strip (reread s)) + 1 := by
  rcases strip_reread hs hstripped with h | ⟨u, c, rfl, hw, -, h⟩
  · rw [h, breadth_reread hs]
    omega
  · have hl : c.toNat < 256 := hs c (by simp)
    have hu : Latin u := fun d hd => hs d (List.mem_append_left _ hd)
    rw [h, breadth_append_wide u hw, breadth_append_wide _ (wide_lead hl), breadth_reread hu]
    omega

lemma breadth_grows (hs : Latin s) (hstripped : strip s = s) (h : 0 < breadth s) :
    breadth s < breadth (strip (reread s)) ∨ (0 < breadth (strip (reread s)) ∧
      breadth s < breadth (strip (reread (strip (reread s))))) := by
  have hle := breadth_le_strip_reread hs hstripped
  by_cases hone : breadth s = 1
  · rcases strip_reread hs hstripped with hsame | ⟨u, c, rfl, hw, hspace, hcut⟩
    · left
      rw [hsame, breadth_reread hs]
      omega
    · right
      have hl : c.toNat < 256 := hs c (by simp)
      have hlatin : Latin (reread u ++ [lead c]) := hcut ▸ fun d hd =>
        latin_reread _ d ((strip_within _).subset hd)
      have hstrip : strip (reread u ++ [lead c]) = reread u ++ [lead c] := hcut ▸ strip_idem _
      rw [hcut]
      refine ⟨by rw [breadth_append_wide _ (wide_lead hl)]; omega, ?_⟩
      rcases strip_reread hlatin hstrip with hsame | ⟨v, d, hsplit, -, htrail, -⟩
      · rw [hsame, breadth_reread hlatin, breadth_append_wide _ (wide_lead hl)]
        omega
      · obtain ⟨-, hd⟩ := List.append_inj' hsplit rfl
        obtain rfl : lead c = d := (List.cons.inj hd).1
        rw [isSpace_trail_lead hw hl] at htrail
        cases htrail
  · left
    omega

lemma quoted_of_reread (hs : Latin s) (h : Quoted (reread s)) : Quoted s := by
  have hquote : wide quote = false := by decide
  obtain ⟨hlength, hhead, hlast⟩ := h
  cases s with
  | nil => cases hhead
  | cons a t =>
    have ha : a = quote := by
      rw [reread_cons] at hhead
      cases hw : wide a with
      | false =>
        rw [reread_ascii hw] at hhead
        exact Option.some.inj hhead
      | true =>
        have hl := hs a List.mem_cons_self
        rw [reread_wide hw hl] at hhead
        have hlead : lead a = quote := Option.some.inj hhead
        rw [← hlead, wide_lead hl] at hquote
        cases hquote
    subst ha
    rcases List.eq_nil_or_concat' t with rfl | ⟨u, c, rfl⟩
    · rw [reread_ascii hquote] at hlength
      exact absurd hlength (by decide)
    · have hl : c.toNat < 256 := hs c (by simp)
      rw [← List.cons_append, reread_append] at hlast
      refine ⟨by simp, rfl, ?_⟩
      cases hw : wide c with
      | false =>
        rw [reread_ascii hw, List.getLast?_append] at hlast
        rw [← List.cons_append, List.getLast?_append]
        exact hlast
      | true =>
        rw [reread_wide hw hl, List.getLast?_append] at hlast
        have htrail : trail c = quote := Option.some.inj hlast
        rw [← htrail, wide_trail] at hquote
        cases hquote

lemma not_quoted_reread (hs : Latin s) (hstripped : strip s = s) (h : ¬Quoted s) :
    ¬Quoted (strip (reread s)) := by
  rcases strip_reread hs hstripped with hsame | ⟨u, c, rfl, -, -, hcut⟩
  · rw [hsame]
    exact fun hq => h (quoted_of_reread hs hq)
  · rintro ⟨-, -, hlast⟩
    rw [hcut, List.getLast?_append] at hlast
    have hlead : lead c = quote := Option.some.inj hlast
    have hwide := wide_lead (hs c (by simp))
    rw [hlead] at hwide
    exact absurd hwide (by decide)

end Reread

end Askit.Codec.Cookies
