import Askit.Codec.Dicts
import Askit.Codec.Json
import Mathlib.Tactic.IntervalCases

/-! Objects from strings to natural numbers, as `json.dumps` writes them and `json.loads` reads them
back. -/

namespace Askit.Codec.Json

def dumpsPair (p : String × ℕ) : List Char := dumpsStr p.1 ++ ':' :: ' ' :: Nat.toDigits 10 p.2

def dumpsPairs : List (String × ℕ) → List Char
  | [] => []
  | [p] => dumpsPair p
  | p :: rest => dumpsPair p ++ ',' :: ' ' :: dumpsPairs rest

def dumpsObject (l : List (String × ℕ)) : List Char := '{' :: dumpsPairs l ++ ['}']

/-! Reading: each function returns what it has read, and the rest of the text. -/

def hexValue (c : Char) : Option ℕ :=
  if c.isDigit then some (c.toNat - 48)
  else if 'a' ≤ c ∧ c ≤ 'f' then some (c.toNat - 87)
  else if 'A' ≤ c ∧ c ≤ 'F' then some (c.toNat - 55)
  else none

def scanHex4 : List Char → Option (ℕ × List Char)
  | a :: b :: c :: d :: rest => do
    let a ← hexValue a
    let b ← hexValue b
    let c ← hexValue c
    let d ← hexValue d
    some (((a * 16 + b) * 16 + c) * 16 + d, rest)
  | _ => none

/-- The second half of a pair of surrogates. A half that stands alone, which Python keeps, is no
character here. -/
def scanLow (high : ℕ) : List Char → Option (Char × List Char)
  | c :: 'u' :: rest => do
    guard (c = backslash)
    let (low, rest) ← scanHex4 rest
    guard (56320 ≤ low ∧ low < 57344)
    some (Char.ofNat (65536 + (high - 55296) * 1024 + (low - 56320)), rest)
  | _ => none

def scanEscape : List Char → Option (Char × List Char)
  | 'u' :: rest => do
    let (n, rest) ← scanHex4 rest
    if 55296 ≤ n ∧ n < 56320 then scanLow n rest
    else if n.isValidChar then some (Char.ofNat n, rest)
    else none
  | 'b' :: rest => some (Char.ofNat 8, rest)
  | 't' :: rest => some ('\t', rest)
  | 'n' :: rest => some ('\n', rest)
  | 'f' :: rest => some (Char.ofNat 12, rest)
  | 'r' :: rest => some ('\r', rest)
  | '/' :: rest => some ('/', rest)
  | c :: rest => if c = quote ∨ c = backslash then some (c, rest) else none
  | [] => none

def scanChar : List Char → Option (Option Char × List Char)
  | [] => none
  | c :: rest =>
    if c = quote then some (none, rest)
    else if c = backslash then (scanEscape rest).map fun p => (some p.1, p.2)
    else if c.toNat < 32 then none
    else some (some c, rest)

def scanChars : ℕ → List Char → Option (List Char × List Char)
  | 0, _ => none
  | n + 1, text => do
    let (c, rest) ← scanChar text
    match c with
    | none => some ([], rest)
    | some c => do
      let (cs, rest) ← scanChars n rest
      some (c :: cs, rest)

def scanString : List Char → Option (String × List Char)
  | [] => none
  | c :: text => do
    guard (c = quote)
    let (cs, rest) ← scanChars (text.length + 1) text
    some (String.ofList cs, rest)

/-- Digits that are at least one, and begin with a zero only if it is all of them. -/
def scanNat (text : List Char) : Option (ℕ × List Char) := do
  let digits := text.takeWhile Char.isDigit
  guard (digits = ['0'] ∨ digits.head?.any (· ≠ '0'))
  some (Nat.ofDigitChars 10 digits 0, text.dropWhile Char.isDigit)

def skipSpace (text : List Char) : List Char :=
  text.dropWhile fun c => c = ' ' ∨ c = '\t' ∨ c = '\n' ∨ c = '\r'

def scanPair (text : List Char) : Option ((String × ℕ) × List Char) := do
  let (key, rest) ← scanString text
  let ':' :: rest := skipSpace rest | none
  let (n, rest) ← scanNat (skipSpace rest)
  some ((key, n), rest)

/-- The pairs up to the closing brace, within so many pairs. -/
def scanPairs : ℕ → List Char → Option (List (String × ℕ) × List Char)
  | 0, _ => none
  | n + 1, text => do
    let (p, rest) ← scanPair text
    match skipSpace rest with
    | '}' :: rest => some ([p], rest)
    | ',' :: rest => do
      let (ps, rest) ← scanPairs n (skipSpace rest)
      some (p :: ps, rest)
    | _ => none

def loadsObject (text : List Char) : Option (List (String × ℕ)) := do
  let '{' :: rest := skipSpace text | none
  match skipSpace rest with
  | '}' :: rest => do
    guard (skipSpace rest = [])
    some []
  | rest => do
    let (ps, rest) ← scanPairs rest.length rest
    guard (skipSpace rest = [])
    some (ps.foldl store [])

/-! Reading back what has been written. -/

variable {rest : List Char}

lemma guard_bind {α : Type} {c : Prop} [Decidable c] (h : c) (f : Unit → Option α) :
    (guard c >>= f) = f () := by
  rw [guard, if_pos h]
  rfl

lemma hexValue_digitChar {n : ℕ} (h : n < 16) : hexValue (Nat.digitChar n) = some n := by
  interval_cases n <;> rfl

lemma scanHex4_hex4 {n : ℕ} (h : n < 65536) : scanHex4 (hex4 n ++ rest) = some (n, rest) := by
  have hvalue : ((n / 4096 * 16 + n / 256 % 16) * 16 + n / 16 % 16) * 16 + n % 16 = n := by omega
  simp only [hex4, List.cons_append, List.nil_append, scanHex4]
  rw [hexValue_digitChar (by omega), hexValue_digitChar (by omega), hexValue_digitChar (by omega),
    hexValue_digitChar (by omega)]
  simp only [Option.bind_eq_bind, Option.bind_some, hvalue]

lemma scanEscape_unicode (rest : List Char) {n : ℕ} (h : n < 65536) (hvalid : n.isValidChar) :
    scanEscape ('u' :: hex4 n ++ rest) = some (Char.ofNat n, rest) := by
  have hplain : ¬(55296 ≤ n ∧ n < 56320) := by
    rcases hvalid with hlow | ⟨hhigh, -⟩ <;> omega
  rw [List.cons_append, scanEscape, scanHex4_hex4 h]
  simp only [Option.bind_eq_bind, Option.bind_some]
  rw [if_neg hplain, if_pos hvalid]

lemma scanLow_unicode {high low : ℕ} (hmin : 56320 ≤ low) (hmax : low < 57344) :
    scanLow high (unicode low ++ rest) =
      some (Char.ofNat (65536 + (high - 55296) * 1024 + (low - 56320)), rest) := by
  rw [unicode, List.cons_append, List.cons_append, scanLow, guard_bind rfl,
    scanHex4_hex4 (by omega)]
  exact guard_bind ⟨hmin, hmax⟩ _

lemma scanEscape_pair (rest : List Char) {n : ℕ} (hmin : 65536 ≤ n) (hmax : n < 1114112) :
    scanEscape
      ('u' :: hex4 (55296 + (n - 65536) / 1024) ++ (unicode (56320 + (n - 65536) % 1024) ++ rest)) =
      some (Char.ofNat n, rest) := by
  obtain ⟨k, rfl⟩ := Nat.exists_eq_add_of_le hmin
  rw [Nat.add_sub_cancel_left]
  have hhigh : 55296 ≤ 55296 + k / 1024 ∧ 55296 + k / 1024 < 56320 := by omega
  have hvalue : 65536 + (55296 + k / 1024 - 55296) * 1024 + (56320 + k % 1024 - 56320) =
      65536 + k := by
    omega
  rw [List.cons_append, scanEscape, scanHex4_hex4 (by omega)]
  simp only [Option.bind_eq_bind, Option.bind_some]
  rw [if_pos hhigh, scanLow_unicode (by omega) (by omega), hvalue]

lemma toNat_of_letter {c e : Char} (h : letter? c.toNat = some e) :
    scanEscape (e :: rest) = some (c, rest) ∧ e ≠ 'u' := by
  have hc : Char.ofNat c.toNat = c := Char.ofNat_toNat c
  generalize c.toNat = n at h hc
  unfold letter? at h
  split at h <;> first | (cases h; subst hc; exact ⟨rfl, by decide⟩) | cases h

lemma scanChar_escape (c : Char) : scanChar (escape c ++ rest) = some (some c, rest) := by
  have hc : Char.ofNat c.toNat = c := Char.ofNat_toNat c
  have hquote : backslash ≠ quote := by decide
  unfold escape
  split
  · next hplain =>
    obtain ⟨hmin, -, hq, hb⟩ := hplain
    rw [List.singleton_append, scanChar, if_neg hq, if_neg hb, if_neg (by omega)]
  · split
    · next e he =>
      rw [List.cons_append, List.singleton_append, scanChar, if_neg hquote, if_pos rfl,
        (toNat_of_letter he).1]
      rfl
    · split
      · next hsmall =>
        have hscan := scanEscape_unicode rest hsmall c.valid
        rw [unicode, List.cons_append, scanChar, if_neg hquote, if_pos rfl, hscan, hc]
        rfl
      · next hlarge =>
        have hmax : c.toNat < 1114112 := by
          rcases c.valid with h | ⟨-, h⟩ <;> exact lt_of_lt_of_le h (by norm_num)
        have hscan := scanEscape_pair rest (by omega) hmax
        rw [List.append_assoc, unicode, List.cons_append, scanChar, if_neg hquote,
          if_pos rfl, hscan, hc]
        rfl

lemma scanChars_escaped (s : List Char) {n : ℕ} (h : s.length < n) :
    scanChars n (s.flatMap escape ++ quote :: rest) = some (s, rest) := by
  induction s generalizing n with
  | nil =>
    obtain ⟨n, rfl⟩ := Nat.exists_eq_add_one.mpr (Nat.zero_lt_of_lt h)
    rfl
  | cons c s ih =>
    obtain ⟨n, rfl⟩ := Nat.exists_eq_add_one.mpr (Nat.zero_lt_of_lt h)
    rw [List.flatMap_cons, List.append_assoc, scanChars, scanChar_escape]
    simp only [Option.bind_eq_bind, Option.bind_some]
    rw [ih (Nat.lt_of_succ_lt_succ h)]
    rfl

lemma length_le_escaped (s : List Char) : s.length ≤ (s.flatMap escape).length := by
  induction s with
  | nil => exact le_refl _
  | cons c s ih =>
    have hc : 1 ≤ (escape c).length := by
      unfold escape
      split
      · exact le_refl _
      · split
        · simp
        · split <;> simp [unicode]
    rw [List.flatMap_cons, List.length_append, List.length_cons]
    omega

lemma scanString_dumpsStr (s : String) : scanString (dumpsStr s ++ rest) = some (s, rest) := by
  have hlength := length_le_escaped s.toList
  rw [dumpsStr, List.append_assoc, List.cons_append, List.singleton_append, scanString]
  rw [scanChars_escaped s.toList (by rw [List.length_append]; omega)]
  simp

lemma toDigits_head {n : ℕ} (hn : n ≠ 0) : (Nat.toDigits 10 n).head?.any (· ≠ '0') := by
  induction n using Nat.strong_induction_on with
  | _ n ih =>
    by_cases hsmall : n < 10
    · rw [Nat.toDigits_of_lt_base hsmall]
      change decide (Nat.digitChar n ≠ '0') = true
      interval_cases n <;> first | exact absurd rfl hn | decide
    · obtain ⟨c, hc, hne⟩ := (Option.any_eq_true _ _).mp (ih (n / 10) (by omega) (by omega))
      have hsplit : Nat.toDigits 10 n = Nat.toDigits 10 (n / 10) ++ Nat.toDigits 10 (n % 10) := by
        rw [Nat.toDigits_append_toDigits (by norm_num) (by omega) (by omega), Nat.div_add_mod]
      rw [hsplit, Option.mem_def.mp (List.mem_head?_append_of_mem_head? hc)]
      exact hne

lemma scanNat_toDigits (n : ℕ) (hrest : ∀ c ∈ rest.head?, c.isDigit = false) :
    scanNat (Nat.toDigits 10 n ++ rest) = some (n, rest) := by
  have hdigits : ∀ c ∈ Nat.toDigits 10 n, c.isDigit = true := fun c hc =>
    Nat.isDigit_of_mem_toDigits (by norm_num) (by norm_num) hc
  have htake : (Nat.toDigits 10 n ++ rest).takeWhile Char.isDigit = Nat.toDigits 10 n := by
    rw [List.takeWhile_append_of_pos hdigits]
    cases rest with
    | nil => simp
    | cons c rest => simp [hrest c rfl]
  have hdrop : (Nat.toDigits 10 n ++ rest).dropWhile Char.isDigit = rest := by
    rw [List.dropWhile_append_of_pos hdigits]
    cases rest with
    | nil => rfl
    | cons c rest => simp [hrest c rfl]
  have hguard : Nat.toDigits 10 n = ['0'] ∨ (Nat.toDigits 10 n).head?.any (· ≠ '0') := by
    by_cases hn : n = 0
    · exact .inl (by rw [hn]; rfl)
    · exact .inr (toDigits_head hn)
  rw [scanNat, htake, hdrop, guard_bind hguard, Nat.ofDigitChars_ten_toDigits]

lemma skipSpace_cons {c : Char} (h : ¬(c = ' ' ∨ c = '\t' ∨ c = '\n' ∨ c = '\r'))
    (text : List Char) :
    skipSpace (c :: text) = c :: text := by
  rw [skipSpace, List.dropWhile_cons_of_neg (by simpa using h)]

lemma skipSpace_space (text : List Char) : skipSpace (' ' :: text) = skipSpace text :=
  List.dropWhile_cons_of_pos (by decide)

lemma skipSpace_toDigits (n : ℕ) :
    skipSpace (' ' :: (Nat.toDigits 10 n ++ rest)) = Nat.toDigits 10 n ++ rest := by
  rw [skipSpace_space]
  cases hdigits : Nat.toDigits 10 n with
  | nil => exact absurd hdigits Nat.toDigits_ne_nil
  | cons c digits =>
    have hc : c.isDigit = true := by
      apply Nat.isDigit_of_mem_toDigits (b := 10) (n := n) (by norm_num) (by norm_num)
      rw [hdigits]
      exact List.mem_cons_self
    rw [List.cons_append, skipSpace_cons]
    rintro (rfl | rfl | rfl | rfl) <;> exact absurd hc (by decide)

lemma scanPair_dumpsPair (p : String × ℕ) (hrest : ∀ c ∈ rest.head?, c.isDigit = false) :
    scanPair (dumpsPair p ++ rest) = some (p, rest) := by
  rw [dumpsPair, List.append_assoc, scanPair, scanString_dumpsStr, Option.bind_eq_bind,
    Option.bind_some, List.cons_append, List.cons_append]
  dsimp only
  rw [skipSpace_cons (by decide)]
  simp only [skipSpace_toDigits, scanNat_toDigits p.2 hrest]
  rfl

lemma dumpsPairs_cons (p : String × ℕ) (l : List (String × ℕ)) :
    ∃ text, dumpsPairs (p :: l) = quote :: text := by
  cases l <;> exact ⟨_, rfl⟩

lemma scanPairs_dumpsPairs {l : List (String × ℕ)} (hl : l ≠ []) {n : ℕ} (hn : l.length ≤ n) :
    scanPairs n (dumpsPairs l ++ '}' :: rest) = some (l, rest) := by
  induction l generalizing n with
  | nil => exact absurd rfl hl
  | cons p l ih =>
    obtain ⟨n, rfl⟩ := Nat.exists_eq_add_one.mpr (lt_of_lt_of_le (Nat.succ_pos _) hn)
    cases l with
    | nil =>
      rw [dumpsPairs, scanPairs, scanPair_dumpsPair p (by rintro c ⟨⟩; decide), Option.bind_eq_bind,
        Option.bind_some]
      dsimp only
      rw [skipSpace_cons (by decide)]
      rfl
    | cons q l =>
      obtain ⟨text, htext⟩ := dumpsPairs_cons q l
      have hread := ih (List.cons_ne_nil q l) (Nat.le_of_succ_le_succ hn)
      rw [dumpsPairs.eq_3 p _ (List.cons_ne_nil q l), List.append_assoc, List.cons_append,
        List.cons_append, scanPairs,
        scanPair_dumpsPair p (by rintro c ⟨⟩; decide), Option.bind_eq_bind, Option.bind_some]
      dsimp only
      rw [skipSpace_cons (by decide)]
      simp only [skipSpace_space]
      rw [htext, List.cons_append, skipSpace_cons (by decide), ← List.cons_append, ← htext, hread]
      rfl

lemma length_le_dumpsPairs (l : List (String × ℕ)) : l.length ≤ (dumpsPairs l).length := by
  induction l with
  | nil => exact le_refl _
  | cons p l ih =>
    cases l with
    | nil => exact Nat.succ_le_succ (Nat.zero_le _)
    | cons q l =>
      have hpairs : dumpsPairs (p :: q :: l) = dumpsPair p ++ ',' :: ' ' ::
          dumpsPairs (q :: l) := rfl
      rw [hpairs]
      simp only [List.length_append, List.length_cons] at ih ⊢
      omega

lemma loadsObject_dumpsObject {l : List (String × ℕ)} (h : (l.map Prod.fst).Nodup) :
    loadsObject (dumpsObject l) = some l := by
  rw [dumpsObject, loadsObject, List.cons_append, skipSpace_cons (by decide)]
  cases l with
  | nil => rfl
  | cons p l =>
    obtain ⟨text, htext⟩ := dumpsPairs_cons p l
    have hscan : scanPairs (dumpsPairs (p :: l) ++ ['}']).length (dumpsPairs (p :: l) ++ ['}']) =
        some (p :: l, []) := by
      apply scanPairs_dumpsPairs (List.cons_ne_nil p l)
      have hlength := length_le_dumpsPairs (p :: l)
      rw [List.length_append]
      omega
    rw [htext] at hscan ⊢
    have hstore : (p :: l).foldl store [] = p :: l := Dicts.foldl_store h
    simp only [List.cons_append, skipSpace_cons (c := quote) (by decide)] at hscan ⊢
    split
    · next heq => exact absurd (List.cons.inj heq).1 (by decide)
    · simp only [hscan, Option.bind_eq_bind, Option.bind_some, hstore]
      rfl

end Askit.Codec.Json
