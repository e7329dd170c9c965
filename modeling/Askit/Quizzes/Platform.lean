import Askit.Game.Runtime
import Mathlib.Data.List.DropRight

/-! What the quiz code takes from its platform: `str.strip` and `str.lower`, room codes, and the
order in which the database returns rows. -/

namespace Askit.Quizzes

open Game

def stripBy (isSpace : Char → Bool) (s : String) : String :=
  String.ofList ((s.toList.dropWhile isSpace).rdropWhile isSpace)

/-- `arrange` is the order of the rows that a query returns. -/
class Platform extends Runtime where
  isSpace : Char → Bool
  lower_lower (s : String) : lower (lower s) = lower s
  strip_lower (s : String) : stripBy isSpace s = s → stripBy isSpace (lower s) = lower s
  roomCode : ℕ → String
  arrange {ρ : Type} : List ρ → List ρ
  arrange_perm {ρ : Type} (l : List ρ) : (arrange l).Perm l

attribute [simp] Platform.lower_lower

section Strip

variable {p : Char → Bool}

lemma dropWhile_rdropWhile_dropWhile (l : List Char) :
    ((l.dropWhile p).rdropWhile p).dropWhile p = (l.dropWhile p).rdropWhile p := by
  rw [List.dropWhile_eq_self_iff]
  intro hlength
  have hprefix := List.rdropWhile_prefix p (l.dropWhile p)
  have hkept := List.dropWhile_eq_self_iff.mp (List.dropWhile_idempotent p l)
  have hhead := hprefix.getElem hlength
  rw [hhead]
  exact hkept (Nat.lt_of_lt_of_le hlength hprefix.length_le)

lemma stripBy_stripBy (s : String) : stripBy p (stripBy p s) = stripBy p s := by
  simp only [stripBy, String.toList_ofList]
  rw [dropWhile_rdropWhile_dropWhile, List.rdropWhile_idempotent]

lemma length_stripBy_le (s : String) : (stripBy p s).length ≤ s.length := by
  have hfront := (List.dropWhile_sublist (p := p) (l := s.toList)).length_le
  have hback := (List.rdropWhile_prefix p (s.toList.dropWhile p)).length_le
  simp only [stripBy, String.length_ofList]
  exact Nat.le_trans hback hfront

end Strip

section Ascii

lemma toLower_toLower (c : Char) : c.toLower.toLower = c.toLower := by
  unfold Char.toLower
  grind

lemma toLower_eq_space (c : Char) : c.toLower = ' ' ↔ c = ' ' := by
  unfold Char.toLower
  split
  · next h =>
    have hlow : 65 ≤ c.val := h.1
    have hhigh : c.val ≤ 90 := h.2
    have hshift : 'a'.val - 'A'.val = 32 := rfl
    have hspace : ' '.val = 32 := rfl
    simp only [Char.ext_iff, hshift, hspace, ← UInt32.toNat_inj, UInt32.toNat_add,
      UInt32.le_iff_toNat_le] at *
    simp at hlow hhigh ⊢
    omega
  · rfl

lemma strip_map_toLower (l : List Char) :
    ((l.map Char.toLower).dropWhile (· = ' ')).rdropWhile (· = ' ') =
      ((l.dropWhile (· = ' ')).rdropWhile (· = ' ')).map Char.toLower := by
  have hspace : (fun c : Char => decide (c = ' ')) ∘ Char.toLower = fun c => decide (c = ' ') := by
    funext c
    simp [toLower_eq_space]
  rw [List.dropWhile_map, hspace]
  simp only [List.rdropWhile, ← List.map_reverse, List.dropWhile_map, hspace]

/-- A platform for concrete runs, whose queries return rows in the order of their insertion. -/
@[reducible] def Platform.ascii : Platform where
  toRuntime := Runtime.ascii
  isSpace c := c = ' '
  lower_lower s := by
    change String.ofList ((String.ofList (s.toList.map Char.toLower)).toList.map Char.toLower) =
      String.ofList (s.toList.map Char.toLower)
    have hmap : Char.toLower ∘ Char.toLower = Char.toLower := funext toLower_toLower
    simp [hmap]
  strip_lower s h := by
    have hs := congrArg String.toList h
    simp only [stripBy, String.toList_ofList] at hs
    change String.ofList (((String.ofList (s.toList.map Char.toLower)).toList.dropWhile
      _).rdropWhile _) =
      String.ofList (s.toList.map Char.toLower)
    simp only [String.toList_ofList, strip_map_toLower, hs]
  roomCode n := String.ofList (List.replicate n 'R')
  arrange l := l
  arrange_perm l := .refl l

end Ascii

variable [Platform]

def strip (s : String) : String := stripBy Platform.isSpace s

@[simp] lemma strip_strip (s : String) : strip (strip s) = strip s := stripBy_stripBy s

lemma length_strip_le (s : String) : (strip s).length ≤ s.length := length_stripBy_le s

def foldTag (s : String) : String := Runtime.lower (strip s)

@[simp] lemma foldTag_foldTag (s : String) : foldTag (foldTag s) = foldTag s := by
  have hstrip : strip (Runtime.lower (strip s)) = Runtime.lower (strip s) :=
    Platform.strip_lower (strip s) (strip_strip s)
  simp [foldTag, hstrip]

end Askit.Quizzes
