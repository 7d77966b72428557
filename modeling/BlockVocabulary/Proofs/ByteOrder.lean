import BlockVocabulary.Keyed
import Mathlib.Tactic.Common
import Mathlib.Tactic.SplitIfs
import Mathlib.Order.Basic

/-!
Texts in the order of their bytes.

Names are compared by their code points. That is the order of their bytes in UTF-8, because a larger
code point has an encoding with a larger byte where the two differ first.
-/

namespace BlockVocabulary

/-- The UTF-8 bytes of a text. -/
def Text.bytes (s : String) : List UInt8 := s.toUTF8.data.toList

lemma bytes_eq_flatMap (s : String) : Text.bytes s = s.toList.flatMap String.utf8EncodeChar := by
  rw [Text.bytes, String.toUTF8, ← String.utf8Encode_toList, List.utf8Encode,
    List.data_toByteArray]

/-- Characters are ordered as their encodings, whatever comes behind these. -/
lemma utf8EncodeChar_lt {c d : Char} (h : c < d) (l m : List UInt8) :
    String.utf8EncodeChar c ++ l < String.utf8EncodeChar d ++ m := by
  have hlt : c.val.toNat < d.val.toNat := h
  have hd : d.val.toNat < 0x110000 := d.valid.elim (by omega) (by omega)
  have hdiv : ∀ v, v / 4096 = v / 64 / 64 := fun v => (Nat.div_div_eq_div_mul v 64 64).symm
  have hdiv' : ∀ v, v / 262144 = v / 64 / 64 / 64 := fun v => by
    rw [← hdiv, Nat.div_div_eq_div_mul]
  simp only [String.utf8EncodeChar, hdiv, hdiv']
  generalize c.val.toNat = a at *
  generalize d.val.toNat = b at *
  -- One to four bytes each: with fewer bytes the first one is smaller, and encodings of one length
  -- are ordered as the digits of the numbers to the base 64.
  split_ifs <;> first
    | omega
    | simp only [List.cons_append, List.nil_append, List.cons_lt_cons_iff, UInt8.lt_iff_toNat_lt,
        ← UInt8.toNat_inj, UInt8.toNat_ofNat', Nat.reducePow]
      omega

lemma flatMap_utf8EncodeChar_lt {l m : List Char} (h : l < m) :
    l.flatMap String.utf8EncodeChar < m.flatMap String.utf8EncodeChar := by
  induction l generalizing m with
  | nil =>
    cases m with
    | nil => exact absurd h (List.not_lt_nil _)
    | cons d m =>
      obtain ⟨b, bs, hb⟩ : ∃ b bs, String.utf8EncodeChar d = b :: bs := by
        refine List.exists_cons_of_length_pos ?_
        rw [String.length_utf8EncodeChar]
        exact d.utf8Size_pos
      rw [List.flatMap_cons, hb]
      exact List.nil_lt_cons b _
  | cons c l ih =>
    cases m with
    | nil => exact absurd h (List.not_lt_nil _)
    | cons d m =>
      rw [List.flatMap_cons, List.flatMap_cons]
      rcases List.cons_lt_cons_iff.mp h with hlt | ⟨rfl, hlt⟩
      · exact utf8EncodeChar_lt hlt _ _
      · exact List.append_left_lt (ih hlt)

/-- **Texts are ordered as their bytes.** -/
lemma bytes_lt_iff {s t : String} : Text.bytes s < Text.bytes t ↔ s < t := by
  have hmono : ∀ {s t : String}, s < t → Text.bytes s < Text.bytes t := fun h => by
    rw [bytes_eq_flatMap, bytes_eq_flatMap]
    exact flatMap_utf8EncodeChar_lt h
  refine ⟨fun h => ?_, hmono⟩
  by_contra hnot
  by_cases heq : s = t
  · exact List.lt_irrefl _ (heq ▸ h)
  · exact List.lt_asymm h (hmono (Keyed.lt_of_not_lt_of_ne hnot heq))

lemma bytes_le_iff {s t : String} : Text.bytes s ≤ Text.bytes t ↔ s ≤ t := by
  rw [← List.not_lt, bytes_lt_iff, String.not_lt]

end BlockVocabulary
