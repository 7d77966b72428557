import BlockVocabulary.Json.Token
import Mathlib.Data.List.TakeWhile
import Mathlib.Data.Nat.Digits.Defs

/-!
The text of a number.

A number ends where neither a digit nor a point nor an exponent follows, so its text can be read in
front of anything that begins otherwise. A whole number is written by its digits, the first of which
is no zero unless it is the only one; so its text is read as it.
-/

namespace BlockVocabulary

namespace Json

/-- The text does not go on with a number that stands in front of it. -/
def EndsNumber (rest : List Char) : Prop :=
  ∀ x ∈ rest.head?, x.isDigit = false ∧ x ≠ '.' ∧ x ≠ 'e' ∧ x ≠ 'E'

variable {rest : List Char}

lemma takeWhile_isDigit_append (h : EndsNumber rest) {ds : List Char}
    (hds : ∀ d ∈ ds, d.isDigit = true) : (ds ++ rest).takeWhile Char.isDigit = ds := by
  rw [List.takeWhile_append_of_pos hds]
  rcases rest with _ | ⟨x, xs⟩
  · simp
  · simp [(h x rfl).1]

lemma fraction_of_endsNumber (h : EndsNumber rest) (offset rounds : ℕ) :
    fraction ⟨rest, offset, rounds⟩ = .ok ([], ⟨rest, offset, rounds⟩) := by
  unfold fraction
  split
  case h_1 xs hxs =>
    obtain rfl : rest = '.' :: xs := hxs
    exact absurd rfl (h '.' rfl).2.1
  case h_2 => rfl

lemma power_of_endsNumber (h : EndsNumber rest) (zero : Bool) (offset rounds : ℕ) :
    power zero ⟨rest, offset, rounds⟩ = .ok (0, ⟨rest, offset, rounds⟩) := by
  rcases rest with _ | ⟨x, xs⟩
  · rfl
  · obtain ⟨-, -, he, hE⟩ := h x rfl
    simp [power, he, hE]

lemma digitsValue_toDigits (n : ℕ) : digitsValue (Nat.toDigits 10 n) = n :=
  Nat.ofDigitChars_ten_toDigits

/-- A number other than zero does not begin with a zero. -/
lemma head?_toDigits_ne_zero {n : ℕ} (h : n ≠ 0) : (Nat.toDigits 10 n).head? ≠ some '0' := by
  induction n using Nat.strong_induction_on with
  | _ n ih =>
    rw [Nat.toDigits_eq_if (by omega)]
    by_cases hn : n < 10
    · have hdigit : ∀ d < 10, d ≠ 0 → d.digitChar ≠ '0' := by decide
      rw [if_pos hn]
      simpa using hdigit n hn h
    · rw [if_neg hn]
      rcases hds : Nat.toDigits 10 (n / 10) with _ | ⟨d, ds⟩
      · exact absurd hds Nat.toDigits_ne_nil
      · simpa [hds] using ih (n / 10) (by omega) (by omega)

/-- The digits of a whole number are read as this number. -/
lemma numberAfterSign_toDigits (h : EndsNumber rest) {negative : Bool} {n : ℕ} {i : ℤ}
    (hi : whole? negative n = some i) (offset rounds : ℕ) :
    ∃ after, numberAfterSign negative ⟨Nat.toDigits 10 n ++ rest, offset, rounds⟩ =
      .ok (.int i, ⟨rest, after, rounds⟩) := by
  have hdigits : (Nat.toDigits 10 n ++ rest).takeWhile Char.isDigit = Nat.toDigits 10 n :=
    takeWhile_isDigit_append h fun d hd => Nat.isDigit_of_mem_toDigits (by omega) (by omega) hd
  have hskip : (⟨Nat.toDigits 10 n ++ rest, offset, rounds⟩ : Cursor).skip
      (Nat.toDigits 10 n).length = ⟨rest, offset + (Nat.toDigits 10 n).length, rounds⟩ := by
    simp [Cursor.skip]
  refine ⟨offset + (Nat.toDigits 10 n).length, ?_⟩
  unfold numberAfterSign
  dsimp only
  rw [hdigits]
  split
  case h_1 hnil => exact absurd hnil Nat.toDigits_ne_nil
  case h_2 d ds hzero =>
    by_cases hn : n = 0
    · subst hn
      cases hzero
    · exact absurd (by rw [hzero]; rfl) (head?_toDigits_ne_zero hn)
  case h_3 =>
    rw [hskip, fraction_of_endsNumber h]
    simp only [bind, Except.bind]
    rw [power_of_endsNumber h, List.append_nil, digitsValue_toDigits]
    simp [hi]
    rfl

end Json

open Json

namespace Number

/-- A number is read where its text stands, in front of anything that ends it. -/
def ReadsBack (n : Number) : Prop :=
  ∀ rest, EndsNumber rest → ∀ offset rounds, ∃ after,
    number? ⟨n.render.toList ++ rest, offset, rounds⟩ = .ok (n, ⟨rest, after, rounds⟩)

/-- The text of a number begins with a sign or a digit. -/
lemma ReadsBack.begins {n : Number} (h : n.ReadsBack) :
    ∃ x xs, n.render.toList = x :: xs ∧ (x = '-' ∨ x.isDigit = true) := by
  obtain ⟨after, hread⟩ := h [] (by simp [EndsNumber]) 0 0
  rcases htext : n.render.toList with _ | ⟨x, xs⟩
  · rw [htext] at hread
    cases hread
  · refine ⟨x, xs, rfl, ?_⟩
    by_contra hx
    rw [not_or, Bool.not_eq_true] at hx
    obtain ⟨hsign, hdigit⟩ := hx
    rw [htext, number?, if_neg (by simpa using hsign)] at hread
    simp [numberAfterSign, hdigit, Cursor.stopAfter] at hread

lemma toList_render_ofNat (n : ℕ) : (int n).render.toList = Nat.toDigits 10 n := by
  rw [render, Int.toString_eq_repr]
  simp [Int.repr, Nat.repr_eq_ofList_toDigits]

lemma toList_render_negSucc (n : ℕ) :
    (int (Int.negSucc n)).render.toList = '-' :: Nat.toDigits 10 (n + 1) := by
  rw [render, Int.toString_eq_repr]
  simp [Int.repr, Nat.repr_eq_ofList_toDigits]

/-- **A whole number of 64 bits is read back**, with a sign or without one. -/
lemma readsBack_int {i : ℤ} (hlow : -0x8000000000000000 ≤ i) (hhigh : i < 0x10000000000000000) :
    (int i).ReadsBack := by
  intro rest h offset rounds
  cases i with
  | ofNat n =>
    have hread : whole? false n = some (n : ℤ) := by
      rw [Int.ofNat_eq_natCast] at hhigh
      simp only [whole?, Bool.false_eq_true, if_false]
      rw [if_pos (by omega)]
    obtain ⟨after, hafter⟩ := numberAfterSign_toDigits h hread offset rounds
    refine ⟨after, ?_⟩
    rw [Int.ofNat_eq_natCast, toList_render_ofNat, number?, if_neg, hafter]
    -- no digit is a sign
    rcases hds : Nat.toDigits 10 n with _ | ⟨d, ds⟩
    · exact absurd hds Nat.toDigits_ne_nil
    · have hd : d.isDigit = true :=
        Nat.isDigit_of_mem_toDigits (b := 10) (n := n) (by omega) (by omega) (by simp [hds])
      rintro hsign
      obtain rfl : d = '-' := by simpa using hsign
      exact absurd hd (by decide)
  | negSucc n =>
    have hread : whole? true (n + 1) = some (Int.negSucc n) := by
      have hle : n + 1 ≤ 0x8000000000000000 := by omega
      simp only [whole?, if_true]
      rw [if_neg (by simp; omega)]
      rfl
    obtain ⟨after, hafter⟩ := numberAfterSign_toDigits h hread (offset + 1) rounds
    refine ⟨after, ?_⟩
    rw [toList_render_negSucc, number?, if_pos (by simp)]
    exact hafter

end Number

end BlockVocabulary
