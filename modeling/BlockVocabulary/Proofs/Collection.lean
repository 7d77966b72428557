import BlockVocabulary.Diagnostics
import Mathlib.Tactic.Common

/-!
Collecting diagnostics. Whatever is added, and in whatever order, the warnings are kept in full and
the errors up to the limit, each kind in the order in which it came.
-/

namespace BlockVocabulary.Diagnostics

lemma severity_of_not_isError {d : Diagnostic} (h : d.isError = false) : d.severity = .warning := by
  unfold Diagnostic.isError at h
  rcases hs : d.severity
  · simp [hs] at h
  · rfl

lemma push_error (ds : Diagnostics) {d : Diagnostic} (h : d.isError = true) :
    ds.push d = { ds with
      errors := ds.errors ++ [d].take (limit - ds.errors.length)
      totalErrors := ds.totalErrors + 1 } := by
  have hs : d.severity = .error := by simpa [Diagnostic.isError] using h
  by_cases hl : ds.errors.length < limit
  · rw [push, hs, if_pos hl, List.take_of_length_le (by simp; omega)]
  · rw [push, hs, if_neg hl, Nat.sub_eq_zero_of_le (by omega)]
    simp

lemma push_warning (ds : Diagnostics) {d : Diagnostic} (h : d.isError = false) :
    ds.push d = { ds with
      warnings := ds.warnings ++ [d]
      totalWarnings := ds.totalWarnings + 1 } := by
  rw [push, severity_of_not_isError h]

/-- **What is kept of a sequence of diagnostics.** -/
lemma pushAll_eq (ds : Diagnostics) (added : List Diagnostic) :
    ds.pushAll added =
      { errors := ds.errors ++ (added.filter (·.isError)).take (limit - ds.errors.length)
        warnings := ds.warnings ++ added.filter (!·.isError)
        totalErrors := ds.totalErrors + added.countP (·.isError)
        totalWarnings := ds.totalWarnings + added.countP (!·.isError) } := by
  induction added generalizing ds with
  | nil => simp [pushAll]
  | cons d added ih =>
    have hcons : ds.pushAll (d :: added) = (ds.push d).pushAll added := rfl
    rw [hcons, ih]
    rcases hd : d.isError
    · rw [push_warning ds hd]
      simp [hd, Nat.add_assoc, Nat.add_comm 1]
    · have hn : ∀ n, n - min n 1 = n - 1 := by omega
      have ht : ∀ n, (d :: added.filter (·.isError)).take n =
          [d].take n ++ (added.filter (·.isError)).take (n - 1) := by
        intro n
        rw [← List.singleton_append, List.take_append, List.length_singleton]
      rw [push_error ds hd]
      simp [hd, ht, hn, Nat.add_assoc, Nat.add_comm 1, ← Nat.sub_sub]

end BlockVocabulary.Diagnostics
