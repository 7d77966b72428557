import BlockVocabulary.Outcome
import Mathlib.Data.List.Nodup
import Mathlib.Tactic.Common

/-!
Names that occur more than once.

While names are gone through, one list holds those that have occurred and another those that have
occurred again. A name is reported when it moves from the first to the second, which is at its second
occurrence and never after.
-/

namespace BlockVocabulary

/-- The names at their second occurrences, each with its position: exactly one equal name stands
before it. -/
def secondOccurrences (names : List String) : List (String × ℕ) :=
  names.zipIdx.filter fun (n, i) => (names.take i).count n = 1

/-- The lists kept after the names `before`. -/
structure Keeps (before noted reported : List String) : Prop where
  noted : ∀ n, n ∈ noted ↔ 1 ≤ before.count n
  reported : ∀ n, n ∈ reported ↔ 2 ≤ before.count n

lemma count_append_singleton (before : List String) (n m : String) :
    (before ++ [n]).count m = before.count m + if n = m then 1 else 0 := by
  rw [List.count_append, List.count_singleton]
  simp

namespace Keeps

variable {before noted reported : List String} {n : String}

lemma empty : Keeps [] [] [] := ⟨by simp, by simp⟩

/-- A name that is new is noted. -/
lemma note (h : Keeps before noted reported) (hn : n ∉ noted) :
    Keeps (before ++ [n]) (n :: noted) reported := by
  have hcount := mt (h.noted n).mpr hn
  refine ⟨fun m => ?_, fun m => ?_⟩
  · rw [List.mem_cons, h.noted m, count_append_singleton]
    by_cases hm : n = m
    · simp [hm]
    · simp [hm, Ne.symm hm]
  · rw [h.reported m, count_append_singleton]
    by_cases hm : n = m
    · rw [if_pos hm, ← hm]
      omega
    · simp [hm]

/-- A name that occurs again is reported. -/
lemma report (h : Keeps before noted reported) (hn : n ∈ noted) :
    Keeps (before ++ [n]) noted (n :: reported) := by
  have hcount := (h.noted n).mp hn
  refine ⟨fun m => ?_, fun m => ?_⟩
  · rw [h.noted m, count_append_singleton]
    by_cases hm : n = m
    · rw [if_pos hm, ← hm]
      omega
    · simp [hm]
  · rw [List.mem_cons, h.reported m, count_append_singleton]
    by_cases hm : n = m
    · simp only [hm, true_or, if_true, true_iff]
      rw [← hm]
      omega
    · simp [hm, Ne.symm hm]

/-- A name that has been reported changes nothing. -/
lemma pass (h : Keeps before noted reported) (hn : n ∈ noted) (hr : n ∈ reported) :
    Keeps (before ++ [n]) noted reported := by
  have hkept := h.report hn
  refine ⟨hkept.noted, fun m => ?_⟩
  rw [← hkept.reported m, List.mem_cons]
  exact ⟨Or.inr, fun hm => hm.elim (fun h => h ▸ hr) id⟩

/-- **A name is reported when it occurs for the second time**, and the lists are kept. -/
lemma step (h : Keeps before noted reported) (n : String) (ns : List String) :
    ∃ noted' reported', Keeps (before ++ [n]) noted' reported' ∧
      repeatsAfter noted reported (n :: ns) =
        (if before.count n = 1 then [n] else []) ++ repeatsAfter noted' reported' ns := by
  have hnoted := h.noted n
  have hreported := h.reported n
  rw [repeatsAfter]
  by_cases hn : n ∈ noted
  · by_cases hr : n ∈ reported
    · have hcount : before.count n ≠ 1 := by have := hreported.mp hr; omega
      exact ⟨noted, reported, h.pass hn hr, by rw [if_pos hn, if_pos hr, if_neg hcount]; rfl⟩
    · have hcount : before.count n = 1 := by
        have := hnoted.mp hn
        have := mt hreported.mpr hr
        omega
      exact ⟨noted, n :: reported, h.report hn, by
        rw [if_pos hn, if_neg hr, if_pos hcount, List.singleton_append]⟩
  · have hcount : before.count n ≠ 1 := by have := mt hnoted.mpr hn; omega
    exact ⟨n :: noted, reported, h.note hn, by rw [if_neg hn, if_neg hcount]; rfl⟩

end Keeps

/-- Names are reported where they stand for the second time. -/
lemma repeatsAfter_eq {before noted reported : List String} (h : Keeps before noted reported)
    (names : List String) :
    repeatsAfter noted reported names =
      ((names.zipIdx before.length).filter fun (n, i) =>
        ((before ++ names).take i).count n = 1).map (·.1) := by
  -- on the names still to come; those before them are what the lists keep
  induction names generalizing before noted reported with
  | nil => rfl
  | cons n ns ih =>
    obtain ⟨noted', reported', hkept, hstep⟩ := h.step n ns
    have htake : (before ++ n :: ns).take before.length = before := List.take_left
    have hlength : (before ++ [n]).length = before.length + 1 := by simp
    rw [hstep, ih hkept, hlength, ← List.append_cons, List.zipIdx_cons, List.filter_cons]
    simp only [htake, decide_eq_true_eq]
    split
    · rw [List.map_cons, List.singleton_append]
    · rw [List.nil_append]

/-- **A name is reported at its second occurrence.** -/
lemma repeats_eq (names : List String) : repeats names = (secondOccurrences names).map (·.1) :=
  repeatsAfter_eq .empty names

/-! ### Which names are reported -/

lemma mem_repeatsAfter_iff {before noted reported : List String} (h : Keeps before noted reported)
    (names : List String) (m : String) :
    m ∈ repeatsAfter noted reported names ↔
      before.count m ≤ 1 ∧ 2 ≤ before.count m + names.count m := by
  induction names generalizing before noted reported with
  | nil =>
    rw [repeatsAfter, List.count_nil]
    simp only [List.not_mem_nil, false_iff]
    omega
  | cons n ns ih =>
    obtain ⟨noted', reported', hkept, hstep⟩ := h.step n ns
    rw [hstep, List.mem_append, ih hkept, count_append_singleton]
    by_cases hm : n = m
    · subst hm
      rw [List.count_cons_self, if_pos rfl]
      by_cases hcount : before.count n = 1
      · simp only [hcount, if_true, List.mem_singleton, true_or, true_iff]
        omega
      · simp only [hcount, if_false, List.not_mem_nil, false_or]
        omega
    · have hout : m ∉ if before.count n = 1 then [n] else [] := by
        split <;> simp [Ne.symm hm]
      rw [List.count_cons_of_ne hm, if_neg hm, Nat.add_zero]
      exact or_iff_right hout

lemma nodup_repeatsAfter {before noted reported : List String} (h : Keeps before noted reported)
    (names : List String) : (repeatsAfter noted reported names).Nodup := by
  induction names generalizing before noted reported with
  | nil => exact List.nodup_nil
  | cons n ns ih =>
    obtain ⟨noted', reported', hkept, hstep⟩ := h.step n ns
    rw [hstep]
    split
    · next hcount =>
      refine List.nodup_cons.mpr ⟨fun hmem => ?_, ih hkept⟩
      have hless := ((mem_repeatsAfter_iff hkept ns n).mp hmem).1
      rw [count_append_singleton, if_pos rfl] at hless
      omega
    · exact ih hkept

lemma mem_repeats_iff (names : List String) (n : String) : n ∈ repeats names ↔ 2 ≤ names.count n := by
  have h := mem_repeatsAfter_iff .empty names n
  rw [List.count_nil, Nat.zero_add] at h
  exact h.trans (and_iff_right (Nat.zero_le 1))

lemma nodup_repeats (names : List String) : (repeats names).Nodup := nodup_repeatsAfter .empty names

/-- No name is reported exactly if none occurs twice. -/
lemma repeats_eq_nil_iff (names : List String) : repeats names = [] ↔ names.Nodup := by
  simp only [List.eq_nil_iff_forall_not_mem, mem_repeats_iff, List.nodup_iff_count_le_one]
  exact forall_congr' fun n => by omega

end BlockVocabulary
