import BlockVocabulary.Descriptor
import Mathlib.Data.List.Induction
import Mathlib.Data.List.Nodup
import Mathlib.Tactic.Common

/-!
Walks over a toolbox that stop at the first mention of a name.

The descriptors and the definitions are found on a walk each. Both meet the registered blocks that the
toolbox mentions, each once, in the order of first mentions; and categories at the end of a toolbox
add the blocks that were not mentioned before.
-/

namespace BlockVocabulary

/-! ### First entries of a list -/

/-- Leaving out names before or after the first entries are taken makes no difference. -/
lemma firsts_filter {α : Type} (p : String → Bool) (l : List (String × α)) :
    firsts (l.filter (p ·.1)) = (firsts l).filter (p ·.1) := by
  induction l with
  | nil => rfl
  | cons e l ih =>
    have hfirsts : firsts (e :: l) = e :: (firsts l).filter (·.1 ≠ e.1) := rfl
    by_cases hp : p e.1 = true
    · have hl : (e :: l).filter (p ·.1) = e :: l.filter (p ·.1) := List.filter_cons_of_pos hp
      rw [hl, firsts, ih, hfirsts, List.filter_cons_of_pos (by simpa using hp), List.filter_filter,
        List.filter_filter]
      simp only [Bool.and_comm]
    · have hl : (e :: l).filter (p ·.1) = l.filter (p ·.1) := List.filter_cons_of_neg hp
      rw [hl, ih, hfirsts, List.filter_cons_of_neg (by simpa using hp), List.filter_filter]
      refine List.filter_congr fun e' _ => ?_
      by_cases he : e'.1 = e.1 <;> simp [he, hp]

lemma map_fst_firsts {α : Type} (l : List (String × α)) :
    (firsts l).map (·.1) = (l.map (·.1)).eraseDups := by
  induction hn : l.length using Nat.strongRecOn generalizing l with
  | ind n ih =>
    cases l with
    | nil => rfl
    | cons e l =>
      have hlt : (l.filter (·.1 ≠ e.1)).length < n := by
        have hle := List.length_filter_le (fun e' : String × α => decide (e'.1 ≠ e.1)) l
        rw [List.length_cons] at hn
        omega
      have hfilter : (firsts l).filter (·.1 ≠ e.1) = firsts (l.filter (·.1 ≠ e.1)) :=
        (firsts_filter (fun k => decide (k ≠ e.1)) l).symm
      rw [firsts, List.map_cons, hfilter, ih _ hlt _ rfl, List.map_cons, List.eraseDups_cons]
      congr 2
      rw [List.filter_map]
      exact congrArg _ (List.filter_congr fun e' _ => by simp [BEq.beq])

lemma eraseDups_of_nodup {l : List String} (h : l.Nodup) : l.eraseDups = l := by
  induction l with
  | nil => rfl
  | cons a l ih =>
    obtain ⟨ha, hl⟩ := List.nodup_cons.mp h
    have hall : l.filter (fun b => !b == a) = l := by
      rw [List.filter_eq_self]
      intro b hb
      have hne : b ≠ a := fun he => ha (he ▸ hb)
      simp [hne]
    rw [List.eraseDups_cons, hall, ih hl]

/-- The first entries of a list in two parts: in the second part a name is new only if the first part
does not have it. -/
lemma firsts_append {α : Type} (l m : List (String × α)) :
    firsts (l ++ m) = firsts l ++ (firsts m).filter (·.1 ∉ l.map (·.1)) := by
  induction l with
  | nil => simp [firsts]
  | cons e l ih =>
    have hcons : firsts (e :: l) = e :: (firsts l).filter (·.1 ≠ e.1) := rfl
    rw [List.cons_append, firsts, ih, List.filter_append, List.filter_filter, hcons,
      List.cons_append]
    congr 2
    refine List.filter_congr fun e' _ => ?_
    by_cases he : e'.1 = e.1 <;> simp [he]

/-- Each name stands where the list has it first. -/
lemma pairwise_idxOf_eraseDups (l : List String) :
    l.eraseDups.Pairwise fun a b => l.idxOf a < l.idxOf b := by
  induction l using List.reverseRecOn with
  | nil => exact List.Pairwise.nil
  | append_singleton l a ih =>
    -- what was there keeps its place, and a name that is new stands behind it
    have hkeep : l.eraseDups.Pairwise fun b c => (l ++ [a]).idxOf b < (l ++ [a]).idxOf c := by
      refine ih.imp_of_mem fun hb hc hlt => ?_
      rwa [List.idxOf_append_of_mem (List.mem_eraseDups.mp hb),
        List.idxOf_append_of_mem (List.mem_eraseDups.mp hc)]
    rw [List.eraseDups_append]
    by_cases ha : a ∈ l
    · simpa [List.removeAll, ha] using hkeep
    · have hnew : [a].removeAll l = [a] := by simp [List.removeAll, ha]
      rw [hnew, eraseDups_of_nodup (List.nodup_singleton a), List.pairwise_append]
      refine ⟨hkeep, List.pairwise_singleton _ _, fun b hb c hc => ?_⟩
      obtain rfl := List.mem_singleton.mp hc
      have hb : b ∈ l := List.mem_eraseDups.mp hb
      rw [List.idxOf_append_of_mem hb, List.idxOf_append_of_notMem ha]
      exact Nat.lt_add_right _ (List.idxOf_lt_length_of_mem hb)

lemma nodup_eraseDups (l : List String) : l.eraseDups.Nodup := by
  refine (pairwise_idxOf_eraseDups l).imp fun hlt heq => ?_
  rw [heq] at hlt
  exact Nat.lt_irrefl _ hlt

/-! ### Walks over a toolbox -/

lemma map_fst_mentions (t : Toolbox) : t.mentions.map (·.1) = t.blockTypes := by
  simp [Toolbox.mentions, Toolbox.blockTypes, List.map_flatMap, Function.comp_def]

lemma map_fst_firsts_mentions (t : Toolbox) :
    (firsts t.mentions).map (·.1) = t.blockTypes.eraseDups := by
  rw [map_fst_firsts, map_fst_mentions]

/-- The names that the categories mention first are names that they mention. -/
lemma mem_blockTypes_of_mem_firsts {t : Toolbox} {m : String × String}
    (h : m ∈ firsts t.mentions) : m.1 ∈ t.blockTypes :=
  List.mem_eraseDups.mp (map_fst_firsts_mentions t ▸ List.mem_map_of_mem h)

lemma names_descriptors_toolbox (t : Toolbox) (blocks : Table BlockSchema) :
    (t.descriptors blocks).map (·.name) =
      t.blockTypes.eraseDups.filterMap fun n => (blocks.get? n).map (·.type) := by
  rw [← map_fst_firsts_mentions, List.filterMap_map, Toolbox.descriptors, Toolbox.registered,
    List.map_map, List.map_filterMap]
  simp [Function.comp_def, Descriptor.ofSchema]

/-- Only what the toolbox mentions is looked up. -/
lemma registered_congr {t : Toolbox} {blocks blocks' : Table BlockSchema}
    (h : ∀ n ∈ t.blockTypes, blocks.get? n = blocks'.get? n) :
    t.registered blocks = t.registered blocks' := by
  refine List.filterMap_congr fun m hm => ?_
  rw [h m.1 (mem_blockTypes_of_mem_firsts hm)]

/-! ### The names that are found -/

/-- The names of registered blocks, each where the toolbox mentions it first. -/
def Toolbox.registeredNames (t : Toolbox) (blocks : Table BlockSchema) : List String :=
  t.blockTypes.eraseDups.filter blocks.contains

/-- There is one definition for each of the names. -/
lemma map_some_definitions (t : Toolbox) (blocks : Table BlockSchema) :
    (t.definitions blocks).map some =
      (t.registeredNames blocks).map fun n => (blocks.get? n).map BlockSchema.definition := by
  rw [Toolbox.definitions, List.map_filterMap_some_eq_filter_map_isSome, List.filter_map,
    Toolbox.registeredNames]
  exact congrArg _ (List.filter_congr fun n _ => Option.isSome_map)

lemma definitions_eq_filterMap (t : Toolbox) (blocks : Table BlockSchema) :
    t.definitions blocks =
      (t.registeredNames blocks).filterMap fun n => (blocks.get? n).map BlockSchema.definition := by
  rw [Toolbox.registeredNames, List.filterMap_filter]
  refine List.filterMap_congr fun n _ => ?_
  rcases hn : blocks.get? n with _ | s <;> simp [Table.contains, hn]

lemma pairwise_registeredNames (t : Toolbox) (blocks : Table BlockSchema) :
    (t.registeredNames blocks).Pairwise fun m n => t.blockTypes.idxOf m < t.blockTypes.idxOf n :=
  (pairwise_idxOf_eraseDups t.blockTypes).sublist List.filter_sublist

lemma nodup_registeredNames (t : Toolbox) (blocks : Table BlockSchema) :
    (t.registeredNames blocks).Nodup :=
  (nodup_eraseDups t.blockTypes).filter _

lemma mem_registeredNames {t : Toolbox} {blocks : Table BlockSchema} {n : String} :
    n ∈ t.registeredNames blocks ↔ n ∈ t.blockTypes ∧ blocks.contains n = true := by
  rw [Toolbox.registeredNames, List.mem_filter, List.mem_eraseDups]

/-! ### Mentions at the end of a toolbox -/

/-- The toolbox with further categories at its end. -/
def Toolbox.extend (t : Toolbox) (categories : List ToolboxCategory) : Toolbox :=
  { t with contents := t.contents ++ categories }

/-- Categories at the end add the registered blocks that were not mentioned before. -/
lemma registered_extend (t u : Toolbox) (blocks : Table BlockSchema) :
    (t.extend u.contents).registered blocks = t.registered blocks ++
      ((firsts u.mentions).filter (·.1 ∉ t.blockTypes)).filterMap fun m =>
        (blocks.get? m.1).map fun s => (s, m.2) := by
  have hmentions : (t.extend u.contents).mentions = t.mentions ++ u.mentions :=
    List.flatMap_append
  rw [Toolbox.registered, hmentions, firsts_append, List.filterMap_append, map_fst_mentions]
  rfl

section

variable {t : Toolbox} {blocks : Table BlockSchema}
  (h : ∀ n, blocks.contains n = true → n ∈ t.blockTypes)

include h

lemma get?_eq_none_of_not_mem_blockTypes {n : String} (hn : n ∉ t.blockTypes) :
    blocks.get? n = none := by
  by_contra hsome
  exact hn (h n (Option.isSome_iff_ne_none.mpr hsome))

/-- If a toolbox mentions all registered blocks, further categories describe nothing new. -/
lemma descriptors_extend (u : Toolbox) :
    (t.extend u.contents).descriptors blocks = t.descriptors blocks := by
  have hnew : ((firsts u.mentions).filter (·.1 ∉ t.blockTypes)).filterMap
      (fun m => (blocks.get? m.1).map fun s => (s, m.2)) = [] := by
    rw [List.filterMap_eq_nil_iff]
    intro m hm
    have hnot : m.1 ∉ t.blockTypes := of_decide_eq_true (List.mem_filter.mp hm).2
    rw [get?_eq_none_of_not_mem_blockTypes h hnot, Option.map_none]
  rw [Toolbox.descriptors, registered_extend, hnew, List.append_nil, Toolbox.descriptors]

/-- They define nothing new either. -/
lemma definitions_extend (u : Toolbox) :
    (t.extend u.contents).definitions blocks = t.definitions blocks := by
  have htypes : (t.extend u.contents).blockTypes = t.blockTypes ++ u.blockTypes :=
    List.flatMap_append
  have hnew : (u.blockTypes.removeAll t.blockTypes).eraseDups.filterMap
      (fun n => (blocks.get? n).map BlockSchema.definition) = [] := by
    rw [List.filterMap_eq_nil_iff]
    intro n hn
    have hnot : n ∉ t.blockTypes := by simpa using
      (List.mem_filter.mp (List.mem_eraseDups.mp hn)).2
    rw [get?_eq_none_of_not_mem_blockTypes h hnot, Option.map_none]
  rw [Toolbox.definitions, htypes, List.eraseDups_append, List.filterMap_append, hnew,
    List.append_nil, Toolbox.definitions]

end

end BlockVocabulary
