import BlockVocabulary.Descriptor
import Mathlib.Data.List.SplitBy
import Mathlib.Tactic.Common

/-!
The text reference as a text of paragraphs.

Descriptors of one category that follow one another make a run, and a run that cannot be made longer
makes a paragraph: its category, and a line for each descriptor. The reference is written in one
pass that remembers the last category only; it comes to the same as cutting the descriptors into
runs first. A category may come up again later and then has a paragraph of its own there.
-/

namespace BlockVocabulary

/-! ### Runs -/

/-- Descriptors of one category that follow one another. -/
structure CategoryRun where
  category : String
  descriptors : List Descriptor
  nonempty : descriptors ≠ []
  same : ∀ d ∈ descriptors, d.category = category

/-- The runs that the descriptors fall into, none of which can be made longer. -/
structure MaximalRuns (ds : List Descriptor) (runs : List CategoryRun) : Prop where
  flat : runs.flatMap (·.descriptors) = ds
  maximal : runs.IsChain fun g g' => g.category ≠ g'.category

/-- The line of a descriptor: two spaces and the signature, and if there is a description, two more
spaces and the description. -/
def referenceLine (d : Descriptor) : String :=
  if d.description = "" then "  " ++ d.signature ++ "\n"
  else "  " ++ d.signature ++ "  " ++ d.description ++ "\n"

namespace CategoryRun

def single (d : Descriptor) : CategoryRun := ⟨d.category, [d], by simp, by simp⟩

/-- The run with one more descriptor in front. -/
def extend (g : CategoryRun) (d : Descriptor) (h : d.category = g.category) : CategoryRun :=
  ⟨g.category, d :: g.descriptors, by simp, List.forall_mem_cons.mpr ⟨h, g.same⟩⟩

/-- Puts a descriptor in front of runs. -/
def push (d : Descriptor) : List CategoryRun → List CategoryRun
  | [] => [single d]
  | g :: gs => if h : d.category = g.category then g.extend d h :: gs else single d :: g :: gs

/-- The text of a run. -/
def paragraph (g : CategoryRun) : String :=
  g.category ++ ":\n" ++ String.join (g.descriptors.map referenceLine)

end CategoryRun

def categoryRuns (ds : List Descriptor) : List CategoryRun := ds.foldr CategoryRun.push []

lemma maximalRuns_push {ds : List Descriptor} {runs : List CategoryRun} (h : MaximalRuns ds runs)
    (d : Descriptor) : MaximalRuns (d :: ds) (CategoryRun.push d runs) := by
  obtain ⟨rfl, hmaximal⟩ := h
  cases runs with
  | nil => exact ⟨rfl, List.isChain_singleton _⟩
  | cons g gs =>
    rw [CategoryRun.push]
    split
    · refine ⟨rfl, ?_⟩
      rw [List.isChain_cons] at hmaximal ⊢
      exact hmaximal
    · next hne => exact ⟨rfl, hmaximal.cons_cons hne⟩

lemma maximalRuns_categoryRuns (ds : List Descriptor) : MaximalRuns ds (categoryRuns ds) := by
  induction ds with
  | nil => exact ⟨rfl, List.isChain_nil⟩
  | cons d ds ih => exact maximalRuns_push ih d

/-- A run has the category of any of its descriptors. -/
lemma CategoryRun.descriptors_injective :
    Function.Injective (CategoryRun.descriptors) := by
  rintro ⟨c, l, hne, hc⟩ ⟨c', l', hne', hc'⟩ (rfl : l = l')
  obtain ⟨d, hd⟩ := List.exists_mem_of_ne_nil l hne
  obtain rfl : c = c' := (hc d hd).symm.trans (hc' d hd)
  rfl

/-- There is one way to cut descriptors into maximal runs. -/
lemma MaximalRuns.descriptors_eq {ds : List Descriptor} {runs : List CategoryRun}
    (h : MaximalRuns ds runs) :
    runs.map (·.descriptors) = ds.splitBy fun d d' => d.category = d'.category := by
  refine (List.splitBy_eq_iff.mpr ⟨?_, ?_, ?_, ?_⟩).symm
  · rw [← List.flatMap_def, h.flat]
  · rintro hmem
    obtain ⟨g, -, hg⟩ := List.mem_map.mp hmem
    exact g.nonempty hg
  · intro l hl
    obtain ⟨g, -, rfl⟩ := List.mem_map.mp hl
    refine List.Pairwise.isChain (List.pairwise_of_forall_mem_list fun d hd d' hd' => ?_)
    exact decide_eq_true ((g.same d hd).trans (g.same d' hd').symm)
  · rw [List.isChain_map]
    refine h.maximal.imp fun g g' hne => ⟨g.nonempty, g'.nonempty, ?_⟩
    rw [decide_eq_false_iff_not, g.same _ (List.getLast_mem _), g'.same _ (List.head_mem _)]
    exact hne

lemma maximalRuns_iff {ds : List Descriptor} {runs : List CategoryRun} :
    MaximalRuns ds runs ↔ runs = categoryRuns ds := by
  constructor
  · intro h
    refine List.map_injective_iff.mpr CategoryRun.descriptors_injective ?_
    exact h.descriptors_eq.trans (maximalRuns_categoryRuns ds).descriptors_eq.symm
  · rintro rfl
    exact maximalRuns_categoryRuns ds

/-! ### What is written -/

/-- One thing that is written into the reference. -/
inductive ReferencePart where
  /-- An empty line, which ends a paragraph. -/
  | gap
  | header (category : String)
  | line (d : Descriptor)

namespace ReferencePart

def text : ReferencePart → String
  | gap => "\n"
  | header category => category ++ ":\n"
  | line d => referenceLine d

def header? : ReferencePart → Option String
  | header category => some category
  | _ => none

end ReferencePart

/-- What is written for descriptors that follow one of the category `current`, if they follow
any. -/
def partsAfter : Option String → List Descriptor → List ReferencePart
  | _, [] => []
  | current, d :: ds =>
    let header :=
      if current = some d.category then []
      else (if current.isSome then [.gap] else []) ++ [.header d.category]
    header ++ .line d :: partsAfter (some d.category) ds

def referenceParts (ds : List Descriptor) : List ReferencePart := partsAfter none ds

def CategoryRun.parts (g : CategoryRun) : List ReferencePart :=
  .header g.category :: g.descriptors.map ReferencePart.line

lemma line_eq (d : Descriptor) : d.line = referenceLine d := by
  rw [Descriptor.line, referenceLine]
  split <;> simp only [String.append_assoc, String.append_empty]

lemma join_text_partsAfter (current : Option String) (ds : List Descriptor) :
    String.join ((partsAfter current ds).map ReferencePart.text) = referenceAfter current ds := by
  induction ds generalizing current with
  | nil => rfl
  | cons d ds ih =>
    rw [partsAfter, referenceAfter, List.map_append, String.join_append, List.map_cons,
      String.join_cons, ih, line_eq, ← String.append_assoc]
    refine congrArg (· ++ _) (congrArg₂ _ ?_ rfl)
    split
    · rfl
    · split <;> simp [ReferencePart.text, String.append_assoc]

/-- In the category of what went before only lines are written. -/
lemma partsAfter_same {category : String} {l : List Descriptor}
    (h : ∀ d ∈ l, d.category = category) (ds : List Descriptor) :
    partsAfter (some category) (l ++ ds) =
      l.map ReferencePart.line ++ partsAfter (some category) ds := by
  induction l with
  | nil => rfl
  | cons d l ih =>
    obtain ⟨rfl, hl⟩ := List.forall_mem_cons.mp h
    rw [List.cons_append, partsAfter, if_pos rfl, ih hl]
    rfl

/-- A run of another category begins with its header. -/
lemma partsAfter_run {current : Option String} {g : CategoryRun} (h : current ≠ some g.category)
    (ds : List Descriptor) :
    partsAfter current (g.descriptors ++ ds) =
      (if current.isSome then [.gap] else []) ++ (g.parts ++ partsAfter (some g.category) ds) := by
  obtain ⟨category, l, hne, hsame⟩ := g
  obtain ⟨d, l, rfl⟩ := List.exists_cons_of_ne_nil hne
  obtain ⟨rfl, hl⟩ := List.forall_mem_cons.mp hsame
  rw [List.cons_append, partsAfter, if_neg h, partsAfter_same hl, CategoryRun.parts]
  simp

/-- All later runs are written with a gap before each. -/
lemma partsAfter_runs {g : CategoryRun} {runs : List CategoryRun}
    (h : (g :: runs).IsChain fun g g' => g.category ≠ g'.category) :
    g.parts ++ partsAfter (some g.category) (runs.flatMap (·.descriptors)) =
      [ReferencePart.gap].intercalate ((g :: runs).map CategoryRun.parts) := by
  induction runs generalizing g with
  | nil => simp [partsAfter]
  | cons g' runs ih =>
    obtain ⟨hne, hrest⟩ := List.isChain_cons_cons.mp h
    have hcategory : some g.category ≠ some g'.category := fun heq => hne (Option.some.inj heq)
    rw [List.flatMap_cons, partsAfter_run hcategory, ih hrest, List.map_cons, List.map_cons,
      List.map_cons, List.intercalate_cons_cons, List.append_assoc]
    rfl

/-- **What is written are the runs**, with a gap between any two. -/
lemma referenceParts_eq (ds : List Descriptor) :
    referenceParts ds =
      [ReferencePart.gap].intercalate ((categoryRuns ds).map CategoryRun.parts) := by
  obtain ⟨hflat, hmaximal⟩ := maximalRuns_categoryRuns ds
  generalize categoryRuns ds = runs at hflat hmaximal ⊢
  subst hflat
  cases runs with
  | nil => rfl
  | cons g runs =>
    rw [referenceParts, List.flatMap_cons, partsAfter_run (Option.some_ne_none _).symm,
      partsAfter_runs hmaximal]
    rfl

/-! ### The text -/

lemma join_text_parts (g : CategoryRun) :
    String.join (g.parts.map ReferencePart.text) = g.paragraph := by
  rw [CategoryRun.parts, List.map_cons, String.join_cons, List.map_map]
  rfl

lemma join_text_intercalate (l : List (List ReferencePart)) :
    String.join (([ReferencePart.gap].intercalate l).map ReferencePart.text) =
      "\n".intercalate (l.map fun parts => String.join (parts.map ReferencePart.text)) := by
  induction l with
  | nil => rfl
  | cons parts l ih =>
    cases l with
    | nil => simp
    | cons parts' l =>
      rw [List.intercalate_cons_cons, List.map_append, List.map_append, String.join_append,
        String.join_append, ih]
      simp only [List.map_cons, String.intercalate_cons_cons]
      rfl

lemma header?_intercalate (runs : List CategoryRun) :
    ([ReferencePart.gap].intercalate (runs.map CategoryRun.parts)).filterMap
      ReferencePart.header? = runs.map (·.category) := by
  have hrun : ∀ g : CategoryRun, g.parts.filterMap ReferencePart.header? = [g.category] := by
    intro g
    have hlines : (g.descriptors.map ReferencePart.line).filterMap ReferencePart.header? = [] := by
      simp [ReferencePart.header?]
    rw [CategoryRun.parts, List.filterMap_cons, hlines]
    rfl
  induction runs with
  | nil => rfl
  | cons g runs ih =>
    cases runs with
    | nil => simp [hrun]
    | cons g' runs =>
      rw [List.map_cons, List.map_cons, List.intercalate_cons_cons, List.filterMap_append,
        List.filterMap_append, hrun, ← List.map_cons, ih]
      rfl

/-- **The text reference has a paragraph for each maximal run**, an empty line between any two, and
nothing else. What the pass writes is that text, with one header for each of the runs. It is empty
exactly if there is no descriptor. -/
theorem referenceText_paragraphs (ds : List Descriptor) :
    (∀ runs, MaximalRuns ds runs ↔ runs = categoryRuns ds) ∧
    referenceText ds = "\n".intercalate ((categoryRuns ds).map CategoryRun.paragraph) ∧
    referenceText ds = String.join ((referenceParts ds).map ReferencePart.text) ∧
    (referenceParts ds).filterMap ReferencePart.header? = (categoryRuns ds).map (·.category) ∧
    (referenceText ds = "" ↔ ds = []) := by
  have hparts : referenceText ds = String.join ((referenceParts ds).map ReferencePart.text) :=
    (join_text_partsAfter none ds).symm
  refine ⟨fun _ => maximalRuns_iff, ?_, hparts, ?_, ?_⟩
  · rw [hparts, referenceParts_eq, join_text_intercalate, List.map_map]
    exact congrArg _ (List.map_congr_left fun g _ => join_text_parts g)
  · rw [referenceParts_eq, header?_intercalate]
  · cases ds with
    | nil => simp [referenceText, referenceAfter]
    | cons d ds => simp [referenceText, referenceAfter, String.append_eq_empty_iff]

/-- A category that comes up again has a second paragraph. -/
example :
    referenceText
      [{ name := "and", category := "Logic", description := "Both.",
         parameters := [⟨"A", "boolean"⟩, ⟨"B", "boolean"⟩], returns := some "boolean" },
        { name := "stop", category := "", description := "", parameters := [], returns := none },
        { name := "not", category := "Logic", description := "",
          parameters := [⟨"A", "boolean"⟩], returns := some "boolean" }] =
      "Logic:\n  and(A: boolean, B: boolean) -> boolean  Both.\n\n:\n  stop()\n\n" ++
        "Logic:\n  not(A: boolean) -> boolean\n" := by
  decide

end BlockVocabulary
