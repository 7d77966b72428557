import BlockVocabulary.Proofs.Permissive
import BlockVocabulary.Proofs.Policies

/-!
The warnings of a compile.

Which warnings are due for a declaration can be read off the declaration, once it is known whether its
name has been accepted before. The warnings of a compile are those due for its declarations, one
after the other, also where a declaration fails after it gave rise to them.
-/

namespace BlockVocabulary

/-- The warnings due for an entry of a category; `declared` says that an entry of the same name has
been accepted before. -/
def Entry.dueWarnings (o : Options) (category : String) (declared : Bool) (e : Entry) :
    List Diagnostic :=
  let origin := e.origin category
  (if o.duplicates = .warn ∧ declared = true then
    [Diagnostic.warning Code.duplicateEntry
      ("block type '" ++ e.name ++ "' is declared more than once") origin]
  else []) ++
  if (o.duplicates = .strict ∧ declared = true) ∨ (layOut o.toLayoutOptions e.template).isOk = false
  then []
  else
    (if o.unknownFields = .permissive then
      (unknownPositions 0 e.template).map fun i =>
        Diagnostic.warning Code.unknownField
          "skipped a template field that is not text, widget or connection"
          { origin with field := some i }
    else []) ++
    if o.duplicates = .warn then
      (secondOccurrences ((slots e.template).map (·.name))).map fun (name, _) =>
        Diagnostic.warning Code.duplicateConnection
          ("connection '" ++ name ++ "' appears more than once") origin
    else []

/-- What a layout leaves out is due only if the policy permits it. -/
lemma skipped_layOut_of_policy {o : LayoutOptions} {template : List Field} {l : Layout}
    (h : layOut o template = .ok l) :
    l.skipped = if o.unknownFields = .permissive then unknownPositions 0 template else [] := by
  rw [skipped_layOut h]
  rcases hp : o.unknownFields with _ | _
  · have hfaults := (reportsFirst_layOut o template).eq_nil h
    rw [hp] at hfaults
    exact (unknownPositions_eq_nil_iff 0 template).mpr (isRecognized_of_templateFaults hfaults)
  · rfl

/-- Names that several connections share are warned about at their second occurrences. -/
lemma connectionWarnings_eq {o : LayoutOptions} {template : List Field} {l : Layout}
    (h : layOut o template = .ok l) (p : DuplicatePolicy) (origin : Origin) :
    p.connectionWarnings origin l =
      if p = .warn then
        (secondOccurrences ((slots template).map (·.name))).map fun (name, _) =>
          Diagnostic.warning Code.duplicateConnection
            ("connection '" ++ name ++ "' appears more than once") origin
      else [] := by
  cases p with
  | warn =>
    rw [DuplicatePolicy.connectionWarnings, repeats_eq, (layOut_content h).2.2.2, List.map_map]
    rfl
  | strict => rfl

/-- **An outcome records the warnings that are due**, whether or not it fails. -/
lemma warnings_outcome (o : Options) (category colour : String) (declared : Bool) (e : Entry) :
    (e.outcome o category colour declared).warnings = e.dueWarnings o category declared := by
  have hv := verdict_outcome o category colour declared e
  generalize e.outcome o category colour declared = out at hv ⊢
  have hname : o.duplicates.nameWarnings (e.origin category) declared =
      if o.duplicates = .warn ∧ declared = true then
        [Diagnostic.warning Code.duplicateEntry
          ("block type '" ++ e.name ++ "' is declared more than once") (e.origin category)]
      else [] := by
    rcases o.duplicates <;> cases declared <;> rfl
  -- a layout gives rise to the same warnings whatever becomes of the declaration afterwards
  have hlayout : ∀ l, (o.duplicates = .strict → declared = false) →
      layOut o.toLayoutOptions e.template = .ok l →
      o.duplicates.layoutWarnings (e.origin category) declared l =
        e.dueWarnings o category declared := by
    intro l hd hl
    have hgo : ¬((o.duplicates = .strict ∧ declared = true) ∨
        (layOut o.toLayoutOptions e.template).isOk = false) := by
      rw [hl]
      rintro (h | h)
      · rw [hd h.1] at h
        cases h.2
      · cases h
    rw [DuplicatePolicy.layoutWarnings, Entry.dueWarnings]
    simp only
    rw [if_neg hgo, hname, connectionWarnings_eq hl, skipped_layOut_of_policy hl,
      List.append_assoc]
    congr 2
    split <;> rfl
  cases hv with
  | declaredBefore hp hd => simp [Entry.dueWarnings, hp, hd]
  | noLayout hd hl =>
    have hstop : (o.duplicates = .strict ∧ declared = true) ∨
        (layOut o.toLayoutOptions e.template).isOk = false := Or.inr (by rw [hl]; rfl)
    rw [Entry.dueWarnings]
    simp only
    rw [if_pos hstop, List.append_nil, hname]
  | repeatedConnection hp hd hl hr => exact hlayout _ (fun _ => hd) hl
  | noShape hd hl hr ha => exact hlayout _ hd hl
  | accepted hd hl hr ha => exact hlayout _ hd hl

/-- Under the strict policy only what a layout leaves out is warned about. -/
lemma code_dueWarnings_of_strict {o : Options} (hp : o.duplicates = .strict) (category : String)
    (declared : Bool) (e : Entry) :
    ∀ w ∈ e.dueWarnings o category declared, w.code = Code.unknownField := by
  intro w hw
  simp only [Entry.dueWarnings, hp, reduceCtorEq, false_and, if_false, List.nil_append,
    List.append_nil] at hw
  split at hw
  · cases hw
  · split at hw
    · obtain ⟨i, -, rfl⟩ := List.mem_map.mp hw
      rfl
    · cases hw

/-! ### A compile -/

/-- The warnings of a declaration are those due for it. It counts as declared before if a declaration
of its name before it was accepted. -/
lemma warnings_judged (o : Options) (vocabulary : List Category) (i : ℕ) :
    ((compile o vocabulary).judged.map (·.2.warnings))[i]? =
      ((declarations vocabulary).zipIdx.map fun (d, i) =>
        d.2.dueWarnings o d.1.name
          (((compile o vocabulary).judged.take i).any (·.2.registers d.2.name)))[i]? := by
  have hnamed : ∀ out ∈ ((compile o vocabulary).judged.take i).map (·.2), out.Named := by
    intro out hout
    have hmem : out ∈ (compile o vocabulary).outcomes := by
      rw [outcomes_eq_judged]
      exact List.map_subset _ (List.take_subset i _) hout
    exact named_of_mem_outcomes hmem
  have hjudged := getElem?_judge o [] (declarations vocabulary) i
  rw [← judged_compile, List.nil_append] at hjudged
  rw [List.getElem?_map, hjudged, List.getElem?_map, List.getElem?_zipIdx, Option.map_map,
    Option.map_map]
  refine Option.map_congr fun d _ => ?_
  simp only [Function.comp_apply, Nat.zero_add]
  rw [warnings_outcome, contains_acceptedNames hnamed, List.any_map]
  rfl

/-- **The warnings of a compile are those due for its declarations, in order.** All of them are kept
and counted. Every name that several connections share is warned about once, at its second
occurrence. Under the strict policy no warning is about a name. -/
theorem warnings_compile (o : Options) (vocabulary : List Category) :
    let c := compile o vocabulary
    c.diagnostics.warnings =
      ((declarations vocabulary).zipIdx.flatMap fun (d, i) =>
        d.2.dueWarnings o d.1.name ((c.judged.take i).any (·.2.registers d.2.name))) ∧
    c.diagnostics.totalWarnings = c.diagnostics.warnings.length ∧
    (∀ names : List String,
      (secondOccurrences names).Pairwise (·.2 < ·.2) ∧
      ((secondOccurrences names).map (·.1)).Nodup ∧
      ∀ n, n ∈ (secondOccurrences names).map (·.1) ↔ 2 ≤ names.count n) ∧
    (o.duplicates = .strict → ∀ w ∈ c.diagnostics.warnings,
      w.code ≠ Code.duplicateEntry ∧ w.code ≠ Code.duplicateConnection) := by
  intro c
  have hdue : c.diagnostics.warnings =
      (declarations vocabulary).zipIdx.flatMap fun (d, i) =>
        d.2.dueWarnings o d.1.name ((c.judged.take i).any (·.2.registers d.2.name)) := by
    have hlists := List.ext_getElem? (warnings_judged o vocabulary)
    calc c.diagnostics.warnings
        = (c.judged.map (·.2.warnings)).flatten := by
          rw [diagnostics_compile, outcomes_eq_judged, List.flatMap_map, List.flatMap_def]
      _ = _ := by rw [hlists, List.flatMap_def]
  refine ⟨hdue, by rw [diagnostics_compile], fun names => ⟨?_, ?_, fun n => ?_⟩, ?_⟩
  · exact (pairwise_zipIdx names 0).filter _
  · rw [← repeats_eq]
    exact nodup_repeats names
  · rw [← repeats_eq]
    exact mem_repeats_iff names n
  · intro hp w hw
    rw [hdue] at hw
    obtain ⟨⟨d, i⟩, -, hw⟩ := List.mem_flatMap.mp hw
    rw [code_dueWarnings_of_strict hp _ _ _ w hw]
    decide

/-- Four declarations of one name, the first of which fails before the name is accepted, and the third
after it has been warned about. -/
def restless : List Category :=
  [{ name := "Time",
     entries :=
      [{ name := "wait", template := [.connection { tag := some "date", name := "UNTIL" }] },
        { name := "wait", template := [.text "wait"] },
        { name := "wait",
          template :=
            [.connection { name := "A" }, .connection { name := "B" }, .unrecognized .null,
              .connection { name := "B" }, .connection { name := "A" },
              .connection { name := "B" }],
          output := some { tag := some "void" } },
        { name := "wait", template := [.text "wait a while"] }] }]

theorem warnings_compile_restless :
    (compile { unknownFields := .permissive } restless).diagnostics.warnings.map
        (fun w => (w.message, w.origin.field)) =
      [("block type 'wait' is declared more than once", none),
        ("skipped a template field that is not text, widget or connection", some 2),
        ("connection 'B' appears more than once", none),
        ("connection 'A' appears more than once", none),
        ("block type 'wait' is declared more than once", none)] ∧
    let o : Options := { duplicates := .strict, unknownFields := .permissive }
    o.duplicates = .strict ∧ ∀ w ∈ (compile o restless).diagnostics.warnings,
      w.code ≠ Code.duplicateEntry ∧ w.code ≠ Code.duplicateConnection := by
  obtain ⟨hwarnings, -, -, -⟩ := warnings_compile { unknownFields := .permissive } restless
  obtain ⟨-, -, -, hstrict⟩ :=
    warnings_compile { duplicates := .strict, unknownFields := .permissive } restless
  exact ⟨by rw [hwarnings]; decide +kernel, rfl, hstrict rfl⟩

end BlockVocabulary
