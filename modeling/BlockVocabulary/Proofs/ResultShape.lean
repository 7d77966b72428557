import BlockVocabulary.Proofs.Accounting
import BlockVocabulary.TextInterface

/-!
The shape of a result.

A result is made in three places: for options that are none, for a document that is no vocabulary,
and for a vocabulary, however many of its entries fail. The first two leave nothing but one error at
the document, under a code of its own. It tells them from the third, in which no entry is reported
under it.
-/

namespace BlockVocabulary

/-! ### Codes -/

/-- The codes under which entries are reported. -/
def Code.ofEntries : List Code :=
  [unsupportedType, unknownField, duplicateEntry, duplicateConnection]

lemma code_ofEntry (origin : Origin) : (Collision.ofEntry origin).code ∈ Code.ofEntries := by
  simp [Collision.ofEntry, Code.ofEntries]

lemma code_ofConnection (origin : Origin) (name : String) :
    (Collision.ofConnection origin name).code ∈ Code.ofEntries := by
  simp [Collision.ofConnection, Code.ofEntries]

lemma code_skippedWarning (origin : Origin) (i : Nat) :
    (skippedWarning origin i).code ∈ Code.ofEntries := by
  simp [skippedWarning, Diagnostic.warning, Code.ofEntries]

lemma code_nameWarnings {p : DuplicatePolicy} {origin : Origin} {declared : Bool} {d : Diagnostic}
    (h : d ∈ p.nameWarnings origin declared) : d.code ∈ Code.ofEntries := by
  cases p <;> cases declared <;> simp [DuplicatePolicy.nameWarnings] at h
  exact h ▸ code_ofEntry origin

lemma code_layoutWarnings {p : DuplicatePolicy} {origin : Origin} {declared : Bool} {l : Layout}
    {d : Diagnostic} (h : d ∈ p.layoutWarnings origin declared l) : d.code ∈ Code.ofEntries := by
  rcases List.mem_append.mp h with h | h
  · rcases List.mem_append.mp h with h | h
    · exact code_nameWarnings h
    · obtain ⟨i, -, rfl⟩ := List.mem_map.mp h
      exact code_skippedWarning origin i
  · cases p with
    | warn =>
      obtain ⟨name, -, rfl⟩ := List.mem_map.mp h
      exact code_ofConnection origin name
    | strict => cases h

lemma code_layoutError (error : LayoutError) (origin : Origin) :
    (error.diagnostic origin).code ∈ Code.ofEntries := by
  cases error <;>
    simp [LayoutError.diagnostic, LayoutError.code, Diagnostic.suggest, Diagnostic.error,
      Code.ofEntries]

lemma code_assembleError (error : AssembleError) (origin : Origin) :
    (error.diagnostic origin).code ∈ Code.ofEntries := by
  cases error with
  | layout error => exact code_layoutError error origin
  | voidOutput _ =>
    simp [AssembleError.diagnostic, Diagnostic.suggest, Diagnostic.error, Code.ofEntries]

lemma code_outcome {o : Options} {category colour : String} {declared : Bool} {e : Entry}
    {d : Diagnostic} (h : d ∈ (e.outcome o category colour declared).diagnostics) :
    d.code ∈ Code.ofEntries := by
  have hv := verdict_outcome o category colour declared e
  generalize e.outcome o category colour declared = out at h hv
  rcases List.mem_append.mp h with h | h
  · cases hv with
    | declaredBefore => cases h
    | noLayout => exact code_nameWarnings h
    | repeatedConnection | noShape | accepted => exact code_layoutWarnings h
  · cases hv with
    | declaredBefore =>
      obtain rfl := List.mem_singleton.mp h
      exact code_ofEntry (e.origin category)
    | noLayout =>
      obtain rfl := List.mem_singleton.mp h
      exact code_layoutError _ _
    | @repeatedConnection _ name =>
      obtain rfl := List.mem_singleton.mp h
      exact code_ofConnection (e.origin category) name
    | noShape =>
      obtain rfl := List.mem_singleton.mp h
      exact code_assembleError _ _
    | accepted => cases h

/-- **What a compile reports is about its entries.** -/
lemma code_compile {o : Options} {vocabulary : List Category} {d : Diagnostic}
    (h : d ∈ (compile o vocabulary).diagnostics.stored) : d.code ∈ Code.ofEntries := by
  have hout : ∃ out ∈ (compile o vocabulary).outcomes, d ∈ out.diagnostics := by
    rw [diagnostics_compile, Diagnostics.stored] at h
    rcases List.mem_append.mp h with h | h
    · obtain ⟨out, hout, hd⟩ := List.mem_filterMap.mp (List.mem_of_mem_take h)
      exact ⟨out, hout, List.mem_append_right _ (by simp [hd])⟩
    · obtain ⟨out, hout, hd⟩ := List.mem_flatMap.mp h
      exact ⟨out, hout, List.mem_append_left _ hd⟩
  obtain ⟨out, hout, hd⟩ := hout
  obtain ⟨category, colour, declared, heq⟩ := mem_outcomes_compile hout
  rw [heq] at hd
  exact code_outcome hd

lemma contains_invalidVocabulary_compile (o : Options) (vocabulary : List Category) :
    (compile o vocabulary).diagnostics.contains Code.invalidVocabulary = false := by
  rw [Diagnostics.contains, List.any_eq_false]
  intro d hd h
  have hcode := code_compile hd
  rw [of_decide_eq_true h] at hcode
  revert hcode
  decide

lemma descriptors?_eq_none_iff (c : Compilation) (r : Registries) :
    c.descriptors? r = none ↔ c.options.vocabulary = false := by
  unfold Compilation.descriptors?
  split <;> simp_all

/-! ### Shapes -/

/-- How the parts of a result go together, given how its options and its document were read. -/
structure CompileResult.Shaped (options : Except String Options)
    (document : Except DocumentError (List Category)) (r : CompileResult) : Prop where
  /-- It succeeds if no error was counted, be it kept or not. -/
  success : r.success = true ↔ r.diagnostics.totalErrors = 0
  toolbox : r.toolbox = none ↔ r.fingerprint = none
  code : r.toolbox = none ↔ r.diagnostics.contains Code.invalidVocabulary = true
  /-- Without a toolbox there is one error at the document and nothing else. -/
  failed : r.toolbox = none → r.blocks = [] ∧ r.descriptors = none ∧
    ∃ d : Diagnostic, d.code = Code.invalidVocabulary ∧ d.severity = .error ∧
      d.origin = Origin.document ∧ r.diagnostics = ⟨[d], [], 1, 0⟩
  /-- There is a toolbox whenever both were read. -/
  compiled : r.toolbox ≠ none ↔ ∃ o vocabulary, options = .ok o ∧ document = .ok vocabulary
  descriptors : r.toolbox ≠ none →
    ∃ o, options = .ok o ∧ (r.descriptors ≠ none ↔ o.vocabulary = true)

lemma shaped_failed {options : Except String Options}
    {document : Except DocumentError (List Category)} {d : Diagnostic}
    (hread : ¬∃ o vocabulary, options = .ok o ∧ document = .ok vocabulary)
    (hcode : d.code = Code.invalidVocabulary) (hseverity : d.severity = .error)
    (horigin : d.origin = Origin.document) :
    (CompileResult.failed d).Shaped options document := by
  have hsingle : Diagnostics.single d = ⟨[d], [], 1, 0⟩ := by
    simp [Diagnostics.single, Diagnostics.push, Diagnostics.empty, Diagnostics.limit, hseverity]
  refine ⟨?_, ?_, ?_, ?_, ?_, ?_⟩
  · simp [CompileResult.failed, hsingle]
  · simp [CompileResult.failed]
  · simp [CompileResult.failed, hsingle, Diagnostics.contains, Diagnostics.stored, hcode]
  · exact fun _ => ⟨rfl, rfl, d, hcode, hseverity, horigin, hsingle⟩
  · exact iff_of_false (fun h => h rfl) hread
  · exact fun h => absurd rfl h

/-- **Every way to compile a document gives a result of this shape.** -/
lemma shaped_ofDocument (o : Options) (document : Except DocumentError (List Category)) :
    (CompileResult.ofDocument o document).Shaped (.ok o) document := by
  rcases document with e | vocabulary
  · exact shaped_failed (by simp) rfl rfl rfl
  · refine ⟨?_, ?_, ?_, ?_, ?_, ?_⟩
    · simp [CompileResult.ofDocument, Compilation.result, Compilation.succeeded,
        Diagnostics.hasErrors]
    · simp [CompileResult.ofDocument, Compilation.result]
    · simp [CompileResult.ofDocument, Compilation.result, contains_invalidVocabulary_compile]
    · simp [CompileResult.ofDocument, Compilation.result]
    · simp [CompileResult.ofDocument, Compilation.result]
    · refine fun _ => ⟨o, rfl, ?_⟩
      have hnone := descriptors?_eq_none_iff (compile o vocabulary) Registries.empty
      rw [← Bool.not_eq_true] at hnone
      exact not_iff_comm.mp hnone.symm

/-! ### Texts -/

/-- What a page finds in a result: absent parts are null, and no others are. -/
structure CompileResult.ShownAs (r : CompileResult) (v : Json) : Prop where
  success : v.get? "success" = some (.bool r.success)
  toolbox : v.get? "toolbox" = some .null ↔ r.toolbox = none
  blocks : v.get? "blocks" = some (.list r.blocks)
  descriptors : v.get? "vocab" = some .null ↔ r.descriptors = none
  diagnostics : v.get? "diagnostics" = some r.diagnostics.toJson
  fingerprint : v.get? "fingerprint" = some .null ↔ r.fingerprint = none

lemma ofOption_eq_null {α : Type} {f : α → Json} (h : ∀ a, f a ≠ .null) (x : Option α) :
    Json.ofOption f x = .null ↔ x = none := by
  cases x with
  | none => simp [Json.ofOption]
  | some a => simp [Json.ofOption, h a]

lemma shownAs_toJson (r : CompileResult) : r.ShownAs r.toJson := by
  refine ⟨rfl, ?_, rfl, ?_, rfl, ?_⟩
  · exact Option.some_inj.trans (ofOption_eq_null (fun _ => Json.noConfusion) r.toolbox)
  · exact Option.some_inj.trans (ofOption_eq_null (fun _ => Json.noConfusion) r.descriptors)
  · exact Option.some_inj.trans (ofOption_eq_null (fun _ => Json.noConfusion) r.fingerprint)

/-- **The result for a page has its shape whatever the texts**, and a check reports the diagnostics
of the compile. -/
theorem shaped_result (source options : String) :
    (TextInterface.result source options).Shaped (Options.ofText options) (Document.read source) ∧
      (∃ v, TextInterface.compile source options = v.compact ∧
        (TextInterface.result source options).ShownAs v) ∧
      TextInterface.diagnostics source options =
        (TextInterface.result source options).diagnostics ∧
      TextInterface.check source options =
        (TextInterface.result source options).diagnostics.toJson.compact := by
  have hdiagnostics : TextInterface.diagnostics source options =
      (TextInterface.result source options).diagnostics := by
    unfold TextInterface.diagnostics TextInterface.result
    split <;> rfl
  refine ⟨?_, ⟨_, rfl, shownAs_toJson _⟩, hdiagnostics, ?_⟩
  · unfold TextInterface.result
    rcases Options.ofText options with message | o
    · exact shaped_failed (by simp) rfl rfl rfl
    · exact shaped_ofDocument o (Document.read source)
  · rw [TextInterface.check, hdiagnostics]

end BlockVocabulary
