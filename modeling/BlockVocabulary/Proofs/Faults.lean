import BlockVocabulary.Proofs.LayoutContent
import BlockVocabulary.Proofs.Registration

/-!
What is wrong with a declaration.

The faults of a declaration are those of its name, of the elements of its template from left to
right, of the names of its connections and of its output, in this order. They are read off the
declaration itself and not off its layout. A declaration fails exactly if it has a fault, and the
first one is the error that is reported.
-/

namespace BlockVocabulary

/-- Something that fails a declaration: the code of its error, and the position of the template
element at fault if it is tied to one. -/
structure Fault where
  code : Code
  field : Option ℕ := none
  deriving DecidableEq

/-- What a diagnostic finds fault with. -/
def Diagnostic.fault (d : Diagnostic) : Fault := ⟨d.code, d.origin.field⟩

/-- The tag is left out or is one of the closed set. -/
def Connection.isSupported (c : Connection) : Bool :=
  c.tag.all (· ∈ ConnectionType.all.map (·.tag))

/-- Only the strict policy takes offence at a name that has been accepted before. -/
def nameFaults (p : DuplicatePolicy) (declared : Bool) : List Fault :=
  if p = .strict ∧ declared = true then [⟨Code.duplicateEntry, none⟩] else []

/-- What is wrong with the template element at a position. -/
def Field.faults (policy : UnknownFieldPolicy) (index : ℕ) : Field → List Fault
  | .unrecognized _ => if policy = .failFast then [⟨Code.unknownField, some index⟩] else []
  | .connection c => if c.isSupported then [] else [⟨Code.unsupportedType, some index⟩]
  | _ => []

/-- The faults of template elements, the first of which stands at the given position. -/
def templateFaults (policy : UnknownFieldPolicy) (index : ℕ) (template : List Field) : List Fault :=
  (template.zipIdx index).flatMap fun (f, i) => f.faults policy i

/-- Only the strict policy takes offence at two connections of one name. -/
def connectionFaults (p : DuplicatePolicy) (template : List Field) : List Fault :=
  if p = .strict ∧ ¬((slots template).map (·.name)).Nodup then [⟨Code.duplicateConnection, none⟩]
  else []

/-- An output can be neither `void` nor of an unknown type. -/
def Entry.outputFaults (e : Entry) : List Fault :=
  if e.output.all fun c => c.isSupported && decide (c.tag ≠ some ConnectionType.void.tag) then []
  else [⟨Code.unsupportedType, none⟩]

/-- The faults of a declaration by precedence; `declared` says that one of the same name has been
accepted before. -/
def Entry.faults (o : Options) (declared : Bool) (e : Entry) : List Fault :=
  nameFaults o.duplicates declared ++ (templateFaults o.unknownFields 0 e.template ++
    (connectionFaults o.duplicates e.template ++ e.outputFaults))

/-! ### Checks in sequence -/

/-- The result is the error for the first of the faults, or a success if there are none. -/
def ReportsFirst {ε α : Type} (fault : ε → Fault) (faults : List Fault) : Except ε α → Prop
  | .ok _ => faults = []
  | .error e => faults.head? = some (fault e)

namespace ReportsFirst

variable {ε α β : Type} {fault : ε → Fault} {faults further : List Fault} {x : Except ε α}

lemma eq_nil (h : ReportsFirst fault faults x) {a : α} (hx : x = .ok a) : faults = [] := by
  subst hx
  exact h

lemma head?_eq (h : ReportsFirst fault faults x) {e : ε} (hx : x = .error e) :
    faults.head? = some (fault e) := by
  subst hx
  exact h

/-- Of two checks in sequence the first that fails is reported. -/
lemma bind {f : α → Except ε β} (h : ReportsFirst fault faults x)
    (hf : ∀ a, ReportsFirst fault further (f a)) :
    ReportsFirst fault (faults ++ further) (x >>= f) := by
  rcases x with e | a
  · have he : faults.head? = some (fault e) := h
    exact (List.head?_append_of_ne_nil _ (by rintro rfl; cases he)).trans he
  · have hnil : faults = [] := h
    rw [hnil, List.nil_append]
    exact hf a

/-- What cannot fail adds no fault. -/
lemma map (f : α → β) (h : ReportsFirst fault faults x) :
    ReportsFirst fault faults (x >>= fun a => pure (f a)) := by
  rcases x with e | a <;> exact h

end ReportsFirst

/-! ### Connections -/

def LayoutError.fault (e : LayoutError) : Fault := ⟨e.code, e.field?⟩

lemma Connection.isSome_type? (c : Connection) : c.type?.isSome = c.isSupported := by
  unfold Connection.type? Connection.isSupported
  rcases c.tag with _ | tag
  · rfl
  · rw [Bool.eq_iff_iff]
    simp [ConnectionType.ofDeclared?, ConnectionType.ofTag?, List.find?_isSome]

/-- A connection is refused for its tag only. -/
lemma reportsFirst_resolve (c : Connection) (field : Option ℕ) :
    ReportsFirst LayoutError.fault
      (if c.isSupported then [] else [⟨Code.unsupportedType, field⟩]) (c.resolve field) := by
  unfold Connection.resolve
  rw [← c.isSome_type?]
  rcases c.type? with _ | t <;> rfl

/-! ### Templates -/

lemma templateFaults_cons (policy : UnknownFieldPolicy) (index : ℕ) (f : Field) (fs : List Field) :
    templateFaults policy index (f :: fs) =
      f.faults policy index ++ templateFaults policy (index + 1) fs := rfl

namespace LayoutState

/-- A field is refused for its own fault, whatever was read before it. -/
lemma reportsFirst_feed (policy : UnknownFieldPolicy) (s : LayoutState) (index : ℕ) (f : Field) :
    ReportsFirst LayoutError.fault (f.faults policy index) (s.feed policy index f) := by
  cases f with
  | text content => rfl
  | widget name w => rfl
  | connection c => exact (reportsFirst_resolve c (some index)).map (s.connection c)
  | unrecognized v => cases policy <;> rfl

lemma reportsFirst_feedAll (policy : UnknownFieldPolicy) (s : LayoutState) (index : ℕ)
    (fs : List Field) :
    ReportsFirst LayoutError.fault (templateFaults policy index fs)
      (s.feedAll policy index fs) := by
  induction fs generalizing s index with
  | nil => rfl
  | cons f fs ih =>
    rw [templateFaults_cons]
    exact (reportsFirst_feed policy s index f).bind fun t => ih t (index + 1)

end LayoutState

/-- **A template has a layout unless an element is at fault**, and then the first one is reported. -/
lemma reportsFirst_layOut (o : LayoutOptions) (template : List Field) :
    ReportsFirst LayoutError.fault (templateFaults o.unknownFields 0 template)
      (layOut o template) :=
  (LayoutState.reportsFirst_feedAll o.unknownFields .empty 0 template).map
    (LayoutState.finish · o.helpIcon)

lemma nameFaults_eq_nil {p : DuplicatePolicy} {declared : Bool} (h : p = .strict → declared = false) :
    nameFaults p declared = [] :=
  if_neg (by simpa using h)

/-- What a layout tells about the names of its connections. -/
lemma connectionFaults_eq {o : LayoutOptions} {template : List Field} {l : Layout}
    (h : layOut o template = .ok l) (p : DuplicatePolicy) :
    connectionFaults p template =
      if p = .strict ∧ ¬l.connections.Nodup then [⟨Code.duplicateConnection, none⟩] else [] := by
  rw [connectionFaults, (layOut_content h).2.2.2]

/-! ### Outputs -/

def AssembleError.fault : AssembleError → Fault
  | .layout e => e.fault
  | .voidOutput _ => ⟨Code.unsupportedType, none⟩

lemma reportsFirst_shape (e : Entry) :
    ReportsFirst AssembleError.fault e.outputFaults e.shape := by
  unfold Entry.shape Entry.outputFaults
  rcases e.output with _ | c
  · rfl
  · have hc := reportsFirst_resolve c none
    rcases hr : c.resolve none with error | t
    · have hhead := hc.head?_eq hr
      rcases hs : c.isSupported
      · simpa [hr, hs, ReportsFirst, AssembleError.fault] using hhead
      · simp [hs] at hhead
    · have hs : c.isSupported = true := by simpa using hc.eq_nil hr
      have hvoid := Connection.isStatement_iff (Connection.resolve_eq_ok hr)
      by_cases ht : t.isStatement = true
      · simp [hr, ht, hvoid.mp ht, ReportsFirst, AssembleError.fault]
      · simp [hr, ht, mt hvoid.mpr ht, hs, ReportsFirst]

/-- Once an entry has a layout only its output can fail it. -/
lemma reportsFirst_assemble (e : Entry) (colour : String) (rows : List Row) :
    ReportsFirst AssembleError.fault e.outputFaults (e.assemble colour rows) :=
  (reportsFirst_shape e).map _

/-! ### One declaration -/

lemma fault_diagnostic (error : AssembleError) (origin : Origin) (h : origin.field = none) :
    (error.diagnostic origin).fault = error.fault := by
  cases error with
  | layout e => rfl
  | voidOutput e => exact congrArg (Fault.mk _) h

/-- **A declaration fails for its first fault.** -/
lemma fault_outcome (o : Options) (category colour : String) (declared : Bool) (e : Entry) :
    (e.outcome o category colour declared).failure?.map Diagnostic.fault =
      (e.faults o declared).head? := by
  have hv := verdict_outcome o category colour declared e
  have hlayout := reportsFirst_layOut o.toLayoutOptions e.template
  generalize e.outcome o category colour declared = out at hv ⊢
  unfold Entry.faults
  cases hv with
  | declaredBefore hp hd =>
    rw [nameFaults, if_pos ⟨hp, hd⟩]
    rfl
  | noLayout hd hl =>
    rw [nameFaults_eq_nil hd, List.nil_append, List.head?_append, hlayout.head?_eq hl]
    rfl
  | @repeatedConnection l _ _ hp hd hl hr =>
    have hn : ¬l.connections.Nodup := mt (repeats_eq_nil_iff _).mpr (by simp [hr])
    rw [nameFaults_eq_nil fun _ => hd, hlayout.eq_nil hl, connectionFaults_eq hl, if_pos ⟨hp, hn⟩]
    rfl
  | @noShape l error hd hl hr ha =>
    rw [nameFaults_eq_nil hd, hlayout.eq_nil hl, connectionFaults_eq hl,
      if_neg fun h => h.2 (hr h.1)]
    exact (congrArg some (fault_diagnostic error _ rfl)).trans
      ((reportsFirst_assemble e colour l.rows).head?_eq ha).symm
  | @accepted l _ hd hl hr ha =>
    rw [nameFaults_eq_nil hd, hlayout.eq_nil hl, connectionFaults_eq hl,
      if_neg fun h => h.2 (hr h.1), (reportsFirst_assemble e colour l.rows).eq_nil ha]
    rfl

/-- **A declaration is accepted if it has no fault.** -/
lemma isAccepted_outcome (o : Options) (category colour : String) (declared : Bool) (e : Entry) :
    (e.outcome o category colour declared).isAccepted = (e.faults o declared).isEmpty := by
  have h := congrArg Option.isNone (fault_outcome o category colour declared e)
  rw [Option.isNone_map, ← isAccepted_eq_isNone_failure?] at h
  rw [h, Bool.eq_iff_iff]
  simp

lemma origin_of_failure {o : Options} {category colour : String} {declared : Bool} {e : Entry}
    {d : Diagnostic} (h : d ∈ (e.outcome o category colour declared).failure?) :
    d.origin.category = category ∧ d.origin.entry = e.name := by
  have hv := verdict_outcome o category colour declared e
  generalize e.outcome o category colour declared = out at hv h
  cases hv with
  | declaredBefore => cases h; exact ⟨rfl, rfl⟩
  | noLayout => cases h; exact ⟨rfl, rfl⟩
  | repeatedConnection => cases h; exact ⟨rfl, rfl⟩
  | @noShape l error => cases h; cases error <;> exact ⟨rfl, rfl⟩
  | accepted => cases h

/-! ### A compile -/

/-- Whether a name has been accepted can be told from the outcomes. -/
lemma contains_acceptedNames {outs : List Outcome} (h : ∀ out ∈ outs, out.Named) (n : String) :
    (acceptedNames outs).contains n = outs.any (·.registers n) := by
  rw [Bool.eq_iff_iff, List.contains_iff_mem, mem_acceptedNames_iff h, List.any_eq_true]

/-- **Every declaration fails for its first fault, or is accepted.** Whether its name counts as
declared depends on the declarations before it that were accepted. The error, which is the only one
of the declaration, tells the category and the entry. -/
theorem failure_first_fault (o : Options) (vocabulary : List Category) {i : ℕ}
    {d : Category × Entry} (h : (declarations vocabulary)[i]? = some d) :
    let c := compile o vocabulary
    let faults := d.2.faults o ((c.judged.take i).any (·.2.registers d.2.name))
    ∃ out, c.judged[i]? = some (d.1, out) ∧ out.entry = d.2 ∧
      (out.isAccepted = false ↔ faults ≠ []) ∧
      out.diagnostics.filter (·.isError) = out.failure?.toList ∧
      out.failure?.map Diagnostic.fault = faults.head? ∧
      ∀ error ∈ out.failure?,
        error.origin.category = d.1.name ∧ error.origin.entry = d.2.name := by
  intro c faults
  have hnamed : ∀ out ∈ (c.judged.take i).map (·.2), out.Named := by
    intro out hout
    have hmem : out ∈ c.outcomes := by
      rw [outcomes_eq_judged]
      exact List.map_subset _ (List.take_subset i _) hout
    exact named_of_mem_outcomes hmem
  have hjudged := getElem?_judge o [] (declarations vocabulary) i
  rw [h, Option.map_some, ← judged_compile, List.nil_append, contains_acceptedNames hnamed,
    List.any_map] at hjudged
  refine ⟨_, hjudged, entry_outcome _ _ _ _ _, ?_, ?_, fault_outcome _ _ _ _ _, fun _ =>
    origin_of_failure⟩
  · rw [isAccepted_outcome]
    exact List.isEmpty_eq_false_iff
  · exact (graded_outcome _ _ _ _ _).filter_isError

/-- Waiting, declared twice, and a block with all kinds of faults. -/
def troubled : List Category :=
  [{ name := "Time",
     entries :=
      [{ name := "wait", template := [.text "wait"] },
        { name := "wait", template := [.unrecognized .null] },
        { name := "alarm",
          template :=
            [.text "at", .connection { tag := some "date", name := "AT" }, .unrecognized .null,
              .connection { name := "AT" }],
          output := some { tag := some "void" } }] }]

theorem failure_first_fault_troubled :
    let c := compile { duplicates := .strict } troubled
    (∃ out, c.judged[1]?.map (·.2) = some out ∧
      out.failure?.map Diagnostic.fault = some ⟨Code.duplicateEntry, none⟩) ∧
    ∃ out, c.judged[2]?.map (·.2) = some out ∧
      out.failure?.map Diagnostic.fault = some ⟨Code.unsupportedType, some 1⟩ := by
  intro c
  obtain ⟨out, hout, -, -, -, hfault, -⟩ :=
    failure_first_fault { duplicates := .strict } troubled (i := 1) rfl
  obtain ⟨out', hout', -, -, -, hfault', -⟩ :=
    failure_first_fault { duplicates := .strict } troubled (i := 2) rfl
  exact ⟨⟨out, by rw [hout]; rfl, hfault.trans (by decide)⟩,
    out', by rw [hout']; rfl, hfault'.trans (by decide)⟩

end BlockVocabulary
