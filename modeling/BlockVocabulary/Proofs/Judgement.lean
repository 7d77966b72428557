import BlockVocabulary.Proofs.Repeats

/-!
What decides the outcome of one declaration.

A declaration ends in one of five ways, by the first check that stops it; each is a constructor of
`Verdict`, with all that has been found out by then. What an outcome says is derived from these
five cases and not from the checks themselves.
-/

namespace BlockVocabulary

/-! ### The five ways to end -/

def Entry.origin (category : String) (e : Entry) : Origin :=
  { category := category, entry := e.name }

namespace DuplicatePolicy

/-- The warning about a name that has been accepted before. -/
def nameWarnings (p : DuplicatePolicy) (origin : Origin) (declared : Bool) : List Diagnostic :=
  match p with
  | warn => if declared then [(Collision.ofEntry origin).warning] else []
  | strict => []

/-- The warnings about names that several connections of a layout share. -/
def connectionWarnings (p : DuplicatePolicy) (origin : Origin) (l : Layout) : List Diagnostic :=
  match p with
  | warn => (repeats l.connections).map (Collision.warning ∘ Collision.ofConnection origin)
  | strict => []

/-- The warnings about an entry that has a layout. -/
def layoutWarnings (p : DuplicatePolicy) (origin : Origin) (declared : Bool) (l : Layout) :
    List Diagnostic :=
  p.nameWarnings origin declared ++ l.skipped.map (skippedWarning origin) ++
    p.connectionWarnings origin l

/-- Only the strict policy refuses a name that has been accepted before. -/
lemma apply_ofEntry (p : DuplicatePolicy) (origin : Origin) (declared : Bool) :
    p.apply (if declared then [Collision.ofEntry origin] else []) =
      (p.nameWarnings origin declared,
        if p = strict ∧ declared = true then some (Collision.ofEntry origin).failure
        else none) := by
  cases p <;> cases declared <;> rfl

/-- Only the strict policy refuses a layout, for the first name that several connections share. -/
lemma apply_ofConnection (p : DuplicatePolicy) (origin : Origin) (l : Layout) :
    p.apply ((repeats l.connections).map (Collision.ofConnection origin)) =
      (p.connectionWarnings origin l,
        if p = strict then
          (repeats l.connections).head?.map fun name => (Collision.ofConnection origin name).failure
        else none) := by
  cases p with
  | warn => simp [apply, connectionWarnings]
  | strict => simp [apply, connectionWarnings, List.head?_map, Function.comp_def]

end DuplicatePolicy

/-- How a declaration can end, and on what conditions. -/
inductive Verdict (o : Options) (category colour : String) (declared : Bool) (e : Entry) :
    Outcome → Prop
  | declaredBefore (hp : o.duplicates = .strict) (hd : declared = true) :
      Verdict o category colour declared e
        ⟨e, [], .error (Collision.ofEntry (e.origin category)).failure⟩
  | noLayout {error : LayoutError} (hd : o.duplicates = .strict → declared = false)
      (hl : layOut o.toLayoutOptions e.template = .error error) :
      Verdict o category colour declared e
        ⟨e, o.duplicates.nameWarnings (e.origin category) declared,
          .error (error.diagnostic (e.origin category))⟩
  | repeatedConnection {l : Layout} {name : String} {names : List String}
      (hp : o.duplicates = .strict) (hd : declared = false)
      (hl : layOut o.toLayoutOptions e.template = .ok l)
      (hr : repeats l.connections = name :: names) :
      Verdict o category colour declared e
        ⟨e, o.duplicates.layoutWarnings (e.origin category) declared l,
          .error (Collision.ofConnection (e.origin category) name).failure⟩
  | noShape {l : Layout} {error : AssembleError} (hd : o.duplicates = .strict → declared = false)
      (hl : layOut o.toLayoutOptions e.template = .ok l)
      (hr : o.duplicates = .strict → l.connections.Nodup)
      (ha : e.assemble colour l.rows = .error error) :
      Verdict o category colour declared e
        ⟨e, o.duplicates.layoutWarnings (e.origin category) declared l,
          .error (error.diagnostic (e.origin category))⟩
  | accepted {l : Layout} {s : BlockSchema} (hd : o.duplicates = .strict → declared = false)
      (hl : layOut o.toLayoutOptions e.template = .ok l)
      (hr : o.duplicates = .strict → l.connections.Nodup)
      (ha : e.assemble colour l.rows = .ok s) :
      Verdict o category colour declared e
        ⟨e, o.duplicates.layoutWarnings (e.origin category) declared l, .ok s⟩

/-- Once the names are settled, the output decides. -/
lemma verdict_of_layout {o : Options} {category colour : String} {declared : Bool} {e : Entry}
    {l : Layout} (hd : o.duplicates = .strict → declared = false)
    (hl : layOut o.toLayoutOptions e.template = .ok l)
    (hr : o.duplicates = .strict → l.connections.Nodup) :
    Verdict o category colour declared e
      ⟨e, o.duplicates.layoutWarnings (e.origin category) declared l,
        (e.assemble colour l.rows).mapError (·.diagnostic (e.origin category))⟩ := by
  rcases ha : e.assemble colour l.rows with error | s
  · exact .noShape hd hl hr ha
  · exact .accepted hd hl hr ha

lemma verdict_outcome (o : Options) (category colour : String) (declared : Bool) (e : Entry) :
    Verdict o category colour declared e (e.outcome o category colour declared) := by
  unfold Entry.outcome
  simp only [DuplicatePolicy.apply_ofEntry, DuplicatePolicy.apply_ofConnection]
  by_cases hname : o.duplicates = .strict ∧ declared = true
  · have hw : o.duplicates.nameWarnings (e.origin category) declared = [] := by
      rw [hname.1]
      rfl
    simp only [if_pos hname]
    exact hw ▸ .declaredBefore hname.1 hname.2
  · have hd : o.duplicates = .strict → declared = false := by simpa using hname
    simp only [if_neg hname]
    rcases hl : layOut o.toLayoutOptions e.template with error | l
    · exact .noLayout hd hl
    · by_cases hp : o.duplicates = .strict
      · simp only [if_pos hp]
        rcases hr : repeats l.connections with _ | ⟨name, names⟩
        · exact verdict_of_layout hd hl fun _ => (repeats_eq_nil_iff _).mp hr
        · exact .repeatedConnection hp (hd hp) hl hr
      · simp only [if_neg hp]
        exact verdict_of_layout hd hl fun h => absurd h hp

/-! ### Consequences -/

@[simp] lemma entry_outcome (o : Options) (category colour : String) (declared : Bool) (e : Entry) :
    (e.outcome o category colour declared).entry = e := by
  have h := verdict_outcome o category colour declared e
  generalize e.outcome o category colour declared = out at h ⊢
  cases h <;> rfl

/-- The outcome holds a schema. -/
def Outcome.isAccepted (out : Outcome) : Bool := out.schema?.isSome

@[simp] lemma isAccepted_ok (e : Entry) (ws : List Diagnostic) (s : BlockSchema) :
    Outcome.isAccepted ⟨e, ws, .ok s⟩ = true := rfl
@[simp] lemma isAccepted_error (e : Entry) (ws : List Diagnostic) (d : Diagnostic) :
    Outcome.isAccepted ⟨e, ws, .error d⟩ = false := rfl

lemma isAccepted_eq_isNone_failure? (out : Outcome) : out.isAccepted = out.failure?.isNone := by
  obtain ⟨e, ws, d | s⟩ := out <;> rfl

/-- What is known of an entry that has a schema. -/
lemma of_schema?_outcome {o : Options} {category colour : String} {declared : Bool} {e : Entry}
    {s : BlockSchema} (h : (e.outcome o category colour declared).schema? = some s) :
    (o.duplicates = .strict → declared = false) ∧
      ∃ l, layOut o.toLayoutOptions e.template = .ok l ∧
        (o.duplicates = .strict → l.connections.Nodup) ∧ e.assemble colour l.rows = .ok s := by
  have hv := verdict_outcome o category colour declared e
  generalize e.outcome o category colour declared = out at h hv
  cases hv with
  | accepted hd hl hr ha =>
    obtain rfl := Option.some.inj h
    exact ⟨hd, _, hl, hr, ha⟩
  | _ => cases h

lemma assemble_eq_ok {e : Entry} {colour : String} {rows : List Row} {s : BlockSchema}
    (h : e.assemble colour rows = .ok s) :
    e.shape = .ok s.shape ∧
      s = { type := e.name, rows := rows, shape := s.shape, inputsInline := e.inputsInline
            tooltip := e.description, colour := colour, hooks := e.hooks } := by
  unfold Entry.assemble at h
  rcases hs : e.shape with error | shape
  · simp [hs, bind, Except.bind] at h
  · simp only [hs, bind, Except.bind, pure, Except.pure, Except.ok.injEq] at h
    subst h
    exact ⟨rfl, rfl⟩

lemma isOk_assemble (e : Entry) (colour : String) (rows : List Row) :
    (e.assemble colour rows).isOk = e.shape.isOk := by
  unfold Entry.assemble
  rcases e.shape with error | shape <;> rfl

/-- A schema goes by the name of its entry. -/
lemma type_of_schema?_outcome {o : Options} {category colour : String} {declared : Bool} {e : Entry}
    {s : BlockSchema} (h : (e.outcome o category colour declared).schema? = some s) :
    s.type = e.name := by
  obtain ⟨-, l, -, -, ha⟩ := of_schema?_outcome h
  exact congrArg BlockSchema.type (assemble_eq_ok ha).2

/-- The template has a layout, no two of its connections share a name, and the output is one a block
can have. -/
def Entry.inOrder (o : LayoutOptions) (e : Entry) : Bool :=
  match layOut o e.template with
  | .ok l => decide l.connections.Nodup && e.shape.isOk
  | .error _ => false

/-- Under the strict policy an entry is accepted if it is in order and its name is new. -/
lemma isAccepted_outcome_of_strict {o : Options} (hp : o.duplicates = .strict)
    (category colour : String) (declared : Bool) (e : Entry) :
    (e.outcome o category colour declared).isAccepted =
      (!declared && e.inOrder o.toLayoutOptions) := by
  have hv := verdict_outcome o category colour declared e
  generalize e.outcome o category colour declared = out at hv ⊢
  cases hv with
  | declaredBefore _ hd => simp [hd]
  | noLayout _ hl => simp [Entry.inOrder, hl]
  | @repeatedConnection l _ _ _ _ hl hr =>
    have hn : ¬l.connections.Nodup := mt (repeats_eq_nil_iff _).mpr (by simp [hr])
    simp [Entry.inOrder, hl, hn]
  | noShape _ hl _ ha =>
    have hs : e.shape.isOk = false := (isOk_assemble e colour _).symm.trans (by rw [ha]; rfl)
    simp [Entry.inOrder, hl, hs]
  | accepted hd hl hr ha =>
    have hs : e.shape.isOk = true := (isOk_assemble e colour _).symm.trans (by rw [ha]; rfl)
    simp [Entry.inOrder, hl, hd hp, hr hp, hs]

/-- What an outcome records is told apart by its severity. -/
structure Outcome.Graded (out : Outcome) : Prop where
  warnings : ∀ d ∈ out.warnings, d.isError = false
  failure : ∀ d ∈ out.failure?, d.isError = true

lemma nameWarnings_graded (p : DuplicatePolicy) (origin : Origin) (declared : Bool) :
    ∀ d ∈ p.nameWarnings origin declared, d.isError = false := by
  intro d hd
  cases p <;> cases declared <;> simp [DuplicatePolicy.nameWarnings] at hd
  rw [hd]
  rfl

lemma layoutWarnings_graded (p : DuplicatePolicy) (origin : Origin) (declared : Bool) (l : Layout) :
    ∀ d ∈ p.layoutWarnings origin declared l, d.isError = false := by
  intro d hd
  rcases List.mem_append.mp hd with hd | hd
  · rcases List.mem_append.mp hd with hd | hd
    · exact nameWarnings_graded p origin declared d hd
    · obtain ⟨i, -, rfl⟩ := List.mem_map.mp hd
      rfl
  · cases p with
    | warn =>
      obtain ⟨name, -, rfl⟩ := List.mem_map.mp hd
      rfl
    | strict => cases hd

lemma isError_diagnostic (error : AssembleError) (origin : Origin) :
    (error.diagnostic origin).isError = true := by
  cases error <;> rfl

lemma graded_outcome (o : Options) (category colour : String) (declared : Bool) (e : Entry) :
    (e.outcome o category colour declared).Graded := by
  have hv := verdict_outcome o category colour declared e
  generalize e.outcome o category colour declared = out at hv ⊢
  cases hv with
  | declaredBefore =>
    exact ⟨by simp, by rintro d ⟨⟩; rfl⟩
  | noLayout =>
    exact ⟨nameWarnings_graded _ _ _, by rintro d ⟨⟩; rfl⟩
  | repeatedConnection =>
    exact ⟨layoutWarnings_graded _ _ _ _, by rintro d ⟨⟩; rfl⟩
  | noShape =>
    exact ⟨layoutWarnings_graded _ _ _ _, by rintro d ⟨⟩; exact isError_diagnostic _ _⟩
  | accepted =>
    exact ⟨layoutWarnings_graded _ _ _ _, by rintro d ⟨⟩⟩

end BlockVocabulary
