import BlockVocabulary.Proofs.References
import BlockVocabulary.Proofs.Registration
import BlockVocabulary.Proofs.Settled

/-!
What does not depend on widgets.

A widget is carried from a template into a row, and no check looks into it. Taking all widgets out
of a vocabulary therefore takes them out of its schemas and changes nothing else: the toolbox, the
diagnostics and the generators stay as they are. What the sources of a vocabulary make in one
compile and in another differs in widgets only, whatever has been made before.
-/

namespace BlockVocabulary

/-- Stands where a widget was taken out. -/
def Widget.blank : Widget := ⟨"", Table.empty⟩

def Fragment.bare : Fragment → Fragment
  | .widget name _ => .widget name Widget.blank
  | f => f

def Row.bare (r : Row) : Row := { r with fragments := r.fragments.map Fragment.bare }

def Field.bare {ω : Type} : Field ω → Field := Field.map fun _ => Widget.blank

def Entry.bare {ω : Type} : Entry ω → Entry := Entry.map fun _ => Widget.blank

def Category.bare {ω : Type} : Category ω → Category := Category.map fun _ => Widget.blank

def Layout.bare (l : Layout) : Layout := { l with rows := l.rows.map Row.bare }

def BlockSchema.bare (s : BlockSchema) : BlockSchema := { s with rows := s.rows.map Row.bare }

def Outcome.bare (out : Outcome) : Outcome :=
  { out with entry := out.entry.bare, result := out.result.map BlockSchema.bare }

def CompiledCategory.bare (cc : CompiledCategory) : CompiledCategory :=
  ⟨cc.category.bare, cc.outcomes.map Outcome.bare⟩

/-! ### Laying out -/

namespace LayoutState

def bare (s : LayoutState) : LayoutState :=
  { s with committed := s.committed.map Row.bare, current := s.current.map Row.bare }

lemma bare_commit (s : LayoutState) : s.commit.bare = s.bare.commit := by
  rcases hc : s.current with _ | r <;> simp [commit, bare, hc]

lemma bare_begin (s : LayoutState) (r : Row) : (s.begin r).bare = s.bare.begin r.bare := by
  rw [begin, begin, ← bare_commit]
  rfl

lemma bare_onRow (s : LayoutState) {f g : Row → Row} (h : ∀ r, (f r).bare = g r.bare) :
    (s.onRow f).bare = s.bare.onRow g := by
  rcases hc : s.current with _ | r
  · simp [onRow, bare, hc, h, show Row.dummy.bare = Row.dummy from rfl]
  · simp [onRow, bare, hc, h]

lemma bare_push (s : LayoutState) (f : Fragment) :
    (s.onRow (·.push f)).bare = s.bare.onRow (·.push f.bare) :=
  bare_onRow s fun r => by simp [Row.push, Row.bare]

lemma bare_label (s : LayoutState) (line : String) : (s.label line).bare = s.bare.label line := by
  refine bare_onRow s fun r => ?_
  by_cases hl : line = ""
  · simp [Row.pushLabel, hl]
  · simp [Row.pushLabel, hl, Row.push, Row.bare, Fragment.bare]

lemma bare_text (s : LayoutState) (content : String) :
    (s.text content).bare = s.bare.text content :=
  text_comm bare_label (fun s => bare_begin s Row.dummy) s content

lemma bare_connection (s : LayoutState) (c : Connection) (t : ConnectionType) :
    (s.connection c t).bare = s.bare.connection c t := by
  unfold connection
  by_cases ht : t.isStatement = true
  · rw [if_pos ht, if_pos ht, bare_begin]
    rfl
  · rw [if_neg ht, if_neg ht, bare_begin, bare_begin]
    rfl

lemma bare_feed (policy : UnknownFieldPolicy) (s : LayoutState) (index : ℕ) (f : Field) :
    s.bare.feed policy index f.bare = (s.feed policy index f).map bare := by
  cases f with
  | text content => exact congrArg Except.ok (bare_text s content).symm
  | widget name w => exact congrArg Except.ok (bare_push s (.widget name w)).symm
  | connection c =>
    rcases hr : c.resolve (some index) with e | t
    · simp [feed, Field.bare, Field.map, hr, bind, Except.bind, Except.map]
    · simp [feed, Field.bare, Field.map, hr, bind, Except.bind, Except.map, pure, Except.pure,
        bare_connection]
  | unrecognized v => cases policy <;> rfl

lemma bare_feedAll (policy : UnknownFieldPolicy) (s : LayoutState) (index : ℕ) (fs : List Field) :
    s.bare.feedAll policy index (fs.map Field.bare) = (s.feedAll policy index fs).map bare := by
  induction fs generalizing s index with
  | nil => rfl
  | cons f fs ih =>
    rw [List.map_cons, feedAll, bare_feed, feedAll]
    rcases s.feed policy index f with e | t
    · rfl
    · exact ih t (index + 1)

lemma bare_finish (s : LayoutState) (helpIcon : String) :
    s.bare.finish helpIcon = (s.finish helpIcon).bare := by
  have h : ((s.onRow (·.push (.help helpIcon))).commit).bare =
      (s.bare.onRow (·.push (.help helpIcon))).commit := by
    rw [bare_commit, bare_push]
    rfl
  unfold finish
  rw [← h]
  rfl

end LayoutState

/-- **A layout carries widgets and does nothing else with them.** -/
lemma layOut_bare (o : LayoutOptions) (template : List Field) :
    layOut o (template.map Field.bare) = (layOut o template).map Layout.bare := by
  have h := LayoutState.bare_feedAll o.unknownFields LayoutState.empty 0 template
  rw [show LayoutState.empty.bare = LayoutState.empty from rfl] at h
  unfold layOut
  rw [h]
  rcases LayoutState.empty.feedAll o.unknownFields 0 template with e | s
  · rfl
  · exact congrArg Except.ok (LayoutState.bare_finish s o.helpIcon)

/-! ### Compiling -/

lemma assemble_bare (e : Entry) (colour : String) (rows : List Row) :
    e.bare.assemble colour (rows.map Row.bare) = (e.assemble colour rows).map BlockSchema.bare := by
  have hs : e.bare.shape = e.shape := rfl
  unfold Entry.assemble
  rw [hs]
  rcases e.shape with error | shape <;> rfl

lemma outcome_bare (o : Options) (category colour : String) (declared : Bool) (e : Entry) :
    e.bare.outcome o category colour declared = (e.outcome o category colour declared).bare := by
  have hl := layOut_bare o.toLayoutOptions e.template
  unfold Entry.outcome
  simp only [DuplicatePolicy.apply_ofEntry, DuplicatePolicy.apply_ofConnection]
  by_cases hname : o.duplicates = .strict ∧ declared = true
  · simp only [if_pos hname]
    rfl
  · simp only [if_neg hname]
    rw [show e.bare.template = e.template.map Field.bare from rfl, hl]
    rcases layOut o.toLayoutOptions e.template with error | l
    · rfl
    · have ha := assemble_bare e colour l.rows
      have hn : e.bare.name = e.name := rfl
      simp only [Except.map, Layout.bare, hn, ha]
      -- the names of the connections are the same, and so is the refusal for one of them
      generalize (if o.duplicates = .strict then _ else none) = rejected
      rcases rejected with _ | d
      · rcases e.assemble colour l.rows with error | s <;> rfl
      · rfl

lemma schema?_bare (out : Outcome) : out.bare.schema? = out.schema?.map BlockSchema.bare := by
  obtain ⟨e, ws, d | s⟩ := out <;> rfl

lemma acceptedNames_bare (outs : List Outcome) :
    acceptedNames (outs.map Outcome.bare) = acceptedNames outs := by
  rw [acceptedNames, List.filterMap_map, acceptedNames]
  congr 1
  funext out
  rcases hs : out.schema? with _ | s <;> simp [schema?_bare, hs, BlockSchema.bare]

lemma compileEntries_bare (o : Options) (category colour : String) (accepted : List String)
    (es : List Entry) :
    compileEntries o category colour accepted (es.map Entry.bare) =
      (compileEntries o category colour accepted es).map Outcome.bare := by
  induction es generalizing accepted with
  | nil => rfl
  | cons e es ih =>
    have hn : e.bare.name = e.name := rfl
    have hnames : acceptedNames [(e.outcome o category colour (accepted.contains e.name)).bare] =
        acceptedNames [e.outcome o category colour (accepted.contains e.name)] :=
      acceptedNames_bare [_]
    rw [List.map_cons, compileEntries, hn, outcome_bare, hnames, ih]
    rfl

lemma compileCategories_bare (o : Options) (accepted : List String) (vocabulary : List Category) :
    compileCategories o accepted (vocabulary.map Category.bare) =
      (compileCategories o accepted vocabulary).map CompiledCategory.bare := by
  induction vocabulary generalizing accepted with
  | nil => rfl
  | cons c cs ih =>
    have he : compileEntries o c.bare.name (visibleColour c.bare.colour) accepted c.bare.entries =
        (compileEntries o c.name (visibleColour c.colour) accepted c.entries).map Outcome.bare :=
      compileEntries_bare o c.name (visibleColour c.colour) accepted c.entries
    rw [List.map_cons, compileCategories, he, acceptedNames_bare, ih]
    rfl

/-- A reference tells nothing about widgets. -/
lemma ofSchema_bare (s : BlockSchema) :
    BlockReference.ofSchema s.bare = BlockReference.ofSchema s := by
  rw [BlockReference.ofSchema_eq, BlockReference.ofSchema_eq, BlockSchema.bare, List.foldl_map]
  rfl

lemma toolboxCategory_bare (cc : CompiledCategory) :
    cc.bare.toolboxCategory = cc.toolboxCategory := by
  have h : (cc.outcomes.map Outcome.bare).filterMap
      (fun out => out.schema?.map BlockReference.ofSchema) =
        cc.outcomes.filterMap fun out => out.schema?.map BlockReference.ofSchema := by
    rw [List.filterMap_map]
    congr 1
    funext out
    rcases hs : out.schema? with _ | s <;> simp [schema?_bare, hs, ofSchema_bare]
  simp only [CompiledCategory.toolboxCategory, CompiledCategory.bare, Category.bare, Category.map,
    h]

lemma diagnostics_bare (out : Outcome) : out.bare.diagnostics = out.diagnostics := by
  obtain ⟨e, ws, d | s⟩ := out <;> rfl

lemma categories_bare (o : Options) (vocabulary : List Category) :
    (compile o (vocabulary.map Category.bare)).categories =
      (compile o vocabulary).categories.map CompiledCategory.bare :=
  compileCategories_bare o [] vocabulary

lemma outcomes_bare (o : Options) (vocabulary : List Category) :
    (compile o (vocabulary.map Category.bare)).outcomes =
      (compile o vocabulary).outcomes.map Outcome.bare := by
  rw [Compilation.outcomes, categories_bare, List.flatMap_map, Compilation.outcomes,
    List.map_flatMap]
  rfl

/-- **Without its widgets a vocabulary has the same toolbox and the same diagnostics.** -/
lemma compile_bare (o : Options) (vocabulary : List Category) :
    (compile o (vocabulary.map Category.bare)).toolbox = (compile o vocabulary).toolbox ∧
    (compile o (vocabulary.map Category.bare)).diagnostics = (compile o vocabulary).diagnostics := by
  constructor
  · rw [Compilation.toolbox, categories_bare, List.map_map]
    exact congrArg (Toolbox.assemble · o.defaultCategories)
      (List.map_congr_left fun cc _ => toolboxCategory_bare cc)
  · rw [Compilation.diagnostics, outcomes_bare, List.flatMap_map]
    exact congrArg (fun f => Diagnostics.empty.pushAll ((compile o vocabulary).outcomes.flatMap f))
      (funext diagnostics_bare)

/-- Vocabularies that differ in widgets only have the same toolbox and the same diagnostics. -/
lemma compile_congr_bare {vocabulary vocabulary' : List Category}
    (h : vocabulary'.map Category.bare = vocabulary.map Category.bare) (o : Options) :
    (compile o vocabulary').toolbox = (compile o vocabulary).toolbox ∧
    (compile o vocabulary').diagnostics = (compile o vocabulary).diagnostics := by
  obtain ⟨htool, hdiag⟩ := compile_bare o vocabulary
  obtain ⟨htool', hdiag'⟩ := compile_bare o vocabulary'
  rw [h] at htool' hdiag'
  exact ⟨htool'.symm.trans htool, hdiag'.symm.trans hdiag⟩

/-! ### Registries -/

/-- The same generators, and the same blocks but for their widgets. -/
structure Registries.Alike (r r' : Registries) : Prop where
  generators : r.generators = r'.generators
  blocks : ∀ n, (r.blocks.get? n).map BlockSchema.bare = (r'.blocks.get? n).map BlockSchema.bare

lemma Registries.Alike.refl (r : Registries) : r.Alike r := ⟨rfl, fun _ => rfl⟩

lemma Registries.Alike.symm {r r' : Registries} (h : r.Alike r') : r'.Alike r :=
  ⟨h.generators.symm, fun n => (h.blocks n).symm⟩

lemma Registries.Alike.trans {r r' r'' : Registries} (h : r.Alike r') (h' : r'.Alike r'') :
    r.Alike r'' :=
  ⟨h.generators.trans h'.generators, fun n => (h.blocks n).trans (h'.blocks n)⟩

lemma Fragment.bare_bare (f : Fragment) : f.bare.bare = f.bare := by
  cases f <;> rfl

lemma BlockSchema.bare_bare (s : BlockSchema) : s.bare.bare = s.bare := by
  simp [BlockSchema.bare, Row.bare, Function.comp_def, Fragment.bare_bare]

/-- Registering a block with other widgets keeps registries alike. -/
lemma Registries.Alike.addBlock {r r' : Registries} (h : r.Alike r') (s : BlockSchema) :
    (r.addBlock s).Alike (r'.addBlock s.bare) := by
  refine ⟨h.generators, fun n => ?_⟩
  have ht : s.bare.type = s.type := rfl
  by_cases hn : n = s.type
  · simp [Registries.addBlock, ht, hn, BlockSchema.bare_bare]
  · simp [Registries.addBlock, ht, Table.get?_insert_of_ne _ _ hn, h.blocks]

lemma Registries.Alike.record {r r' : Registries} (h : r.Alike r') (out : Outcome) :
    (r.record out).Alike (r'.record out.bare) := by
  rw [Registries.record, Registries.record, schema?_bare]
  rcases out.schema? with _ | s
  · exact h
  · have hs := h.addBlock s
    exact ⟨congrArg (Table.insert · out.entry.name out.entry.generator) hs.generators, hs.blocks⟩

lemma alike_foldl_record {r r' : Registries} (h : r.Alike r') (outs : List Outcome) :
    (outs.foldl Registries.record r).Alike
      ((outs.map Outcome.bare).foldl Registries.record r') := by
  induction outs generalizing r r' with
  | nil => exact h
  | cons out outs ih => exact ih (h.record out)

/-- **Without its widgets a vocabulary registers the same generators and the same bare blocks.** -/
lemma register_bare (o : Options) (vocabulary : List Category) (r : Registries) :
    ((compile o vocabulary).register r).Alike
      ((compile o (vocabulary.map Category.bare)).register r) := by
  rw [Compilation.register, Compilation.register, outcomes_bare]
  exact alike_foldl_record (.refl r) _

/-- Vocabularies that differ in widgets only leave registries alike. -/
lemma register_congr_bare {vocabulary vocabulary' : List Category}
    (h : vocabulary'.map Category.bare = vocabulary.map Category.bare) (o : Options)
    (r : Registries) :
    ((compile o vocabulary').register r).Alike ((compile o vocabulary).register r) :=
  (h ▸ register_bare o vocabulary' r).trans (register_bare o vocabulary r).symm

/-! ### Made widgets -/

variable {σ : Type}

lemma bare_make (sources : σ) (f : Field (WidgetSource σ)) :
    (f.make.run sources).1.bare = f.bare := by
  cases f <;> rfl

lemma bare_next (sources : σ) (f : Field (WidgetSource σ)) :
    (f.map (WidgetSource.next sources)).bare = f.bare := by
  cases f <;> rfl

lemma bare_settleFields (policy : UnknownFieldPolicy) (index : ℕ) (sources : σ)
    (fs : List (Field (WidgetSource σ))) :
    (settleFields policy index sources fs).1.map Field.bare = fs.map Field.bare := by
  induction fs generalizing index sources with
  | nil => rfl
  | cons f fs ih =>
    have hmade := bare_make sources f
    rw [settleFields]
    generalize f.make.run sources = result at hmade ⊢
    obtain ⟨made, after⟩ := result
    dsimp only at hmade ⊢
    split
    · simp [hmade, bare_next]
    · simp [hmade, ih]

lemma bare_settle_entry (o : Options) (declared : Bool) (sources : σ)
    (e : Entry (WidgetSource σ)) : (e.settle o declared sources).1.bare = e.bare := by
  have hmap : (e.map (WidgetSource.next sources)).template.map Field.bare =
      e.template.map Field.bare := by
    simp [Entry.map, bare_next]
  have hfields := bare_settleFields o.unknownFields 0 sources e.template
  unfold Entry.settle
  split
  · exact congrArg (fun template => { e with template := template }) hmap
  · exact congrArg (fun template => { e with template := template }) hfields

lemma bare_settleEntries (o : Options) (category colour : String) (accepted : List String)
    (sources : σ) (es : List (Entry (WidgetSource σ))) :
    (settleEntries o category colour accepted sources es).1.map Entry.bare =
      es.map Entry.bare := by
  induction es generalizing accepted sources with
  | nil => rfl
  | cons e es ih => simp [settleEntries, bare_settle_entry, ih]

/-- **What is settled is widgets only.** -/
lemma bare_settle (o : Options) (sources : σ) (vocabulary : List (Category (WidgetSource σ))) :
    (settle o sources vocabulary).1.map Category.bare = vocabulary.map Category.bare := by
  suffices h : ∀ accepted, (settleCategories o accepted sources vocabulary).1.map Category.bare =
      vocabulary.map Category.bare from h []
  induction vocabulary generalizing sources with
  | nil => intro accepted; rfl
  | cons c cs ih =>
    intro accepted
    have he := bare_settleEntries o c.name (visibleColour c.colour) accepted sources c.entries
    simp only [settleCategories, List.map_cons, ih]
    exact congrArg (· :: _) (congrArg (fun es => { c with entries := es }) he)

end BlockVocabulary
