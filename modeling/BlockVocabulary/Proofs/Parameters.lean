import BlockVocabulary.Proofs.Chunks
import BlockVocabulary.Proofs.Descriptors
import Mathlib.Data.List.Perm.Basic
import Mathlib.Data.List.SplitBy

/-!
The parameters in a descriptor.

They are the widgets and the connections that the template declares. The input of a row is listed
after what stands on the row, so a place for statements is listed after the widgets on its row. Cut
in front of every field that ends a row, a template falls into stretches; in each of them the place
for statements is listed last and all else in the order of the template. The types are those that
are declared: a tag goes through the check token of the editor, and no two tags for values share
one.
-/

namespace BlockVocabulary

/-! ### Declared parameters -/

/-- The tag of a connection; without one it takes anything. -/
def Connection.declaredType (c : Connection) : String := c.tag.getD ConnectionType.any.tag

/-- The parameter that a field declares. -/
def Field.parameter? : Field → Option Parameter
  | .widget name w => some ⟨name, w.kind⟩
  | .connection c => some ⟨c.name, c.declaredType⟩
  | _ => none

/-- The field is a place for statements. -/
def Field.holdsStatements : Field → Bool
  | .connection c => c.tag = some ConnectionType.void.tag
  | _ => false

/-- The field ends the row before it: a connection, or a text with a line feed in it. -/
def Field.endsRow : Field → Bool
  | .text content => content.toList.contains '\n'
  | .connection _ => true
  | _ => false

/-- A template, cut in front of every field that ends a row. -/
def stretches (template : List Field) : List (List Field) := template.splitBy fun _ f => !f.endsRow

/-- The parameters of a stretch, those of a place for statements last. -/
def stretchParameters (fields : List Field) : List Parameter :=
  (fields.filter fun f => !f.holdsStatements).filterMap Field.parameter? ++
    (fields.filter fun f => f.holdsStatements).filterMap Field.parameter?

/-- The parameters that a template declares, in the order in which they are listed. -/
def declaredParameters (template : List Field) : List Parameter :=
  (stretches template).flatMap stretchParameters

lemma holdsStatements_of_not_endsRow {f : Field} (h : f.endsRow = false) :
    f.holdsStatements = false := by
  cases f with
  | connection c => cases h
  | _ => rfl

/-- Every declared parameter is listed once. -/
lemma declaredParameters_perm (template : List Field) :
    (declaredParameters template).Perm (template.filterMap Field.parameter?) := by
  have hstretch : ∀ fields : List Field,
      (stretchParameters fields).Perm (fields.filterMap Field.parameter?) := by
    intro fields
    rw [stretchParameters, ← List.filterMap_append]
    refine (List.perm_append_comm.trans ?_).filterMap _
    exact List.filter_append_perm (fun f => f.holdsStatements) fields
  have hjoin : template.filterMap Field.parameter? =
      (stretches template).flatMap (List.filterMap Field.parameter?) := by
    conv_lhs => rw [← List.flatten_splitBy (fun _ f => !f.endsRow) template, List.filterMap_flatten]
    rw [List.flatMap_def]
    rfl
  rw [hjoin]
  exact List.Perm.flatMap_left _ fun fields _ => hstretch fields

/-! ### Types -/

/-- A place for a value is listed with the type that it declares. -/
lemma checkTag_of_type? {c : Connection} {t : ConnectionType} (ht : c.type? = some t)
    (hv : t ≠ .void) : checkTag t.check = c.declaredType := by
  rw [checkTag, ConnectionType.ofCheck?_check hv, Option.getD_some, Connection.declaredType]
  unfold Connection.type? at ht
  rcases htag : c.tag with _ | tag <;> rw [htag] at ht
  · obtain rfl : ConnectionType.any = t := Option.some.inj ht
    rfl
  · exact ConnectionType.tag_of_ofTag? ht

lemma parameter?_input {c : Connection} (h : c.type?.isSome = true) :
    c.input.parameter? = some ⟨c.name, c.declaredType⟩ := by
  obtain ⟨t, ht⟩ := Option.isSome_iff_exists.mp h
  unfold Connection.input
  split
  · next hv => rw [Connection.declaredType, hv]; rfl
  · next hv =>
    have hne : t ≠ .void := by
      rintro rfl
      exact hv ((Connection.isStatement_iff ht).mp rfl)
    rw [ht, Option.bind_some, Input.parameter?, checkTag_of_type? ht hne]

/-- The type of the value that an accepted entry yields is the one that its output declares. -/
lemma returns_ofSchema {e : Entry} {s : BlockSchema} (h : e.shape = .ok s.shape)
    (category : String) :
    (Descriptor.ofSchema s category).returns = e.output.map Connection.declaredType := by
  unfold Entry.shape at h
  split at h
  · next hnone => simp [Descriptor.ofSchema, ← Except.ok.inj h, hnone]
  · next c hc =>
    split at h
    · cases h
    · next t ht =>
      split at h
      · cases h
      · next hv =>
        have hne : t ≠ .void := by simpa [ConnectionType.isStatement] using hv
        simp [Descriptor.ofSchema, ← Except.ok.inj h, hc,
          checkTag_of_type? (Connection.resolve_eq_ok ht) hne]

/-! ### Parameters of rows -/

/-- The parameters of the rows that chunks make, `held` being that of the input of the open row. -/
def parametersFrom (held : Option Parameter) : List Chunk → List Parameter
  | [] => held.toList
  | .content f :: cs => f.parameter?.toList ++ parametersFrom held cs
  | .lineBreak :: cs => held.toList ++ parametersFrom none cs
  | .slot c :: cs =>
    held.toList ++
      if c.tag = some ConnectionType.void.tag then parametersFrom c.input.parameter? cs
      else c.input.parameter?.toList ++ parametersFrom none cs

lemma parameters_rowsFrom (r : Row) (cs : List Chunk) :
    (rowsFrom r cs).flatMap Row.parameters =
      r.fragments.filterMap Fragment.parameter? ++ parametersFrom r.input.parameter? cs := by
  induction cs generalizing r with
  | nil => simp [rowsFrom, parametersFrom, Row.parameters]
  | cons c cs ih =>
    cases c with
    | content f =>
      rw [rowsFrom, ih, parametersFrom]
      rcases hf : f.parameter? with _ | p <;> simp [Row.push, hf]
    | lineBreak =>
      rw [rowsFrom, List.flatMap_cons, ih, parametersFrom, Row.parameters, List.append_assoc]
      rfl
    | slot d =>
      rw [rowsFrom, parametersFrom]
      split
      · rw [List.flatMap_cons, ih, Row.parameters, List.append_assoc]
        rfl
      · rw [List.flatMap_cons, List.flatMap_cons, ih, Row.parameters, List.append_assoc]
        rfl

/-! ### Fields -/

lemma parametersFrom_lineChunks (held : Option Parameter) (line : String) (cs : List Chunk) :
    parametersFrom held (lineChunks line ++ cs) = parametersFrom held cs := by
  unfold lineChunks
  split <;> rfl

/-- The first line joins the open row, and any further line ends it. -/
lemma parametersFrom_lines (held : Option Parameter) (line : String) (lines : List String)
    (cs : List Chunk) :
    parametersFrom held ([Chunk.lineBreak].intercalate ((line :: lines).map lineChunks) ++ cs) =
      if lines = [] then parametersFrom held cs else held.toList ++ parametersFrom none cs := by
  induction lines generalizing held line with
  | nil => simp [parametersFrom_lineChunks]
  | cons next lines ih =>
    rw [List.map_cons, List.map_cons, List.intercalate_cons_cons, ← List.map_cons,
      List.append_assoc, List.append_assoc, parametersFrom_lineChunks, List.singleton_append,
      parametersFrom, ih, if_neg (List.cons_ne_nil _ _)]
    simp

lemma parametersFrom_text (held : Option Parameter) (content : String) (cs : List Chunk) :
    parametersFrom held ((Field.text content).chunks ++ cs) =
      if '\n' ∈ content.toList then held.toList ++ parametersFrom none cs
      else parametersFrom held cs := by
  have hlength : (Text.segments content).length = content.toList.count '\n' + 1 := by
    rw [Text.segments, List.length_map, Text.splitAtFeeds_eq_splitOn, length_splitOn]
  rw [chunks_text]
  rcases hs : Text.segments content with _ | ⟨line, lines⟩
  · exact absurd hs (Text.segments_ne_nil content)
  · rw [hs, List.length_cons] at hlength
    have hlines : lines = [] ↔ '\n' ∉ content.toList := by
      rw [← List.length_eq_zero_iff, ← List.count_eq_zero]
      omega
    rw [parametersFrom_lines]
    by_cases hfeed : '\n' ∈ content.toList <;> simp [hlines, hfeed]

lemma parametersFrom_of_not_endsRow {f : Field} (h : f.endsRow = false) (held : Option Parameter)
    (cs : List Chunk) :
    parametersFrom held (f.chunks ++ cs) = f.parameter?.toList ++ parametersFrom held cs := by
  cases f with
  | text content =>
    have hfeed : '\n' ∉ content.toList := by simpa [Field.endsRow] using h
    rw [parametersFrom_text, if_neg hfeed]
    rfl
  | widget name w => rfl
  | connection c => cases h
  | unrecognized v => rfl

/-- Where a row ends, the parameter of its input is listed. -/
lemma parametersFrom_of_endsRow {f : Field} (h : f.endsRow = true)
    (hknown : ∀ c ∈ f.slot?, c.type?.isSome = true) (held : Option Parameter) (cs : List Chunk) :
    parametersFrom held (f.chunks ++ cs) =
      held.toList ++
        if f.holdsStatements then parametersFrom f.parameter? cs
        else f.parameter?.toList ++ parametersFrom none cs := by
  cases f with
  | text content =>
    have hfeed : '\n' ∈ content.toList := by simpa [Field.endsRow] using h
    rw [parametersFrom_text, if_pos hfeed]
    rfl
  | connection c =>
    rw [Field.chunks, List.singleton_append, parametersFrom, parameter?_input (hknown c rfl)]
    simp [Field.holdsStatements, Field.parameter?]
  | _ => cases h

lemma parametersFrom_fields {fields : List Field} (h : ∀ f ∈ fields, f.endsRow = false)
    (held : Option Parameter) (cs : List Chunk) :
    parametersFrom held (chunks fields ++ cs) =
      fields.filterMap Field.parameter? ++ parametersFrom held cs := by
  induction fields with
  | nil => rfl
  | cons f fields ih =>
    rw [chunks, List.flatMap_cons, List.append_assoc,
      parametersFrom_of_not_endsRow (h f List.mem_cons_self)]
    have hrest := ih fun g hg => h g (List.mem_cons_of_mem f hg)
    rw [chunks] at hrest
    rw [hrest]
    rcases hf : f.parameter? with _ | p <;> simp [hf]

/-! ### Stretches -/

lemma chunks_append (fields fields' : List Field) :
    chunks (fields ++ fields') = chunks fields ++ chunks fields' :=
  List.flatMap_append

lemma slots_append (fields fields' : List Field) :
    slots (fields ++ fields') = slots fields ++ slots fields' :=
  List.filterMap_append

lemma forall_mem_tail_of_isChain {α : Type} {P : α → Prop} {l : List α}
    (h : l.IsChain fun _ a => P a) : ∀ a ∈ l.tail, P a := by
  induction l with
  | nil => simp
  | cons a l ih =>
    cases l with
    | nil => simp
    | cons b l =>
      obtain ⟨hb, hl⟩ := List.isChain_cons_cons.mp h
      exact List.forall_mem_cons.mpr ⟨hb, ih hl⟩

/-- No field of the list ends a row, but for the first one, which may. -/
def IsStretch (fields : List Field) : Prop := fields ≠ [] ∧ ∀ f ∈ fields.tail, f.endsRow = false

lemma isStretch_of_mem {template s : List Field} (h : s ∈ stretches template) : IsStretch s := by
  refine ⟨List.ne_nil_of_mem_splitBy h, ?_⟩
  have hchain : s.IsChain fun _ f => (!f.endsRow) = true := List.isChain_of_mem_splitBy h
  simpa using forall_mem_tail_of_isChain hchain

/-- All stretches but the first begin with a field that ends a row. -/
lemma endsRow_of_mem_tail {template s : List Field} (h : s ∈ (stretches template).tail) :
    ∃ f ∈ s.head?, f.endsRow = true := by
  have hchain := List.isChain_getLast_head_splitBy (fun _ f => !f.endsRow) template
  have htail := forall_mem_tail_of_isChain (P := fun s => ∃ f ∈ s.head?, f.endsRow = true)
    (hchain.imp fun {s s'} hhead => ?_)
  · exact htail s h
  · obtain ⟨-, hne, hends⟩ := hhead
    exact ⟨s'.head hne, List.head_mem_head? hne, by simpa using hends⟩

lemma stretchParameters_of_not_endsRow {fields : List Field}
    (h : ∀ f ∈ fields, f.endsRow = false) :
    stretchParameters fields = fields.filterMap Field.parameter? := by
  have hall : fields.filter (fun f => !f.holdsStatements) = fields :=
    List.filter_eq_self.mpr fun f hf => by simp [holdsStatements_of_not_endsRow (h f hf)]
  have hnone : fields.filter (fun f => f.holdsStatements) = [] :=
    List.filter_eq_nil_iff.mpr fun f hf => by simp [holdsStatements_of_not_endsRow (h f hf)]
  rw [stretchParameters, hall, hnone, List.filterMap_nil, List.append_nil]

lemma stretchParameters_cons {f : Field} {fields : List Field}
    (h : ∀ g ∈ fields, g.endsRow = false) :
    stretchParameters (f :: fields) =
      if f.holdsStatements then fields.filterMap Field.parameter? ++ f.parameter?.toList
      else f.parameter?.toList ++ fields.filterMap Field.parameter? := by
  have hrest := stretchParameters_of_not_endsRow h
  have hnone : fields.filter (fun g => g.holdsStatements) = [] :=
    List.filter_eq_nil_iff.mpr fun g hg => by simp [holdsStatements_of_not_endsRow (h g hg)]
  rw [stretchParameters, hnone, List.filterMap_nil, List.append_nil] at hrest
  by_cases hf : f.holdsStatements = true <;> rcases hp : f.parameter? with _ | p <;>
    simp [stretchParameters, hf, hnone, hrest, hp]

/-- **Stretches list their parameters one after the other**, after that of the row they end. -/
lemma parametersFrom_stretches {ss : List (List Field)}
    (hss : ∀ s ∈ ss, IsStretch s ∧ ∃ f ∈ s.head?, f.endsRow = true)
    (hknown : ∀ c ∈ slots ss.flatten, c.type?.isSome = true) (held : Option Parameter)
    {cs : List Chunk} (hcs : ∀ held, parametersFrom held cs = held.toList) :
    parametersFrom held (chunks ss.flatten ++ cs) =
      held.toList ++ ss.flatMap stretchParameters := by
  induction ss generalizing held with
  | nil => simpa [chunks] using hcs held
  | cons s ss ih =>
    obtain ⟨⟨⟨hne, htail⟩, f, hf, hends⟩, hrest⟩ := List.forall_mem_cons.mp hss
    obtain ⟨fields, rfl⟩ : ∃ fields, s = f :: fields :=
      ⟨s.tail, List.eq_cons_of_mem_head? hf⟩
    replace htail : ∀ g ∈ fields, g.endsRow = false := htail
    rw [List.flatten_cons, List.cons_append, slots_cons, List.forall_mem_append] at hknown
    have hslot : ∀ c ∈ f.slot?, c.type?.isSome = true := fun c hc =>
      hknown.1 c (Option.mem_toList.mpr hc)
    have hflat : chunks ((f :: fields) :: ss).flatten ++ cs =
        f.chunks ++ (chunks fields ++ (chunks ss.flatten ++ cs)) := by
      rw [List.flatten_cons, List.cons_append, chunks, List.flatMap_cons, ← chunks, chunks_append,
        List.append_assoc, List.append_assoc]
    have hnext := fun held => ih hrest (fun c hc => hknown.2 c ?_) held
    · rw [hflat, parametersFrom_of_endsRow hends hslot, parametersFrom_fields htail,
        parametersFrom_fields htail, hnext, hnext, List.flatMap_cons, stretchParameters_cons htail]
      split <;> simp
    · rw [slots_append]
      exact List.mem_append_right _ hc

/-- From the start, where no row is open, the fields list the declared parameters. -/
lemma parametersFrom_chunks {template : List Field}
    (hknown : ∀ c ∈ slots template, c.type?.isSome = true)
    {cs : List Chunk} (hcs : ∀ held, parametersFrom held cs = held.toList) :
    parametersFrom none (chunks template ++ cs) = declaredParameters template := by
  have hflat : (stretches template).flatten = template := List.flatten_splitBy _ _
  have hstretch : ∀ s ∈ stretches template, IsStretch s := fun s => isStretch_of_mem
  have hbegun : ∀ s ∈ (stretches template).tail, ∃ f ∈ s.head?, f.endsRow = true :=
    fun s => endsRow_of_mem_tail
  rw [declaredParameters]
  generalize stretches template = ss at hflat hstretch hbegun
  subst hflat
  rcases ss with _ | ⟨s, ss⟩
  · exact hcs none
  · obtain ⟨⟨hne, htail⟩, hrest⟩ := List.forall_mem_cons.mp hstretch
    have hlater : ∀ s ∈ ss, IsStretch s ∧ ∃ f ∈ s.head?, f.endsRow = true :=
      fun s hs => ⟨hrest s hs, hbegun s hs⟩
    obtain ⟨f, fields, rfl⟩ := List.exists_cons_of_ne_nil hne
    by_cases hf : f.endsRow = true
    · exact parametersFrom_stretches
        (List.forall_mem_cons.mpr ⟨⟨⟨hne, htail⟩, f, rfl, hf⟩, hlater⟩) hknown none hcs
    · -- only the first stretch may begin with a field that does not end a row
      have hfirst : ∀ g ∈ f :: fields, g.endsRow = false :=
        List.forall_mem_cons.mpr ⟨by simpa using hf, htail⟩
      rw [List.flatten_cons, slots_append, List.forall_mem_append] at hknown
      rw [List.flatten_cons, chunks_append, List.append_assoc, parametersFrom_fields hfirst,
        parametersFrom_stretches hlater hknown.2 none hcs, List.flatMap_cons,
        stretchParameters_of_not_endsRow hfirst]
      rfl

/-- **The rows of a layout have the parameters that its template declares.** -/
lemma parameters_layOut {o : LayoutOptions} {template : List Field} {l : Layout}
    (h : layOut o template = .ok l) :
    l.rows.flatMap Row.parameters = declaredParameters template := by
  have hspared : (spared template).flatMap Row.parameters = [] := by
    unfold spared
    split <;> rfl
  have hrows := congrArg (List.flatMap Row.parameters) (rows_layOut h)
  rw [List.flatMap_append, hspared, List.nil_append, parameters_rowsFrom] at hrows
  exact hrows.trans (parametersFrom_chunks (takes_layOut h).known fun _ => rfl)

/-! ### Descriptors -/

/-- If blocks stood under their types before a compile, they do so after it. -/
lemma type_of_get?_register {o : Options} {vocabulary : List Category} {r : Registries}
    (hr : ∀ k s, r.blocks.get? k = some s → s.type = k) {k : String} {s : BlockSchema}
    (h : ((compile o vocabulary).register r).blocks.get? k = some s) : s.type = k := by
  by_cases hk : k ∈ (compile o vocabulary).names
  · have htype := type_of_mem_names hk r
    rw [h] at htype
    exact Option.some.inj htype
  · rw [(get?_register_of_not_mem hk r).1] at h
    exact hr k s h

/-- The descriptor of a block is found by its type, if the blocks that are mentioned before it stand
under other types. -/
lemma find?_descriptors {t : Toolbox} {blocks : Table BlockSchema}
    {before after : List (String × String)} {m : String × String} {s : BlockSchema}
    (hfirsts : firsts t.mentions = before ++ m :: after)
    (hs : blocks.get? m.1 = some s) (htype : s.type = m.1)
    (hbefore : ∀ m' ∈ before, ∀ s', blocks.get? m'.1 = some s' → s'.type ≠ m.1) :
    (t.descriptors blocks).find? (·.name = m.1) = some (Descriptor.ofSchema s m.2) := by
  have hnone : ((before.filterMap fun m => (blocks.get? m.1).map fun s => (s, m.2)).map
      fun r => Descriptor.ofSchema r.1 r.2).find? (·.name = m.1) = none := by
    rw [List.find?_eq_none]
    intro x hx
    obtain ⟨r, hr, rfl⟩ := List.mem_map.mp hx
    obtain ⟨m', hm', heq⟩ := List.mem_filterMap.mp hr
    obtain ⟨s', hs', rfl⟩ := Option.map_eq_some_iff.mp heq
    rw [decide_eq_true_iff]
    exact hbefore m' hm' s' hs'
  rw [Toolbox.descriptors, Toolbox.registered, hfirsts, List.filterMap_append, List.map_append,
    List.find?_append, hnone, Option.none_or]
  simp [hs, Descriptor.ofSchema, htype]

/-- If all blocks stand under their types, no two descriptors have the same name. -/
lemma eq_of_mem_descriptors {t : Toolbox} {blocks : Table BlockSchema}
    (hblocks : ∀ k s, blocks.get? k = some s → s.type = k) {x y : Descriptor}
    (hx : x ∈ t.descriptors blocks) (hy : y ∈ t.descriptors blocks) (h : x.name = y.name) :
    x = y := by
  have hnames : ((t.descriptors blocks).map (·.name)).Nodup := by
    have hself : (t.descriptors blocks).map (·.name) = t.registeredNames blocks := by
      rw [names_descriptors_toolbox, Toolbox.registeredNames, ← List.filterMap_eq_filter]
      refine List.filterMap_congr fun k _ => ?_
      rcases hk : blocks.get? k with _ | s
      · simp [Option.guard, Table.contains, hk]
      · simp [Option.guard, Table.contains, hk, hblocks k s hk]
    rw [hself]
    exact nodup_registeredNames t blocks
  exact List.inj_on_of_nodup_map hnames hx hy h

/-- The toolbox mentions an accepted name after other accepted names only. -/
lemma firsts_mentions_of_mem_names {o : Options} {vocabulary : List Category} {n : String}
    (h : n ∈ (compile o vocabulary).names) :
    ∃ before m after, firsts (compile o vocabulary).toolbox.mentions = before ++ m :: after ∧
      m.1 = n ∧ ∀ m' ∈ before, m'.1 ∈ (compile o vocabulary).names ∧ m'.1 ≠ n := by
  have hnames := map_fst_firsts_mentions (compile o vocabulary).toolbox
  rw [blockTypes_toolbox, List.eraseDups_append] at hnames
  obtain ⟨ns, ms, hsplit⟩ := List.append_of_mem (List.mem_eraseDups.mpr h)
  have hnodup := nodup_eraseDups (compile o vocabulary).names
  rw [hsplit] at hnames hnodup
  rw [List.append_assoc, List.cons_append] at hnames
  obtain ⟨before, rest, hfirsts, hbefore, hrest⟩ := List.map_eq_append_iff.mp hnames
  obtain ⟨m, after, rfl, hm, -⟩ := List.map_eq_cons_iff.mp hrest
  refine ⟨before, m, after, hfirsts, hm, fun m' hm' => ?_⟩
  have hmem : m'.1 ∈ ns := hbefore ▸ List.mem_map_of_mem hm'
  refine ⟨List.mem_eraseDups.mp (hsplit ▸ List.mem_append_left _ hmem), fun heq => ?_⟩
  exact List.disjoint_of_nodup_append hnodup hmem (heq ▸ List.mem_cons_self)

/-- **Descriptors report what is declared.** An entry that is the only accepted one of its name has
a descriptor, and if all blocks stood under their types before the compile no other descriptor has
its name. It tells the type of the output, and the parameters of the template, each of them once. -/
theorem reported_descriptors {o : Options} (hv : o.vocabulary = true) (vocabulary : List Category)
    (r : Registries) {n : String} {d : Category × Outcome}
    (hd : (compile o vocabulary).acceptedOf n = [d]) :
    ∃ ds x, (compile o vocabulary).descriptors? r = some ds ∧ ds.find? (·.name = n) = some x ∧
      ((∀ k s, r.blocks.get? k = some s → s.type = k) → ∀ y ∈ ds, y.name = n → y = x) ∧
      x.returns = d.2.entry.output.map Connection.declaredType ∧
      x.parameters = declaredParameters d.2.entry.template ∧
      x.parameters.Perm (d.2.entry.template.filterMap Field.parameter?) := by
  obtain ⟨hmem, hreg⟩ : d ∈ (compile o vocabulary).judged ∧ d.2.registers n = true :=
    List.mem_filter.mp (hd ▸ List.mem_singleton_self d)
  obtain ⟨hacc, hname⟩ := registers_iff.mp hreg
  obtain ⟨s, hs⟩ := Option.isSome_iff_exists.mp hacc
  obtain ⟨declared, hout⟩ := mem_judged_compile hmem
  obtain ⟨-, l, hl, -, ha⟩ := of_schema?_outcome (hout ▸ hs)
  obtain ⟨hshape, hschema⟩ := assemble_eq_ok ha
  have hrows : s.rows = l.rows := congrArg BlockSchema.rows hschema
  have htype : s.type = n := (congrArg BlockSchema.type hschema).trans hname
  have hget : ((compile o vocabulary).register r).blocks.get? n = some s := by
    rw [(get?_register o vocabulary r n).1, getLast?_filter_outcomes, hd]
    exact hs
  have hn : n ∈ (compile o vocabulary).names := by
    refine (mem_acceptedNames_iff (fun _ => named_of_mem_outcomes) n).mpr ⟨d.2, ?_, hreg⟩
    rw [outcomes_eq_judged]
    exact List.mem_map_of_mem hmem
  obtain ⟨before, m, after, hfirsts, rfl, hbefore⟩ := firsts_mentions_of_mem_names hn
  have hfind := find?_descriptors hfirsts hget htype fun m' hm' s' hs' => by
    have htype' := type_of_mem_names (hbefore m' hm').1 r
    rw [hs', Option.map_some] at htype'
    exact Option.some.inj htype' ▸ (hbefore m' hm').2
  have hparameters : (Descriptor.ofSchema s m.2).parameters =
      declaredParameters d.2.entry.template := by
    rw [Descriptor.ofSchema, hrows]
    exact parameters_layOut hl
  refine ⟨_, _, if_pos hv, hfind, fun hr y hy hyn => ?_, returns_ofSchema hshape m.2, hparameters,
    hparameters ▸ declaredParameters_perm _⟩
  exact eq_of_mem_descriptors (fun k s => type_of_get?_register hr) hy
    (List.mem_of_find?_eq_some hfind) (hyn.trans htype.symm)

/-- A loop with a menu after each of its places, and a declaration of its name that fails. -/
def menuLoop : List Category :=
  [{ name := "Loops",
     entries :=
      [{ name := "loop", output := some { tag := some "void" } },
        { name := "loop"
          template :=
            [.text "repeat", .connection { name := "COUNT", tag := some "number" },
              .widget "UNIT" ⟨"menu", .empty⟩, .connection { name := "BODY", tag := some "void" },
              .widget "MODE" ⟨"menu", .empty⟩, .text "until\nthen",
              .widget "NEXT" ⟨"menu", .empty⟩, .connection { name := "ELSE" }]
          output := some { tag := some "color" } }] }]

theorem reported_descriptors_menuLoop :
    ∃ ds x, (compile { vocabulary := true } menuLoop).descriptors? .empty = some ds ∧
      ds.find? (·.name = "loop") = some x ∧ x.returns = some "color" ∧
      x.parameters.map (fun p => (p.name, p.type)) =
        [("COUNT", "number"), ("UNIT", "menu"), ("MODE", "menu"), ("BODY", "void"),
          ("NEXT", "menu"), ("ELSE", "any")] := by
  obtain ⟨ds, x, hds, hx, -, hreturns, hparameters, -⟩ := reported_descriptors
    (o := { vocabulary := true }) rfl menuLoop .empty (n := "loop") rfl
  exact ⟨ds, x, hds, hx, hreturns, hparameters ▸ by decide⟩

end BlockVocabulary
