import BlockVocabulary.Proofs.LayoutContent
import BlockVocabulary.Proofs.MessageReading
import BlockVocabulary.Proofs.Run
import BlockVocabulary.Proofs.TemplateElements

/-!
Widgets in the arguments of a definition.

The argument of a widget has the kind, the name and the properties of the widget, and the properties
go before the other two. So an argument goes by the name of its widget, as the parameter of the
descriptor does, unless the widget has a property called `name`; and it is of the kind of its widget
unless there is a property called `type`, which no widget from a document has.
-/

namespace BlockVocabulary

/-! ### One argument -/

/-- The argument of a widget that goes by the name: properties called `name` and `type` take the place
of the name and the kind, and nothing is added to the others. -/
structure Widget.ShownAs (name : String) (w : Widget) (argument : Json) : Prop where
  name : argument.get? "name" = some ((w.properties.get? "name").getD (.text name))
  type : argument.get? "type" = some ((w.properties.get? "type").getD (.text w.kind))
  others : ∀ key, key ≠ "name" → key ≠ "type" → argument.get? key = w.properties.get? key

lemma shownAs_argument (name : String) (w : Widget) : w.ShownAs name (w.argument name) := by
  refine ⟨?_, ?_, fun key hname htype => ?_⟩
  · rw [get?_argument]
    cases w.properties.get? "name" <;> rfl
  · rw [get?_argument]
    cases w.properties.get? "type" <;> rfl
  · rw [get?_argument]
    simp [List.lookup_cons, beq_false_of_ne hname, beq_false_of_ne htype]

/-- The argument has the name, the kind and the properties of the widget, and nothing else. -/
structure Widget.Identified (name : String) (w : Widget) (argument : Json) : Prop where
  name : argument.get? "name" = some (.text name)
  type : argument.get? "type" = some (.text w.kind)
  others : ∀ key, key ≠ "name" → key ≠ "type" → argument.get? key = w.properties.get? key

/-- The widget has no property called `name`, or one that says the same. -/
def Widget.KeepsName (name : String) (w : Widget) : Prop :=
  ∀ v, w.properties.get? "name" = some v → v = .text name

/-- The widget has no property called `type`, or one that says the same. -/
def Widget.KeepsKind (w : Widget) : Prop :=
  ∀ v, w.properties.get? "type" = some v → v = .text w.kind

lemma Widget.keepsName_iff {name : String} {w : Widget} :
    w.KeepsName name ↔ (w.properties.get? "name").getD (.text name) = .text name := by
  unfold KeepsName
  cases w.properties.get? "name" <;> simp

lemma Widget.keepsKind_iff {w : Widget} :
    w.KeepsKind ↔ (w.properties.get? "type").getD (.text w.kind) = .text w.kind := by
  unfold KeepsKind
  cases w.properties.get? "type" <;> simp

/-- An argument is the widget's own exactly if no property says otherwise. -/
lemma identified_iff {name : String} {w : Widget} {argument : Json}
    (h : w.ShownAs name argument) :
    w.Identified name argument ↔ w.KeepsName name ∧ w.KeepsKind := by
  rw [Widget.keepsName_iff, Widget.keepsKind_iff]
  constructor
  · rintro ⟨hname, htype, -⟩
    exact ⟨Option.some.inj (h.name.symm.trans hname), Option.some.inj (h.type.symm.trans htype)⟩
  · rintro ⟨hname, htype⟩
    exact ⟨h.name.trans (congrArg some hname), h.type.trans (congrArg some htype), h.others⟩

/-! ### All arguments -/

/-- What a row has arguments for: its fragments but for labels, and its input. -/
def Row.slots (r : Row) : List (Fragment ⊕ Input) :=
  (r.fragments.filter (·.label?.isNone)).map .inl ++ [.inr r.input]

/-- The argument of a fragment or an input: for a widget as told, for others as far as its name
goes. -/
inductive IsArgument (R : String → Widget → Json → Prop) : Fragment ⊕ Input → Json → Prop
  | widget {name : String} {w : Widget} {argument : Json} (h : R name w argument) :
      IsArgument R (.inl (.widget name w)) argument
  | help {source : String} {argument : Json} (h : argument.get? "name" = none) :
      IsArgument R (.inl (.help source)) argument
  | input {input : Input} {argument : Json}
      (h : argument.get? "name" = input.name?.map Json.text) : IsArgument R (.inr input) argument

/-- The name under which a descriptor has a parameter. -/
def slotName? : Fragment ⊕ Input → Option String
  | .inl (.widget name _) => some name
  | .inl _ => none
  | .inr input => input.name?

lemma isArgument_input (R : String → Widget → Json → Prop) (input : Input) :
    IsArgument R (.inr input) input.argument := by
  refine .input ?_
  rcases input with _ | ⟨name, _ | check, shadow⟩ | ⟨name, shadow⟩ <;>
    simp [Input.argument, Input.name?, Json.sorted, Json.get?, Json.optional, Keyed.lookup_ofList,
      List.lookup_cons]

lemma isArgument_fragments (fragments : List Fragment) :
    List.Forall₂ (IsArgument Widget.ShownAs) ((fragments.filter (·.label?.isNone)).map .inl)
      (fragments.filterMap Fragment.argument?) := by
  induction fragments with
  | nil => exact .nil
  | cons f fragments ih =>
    cases f with
    | label text => exact ih
    | widget name w => exact .cons (.widget (shownAs_argument name w)) ih
    | help source =>
      refine .cons (.help ?_) ih
      simp [Json.sorted, Json.get?, Keyed.lookup_ofList, List.lookup_cons]

lemma isArgument_rows (rows : List Row) :
    List.Forall₂ (IsArgument Widget.ShownAs) (rows.flatMap Row.slots) (rows.flatMap Row.arguments) := by
  induction rows with
  | nil => exact .nil
  | cons r rows ih =>
    have hrow : List.Forall₂ (IsArgument Widget.ShownAs) r.slots r.arguments :=
      List.rel_append (isArgument_fragments r.fragments) (.cons (isArgument_input _ r.input) .nil)
    exact List.rel_append hrow ih

lemma forall_widget_cons {P : String → Widget → Prop} {slot : Fragment ⊕ Input}
    {slots : List (Fragment ⊕ Input)} :
    (∀ name w, .inl (.widget name w) ∈ slot :: slots → P name w) ↔
      (∀ name w, slot = .inl (.widget name w) → P name w) ∧
        ∀ name w, .inl (.widget name w) ∈ slots → P name w := by
  constructor
  · intro h
    exact ⟨fun name w heq => h name w (by simp [heq]),
      fun name w hmem => h name w (List.mem_cons_of_mem _ hmem)⟩
  · rintro ⟨hslot, hslots⟩ name w hmem
    rcases List.mem_cons.mp hmem with heq | hmem
    · exact hslot name w heq.symm
    · exact hslots name w hmem

/-- **Arguments are those of their widgets** exactly if no property says otherwise. -/
lemma identified_arguments {slots : List (Fragment ⊕ Input)} {arguments : List Json}
    (h : List.Forall₂ (IsArgument Widget.ShownAs) slots arguments) :
    List.Forall₂ (IsArgument Widget.Identified) slots arguments ↔
      ∀ name w, .inl (.widget name w) ∈ slots → w.KeepsName name ∧ w.KeepsKind := by
  induction h with
  | nil => simp
  | @cons slot argument slots arguments h _ ih =>
    have hslot : IsArgument Widget.Identified slot argument ↔
        ∀ name w, slot = .inl (.widget name w) → w.KeepsName name ∧ w.KeepsKind := by
      constructor
      · rintro hslot name w rfl
        cases h with
        | widget h =>
          cases hslot with
          | widget hslot => exact (identified_iff h).mp hslot
      · intro hslot
        cases h with
        | @widget name w _ h => exact .widget ((identified_iff h).mpr (hslot name w rfl))
        | help h => exact .help h
        | input h => exact .input h
    rw [List.forall₂_cons, hslot, ih, forall_widget_cons]

lemma names_parameters (r : Row) : r.parameters.map (·.name) = r.slots.filterMap slotName? := by
  have hfragment : ∀ f : Fragment, f.parameter?.map (·.name) =
      if f.label?.isNone then slotName? (.inl f) else none := by
    rintro (_ | _ | _) <;> rfl
  have hinput : r.input.parameter?.toList.map (·.name) = (slotName? (.inr r.input)).toList := by
    rcases r.input with _ | _ | _ <;> rfl
  rw [Row.parameters, Row.slots, List.map_append, hinput, List.filterMap_append, List.map_filterMap,
    List.filterMap_map, List.filterMap_filter]
  simp only [hfragment, Function.comp_apply]
  congr 1

/-- **Arguments go by the names of the parameters** exactly if no widget has a property that gives it
another name. -/
lemma names_arguments {slots : List (Fragment ⊕ Input)} {arguments : List Json}
    (h : List.Forall₂ (IsArgument Widget.ShownAs) slots arguments) :
    arguments.filterMap (Json.get? "name") = (slots.filterMap slotName?).map Json.text ↔
      ∀ name w, .inl (.widget name w) ∈ slots → w.KeepsName name := by
  induction h with
  | nil => simp
  | @cons slot argument slots arguments h _ ih =>
    rw [forall_widget_cons, ← ih]
    cases h with
    | @widget name w _ h =>
      have hslot : slotName? (.inl (.widget name w)) = some name := rfl
      rw [List.filterMap_cons_some h.name, List.filterMap_cons_some hslot, List.map_cons,
        List.cons.injEq, ← Widget.keepsName_iff]
      simp
    | @help source _ h =>
      have hslot : slotName? (.inl (.help source)) = none := rfl
      rw [List.filterMap_cons_none h, List.filterMap_cons_none hslot]
      simp
    | @input input _ h =>
      have hslot : slotName? (.inr input) = input.name? := rfl
      rcases hname : input.name? with _ | name <;> rw [hname] at h hslot
      · rw [List.filterMap_cons_none h, List.filterMap_cons_none hslot]
        simp
      · rw [List.filterMap_cons_some h, List.filterMap_cons_some hslot, List.map_cons,
          List.cons.injEq]
        simp

/-! ### Widgets from documents -/

/-- The widgets of the template keep their kinds. -/
def Entry.KeepsKinds (e : Entry) : Prop :=
  ∀ name w, .widget name w ∈ e.template → w.KeepsKind

lemma keepsKind_of_reads {v : Json} {w : Widget} (h : w.Reads v) : w.KeepsKind := by
  rcases h with @⟨members, kind, htype⟩
  have hnone : (Table.ofList (members.filter (·.1 ≠ "type"))).get? "type" = none := by
    rw [Table.ofList, Table.get?, Keyed.lookup_ofList, List.lookup_eq_none_iff]
    intro m hm
    have hne : m.1 ≠ "type" := by simpa using (List.mem_filter.mp (List.mem_reverse.mp hm)).2
    exact bne_iff_ne.mpr hne.symm
  intro v hv
  cases hnone.symm.trans hv

lemma keepsKind_of_ofJson {v : Json} {name : String} {w : Widget}
    (h : Field.ofJson v = .widget name w) : w.KeepsKind := by
  rcases Field.ofJson_eq_iff.mp h with (h | h | h) | ⟨h, -⟩
  · cases h
  · rcases h with ⟨-, h⟩ | ⟨h⟩ <;> exact keepsKind_of_reads h
  · cases h
  · contradiction

/-- Only the field of that name sets a template. -/
lemma template_set {name : String} {v : Json} {e e' : Entry}
    (h : Entry.format.set name v e = .ok e') :
    e'.template = e.template ∨ Decode.list (fun v => .ok (Field.ofJson v)) v = .ok e'.template := by
  unfold Entry.format at h
  dsimp only at h
  split at h
  case h_7 => exact .inl (congrArg Entry.template (Except.ok.inj h)).symm
  all_goals
    obtain ⟨a, ha, h⟩ := bind_eq_ok.mp h
    obtain rfl := Except.ok.inj h
    first
      | exact .inr ha
      | exact .inl rfl

lemma keepsKinds_ofJson {v : Json} {e : Entry} (h : Entry.ofJson v = .ok e) : e.KeepsKinds := by
  refine Entry.format.read_invariant (P := Entry.KeepsKinds) (fun _ _ hmem => by cases hmem) ?_ h
  intro name v e e' he hset field w hmem
  rcases template_set hset with heq | hread
  · exact he field w (heq ▸ hmem)
  · obtain ⟨v, hv⟩ := exists_of_mem_list hread hmem
    exact keepsKind_of_ofJson (Except.ok.inj hv)

lemma entries_set {name : String} {v : Json} {c c' : Category}
    (h : Category.format.set name v c = .ok c') :
    c'.entries = c.entries ∨ Decode.list Entry.ofJson v = .ok c'.entries := by
  unfold Category.format at h
  dsimp only at h
  split at h
  case h_4 => exact .inl (congrArg Category.entries (Except.ok.inj h)).symm
  all_goals
    obtain ⟨a, ha, h⟩ := bind_eq_ok.mp h
    obtain rfl := Except.ok.inj h
    first
      | exact .inr ha
      | exact .inl rfl

lemma keepsKinds_category {v : Json} {c : Category} (h : Category.ofJson v = .ok c) :
    ∀ e ∈ c.entries, e.KeepsKinds := by
  refine Category.format.read_invariant (P := fun c => ∀ e ∈ c.entries, e.KeepsKinds)
    (fun _ hmem => by cases hmem) ?_ h
  intro name v c c' hc hset e hmem
  rcases entries_set hset with heq | hread
  · exact hc e (heq ▸ hmem)
  · obtain ⟨v, hv⟩ := exists_of_mem_list hread hmem
    exact keepsKinds_ofJson hv

lemma keepsKinds_categories {v : Json} {vocabulary : List Category}
    (h : Document.categories v = .ok vocabulary) :
    ∀ c ∈ vocabulary, ∀ e ∈ c.entries, e.KeepsKinds := by
  intro c hc
  rcases hread : Decode.list Category.ofJson v with e | cs <;>
    rw [Document.categories, hread] at h
  · contradiction
  · obtain rfl := Except.ok.inj h
    obtain ⟨v, hv⟩ := exists_of_mem_list hread hc
    exact keepsKinds_category hv

/-- **Widgets of a document keep their kinds.** -/
lemma keepsKinds_document {v : Json} {vocabulary : List Category}
    (h : Document.ofJson v = .ok vocabulary) :
    ∀ c ∈ vocabulary, ∀ e ∈ c.entries, e.KeepsKinds := by
  unfold Document.ofJson at h
  split at h
  · exact keepsKinds_categories h
  · split at h
    · exact keepsKinds_categories h
    · contradiction
  · contradiction

/-! ### Widgets of compiled schemas -/

/-- A widget of a schema stands in the template of its entry. -/
lemma mem_template_of_mem_fragments {o : Options} {category colour : String} {declared : Bool}
    {e : Entry} {s : BlockSchema} (h : (e.outcome o category colour declared).schema? = some s)
    {name : String} {w : Widget} (hmem : .widget name w ∈ s.rows.flatMap (·.fragments)) :
    .widget name w ∈ e.template := by
  obtain ⟨-, l, hl, -, ha⟩ := of_schema?_outcome h
  have hrows : s.rows = l.rows := congrArg BlockSchema.rows (assemble_eq_ok ha).2
  rw [hrows, (layOut_content hl).1, List.mem_append] at hmem
  rcases hmem with hmem | hmem
  · obtain ⟨f, hf, hw⟩ := List.mem_flatMap.mp hmem
    cases f with
    | text content => simp [Field.fragments, labelsOf] at hw
    | widget name' w' =>
      cases List.mem_singleton.mp hw
      exact hf
    | connection c => cases hw
    | unrecognized v => cases hw
  · cases List.mem_singleton.mp hmem

lemma mem_slots_iff {rows : List Row} {name : String} {w : Widget} :
    .inl (.widget name w) ∈ rows.flatMap Row.slots ↔
      .widget name w ∈ rows.flatMap (·.fragments) := by
  simp [Row.slots, Fragment.label?]

/-- **How widgets are exported.** A definition has an argument for every fragment that is no label and
for every input, in order. The argument of a widget has the name, the kind and the properties of the
widget, where properties called `name` and `type` go first. So all arguments are those of their
widgets exactly if no property says otherwise, and they go by the names of the parameters exactly if
no property gives another name. Widgets that were read from a document keep their kinds. -/
theorem arguments_widgets (s : BlockSchema) (category : String) :
    ∃ arguments, s.definition.get? "args0" = some (.list arguments) ∧
      List.Forall₂ (IsArgument Widget.ShownAs) (s.rows.flatMap Row.slots) arguments ∧
      (List.Forall₂ (IsArgument Widget.Identified) (s.rows.flatMap Row.slots) arguments ↔
        ∀ name w, .widget name w ∈ s.rows.flatMap (·.fragments) →
          w.KeepsName name ∧ w.KeepsKind) ∧
      (arguments.filterMap (Json.get? "name") =
          (Descriptor.ofSchema s category).parameters.map (fun p => .text p.name) ↔
        ∀ name w, .widget name w ∈ s.rows.flatMap (·.fragments) → w.KeepsName name) ∧
      ∀ v vocabulary o out, Document.ofJson v = .ok vocabulary →
        out ∈ (compile o vocabulary).outcomes → out.schema? = some s →
          ∀ name w, .widget name w ∈ s.rows.flatMap (·.fragments) → w.KeepsKind := by
  have harguments := isArgument_rows s.rows
  have hlist : s.arguments = s.rows.flatMap Row.arguments := by
    simp only [BlockSchema.arguments, BlockSchema.messageItems, List.filterMap_flatMap,
      argument?_messageItems]
  have hparameters : (Descriptor.ofSchema s category).parameters.map (fun p => Json.text p.name) =
      ((s.rows.flatMap Row.slots).filterMap slotName?).map Json.text := by
    rw [Descriptor.ofSchema, List.filterMap_flatMap]
    simp only [← names_parameters, List.map_flatMap, List.map_map, Function.comp_def]
  refine ⟨_, hlist ▸ definition_arguments s, harguments, ?_, ?_, ?_⟩
  · rw [identified_arguments harguments]
    simp only [mem_slots_iff]
  · rw [hparameters, names_arguments harguments]
    simp only [mem_slots_iff]
  · intro v vocabulary o out hread hout hs name w hmem
    obtain ⟨c, hc, he⟩ := entry_of_mem_outcomes hout
    obtain ⟨category, colour, declared, heq⟩ := mem_outcomes_compile hout
    rw [heq] at hs
    exact keepsKinds_document hread c hc out.entry he name w (mem_template_of_mem_fragments hs hmem)

/-- A vocabulary with one widget called `OP`, which has the given members. -/
def operatorDocument (members : List (String × Json)) : Json :=
  .list [.object [("name", .text "C"),
    ("entries", .list [.object [("name", .text "b"),
      ("template", .list [.object [("field", .object members), ("name", .text "OP")]])]])]]

theorem arguments_widgets_operator :
    ∃ vocabulary s arguments,
      Document.ofJson (operatorDocument [("text", .text "+"), ("type", .text "field_input")]) =
        .ok vocabulary ∧
      (compile {} vocabulary).outcomes.map Outcome.schema? = [some s] ∧
      s.definition.get? "args0" = some (.list arguments) ∧
      List.Forall₂ (IsArgument Widget.Identified) (s.rows.flatMap Row.slots) arguments ∧
      arguments.filterMap (Json.get? "name") = [.text "OP"] := by
  obtain ⟨vocabulary, s, hread, houtcomes, hfragments, hparameters⟩ : ∃ vocabulary s,
      Document.ofJson (operatorDocument [("text", .text "+"), ("type", .text "field_input")]) =
        .ok vocabulary ∧
      (compile {} vocabulary).outcomes.map Outcome.schema? = [some s] ∧
      s.rows.flatMap (·.fragments) = [.widget "OP" (Widget.textInput "+"), .help "media/help.svg"] ∧
      (Descriptor.ofSchema s "C").parameters = [⟨"OP", "field_input"⟩] :=
    ⟨_, _, rfl, rfl, rfl, rfl⟩
  have hkeeps : ∀ name w, .widget name w ∈ s.rows.flatMap (·.fragments) → w.KeepsName name := by
    intro name w hmem
    rw [hfragments] at hmem
    rcases List.mem_cons.mp hmem with heq | hmem
    · cases heq
      intro v hv
      cases hv
    · cases List.mem_singleton.mp hmem
  obtain ⟨arguments, hget, -, hidentified, hnames, hkinds⟩ := arguments_widgets s "C"
  obtain ⟨out, hout, hs⟩ : ∃ out ∈ (compile {} vocabulary).outcomes, out.schema? = some s :=
    List.mem_map.mp (houtcomes ▸ List.mem_singleton_self _)
  refine ⟨vocabulary, s, arguments, hread, houtcomes, hget, hidentified.mpr fun name w hmem => ?_, ?_⟩
  · exact ⟨hkeeps name w hmem, hkinds _ vocabulary {} out hread hout hs name w hmem⟩
  · rw [hnames.mpr hkeeps, hparameters]
    rfl

/-- With a property called `name` the argument and the parameter have different names. -/
theorem arguments_renamed :
    ∃ vocabulary s arguments,
      Document.ofJson (operatorDocument [("name", .text "X"), ("type", .text "field_input")]) =
        .ok vocabulary ∧
      (compile {} vocabulary).outcomes.map Outcome.schema? = [some s] ∧
      s.definition.get? "args0" = some (.list arguments) ∧
      arguments.filterMap (Json.get? "name") = [.text "X"] ∧
      (Descriptor.ofSchema s "C").parameters = [⟨"OP", "field_input"⟩] := by
  refine ⟨_, _, _, rfl, rfl, definition_arguments _, ?_, ?_⟩
  · rfl
  · rfl

end BlockVocabulary
