import BlockVocabulary.Diagnostics
import BlockVocabulary.Options
import BlockVocabulary.Toolbox
import BlockVocabulary.Proofs.Rearrangement
import BlockVocabulary.Proofs.TemplateElements

/-!
What is written can be read again.

A field that is left out when there is nothing to say is one that a reader need not find, and starts
from nothing. This is so at every level of the diagnostics, the options, the connections and the
toolbox, so each of them is read back from what it is written as. A widget goes the other way too:
whatever it was read from is what it is written as.
-/

namespace BlockVocabulary

/-! ### Names of variants -/

@[simp] lemma Severity.ofName?_name (s : Severity) : ofName? s.name = some s := by
  cases s <;> decide

@[simp] lemma Concern.ofName?_name (c : Concern) : ofName? c.name = some c := by
  cases c <;> decide

@[simp] lemma ItemKind.ofName?_name (k : ItemKind) : ofName? k.name = some k := by
  cases k <;> decide

@[simp] lemma UnknownFieldPolicy.ofName?_name (p : UnknownFieldPolicy) :
    ofName? p.name = some p := by
  cases p <;> decide

@[simp] lemma DuplicatePolicy.ofName?_name (p : DuplicatePolicy) : ofName? p.name = some p := by
  cases p <;> decide

/-! ### Diagnostics -/

/-- The position fits into 64 bits. -/
def Origin.Sized (o : Origin) : Prop := ∀ i ∈ o.field, i < 0x10000000000000000

/-- All counts and positions fit into 64 bits. -/
structure Diagnostics.Sized (ds : Diagnostics) : Prop where
  origins : ∀ d ∈ ds.stored, d.origin.Sized
  totalErrors : ds.totalErrors < 0x10000000000000000
  totalWarnings : ds.totalWarnings < 0x10000000000000000

lemma recovers_code (c : Code) : Recovers Code.ofJson c.toJson c := by
  intro v hv
  have hnumber : Decode.natBelow 65536 "u16" v = .ok c.number.toNat :=
    recovers_natBelow c.number.toNat_lt "u16" v hv
  rw [Code.ofJson, hnumber]
  exact congrArg (fun n => Except.ok (Code.mk n)) UInt16.ofNat_toNat

lemma recovers_origin {o : Origin} (h : o.Sized) : Recovers Origin.ofJson o.toJson o := by
  have hwritten : Origin.format.Written
      [("category", .text o.category), ("entry", .text o.entry)] _ :=
    ⟨.cons (sets_of_recovers Origin.format _ (fun s o => { o with category := s })
        (fun _ _ => rfl) (recovers_string o.category)) <|
      .cons (sets_of_recovers Origin.format _ (fun s o => { o with entry := s })
        (fun _ _ => rfl) (recovers_string o.entry)) .nil,
      by simp, by simp [Origin.format], by simp⟩
  refine recovers_record (hwritten.optional (fun i o => { o with field := some i })
    (fun i hi => ?_) (by simp) (by simp)) rfl ?_
  · exact sets_of_recovers Origin.format _ (fun i o => { o with field := i }) (fun _ _ => rfl)
      (recovers_some (fun _ hnull => by cases hnull) (recovers_natBelow (h i hi) "usize"))
  · obtain ⟨_, _, _ | _⟩ := o <;> rfl

lemma recovers_diagnostic {d : Diagnostic} (h : d.origin.Sized) :
    Recovers Diagnostic.ofJson d.toJson d := by
  have hwritten : Diagnostic.format.Written
      [("code", d.code.toJson), ("severity", .text d.severity.name),
        ("category", .text d.concern.name), ("message", .text d.message),
        ("origin", d.origin.toJson)] _ :=
    ⟨.cons (sets_of_recovers Diagnostic.format _ (fun c d => { d with code := c })
        (fun _ _ => rfl) (recovers_code d.code)) <|
      .cons (sets_of_recovers Diagnostic.format _ (fun s d => { d with severity := s })
        (fun _ _ => rfl) (recovers_variant d.severity.ofName?_name)) <|
      .cons (sets_of_recovers Diagnostic.format _ (fun c d => { d with concern := c })
        (fun _ _ => rfl) (recovers_variant d.concern.ofName?_name)) <|
      .cons (sets_of_recovers Diagnostic.format _ (fun s d => { d with message := s })
        (fun _ _ => rfl) (recovers_string d.message)) <|
      .cons (sets_of_recovers Diagnostic.format _ (fun o d => { d with origin := o })
        (fun _ _ => rfl) (recovers_origin h)) .nil,
      by simp, by simp [Diagnostic.format], by simp⟩
  refine recovers_record (hwritten.optional (fun s d => { d with suggestion := some s })
    (fun s _ => ?_) (by simp) (by simp)) rfl ?_
  · exact sets_of_recovers Diagnostic.format _ (fun s d => { d with suggestion := s })
      (fun _ _ => rfl) (recovers_some (fun _ hnull => by cases hnull) (recovers_string s))
  · obtain ⟨_, _, _, _, _, _ | _⟩ := d <;> rfl

lemma recovers_diagnostics {ds : Diagnostics} (h : ds.Sized) :
    Recovers Diagnostics.ofJson ds.toJson ds := by
  have horigins : ∀ d ∈ ds.errors ++ ds.warnings, d.origin.Sized := h.origins
  rw [List.forall_mem_append] at horigins
  have hwritten : Diagnostics.format.Written
      [("errors", .list (ds.errors.map Diagnostic.toJson)),
        ("warnings", .list (ds.warnings.map Diagnostic.toJson)),
        ("total_errors", Json.nat ds.totalErrors),
        ("total_warnings", Json.nat ds.totalWarnings)] _ :=
    ⟨.cons (sets_of_recovers Diagnostics.format _ (fun l ds => { ds with errors := l })
        (fun _ _ => rfl) (recovers_list fun d hd => recovers_diagnostic (horigins.1 d hd))) <|
      .cons (sets_of_recovers Diagnostics.format _ (fun l ds => { ds with warnings := l })
        (fun _ _ => rfl) (recovers_list fun d hd => recovers_diagnostic (horigins.2 d hd))) <|
      .cons (sets_of_recovers Diagnostics.format _ (fun n ds => { ds with totalErrors := n })
        (fun _ _ => rfl) (recovers_natBelow h.totalErrors "usize")) <|
      .cons (sets_of_recovers Diagnostics.format _ (fun n ds => { ds with totalWarnings := n })
        (fun _ _ => rfl) (recovers_natBelow h.totalWarnings "usize")) .nil,
      by simp, by simp [Diagnostics.format], by simp⟩
  exact recovers_record hwritten rfl rfl

/-! ### Options and connections -/

lemma recovers_options (o : Options) : Recovers Options.ofJson o.toJson o := by
  have hwritten : Options.format.Written
      [("unknown_fields", .text o.unknownFields.name), ("duplicates", .text o.duplicates.name),
        ("default_categories", .bool o.defaultCategories), ("vocabulary", .bool o.vocabulary),
        ("help_icon", .text o.helpIcon)] _ :=
    ⟨.cons (sets_of_recovers Options.format _ (fun p o => { o with unknownFields := p })
        (fun _ _ => rfl) (recovers_variant o.unknownFields.ofName?_name)) <|
      .cons (sets_of_recovers Options.format _ (fun p o => { o with duplicates := p })
        (fun _ _ => rfl) (recovers_variant o.duplicates.ofName?_name)) <|
      .cons (sets_of_recovers Options.format _ (fun b o => { o with defaultCategories := b })
        (fun _ _ => rfl) (recovers_bool o.defaultCategories)) <|
      .cons (sets_of_recovers Options.format _ (fun b o => { o with vocabulary := b })
        (fun _ _ => rfl) (recovers_bool o.vocabulary)) <|
      .cons (sets_of_recovers Options.format _ (fun s o => { o with helpIcon := s })
        (fun _ _ => rfl) (recovers_string o.helpIcon)) .nil,
      by simp, by simp [Options.format], by simp⟩
  exact recovers_record hwritten rfl rfl

lemma recovers_connection (c : Connection) : Recovers Connection.ofJson c.toJson c := by
  have hnull : ∀ s, Decode.string .null ≠ .ok s := fun _ h => by cases h
  have htag : Recovers (Decode.nullable Decode.string) (Json.ofOption .text c.tag) c.tag := by
    cases c.tag with
    | none => exact recovers_none Decode.string
    | some tag => exact recovers_some hnull (recovers_string tag)
  have hwritten : Connection.format.Written
      [("type", Json.ofOption .text c.tag), ("name", .text c.name)] _ :=
    ⟨.cons (sets_of_recovers Connection.format _ (fun t c => { c with tag := t })
        (fun _ _ => rfl) htag) <|
      .cons (sets_of_recovers Connection.format _ (fun s c => { c with name := s })
        (fun _ _ => rfl) (recovers_string c.name)) .nil,
      by simp, by simp [Connection.format], by simp⟩
  refine recovers_record (hwritten.optional (fun s c => { c with shadow := some s })
    (fun s _ => ?_) (by simp) (by simp)) rfl ?_
  · exact sets_of_recovers Connection.format _ (fun s c => { c with shadow := s })
      (fun _ _ => rfl) (recovers_some hnull (recovers_string s))
  · obtain ⟨_, _, _ | _⟩ := c <;> rfl

/-! ### The toolbox -/

lemma recovers_shadow (shadow : String) :
    Recovers BlockReference.inputDefault.read (.object [("shadow", Input.typeJson shadow)])
      shadow := by
  have hblock : Recovers BlockReference.shadowBlock.read (Input.typeJson shadow) shadow := by
    have hwritten : BlockReference.shadowBlock.Written [("type", .text shadow)] [fun _ => shadow] :=
      ⟨.cons (fun w hw _ => recovers_string shadow w hw) .nil, by simp,
        by simp [BlockReference.shadowBlock], by simp⟩
    exact recovers_record hwritten rfl rfl
  have hwritten : BlockReference.inputDefault.Written [("shadow", Input.typeJson shadow)]
      [fun _ => shadow] :=
    ⟨.cons (fun w hw _ => hblock w hw) .nil, by simp,
      by simp [BlockReference.inputDefault], by simp⟩
  exact recovers_record hwritten rfl rfl

lemma recovers_blockReference (r : BlockReference) :
    Recovers BlockReference.ofJson r.toJson r := by
  have hwritten : BlockReference.format.Written
      [("kind", .text r.kind.name), ("type", .text r.type)] _ :=
    ⟨.cons (sets_of_recovers BlockReference.format _ (fun k r => { r with kind := k })
        (fun _ _ => rfl) (recovers_variant r.kind.ofName?_name)) <|
      .cons (sets_of_recovers BlockReference.format _ (fun s r => { r with type := s })
        (fun _ _ => rfl) (recovers_string r.type)) .nil,
      by simp, by simp [BlockReference.format], by simp⟩
  -- no inputs are left out, and a reader starts from none
  have hinputs : r.toJson = .object ([("kind", .text r.kind.name), ("type", .text r.type)] ++
      Json.optional "inputs" BlockReference.inputsJson
        (if r.inputs.entries.isEmpty then none else some r.inputs)) := by
    unfold BlockReference.toJson
    split <;> rfl
  rw [hinputs]
  refine recovers_record (hwritten.optional (fun inputs r => { r with inputs := inputs })
    (fun inputs _ => ?_) (by simp) (by simp)) rfl ?_
  · exact sets_of_recovers BlockReference.format _ (fun inputs r => { r with inputs := inputs })
      (fun _ _ => rfl) (recovers_table (fun shadow => .object [("shadow", Input.typeJson shadow)])
        fun e _ => recovers_shadow e.2)
  · obtain ⟨kind, type, ⟨_ | ⟨e, entries⟩, hsorted⟩⟩ := r <;> rfl

lemma recovers_toolboxCategory (c : ToolboxCategory) :
    Recovers ToolboxCategory.ofJson c.toJson c := by
  have hwritten : ToolboxCategory.format.Written
      [("kind", .text c.kind.name), ("name", .text c.name), ("colour", .text c.colour),
        ("contents", .list (c.contents.map BlockReference.toJson))] _ :=
    ⟨.cons (sets_of_recovers ToolboxCategory.format _ (fun k c => { c with kind := k })
        (fun _ _ => rfl) (recovers_variant c.kind.ofName?_name)) <|
      .cons (sets_of_recovers ToolboxCategory.format _ (fun s c => { c with name := s })
        (fun _ _ => rfl) (recovers_string c.name)) <|
      .cons (sets_of_recovers ToolboxCategory.format _ (fun s c => { c with colour := s })
        (fun _ _ => rfl) (recovers_string c.colour)) <|
      .cons (sets_of_recovers ToolboxCategory.format _ (fun l c => { c with contents := l })
        (fun _ _ => rfl) (recovers_list fun r _ => recovers_blockReference r)) .nil,
      by simp, by simp [ToolboxCategory.format], by simp⟩
  exact recovers_record hwritten rfl rfl

lemma recovers_toolbox (t : Toolbox) : Recovers Toolbox.ofJson t.toJson t := by
  have hwritten : Toolbox.format.Written
      [("kind", .text t.kind.name),
        ("contents", .list (t.contents.map ToolboxCategory.toJson))] _ :=
    ⟨.cons (sets_of_recovers Toolbox.format _ (fun k t => { t with kind := k })
        (fun _ _ => rfl) (recovers_variant t.kind.ofName?_name)) <|
      .cons (sets_of_recovers Toolbox.format _ (fun l t => { t with contents := l })
        (fun _ _ => rfl) (recovers_list fun c _ => recovers_toolboxCategory c)) .nil,
      by simp, by simp [Toolbox.format], by simp⟩
  exact recovers_record hwritten rfl rfl

/-! ### Widgets -/

/-- The members of an object stand in the order of their names, each name once. -/
def Json.InOrder : Json → Prop
  | .object members => Keyed.Sorted members
  | _ => True

/-- A sorted list is made of the entry of a name and those of other names. -/
lemma Keyed.cons_filter_perm {α : Type} {l : List (String × α)} (hl : Sorted l) {k : String} {v : α}
    (h : l.lookup k = some v) : ((k, v) :: l.filter (·.1 ≠ k)).Perm l := by
  obtain ⟨before, after, rfl, hbefore⟩ := List.lookup_eq_some_iff.mp h
  have hb : before.filter (·.1 ≠ k) = before :=
    List.filter_eq_self.mpr fun e he => decide_eq_true (bne_iff_ne.mp (hbefore e he)).symm
  have ha : after.filter (·.1 ≠ k) = after := by
    refine List.filter_eq_self.mpr fun e he => decide_eq_true ?_
    have hlt := List.rel_of_pairwise_cons (List.pairwise_append.mp hl).2.1 he
    exact (String.ne_of_lt hlt).symm
  rw [List.filter_append, List.filter_cons_of_neg (by simp), hb, ha]
  exact List.perm_middle.symm

lemma toJson_of_reads {v : Json} {w : Widget} (hv : v.InOrder) (h : w.Reads v) : w.toJson = v := by
  rcases h with @⟨members, kind, htype⟩
  have hmembers : Keyed.Sorted members := hv
  have hrest : Keyed.Sorted (members.filter (·.1 ≠ "type")) := List.Pairwise.filter _ hmembers
  have hproperties : Table.ofList (members.filter (·.1 ≠ "type")) = ⟨_, hrest⟩ :=
    Table.ofList_of_perm (.refl _)
  have hall : Table.ofList (("type", .text kind) :: members.filter (·.1 ≠ "type")) =
      ⟨members, hmembers⟩ :=
    Table.ofList_of_perm (Keyed.cons_filter_perm hmembers htype)
  rw [Widget.toJson, hproperties]
  exact congrArg (fun t => Json.object t.entries) hall

/-- **What is written can be read again.** Diagnostics, options, connections and toolboxes are read
from what they are written as, in whatever order the objects in it list their members; and a widget
that was read from an object is written as that object. -/
theorem recovers_written :
    (∀ ds : Diagnostics, ds.Sized → ∀ v, ds.toJson.Rearranged v → Diagnostics.ofJson v = .ok ds) ∧
    (∀ (o : Options) (v), o.toJson.Rearranged v → Options.ofJson v = .ok o) ∧
    (∀ (c : Connection) (v), c.toJson.Rearranged v → Connection.ofJson v = .ok c) ∧
    (∀ (t : Toolbox) (v), t.toJson.Rearranged v → Toolbox.ofJson v = .ok t) ∧
    ∀ (v : Json) (w : Widget), v.InOrder → Widget.ofJson v = .ok w → w.toJson = v :=
  ⟨fun _ => recovers_diagnostics, recovers_options, recovers_connection, recovers_toolbox,
    fun _ _ hv h => toJson_of_reads hv (Widget.ofJson_eq_ok.mp h)⟩

/-- A diagnostic in which nothing is left out. -/
def strayField : Diagnostic where
  code := Code.unknownField
  severity := .error
  concern := .layout
  message := "unknown field"
  origin := { category := "Loops", entry := "count", field := some 0 }
  suggestion := some "remove it"

/-- Members in another order, and a widget whose type stands between its properties. -/
theorem recovers_written_reordered :
    Diagnostics.ofJson (.object [("total_warnings", Json.nat 0), ("total_errors", Json.nat 21),
        ("warnings", .list []), ("errors", .list [strayField.toJson])]) =
      .ok { errors := [strayField], totalErrors := 21 } ∧
    ∃ w, Widget.ofJson (.object [("max", Json.nat 9), ("type", .text "field_number"),
        ("value", Json.nat 1)]) = .ok w ∧
      w.toJson = .object [("max", Json.nat 9), ("type", .text "field_number"),
        ("value", Json.nat 1)] := by
  obtain ⟨hdiagnostics, -, -, -, hwidget⟩ := recovers_written
  refine ⟨hdiagnostics { errors := [strayField], totalErrors := 21 } ⟨?_, by decide, by decide⟩ _
    (.object rfl (List.forall₂_same.mpr fun v _ => .refl v) (List.reverse_perm _).symm),
    _, rfl, hwidget _ _ ?_ rfl⟩
  · simp [Diagnostics.stored, strayField, Origin.Sized]
  · simp only [Json.InOrder, Keyed.Sorted]
    decide

end BlockVocabulary
