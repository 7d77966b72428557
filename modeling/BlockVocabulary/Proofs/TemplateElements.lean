import BlockVocabulary.Document
import BlockVocabulary.Proofs.RecordReading
import Mathlib.Data.List.Permutation
import Mathlib.Logic.Function.Basic

/-!
Reading template elements.

An element is tried as a text, as a widget and as a connection. Each trial accepts exactly its own
shape, no value has two of the shapes, and a value of no shape is kept as it is. So it does not
matter in which order the shapes are tried, and no element can make the reading of a document fail.
-/

namespace BlockVocabulary

/-! ### Connections -/

/-- The value, if there is one, is a null or a text; without one there is what was there before. -/
inductive NullableText (before : Option String) : Option Json → Option String → Prop
  | missing : NullableText before none before
  | null : NullableText before (some .null) none
  | text (s : String) : NullableText before (some (.text s)) (some s)

/-- The value, if there is one, is a text; without one there is what was there before. -/
inductive PlainText (before : String) : Option Json → String → Prop
  | missing : PlainText before none before
  | text (s : String) : PlainText before (some (.text s)) s

lemma string_eq_ok {v : Json} {s : String} : Decode.string v = .ok s ↔ v = .text s := by
  cases v <;> simp [Decode.string, Decode.mismatch]

lemma nullableText_iff {before t : Option String} {v : Option Json} :
    NullableText before v t ↔
      v.elim (.ok before) (Decode.nullable Decode.string) = Except.ok t := by
  constructor
  · rintro (_ | _ | s) <;> rfl
  · rcases v with _ | v
    · rintro ⟨⟩
      exact .missing
    · cases v with
      | null => rintro ⟨⟩; exact .null
      | text s => rintro ⟨⟩; exact .text s
      | _ => simp [Decode.nullable, Decode.string, Decode.mismatch]

lemma plainText_iff {before s : String} {v : Option Json} :
    PlainText before v s ↔ v.elim (.ok before) Decode.string = Except.ok s := by
  constructor
  · rintro (_ | s) <;> rfl
  · rcases v with _ | v
    · rintro ⟨⟩
      exact .missing
    · intro h
      obtain rfl := string_eq_ok.mp h
      exact .text s

namespace Connection

/-- What a connection becomes with the values given for its fields. -/
structure Given (before : Connection) (given : String → Option Json) (c : Connection) : Prop where
  tag : NullableText before.tag (given "type") c.tag
  name : PlainText before.name (given "name") c.name
  shadow : NullableText before.shadow (given "shadow") c.shadow

/-- The values that are read as a connection: objects that give no field twice, and lists of at most
three items, which stand for the fields in order. -/
inductive Reads : Json → Connection → Prop
  | object {members : List (String × Json)} {c : Connection}
      (honce : ((members.map (·.1)).filter (· ∈ ["type", "name", "shadow"])).Nodup)
      (h : Given {} (members.lookup ·) c) : Reads (.object members) c
  | list {items : List Json} {c : Connection} (hlength : items.length ≤ 3)
      (h : Given {} ((["type", "name", "shadow"].zip items).lookup ·) c) : Reads (.list items) c

lemma set_of_not_mem (before : Connection) {name : String} (v : Json)
    (h : name ∉ format.fields) : format.set name v before = .ok before := by
  unfold format at h ⊢
  dsimp only at h ⊢
  split <;> first | rfl | simp at h

/-- A field that is set is one more that is given. -/
lemma set_iff {before c : Connection} {k : String} {v : Json} {given : String → Option Json}
    (hk : k ∈ format.fields → given k = none) :
    (∃ d, format.set k v before = .ok d ∧ Given d given c) ↔
      Given before (Function.update given k (some v)) c := by
  have htag : ∀ v, format.set "type" v before =
      (Decode.nullable Decode.string v >>= fun t => .ok { before with tag := t }) := fun _ => rfl
  have hname : ∀ v, format.set "name" v before =
      (Decode.string v >>= fun s => .ok { before with name := s }) := fun _ => rfl
  have hshadow : ∀ v, format.set "shadow" v before =
      (Decode.nullable Decode.string v >>= fun t => .ok { before with shadow := t }) :=
    fun _ => rfl
  have hgiven : ∀ before given, Given before given c ↔
      NullableText before.tag (given "type") c.tag ∧ PlainText before.name (given "name") c.name ∧
        NullableText before.shadow (given "shadow") c.shadow :=
    fun _ _ => ⟨fun h => ⟨h.tag, h.name, h.shadow⟩, fun h => ⟨h.1, h.2.1, h.2.2⟩⟩
  by_cases hmem : k ∈ format.fields
  · have hnone := hk hmem
    simp only [format, List.mem_cons, List.not_mem_nil, or_false] at hmem
    rcases hmem with rfl | rfl | rfl <;>
      cases htext? : Decode.nullable Decode.string v <;> cases htext : Decode.string v <;>
      simp [htag, hname, hshadow, hgiven, hnone, htext?, htext, nullableText_iff, plainText_iff,
        Function.update, bind, Except.bind]
  · rw [set_of_not_mem before v hmem]
    simp only [format, List.mem_cons, List.not_mem_nil, or_false, not_or] at hmem
    simp [hgiven, Function.update, Ne.symm hmem.1, Ne.symm hmem.2.1, Ne.symm hmem.2.2]

/-- Fields that are given once are set to what is given, in whatever order. -/
lemma setAll_eq_ok {named : List (String × Json)} {before c : Connection}
    (honce : ((named.map (·.1)).filter (· ∈ format.fields)).Nodup) :
    format.setAll before named = .ok c ↔ Given before (named.lookup ·) c := by
  induction named generalizing before with
  | nil =>
    constructor
    · intro h
      obtain rfl := foldlM_nil_eq_ok.mp h
      exact ⟨.missing, .missing, .missing⟩
    · rintro ⟨htag, hname, hshadow⟩
      refine foldlM_nil_eq_ok.mpr ?_
      cases before
      cases c
      cases htag
      cases hname
      cases hshadow
      rfl
  | cons m named ih =>
    obtain ⟨k, v⟩ := m
    have hlookup : (((k, v) :: named).lookup ·) =
        Function.update (named.lookup ·) k (some v) := by
      funext n
      by_cases hn : n = k
      · simp [hn]
      · simp [List.lookup_cons, beq_false_of_ne hn, hn]
    have hrest : ((named.map (·.1)).filter (· ∈ format.fields)).Nodup :=
      honce.sublist ((List.sublist_cons_self _ _).filter _)
    have hnew : k ∈ format.fields → named.lookup k = none := by
      intro hk
      rw [List.map_cons, List.filter_cons_of_pos (by simpa using hk), List.nodup_cons] at honce
      refine List.lookup_eq_none_iff.mpr fun m hm => bne_iff_ne.mpr fun heq => honce.1 ?_
      exact List.mem_filter.mpr ⟨List.mem_map.mpr ⟨m, hm, heq.symm⟩, by simpa using hk⟩
    rw [hlookup, ← set_iff hnew, RecordFormat.setAll, foldlM_cons_eq_ok]
    exact exists_congr fun d => and_congr_right fun _ => ih hrest

/-- **Which values are read as a connection.** -/
lemma ofJson_eq_ok {v : Json} {c : Connection} : ofJson v = .ok c ↔ Reads v c := by
  cases v with
  | object members =>
    have hgiven : format.given members = (members.map (·.1)).filter (· ∈ format.fields) := by
      simp [RecordFormat.given, RecordFormat.renamed, format]
    have hnamed : format.renamed members = members := List.map_id members
    have hread : ofJson (.object members) = .ok c ↔ _ := format.ofMembers_eq_ok
    rw [hread, hgiven, hnamed]
    constructor
    · rintro ⟨honce, hall, -⟩
      exact .object honce ((setAll_eq_ok honce).mp hall)
    · rintro (⟨honce, h⟩ | _)
      exact ⟨honce, (setAll_eq_ok honce).mpr h, fun _ hname => by cases hname⟩
  | list items =>
    have hread : ofJson (.list items) = .ok c ↔ _ := format.ofItems_eq_ok
    have honce : (((format.fields.zip items).map (·.1)).filter (· ∈ format.fields)).Nodup := by
      rcases items with _ | ⟨tag, _ | ⟨name, _ | ⟨shadow, items⟩⟩⟩ <;> simp [format]
    rw [hread, setAll_eq_ok honce]
    constructor
    · rintro ⟨hlength, h, -⟩
      exact .list hlength h
    · rintro (_ | ⟨hlength, h⟩)
      exact ⟨hlength, h, fun _ _ hname => by cases hname⟩
  | _ =>
    constructor
    · rintro ⟨⟩
    · rintro ⟨⟩

end Connection

/-! ### Shapes -/

/-- The values that are read as a widget: objects with a text for a type, which is the kind, the other
members being its properties. -/
inductive Widget.Reads : Json → Widget → Prop
  | object {members : List (String × Json)} {kind : String}
      (htype : members.lookup "type" = some (.text kind)) :
      Reads (.object members) ⟨kind, Table.ofList (members.filter (·.1 ≠ "type"))⟩

/-- **Which values are read as a widget.** -/
lemma Widget.ofJson_eq_ok {v : Json} {w : Widget} : Widget.ofJson v = .ok w ↔ w.Reads v := by
  constructor
  · intro h
    unfold Widget.ofJson at h
    split at h
    · split at h
      · contradiction
      · rename_i htype
        obtain ⟨kind, hkind, hw⟩ := bind_eq_ok.mp h
        obtain rfl := Except.ok.inj hw
        exact .object (htype.trans (congrArg some (string_eq_ok.mp hkind)))
    · contradiction
  · rintro ⟨htype⟩
    simp [Widget.ofJson, htype, Decode.string, bind, Except.bind, pure, Except.pure]

namespace Field

/-- The shape of a text: an object with this member alone, or a list of it. -/
inductive TextShape : Json → Field → Prop
  | object (s : String) : TextShape (.object [("text", .text s)]) (.text s)
  | list (s : String) : TextShape (.list [.text s]) (.text s)

/-- The shape of a widget: a name and a widget, and nothing else. -/
inductive WidgetShape : Json → Field → Prop
  | object {members : List (String × Json)} {name : String} {v : Json} {w : Widget}
      (hmembers : members.Perm [("name", .text name), ("field", v)]) (h : w.Reads v) :
      WidgetShape (.object members) (.widget name w)
  | list {name : String} {v : Json} {w : Widget} (h : w.Reads v) :
      WidgetShape (.list [.text name, v]) (.widget name w)

/-- The shape of a connection: one member, or a list of it. -/
inductive ConnectionShape : Json → Field → Prop
  | object {v : Json} {c : Connection} (h : c.Reads v) :
      ConnectionShape (.object [("blocklyInput", v)]) (.connection c)
  | list {v : Json} {c : Connection} (h : c.Reads v) :
      ConnectionShape (.list [v]) (.connection c)

/-- The value has a shape, and the field is what the shape stands for. -/
def Shaped (v : Json) (f : Field) : Prop :=
  TextShape v f ∨ WidgetShape v f ∨ ConnectionShape v f

variable {v : Json} {f g : Field}

lemma text?_eq_some_iff : text? v = some f ↔ TextShape v f := by
  constructor
  · intro h
    unfold text? at h
    split at h
    · obtain rfl := Option.some.inj h
      exact .object _
    · obtain rfl := Option.some.inj h
      exact .list _
    · contradiction
  · rintro (s | s) <;> rfl

lemma map_toOption_eq_some_iff {ε α β : Type} {x : Except ε α} {h : α → β} {b : β} :
    x.toOption.map h = some b ↔ ∃ a, x = .ok a ∧ h a = b := by
  cases x <;> simp [Except.toOption]

lemma widget?_eq_some_iff : widget? v = some f ↔ WidgetShape v f := by
  constructor
  · intro h
    unfold widget? at h
    split at h
    · obtain ⟨w, hw, rfl⟩ := map_toOption_eq_some_iff.mp h
      exact .object (.swap _ _ _) (Widget.ofJson_eq_ok.mp hw)
    · obtain ⟨w, hw, rfl⟩ := map_toOption_eq_some_iff.mp h
      exact .object (.refl _) (Widget.ofJson_eq_ok.mp hw)
    · obtain ⟨w, hw, rfl⟩ := map_toOption_eq_some_iff.mp h
      exact .list (Widget.ofJson_eq_ok.mp hw)
    · contradiction
  · rintro (⟨hmembers, h⟩ | h)
    · rcases List.perm_pair.mp hmembers with rfl | rfl <;>
        exact map_toOption_eq_some_iff.mpr ⟨_, Widget.ofJson_eq_ok.mpr h, rfl⟩
    · exact map_toOption_eq_some_iff.mpr ⟨_, Widget.ofJson_eq_ok.mpr h, rfl⟩

lemma connection?_eq_some_iff : connection? v = some f ↔ ConnectionShape v f := by
  constructor
  · intro h
    unfold connection? at h
    split at h
    · obtain ⟨c, hc, rfl⟩ := map_toOption_eq_some_iff.mp h
      exact .object (Connection.ofJson_eq_ok.mp hc)
    · obtain ⟨c, hc, rfl⟩ := map_toOption_eq_some_iff.mp h
      exact .list (Connection.ofJson_eq_ok.mp hc)
    · contradiction
  · rintro (h | h) <;>
      exact map_toOption_eq_some_iff.mpr ⟨_, Connection.ofJson_eq_ok.mpr h, rfl⟩

/-! ### No value has two shapes -/

lemma not_widgetShape_of_textShape (h : TextShape v f) : ¬WidgetShape v g := by
  rintro (⟨hmembers, -⟩ | -)
  · cases h
    simpa using hmembers.length_eq
  · cases h

lemma not_connectionShape_of_textShape (h : TextShape v f) : ¬ConnectionShape v g := by
  intro hc
  rcases h with s | s
  · -- the names of the members differ
    generalize hv : Json.object _ = v at hc
    cases hc with
    | object => simp at hv
    | list => cases hv
  · rcases hc with - | hc
    cases hc

lemma not_connectionShape_of_widgetShape (h : WidgetShape v f) : ¬ConnectionShape v g := by
  rintro (hc | hc)
  · rcases h with ⟨hmembers, -⟩ | -
    simpa using hmembers.length_eq
  · cases h

/-- If all that accept agree, the order of trials does not matter. -/
lemma findSome?_perm {α β : Type} {l l' : List α} {read : α → Option β} (h : l.Perm l')
    (hagree : ∀ a ∈ l, ∀ a' ∈ l, ∀ b b', read a = some b → read a' = some b' → b = b') :
    l.findSome? read = l'.findSome? read := by
  rcases hl : l.findSome? read with _ | b
  · refine (List.findSome?_eq_none_iff.mpr fun a ha => ?_).symm
    exact List.findSome?_eq_none_iff.mp hl a (h.mem_iff.mpr ha)
  · obtain ⟨a, ha, hb⟩ := List.exists_of_findSome?_eq_some hl
    rcases hl' : l'.findSome? read with _ | b'
    · rw [List.findSome?_eq_none_iff.mp hl' a (h.mem_iff.mp ha)] at hb
      contradiction
    · obtain ⟨a', ha', hb'⟩ := List.exists_of_findSome?_eq_some hl'
      exact congrArg some (hagree a ha a' (h.mem_iff.mpr ha') b b' hb hb')

/-- The trials in the order in which they are made. -/
def readers : List (Json → Option Field) := [text?, widget?, connection?]

lemma ofJson_eq_findSome? (v : Json) :
    ofJson v = (readers.findSome? (· v)).getD (.unrecognized v) := by
  cases ht : text? v <;> cases hw : widget? v <;> cases hc : connection? v <;>
    simp [ofJson, readers, ht, hw, hc]

lemma shaped_iff : Shaped v f ↔ ∃ read ∈ readers, read v = some f := by
  simp [Shaped, readers, text?_eq_some_iff, widget?_eq_some_iff, connection?_eq_some_iff]

/-- **No value has two shapes.** -/
lemma countP_readers_le (v : Json) : readers.countP (fun read => (read v).isSome) ≤ 1 := by
  have htext : ∀ f, text? v = some f → widget? v = none ∧ connection? v = none := by
    intro f hf
    have hshape := text?_eq_some_iff.mp hf
    exact ⟨Option.eq_none_iff_forall_ne_some.mpr fun g hg =>
        not_widgetShape_of_textShape hshape (widget?_eq_some_iff.mp hg),
      Option.eq_none_iff_forall_ne_some.mpr fun g hg =>
        not_connectionShape_of_textShape hshape (connection?_eq_some_iff.mp hg)⟩
  have hwidget : ∀ f, widget? v = some f → connection? v = none := fun f hf =>
    Option.eq_none_iff_forall_ne_some.mpr fun g hg =>
      not_connectionShape_of_widgetShape (widget?_eq_some_iff.mp hf)
        (connection?_eq_some_iff.mp hg)
  rcases ht : text? v with _ | f
  · rcases hw : widget? v with _ | g
    · cases hc : connection? v <;> simp [readers, ht, hw, hc]
    · simp [readers, ht, hw, hwidget g hw]
  · simp [readers, ht, htext f ht]

lemma eq_of_shaped (h : Shaped v f) (h' : Shaped v g) : f = g := by
  rcases h with h | h | h <;> rcases h' with h' | h' | h'
  · exact Option.some.inj ((text?_eq_some_iff.mpr h).symm.trans (text?_eq_some_iff.mpr h'))
  · exact absurd h' (not_widgetShape_of_textShape h)
  · exact absurd h' (not_connectionShape_of_textShape h)
  · exact absurd h (not_widgetShape_of_textShape h')
  · exact Option.some.inj ((widget?_eq_some_iff.mpr h).symm.trans (widget?_eq_some_iff.mpr h'))
  · exact absurd h' (not_connectionShape_of_widgetShape h)
  · exact absurd h (not_connectionShape_of_textShape h')
  · exact absurd h (not_connectionShape_of_widgetShape h')
  · exact Option.some.inj
      ((connection?_eq_some_iff.mpr h).symm.trans (connection?_eq_some_iff.mpr h'))

/-- **An element is what its shape stands for**, and if it has none it is kept. -/
lemma ofJson_eq_iff : ofJson v = f ↔ Shaped v f ∨ f = .unrecognized v ∧ ∀ g, ¬Shaped v g := by
  rcases hfind : readers.findSome? (· v) with _ | g <;> rw [ofJson_eq_findSome?, hfind]
  · have hnone : ∀ g, ¬Shaped v g := by
      intro g hg
      obtain ⟨read, hread, hv⟩ := shaped_iff.mp hg
      rw [List.findSome?_eq_none_iff.mp hfind read hread] at hv
      contradiction
    simp [hnone, eq_comm]
  · obtain ⟨read, hread, hv⟩ := List.exists_of_findSome?_eq_some hfind
    have hg : Shaped v g := shaped_iff.mpr ⟨read, hread, hv⟩
    constructor
    · rintro rfl
      exact .inl hg
    · rintro (hf | ⟨-, hnone⟩)
      · exact eq_of_shaped hg hf
      · exact absurd hg (hnone g)

/-- In whatever order the shapes are tried, an element is read alike. -/
lemma ofJson_eq_of_perm {order : List (Json → Option Field)} (h : order.Perm readers) :
    ofJson v = (order.findSome? (· v)).getD (.unrecognized v) := by
  have hsame : readers.findSome? (· v) = order.findSome? (· v) :=
    findSome?_perm h.symm fun read hread read' hread' f g hf hg =>
      eq_of_shaped (shaped_iff.mpr ⟨read, hread, hf⟩) (shaped_iff.mpr ⟨read', hread', hg⟩)
  rw [ofJson_eq_findSome?, hsame]

end Field

/-! ### Elements in a document -/

/-- The entries differ in one template element, which is any value in either. -/
def Entry.Retouched : Json → Json → Prop :=
  InField ["name", "description", "template", "outputConnection", "inputsInline", "generator"]
    "template" (InItem fun _ _ => True)

/-- The categories differ in one template element. -/
def Category.Retouched : Json → Json → Prop :=
  InField ["name", "color", "entries"] "entries" (InItem Entry.Retouched)

/-- The documents differ in one template element. -/
def Document.Retouched (v w : Json) : Prop :=
  InItem Category.Retouched v w ∨ InField [] "categories" (InItem Category.Retouched) v w

/-- An entry takes a value or refuses it regardless of what was set before. -/
lemma takenAlike_entry (name : String) (v : Json) : Entry.format.TakenAlike name v v := by
  intro x y
  unfold Entry.format
  dsimp only
  split
  all_goals first
    | exact .ok trivial
    | exact (Alike.self _).bind fun _ _ _ => .ok trivial

lemma takenAlike_category (name : String) (v : Json) : Category.format.TakenAlike name v v := by
  intro x y
  unfold Category.format
  dsimp only
  split
  all_goals first
    | exact .ok trivial
    | exact (Alike.self _).bind fun _ _ _ => .ok trivial

lemma readAlike_entry {v w : Json} (h : Entry.Retouched v w) : ReadAlike Entry.ofJson v w := by
  refine readAlike_record takenAlike_entry rfl (fun v w h x y => ?_) h
  have htemplate : ReadAlike (Decode.list fun v => .ok (Field.ofJson v)) v w :=
    readAlike_list (fun _ _ _ => .ok trivial) h
  exact htemplate.bind fun _ _ _ => .ok trivial

lemma readAlike_category {v w : Json} (h : Category.Retouched v w) :
    ReadAlike Category.ofJson v w := by
  refine readAlike_record takenAlike_category rfl (fun v w h x y => ?_) h
  exact (readAlike_list (fun _ _ => readAlike_entry) h).bind fun _ _ _ => .ok trivial

lemma readAlike_categories {v w : Json} (h : InItem Category.Retouched v w) :
    ReadAlike Document.categories v w :=
  (readAlike_list (fun _ _ => readAlike_category) h).mapError _

/-- **No template element decides whether a document is read**, or why it is refused. -/
lemma readAlike_document {v w : Json} (h : Document.Retouched v w) :
    ReadAlike Document.ofJson v w := by
  rcases h with h | h
  · rcases h with @⟨before, after, v, w, h⟩
    exact readAlike_categories (.intro h)
  · rcases h with @⟨before, after, v, w, h⟩ | ⟨hplace, -⟩
    · -- unless an earlier member goes by the same name, the two values are the categories
      rcases hfirst : before.lookup "categories" with _ | u
      · simpa [ReadAlike, Document.ofJson, List.lookup_append, hfirst] using readAlike_categories h
      · simpa [ReadAlike, Document.ofJson, List.lookup_append, hfirst] using Alike.self _
    · simp at hplace

/-! ### Reading elements -/

/-- How the element of a template is read. -/
structure Field.Reading (v : Json) : Prop where
  text : ∀ f, text? v = some f ↔ TextShape v f
  widget : ∀ f, widget? v = some f ↔ WidgetShape v f
  connection : ∀ f, connection? v = some f ↔ ConnectionShape v f
  /-- At most one shape accepts the value. -/
  alone : readers.countP (fun read => (read v).isSome) ≤ 1
  /-- The shapes may be tried in any order. -/
  order : ∀ order : List (Json → Option Field), order.Perm readers →
    ofJson v = (order.findSome? (· v)).getD (.unrecognized v)
  /-- The value is read as its shape says, and kept if it has none. -/
  result : ∀ f, ofJson v = f ↔ Shaped v f ∨ f = .unrecognized v ∧ ∀ g, ¬Shaped v g

/-- **Template elements are read in one way, and never refused.** Every value is read by its shape, of
which it has at most one, and kept as it is without one. A document in which one element is replaced
by any other value is read if the document is, and otherwise refused for the same reason. -/
theorem ofJson_elements :
    (∀ v, Field.Reading v) ∧
      ∀ v w, Document.Retouched v w →
        (Document.ofJson w).isOk = (Document.ofJson v).isOk ∧
          ∀ e, Document.ofJson w = .error e ↔ Document.ofJson v = .error e := by
  refine ⟨fun v => ?_, fun v w h => ?_⟩
  · exact ⟨fun _ => Field.text?_eq_some_iff, fun _ => Field.widget?_eq_some_iff,
      fun _ => Field.connection?_eq_some_iff, Field.countP_readers_le v,
      fun _ => Field.ofJson_eq_of_perm, fun _ => Field.ofJson_eq_iff⟩
  · have halike := readAlike_document h
    exact ⟨halike.isOk_eq.symm, fun e => (halike.eq_error_iff e).symm⟩

/-- A vocabulary of one entry with one template element. -/
def singleElement (v : Json) : Json :=
  .list [.object [("name", .text "Words"),
    ("entries", .list [.object [("name", .text "say"), ("template", .list [v])]])]]

theorem ofJson_elements_singleElement :
    Document.Retouched (singleElement (.list [.text "say"])) (singleElement (.list [])) ∧
      (Document.ofJson (singleElement (.list []))).isOk = true ∧
      Field.ofJson (.list []) = .unrecognized (.list []) ∧
      Field.ofJson (.list [.list []]) = .connection {} := by
  have hretouched : Document.Retouched (singleElement (.list [.text "say"]))
      (singleElement (.list [])) :=
    .inl (@InItem.intro _ [] [] _ _ (@InField.member _ _ _ [("name", .text "Words")] [] _ _
      (@InItem.intro _ [] [] _ _ (@InField.member _ _ _ [("name", .text "say")] [] _ _
        (@InItem.intro _ [] [] _ _ trivial)))))
  refine ⟨hretouched, (ofJson_elements.2 _ _ hretouched).1.trans rfl, ?_, ?_⟩
  · refine ((ofJson_elements.1 _).result _).mpr (.inr ⟨rfl, ?_⟩)
    rintro g (h | h | h) <;> cases h
  · exact ((ofJson_elements.1 _).result _).mpr
      (.inl (.inr (.inr (.list (.list (by simp) ⟨.missing, .missing, .missing⟩)))))

end BlockVocabulary
