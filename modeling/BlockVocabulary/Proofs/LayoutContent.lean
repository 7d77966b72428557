import BlockVocabulary.Layout
import Mathlib.Tactic.Common

/-!
What a layout is made of.

At every moment of the pass the finished rows and the open one, taken together, hold the labels,
the widgets and the connections of the fields read so far, in the order of the fields. Each
transition adds to them what its field contributes and keeps the rest in place.
-/

namespace BlockVocabulary

/-! ### Lines -/

namespace Text

lemma splitAtFeeds_eq_splitOn (cs : List Char) : splitAtFeeds cs = cs.splitOn '\n' := by
  induction cs with
  | nil => simp [splitAtFeeds]
  | cons c cs ih =>
    rw [splitAtFeeds, List.splitOn_cons_eq_if_modifyHead, ih]
    by_cases hc : c = '\n'
    · simp [hc]
    · have hne : cs.splitOn '\n' ≠ [] := List.splitOn_ne_nil _ _
      rcases hp : cs.splitOn '\n' with _ | ⟨piece, pieces⟩
      · exact absurd hp hne
      · simp [hc]

@[simp] lemma dropReturn_return (cs : List Char) : dropReturn (cs ++ ['\r']) = cs := by
  simp [dropReturn]

lemma dropReturn_of_ne {cs : List Char} (h : cs.getLast? ≠ some '\r') : dropReturn cs = cs := by
  simp [dropReturn, h]

end Text

/-! ### What a field contributes -/

/-- The lines of a text that are not empty, as labels. -/
def labelsOf (content : String) : List Fragment :=
  (((content.toList.splitOn '\n').map fun piece => String.ofList (Text.dropReturn piece)).filter
    (· ≠ "")).map .label

/-- The fragments of a field. -/
def Field.fragments : Field → List Fragment
  | .text content => labelsOf content
  | .widget name w => [.widget name w]
  | .connection _ => []
  | .unrecognized _ => []

/-- The connection of a field. -/
def Field.slot? : Field → Option Connection
  | .connection c => some c
  | _ => none

/-- The connections of a template. -/
def slots (template : List Field) : List Connection := template.filterMap Field.slot?

lemma slots_cons (f : Field) (fs : List Field) : slots (f :: fs) = f.slot?.toList ++ slots fs := by
  rcases hc : f.slot? with _ | c <;> simp [slots, hc]

/-- The input for a connection: a place for statements if its tag is `void`, else a place for a
value of its type. -/
def Connection.input (c : Connection) : Input :=
  if c.tag = some ConnectionType.void.tag then .statement c.name c.shadow
  else .value c.name (c.type?.bind ConnectionType.check) c.shadow

lemma ConnectionType.tag_injective {t u : ConnectionType} (h : t.tag = u.tag) : t = u := by
  have ht := ofTag?_tag t
  rw [h, ofTag?_tag] at ht
  exact (Option.some.inj ht).symm

lemma ConnectionType.tag_of_ofTag? {tag : String} {t : ConnectionType} (h : ofTag? tag = some t) :
    t.tag = tag := by
  simpa using List.find?_some h

/-- A tag stands for the type of statement sequences exactly if it is `void`. -/
lemma Connection.isStatement_iff {c : Connection} {t : ConnectionType} (h : c.type? = some t) :
    t.isStatement = true ↔ c.tag = some ConnectionType.void.tag := by
  unfold Connection.type? at h
  rcases htag : c.tag with _ | tag
  · rw [htag] at h
    obtain rfl : ConnectionType.any = t := Option.some.inj h
    simp [ConnectionType.isStatement]
  · rw [htag] at h
    have hk : t.tag = tag := ConnectionType.tag_of_ofTag? h
    simp only [ConnectionType.isStatement, decide_eq_true_eq, Option.some.injEq, ← hk]
    exact ⟨fun ht => by rw [ht], ConnectionType.tag_injective⟩

lemma Connection.resolve_eq_ok {c : Connection} {field : Option ℕ} {t : ConnectionType}
    (h : c.resolve field = .ok t) : c.type? = some t := by
  unfold Connection.resolve at h
  split at h
  · next ht => rw [ht, Except.ok.inj h]
  · cases h

namespace LayoutState

/-! ### The view on a state of the pass -/

/-- The finished rows and the open one. -/
def rows (s : LayoutState) : List Row := s.committed ++ s.current.toList

def fragments (s : LayoutState) : List Fragment := s.rows.flatMap (·.fragments)

/-- The inputs of the rows that end in a connection. -/
def inputs (s : LayoutState) : List Input := (s.rows.map (·.input)).filter (· ≠ .dummy)

@[simp] lemma rows_begin (s : LayoutState) (r : Row) : (s.begin r).rows = s.rows ++ [r] := by
  simp [begin, commit, rows]

@[simp] lemma connections_begin (s : LayoutState) (r : Row) :
    (s.begin r).connections = s.connections := rfl

lemma fragments_begin (s : LayoutState) (r : Row) :
    (s.begin r).fragments = s.fragments ++ r.fragments := by simp [fragments]

lemma inputs_begin (s : LayoutState) (r : Row) :
    (s.begin r).inputs = s.inputs ++ [r.input].filter (· ≠ .dummy) := by simp [inputs]

/-- Content that joins the open row joins the content of all rows at its end; with no row open it
stands on a new row. -/
lemma fragments_onRow (s : LayoutState) {f : Row → Row} {added : List Fragment}
    (hf : ∀ r : Row, (f r).fragments = r.fragments ++ added) :
    (s.onRow f).fragments = s.fragments ++ added := by
  obtain ⟨committed, current, connections, skipped⟩ := s
  rcases current with _ | r <;> simp [onRow, fragments, rows, hf, Row.dummy]

lemma inputs_onRow (s : LayoutState) {f : Row → Row} (hf : ∀ r : Row, (f r).input = r.input) :
    (s.onRow f).inputs = s.inputs := by
  obtain ⟨committed, current, connections, skipped⟩ := s
  rcases current with _ | r <;> simp [onRow, inputs, rows, hf, Row.dummy]

/-! ### Texts -/

/-- What holds after the first line, and what every further line keeps, holds after the text. -/
lemma text_invariant {P : LayoutState → Prop} {s : LayoutState} (hfirst : ∀ line, P (s.label line))
    (hnext : ∀ t line, P t → P ((t.begin Row.dummy).label line)) (content : String) :
    P (s.text content) := by
  rw [text]
  rcases hs : Text.segments content with _ | ⟨first, further⟩
  · exact absurd hs (Text.segments_ne_nil content)
  · have hlines : ∀ (lines : List String) (t : LayoutState), P t →
        P (lines.foldl (fun s line => (s.begin Row.dummy).label line) t) := by
      intro lines
      induction lines with
      | nil => exact fun t ht => ht
      | cons line lines ih => exact fun t ht => ih _ (hnext t line ht)
    exact hlines further _ (hfirst first)

/-- What can be exchanged with lines can be exchanged with a text. -/
lemma text_comm {φ : LayoutState → LayoutState}
    (hlabel : ∀ s line, φ (s.label line) = (φ s).label line)
    (hbegin : ∀ s, φ (s.begin Row.dummy) = (φ s).begin Row.dummy) (s : LayoutState)
    (content : String) : φ (s.text content) = (φ s).text content := by
  rw [text, text]
  rcases Text.segments content with _ | ⟨first, further⟩
  · rfl
  · have hlines : ∀ (lines : List String) (t : LayoutState),
        φ (lines.foldl (fun s line => (s.begin Row.dummy).label line) t) =
          lines.foldl (fun s line => (s.begin Row.dummy).label line) (φ t) := by
      intro lines
      induction lines with
      | nil => exact fun t => rfl
      | cons line lines ih =>
        intro t
        rw [List.foldl_cons, List.foldl_cons, ih, hlabel, hbegin]
    exact (hlines further (s.label first)).trans (by rw [hlabel])

/-! ### Transitions -/

/-- From `s` to `t` the pass has taken in the given fragments and connections, all of them of known
types, and has moved nothing that was there. -/
structure Takes (s t : LayoutState) (added : List Fragment) (taken : List Connection) : Prop where
  fragments : t.fragments = s.fragments ++ added
  inputs : t.inputs = s.inputs ++ taken.map Connection.input
  connections : t.connections = s.connections ++ taken.map (·.name)
  known : ∀ c ∈ taken, c.type?.isSome

lemma Takes.refl (s : LayoutState) : Takes s s [] [] := ⟨by simp, by simp, by simp, by simp⟩

lemma Takes.trans {s t u : LayoutState} {fs gs : List Fragment} {cs ds : List Connection}
    (h : Takes s t fs cs) (k : Takes t u gs ds) : Takes s u (fs ++ gs) (cs ++ ds) where
  fragments := by rw [k.fragments, h.fragments, List.append_assoc]
  inputs := by rw [k.inputs, h.inputs, List.map_append, List.append_assoc]
  connections := by rw [k.connections, h.connections, List.map_append, List.append_assoc]
  known c hc := (List.mem_append.mp hc).elim (h.known c) (k.known c)

lemma takes_push (s : LayoutState) (f : Fragment) : Takes s (s.onRow (·.push f)) [f] [] where
  fragments := fragments_onRow s fun _ => rfl
  inputs := by simp [inputs_onRow s (f := (·.push f)) fun _ => rfl]
  connections := by simp [onRow]
  known := by simp

lemma takes_begin_dummy (s : LayoutState) : Takes s (s.begin Row.dummy) [] [] where
  fragments := by simp [fragments_begin, Row.dummy]
  inputs := by simp [inputs_begin, Row.dummy]
  connections := by simp
  known := by simp

/-- Finishing the open row moves nothing. -/
lemma takes_commit (s : LayoutState) : Takes s s.commit [] [] where
  fragments := by simp [fragments, rows, commit]
  inputs := by simp [inputs, rows, commit]
  connections := by simp [commit]
  known := by simp

/-- The fragments of a piece of text: none if it is empty. -/
lemma takes_label (s : LayoutState) (line : String) :
    Takes s (s.label line) (([line].filter (· ≠ "")).map .label) [] := by
  by_cases hl : line = ""
  · have hid : s.label line = s.onRow id := by simp [label, onRow, Row.pushLabel, hl]
    have hf : (s.onRow id).fragments = s.fragments ++ [] := fragments_onRow s (by simp)
    have hin : (s.onRow id).inputs = s.inputs := inputs_onRow s (by simp)
    rw [hid]
    exact ⟨by simp [hf, hl], by simp [hin], by simp [onRow], by simp⟩
  · have hp : s.label line = s.onRow (·.push (.label line)) := by
      simp [label, Row.pushLabel, hl]
    rw [hp]
    simpa [hl] using takes_push s (.label line)

lemma takes_lines (s : LayoutState) (lines : List String) :
    Takes s (lines.foldl (fun s line => (s.begin Row.dummy).label line) s)
      ((lines.filter (· ≠ "")).map .label) [] := by
  induction lines generalizing s with
  | nil => exact Takes.refl s
  | cons line lines ih =>
    have h := ((takes_begin_dummy s).trans (takes_label _ line)).trans (ih _)
    rw [← List.singleton_append, List.filter_append, List.map_append]
    simpa using h

lemma takes_text (s : LayoutState) (content : String) :
    Takes s (s.text content) (labelsOf content) [] := by
  have hl : labelsOf content = ((Text.segments content).filter (· ≠ "")).map .label := by
    simp [labelsOf, Text.segments, Text.splitAtFeeds_eq_splitOn]
  rw [hl, text]
  rcases hs : Text.segments content with _ | ⟨first, further⟩
  · exact absurd hs (Text.segments_ne_nil content)
  · have h := (takes_label s first).trans (takes_lines _ further)
    rw [← List.singleton_append, List.filter_append, List.map_append]
    simpa using h

/-- A connection of a known type leaves one row that ends in it, and its name. -/
lemma takes_connection (s : LayoutState) {c : Connection} {t : ConnectionType}
    (ht : c.type? = some t) : Takes s (s.connection c t) [] [c] := by
  have hk := Connection.isStatement_iff ht
  -- noting the name leaves the rows as they are
  have hf : ∀ names, { s with connections := names }.fragments = s.fragments := fun _ => rfl
  have hin : ∀ names, { s with connections := names }.inputs = s.inputs := fun _ => rfl
  by_cases hs : t.isStatement = true
  · have hi : c.input = .statement c.name c.shadow := by simp [Connection.input, hk.1 hs]
    refine ⟨?_, ?_, ?_, by simp [ht]⟩
    · simp [connection, hs, fragments_begin, hf]
    · simp [connection, hs, inputs_begin, hin, hi]
    · simp [connection, hs]
  · have hi : c.input = .value c.name t.check c.shadow := by
      simp [Connection.input, mt hk.2 hs, ht]
    refine ⟨?_, ?_, ?_, by simp [ht]⟩
    · simp [connection, hs, fragments_begin, hf, Row.dummy]
    · simp [connection, hs, inputs_begin, hin, hi, Row.dummy]
    · simp [connection, hs]

/-- A connection is taken if its type is known. -/
lemma feed_connection_eq_ok {policy : UnknownFieldPolicy} {s t : LayoutState} {index : ℕ}
    {c : Connection} : s.feed policy index (.connection c) = .ok t ↔
      ∃ ty, c.type? = some ty ∧ s.connection c ty = t := by
  rcases ht : c.type? with _ | ty <;>
    simp [feed, Connection.resolve, ht, bind, Except.bind, pure, Except.pure]

lemma feedAll_cons_eq_ok {policy : UnknownFieldPolicy} {s t : LayoutState} {index : ℕ} {f : Field}
    {fs : List Field} : s.feedAll policy index (f :: fs) = .ok t ↔
      ∃ u, s.feed policy index f = .ok u ∧ u.feedAll policy (index + 1) fs = .ok t := by
  rw [feedAll]
  rcases s.feed policy index f with e | u <;> simp [bind, Except.bind]

/-- A field that is taken adds what it contributes. -/
lemma takes_feed {policy : UnknownFieldPolicy} {s t : LayoutState} {index : ℕ} {f : Field}
    (h : s.feed policy index f = .ok t) : Takes s t f.fragments f.slot?.toList := by
  cases f with
  | text content =>
    obtain rfl := Except.ok.inj h
    exact takes_text s content
  | widget name w =>
    obtain rfl := Except.ok.inj h
    exact takes_push s (.widget name w)
  | connection c =>
    obtain ⟨ty, ht, rfl⟩ := feed_connection_eq_ok.mp h
    exact takes_connection s ht
  | unrecognized v =>
    cases policy with
    | failFast => cases h
    | permissive =>
      obtain rfl := Except.ok.inj h
      exact ⟨by simp [fragments, rows, Field.fragments], by simp [inputs, rows, Field.slot?],
        by simp [Field.slot?], by simp [Field.slot?]⟩

lemma takes_feedAll {policy : UnknownFieldPolicy} {s t : LayoutState} {index : ℕ}
    {template : List Field} (h : s.feedAll policy index template = .ok t) :
    Takes s t (template.flatMap Field.fragments) (slots template) := by
  induction template generalizing s index with
  | nil =>
    obtain rfl := Except.ok.inj h
    exact Takes.refl s
  | cons f fs ih =>
    obtain ⟨u, hf, hfs⟩ := feedAll_cons_eq_ok.mp h
    rw [List.flatMap_cons, slots_cons]
    exact (takes_feed hf).trans (ih hfs)

end LayoutState

lemma layOut_eq_ok {o : LayoutOptions} {template : List Field} {l : Layout} :
    layOut o template = .ok l ↔
      ∃ s, LayoutState.empty.feedAll o.unknownFields 0 template = .ok s ∧
        s.finish o.helpIcon = l := by
  unfold layOut
  rcases LayoutState.empty.feedAll o.unknownFields 0 template with e | s <;>
    simp [bind, Except.bind, pure, Except.pure]

/-- A layout has taken in the whole template and then the help affordance. -/
lemma takes_layOut {o : LayoutOptions} {template : List Field} {l : Layout}
    (h : layOut o template = .ok l) :
    LayoutState.Takes .empty ⟨l.rows, none, l.connections, l.skipped⟩
      (template.flatMap Field.fragments ++ [.help o.helpIcon]) (slots template) := by
  obtain ⟨s, hs, rfl⟩ := layOut_eq_ok.mp h
  -- the pass ends in the state that finishes the row with the help affordance
  have hend := (LayoutState.takes_push s (.help o.helpIcon)).trans (LayoutState.takes_commit _)
  rw [← List.append_nil (slots template)]
  exact (LayoutState.takes_feedAll hs).trans hend

lemma fragments_layOut {o : LayoutOptions} {template : List Field} {l : Layout}
    (h : layOut o template = .ok l) :
    l.rows.flatMap (·.fragments) = template.flatMap Field.fragments ++ [.help o.helpIcon] := by
  simpa [LayoutState.fragments, LayoutState.rows, LayoutState.empty] using (takes_layOut h).fragments

lemma inputs_layOut {o : LayoutOptions} {template : List Field} {l : Layout}
    (h : layOut o template = .ok l) :
    (l.rows.map (·.input)).filter (· ≠ .dummy) = (slots template).map Connection.input := by
  simpa [LayoutState.inputs, LayoutState.rows, LayoutState.empty] using (takes_layOut h).inputs

lemma connections_layOut {o : LayoutOptions} {template : List Field} {l : Layout}
    (h : layOut o template = .ok l) : l.connections = (slots template).map (·.name) := by
  simpa [LayoutState.empty] using (takes_layOut h).connections

lemma Connection.name?_input (c : Connection) : c.input.name? = some c.name := by
  unfold Connection.input
  split <;> rfl

/-- Rows without a connection have no part in the names of the connections. -/
lemma filterMap_connectionName? (rows : List Row) :
    rows.filterMap (·.connectionName?) =
      ((rows.map (·.input)).filter (· ≠ .dummy)).filterMap Input.name? := by
  rw [List.filterMap_filter, List.filterMap_map]
  congr 1
  funext r
  rcases hr : r.input <;> simp [Row.connectionName?, hr, Input.name?]

/-- The connections of a layout are those that its rows end in. -/
lemma connectionNames_layOut {o : LayoutOptions} {template : List Field} {l : Layout}
    (h : layOut o template = .ok l) : l.rows.filterMap (·.connectionName?) = l.connections := by
  rw [filterMap_connectionName?, inputs_layOut h, connections_layOut h, List.filterMap_map,
    ← List.filterMap_eq_map']
  exact congrArg (List.filterMap · _) (funext Connection.name?_input)

/-- **Nothing is lost, repeated or moved.** The fragments of the rows are the labels and widgets of
the template and then the help affordance; the rows that end in a connection are, in order, those of
the connections of the template, which are of known types; and `connections` lists their names. -/
theorem layOut_content {o : LayoutOptions} {template : List Field} {l : Layout}
    (h : layOut o template = .ok l) :
    l.rows.flatMap (·.fragments) = template.flatMap Field.fragments ++ [.help o.helpIcon] ∧
    (l.rows.map (·.input)).filter (· ≠ .dummy) = (slots template).map Connection.input ∧
    (∀ c ∈ slots template, c.type?.isSome) ∧
    l.connections = (slots template).map (·.name) :=
  ⟨fragments_layOut h, inputs_layOut h, (takes_layOut h).known, connections_layOut h⟩

/-- A loop over two statement places of one name, with a line break of either kind. -/
def loopTemplate : List Field :=
  [.text "repeat\r\n", .connection { tag := some "number", name := "N", shadow := some "one" },
    .unrecognized .null, .text "times\n\nup to", .widget "MAX" (Widget.checkbox true),
    .connection { tag := some "void", name := "DO" }, .text "then", .connection { name := "X" },
    .connection { tag := some "void", name := "DO" }]

theorem layOut_content_loop :
    ∃ l, layOut { unknownFields := .permissive } loopTemplate = .ok l ∧
      l.rows.flatMap (·.fragments) =
        [.label "repeat", .label "times", .label "up to", .widget "MAX" (Widget.checkbox true),
          .label "then", .help "media/help.svg"] ∧
      (l.rows.map (·.input)).filter (· ≠ .dummy) =
        [.value "N" (some "Number") (some "one"), .statement "DO" none, .value "X" none none,
          .statement "DO" none] ∧
      l.connections = ["N", "DO", "X", "DO"] := by
  obtain ⟨l, hl⟩ : ∃ l, layOut { unknownFields := .permissive } loopTemplate = .ok l := ⟨_, rfl⟩
  obtain ⟨hf, hi, -, hc⟩ := layOut_content hl
  exact ⟨l, hl, hf.trans rfl, hi.trans (by decide), hc.trans (by decide)⟩

end BlockVocabulary
