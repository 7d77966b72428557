import BlockVocabulary.Proofs.UnknownFields

/-!
The rows of a layout, read off its template.

A template is a sequence of chunks: labels and widgets, line breaks, and places for connections.
Content joins the open row, a line break finishes it, and a connection finishes it and begins rows
of its own. The rows of a layout are those that the chunks make in this way from an empty row, which
itself is missing if the first known field is a connection.
-/

namespace BlockVocabulary

/-- What a template adds to the rows at one point. -/
inductive Chunk where
  /-- A label or a widget. -/
  | content (f : Fragment)
  | lineBreak
  | slot (c : Connection)

namespace Chunk

def content? : Chunk → Option Fragment
  | content f => some f
  | _ => none

def slot? : Chunk → Option Connection
  | slot c => some c
  | _ => none

/-- How many rows a chunk begins: a place for a value is followed by a row of its own. -/
def begun : Chunk → ℕ
  | content _ => 0
  | lineBreak => 1
  | slot c => if c.tag = some ConnectionType.void.tag then 1 else 2

end Chunk

/-- The label of a line, if it is not empty. -/
def lineChunks (line : String) : List Chunk := if line = "" then [] else [.content (.label line)]

/-- The chunks of a field. Between the lines of a text there are line breaks. -/
def Field.chunks : Field → List Chunk
  | .text content =>
    [Chunk.lineBreak].intercalate ((content.toList.splitOn '\n').map fun line =>
      lineChunks (String.ofList (Text.dropReturn line)))
  | .widget name w => [.content (.widget name w)]
  | .connection c => [.slot c]
  | .unrecognized _ => []

def chunks (template : List Field) : List Chunk := template.flatMap Field.chunks

/-- How many rows chunks begin. -/
def begun : List Chunk → ℕ
  | [] => 0
  | p :: ps => p.begun + begun ps

/-- The rows that chunks make, with the row `r` open. -/
def rowsFrom (r : Row) : List Chunk → List Row
  | [] => [r]
  | .content f :: ps => rowsFrom (r.push f) ps
  | .lineBreak :: ps => r :: rowsFrom Row.dummy ps
  | .slot c :: ps =>
    if c.tag = some ConnectionType.void.tag then r :: rowsFrom ⟨c.input, []⟩ ps
    else r :: ⟨c.input, []⟩ :: rowsFrom Row.dummy ps

lemma begun_cons (p : Chunk) (ps : List Chunk) : begun (p :: ps) = p.begun + begun ps := rfl

lemma begun_append (ps qs : List Chunk) : begun (ps ++ qs) = begun ps + begun qs := by
  induction ps with
  | nil => exact (Nat.zero_add _).symm
  | cons p ps ih => rw [List.cons_append, begun_cons, begun_cons, ih, Nat.add_assoc]

lemma length_rowsFrom (r : Row) (ps : List Chunk) : (rowsFrom r ps).length = begun ps + 1 := by
  induction ps generalizing r with
  | nil => rfl
  | cons p ps ih =>
    rw [begun_cons]
    cases p with
    | content f => rw [rowsFrom, ih, Chunk.begun]; omega
    | lineBreak => rw [rowsFrom, List.length_cons, ih, Chunk.begun]; omega
    | slot c =>
      rw [rowsFrom, Chunk.begun]
      split
      · rw [List.length_cons, ih]; omega
      · rw [List.length_cons, List.length_cons, ih]; omega

/-! ### Chunks of a text -/

lemma chunks_text (content : String) : (Field.text content).chunks =
    [Chunk.lineBreak].intercalate ((Text.segments content).map lineChunks) := by
  rw [Field.chunks, Text.segments, Text.splitAtFeeds_eq_splitOn, List.map_map]
  rfl

lemma begun_lineChunks (line : String) : begun (lineChunks line) = 0 := by
  unfold lineChunks
  split <;> rfl

/-- Lines begin one row less than there are of them. -/
lemma begun_lines (line : String) (lines : List String) :
    begun ([Chunk.lineBreak].intercalate ((line :: lines).map lineChunks)) = lines.length := by
  induction lines generalizing line with
  | nil => simp [begun_lineChunks]
  | cons next lines ih =>
    rw [List.map_cons, List.map_cons, List.intercalate_cons_cons, ← List.map_cons, begun_append,
      begun_append, begun_lineChunks, ih, List.length_cons]
    simp [begun, Chunk.begun]
    omega

lemma length_splitOn (cs : List Char) : (cs.splitOn '\n').length = cs.count '\n' + 1 := by
  induction cs with
  | nil => simp
  | cons c cs ih =>
    rw [List.splitOn_cons_eq_if_modifyHead]
    by_cases hc : c = '\n'
    · simp [hc, ih]
    · simp [hc, ih]

/-- A text begins a row for every line feed in it. -/
lemma begun_text (content : String) :
    begun (Field.text content).chunks = content.toList.count '\n' := by
  have hlen : (Text.segments content).length = content.toList.count '\n' + 1 := by
    rw [Text.segments, List.length_map, Text.splitAtFeeds_eq_splitOn, length_splitOn]
  rw [chunks_text]
  rcases hs : Text.segments content with _ | ⟨line, lines⟩
  · exact absurd hs (Text.segments_ne_nil content)
  · rw [begun_lines]
    rw [hs, List.length_cons] at hlen
    omega

namespace LayoutState

/-! ### The pass -/

/-- All rows, if the given chunks are still to come. -/
def upTo (s : LayoutState) (ps : List Chunk) : List Row :=
  s.committed ++ rowsFrom (s.current.getD Row.dummy) ps

lemma upTo_push (s : LayoutState) (f : Fragment) (ps : List Chunk) :
    (s.onRow (·.push f)).upTo ps = s.upTo (.content f :: ps) := rfl

lemma upTo_label (s : LayoutState) (line : String) (ps : List Chunk) :
    (s.label line).upTo ps = s.upTo (lineChunks line ++ ps) := by
  by_cases hl : line = ""
  · simp [label, onRow, Row.pushLabel, lineChunks, hl, upTo]
  · have hp : s.label line = s.onRow (·.push (.label line)) := by simp [label, Row.pushLabel, hl]
    rw [hp, upTo_push]
    simp [lineChunks, hl]

lemma upTo_begin {s : LayoutState} (hs : s.current.isSome) (r : Row) (ps : List Chunk) :
    (s.begin r).upTo ps = s.committed ++ s.current.getD Row.dummy :: rowsFrom r ps := by
  obtain ⟨row, hrow⟩ := Option.isSome_iff_exists.mp hs
  simp [begin, commit, upTo, hrow]

lemma isSome_label (s : LayoutState) (line : String) : (s.label line).current.isSome := rfl

/-- Lines of a text, the first of which joins the open row. -/
lemma upTo_lines (s : LayoutState) (line : String) (lines : List String) (ps : List Chunk) :
    (lines.foldl (fun s line => (s.begin Row.dummy).label line) (s.label line)).upTo ps =
      s.upTo ([Chunk.lineBreak].intercalate ((line :: lines).map lineChunks) ++ ps) := by
  induction lines generalizing s line with
  | nil => simpa using upTo_label s line ps
  | cons next lines ih =>
    have hbreak : ∀ qs, ((s.label line).begin Row.dummy).upTo qs =
        s.upTo (lineChunks line ++ [.lineBreak] ++ qs) := by
      intro qs
      rw [upTo_begin (isSome_label s line), List.append_assoc, ← upTo_label]
      rfl
    rw [List.foldl_cons, ih, hbreak, List.map_cons, List.map_cons, List.map_cons,
      List.intercalate_cons_cons, List.append_assoc, List.append_assoc, List.append_assoc]

lemma upTo_text (s : LayoutState) (content : String) (ps : List Chunk) :
    (s.text content).upTo ps = s.upTo ((Field.text content).chunks ++ ps) := by
  rw [chunks_text, text]
  rcases hs : Text.segments content with _ | ⟨line, lines⟩
  · exact absurd hs (Text.segments_ne_nil content)
  · exact upTo_lines s line lines ps

lemma isSome_text (s : LayoutState) (content : String) : (s.text content).current.isSome :=
  text_invariant (P := fun t => t.current.isSome) (isSome_label s)
    (fun t line _ => isSome_label (t.begin Row.dummy) line) content

/-- The rows that a connection begins. -/
lemma upTo_connection (s : LayoutState) {c : Connection} {t : ConnectionType}
    (ht : c.type? = some t) (ps : List Chunk) :
    (s.connection c t).upTo ps =
        s.committed ++ s.current.toList ++ (rowsFrom Row.dummy (.slot c :: ps)).tail ∧
      (s.connection c t).current.isSome := by
  have hk := Connection.isStatement_iff ht
  by_cases hs : t.isStatement = true
  · have hv := hk.mp hs
    have hi : c.input = .statement c.name c.shadow := by simp [Connection.input, hv]
    simp [connection, hs, begin, commit, upTo, rowsFrom, hv, hi]
  · have hv := mt hk.mpr hs
    have hi : c.input = .value c.name t.check c.shadow := by simp [Connection.input, hv, ht]
    simp [connection, hs, begin, commit, upTo, rowsFrom, hv, hi]

/-- A field takes its chunks off those that are still to come. -/
lemma upTo_feed {policy : UnknownFieldPolicy} {s t : LayoutState} {index : ℕ} {f : Field}
    (h : s.feed policy index f = .ok t) (hs : s.current.isSome) (ps : List Chunk) :
    t.upTo ps = s.upTo (f.chunks ++ ps) ∧ t.current.isSome := by
  cases f with
  | text content =>
    obtain rfl := Except.ok.inj h
    exact ⟨upTo_text s content ps, isSome_text s content⟩
  | widget name w =>
    obtain rfl := Except.ok.inj h
    exact ⟨upTo_push s (.widget name w) ps, rfl⟩
  | connection c =>
    obtain ⟨ty, ht, rfl⟩ := feed_connection_eq_ok.mp h
    obtain ⟨row, hrow⟩ := Option.isSome_iff_exists.mp hs
    have hfrom : s.upTo (Chunk.slot c :: ps) =
        s.committed ++ row :: (rowsFrom Row.dummy (.slot c :: ps)).tail := by
      simp only [upTo, hrow, Option.getD_some, rowsFrom]
      split <;> rfl
    obtain ⟨hrows, hsome⟩ := upTo_connection s ht ps
    refine ⟨?_, hsome⟩
    rw [hrows, Field.chunks, List.singleton_append, hfrom, hrow]
    simp
  | unrecognized v =>
    cases policy with
    | failFast => cases h
    | permissive =>
      obtain rfl := Except.ok.inj h
      exact ⟨rfl, hs⟩

lemma upTo_feedAll {policy : UnknownFieldPolicy} {s t : LayoutState} {index : ℕ}
    {fs : List Field} (h : s.feedAll policy index fs = .ok t) (hs : s.current.isSome)
    (ps : List Chunk) : t.upTo ps = s.upTo (chunks fs ++ ps) := by
  induction fs generalizing s index with
  | nil =>
    obtain rfl := Except.ok.inj h
    rfl
  | cons f fs ih =>
    obtain ⟨u, hf, hfs⟩ := feedAll_cons_eq_ok.mp h
    rw [chunks, List.flatMap_cons, List.append_assoc]
    rw [ih hfs (upTo_feed hf hs ps).2, (upTo_feed hf hs (chunks fs ++ ps)).1]
    rfl

lemma rows_finish (s : LayoutState) (helpIcon : String) :
    (s.finish helpIcon).rows = s.upTo [.content (.help helpIcon)] := by
  simp [finish, onRow, commit, upTo, rowsFrom]

end LayoutState

/-! ### Layouts -/

/-- The first known field is a connection. -/
def opensWithConnection (template : List Field) : Bool :=
  match template.find? Field.isRecognized with
  | some (.connection _) => true
  | _ => false

/-- The empty row that a template without such an opening would begin with. -/
def spared (template : List Field) : List Row :=
  if opensWithConnection template then [Row.dummy] else []

/-- From the start, where no row is open. -/
lemma LayoutState.spared_append_upTo {policy : UnknownFieldPolicy} {s t : LayoutState} {index : ℕ}
    {fs : List Field} (h : s.feedAll policy index fs = .ok t) (hc : s.committed = [])
    (hs : s.current = none) (ps : List Chunk) :
    spared fs ++ t.upTo ps = rowsFrom Row.dummy (chunks fs ++ ps) := by
  have hempty : ∀ qs, s.upTo qs = rowsFrom Row.dummy qs := fun qs => by simp [upTo, hc, hs]
  -- Only elements that are left out keep the state as it is; a known field opens a row for good.
  induction fs generalizing s index with
  | nil =>
    obtain rfl := Except.ok.inj h
    exact hempty ps
  | cons f fs ih =>
    obtain ⟨u, hf, hfs⟩ := feedAll_cons_eq_ok.mp h
    rw [chunks, List.flatMap_cons, List.append_assoc]
    cases f with
    | text content =>
      obtain rfl := Except.ok.inj hf
      rw [upTo_feedAll hfs (isSome_text s content), upTo_text, hempty]
      rfl
    | widget name w =>
      obtain rfl := Except.ok.inj hf
      rw [upTo_feedAll hfs rfl]
      exact (upTo_push s (.widget name w) _).trans (hempty _)
    | connection c =>
      obtain ⟨ty, ht, rfl⟩ := feed_connection_eq_ok.mp hf
      obtain ⟨hrows, hsome⟩ := upTo_connection s ht (chunks fs ++ ps)
      rw [upTo_feedAll hfs hsome, hrows, hc, hs]
      simp only [spared, opensWithConnection, List.find?_cons, Field.isRecognized, Field.chunks,
        rowsFrom, List.singleton_append, List.nil_append, Option.toList_none, if_true, chunks]
      split <;> rfl
    | unrecognized v =>
      cases policy with
      | failFast => cases hf
      | permissive =>
        obtain rfl := Except.ok.inj hf
        exact ih hfs hc hs hempty

/-- **The rows of a layout are those of its chunks**, but for an empty one in front. -/
lemma rows_layOut {o : LayoutOptions} {template : List Field} {l : Layout}
    (h : layOut o template = .ok l) :
    spared template ++ l.rows =
      rowsFrom Row.dummy (chunks template ++ [.content (.help o.helpIcon)]) := by
  obtain ⟨s, hs, rfl⟩ := layOut_eq_ok.mp h
  rw [LayoutState.rows_finish]
  exact LayoutState.spared_append_upTo hs rfl rfl _

/-! ### The number of rows -/

/-- The characters of a text field. -/
def Field.characters : Field → List Char
  | .text content => content.toList
  | _ => []

lemma begun_field (f : Field) :
    begun f.chunks =
      f.characters.count '\n' +
      2 * f.slot?.toList.countP (fun c => c.tag ≠ some ConnectionType.void.tag) +
      f.slot?.toList.countP (fun c => c.tag = some ConnectionType.void.tag) := by
  cases f with
  | text content => exact begun_text content
  | widget name w => rfl
  | connection c =>
    have hc : begun (Field.connection c).chunks = (Chunk.slot c).begun := rfl
    rw [hc, Chunk.begun]
    by_cases hv : c.tag = some ConnectionType.void.tag <;>
      simp [Field.characters, Field.slot?, hv]
  | unrecognized v => rfl

lemma begun_chunks (template : List Field) :
    begun (chunks template) =
      (template.flatMap Field.characters).count '\n' +
      2 * (slots template).countP (fun c => c.tag ≠ some ConnectionType.void.tag) +
      (slots template).countP (fun c => c.tag = some ConnectionType.void.tag) := by
  induction template with
  | nil => rfl
  | cons f fs ih =>
    have hb : begun (chunks (f :: fs)) = begun f.chunks + begun (chunks fs) := begun_append _ _
    rw [hb, begun_field, ih, slots_cons, List.flatMap_cons, List.count_append, List.countP_append,
      List.countP_append]
    omega

/-- **The number of rows.** Every line feed begins one row, a connection for a value two and one for
statements one, and one more row is there from the start unless the first known field is a
connection. -/
theorem length_rows_layOut {o : LayoutOptions} {template : List Field} {l : Layout}
    (h : layOut o template = .ok l) :
    l.rows.length =
      (template.flatMap Field.characters).count '\n' +
      2 * (slots template).countP (fun c => c.tag ≠ some ConnectionType.void.tag) +
      (slots template).countP (fun c => c.tag = some ConnectionType.void.tag) +
      match template.find? Field.isRecognized with
      | some (.connection _) => 0
      | _ => 1 := by
  have hlen := congrArg List.length (rows_layOut h)
  rw [List.length_append, length_rowsFrom, begun_append, begun_chunks] at hlen
  have hhelp : begun [.content (.help o.helpIcon)] = 0 := rfl
  rw [hhelp] at hlen
  have hspared : (spared template).length +
      (match template.find? Field.isRecognized with
        | some (.connection _) => 0
        | _ => 1) = 1 := by
    unfold spared opensWithConnection
    rcases template.find? Field.isRecognized with _ | f
    · rfl
    · cases f <;> rfl
  omega

/-- A template that begins with an element that is no known field and then a connection. -/
def pairTemplate : List Field :=
  [.unrecognized .null, .connection { tag := some "void", name := "FIRST" }, .text "then\r\n",
    .connection { tag := some "number", name := "N" }, .widget "MAX" (Widget.checkbox true),
    .text "\n\nup to", .connection { tag := some "void", name := "SECOND" }]

theorem length_rows_layOut_pair :
    ∃ l, layOut { unknownFields := .permissive } pairTemplate = .ok l ∧ l.rows.length = 7 := by
  obtain ⟨l, hl⟩ : ∃ l, layOut { unknownFields := .permissive } pairTemplate = .ok l := ⟨_, rfl⟩
  exact ⟨l, hl, (length_rows_layOut hl).trans (by decide)⟩

end BlockVocabulary
