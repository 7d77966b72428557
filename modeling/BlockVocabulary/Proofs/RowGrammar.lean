import BlockVocabulary.Proofs.Chunks

/-!
The grammar of laid-out rows.

The open row is never one for a value, so a place for a value stays bare and the row after it is
there to be continued. The help affordance is the last chunk, so it ends the last row. Which row a
label or a widget lies on can be counted off the chunks before it.
-/

namespace BlockVocabulary

/-- A row for a value holds nothing else, and a row without a connection follows it. -/
def ValueRule (rows : List Row) : Prop :=
  ∀ (i : ℕ) (r : Row), rows[i]? = some r → r.input.isValue = true →
    r.fragments = [] ∧ ∃ next, rows[i + 1]? = some next ∧ next.isDummy = true

/-- What rows that end in the given help affordance look like. -/
structure RowGrammar (helpIcon : String) (rows : List Row) : Prop where
  ne_nil : rows ≠ []
  help : (rows.flatMap (·.fragments)).countP Fragment.isHelp = 1
  last : ∃ r, rows.getLast? = some r ∧ r.fragments.getLast? = some (.help helpIcon) ∧
    r.input.isValue = false
  value : ValueRule rows
  label : ∀ r ∈ rows, ∀ text ∈ r.labels, text ≠ "" ∧ '\n' ∉ text.toList

/-- What `f` finds in rows, with the position of the row it is found in. The first row stands at the
given position. -/
def located {α : Type} (f : Row → List α) (start : ℕ) (rows : List Row) : List (α × ℕ) :=
  (rows.zipIdx start).flatMap fun (r, i) => (f r).map (·, i)

/-- The connection that a row ends in. -/
def Row.connections (r : Row) : List Input := [r.input].filter (· ≠ .dummy)

/-! ### Values -/

namespace ValueRule

lemma cons {r : Row} {rows : List Row} (hr : r.input.isValue = false) (h : ValueRule rows) :
    ValueRule (r :: rows) := by
  rintro (_ | i) v hv hvalue
  · obtain rfl : r = v := Option.some.inj hv
    rw [hr] at hvalue
    cases hvalue
  · exact h i v hv hvalue

lemma cons_value {v next : Row} {rows : List Row} (hv : v.fragments = [])
    (hnext : rows[0]? = some next) (hdummy : next.isDummy = true) (h : ValueRule rows) :
    ValueRule (v :: rows) := by
  rintro (_ | i) w hw hvalue
  · obtain rfl : v = w := Option.some.inj hw
    exact ⟨hv, next, hnext, hdummy⟩
  · exact h i w hw hvalue

lemma of_append {front rows : List Row} (h : ValueRule (front ++ rows)) : ValueRule rows := by
  intro i v hv hvalue
  have hshift : ∀ k, (front ++ rows)[front.length + k]? = rows[k]? := fun k => by
    rw [List.getElem?_append_right (by omega)]
    congr 1
    omega
  have hrule := h (front.length + i) v ((hshift i).trans hv) hvalue
  rw [Nat.add_assoc, hshift] at hrule
  exact hrule

end ValueRule

lemma isValue_input_of_void {c : Connection} (hc : c.tag = some ConnectionType.void.tag) :
    c.input.isValue = false := by
  rw [Connection.input, if_pos hc]
  rfl

/-- The open row stays in front, with what joins it. -/
lemma rowsFrom_eq_cons (r : Row) (cs : List Chunk) :
    ∃ lead rest, rowsFrom r cs = ⟨r.input, r.fragments ++ lead⟩ :: rest := by
  induction cs generalizing r with
  | nil => exact ⟨[], [], by simp [rowsFrom]⟩
  | cons c cs ih =>
    cases c with
    | content f =>
      obtain ⟨lead, rest, h⟩ := ih (r.push f)
      exact ⟨f :: lead, rest, by rw [rowsFrom, h]; simp [Row.push]⟩
    | lineBreak => exact ⟨[], rowsFrom Row.dummy cs, by rw [rowsFrom, List.append_nil]⟩
    | slot d =>
      refine ⟨[], (rowsFrom r (.slot d :: cs)).tail, ?_⟩
      rw [List.append_nil, rowsFrom]
      split <;> rfl

lemma valueRule_rowsFrom {r : Row} (hr : r.input.isValue = false) (cs : List Chunk) :
    ValueRule (rowsFrom r cs) := by
  induction cs generalizing r with
  | nil => exact ValueRule.cons hr fun i v hv => by simp at hv
  | cons c cs ih =>
    cases c with
    | content f => exact ih hr
    | lineBreak => exact (ih rfl).cons hr
    | slot d =>
      rw [rowsFrom]
      split
      · next hd => exact (ih (isValue_input_of_void hd)).cons hr
      · obtain ⟨lead, rest, h⟩ := rowsFrom_eq_cons Row.dummy cs
        have hnext : (rowsFrom Row.dummy cs)[0]? = some ⟨.dummy, lead⟩ := by
          rw [h]
          rfl
        exact (ValueRule.cons_value rfl hnext rfl (ih rfl)).cons hr

/-- A row in front of others does not change which one is last. -/
lemma getLast?_cons_of_eq_some (front : Row) {rows : List Row} {last : Row}
    (h : rows.getLast? = some last) : (front :: rows).getLast? = some last := by
  rw [List.getLast?_cons, h]
  rfl

/-- Content at the end ends the last row, which is not one for a value. -/
lemma getLast?_rowsFrom {r : Row} (hr : r.input.isValue = false) (cs : List Chunk) (f : Fragment) :
    ∃ last, (rowsFrom r (cs ++ [.content f])).getLast? = some last ∧
      last.fragments.getLast? = some f ∧ last.input.isValue = false := by
  induction cs generalizing r with
  | nil => exact ⟨r.push f, rfl, by simp [Row.push], hr⟩
  | cons c cs ih =>
    cases c with
    | content g => exact ih (r := r.push g) hr
    | lineBreak =>
      obtain ⟨last, hlast, hrow⟩ := ih (r := Row.dummy) rfl
      exact ⟨last, getLast?_cons_of_eq_some r hlast, hrow⟩
    | slot d =>
      rw [List.cons_append, rowsFrom]
      split
      · next hd =>
        obtain ⟨last, hlast, hrow⟩ := ih (r := ⟨d.input, []⟩) (isValue_input_of_void hd)
        exact ⟨last, getLast?_cons_of_eq_some r hlast, hrow⟩
      · obtain ⟨last, hlast, hrow⟩ := ih (r := Row.dummy) rfl
        exact ⟨last, getLast?_cons_of_eq_some r (getLast?_cons_of_eq_some _ hlast), hrow⟩

/-! ### Positions -/

section Located

variable {α : Type} {f : Row → List α} {g : Chunk → Option α}

lemma located_cons (f : Row → List α) (start : ℕ) (r : Row) (rows : List Row) :
    located f start (r :: rows) = (f r).map (·, start) ++ located f (start + 1) rows := by
  simp [located, List.zipIdx_cons]

/-- Moving all rows moves what is found in them. -/
lemma located_add (f : Row → List α) (start n : ℕ) (rows : List Row) :
    located f (start + n) rows = (located f start rows).map fun x => (x.1, x.2 + n) := by
  induction rows generalizing start with
  | nil => rfl
  | cons r rows ih =>
    have hadd : start + n + 1 = start + 1 + n := by omega
    rw [located_cons, located_cons, List.map_append, ← ih, hadd, List.map_map]
    rfl

/-- How far below the open row a chunk puts what it adds. A connection stands on the first row that
it begins. -/
def Chunk.offset : Chunk → ℕ
  | slot _ => 1
  | _ => 0

/-- What `g` finds in chunks, with the position of the row it comes to stand on. The open row stands
at the given position. -/
def positions (g : Chunk → Option α) (row : ℕ) : List Chunk → List (α × ℕ)
  | [] => []
  | c :: cs => (g c).toList.map (·, row + c.offset) ++ positions g (row + c.begun) cs

/-- In a row `f` finds what `g` finds in the chunks that have gone into it. -/
structure FindsAlike (f : Row → List α) (g : Chunk → Option α) : Prop where
  push (r : Row) (x : Fragment) : f (r.push x) = f r ++ (g (.content x)).toList
  dummy : f Row.dummy = []
  slot (c : Connection) : f ⟨c.input, []⟩ = (g (.slot c)).toList
  lineBreak : g .lineBreak = none

/-- Where things stand in rows can be told from the chunks. -/
lemma located_rowsFrom (h : FindsAlike f g) (start : ℕ) (r : Row) (cs : List Chunk) :
    located f start (rowsFrom r cs) = (f r).map (·, start) ++ positions g start cs := by
  induction cs generalizing start r with
  | nil => rw [rowsFrom, located_cons]; rfl
  | cons c cs ih =>
    cases c with
    | content x =>
      rw [rowsFrom, ih, h.push, List.map_append, List.append_assoc]
      rfl
    | lineBreak =>
      rw [rowsFrom, located_cons, ih, h.dummy, positions, h.lineBreak]
      rfl
    | slot c =>
      rw [rowsFrom, positions, Chunk.begun, Chunk.offset]
      split
      · rw [located_cons, ih, h.slot]
      · rw [located_cons, located_cons, ih, h.slot, h.dummy]
        rfl

lemma positions_append (row : ℕ) (before cs : List Chunk) :
    positions g row (before ++ cs) =
      positions g row before ++ positions g (row + begun before) cs := by
  induction before generalizing row with
  | nil => rfl
  | cons c before ih =>
    rw [List.cons_append, positions, ih, positions, begun_cons, List.append_assoc, Nat.add_assoc]

lemma length_positions (row : ℕ) (cs : List Chunk) :
    (positions g row cs).length = (cs.filterMap g).length := by
  induction cs generalizing row with
  | nil => rfl
  | cons c cs ih =>
    rcases hc : g c with _ | x <;> simp [positions, hc, ih]

/-- What is found in a chunk stands as many rows below the open one as the chunks before it
begin. -/
lemma getElem?_positions {c : Chunk} {x : α} (hc : g c = some x) (row : ℕ)
    (before after : List Chunk) :
    (positions g row (before ++ c :: after))[(before.filterMap g).length]? =
      some (x, row + begun before + c.offset) := by
  have hlen := length_positions (g := g) row before
  rw [positions_append, List.getElem?_append_right (by omega), hlen, Nat.sub_self, positions, hc]
  rfl

end Located

lemma findsAlike_fragments : FindsAlike (·.fragments) Chunk.content? :=
  ⟨fun _ _ => rfl, rfl, fun _ => rfl, rfl⟩

lemma findsAlike_connections :
    FindsAlike Row.connections fun c => c.slot?.map Connection.input where
  push r x := by simp [Row.connections, Row.push, Chunk.slot?]
  dummy := by simp [Row.connections, Row.dummy]
  slot c := by
    have hc : c.input ≠ .dummy := by
      unfold Connection.input
      split <;> simp
    simp [Row.connections, hc, Chunk.slot?]
  lineBreak := rfl

/-- In a layout the row that is spared is missing above all others. -/
lemma located_layOut {α : Type} {f : Row → List α} {g : Chunk → Option α} (h : FindsAlike f g)
    {o : LayoutOptions} {template : List Field} {l : Layout} (hl : layOut o template = .ok l) :
    (located f 0 l.rows).map (fun x => (x.1, x.2 + (spared template).length)) =
      positions g 0 (chunks template ++ [.content (.help o.helpIcon)]) := by
  have hrows := congrArg (located f 0) (rows_layOut hl)
  rw [located_rowsFrom h, h.dummy, List.map_nil, List.nil_append] at hrows
  rw [← hrows, spared]
  split
  · rw [List.singleton_append, located_cons, h.dummy]
    exact (located_add f 0 1 l.rows).symm
  · exact List.map_id _

lemma exists_getElem?_located {α : Type} {f : Row → List α} {g : Chunk → Option α}
    (h : FindsAlike f g) {o : LayoutOptions} {template : List Field} {l : Layout}
    (hl : layOut o template = .ok l) {before after : List Chunk} {c : Chunk} {x : α}
    (htemplate : chunks template = before ++ c :: after) (hc : g c = some x) :
    ∃ i, (located f 0 l.rows)[(before.filterMap g).length]? = some (x, i) ∧
      i + (spared template).length = begun before + c.offset := by
  have hpos := getElem?_positions hc 0 before (after ++ [.content (.help o.helpIcon)])
  rw [← List.cons_append, ← List.append_assoc, ← htemplate, ← located_layOut h hl,
    List.getElem?_map] at hpos
  obtain ⟨⟨y, i⟩, hy, hi⟩ := Option.map_eq_some_iff.mp hpos
  obtain ⟨rfl, hrow⟩ := Prod.mk.inj hi
  exact ⟨i, hy, by omega⟩

lemma begun_eq_zero_iff (cs : List Chunk) :
    begun cs = 0 ↔ Chunk.lineBreak ∉ cs ∧ ∀ d, Chunk.slot d ∉ cs := by
  induction cs with
  | nil => simp [begun]
  | cons c cs ih =>
    rw [begun_cons]
    cases c with
    | content x => simp [Chunk.begun, ih]
    | lineBreak => simp [Chunk.begun]
    | slot d =>
      have hd : (Chunk.slot d).begun ≠ 0 := by
        rw [Chunk.begun]
        split <;> omega
      simp only [Nat.add_eq_zero_iff, hd, false_and, false_iff, not_and, not_forall]
      exact fun _ => ⟨d, by simp⟩

/-! ### Labels -/

lemma Text.not_mem_of_mem_splitAtFeeds {cs line : List Char} (h : line ∈ splitAtFeeds cs) :
    '\n' ∉ line := by
  induction cs generalizing line with
  | nil =>
    obtain rfl : line = [] := by simpa [splitAtFeeds] using h
    simp
  | cons c cs ih =>
    rw [splitAtFeeds] at h
    split at h
    · rcases List.mem_cons.mp h with rfl | h
      · simp
      · exact ih h
    · next hc =>
      split at h
      · next hnil => exact absurd hnil (splitAtFeeds_ne_nil cs)
      · next first rest hcons =>
        rw [hcons] at ih
        rcases List.mem_cons.mp h with rfl | h
        · have hfirst := ih List.mem_cons_self
          simp [hfirst, Ne.symm hc]
        · exact ih (List.mem_cons_of_mem _ h)

lemma Text.dropReturn_subset (cs : List Char) : dropReturn cs ⊆ cs := by
  unfold dropReturn
  split
  · exact List.dropLast_subset cs
  · exact List.Subset.refl cs

lemma of_label_mem_labelsOf {content text : String} (h : Fragment.label text ∈ labelsOf content) :
    text ≠ "" ∧ '\n' ∉ text.toList := by
  rw [labelsOf, List.mem_map] at h
  obtain ⟨line, hline, hlabel⟩ := h
  obtain rfl := Fragment.label.inj hlabel
  rw [List.mem_filter, List.mem_map] at hline
  obtain ⟨⟨cs, hcs, rfl⟩, hne⟩ := hline
  rw [← Text.splitAtFeeds_eq_splitOn] at hcs
  refine ⟨by simpa using hne, fun hfeed => ?_⟩
  rw [String.toList_ofList] at hfeed
  exact Text.not_mem_of_mem_splitAtFeeds hcs (Text.dropReturn_subset cs hfeed)

/-- A field contributes no help affordance, and its labels are lines. -/
lemma of_mem_fragments {f : Field} {x : Fragment} (h : x ∈ f.fragments) :
    x.isHelp = false ∧ ∀ text, x = .label text → text ≠ "" ∧ '\n' ∉ text.toList := by
  cases f with
  | text content =>
    obtain ⟨line, -, rfl⟩ := List.mem_map.mp h
    exact ⟨rfl, fun text hx => of_label_mem_labelsOf (hx ▸ h)⟩
  | widget name w =>
    obtain rfl := List.mem_singleton.mp h
    exact ⟨rfl, fun text hx => by cases hx⟩
  | connection c => cases h
  | unrecognized v => cases h

lemma rowGrammar_layOut {o : LayoutOptions} {template : List Field} {l : Layout}
    (h : layOut o template = .ok l) : RowGrammar o.helpIcon l.rows := by
  have hfragments := fragments_layOut h
  have hfield : ∀ x ∈ template.flatMap Field.fragments, x.isHelp = false ∧
      ∀ text, x = .label text → text ≠ "" ∧ '\n' ∉ text.toList := by
    intro x hx
    obtain ⟨f, -, hf⟩ := List.mem_flatMap.mp hx
    exact of_mem_fragments hf
  have hne : l.rows ≠ [] := by
    intro hnil
    rw [hnil] at hfragments
    simp at hfragments
  refine ⟨hne, ?_, ?_, ?_, ?_⟩
  · rw [hfragments, List.countP_append, List.countP_eq_zero.mpr fun x hx => by simp [(hfield x hx).1]]
    rfl
  · have hlast := getLast?_rowsFrom (r := Row.dummy) rfl (chunks template) (.help o.helpIcon)
    rw [← rows_layOut h, List.getLast?_append, Option.or_of_isSome (by simpa using hne)] at hlast
    exact hlast
  · have hvalue := valueRule_rowsFrom (r := Row.dummy) rfl
      (chunks template ++ [.content (.help o.helpIcon)])
    rw [← rows_layOut h] at hvalue
    exact hvalue.of_append
  · intro r hr text htext
    obtain ⟨x, hx, hlabel⟩ := List.mem_filterMap.mp htext
    have hmem : x ∈ l.rows.flatMap (·.fragments) := List.mem_flatMap.mpr ⟨r, hr, hx⟩
    obtain rfl : x = .label text := by cases x <;> simp_all [Fragment.label?]
    rw [hfragments, List.mem_append] at hmem
    rcases hmem with hmem | hmem
    · exact (hfield _ hmem).2 text rfl
    · simp at hmem

/-- **The grammar of rows.** There is at least one row; one help affordance ends the last row,
which is not one for a value; a place for a value stays bare and a row without a connection
follows it; and labels are neither empty nor broken. A label or a widget that comes after a place
for statements lies on the row of that place if and only if neither a line break nor a connection
stands between. -/
theorem grammar_layOut {o : LayoutOptions} {template : List Field} {l : Layout}
    (h : layOut o template = .ok l) :
    RowGrammar o.helpIcon l.rows ∧
    ∀ (before : List Chunk) (c : Connection) (between : List Chunk) (x : Fragment)
      (after : List Chunk),
      chunks template = before ++ .slot c :: (between ++ .content x :: after) →
      c.tag = some ConnectionType.void.tag →
      ∃ i j,
        (located Row.connections 0 l.rows)[(before.filterMap Chunk.slot?).length]? =
          some (.statement c.name c.shadow, i) ∧
        (located (·.fragments) 0 l.rows)[((before ++ between).filterMap Chunk.content?).length]? =
          some (x, j) ∧
        (j = i ↔ Chunk.lineBreak ∉ between ∧ ∀ d, Chunk.slot d ∉ between) := by
  refine ⟨rowGrammar_layOut h, fun before c between x after htemplate hc => ?_⟩
  -- Both positions are counted off the chunks, so they differ by the rows that `between` begins.
  have hinput : c.input = .statement c.name c.shadow := if_pos hc
  obtain ⟨i, hi, hrow⟩ := exists_getElem?_located findsAlike_connections h htemplate rfl
  rw [List.append_cons, ← List.append_assoc] at htemplate
  obtain ⟨j, hj, hrow'⟩ := exists_getElem?_located findsAlike_fragments h htemplate rfl
  have hbegun : begun (before ++ [.slot c] ++ between) = begun before + 1 + begun between := by
    rw [begun_append, begun_append, begun_cons, Chunk.begun, if_pos hc]
    rfl
  have hslots : before.filterMap (fun c => c.slot?.map Connection.input) =
      (before.filterMap Chunk.slot?).map Connection.input := List.map_filterMap.symm
  have hcontent : (before ++ [Chunk.slot c] ++ between).filterMap Chunk.content? =
      (before ++ between).filterMap Chunk.content? := by
    rw [List.append_assoc, List.filterMap_append, List.singleton_append,
      List.filterMap_cons_none rfl, List.filterMap_append]
  rw [hslots, List.length_map, hinput] at hi
  rw [hcontent] at hj
  refine ⟨i, j, hi, hj, ?_⟩
  rw [← begun_eq_zero_iff]
  simp only [Chunk.offset, hbegun] at hrow hrow'
  omega

/-- A place for statements with content on its row, below it, and below another connection. -/
def stackTemplate : List Field :=
  [.text "repeat", .connection { tag := some "void", name := "DO" }, .text "then\nnext",
    .connection { tag := some "number", name := "N" }, .widget "MAX" (Widget.checkbox true)]

theorem grammar_layOut_stack :
    ∃ l, layOut {} stackTemplate = .ok l ∧ RowGrammar "media/help.svg" l.rows ∧
      ∃ i j k,
        (located Row.connections 0 l.rows)[0]? = some (.statement "DO" none, i) ∧
        (located (·.fragments) 0 l.rows)[1]? = some (.label "then", j) ∧
        (located (·.fragments) 0 l.rows)[2]? = some (.label "next", k) ∧ j = i ∧ k ≠ i := by
  obtain ⟨l, hl⟩ : ∃ l, layOut {} stackTemplate = .ok l := ⟨_, rfl⟩
  obtain ⟨hgrammar, hplaces⟩ := grammar_layOut hl
  obtain ⟨i, j, hi, hj, hsame⟩ := hplaces [.content (.label "repeat")]
    { tag := some "void", name := "DO" } [] (.label "then") _ rfl rfl
  obtain ⟨i', k, hi', hk, hbelow⟩ := hplaces [.content (.label "repeat")]
    { tag := some "void", name := "DO" } [.content (.label "then"), .lineBreak] (.label "next") _
    rfl rfl
  obtain rfl : i = i' := congrArg Prod.snd (Option.some.inj (hi.symm.trans hi'))
  exact ⟨l, hl, hgrammar, i, j, k, hi, hj, hk, hsame.mpr (by simp), fun h => by
    simpa using hbelow.mp h⟩

end BlockVocabulary
