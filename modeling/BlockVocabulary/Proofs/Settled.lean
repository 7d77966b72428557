import BlockVocabulary.Proofs.Refusals
import BlockVocabulary.Proofs.Run

/-!
A vocabulary with its widgets settled.

The sources of a vocabulary make a widget whenever the pass of a compile comes to an element. Which
widgets these are follows from the declarations, the options and the state of the sources before the
compile. Writing them into the templates gives a plain vocabulary: the one that the compile finds.
-/

namespace BlockVocabulary

variable {σ : Type}

/-- What would be made now. -/
def WidgetSource.next (sources : σ) (source : WidgetSource σ) : Widget := (source.run sources).1

/-- The fields of a template from a position on, and the state of the sources after a layout of
them. A layout stops at an element that is refused; the elements behind it are given what would be
made for them at that time. -/
def settleFields (policy : UnknownFieldPolicy) (index : ℕ) (sources : σ) :
    List (Field (WidgetSource σ)) → List Field × σ
  | [] => ([], sources)
  | f :: fs =>
    let (made, sources) := f.make.run sources
    if (made.refusal? policy index).isSome then
      (made :: fs.map (Field.map (WidgetSource.next sources)), sources)
    else
      let (fields, after) := settleFields policy (index + 1) sources fs
      (made :: fields, after)

/-- The entry that a compile finds, and the state of the sources after it. Of an entry that is
refused for its name no widget is made. -/
def Entry.settle (o : Options) (declared : Bool) (sources : σ) (e : Entry (WidgetSource σ)) :
    Entry × σ :=
  if o.duplicates = .strict ∧ declared = true then (e.map (WidgetSource.next sources), sources)
  else
    let (template, after) := settleFields o.unknownFields 0 sources e.template
    ({ e with template := template }, after)

def settleEntries (o : Options) (category colour : String) (accepted : List String) (sources : σ) :
    List (Entry (WidgetSource σ)) → List Entry × σ
  | [] => ([], sources)
  | e :: es =>
    let declared := accepted.contains e.name
    let (made, sources) := e.settle o declared sources
    let out := made.outcome o category colour declared
    let (es, after) := settleEntries o category colour (accepted ++ acceptedNames [out]) sources es
    (made :: es, after)

def settleCategories (o : Options) (accepted : List String) (sources : σ) :
    List (Category (WidgetSource σ)) → List Category × σ
  | [] => ([], sources)
  | c :: cs =>
    let colour := visibleColour c.colour
    let (es, sources) := settleEntries o c.name colour accepted sources c.entries
    let names := acceptedNames (compileEntries o c.name colour accepted es)
    let (cs, after) := settleCategories o (accepted ++ names) sources cs
    ({ c with entries := es } :: cs, after)

/-- The vocabulary that a compile finds, and the state of the sources after it. -/
def settle (o : Options) (sources : σ) (vocabulary : List (Category (WidgetSource σ))) :
    List Category × σ :=
  settleCategories o [] sources vocabulary

/-! ### Settled entries -/

lemma settle_of_declared {o : Options} {declared : Bool}
    (hd : o.duplicates = .strict ∧ declared = true) (sources : σ) (e : Entry (WidgetSource σ)) :
    e.settle o declared sources = (e.map (WidgetSource.next sources), sources) := if_pos hd

lemma settle_of_not_declared {o : Options} {declared : Bool}
    (hd : o.duplicates = .strict → declared = false) (sources : σ) (e : Entry (WidgetSource σ)) :
    e.settle o declared sources =
      ({ e with template := (settleFields o.unknownFields 0 sources e.template).1 },
        (settleFields o.unknownFields 0 sources e.template).2) :=
  if_neg (by simpa using hd)

/-- A settled entry is assembled like the entry itself. -/
lemma assemble_settle (o : Options) (declared : Bool) (sources : σ) (e : Entry (WidgetSource σ))
    (colour : String) (rows : List Row) :
    (e.settle o declared sources).1.assemble colour rows = e.assemble colour rows := by
  unfold Entry.settle
  split <;> rfl

lemma name_settle (o : Options) (declared : Bool) (sources : σ) (e : Entry (WidgetSource σ)) :
    (e.settle o declared sources).1.name = e.name := by
  unfold Entry.settle
  split <;> rfl

lemma generator_settle (o : Options) (declared : Bool) (sources : σ) (e : Entry (WidgetSource σ)) :
    (e.settle o declared sources).1.generator = e.generator := by
  unfold Entry.settle
  split <;> rfl

lemma length_settleEntries (o : Options) (category colour : String) (accepted : List String)
    (sources : σ) (es : List (Entry (WidgetSource σ))) :
    (settleEntries o category colour accepted sources es).1.length = es.length := by
  induction es generalizing accepted sources with
  | nil => rfl
  | cons e es ih => simp [settleEntries, ih]

/-- No entry is left out. -/
lemma entries_settle (o : Options) (sources : σ) (vocabulary : List (Category (WidgetSource σ))) :
    (settle o sources vocabulary).1.map (·.entries.length) =
      vocabulary.map (·.entries.length) := by
  suffices h : ∀ accepted, (settleCategories o accepted sources vocabulary).1.map
      (·.entries.length) = vocabulary.map (·.entries.length) from h []
  induction vocabulary generalizing sources with
  | nil => intro accepted; rfl
  | cons c cs ih =>
    intro accepted
    simp only [settleCategories, List.map_cons, length_settleEntries, ih]

/-! ### Copies -/

lemma map_copies_next (sources : σ) (f : Field) :
    (f.map WidgetSource.copies).map (WidgetSource.next sources) = f := by
  cases f <;> rfl

lemma run_make_copies (sources : σ) (f : Field) :
    (f.map WidgetSource.copies).make.run sources = (f, sources) := by
  cases f <;> rfl

lemma settleFields_copies (policy : UnknownFieldPolicy) (index : ℕ) (sources : σ)
    (fs : List Field) :
    settleFields policy index sources (fs.map (Field.map WidgetSource.copies)) = (fs, sources) := by
  induction fs generalizing index with
  | nil => rfl
  | cons f fs ih =>
    rw [List.map_cons, settleFields, run_make_copies]
    dsimp only
    rw [ih]
    split
    · simp [Function.comp_def, map_copies_next]
    · rfl

lemma settle_entry_copies (o : Options) (declared : Bool) (sources : σ) (e : Entry) :
    (e.map WidgetSource.copies).settle o declared sources = (e, sources) := by
  unfold Entry.settle
  split
  · simp [Entry.map, Function.comp_def, map_copies_next]
  · simp [Entry.map, settleFields_copies]

lemma settleEntries_copies (o : Options) (category colour : String) (accepted : List String)
    (sources : σ) (es : List Entry) :
    settleEntries o category colour accepted sources (es.map (Entry.map WidgetSource.copies)) =
      (es, sources) := by
  induction es generalizing accepted with
  | nil => rfl
  | cons e es ih =>
    rw [List.map_cons, settleEntries, settle_entry_copies]
    dsimp only
    rw [ih]

lemma settleCategories_declared (o : Options) (accepted : List String) (sources : σ)
    (vocabulary : List Category) :
    settleCategories o accepted sources (vocabulary.map Category.declared) =
      (vocabulary, sources) := by
  induction vocabulary generalizing accepted with
  | nil => rfl
  | cons c cs ih =>
    rw [List.map_cons, settleCategories]
    simp only [Category.declared, Category.map] at ih ⊢
    rw [settleEntries_copies]
    dsimp only
    rw [ih]

/-- A vocabulary that was read is settled from the start. -/
lemma settle_declared (o : Options) (sources : σ) (vocabulary : List Category) :
    settle o sources (vocabulary.map Category.declared) = (vocabulary, sources) :=
  settleCategories_declared o [] sources vocabulary

end BlockVocabulary
