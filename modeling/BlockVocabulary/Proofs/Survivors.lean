import BlockVocabulary.Proofs.InPlace
import BlockVocabulary.Proofs.Widgets

/-!
Entries that fail, in a vocabulary whose widgets are made.

A compile of what is left without the failing entries differs from the compile of all entries in
widgets at most: the sources have not made widgets for the failing entries, so an entry that is left
may be given another widget of the same source. If it is given the same, nothing differs at all.
-/

namespace BlockVocabulary

variable {σ ω : Type}

/-- The entries whose outcomes are accepted. -/
def keepEntries (outs : List Outcome) (es : List (Entry ω)) : List (Entry ω) :=
  ((es.zip outs).filter (·.2.isAccepted)).map (·.1)

/-- The vocabulary without the entries that failed in the compile of it; a category stays when none
of its entries do. -/
def Compilation.keep (c : Compilation) (vocabulary : List (Category ω)) : List (Category ω) :=
  List.zipWith (fun cat cc => { cat with entries := keepEntries cc.outcomes cat.entries })
    vocabulary c.categories

lemma keepEntries_map {ω' : Type} (g : Entry ω → Entry ω') (outs : List Outcome)
    (es : List (Entry ω)) : keepEntries outs (es.map g) = (keepEntries outs es).map g := by
  simp [keepEntries, List.zip_map_left, List.filter_map, Function.comp_def]

/-- Entries are kept by their outcomes, whatever they hold for widgets. -/
lemma keep_map {ω' : Type} (g : ω → ω') (c : Compilation) (vocabulary : List (Category ω)) :
    c.keep (vocabulary.map (Category.map g)) = (c.keep vocabulary).map (Category.map g) := by
  simp [Compilation.keep, List.zipWith_map_left, List.map_zipWith, Category.map, keepEntries_map]

lemma keepEntries_entry (outs : List Outcome) :
    keepEntries outs (outs.map (·.entry)) = (outs.filter Outcome.isAccepted).map (·.entry) := by
  induction outs with
  | nil => rfl
  | cons out outs ih =>
    rw [keepEntries] at ih ⊢
    rcases h : out.isAccepted <;> simp [h, ih]

/-- The entries that are kept of a plain vocabulary are its survivors. -/
lemma keep_eq_survivors (o : Options) (vocabulary : List Category) :
    (compile o vocabulary).keep vocabulary = (compile o vocabulary).survivors := by
  obtain ⟨hcat, hent⟩ := covers_compile o vocabulary
  have hkeep : (compile o vocabulary).keep vocabulary =
      (compile o vocabulary).keep ((compile o vocabulary).categories.map (·.category)) := by
    rw [hcat]
  rw [hkeep, Compilation.keep, List.zipWith_map_left, List.zipWith_self, Compilation.survivors]
  refine List.map_congr_left fun cc hcc => ?_
  rw [CompiledCategory.survivors, ← hent cc hcc, keepEntries_entry]

/-- What is kept of a vocabulary is, but for widgets, what survives of it once it is settled. -/
lemma bare_keep (o : Options) (sources sources' : σ)
    (vocabulary : List (Category (WidgetSource σ))) :
    let c := compile o (settle o sources vocabulary).1
    (settle o sources' (c.keep vocabulary)).1.map Category.bare =
      c.survivors.map Category.bare := by
  intro c
  have hsettled : (c.keep vocabulary).map Category.bare =
      (c.keep (settle o sources vocabulary).1).map Category.bare :=
    calc (c.keep vocabulary).map Category.bare
        = c.keep (vocabulary.map Category.bare) := (keep_map _ c vocabulary).symm
      _ = c.keep ((settle o sources vocabulary).1.map Category.bare) := by rw [bare_settle]
      _ = (c.keep (settle o sources vocabulary).1).map Category.bare := keep_map _ c _
  rw [bare_settle, hsettled, keep_eq_survivors]

/-- Entries that were read are given their own widgets, whether or not others fail beside them. -/
lemma settle_keep_declared (o : Options) (sources sources' : σ) (read : List Category) :
    let c := compile o (settle o sources (read.map Category.declared)).1
    (settle o sources' (c.keep (read.map Category.declared))).1 = c.survivors := by
  have hkeep := keep_map (@WidgetSource.copies σ) (compile o read) read
  rw [settle_declared]
  dsimp only
  rw [show (compile o read).keep (read.map Category.declared) = _ from hkeep,
    keep_eq_survivors]
  exact congrArg Prod.fst (settle_declared o sources' _)

/-- **Entries are compiled in isolation, but for their widgets.** The entries that are kept when
those that fail are taken out compile, with the sources in any state, to the same toolbox, the same
generators and the same blocks up to their widgets, with no errors and with the warnings that they
had given rise to. If the sources make the same widgets for them as before, the descriptors and the
registries are the same altogether; they do so in every vocabulary that was read. -/
theorem compile_survivors (o : Options) (vocabulary : List (Category (WidgetSource σ)))
    (sources sources' : σ) (r : Registries) :
    let c := compile o (settle o sources vocabulary).1
    let whole := (CompilePass.compile o vocabulary).run (.start sources r)
    let alone := (CompilePass.compile o (c.keep vocabulary)).run (.start sources' r)
    c.Covers (settle o sources vocabulary).1 ∧ whole.2.log.toList = c.log ∧
    alone.1.toolbox = whole.1.toolbox ∧
    alone.2.registries.Alike whole.2.registries ∧
    alone.1.diagnostics.errors = [] ∧ alone.1.diagnostics.totalErrors = 0 ∧
    alone.1.diagnostics.warnings = (c.outcomes.filter Outcome.isAccepted).flatMap (·.warnings) ∧
    ((settle o sources' (c.keep vocabulary)).1 = c.survivors →
      alone.1.descriptors? = whole.1.descriptors? ∧ alone.2.registries = whole.2.registries) ∧
    ∀ read : List Category, vocabulary = read.map Category.declared →
      (settle o sources' (c.keep vocabulary)).1 = c.survivors := by
  intro c whole alone
  have hwhole : whole = _ := CompilePass.run_compile o vocabulary sources r
  have halone : alone = _ := CompilePass.run_compile o (c.keep vocabulary) sources' r
  have hbare := bare_keep o sources sources' vocabulary
  obtain ⟨htool, hdesc, hreg, herr, htotal, hwarn⟩ :=
    survivors_alone o (settle o sources vocabulary).1 r
  obtain ⟨htool', hdiag'⟩ := compile_congr_bare hbare o
  rw [hwhole, halone]
  dsimp only
  refine ⟨covers_compile o _, rfl, htool'.trans htool, ?_, ?_, ?_, ?_, ?_, ?_⟩
  · exact (register_congr_bare hbare o r).trans (hreg ▸ .refl _)
  · exact hdiag' ▸ herr
  · exact hdiag' ▸ htotal
  · exact hdiag' ▸ hwarn
  · intro hsame
    rw [hsame]
    exact ⟨hdesc, hreg⟩
  · rintro read rfl
    exact settle_keep_declared o sources sources' read

/-- The options that ask for descriptors. -/
def describing : Options := { vocabulary := true }

/-- Makes a widget of a kind of its own first. -/
def firstThenLater : WidgetSource ℕ := fun made =>
  (⟨if made = 0 then "first" else "later", Table.empty⟩, made + 1)

def tally : Entry (WidgetSource ℕ) :=
  { name := "tally", template := [.widget "COUNT" firstThenLater] }

def undated : Field (WidgetSource ℕ) := .connection ⟨some "date", "WHEN", none⟩

/-- Blocks that draw on one source, with an entry among them that fails before it does. -/
def undrawn : List (Category (WidgetSource ℕ)) :=
  [{ name := "Counting", entries :=
      [tally, { name := "broken", template := [undated, .widget "COUNT" firstThenLater] },
        { tally with name := "again" }] }]

theorem compile_survivors_undrawn :
    let c := compile describing (settle describing 0 undrawn).1
    let whole := (CompilePass.compile describing undrawn).run (.start 0 .empty)
    let alone := (CompilePass.compile describing (c.keep undrawn)).run (.start 0 .empty)
    (settle describing 0 (c.keep undrawn)).1 = c.survivors ∧
    whole.1.diagnostics.totalErrors = 1 ∧ alone.1.diagnostics.totalErrors = 0 ∧
    alone.1.descriptors? = whole.1.descriptors? ∧ alone.2.registries = whole.2.registries := by
  have hsame : (settle describing 0
      ((compile describing (settle describing 0 undrawn).1).keep undrawn)).1 =
      (compile describing (settle describing 0 undrawn).1).survivors := rfl
  have hfails : ((CompilePass.compile describing undrawn).run
      (.start 0 .empty)).1.diagnostics.totalErrors = 1 := by decide
  obtain ⟨-, -, -, -, -, htotal, -, hall, -⟩ := compile_survivors describing undrawn 0 0 .empty
  exact ⟨hsame, hfails, htotal, hall hsame⟩

/-- A block that draws on the source of an entry that fails after it has. -/
def drawn : List (Category (WidgetSource ℕ)) :=
  [{ name := "Counting", entries :=
      [{ name := "broken", template := [.widget "COUNT" firstThenLater, undated] }, tally] }]

/-- An entry that fails may take a widget from one that does not. -/
theorem drawn_survivors :
    let c := compile describing (settle describing 0 drawn).1
    let whole := (CompilePass.compile describing drawn).run (.start 0 .empty)
    let alone := (CompilePass.compile describing (c.keep drawn)).run (.start 0 .empty)
    alone.1.descriptors? ≠ whole.1.descriptors? ∧
    alone.2.registries.blocks.get? "tally" ≠ whole.2.registries.blocks.get? "tally" := by
  refine ⟨by decide, fun h => ?_⟩
  exact absurd (congrArg (Option.map (Descriptor.ofSchema · "Counting")) h) (by decide)

end BlockVocabulary
