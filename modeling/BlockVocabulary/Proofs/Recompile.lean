import BlockVocabulary.Proofs.Survivors

/-!
Compiling again.

A second compile of a vocabulary finds the registries as the first one left them, and the widget
sources in any state. It comes to the same toolbox and diagnostics, leaves the generators alone and
changes nothing but widgets in the blocks; and if the entries that are accepted are given the same
widgets, it writes what is there already and describes the same blocks.
-/

namespace BlockVocabulary

variable {σ : Type}

/-- What a compile registers under an accepted name does not depend on what was there. -/
lemma get?_register_congr {o : Options} {vocabulary : List Category} {n : String}
    (h : n ∈ (compile o vocabulary).names) (r r' : Registries) :
    ((compile o vocabulary).register r).blocks.get? n =
      ((compile o vocabulary).register r').blocks.get? n ∧
    ((compile o vocabulary).register r).generators.get? n =
      ((compile o vocabulary).register r').generators.get? n := by
  obtain ⟨out, -, -, hget⟩ := get?_register_of_mem h
  exact ⟨(hget r).1.trans (hget r').1.symm, (hget r).2.trans (hget r').2.symm⟩

/-- **Registering twice is registering once.** -/
lemma register_register (o : Options) (vocabulary : List Category) (r : Registries) :
    (compile o vocabulary).register ((compile o vocabulary).register r) =
      (compile o vocabulary).register r := by
  have hget : ∀ n,
      ((compile o vocabulary).register ((compile o vocabulary).register r)).blocks.get? n =
        ((compile o vocabulary).register r).blocks.get? n ∧
      ((compile o vocabulary).register ((compile o vocabulary).register r)).generators.get? n =
        ((compile o vocabulary).register r).generators.get? n := by
    intro n
    by_cases hn : n ∈ (compile o vocabulary).names
    · exact get?_register_congr hn _ _
    · exact get?_register_of_not_mem hn _
  have hb := Table.ext_get? fun n => (hget n).1
  have hg := Table.ext_get? fun n => (hget n).2
  rcases hr : (compile o vocabulary).register ((compile o vocabulary).register r) with ⟨b, g⟩
  rcases hr' : (compile o vocabulary).register r with ⟨b', g'⟩
  rw [hr, hr'] at hb hg
  rw [show b = b' from hb, show g = g' from hg]

/-- From two states of the sources the entries that are accepted are given the same widgets. -/
def SameWidgets (o : Options) (vocabulary : List (Category (WidgetSource σ)))
    (sources sources' : σ) : Prop :=
  (compile o (settle o sources' vocabulary).1).survivors =
    (compile o (settle o sources vocabulary).1).survivors

/-- Entries that were read are given their own widgets always. -/
lemma sameWidgets_declared (o : Options) (sources sources' : σ) (read : List Category) :
    SameWidgets o (read.map Category.declared) sources sources' := by
  rw [SameWidgets, settle_declared, settle_declared]

/-- Vocabularies of which the same is left without the failing entries compile to the same. -/
lemma compile_congr_survivors {o : Options} {vocabulary vocabulary' : List Category}
    (h : (compile o vocabulary').survivors = (compile o vocabulary).survivors) (r : Registries) :
    (compile o vocabulary').descriptors? r = (compile o vocabulary).descriptors? r ∧
    (compile o vocabulary').register r = (compile o vocabulary).register r := by
  obtain ⟨-, hdesc, hreg, -⟩ := survivors_alone o vocabulary r
  obtain ⟨-, hdesc', hreg', -⟩ := survivors_alone o vocabulary' r
  rw [h] at hdesc' hreg'
  exact ⟨hdesc'.symm.trans hdesc, hreg'.symm.trans hreg⟩

/-- **A compile can be repeated, and the toolbox has no memory.** Compiling a vocabulary again, into
the registries that it has left, gives the same toolbox and diagnostics and leaves the generators as
they are and the blocks as they are but for widgets. From whatever registries it starts, a compile
gives the same toolbox and diagnostics and leaves the same generator, and but for widgets the same
block, under every name it has compiled. Where the entries that are accepted are given the same
widgets, as they are in every vocabulary that was read, the descriptors and the blocks are the same
too. -/
theorem compile_again (o : Options) (vocabulary : List (Category (WidgetSource σ)))
    (sources sources' : σ) (r r' : Registries) :
    let first := (CompilePass.compile o vocabulary).run (.start sources r)
    let again := (CompilePass.compile o vocabulary).run (.start sources' first.2.registries)
    let other := (CompilePass.compile o vocabulary).run (.start sources' r')
    (again.1.toolbox = first.1.toolbox ∧ again.1.diagnostics = first.1.diagnostics ∧
      again.2.registries.Alike first.2.registries ∧
      (SameWidgets o vocabulary sources sources' →
        again.1.descriptors? = first.1.descriptors? ∧
        again.2.registries = first.2.registries)) ∧
    (other.1.toolbox = first.1.toolbox ∧ other.1.diagnostics = first.1.diagnostics ∧
      ∀ n ∈ first.2.accepted,
        other.2.registries.generators.get? n = first.2.registries.generators.get? n ∧
        (other.2.registries.blocks.get? n).map BlockSchema.bare =
          (first.2.registries.blocks.get? n).map BlockSchema.bare ∧
        (SameWidgets o vocabulary sources sources' →
          other.2.registries.blocks.get? n = first.2.registries.blocks.get? n)) ∧
    ∀ read : List Category, vocabulary = read.map Category.declared →
      SameWidgets o vocabulary sources sources' := by
  intro first again other
  let c := compile o (settle o sources vocabulary).1
  let c' := compile o (settle o sources' vocabulary).1
  have hfirst : first = _ := CompilePass.run_compile o vocabulary sources r
  have hagain : again = _ := CompilePass.run_compile o vocabulary sources' first.2.registries
  have hother : other = _ := CompilePass.run_compile o vocabulary sources' r'
  have hbare : (settle o sources' vocabulary).1.map Category.bare =
      (settle o sources vocabulary).1.map Category.bare := by
    rw [bare_settle, bare_settle]
  obtain ⟨htool, hdiag⟩ := compile_congr_bare hbare o
  have htwice : c.register (c.register r) = c.register r := register_register o _ r
  rw [hagain, hother, hfirst]
  dsimp only
  refine ⟨⟨htool, hdiag, ?_, fun hsame => ?_⟩, ⟨htool, hdiag, fun n hn => ?_⟩, ?_⟩
  · have halike := register_congr_bare hbare o (c.register r)
    rwa [register_register] at halike
  · obtain ⟨hdesc, hreg⟩ := compile_congr_survivors hsame (c.register r)
    refine ⟨hdesc.trans ?_, hreg.trans htwice⟩
    show c.descriptors? (c.register r) = c.descriptors? r
    rw [Compilation.descriptors?, Compilation.descriptors?, htwice]
  · have hr := get?_register_congr hn r' r
    have halike := register_congr_bare hbare o r'
    refine ⟨?_, ?_, fun hsame => ?_⟩
    · rw [halike.generators]
      exact hr.2
    · rw [halike.blocks]
      exact congrArg (Option.map BlockSchema.bare) hr.1
    · obtain ⟨-, hreg⟩ := compile_congr_survivors hsame r'
      rw [hreg]
      exact hr.1
  · rintro read rfl
    exact sameWidgets_declared o sources sources' read

def tallies : List (Category (WidgetSource ℕ)) := [{ name := "Counting", entries := [tally] }]

/-- A source that has settled on one widget does no harm. -/
theorem compile_again_tallies :
    let first := (CompilePass.compile describing tallies).run (.start 1 .empty)
    let again := (CompilePass.compile describing tallies).run
      (.start first.2.sources first.2.registries)
    first.2.sources = 2 ∧ SameWidgets describing tallies 1 2 ∧
    again.1.toolbox = first.1.toolbox ∧ again.1.descriptors? = first.1.descriptors? ∧
    again.2.registries = first.2.registries := by
  have hsources : ((CompilePass.compile describing tallies).run (.start 1 .empty)).2.sources = 2 :=
    rfl
  have hsame : SameWidgets describing tallies 1 2 := rfl
  obtain ⟨⟨htool, -, -, hall⟩, -⟩ := compile_again describing tallies 1 2 .empty .empty
  dsimp only
  rw [hsources]
  exact ⟨rfl, hsame, htool, hall hsame⟩

/-- A source that makes another widget the second time leaves another block and another descriptor
behind. -/
theorem register_tallies :
    let first := (CompilePass.compile describing tallies).run (.start 0 .empty)
    let again := (CompilePass.compile describing tallies).run
      (.start first.2.sources first.2.registries)
    again.2.registries.blocks.get? "tally" ≠ first.2.registries.blocks.get? "tally" ∧
    again.1.descriptors? ≠ first.1.descriptors? := by
  refine ⟨fun h => ?_, by decide⟩
  exact absurd (congrArg (Option.map (Descriptor.ofSchema · "Counting")) h) (by decide)

end BlockVocabulary
