import BlockVocabulary.Proofs.Rerun
import BlockVocabulary.Proofs.ResultShape

/-!
What a check tells about a compile.

Both commands read the same files and compile the same document, and decide their exit codes on
different parts of the result. A check writes nothing. A compile writes nothing if it has no
vocabulary to compile, and otherwise files of fixed names, whatever became of the entries.
-/

namespace BlockVocabulary.Command

open FileTree

variable {t t' : FileTree} {directory : String} {files : List (String × String)}

/-! ### What is loaded -/

/-- The options that the flags of a command stand for. -/
inductive OptionFlags.Gives (t : FileTree) (f : OptionFlags) : Options → Prop
  | plain (h : f.config = none) : Gives t f (f.apply {})
  | config {path text : String} {o : Options} (h : f.config = some path)
      (hread : t.read path = .ok text) (hparse : Config.read text = some o) : Gives t f (f.apply o)

/-- The files that a command reads can be read, and hold a vocabulary and options. -/
structure Loads (t : FileTree) (file : String) (f : OptionFlags) (o : Options)
    (vocabulary : List Category) : Prop where
  vocabulary : ∃ source, t.read file = .ok source ∧ Document.read source = .ok vocabulary
  options : f.Gives t o

lemma loadOptions_eq_ok {f : OptionFlags} {o : Options} :
    ((loadOptions access f).run t).1 = .ok o ↔ f.Gives t o := by
  rw [run_loadOptions]
  constructor
  · intro h
    rcases hconfig : f.config with _ | path
    · rw [hconfig] at h
      exact Except.ok.inj h ▸ .plain hconfig
    · rw [hconfig] at h
      rcases hread : t.read path with e | text
      · simp [hread] at h
      · rcases hparse : Config.read text with _ | o'
        · simp [hread, hparse] at h
        · simp only [hread, hparse, Option.elim_some, Except.ok.injEq] at h
          exact h ▸ .config hconfig hread hparse
  · rintro (hconfig | ⟨hconfig, hread, hparse⟩)
    · rw [hconfig]
    · simp [hconfig, hread, hparse]

lemma load_eq_ok {inv : Invocation} {source : String} {o : Options} :
    ((load access inv).run t).1 = .ok (source, o) ↔
      t.read inv.file = .ok source ∧ inv.flags.Gives t o := by
  rw [run_load, ← loadOptions_eq_ok]
  rcases t.read inv.file with e | text
  · simp
  · rcases ((loadOptions access inv.flags).run t).1 with e | o' <;> simp [Except.map]

/-- Loading changes no file. -/
lemma run_load_of_eq {inv : Invocation} {loaded : Except LoadError (String × Options)}
    (h : ((load access inv).run t).1 = loaded) : (load access inv).run t = (loaded, t) :=
  h ▸ run_load_congr fun _ _ => rfl

/-- A command works on what it loads. -/
lemma loads_iff {inv : Invocation} {o : Options} {vocabulary : List Category} :
    Loads t inv.file inv.flags o vocabulary ↔ ∃ source,
      ((load access inv).run t).1 = .ok (source, o) ∧ Document.read source = .ok vocabulary := by
  simp only [load_eq_ok]
  constructor
  · rintro ⟨⟨source, hsource, hread⟩, ho⟩
    exact ⟨source, ⟨hsource, ho⟩, hread⟩
  · rintro ⟨source, ⟨hsource, ho⟩, hread⟩
    exact ⟨⟨source, hsource, hread⟩, ho⟩

lemma Loads.unique {file : String} {f : OptionFlags} {o o' : Options}
    {vocabulary vocabulary' : List Category} (h : Loads t file f o vocabulary)
    (h' : Loads t file f o' vocabulary') : o = o' ∧ vocabulary = vocabulary' := by
  obtain ⟨source, hload, hread⟩ := (@loads_iff t ⟨.check, file, f, 0⟩ o vocabulary).mp h
  obtain ⟨source', hload', hread'⟩ := (@loads_iff t ⟨.check, file, f, 0⟩ o' vocabulary').mp h'
  cases hload.symm.trans hload'
  cases hread.symm.trans hread'
  exact ⟨rfl, rfl⟩

/-! ### What is written -/

/-- The names of the files that a compile writes, with descriptors or without. -/
def artifactNames (descriptors : Bool) : List String :=
  ["toolbox.json", "blocks.json"] ++ if descriptors then ["vocab.json", "vocab.txt"] else []

/-- Files of these names can be written into a directory, which may have to be made. -/
def Writable (t : FileTree) (directory : String) (names : List String) : Prop :=
  ∃ t₁, t.makeDirectories directory = .ok t₁ ∧
    ∀ name ∈ names, ∀ content, ∃ t₂, t₁.write (joinPath directory name) content = .ok t₂

lemma Writable.subset {names names' : List String} (h : Writable t directory names)
    (hsub : names' ⊆ names) : Writable t directory names' := by
  obtain ⟨t₁, hmake, hwrite⟩ := h
  exact ⟨t₁, hmake, fun name hname => hwrite name (hsub hname)⟩

lemma artifactNames_subset (descriptors : Bool) :
    artifactNames descriptors ⊆ artifactNames true := by
  cases descriptors <;> simp [artifactNames]

/-- The trees differ in the files written into the directory and in nothing else. -/
structure Wrote (t : FileTree) (directory : String) (files : List (String × String))
    (t' : FileTree) : Prop where
  content : ∀ file ∈ files, t'.read (joinPath directory file.1) = .ok file.2
  others : ∀ key, (∀ file ∈ files, key ≠ (t.destination (joinPath directory file.1)).key) →
    t'.files.get? key = t.files.get? key
  directories : t'.made = t.made
  depth : t'.depth = t.depth

lemma Wrote.cons {t₁ : FileTree} {file : String × String}
    (hwrite : t.write (joinPath directory file.1) file.2 = .ok t₁)
    (hold : t'.Holds (joinPath directory file.1) file.2.toUTF8)
    (hwrote : Wrote t₁ directory files t') : Wrote t directory (file :: files) t' := by
  have hdepth := (extends_of_write hwrite).depth
  obtain ⟨-, hasks, hput⟩ := write_eq_ok.mp hwrite
  refine ⟨fun other hother => ?_, fun key hkey => ?_, ?_, hwrote.depth.trans hdepth⟩
  · rcases List.mem_cons.mp hother with rfl | hother
    · exact read_of_holds hold hasks
    · exact hwrote.content other hother
  · have hrest : t'.files.get? key = t₁.files.get? key := by
      refine hwrote.others key fun other hother => ?_
      rw [destination_congr hdepth]
      exact hkey other (List.mem_cons_of_mem _ hother)
    rw [hrest, hput]
    exact Table.get?_insert_of_ne _ _ (hkey file (by simp))
  · rw [hwrote.directories, hput]
    rfl

/-- **Files that can be written one by one are all written.** -/
lemma run_writeFiles (hnames : ∀ file ∈ files, IsName file.1) (hnodup : (files.map (·.1)).Nodup)
    (h : ∀ file ∈ files, ∃ t₁, t.write (joinPath directory file.1) file.2 = .ok t₁) :
    ∃ t', (writeFiles access directory files).run t =
        (.ok (files.map fun file => joinPath directory file.1), t') ∧
      Wrote t directory files t' := by
  induction files generalizing t with
  | nil => exact ⟨t, rfl, ⟨by simp, fun _ _ => rfl, rfl, rfl⟩⟩
  | cons file files ih =>
    rw [List.map_cons, List.nodup_cons] at hnodup
    have hnames' : ∀ other ∈ files, IsName other.1 := fun other hother =>
      hnames other (List.mem_cons_of_mem _ hother)
    obtain ⟨t₁, hwrite⟩ := h file (by simp)
    obtain ⟨t', hrun, hwrote⟩ := ih (t := t₁) hnames' hnodup.2 fun other hother =>
      exists_write_of_write hwrite (h other (List.mem_cons_of_mem _ hother))
    -- no later file has the name of this one, so its content is still there in the end
    have hold : ((writeFiles access directory files).run t₁).2.Holds
        (joinPath directory file.1) file.2.toUTF8 := by
      refine holds_writeFiles (holds_of_write hwrite) fun other hother => ?_
      refine destination_joinPath_ne _ _ (hnames' other hother) (hnames file (by simp)) ?_
      exact fun hsame => hnodup.1 (hsame ▸ List.mem_map_of_mem hother)
    rw [hrun] at hold
    refine ⟨t', ?_, hwrote.cons hwrite hold⟩
    rw [run_writeFiles_cons, hwrite]
    simp only [hrun, Except.map, List.map_cons]

lemma names_artifacts {r : CompileResult} (h : r.toolbox ≠ none) :
    (artifacts r).map (·.1) = artifactNames r.descriptors.isSome := by
  obtain ⟨toolbox, htoolbox⟩ := Option.ne_none_iff_exists'.mp h
  unfold artifacts
  rw [htoolbox]
  rcases r.descriptors with _ | ds <;> rfl

lemma names_artifacts_ofDocument (o : Options) (vocabulary : List Category) :
    (artifacts (CompileResult.ofDocument o (.ok vocabulary))).map (·.1) =
      artifactNames o.vocabulary := by
  have hshaped := shaped_ofDocument o (.ok vocabulary)
  have htoolbox : (CompileResult.ofDocument o (.ok vocabulary)).toolbox ≠ none :=
    hshaped.compiled.mpr ⟨o, vocabulary, rfl, rfl⟩
  obtain ⟨o', ho, hdescriptors⟩ := hshaped.descriptors htoolbox
  obtain rfl := Except.ok.inj ho
  rw [names_artifacts htoolbox, Bool.eq_iff_iff.mpr (Option.isSome_iff_ne_none.trans hdescriptors)]

/-- A vocabulary that was compiled is written out. -/
lemma run_writeArtifacts_of_writable (h : Writable t directory (files.map (·.1)))
    (hfiles : files ≠ []) (hnames : ∀ file ∈ files, IsName file.1)
    (hnodup : (files.map (·.1)).Nodup) :
    ∃ made t', t.makeDirectories directory = .ok { t with made := made } ∧
      (writeArtifacts access directory files).run t =
        (.ok (files.map fun file => joinPath directory file.1), t') ∧
      Wrote { t with made := made } directory files t' := by
  obtain ⟨t₁, hmake, hwrite⟩ := h
  obtain ⟨t', hrun, hwrote⟩ := run_writeFiles hnames hnodup fun file hfile =>
    hwrite file.1 (List.mem_map_of_mem hfile) file.2
  have hmade := eq_of_makeDirectories hmake
  refine ⟨t₁.made, t', hmade ▸ hmake, ?_, hmade ▸ hwrote⟩
  rw [run_writeArtifacts, if_neg (by simpa using hfiles), hmake]
  exact hrun

/-! ### The two commands -/

section

variable {inv : Invocation} {o : Options} {vocabulary : List Category}
  {document : Except DocumentError (List Category)}

/-- The exit code of a check says whether a compile succeeds. -/
lemma exitCode_check : (check inv o document).exitCode =
    if (CompileResult.ofDocument o document).success then 0 else 1 := by
  have hsuccess := (shaped_ofDocument o document).success
  simp only [check, Diagnostics.hasErrors, decide_eq_true_eq, Nat.pos_iff_ne_zero, ne_eq,
    ← hsuccess]
  cases (CompileResult.ofDocument o document).success <;> rfl

lemma exitCode_check_eq_zero_iff : (check inv o (.ok vocabulary)).exitCode = 0 ↔
    ∀ out ∈ (compile o vocabulary).outcomes, out.isAccepted = true := by
  have hsuccess : (CompileResult.ofDocument o (.ok vocabulary)).success = true ↔ _ :=
    succeeded_iff o vocabulary
  rw [exitCode_check, ← hsuccess]
  cases (CompileResult.ofDocument o (.ok vocabulary)).success <;> simp

lemma run_compileInto {paths : List String}
    (h : (writeArtifacts access directory (artifacts (CompileResult.ofDocument o document))).run t =
      (.ok paths, t')) :
    (compileInto access directory inv o document).run t =
      ({ exitCode := if (CompileResult.ofDocument o document).success then 0 else 1
         stdout := unlines (paths.map ("wrote " ++ ·))
         stderr := unlines (shownLines inv.verbosity o document
           (CompileResult.ofDocument o document).diagnostics) }, t') := by
  unfold compileInto
  simp only [run_bind, h]
  rfl

/-- Without a vocabulary nothing is written. -/
lemma run_compileInto_error (e : DocumentError) :
    ((compileInto access directory inv o (.error e)).run t).2 = t ∧
      ((compileInto access directory inv o (.error e)).run t).1.stdout = "" ∧
      ((compileInto access directory inv o (.error e)).run t).1.exitCode =
        (check inv o (.error e)).exitCode := by
  have hwrite : (writeArtifacts access directory
      (artifacts (CompileResult.ofDocument o (.error e)))).run t = (.ok [], t) := rfl
  rw [run_compileInto hwrite, exitCode_check]
  exact ⟨rfl, rfl, rfl⟩

/-- What a compile writes, however many entries fail. -/
lemma run_compileInto_ok (h : Writable t directory (artifactNames true))
    (vocabulary : List Category) :
    let files := artifacts (CompileResult.ofDocument o (.ok vocabulary))
    let after := (compileInto access directory inv o (.ok vocabulary)).run t
    (∃ made, t.makeDirectories directory = .ok { t with made := made } ∧
        Wrote { t with made := made } directory files after.2) ∧
      after.1.stdout =
        unlines ((artifactNames o.vocabulary).map fun name => "wrote " ++ joinPath directory name) ∧
      after.1.exitCode = (check inv o (.ok vocabulary)).exitCode := by
  intro files after
  have hnames : files.map (·.1) = artifactNames o.vocabulary := names_artifacts_ofDocument o vocabulary
  have hsome : files ≠ [] := by
    intro hnil
    rw [hnil] at hnames
    contradiction
  obtain ⟨made, t', hmake, hwrite, hwrote⟩ := run_writeArtifacts_of_writable
    (hnames ▸ h.subset (artifactNames_subset o.vocabulary)) hsome (fun _ => isName_of_mem_artifacts)
    (nodup_artifacts_names _)
  have hafter : after = _ := run_compileInto hwrite
  rw [hafter]
  refine ⟨⟨made, hmake, hwrote⟩, ?_, exitCode_check.symm⟩
  rw [← hnames, List.map_map, List.map_map]
  rfl

/-- Without a vocabulary and options neither command changes a file. -/
lemma run_execute_of_not_loads (h : ¬∃ o vocabulary, Loads t inv.file inv.flags o vocabulary) :
    ((execute access inv).run t).1.exitCode = 1 ∧ ((execute access inv).run t).1.stdout = "" ∧
      ((execute access inv).run t).2 = t := by
  rcases hloaded : ((load access inv).run t).1 with e | ⟨source, o⟩
  · unfold execute
    simp only [run_bind, run_load_of_eq hloaded]
    exact ⟨rfl, rfl, rfl⟩
  · rcases hread : Document.read source with e | vocabulary
    · have hexit : (check inv o (.error e)).exitCode = 1 := exitCode_check
      unfold execute
      simp only [run_bind, run_load_of_eq hloaded, hread]
      rcases inv.action with directory | _
      · obtain ⟨hsame, hstdout, hcode⟩ := run_compileInto_error e
        exact ⟨hcode.trans hexit, hstdout, hsame⟩
      · exact ⟨hexit, rfl, rfl⟩
    · exact absurd ⟨o, vocabulary, loads_iff.mpr ⟨source, hloaded, hread⟩⟩ h

lemma run_execute_check (haction : inv.action = .check)
    (h : Loads t inv.file inv.flags o vocabulary) :
    (execute access inv).run t = (check inv o (.ok vocabulary), t) := by
  obtain ⟨source, hloaded, hread⟩ := loads_iff.mp h
  unfold execute
  simp only [run_bind, run_load_of_eq hloaded, haction, hread]
  rfl

lemma run_execute_compile (haction : inv.action = .compile directory)
    (h : Loads t inv.file inv.flags o vocabulary) :
    (execute access inv).run t = (compileInto access directory inv o (.ok vocabulary)).run t := by
  obtain ⟨source, hloaded, hread⟩ := loads_iff.mp h
  unfold execute
  simp only [run_bind, run_load_of_eq hloaded, haction, hread]

end

/-- **A check predicts a compile** into a directory whose files can be written. The check changes no
file, and both answer with the same exit code. If the vocabulary and the options cannot be had, the
compile changes no file either; otherwise it writes its files and names them, also if entries
fail. -/
theorem check_predicts_compile {args args' : List String} {file : String} {f : OptionFlags}
    {v v' : Nat} (hcompile : Request.ofArguments args = .run ⟨.compile directory, file, f, v⟩)
    (hcheck : Request.ofArguments args' = .run ⟨.check, file, f, v'⟩)
    (hwritable : Writable t directory (artifactNames true)) :
    (runOn args' t).2 = t ∧
      (runOn args t).1.exitCode = (runOn args' t).1.exitCode ∧
      ((runOn args' t).1.exitCode = 0 ↔ ∃ o vocabulary, Loads t file f o vocabulary ∧
        ∀ out ∈ (compile o vocabulary).outcomes, out.isAccepted = true) ∧
      ((¬∃ o vocabulary, Loads t file f o vocabulary) →
        (runOn args t).2 = t ∧ (runOn args t).1.stdout = "") ∧
      ∀ o vocabulary, Loads t file f o vocabulary →
        let files := artifacts (CompileResult.ofDocument o (.ok vocabulary))
        files.map (·.1) = artifactNames o.vocabulary ∧
          (runOn args t).1.stdout = unlines
            ((artifactNames o.vocabulary).map fun name => "wrote " ++ joinPath directory name) ∧
          ∃ made, t.makeDirectories directory = .ok { t with made := made } ∧
            Wrote { t with made := made } directory files (runOn args t).2 := by
  have hrun : runOn args t = (execute access ⟨.compile directory, file, f, v⟩).run t := by
    simp only [runOn, run, hcompile]
  have hrun' : runOn args' t = (execute access ⟨.check, file, f, v'⟩).run t := by
    simp only [runOn, run, hcheck]
  rw [hrun, hrun']
  by_cases hloads : ∃ o vocabulary, Loads t file f o vocabulary
  · obtain ⟨o, vocabulary, h⟩ := hloads
    obtain ⟨hwrote, hstdout, hexit⟩ := run_compileInto_ok hwritable vocabulary
    rw [run_execute_check rfl h, run_execute_compile rfl h]
    refine ⟨rfl, hexit, ?_, fun hnone => absurd ⟨o, vocabulary, h⟩ hnone, fun o' vocabulary' h' => ?_⟩
    · refine exitCode_check_eq_zero_iff.trans ⟨fun hall => ⟨o, vocabulary, h, hall⟩, ?_⟩
      rintro ⟨o', vocabulary', h', hall⟩
      obtain ⟨rfl, rfl⟩ := h.unique h'
      exact hall
    · obtain ⟨rfl, rfl⟩ := h.unique h'
      exact ⟨names_artifacts_ofDocument o vocabulary, hstdout, hwrote⟩
  · obtain ⟨hexit, hstdout, hsame⟩ :=
      @run_execute_of_not_loads t ⟨.compile directory, file, f, v⟩ hloads
    obtain ⟨hexit', -, hsame'⟩ := @run_execute_of_not_loads t ⟨.check, file, f, v'⟩ hloads
    refine ⟨hsame', hexit.trans hexit'.symm, ?_, fun _ => ⟨hsame, hstdout⟩,
      fun o vocabulary h => absurd ⟨o, vocabulary, h⟩ hloads⟩
    refine iff_of_false (by simp [hexit']) ?_
    rintro ⟨o, vocabulary, h, -⟩
    exact hloads ⟨o, vocabulary, h⟩

/-- A vocabulary with one entry that compiles and one that does not. -/
def mixedSource : String :=
  "[\x7b\"name\":\"W\",\"entries\":[\x7b\"name\":\"a\"\x7d," ++
    "\x7b\"name\":\"b\",\"outputConnection\":\x7b\"type\":\"void\"\x7d\x7d]\x7d]"

def mixedTree : FileTree := FileTree.ofFiles [("vocab.json", mixedSource.toUTF8)]

lemma writable_mixedTree : Writable mixedTree "out" (artifactNames true) := by
  have hmade : ((mixedTree.makeDirectories "out").map (·.made)).toOption =
      some (mixedTree.made ++ ["out"]) := by
    decide +kernel
  rcases hmake : mixedTree.makeDirectories "out" with e | t₁
  · rw [hmake] at hmade
    contradiction
  · rw [hmake] at hmade
    refine ⟨t₁, hmake, fun name hname content => exists_write_eq_ok_iff.mpr ?_⟩
    rw [eq_of_makeDirectories hmake, show t₁.made = _ from Option.some.inj hmade]
    revert name
    decide +kernel

lemma exists_loads_mixedTree : ∃ vocabulary,
    Loads mixedTree "vocab.json" { vocabulary := true } { vocabulary := true } vocabulary := by
  have hread : (mixedTree.read "vocab.json").toOption = some mixedSource := by decide +kernel
  have hok : (Document.read mixedSource).isOk = true := by decide +kernel
  rcases hfile : mixedTree.read "vocab.json" with e | source
  · rw [hfile] at hread
    contradiction
  rw [hfile] at hread
  obtain rfl := Option.some.inj hread
  rcases hdocument : Document.read mixedSource with e | vocabulary
  · rw [hdocument] at hok
    contradiction
  exact ⟨vocabulary, ⟨mixedSource, hfile, hdocument⟩, .plain rfl⟩

theorem check_predicts_compile_mixed :
    Writable mixedTree "out" (artifactNames true) ∧
      (runOn ["check", "vocab.json", "--vocab"] mixedTree).2 = mixedTree ∧
      (runOn ["compile", "vocab.json", "--vocab", "-o", "out"] mixedTree).1.exitCode = 1 ∧
      (runOn ["compile", "vocab.json", "--vocab", "-o", "out"] mixedTree).1.stdout =
        "wrote out/toolbox.json\nwrote out/blocks.json\nwrote out/vocab.json\nwrote out/vocab.txt\n" := by
  have hcompile : Request.ofArguments ["compile", "vocab.json", "--vocab", "-o", "out"] =
      .run ⟨.compile "out", "vocab.json", { vocabulary := true }, 0⟩ := by decide +kernel
  have hcheck : Request.ofArguments ["check", "vocab.json", "--vocab"] =
      .run ⟨.check, "vocab.json", { vocabulary := true }, 0⟩ := by decide +kernel
  obtain ⟨hsame, hexit, -, -, hwrote⟩ :=
    check_predicts_compile hcompile hcheck writable_mixedTree
  obtain ⟨vocabulary, hloads⟩ := exists_loads_mixedTree
  obtain ⟨-, hstdout, -⟩ := hwrote _ vocabulary hloads
  exact ⟨writable_mixedTree, hsame, hexit.trans (by decide +kernel),
    hstdout.trans (by decide +kernel)⟩

end BlockVocabulary.Command
