import BlockVocabulary.Command.Execute
import BlockVocabulary.Proofs.Files

/-!
Running the compile command again.

The command reads its vocabulary and its configuration, and what it answers and writes depends on
nothing else. It writes artifacts of fixed names into one directory. Where no artifact is one of the
files read, these stay as they were, so a second run reads the same, makes the same artifacts and
finds them written; if the first run stopped at a file that could not be written, the second one
stops there too, on the tree that the first one left. An artifact that is the vocabulary itself is
another matter: the second run reads what the first one wrote.
-/

namespace BlockVocabulary.Command

open FileTree

variable {t t' : FileTree} {path content directory : String} {files : List (String × String)}

/-! ### Calls on a tree -/

lemma run_bind {σ α β : Type} (x : StateM σ α) (f : α → StateM σ β) (s : σ) :
    (x >>= f).run s = (f (x.run s).1).run (x.run s).2 := rfl

lemma run_read : (access.read path).run t = (t.read path, t) := rfl

lemma run_write : (access.write path content).run t =
    match t.write path content with
    | .ok t' => (.ok (), t')
    | .error e => (.error e, t) := by
  simp only [access, run_bind]
  change StateT.run (match t.write path content with | .ok _ => _ | .error _ => _) t = _
  cases t.write path content <;> rfl

lemma run_makeDirectories : (access.makeDirectories path).run t =
    match t.makeDirectories path with
    | .ok t' => (.ok (), t')
    | .error e => (.error e, t) := by
  simp only [access, run_bind]
  change StateT.run (match t.makeDirectories path with | .ok _ => _ | .error _ => _) t = _
  cases t.makeDirectories path <;> rfl

/-! ### What is read -/

/-- The files that a command reads. -/
def Invocation.inputs (inv : Invocation) : List String := inv.file :: inv.flags.config.toList

lemma run_loadOptions (f : OptionFlags) : (loadOptions access f).run t =
    (match f.config with
      | none => .ok (f.apply {})
      | some path =>
        match t.read path with
        | .error e => .error (.config path e)
        | .ok text => (Config.read text).elim (.error (.badConfig path)) fun o => .ok (f.apply o),
      t) := by
  unfold loadOptions
  cases f.config with
  | none => rfl
  | some path =>
    simp only [run_bind, run_read]
    cases t.read path with
    | error e => rfl
    | ok text =>
      dsimp only
      cases Config.read text <;> rfl

lemma run_load (inv : Invocation) : (load access inv).run t =
    (match t.read inv.file with
      | .error e => .error (.vocabulary inv.file e)
      | .ok source => ((loadOptions access inv.flags).run t).1.map (source, ·),
      t) := by
  unfold load
  simp only [run_bind, run_read]
  cases t.read inv.file with
  | error e => rfl
  | ok source =>
    simp only [run_bind, run_loadOptions]
    split <;> simp_all [Except.map] <;> rfl

/-- Loading depends on nothing but the files read. -/
lemma run_load_congr {inv : Invocation} (h : ∀ path ∈ inv.inputs, t'.read path = t.read path) :
    (load access inv).run t' = (((load access inv).run t).1, t') := by
  have hoptions : ((loadOptions access inv.flags).run t').1 =
      ((loadOptions access inv.flags).run t).1 := by
    rw [run_loadOptions, run_loadOptions]
    cases hconfig : inv.flags.config with
    | none => rfl
    | some path => simp only [h path (by simp [Invocation.inputs, hconfig])]
  rw [run_load, run_load, hoptions, h inv.file (by simp [Invocation.inputs])]

/-- What was loaded is held under the paths of the files read. -/
lemma exists_holds_of_load {inv : Invocation} {loaded : String × Options}
    (h : ((load access inv).run t).1 = .ok loaded) :
    ∀ path ∈ inv.inputs, ∃ bytes, t.Holds path bytes := by
  rw [run_load] at h
  intro path hpath
  cases hfile : t.read inv.file with
  | error e => simp [hfile] at h
  | ok source =>
    rcases List.mem_cons.mp hpath with rfl | hpath
    · exact exists_holds_of_read hfile
    · have hconfig : inv.flags.config = some path := by simpa using hpath
      rw [hfile, run_loadOptions, hconfig] at h
      cases hread : t.read path with
      | error e => simp [hread, Except.map] at h
      | ok text => exact exists_holds_of_read hread

/-! ### What is written -/

lemma run_writeFiles_cons (file : String × String) :
    (writeFiles access directory (file :: files)).run t =
      match t.write (joinPath directory file.1) file.2 with
      | .error e => (.error e, t)
      | .ok t₁ =>
        (((writeFiles access directory files).run t₁).1.map (joinPath directory file.1 :: ·),
          ((writeFiles access directory files).run t₁).2) := by
  rw [writeFiles]
  simp only [run_bind, run_write]
  cases t.write (joinPath directory file.1) file.2 with
  | error e => rfl
  | ok t₁ =>
    simp only [run_bind]
    cases ((writeFiles access directory files).run t₁).1 <;> rfl

lemma extends_writeFiles : Extends t ((writeFiles access directory files).run t).2 := by
  induction files generalizing t with
  | nil => exact Extends.refl t
  | cons file files ih =>
    rw [run_writeFiles_cons]
    cases hwrite : t.write (joinPath directory file.1) file.2 with
    | error e => exact Extends.refl t
    | ok t₁ => exact (extends_of_write hwrite).trans ih

/-- Writing files leaves alone what the tree holds at other places. -/
lemma holds_writeFiles {bytes : ByteArray} (hold : t.Holds path bytes)
    (hne : ∀ file ∈ files, t.destination (joinPath directory file.1) ≠ t.destination path) :
    ((writeFiles access directory files).run t).2.Holds path bytes := by
  induction files generalizing t with
  | nil => exact hold
  | cons file files ih =>
    rw [run_writeFiles_cons]
    cases hwrite : t.write (joinPath directory file.1) file.2 with
    | error e => exact hold
    | ok t₁ =>
      have hdest := destination_congr (extends_of_write hwrite).depth
      refine ih (hold.write hwrite (hne file (by simp))) fun other hother => ?_
      rw [hdest, hdest]
      exact hne other (by simp [hother])

/-- Files that were written, up to the first that could not be, are not written anew. -/
lemma writeFiles_again (hnames : ∀ file ∈ files, IsName file.1) (hnodup : (files.map (·.1)).Nodup) :
    (writeFiles access directory files).run ((writeFiles access directory files).run t).2 =
      (writeFiles access directory files).run t := by
  induction files generalizing t with
  | nil => rfl
  | cons file files ih =>
    rw [List.map_cons, List.nodup_cons] at hnodup
    rw [run_writeFiles_cons (t := t)]
    cases hwrite : t.write (joinPath directory file.1) file.2 with
    | error e => simp only [run_writeFiles_cons, hwrite]
    | ok t₁ =>
      have hold : ((writeFiles access directory files).run t₁).2.Holds
          (joinPath directory file.1) file.2.toUTF8 := by
        refine holds_writeFiles (holds_of_write hwrite) fun other hother => ?_
        refine destination_joinPath_ne _ _ (hnames other (by simp [hother]))
          (hnames file (by simp)) fun hsame => hnodup.1 ?_
        exact hsame ▸ List.mem_map_of_mem hother
      simp only [run_writeFiles_cons, hold.write_again (write_eq_ok.mp hwrite).2.1]
      rw [ih (fun other hother => hnames other (by simp [hother])) hnodup.2]

/-- The artifacts have fixed names. -/
lemma artifacts_names (r : CompileResult) : (artifacts r).map (·.1) <+:
    ["toolbox.json", "blocks.json", "vocab.json", "vocab.txt"] := by
  unfold artifacts
  cases r.toolbox with
  | none => exact List.nil_prefix
  | some toolbox =>
    cases r.descriptors with
    | none => exact ⟨_, rfl⟩
    | some ds => exact List.prefix_rfl

lemma isName_of_mem_artifacts {r : CompileResult} {file : String × String}
    (h : file ∈ artifacts r) : IsName file.1 := by
  have hname := (artifacts_names r).subset (List.mem_map_of_mem h)
  revert hname
  generalize file.1 = name
  decide +revert

lemma nodup_artifacts_names (r : CompileResult) : ((artifacts r).map (·.1)).Nodup :=
  (artifacts_names r).sublist.nodup (by decide)

lemma run_writeArtifacts : (writeArtifacts access directory files).run t =
    if files.isEmpty then (.ok [], t)
    else match t.makeDirectories directory with
      | .error e => (.error e, t)
      | .ok t₁ => (writeFiles access directory files).run t₁ := by
  unfold writeArtifacts
  split
  · rfl
  · simp only [run_bind, run_makeDirectories]
    cases t.makeDirectories directory <;> rfl

lemma holds_writeArtifacts {bytes : ByteArray} (hold : t.Holds path bytes)
    (hne : ∀ file ∈ files, t.destination (joinPath directory file.1) ≠ t.destination path) :
    ((writeArtifacts access directory files).run t).2.Holds path bytes := by
  rw [run_writeArtifacts]
  split
  · exact hold
  · cases hmake : t.makeDirectories directory with
    | error e => exact hold
    | ok t₁ =>
      have hdest := destination_congr (extends_of_makeDirectories hmake).depth
      refine holds_writeFiles (hold.makeDirectories hmake) fun file hfile => ?_
      rw [hdest, hdest]
      exact hne file hfile

lemma writeArtifacts_again (hnames : ∀ file ∈ files, IsName file.1)
    (hnodup : (files.map (·.1)).Nodup) :
    (writeArtifacts access directory files).run ((writeArtifacts access directory files).run t).2 =
      (writeArtifacts access directory files).run t := by
  simp only [run_writeArtifacts]
  split
  · rfl
  · cases hmake : t.makeDirectories directory with
    | error e => simp only [hmake]
    | ok t₁ =>
      simp only [makeDirectories_again hmake extends_writeFiles]
      exact writeFiles_again hnames hnodup

/-! ### The whole command -/

/-- The files that a command makes of what it loaded. -/
def outputs (loaded : String × Options) : List (String × String) :=
  artifacts (CompileResult.ofDocument loaded.2 (Document.read loaded.1))

section

variable {inv : Invocation} {loaded : String × Options}
  (haction : inv.action = .compile directory) (hload : (load access inv).run t = (.ok loaded, t))

include haction hload

lemma run_execute_snd : ((execute access inv).run t).2 =
    ((writeArtifacts access directory (outputs loaded)).run t).2 := by
  obtain ⟨source, o⟩ := loaded
  unfold execute
  simp only [run_bind, hload, haction, compileInto]
  split <;> rfl

/-- The answer to a command depends on what is loaded and on how the writing goes. -/
lemma run_execute_congr (hload' : (load access inv).run t' = (.ok loaded, t'))
    (hwrite : (writeArtifacts access directory (outputs loaded)).run t' =
      (writeArtifacts access directory (outputs loaded)).run t) :
    (execute access inv).run t' = (execute access inv).run t := by
  obtain ⟨source, o⟩ := loaded
  have hwrite' : (writeArtifacts access directory
      (artifacts (CompileResult.ofDocument o (Document.read source)))).run t' = _ := hwrite
  unfold execute
  simp only [run_bind, hload, hload', haction, compileInto, hwrite']
  rfl

end

/-- **Compiling again.** If no artifact of a compile is a file that the compile reads, the files
read are as they were afterwards, and the same command again gives the same answer and changes no
file. -/
theorem runOn_compile_again {args : List String} {inv : Invocation}
    (hargs : Request.ofArguments args = .run inv) (haction : inv.action = .compile directory)
    (hapart : ∀ loaded ∈ ((load access inv).run t).1.toOption, ∀ file ∈ outputs loaded,
      ∀ path ∈ inv.inputs, t.destination (joinPath directory file.1) ≠ t.destination path) :
    (∀ path ∈ inv.inputs, (runOn args t).2.read path = t.read path) ∧
      runOn args (runOn args t).2 = runOn args t := by
  have hrun : ∀ t, runOn args t = (execute access inv).run t := by
    intro t
    simp only [runOn, run, hargs]
  simp only [hrun]
  have hload : (load access inv).run t = (((load access inv).run t).1, t) :=
    run_load_congr fun _ _ => rfl
  cases hloaded : ((load access inv).run t).1 with
  | error e =>
    -- Nothing was written, so the second run is the first.
    have hsame : ((execute access inv).run t).2 = t := by
      unfold execute
      rw [run_bind, hload, hloaded]
      rfl
    rw [hsame]
    exact ⟨fun _ _ => rfl, rfl⟩
  | ok loaded =>
    rw [hloaded] at hload hapart
    have hreads : ∀ path ∈ inv.inputs,
        ((execute access inv).run t).2.read path = t.read path := by
      intro path hpath
      obtain ⟨bytes, hold⟩ := exists_holds_of_load hloaded path hpath
      rw [run_execute_snd haction hload]
      exact read_congr hold
        (holds_writeArtifacts hold fun file hfile => hapart loaded rfl file hfile path hpath)
    refine ⟨hreads, run_execute_congr haction hload ?_ ?_⟩
    · rw [run_load_congr hreads, hloaded]
    · rw [run_execute_snd haction hload]
      exact writeArtifacts_again (fun _ => isName_of_mem_artifacts) (nodup_artifacts_names _)

/-- A vocabulary and a configuration that asks for descriptors. -/
def workTree : FileTree :=
  FileTree.ofFiles [("vocab.json", "[]".toUTF8), ("bloc.toml", "vocabulary = true\n".toUTF8)]

/-- Descriptors of `vocab.json` in a directory of their own leave it alone. -/
theorem runOn_compile_again_directory :
    Request.ofArguments ["compile", "vocab.json", "-c", "bloc.toml", "-o", "out"] =
      .run ⟨.compile "out", "vocab.json", { config := "bloc.toml" }, 0⟩ ∧
    ((runOn ["compile", "vocab.json", "-c", "bloc.toml", "-o", "out"] workTree).2.read
      "out/vocab.json").toOption = some "\x7b\n  \"entries\": []\n\x7d\n" ∧
    (runOn ["compile", "vocab.json", "-c", "bloc.toml", "-o", "out"] workTree).2.read
      "vocab.json" = workTree.read "vocab.json" ∧
    runOn ["compile", "vocab.json", "-c", "bloc.toml", "-o", "out"]
        (runOn ["compile", "vocab.json", "-c", "bloc.toml", "-o", "out"] workTree).2 =
      runOn ["compile", "vocab.json", "-c", "bloc.toml", "-o", "out"] workTree := by
  have hargs : Request.ofArguments ["compile", "vocab.json", "-c", "bloc.toml", "-o", "out"] =
      .run ⟨.compile "out", "vocab.json", { config := "bloc.toml" }, 0⟩ := by decide +kernel
  obtain ⟨hreads, hagain⟩ := runOn_compile_again (t := workTree) hargs rfl (by decide +kernel)
  exact ⟨hargs, by decide +kernel, hreads "vocab.json" (by decide), hagain⟩

/-- Descriptors of `vocab.json` in its own directory take its place, and then it is no vocabulary
any more. -/
theorem runOn_overwrites :
    (runOn ["compile", "vocab.json", "--vocab"] workTree).1.exitCode = 0 ∧
    ((runOn ["compile", "vocab.json", "--vocab"] workTree).2.read "vocab.json").toOption =
      some "\x7b\n  \"entries\": []\n\x7d\n" ∧
    (runOn ["compile", "vocab.json", "--vocab"]
      (runOn ["compile", "vocab.json", "--vocab"] workTree).2).1.exitCode = 1 := by
  decide +kernel

end BlockVocabulary.Command
