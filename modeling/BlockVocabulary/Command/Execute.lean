import BlockVocabulary.Command.Arguments
import BlockVocabulary.CompileResult
import BlockVocabulary.Config
import BlockVocabulary.FileTree

/-!
Running a command: reading the vocabulary and the configuration, compiling, reporting on the error
stream, and writing the artifacts.

Everything is read before anything is written. A document that is no vocabulary has no artifacts,
and then not even the directory is made; a vocabulary of which some entries fail is written out like
any other. The exit code says whether everything went well.
-/

namespace BlockVocabulary.Command

/-- What a command leaves behind besides files. -/
structure Report where
  exitCode : Nat
  stdout : String := ""
  stderr : String := ""
  deriving DecidableEq, Repr

/-- Options from the configuration, with the flags on top. -/
def OptionFlags.apply (f : OptionFlags) (o : Options) : Options :=
  { o with
    duplicates := if f.strict then .strict else o.duplicates
    unknownFields := if f.permissive then .permissive else o.unknownFields
    defaultCategories := f.defaults || o.defaultCategories
    vocabulary := f.vocabulary || o.vocabulary }

/-- Why a command cannot start. -/
inductive LoadError where
  | vocabulary (path : String) (error : FileError)
  | config (path : String) (error : FileError)
  | badConfig (path : String)
  deriving DecidableEq, Repr

def LoadError.message : LoadError → String
  | .vocabulary path e => "cannot read '" ++ path ++ "': " ++ e.message
  | .config path e => "cannot read config '" ++ path ++ "': " ++ e.message
  | .badConfig path => path ++ ": TOML parse error"

/-- The lines about diagnostics: every one that is kept, and how many were not. -/
def diagnosticLines (ds : Diagnostics) : List String :=
  ds.stored.map Diagnostic.text
    ++ if 0 < ds.dropped then ["... and " ++ toString ds.dropped ++ " more errors"] else []

/-- The lines of a log that are shown at a verbosity. -/
def logLines (verbosity : Nat) (log : List LogLine) : List String :=
  (log.filter (·.level.verbosity ≤ verbosity)).map LogLine.render

/-- What is shown of a document on the error stream. -/
def shownLines (verbosity : Nat) (o : Options) (document : Except DocumentError (List Category))
    (diagnostics : Diagnostics) : List String :=
  logLines verbosity (documentLog o document) ++ diagnosticLines diagnostics

/-- The text of a JSON file. -/
def jsonFile (v : Json) : String := v.pretty ++ "\n"

/-- The files that a result is written to, by name, in the order in which they are written. -/
def artifacts (r : CompileResult) : List (String × String) :=
  match r.toolbox with
  | none => []
  | some toolbox =>
    [("toolbox.json", jsonFile toolbox.toJson), ("blocks.json", jsonFile (.list r.blocks))]
      ++ match r.descriptors with
        | none => []
        | some ds =>
          [("vocab.json", jsonFile (descriptorsJson ds)), ("vocab.txt", referenceText ds)]

/-- Checks a document. -/
def check (inv : Invocation) (o : Options) (document : Except DocumentError (List Category)) :
    Report :=
  let diagnostics := (CompileResult.ofDocument o document).diagnostics
  { exitCode := if diagnostics.hasErrors then 1 else 0
    stdout := unlines <|
      if diagnostics.hasErrors then []
      else [inv.file ++ ": ok (" ++ toString diagnostics.totalWarnings ++ " warnings)"]
    stderr := unlines (shownLines inv.verbosity o document diagnostics) }

section

variable {m : Type → Type} [Monad m] (fs : FileAccess m)

/-- The options of a command. -/
def loadOptions (f : OptionFlags) : m (Except LoadError Options) := do
  match f.config with
  | none => return .ok (f.apply {})
  | some path =>
    match ← fs.read path with
    | .error e => return .error (.config path e)
    | .ok text =>
      match Config.read text with
      | none => return .error (.badConfig path)
      | some o => return .ok (f.apply o)

/-- The text of the vocabulary and the options of a command. -/
def load (inv : Invocation) : m (Except LoadError (String × Options)) := do
  match ← fs.read inv.file with
  | .error e => return .error (.vocabulary inv.file e)
  | .ok source =>
    match ← loadOptions fs inv.flags with
    | .error e => return .error e
    | .ok o => return .ok (source, o)

/-- Writes files into a directory one after the other, up to the first that fails; answers the paths
written. -/
def writeFiles (directory : String) : List (String × String) → m (Except FileError (List String))
  | [] => return .ok []
  | (name, content) :: files => do
    let path := joinPath directory name
    match ← fs.write path content with
    | .error e => return .error e
    | .ok () =>
      match ← writeFiles directory files with
      | .error e => return .error e
      | .ok paths => return .ok (path :: paths)

/-- Writes artifacts into a directory, which is made if it is missing; without artifacts nothing
happens. -/
def writeArtifacts (directory : String) (files : List (String × String)) :
    m (Except FileError (List String)) := do
  if files.isEmpty then return .ok []
  match ← fs.makeDirectories directory with
  | .error e => return .error e
  | .ok () => writeFiles fs directory files

/-- Compiles a document into files in a directory. -/
def compileInto (directory : String) (inv : Invocation) (o : Options)
    (document : Except DocumentError (List Category)) : m Report := do
  let result := CompileResult.ofDocument o document
  let shown := shownLines inv.verbosity o document result.diagnostics
  match ← writeArtifacts fs directory (artifacts result) with
  | .ok paths =>
    return { exitCode := if result.success then 0 else 1,
             stdout := unlines (paths.map ("wrote " ++ ·)), stderr := unlines shown }
  | .error e =>
    let failure := "error: cannot write to '" ++ directory ++ "': " ++ e.message
    return { exitCode := 1, stderr := unlines (shown ++ [failure]) }

def execute (inv : Invocation) : m Report := do
  match ← load fs inv with
  | .error e => return { exitCode := 1, stderr := "error: " ++ e.message ++ "\n" }
  | .ok (source, o) =>
    match inv.action with
    | .check => return check inv o (Document.read source)
    | .compile directory => compileInto fs directory inv o (Document.read source)

/-- Runs what the arguments ask for. -/
def run (args : List String) : m Report :=
  match Request.ofArguments args with
  | .run inv => execute fs inv
  | .show text => return { exitCode := 0, stdout := text }
  | .mistake =>
    return { exitCode := 2, stderr := "error: unexpected arguments\n\n" ++ generalHelp }

end

/-- Runs a command on a tree of files. -/
def runOn (args : List String) (t : FileTree) : Report × FileTree :=
  (run FileTree.access args).run t

end BlockVocabulary.Command
