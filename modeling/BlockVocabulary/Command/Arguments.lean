/-!
The command line: what a list of arguments asks for.

Flags may be joined after one hyphen, and an option takes its value from the rest of its argument or
from the next one, which then must not look like a flag. Two hyphens end the options. Anything that
does not fit, and any flag or option given twice, is a mistake in the use of the command.

These are the rules of a general reader of command lines, for the flags and options declared here.
It is assumed that it reads the arguments from left to right, answers a question for help as soon as
it meets it, names subcommands and options by their full names only, and takes no empty value. How a
mistake is worded is left open.
-/

namespace BlockVocabulary.Command

inductive Action where
  /-- Compile into files in a directory. -/
  | compile (directory : String)
  /-- Report diagnostics only. -/
  | check
  deriving DecidableEq, Repr

/-- Where the options of a compile come from. -/
structure OptionFlags where
  config : Option String := none
  strict : Bool := false
  permissive : Bool := false
  defaults : Bool := false
  vocabulary : Bool := false
  deriving DecidableEq, Repr

structure Invocation where
  action : Action
  file : String
  flags : OptionFlags
  verbosity : Nat
  deriving DecidableEq, Repr

/-- What the arguments ask for. -/
inductive Request where
  | run (invocation : Invocation)
  | show (text : String)
  | mistake
  deriving DecidableEq, Repr

def unlines (lines : List String) : String := String.join (lines.map (· ++ "\n"))

def versionText : String := "bloc 0.1.0\n"

def generalHelp : String := unlines
  ["Block vocabulary compiler",
   "",
   "Usage: bloc [OPTIONS] <COMMAND>",
   "",
   "Commands:",
   "  compile  Compile a JSON vocabulary into toolbox and block definitions",
   "  check    Report diagnostics for a JSON vocabulary without writing output",
   "  help     Print this message or the help of the given subcommand(s)",
   "",
   "Options:",
   "  -v, --verbose...  Log compiler progress to stderr (-v info, -vv debug)",
   "  -h, --help        Print help",
   "  -V, --version     Print version"]

def compileHelp : String := unlines
  ["Compile a JSON vocabulary into toolbox and block definitions",
   "",
   "Usage: bloc compile [OPTIONS] <FILE>",
   "",
   "Arguments:",
   "  <FILE>  JSON vocabulary file",
   "",
   "Options:",
   "  -o, --out-dir <OUT_DIR>  Directory for toolbox.json, blocks.json and vocab.json [default: .]",
   "  -v, --verbose...         Log compiler progress to stderr (-v info, -vv debug)",
   "  -c, --config <CONFIG>    TOML file with compile options",
   "      --strict             Treat duplicate block and connection names as errors",
   "      --permissive         Skip unrecognized template fields with a warning",
   "      --defaults           Append the built-in Flow and Math categories",
   "      --vocab              Emit vocabulary descriptors (vocab.json, vocab.txt)",
   "  -h, --help               Print help"]

def checkHelp : String := unlines
  ["Report diagnostics for a JSON vocabulary without writing output",
   "",
   "Usage: bloc check [OPTIONS] <FILE>",
   "",
   "Arguments:",
   "  <FILE>  JSON vocabulary file",
   "",
   "Options:",
   "  -c, --config <CONFIG>  TOML file with compile options",
   "  -v, --verbose...       Log compiler progress to stderr (-v info, -vv debug)",
   "      --strict           Treat duplicate block and connection names as errors",
   "      --permissive       Skip unrecognized template fields with a warning",
   "      --defaults         Append the built-in Flow and Math categories",
   "      --vocab            Emit vocabulary descriptors (vocab.json, vocab.txt)",
   "  -h, --help             Print help"]

def helpHelp : String := unlines
  ["Print this message or the help of the given subcommand(s)",
   "",
   "Usage: bloc help [COMMAND]...",
   "",
   "Arguments:",
   "  [COMMAND]...  Print help for the subcommand(s)"]

/-- What has been read after the name of a subcommand. -/
structure Collected where
  /-- Whether the subcommand writes files. -/
  writes : Bool
  file : Option String := none
  directory : Option String := none
  flags : OptionFlags := {}
  verbosity : Nat := 0

/-- One argument, or one letter of it: a flag or an option that waits for its value. -/
inductive Switch where
  | verbose
  | help
  | strict
  | permissive
  | defaults
  | vocabulary
  | config
  | directory
  deriving DecidableEq, Repr

namespace Switch

def ofLetter? : Char → Option Switch
  | 'v' => some verbose
  | 'h' => some help
  | 'c' => some config
  | 'o' => some directory
  | _ => none

def ofName? : String → Option Switch
  | "verbose" => some verbose
  | "help" => some help
  | "strict" => some strict
  | "permissive" => some permissive
  | "defaults" => some defaults
  | "vocab" => some vocabulary
  | "config" => some config
  | "out-dir" => some directory
  | _ => none

def takesValue (s : Switch) : Bool := s = config || s = directory

end Switch

namespace Collected

/-- Sets a flag that must not be set yet. -/
def once (isSet : Bool) (d : Collected) : Option Collected := if isSet then none else some d

def setFlag (d : Collected) : Switch → Option Collected
  | .verbose => some { d with verbosity := d.verbosity + 1 }
  | .strict => once d.flags.strict { d with flags := { d.flags with strict := true } }
  | .permissive => once d.flags.permissive { d with flags := { d.flags with permissive := true } }
  | .defaults => once d.flags.defaults { d with flags := { d.flags with defaults := true } }
  | .vocabulary => once d.flags.vocabulary { d with flags := { d.flags with vocabulary := true } }
  | _ => none

def setValue (d : Collected) (s : Switch) (value : String) : Option Collected :=
  if value = "" then none
  else match s with
    | .config =>
      once d.flags.config.isSome { d with flags := { d.flags with config := some value } }
    | .directory =>
      if d.writes then once d.directory.isSome { d with directory := some value } else none
    | _ => none

def setFile (d : Collected) (file : String) : Option Collected :=
  if file = "" then none else once d.file.isSome { d with file := some file }

def helpText (d : Collected) : String := if d.writes then compileHelp else checkHelp

/-- The request of a complete command; `outer` counts the verbosity flags before the subcommand,
which those after it replace. -/
def request (d : Collected) (outer : Nat) : Request :=
  match d.file with
  | none => .mistake
  | some file => .run {
      action := if d.writes then .compile (d.directory.getD ".") else .check
      file := file
      flags := d.flags
      verbosity := if d.verbosity = 0 then outer else d.verbosity }

end Collected

/-- Letters joined after one hyphen: help was asked for, the letters are flags, or the last of them
is an option with the rest as its value, if there is a rest. -/
inductive Letters where
  | help
  | flags (d : Collected)
  | option (d : Collected) (s : Switch) (value : Option String)

def readLetters (d : Collected) : List Char → Option Letters
  | [] => some (.flags d)
  | c :: cs => do
    let s ← Switch.ofLetter? c
    if s = .help then return .help
    if s = .directory && !d.writes then none
    if s.takesValue then
      let value := if cs.head? = some '=' then cs.drop 1 else cs
      return .option d s (if cs.isEmpty then none else some (String.ofList value))
    readLetters (← d.setFlag s) cs

/-- A long argument: its name, and its value if it has one. -/
def splitLong (cs : List Char) : String × Option String :=
  let name := cs.takeWhile (· ≠ '=')
  (String.ofList name,
    if name.length < cs.length then some (String.ofList (cs.drop (name.length + 1))) else none)

/-- Whether an argument cannot be a value of its own. -/
def looksLikeFlag (arg : String) : Bool :=
  match arg.toList with
  | '-' :: _ :: _ => true
  | _ => false

/-- Reads the arguments after a subcommand; `waiting` is an option that still needs its value. -/
def readRest (outer : Nat) (d : Collected) (waiting : Option Switch) : List String → Request
  | [] => if waiting.isSome then .mistake else d.request outer
  | arg :: args =>
    match waiting with
    | some s =>
      if looksLikeFlag arg then .mistake
      else match d.setValue s arg with
        | some d => readRest outer d none args
        | none => .mistake
    | none =>
      match arg.toList with
      | '-' :: '-' :: [] =>
        match args.foldlM Collected.setFile d with
        | some d => d.request outer
        | none => .mistake
      | '-' :: '-' :: cs =>
        match splitLong cs with
        | (name, value) =>
          match Switch.ofName? name, value with
          | some .help, none => .show d.helpText
          | some s, none =>
            if s.takesValue then
              if s = .directory && !d.writes then .mistake else readRest outer d (some s) args
            else match d.setFlag s with
              | some d => readRest outer d none args
              | none => .mistake
          | some s, some value =>
            match d.setValue s value with
            | some d => readRest outer d none args
            | none => .mistake
          | none, _ => .mistake
      | '-' :: c :: cs =>
        match readLetters d (c :: cs) with
        | none => .mistake
        | some .help => .show d.helpText
        | some (.flags d) => readRest outer d none args
        | some (.option d s none) => readRest outer d (some s) args
        | some (.option d s (some value)) =>
          match d.setValue s value with
          | some d => readRest outer d none args
          | none => .mistake
      | _ =>
        match d.setFile arg with
        | some d => readRest outer d none args
        | none => .mistake

/-- Letters joined after one hyphen before the subcommand: text to show, or a count of verbosity
flags. -/
def readOuterLetters (outer : Nat) : List Char → Option (String ⊕ Nat)
  | [] => some (.inr outer)
  | 'v' :: cs => readOuterLetters (outer + 1) cs
  | 'h' :: _ => some (.inl generalHelp)
  | 'V' :: _ => some (.inl versionText)
  | _ => none

/-- The help for the subcommand of a name. -/
def helpFor : List String → Request
  | [] => .show generalHelp
  | ["compile"] => .show compileHelp
  | ["check"] => .show checkHelp
  | ["help"] => .show helpHelp
  | _ => .mistake

/-- Reads the arguments up to the subcommand. -/
def readOuter (outer : Nat) : List String → Request
  | [] => .mistake
  | "--verbose" :: args => readOuter (outer + 1) args
  | "--help" :: _ => .show generalHelp
  | "--version" :: _ => .show versionText
  | "help" :: args => helpFor args
  | "compile" :: args => readRest outer { writes := true } none args
  | "check" :: args => readRest outer { writes := false } none args
  | arg :: args =>
    match arg.toList with
    | '-' :: c :: cs =>
      match readOuterLetters outer (c :: cs) with
      | some (.inr outer) => readOuter outer args
      | some (.inl text) => .show text
      | none => .mistake
    | _ => .mistake

def Request.ofArguments (args : List String) : Request := readOuter 0 args

end BlockVocabulary.Command
