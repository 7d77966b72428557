import BlockVocabulary.Compilation

/-!
The log of a compile: a line for every warning and every failed entry in the order in which they
arise, a line for every registered block, and a summary.
-/

namespace BlockVocabulary

inductive LogLevel where
  | error
  | warn
  | info
  | debug
  deriving DecidableEq, Repr

namespace LogLevel

def name : LogLevel → String
  | error => "error"
  | warn => "warn"
  | info => "info"
  | debug => "debug"

/-- Errors are shown at verbosity 0, debugging lines from 2 on. -/
def verbosity : LogLevel → Nat
  | error => 0
  | warn => 1
  | info => 1
  | debug => 2

end LogLevel

structure LogLine where
  level : LogLevel
  text : String
  deriving DecidableEq, Repr

def LogLine.render (l : LogLine) : String := "[" ++ l.level.name ++ "] " ++ l.text

def LogLine.registered (s : BlockSchema) : LogLine where
  level := .debug
  text := "registered block '" ++ s.type ++ "' (" ++ toString s.rows.length ++ " rows, mutable: "
    ++ (if s.isMutable then "true" else "false") ++ ")"

def Outcome.log (out : Outcome) : List LogLine :=
  out.warnings.map (fun d => ⟨.warn, d.text⟩)
    ++ match out.result with
      | .ok s => [LogLine.registered s]
      | .error d => [⟨.warn, d.text⟩]

/-- How many entries were compiled, and what was found on the way. -/
def LogLine.summary (compiled entries categories : Nat) (ds : Diagnostics) : LogLine where
  level := .info
  text := "compiled " ++ toString compiled ++ " of " ++ toString entries
    ++ " entries in " ++ toString categories ++ " categories ("
    ++ toString ds.totalErrors ++ " errors, "
    ++ toString ds.totalWarnings ++ " warnings)"

namespace Compilation

def summary (c : Compilation) : LogLine :=
  LogLine.summary c.names.length c.outcomes.length c.categories.length c.diagnostics

def log (c : Compilation) : List LogLine := c.outcomes.flatMap Outcome.log ++ [c.summary]

end Compilation

end BlockVocabulary
