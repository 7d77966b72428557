import BlockVocabulary.CompileResult
import BlockVocabulary.OptionsText

/-!
The compiler for a page: text goes in, text comes out. Options that cannot be read are one error at
the document, and nothing is compiled.
-/

namespace BlockVocabulary.TextInterface

def optionsFailure (message : String) : CompileResult :=
  CompileResult.failed
    (Diagnostic.error Code.invalidVocabulary ("invalid compile options: " ++ message)
      Origin.document)

def result (source options : String) : CompileResult :=
  match Options.ofText options with
  | .ok o => CompileResult.ofText source o
  | .error message => optionsFailure message

/-- The result of a compile as JSON text. -/
def compile (source options : String) : String := (result source options).toJson.compact

/-- What a check reports. -/
def diagnostics (source options : String) : Diagnostics :=
  match Options.ofText options with
  | .ok o => (CompileResult.ofText source o).diagnostics
  | .error message => (optionsFailure message).diagnostics

/-- The diagnostics of a check as JSON text. -/
def check (source options : String) : String := (diagnostics source options).toJson.compact

/-- The text reference of a vocabulary; empty if it cannot be read. -/
def reference (source : String) : String :=
  ((CompileResult.ofText source { vocabulary := true }).descriptors.map referenceText).getD ""

def version : String := "0.1.0"

end BlockVocabulary.TextInterface
