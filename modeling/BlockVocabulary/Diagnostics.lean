import BlockVocabulary.Diagnostic

/-!
The diagnostics collected over one compile. All warnings are kept; of the errors the first
`Diagnostics.limit` are kept and the rest only counted.
-/

namespace BlockVocabulary

structure Diagnostics where
  errors : List Diagnostic := []
  warnings : List Diagnostic := []
  totalErrors : Nat := 0
  totalWarnings : Nat := 0
  deriving DecidableEq, Repr

namespace Diagnostics

/-- How many errors are kept. -/
def limit : Nat := 20

def empty : Diagnostics := {}

def hasErrors (ds : Diagnostics) : Bool := 0 < ds.totalErrors

def hasWarnings (ds : Diagnostics) : Bool := 0 < ds.totalWarnings

/-- Adds a diagnostic to the errors or the warnings, by its severity. -/
def push (ds : Diagnostics) (d : Diagnostic) : Diagnostics :=
  match d.severity with
  | .error =>
    { ds with
      errors := if ds.errors.length < limit then ds.errors ++ [d] else ds.errors
      totalErrors := ds.totalErrors + 1 }
  | .warning =>
    { ds with warnings := ds.warnings ++ [d], totalWarnings := ds.totalWarnings + 1 }

def pushAll (ds : Diagnostics) (added : List Diagnostic) : Diagnostics := added.foldl push ds

def single (d : Diagnostic) : Diagnostics := empty.push d

/-- The errors kept, then the warnings. -/
def stored (ds : Diagnostics) : List Diagnostic := ds.errors ++ ds.warnings

/-- What is kept about one entry. -/
def forEntry (ds : Diagnostics) (entry : String) : List Diagnostic :=
  ds.stored.filter (·.origin.entry = entry)

/-- Whether something kept has the code. -/
def contains (ds : Diagnostics) (code : Code) : Bool := ds.stored.any (·.code = code)

/-- How many errors were counted but not kept. -/
def dropped (ds : Diagnostics) : Nat := ds.totalErrors - ds.errors.length

def format : RecordFormat Diagnostics where
  name := "Diagnostics"
  fields := ["errors", "warnings", "total_errors", "total_warnings"]
  required := ["errors", "warnings", "total_errors", "total_warnings"]
  start := {}
  set name v ds :=
    match name with
    | "errors" => return { ds with errors := ← Decode.list Diagnostic.ofJson v }
    | "warnings" => return { ds with warnings := ← Decode.list Diagnostic.ofJson v }
    | "total_errors" => return { ds with totalErrors := ← Decode.size v }
    | "total_warnings" => return { ds with totalWarnings := ← Decode.size v }
    | _ => return ds

def ofJson : Json → Decoded Diagnostics := format.read

def toJson (ds : Diagnostics) : Json :=
  .object
    [("errors", .list (ds.errors.map Diagnostic.toJson)),
     ("warnings", .list (ds.warnings.map Diagnostic.toJson)),
     ("total_errors", Json.nat ds.totalErrors),
     ("total_warnings", Json.nat ds.totalWarnings)]

end Diagnostics

end BlockVocabulary
