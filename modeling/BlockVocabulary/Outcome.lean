import BlockVocabulary.Diagnostics
import BlockVocabulary.Schema

/-!
What becomes of one declaration: the warnings it gives rise to, and either its schema or the one
error that fails it. The checks come in this order: the name, the template, the names of the
connections, the output.
-/

namespace BlockVocabulary

structure Outcome where
  entry : Entry
  warnings : List Diagnostic
  result : Except Diagnostic BlockSchema

namespace Outcome

def schema? (out : Outcome) : Option BlockSchema := out.result.toOption

def failure? (out : Outcome) : Option Diagnostic :=
  match out.result with
  | .error d => some d
  | .ok _ => none

/-- The warnings, then the error. -/
def diagnostics (out : Outcome) : List Diagnostic := out.warnings ++ out.failure?.toList

end Outcome

/-- The names that occur again; `noted` are those that went before, and `reported` those of them that
have occurred again already. -/
def repeatsAfter (noted reported : List String) : List String → List String
  | [] => []
  | n :: ns =>
    if n ∈ noted then
      if n ∈ reported then repeatsAfter noted reported ns
      else n :: repeatsAfter noted (n :: reported) ns
    else repeatsAfter (n :: noted) reported ns

/-- The names that occur more than once, each reported once. -/
def repeats (names : List String) : List String := repeatsAfter [] [] names

def LayoutError.code : LayoutError → Code
  | .unsupportedType .. => Code.unsupportedType
  | .unknownField _ => Code.unknownField

def LayoutError.diagnostic (e : LayoutError) (origin : Origin) : Diagnostic :=
  (Diagnostic.error e.code e.message { origin with field := e.field? }).suggest e.suggestion

def AssembleError.diagnostic (e : AssembleError) (origin : Origin) : Diagnostic :=
  match e with
  | .layout e => e.diagnostic origin
  | .voidOutput _ =>
    (Diagnostic.error Code.unsupportedType e.message origin).suggest e.suggestion

/-- A name that occurs twice. -/
structure Collision where
  code : Code
  message : String
  origin : Origin

namespace Collision

def ofEntry (origin : Origin) : Collision :=
  ⟨Code.duplicateEntry, "block type '" ++ origin.entry ++ "' is declared more than once",
    origin⟩

def ofConnection (origin : Origin) (name : String) : Collision :=
  ⟨Code.duplicateConnection, "connection '" ++ name ++ "' appears more than once", origin⟩

def warning (c : Collision) : Diagnostic := Diagnostic.warning c.code c.message c.origin

def failure (c : Collision) : Diagnostic :=
  (Diagnostic.error c.code c.message c.origin).suggest "rename one of the declarations"

end Collision

/-- The warning about a template element that was left out. -/
def skippedWarning (origin : Origin) (index : Nat) : Diagnostic :=
  Diagnostic.warning Code.unknownField
    "skipped a template field that is not text, widget or connection"
    { origin with field := some index }

/-- Collisions as warnings, or the first of them as an error. -/
def DuplicatePolicy.apply (p : DuplicatePolicy) (cs : List Collision) :
    List Diagnostic × Option Diagnostic :=
  match p with
  | .warn => (cs.map Collision.warning, none)
  | .strict => ([], cs.head?.map Collision.failure)

/-- The outcome of an entry of a category with the given name and colour; `declared` says that an
entry of the same name has been accepted before. -/
def Entry.outcome (o : Options) (category colour : String) (declared : Bool) (e : Entry) :
    Outcome :=
  let origin : Origin := { category := category, entry := e.name }
  let (named, rejected) :=
    o.duplicates.apply (if declared then [Collision.ofEntry origin] else [])
  match rejected with
  | some d => ⟨e, named, .error d⟩
  | none =>
    match layOut o.toLayoutOptions e.template with
    | .error error => ⟨e, named, .error (error.diagnostic origin)⟩
    | .ok layout =>
      let skipped := layout.skipped.map (skippedWarning origin)
      let (connected, rejected) :=
        o.duplicates.apply ((repeats layout.connections).map (Collision.ofConnection origin))
      let warnings := named ++ skipped ++ connected
      match rejected with
      | some d => ⟨e, warnings, .error d⟩
      | none => ⟨e, warnings, (e.assemble colour layout.rows).mapError (·.diagnostic origin)⟩

end BlockVocabulary
