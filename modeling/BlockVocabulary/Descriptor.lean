import BlockVocabulary.Registry
import BlockVocabulary.Toolbox

/-!
Descriptors: what a block takes and yields, for people and programs that write code with it. The
parameters of a block are its widgets, by their kind, and its connections, by their type.

The text reference lists one descriptor a line under the name of its category, and begins a new
paragraph wherever the category changes.
-/

namespace BlockVocabulary

structure Parameter where
  name : String
  type : String
  deriving DecidableEq, Repr

def Parameter.toJson (p : Parameter) : Json :=
  .object [("name", .text p.name), ("type", .text p.type)]

structure Descriptor where
  name : String
  category : String
  description : String
  parameters : List Parameter
  /-- The type of the value it yields; none for a statement. -/
  returns : Option String
  deriving DecidableEq, Repr

/-- The tag of a value place with the given check token. -/
def checkTag (check : Option String) : String := ((ConnectionType.ofCheck? check).getD .any).tag

def Fragment.parameter? : Fragment → Option Parameter
  | .widget name w => some ⟨name, w.kind⟩
  | _ => none

def Input.parameter? : Input → Option Parameter
  | .dummy => none
  | .value name check _ => some ⟨name, checkTag check⟩
  | .statement name _ => some ⟨name, ConnectionType.void.tag⟩

def Row.parameters (r : Row) : List Parameter :=
  r.fragments.filterMap Fragment.parameter? ++ r.input.parameter?.toList

namespace Descriptor

def ofSchema (s : BlockSchema) (category : String) : Descriptor where
  name := s.type
  category := category
  description := s.tooltip
  parameters := s.rows.flatMap Row.parameters
  returns := match s.shape with
    | .statement => none
    | .expression output => some (checkTag output)

def toJson (d : Descriptor) : Json :=
  .object [("name", .text d.name), ("category", .text d.category),
    ("description", .text d.description), ("params", .list (d.parameters.map Parameter.toJson)),
    ("returns", Json.ofOption .text d.returns)]

def signature (d : Descriptor) : String :=
  d.name ++ "(" ++ ", ".intercalate (d.parameters.map fun p => p.name ++ ": " ++ p.type) ++ ")"
    ++ match d.returns with
      | some type => " -> " ++ type
      | none => ""

def line (d : Descriptor) : String :=
  "  " ++ d.signature ++ (if d.description = "" then "" else "  " ++ d.description) ++ "\n"

end Descriptor

/-- The lines of descriptors that follow one of the category `current`, if they follow any. -/
def referenceAfter : Option String → List Descriptor → String
  | _, [] => ""
  | current, d :: ds =>
    let header :=
      if current = some d.category then ""
      else (if current.isSome then "\n" else "") ++ d.category ++ ":\n"
    header ++ d.line ++ referenceAfter (some d.category) ds

/-- The text reference. -/
def referenceText (ds : List Descriptor) : String := referenceAfter none ds

def descriptorsJson (ds : List Descriptor) : Json :=
  .object [("entries", .list (ds.map Descriptor.toJson))]

/-- The first entry of each name. -/
def firsts {α : Type} : List (String × α) → List (String × α)
  | [] => []
  | e :: es => e :: (firsts es).filter (·.1 ≠ e.1)

/-- Every referenced block type with the name of the category that refers to it. -/
def Toolbox.mentions (t : Toolbox) : List (String × String) :=
  t.contents.flatMap fun c => c.blockTypes.map fun type => (type, c.name)

/-- The referenced block types that are registered, each where it is mentioned first, with their
schemas and categories. -/
def Toolbox.registered (t : Toolbox) (blocks : Table BlockSchema) : List (BlockSchema × String) :=
  (firsts t.mentions).filterMap fun m => (blocks.get? m.1).map fun s => (s, m.2)

/-- The descriptors of the registered blocks that the toolbox refers to. -/
def Toolbox.descriptors (t : Toolbox) (blocks : Table BlockSchema) : List Descriptor :=
  (t.registered blocks).map fun r => Descriptor.ofSchema r.1 r.2

/-- The definitions of the registered blocks that the toolbox refers to, each where its type is
mentioned first. -/
def Toolbox.definitions (t : Toolbox) (blocks : Table BlockSchema) : List Json :=
  t.blockTypes.eraseDups.filterMap fun type => (blocks.get? type).map BlockSchema.definition

end BlockVocabulary
