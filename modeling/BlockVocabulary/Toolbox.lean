import BlockVocabulary.Schema
import BlockVocabulary.Text.Blank

/-!
The toolbox: categories of block references, as the editor shows them. A reference names a block
type and the default children to attach to its connections.
-/

namespace BlockVocabulary

/-- The mark every toolbox item carries. -/
inductive ItemKind where
  | block
  | category
  | categoryToolbox
  deriving DecidableEq, Repr

namespace ItemKind

def name : ItemKind → String
  | block => "block"
  | category => "category"
  | categoryToolbox => "categoryToolbox"

def all : List ItemKind := [block, category, categoryToolbox]

def ofName? (s : String) : Option ItemKind := all.find? (·.name = s)

def ofJson : Json → Decoded ItemKind := Decode.variant (all.map name) ofName?

end ItemKind

/-- A block type, with the block types of the default children of its connections. -/
structure BlockReference where
  kind : ItemKind := .block
  type : String
  inputs : Table String := Table.empty

namespace BlockReference

/-- The block type inside the object that stands for a default child. -/
def shadowBlock : RecordFormat String where
  name := "ShadowBlock"
  fields := ["type"]
  required := ["type"]
  start := ""
  set name v s := if name = "type" then Decode.string v else return s

/-- The default child of one connection. -/
def inputDefault : RecordFormat String where
  name := "InputDefault"
  fields := ["shadow"]
  required := ["shadow"]
  start := ""
  set name v s := if name = "shadow" then shadowBlock.read v else return s

def withShadow (r : BlockReference) (input shadow : String) : BlockReference :=
  { r with inputs := r.inputs.insert input shadow }

/-- A reference to the block with the default children its rows declare; of rows with one name the
last that declares a child counts. -/
def ofSchema (s : BlockSchema) : BlockReference :=
  s.rows.foldl (fun r row =>
    match row.connectionName?, row.shadow? with
    | some name, some shadow => r.withShadow name shadow
    | _, _ => r) { type := s.type }

def format : RecordFormat BlockReference where
  name := "BlockReference"
  fields := ["kind", "type", "inputs"]
  required := ["kind", "type"]
  start := { type := "" }
  set name v r :=
    match name with
    | "kind" => return { r with kind := ← ItemKind.ofJson v }
    | "type" => return { r with type := ← Decode.string v }
    | "inputs" => return { r with inputs := ← Decode.table inputDefault.read v }
    | _ => return r

def ofJson : Json → Decoded BlockReference := format.read

def inputsJson (inputs : Table String) : Json :=
  .object (inputs.entries.map fun (name, shadow) =>
    (name, .object [("shadow", Input.typeJson shadow)]))

def toJson (r : BlockReference) : Json :=
  .object ([("kind", .text r.kind.name), ("type", .text r.type)]
    ++ if r.inputs.entries.isEmpty then [] else [("inputs", inputsJson r.inputs)])

end BlockReference

structure ToolboxCategory where
  kind : ItemKind := .category
  name : String
  colour : String
  contents : List BlockReference := []

/-- A colour, or the default one in place of a blank. -/
def visibleColour (colour : String) : String :=
  if Text.isBlank colour then defaultColour else colour

namespace ToolboxCategory

/-- A category with the given contents; a blank colour gives way to the default one. -/
def of (name colour : String) (contents : List BlockReference) : ToolboxCategory :=
  { name := name, colour := visibleColour colour, contents := contents }

def blockTypes (c : ToolboxCategory) : List String := c.contents.map (·.type)

def format : RecordFormat ToolboxCategory where
  name := "CategoryManifest"
  fields := ["kind", "name", "colour", "contents"]
  required := ["kind", "name", "colour", "contents"]
  start := { name := "", colour := "" }
  set name v c :=
    match name with
    | "kind" => return { c with kind := ← ItemKind.ofJson v }
    | "name" => return { c with name := ← Decode.string v }
    | "colour" => return { c with colour := ← Decode.string v }
    | "contents" => return { c with contents := ← Decode.list BlockReference.ofJson v }
    | _ => return c

def ofJson : Json → Decoded ToolboxCategory := format.read

def toJson (c : ToolboxCategory) : Json :=
  .object [("kind", .text c.kind.name), ("name", .text c.name), ("colour", .text c.colour),
    ("contents", .list (c.contents.map BlockReference.toJson))]

end ToolboxCategory

structure Toolbox where
  kind : ItemKind := .categoryToolbox
  contents : List ToolboxCategory

namespace Toolbox

/-- The built-in categories, of blocks that the editor brings along. -/
def defaultCategories : List ToolboxCategory :=
  [.of "Flow" "#5ba55b" (["controls_if", "controls_repeat_ext", "controls_whileUntil",
      "controls_for", "controls_flow_statements"].map fun type => { type := type }),
   .of "Math" "#5b67a5" (["math_number", "math_arithmetic", "math_single", "math_round",
      "math_modulo"].map fun type => { type := type })]

/-- The given categories, then the built-in ones if they are wanted. -/
def assemble (categories : List ToolboxCategory) (withDefaults : Bool) : Toolbox :=
  { contents := categories ++ if withDefaults then defaultCategories else [] }

/-- The first category of a name. -/
def category? (t : Toolbox) (name : String) : Option ToolboxCategory :=
  t.contents.find? (·.name = name)

/-- Every referenced block type, in toolbox order. -/
def blockTypes (t : Toolbox) : List String := t.contents.flatMap ToolboxCategory.blockTypes

def format : RecordFormat Toolbox where
  name := "ToolboxManifest"
  fields := ["kind", "contents"]
  required := ["kind", "contents"]
  start := { contents := [] }
  set name v t :=
    match name with
    | "kind" => return { t with kind := ← ItemKind.ofJson v }
    | "contents" => return { t with contents := ← Decode.list ToolboxCategory.ofJson v }
    | _ => return t

def ofJson : Json → Decoded Toolbox := format.read

def toJson (t : Toolbox) : Json :=
  .object [("kind", .text t.kind.name), ("contents", .list (t.contents.map ToolboxCategory.toJson))]

end Toolbox

end BlockVocabulary
