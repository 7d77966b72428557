import BlockVocabulary.Log

/-!
A compile as it is carried out in place.

One pass goes over the entries of a vocabulary and changes what it has been handed as it goes: the
registries of the host, the state of the widget sources, the diagnostics, the names that are taken
and the log. An entry that fails stops at the check that fails it. What it has changed by then
stays, and the pass goes on with the next entry.
-/

namespace BlockVocabulary

/-- What a compile changes. -/
structure CompileState (σ : Type) where
  /-- The state of the widget sources. -/
  sources : σ
  registries : Registries
  diagnostics : Diagnostics := Diagnostics.empty
  /-- The names of the entries registered so far. -/
  accepted : List String := []
  compiled : Nat := 0
  log : Array LogLine := #[]

/-- The state a compile begins in. -/
def CompileState.start {σ : Type} (sources : σ) (registries : Registries) : CompileState σ :=
  { sources := sources, registries := registries }

/-- What a compile returns. -/
structure CompileOutput where
  toolbox : Toolbox
  /-- The descriptors of the blocks in the toolbox, if they are wanted. -/
  descriptors? : Option (List Descriptor)
  diagnostics : Diagnostics

/-- The changes made for one entry. Those made before it fails stay. -/
abbrev EntryPass (σ : Type) := EStateM Diagnostic (CompileState σ)

variable {σ : Type}

/-- With a diagnostic logged and collected. -/
def CompileState.report (s : CompileState σ) (d : Diagnostic) : CompileState σ :=
  { s with log := s.log.push ⟨.warn, d.text⟩, diagnostics := s.diagnostics.push d }

namespace EntryPass

def report (d : Diagnostic) : EntryPass σ Unit := modify (·.report d)

/-- Reports a collision, or fails for it. -/
def collide (p : DuplicatePolicy) (c : Collision) : EntryPass σ Unit :=
  match p with
  | .warn => report c.warning
  | .strict => throw c.failure

/-- The element with its widget made. -/
def make (f : Field (WidgetSource σ)) : EntryPass σ Field :=
  modifyGet fun s =>
    let (f, sources) := f.make.run s.sources
    (f, { s with sources := sources })

/-- Takes elements from a template position on, up to the first that fails. A widget is made when
the pass comes to its element. -/
def feedAll (policy : UnknownFieldPolicy) (origin : Origin) (s : LayoutState) (index : Nat) :
    List (Field (WidgetSource σ)) → EntryPass σ LayoutState
  | [] => return s
  | f :: fs => do
    match s.feed policy index (← make f) with
    | .ok s => feedAll policy origin s (index + 1) fs
    | .error e => throw (e.diagnostic origin)

/-- Reports the names that several connections share, each at its second occurrence; `noted` are the
names that went before, and `reported` those that have been reported. -/
def connections (p : DuplicatePolicy) (origin : Origin) (noted reported : List String) :
    List String → EntryPass σ Unit
  | [] => return
  | n :: ns => do
    if n ∈ noted then
      if n ∈ reported then connections p origin noted reported ns
      else
        collide p (Collision.ofConnection origin n)
        connections p origin noted (n :: reported) ns
    else connections p origin (n :: noted) reported ns

/-- Refuses or reports an entry whose name is taken. -/
def checkName (p : DuplicatePolicy) (origin : Origin) : EntryPass σ Unit := do
  if (← get).accepted.contains origin.entry then
    collide p (Collision.ofEntry origin)

/-- Lays out the template of an entry. -/
def lay (o : LayoutOptions) (origin : Origin) (template : List (Field (WidgetSource σ))) :
    EntryPass σ Layout := do
  let s ← feedAll o.unknownFields origin .empty 0 template
  return s.finish o.helpIcon

/-- Registers an entry and takes its name. -/
def register (e : Entry (WidgetSource σ)) (schema : BlockSchema) : EntryPass σ BlockReference := do
  modify fun s => { s with log := s.log.push (LogLine.registered schema) }
  let reference := BlockReference.ofSchema schema
  modify fun s => { s with registries := s.registries.addBlock schema }
  modify fun s => { s with registries := s.registries.addGenerator e.name e.generator }
  modify fun s => { s with accepted := s.accepted ++ [e.name] }
  return reference

/-- Compiles an entry that has been laid out. -/
def complete (o : Options) (origin : Origin) (colour : String) (e : Entry (WidgetSource σ))
    (layout : Layout) : EntryPass σ BlockReference := do
  layout.skipped.forM fun index => report (skippedWarning origin index)
  connections o.duplicates origin [] [] layout.connections
  let schema ← MonadExcept.ofExcept
    ((e.assemble colour layout.rows).mapError (·.diagnostic origin))
  register e schema

/-- Compiles an entry of a category, of which the references made so far are shown. -/
def entry (o : Options) (shown : ToolboxCategory) (e : Entry (WidgetSource σ)) :
    EntryPass σ BlockReference := do
  let origin : Origin := { category := shown.name, entry := e.name }
  checkName o.duplicates origin
  let layout ← lay o.toLayoutOptions origin e.template
  complete o origin shown.colour e layout

end EntryPass

/-- The changes made for a whole vocabulary. -/
abbrev CompilePass (σ : Type) := StateM (CompileState σ)

namespace CompilePass

/-- Compiles an entry, and reports it if it fails. -/
def entry (o : Options) (shown : ToolboxCategory) (e : Entry (WidgetSource σ)) :
    CompilePass σ (Option BlockReference) := fun s =>
  match (EntryPass.entry o shown e).run s with
  | .ok reference s => (some reference, { s with compiled := s.compiled + 1 })
  | .error d s => (none, s.report d)

/-- Compiles entries of a category one after the other; each that does not fail is shown. -/
def entries (o : Options) (shown : ToolboxCategory) :
    List (Entry (WidgetSource σ)) → CompilePass σ ToolboxCategory
  | [] => return shown
  | e :: es => do
    match ← entry o shown e with
    | some reference =>
      entries o { shown with contents := shown.contents ++ [reference] } es
    | none => entries o shown es

def categories (o : Options) :
    List (Category (WidgetSource σ)) → CompilePass σ (List ToolboxCategory)
  | [] => return []
  | c :: cs => do
    let shown ← entries o (.of c.name c.colour []) c.entries
    return shown :: (← categories o cs)

def compile (o : Options) (vocabulary : List (Category (WidgetSource σ))) :
    CompilePass σ CompileOutput := do
  let shown ← categories o vocabulary
  let toolbox := Toolbox.assemble shown o.defaultCategories
  let s ← get
  let descriptors? :=
    if o.vocabulary then some (toolbox.descriptors s.registries.blocks) else none
  let total := (vocabulary.flatMap (·.entries)).length
  let summary := LogLine.summary s.compiled total vocabulary.length s.diagnostics
  modify fun s => { s with log := s.log.push summary }
  return { toolbox := toolbox, descriptors? := descriptors?, diagnostics := s.diagnostics }

end CompilePass

end BlockVocabulary
