import BlockVocabulary.Layout

/-!
The pass over a template as it is driven from outside and changed in place.

Whoever drives the pass hands it one field after another and may go on after a failure, in the state
that the failure has left behind. Every transition is written here as a sequence of single changes,
so what a failure in the middle of one would leave done can be seen from it.
-/

namespace BlockVocabulary

/-- Changes to a state of the pass. Those made before a failure stay. -/
abbrev LayoutPass := EStateM LayoutError LayoutState

namespace LayoutPass

/-- Finishes the open row, if there is one. -/
def commit : LayoutPass Unit := do
  match (← get).current with
  | none => return
  | some r => modify fun s => { s with committed := s.committed ++ [r], current := none }

/-- Finishes the open row and opens `r`. -/
def begin (r : Row) : LayoutPass Unit := do
  commit
  modify fun s => { s with current := some r }

/-- Applies `f` to the open row, having opened a dummy row if there was none. -/
def onRow (f : Row → Row) : LayoutPass Unit := do
  if (← get).current.isNone then
    modify fun s => { s with current := some Row.dummy }
  modify fun s => { s with current := s.current.map f }

def text (content : String) : LayoutPass Unit :=
  match Text.segments content with
  | [] => return
  | first :: further => do
    onRow (·.pushLabel first)
    further.forM fun line => do
      begin Row.dummy
      onRow (·.pushLabel line)

def widget (name : String) (w : Widget) : LayoutPass Unit := onRow (·.push (.widget name w))

/-- Looks at the type before it changes anything. -/
def connection (index : Nat) (c : Connection) : LayoutPass Unit := do
  let t ← MonadExcept.ofExcept (c.resolve (some index))
  modify fun s => { s with connections := s.connections ++ [c.name] }
  if t.isStatement then
    begin ⟨.statement c.name c.shadow, []⟩
  else
    commit
    modify fun s => { s with committed := s.committed ++ [⟨.value c.name t.check c.shadow, []⟩] }
    modify fun s => { s with current := some Row.dummy }

/-- Takes the field at a template position. -/
def feed (policy : UnknownFieldPolicy) (index : Nat) : Field → LayoutPass Unit
  | .text content => text content
  | .widget name w => widget name w
  | .connection c => connection index c
  | .unrecognized _ =>
    match policy with
    | .failFast => throw (.unknownField index)
    | .permissive => modify fun s => { s with skipped := s.skipped ++ [index] }

/-- The state that changes end in, whether or not they fail. -/
def endState (x : LayoutPass Unit) (s : LayoutState) : LayoutState :=
  match x.run s with
  | .ok _ t => t
  | .error _ t => t

/-- Takes fields, each at its position, and goes on after those that fail. -/
def feedEach (policy : UnknownFieldPolicy) (s : LayoutState) (fields : List (Field × Nat)) :
    LayoutState :=
  fields.foldl (fun s (f, index) => (feed policy index f).endState s) s

end LayoutPass

end BlockVocabulary
