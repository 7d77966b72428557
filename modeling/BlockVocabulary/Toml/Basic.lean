/-!
TOML documents as values, and how their tables come about.

A table may be written out under a header, come about because a header or a dotted key passes
through it, or stand inside a line. What may still be added to a table depends on how it came about.
-/

namespace BlockVocabulary

/-- How a table came about. -/
inductive TableKind where
  /-- Under a header of its own. -/
  | header
  /-- On the way of a header to a table inside it. -/
  | implied
  /-- On the way of a dotted key. -/
  | dotted
  /-- Between braces, complete. -/
  | inline
  deriving DecidableEq, Repr

inductive Toml where
  | string (value : String)
  | integer (value : Int)
  | float
  | boolean (value : Bool)
  | time
  | array (items : List Toml)
  | table (kind : TableKind) (entries : List (String × Toml))
  /-- Tables that share a doubled header. -/
  | tables (elements : List (List (String × Toml)))

instance : Inhabited Toml := ⟨.float⟩

namespace Toml

/-- The entries of a table. -/
abbrev Entries := List (String × Toml)

/-- With the value of a key replaced, or put at the end. -/
def setEntry (key : String) (v : Toml) : Entries → Entries
  | [] => [(key, v)]
  | (k, w) :: rest => if k = key then (k, v) :: rest else (k, w) :: setEntry key v rest

/-- Changes the last element of a list, if there is one. -/
def changeLast {α : Type} (f : α → Option α) : List α → Option (List α)
  | [] => none
  | [x] => (f x).map ([·])
  | x :: xs => (changeLast f xs).map (x :: ·)

/-- Changes the table that a header path leads to; tables missing on the way are implied. -/
def alongHeader (f : Entries → Option Entries) : List String → Entries → Option Entries
  | [], t => f t
  | key :: path, t =>
    match t.lookup key with
    | none => do return setEntry key (.table .implied (← alongHeader f path [])) t
    | some (.table kind inner) =>
      if kind = .inline then none
      else do return setEntry key (.table kind (← alongHeader f path inner)) t
    | some (.tables elements) => do
      return setEntry key (.tables (← changeLast (alongHeader f path) elements)) t
    | some _ => none

/-- Begins the table of a header at the end of its path. -/
def beginTable (key : String) (t : Entries) : Option Entries :=
  match t.lookup key with
  | none => some (setEntry key (.table .header []) t)
  | some (.table .implied inner) => some (setEntry key (.table .header inner) t)
  | some _ => none

/-- Begins one more table of a doubled header at the end of its path. -/
def beginElement (key : String) (t : Entries) : Option Entries :=
  match t.lookup key with
  | none => some (setEntry key (.tables [[]]) t)
  | some (.tables elements) => some (setEntry key (.tables (elements ++ [[]])) t)
  | some _ => none

/-- Puts a value under a new key of a table; `free` says that keys may be put there. -/
def assign (free : Bool) (key : String) (v : Toml) (t : Entries) : Option Entries :=
  if free && (t.lookup key).isNone then some (setEntry key v t) else none

/-- Puts a value under a dotted key. The path leads through tables that no header and no line has
completed, and the last of them came about by dotted keys. -/
def assignDotted (free : Bool) (key : String) (v : Toml) :
    List String → Entries → Option Entries
  | [], t => assign free key v t
  | k :: path, t =>
    match t.lookup k with
    | none => do return setEntry k (.table .dotted (← assignDotted true key v path [])) t
    | some (.table kind inner) =>
      if kind = .header || kind = .inline then none
      else do
        return setEntry k (.table kind (← assignDotted (kind = .dotted) key v path inner)) t
    | some (.tables elements) => do
      return setEntry k (.tables (← changeLast (assignDotted false key v path) elements)) t
    | some _ => none

/-- The table between braces with the given dotted keys and values. -/
def ofLine (pairs : List (List String × String × Toml)) : Option Toml := do
  let entries ← pairs.foldlM (fun t p => assignDotted true p.2.1 p.2.2 p.1 t) []
  return .table .inline entries

end Toml

end BlockVocabulary
