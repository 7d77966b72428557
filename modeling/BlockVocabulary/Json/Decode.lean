import BlockVocabulary.Json.Basic
import BlockVocabulary.Text.Quoted

/-!
Typed values from JSON values.

A record is read from an object or from a list. The members of an object are taken in the order in
which the object holds them, those of a list in the order in which the record declares its fields;
the first bad member is the one reported, and what is missing is reported only after that. Members
that the record does not know are passed over.
-/

namespace BlockVocabulary

/-- What stands in the place of the value that was expected. -/
inductive Found where
  | null
  | bool (value : Bool)
  | number (value : Number)
  | text (value : String)
  | list
  | object

/-- Why a value cannot be read as the type that is wanted. -/
inductive DecodeError where
  | wrongType (found : Found) (expected : String)
  | wrongValue (found : Found) (expected : String)
  | wrongLength (length : Nat) (expected : String)
  | missingField (name : String)
  | duplicateField (name : String)
  | unknownVariant (name : String) (variants : List String)

namespace Json

def found : Json → Found
  | .null => .null
  | .bool b => .bool b
  | .number n => .number n
  | .text s => .text s
  | .list _ => .list
  | .object _ => .object

end Json

/-- A word between grave accents. -/
def accented (s : String) : String := "\x60" ++ s ++ "\x60"

def Found.message : Found → String
  | .null => "null"
  | .bool b => "boolean " ++ accented (if b then "true" else "false")
  | .number (.int i) => "integer " ++ accented (toString i)
  | .number n => "floating point " ++ accented n.render
  | .text s => "string " ++ Text.quoted s
  | .list => "sequence"
  | .object => "map"

/-- The choice between variants, in words. -/
def choice : List String → String
  | [] => "there are no variants"
  | [a] => "expected " ++ accented a
  | [a, b] => "expected " ++ accented a ++ " or " ++ accented b
  | many => "expected one of " ++ ", ".intercalate (many.map accented)

def DecodeError.message : DecodeError → String
  | .wrongType found expected => "invalid type: " ++ found.message ++ ", expected " ++ expected
  | .wrongValue found expected => "invalid value: " ++ found.message ++ ", expected " ++ expected
  | .wrongLength length expected =>
    "invalid length " ++ toString length ++ ", expected " ++ expected
  | .missingField name => "missing field " ++ accented name
  | .duplicateField name => "duplicate field " ++ accented name
  | .unknownVariant name variants => "unknown variant " ++ accented name ++ ", " ++ choice variants

abbrev Decoded := Except DecodeError

namespace Decode

def mismatch {α : Type} (v : Json) (expected : String) : Decoded α :=
  .error (.wrongType v.found expected)

def string : Json → Decoded String
  | .text s => .ok s
  | v => mismatch v "a string"

def bool : Json → Decoded Bool
  | .bool b => .ok b
  | v => mismatch v "a boolean"

/-- A whole number from zero up to below `bound`. -/
def natBelow (bound : Nat) (expected : String) : Json → Decoded Nat
  | .number (.int i) =>
    if 0 ≤ i ∧ i < bound then .ok i.toNat
    else .error (.wrongValue (.number (.int i)) expected)
  | v => mismatch v expected

/-- A count, which has 64 bits. -/
def size : Json → Decoded Nat := natBelow 0x10000000000000000 "usize"

/-- A null or a value. -/
def nullable {α : Type} (f : Json → Decoded α) : Json → Decoded (Option α)
  | .null => .ok none
  | v => some <$> f v

def list {α : Type} (f : Json → Decoded α) : Json → Decoded (List α)
  | .list items => items.mapM f
  | v => mismatch v "a sequence"

/-- A table, from the members of an object. -/
def table {α : Type} (f : Json → Decoded α) : Json → Decoded (Table α)
  | .object members =>
    members.foldlM (fun t m => do return t.insert m.1 (← f m.2)) Table.empty
  | v => mismatch v "a map"

/-- One of several names, alone or as the only member of an object that holds a null. -/
def variant {α : Type} (names : List String) (ofName? : String → Option α) : Json → Decoded α
  | .text s => pick s
  | .object [(s, v)] => do
    let a ← pick s
    match v with
    | .null => return a
    | v => mismatch v "unit"
  | .object _ => .error (.wrongValue .object "map with a single key")
  | v => mismatch v "string or map"
where
  pick (s : String) : Decoded α :=
    match ofName? s with
    | some a => .ok a
    | none => .error (.unknownVariant s names)

end Decode

/-- How a record is read: the fields in declared order, those an object has to give and those a
list has to reach, other spellings of fields, and a record to start from with a way to set one
field of it. -/
structure RecordFormat (α : Type) where
  name : String
  fields : List String
  required : List String
  reached : List String := required
  rename : String → String := id
  start : α
  set : String → Json → α → Decoded α

namespace RecordFormat

variable {α : Type}

/-- Takes one member of an object, given the names seen before it. -/
def take (f : RecordFormat α) (state : List String × α) (member : String × Json) :
    Decoded (List String × α) := do
  let (seen, x) := state
  let name := f.rename member.1
  if name ∈ seen ∧ name ∈ f.fields then throw (.duplicateField name)
  return (name :: seen, ← f.set name member.2 x)

def ofMembers (f : RecordFormat α) (members : List (String × Json)) : Decoded α := do
  let (seen, x) ← members.foldlM f.take ([], f.start)
  match f.required.find? (· ∉ seen) with
  | some name => throw (.missingField name)
  | none => return x

/-- The record in words, with the number of its fields. -/
def counted (f : RecordFormat α) : String :=
  "struct " ++ f.name ++ " with " ++ toString f.fields.length
    ++ if f.fields.length = 1 then " element" else " elements"

def ofItems (f : RecordFormat α) (items : List Json) : Decoded α := do
  let x ← (f.fields.zip items).foldlM (fun x m => f.set m.1 m.2 x) f.start
  match (f.fields.drop items.length).find? (· ∈ f.reached) with
  | some name => throw (.wrongLength (f.fields.idxOf name) f.counted)
  | none =>
    if f.fields.length < items.length then
      throw (.wrongLength items.length "fewer elements in array")
    return x

def read (f : RecordFormat α) : Json → Decoded α
  | .object members => f.ofMembers members
  | .list items => f.ofItems items
  | v => Decode.mismatch v ("struct " ++ f.name)

end RecordFormat

end BlockVocabulary
