import BlockVocabulary.Keyed
import BlockVocabulary.Decimal.Style

/-!
JSON values. Whole numbers of 64 bits stay whole; every other number is a binary64 number, held by
its bits. The members of an object are listed in some order: values read from text hold them in
increasing order of name, each name once.
-/

namespace BlockVocabulary

inductive Number where
  | int (value : Int)
  | float (bits : UInt64)
  deriving DecidableEq

inductive Json where
  | null
  | bool (value : Bool)
  | number (value : Number)
  | text (value : String)
  | list (items : List Json)
  | object (members : List (String × Json))

instance : Inhabited Json := ⟨.null⟩

/-- Numbers with a point or an exponent: positional from `0.00001` up to below `1e+16`. -/
def Number.style : Decimal.Style where
  least := -5
  bound := 16
  wholeEnd := ['.', '0']
  plus := ['+']

/-- The written form of a number. A float that is not finite has none and is written as a null. -/
def Number.render : Number → String
  | .int i => toString i
  | .float bits => if Decimal.isFinite bits then Number.style.text bits else "null"

namespace Json

def nat (n : Nat) : Json := .number (.int n)

/-- A float as a value; a null stands for one that is not finite. -/
def float (bits : UInt64) : Json :=
  if Decimal.isFinite bits then .number (.float bits) else .null

/-- The value inside, or a null. -/
def ofOption {α : Type} (f : α → Json) : Option α → Json
  | some a => f a
  | none => .null

/-- An object with its members in increasing order of name; the last member of a name counts. -/
def sorted (members : List (String × Json)) : Json := .object (Keyed.ofList members)

/-- The member of an object under a name. -/
def get? (name : String) : Json → Option Json
  | .object members => members.lookup name
  | _ => none

/-- A member that is left out when there is nothing to say. -/
def optional {α : Type} (name : String) (f : α → Json) : Option α → List (String × Json)
  | some a => [(name, f a)]
  | none => []

end Json

end BlockVocabulary
