import BlockVocabulary.Diagnostic
import BlockVocabulary.Entry
import BlockVocabulary.Json.Reader

/-!
Vocabulary documents: a list of categories, or an object with the list under `categories`. A
document that is no vocabulary is one error at the document itself.
-/

namespace BlockVocabulary

/-- Why a document is no vocabulary. -/
inductive DocumentError where
  | malformed (cause : Json.Malformed) (line column : Nat)
  | noCategories
  | wrongShape
  | invalid (error : DecodeError)

namespace DocumentError

def message : DocumentError → String
  | malformed cause line column =>
    "malformed JSON: " ++ Json.placed cause.message line column
  | noCategories => "vocabulary object has no \"categories\" field"
  | wrongShape => "expected an array of categories or an object with a \"categories\" array"
  | invalid e => "invalid vocabulary: " ++ e.message

def suggestion? : DocumentError → Option String
  | noCategories => some "wrap the categories as \x7b\"categories\": [...]\x7d"
  | _ => none

def diagnostic (e : DocumentError) : Diagnostic :=
  { Diagnostic.error Code.invalidVocabulary e.message Origin.document with
    suggestion := e.suggestion? }

end DocumentError

namespace Document

def categories (v : Json) : Except DocumentError (List Category) :=
  (Decode.list Category.ofJson v).mapError .invalid

/-- The vocabulary of a document. -/
def ofJson : Json → Except DocumentError (List Category)
  | .list items => categories (.list items)
  | .object members =>
    match members.lookup "categories" with
    | some v => categories v
    | none => .error .noCategories
  | _ => .error .wrongShape

/-- The vocabulary of the text of a document. -/
def read (source : String) : Except DocumentError (List Category) :=
  match Json.read source with
  | .ok v => ofJson v
  | .error fault =>
    let (line, column) := Json.lineAndColumn source fault.offset
    .error (.malformed fault.cause line column)

end Document

end BlockVocabulary
