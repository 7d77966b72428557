import BlockVocabulary.Json.Token

/-!
Values from JSON text.

The reader stands for a general one, of which this is assumed: it takes the texts of the JSON
grammar and no others, with no comments and no comma after a last element; spaces, tabs and line
breaks stand between the parts of a text and mean nothing; lists and objects nest at most
`nestingLimit` deep; members are kept in increasing order of name, and of members with the same
name the last one counts. A text that is refused is refused at the first byte that rules it out.
-/

namespace BlockVocabulary.Json

def nestingLimit : Nat := 127

/-- The items of a list from the first one to the closing bracket, `done` being those read before
it in reverse. Every round takes a character, so the length of the text bounds the rounds. -/
def itemsFrom (item : Cursor → Reading (Json × Cursor)) :
    Nat → List Json → Cursor → Reading (List Json × Cursor)
  | 0, _, c => c.stop .endInList
  | rounds + 1, done, c => do
    let (v, c) ← item c
    let c := c.skipSpace
    match c.rest with
    | [] => c.stop .endInList
    | ']' :: _ => return ((v :: done).reverse, c.advance)
    | ',' :: _ =>
      let c := c.advance.skipSpace
      match c.rest with
      | [] => c.stop .endInValue
      | ']' :: _ => c.stop .trailingComma
      | _ => itemsFrom item rounds (v :: done) c
    | _ => c.stop .listEndExpected

/-- A list, after its opening bracket. -/
def listAfterBracket (item : Cursor → Reading (Json × Cursor)) (c : Cursor) :
    Reading (List Json × Cursor) :=
  let c := c.skipSpace
  match c.rest with
  | [] => c.stop .endInList
  | ']' :: _ => .ok ([], c.advance)
  | _ => itemsFrom item c.rounds [] c

/-- The colon after a name. -/
def colon (c : Cursor) : Reading Cursor :=
  let c := c.skipSpace
  match c.rest with
  | [] => c.stop .endInObject
  | ':' :: _ => .ok c.advance
  | _ => c.stop .colonExpected

/-- The members of an object from the quote of the first name to the closing brace. -/
def membersFrom (item : Cursor → Reading (Json × Cursor)) :
    Nat → List (String × Json) → Cursor → Reading (List (String × Json) × Cursor)
  | 0, _, c => c.stop .endInObject
  | rounds + 1, done, c => do
    let (name, c) ← stringAfterQuote c.advance
    let c ← colon c
    let (v, c) ← item c
    let c := c.skipSpace
    match c.rest with
    | [] => c.stop .endInObject
    | '\x7d' :: _ => return (((name, v) :: done).reverse, c.advance)
    | ',' :: _ =>
      let c := c.advance.skipSpace
      match c.rest with
      | [] => c.stop .endInValue
      | '"' :: _ => membersFrom item rounds ((name, v) :: done) c
      | '\x7d' :: _ => c.stop .trailingComma
      | _ => c.stop .keyNotString
    | _ => c.stop .objectEndExpected

/-- An object, after its opening brace. -/
def objectAfterBrace (item : Cursor → Reading (Json × Cursor)) (c : Cursor) :
    Reading (List (String × Json) × Cursor) :=
  let c := c.skipSpace
  match c.rest with
  | [] => c.stop .endInObject
  | '\x7d' :: _ => .ok ([], c.advance)
  | '"' :: _ => membersFrom item c.rounds [] c
  | _ => c.stop .keyNotString

/-- A value whose lists and objects nest at most `depth` deep. -/
def valueWithin (depth : Nat) (c : Cursor) : Reading (Json × Cursor) :=
  let c := c.skipSpace
  match c.rest with
  | [] => c.stop .endInValue
  | 'n' :: _ => do return (.null, ← word "ull".toList c.advance)
  | 't' :: _ => do return (.bool true, ← word "rue".toList c.advance)
  | 'f' :: _ => do return (.bool false, ← word "alse".toList c.advance)
  | '"' :: _ => do
    let (s, c) ← stringAfterQuote c.advance
    return (.text s, c)
  | '[' :: _ =>
    match depth with
    | 0 => c.stop .tooDeep
    | depth + 1 => do
      let (items, c) ← listAfterBracket (valueWithin depth) c.advance
      return (.list items, c)
  | '\x7b' :: _ =>
    match depth with
    | 0 => c.stop .tooDeep
    | depth + 1 => do
      let (members, c) ← objectAfterBrace (valueWithin depth) c.advance
      return (sorted members, c)
  | x :: _ =>
    if x = '-' || x.isDigit then do
      let (n, c) ← number? c
      return (.number n, c)
    else c.stop .valueExpected

/-- The end of a document, after its value. -/
def finish (c : Cursor) : Reading Unit :=
  let c := c.skipSpace
  if c.rest.isEmpty then .ok () else c.stop .trailingCharacters

/-- The value of a whole document. -/
def read (source : String) : Reading Json := do
  let (v, c) ← valueWithin nestingLimit (Cursor.ofText source)
  finish c
  return v

end BlockVocabulary.Json
