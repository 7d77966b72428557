import BlockVocabulary.Definition
import Mathlib.Data.List.Forall2
import Mathlib.Tactic.Common

/-!
Reading a message back.

The message of a definition is read from left to right: two percent signs are one that is shown,
and a percent sign with the decimal digits after it, as many as there are, is the place of the
argument of that number. Read this way a message gives back the labels as they were declared, and
the places of the arguments in order.
-/

namespace BlockVocabulary

/-- What is read off a message: a character to show, or the place of an argument. -/
inductive MessageToken where
  | shown (c : Char)
  | place (number : ℕ)
  deriving DecidableEq, Repr

namespace MessageToken

/-- The character to show; none for a place. -/
def char? : MessageToken → Option Char
  | shown c => some c
  | place _ => none

def number? : MessageToken → Option ℕ
  | shown _ => none
  | place n => some n

end MessageToken

/-- Reads a message; a percent sign with neither a digit nor another one after it is refused. -/
def readMessage : List Char → Option (List MessageToken)
  | [] => some []
  | '%' :: '%' :: cs => (readMessage cs).map (.shown '%' :: ·)
  | '%' :: cs =>
    let digits := cs.takeWhile Char.isDigit
    if digits.isEmpty then none
    else (readMessage (cs.drop digits.length)).map (.place (Nat.ofDigitChars 10 digits 0) :: ·)
  | c :: cs => (readMessage cs).map (.shown c :: ·)
termination_by cs => cs.length
decreasing_by all_goals (simp only [List.length_cons, List.length_drop]; omega)

example : readMessage "100%% %1 %%2 of %10".toList =
    some ("100% ".toList.map .shown ++ .place 1 :: " %2 of ".toList.map .shown ++ [.place 10]) := by
  cbv

example : readMessage "100% %1".toList = none := by cbv

/-! ### Words -/

lemma readMessage_cons_of_ne {c : Char} (h : c ≠ '%') (cs : List Char) :
    readMessage (c :: cs) = (readMessage cs).map (.shown c :: ·) := by
  rw [readMessage]
  all_goals simp [h]

/-- A label is read back as it was before its percent signs were doubled. -/
lemma readMessage_escapePercent (cs rest : List Char) :
    readMessage (escapePercent cs ++ rest) =
      (readMessage rest).map (cs.map MessageToken.shown ++ ·) := by
  induction cs with
  | nil => simp [escapePercent]
  | cons c cs ih =>
    by_cases hc : c = '%'
    · have hw : escapePercent (c :: cs) ++ rest = '%' :: '%' :: (escapePercent cs ++ rest) := by
        simp [escapePercent, hc]
      rw [hw, readMessage, ih, Option.map_map, hc]
      rfl
    · have hw : escapePercent (c :: cs) ++ rest = c :: (escapePercent cs ++ rest) := by
        simp [escapePercent, hc]
      rw [hw, readMessage_cons_of_ne hc, ih, Option.map_map]
      rfl

/-- The text does not begin with a digit, so that a number in front of it ends there. -/
def EndsNumber (rest : List Char) : Prop := ∀ c ∈ rest.head?, c.isDigit = false

lemma takeWhile_toDigits (n : ℕ) {rest : List Char} (h : EndsNumber rest) :
    (Nat.toDigits 10 n ++ rest).takeWhile Char.isDigit = Nat.toDigits 10 n := by
  have hd : ∀ c ∈ Nat.toDigits 10 n, c.isDigit = true := fun c hc =>
    Nat.isDigit_of_mem_toDigits (by omega) (by omega) hc
  rw [List.takeWhile_append_of_pos hd]
  rcases rest with _ | ⟨c, rest⟩
  · simp
  · simp [h c rfl]

/-- The place of an argument is read as its number. -/
lemma readMessage_place (n : ℕ) {rest : List Char} (h : EndsNumber rest) :
    readMessage ('%' :: Nat.toDigits 10 n ++ rest) =
      (readMessage rest).map (MessageToken.place n :: ·) := by
  rcases hn : Nat.toDigits 10 n with _ | ⟨d, ds⟩
  · exact absurd hn Nat.toDigits_ne_nil
  · -- the first digit is no percent sign, so this is not the case of two of them
    have hd : d.isDigit = true :=
      Nat.isDigit_of_mem_toDigits (b := 10) (n := n) (by omega) (by omega) (by simp [hn])
    have hne : d ≠ '%' := by
      rintro rfl
      exact absurd hd (by decide)
    have hv : Nat.ofDigitChars 10 (d :: ds) 0 = n := hn ▸ Nat.ofDigitChars_ten_toDigits
    have ht := takeWhile_toDigits n h
    rw [hn, List.cons_append] at ht
    rw [List.cons_append, List.cons_append, readMessage]
    · simp [ht, hv]
    · rintro cs hcs
      exact hne (List.cons.inj hcs).1

/-- In front of anything but a digit, the word is read as the tokens. -/
def ReadsAs (word : List Char) (tokens : List MessageToken) : Prop :=
  ∀ rest, EndsNumber rest → readMessage (word ++ rest) = (readMessage rest).map (tokens ++ ·)

/-- Words with single spaces between them are read one after the other. -/
lemma readMessage_intercalate {words : List (List Char)} {tokens : List (List MessageToken)}
    (h : List.Forall₂ ReadsAs words tokens) :
    readMessage ([' '].intercalate words) = some ([.shown ' '].intercalate tokens) := by
  induction h with
  | nil => simp [readMessage]
  | cons hw hws ih =>
    rcases hws with _ | ⟨_, _⟩
    · simpa [readMessage] using hw [] (by simp [EndsNumber])
    · -- the space that follows ends a number at the end of the word
      have hspace : ∀ rest, EndsNumber (' ' :: rest) := by simp [EndsNumber]
      rw [List.intercalate_cons_cons, List.intercalate_cons_cons, List.append_assoc,
        List.singleton_append, hw _ (hspace _), readMessage_cons_of_ne (by decide), ih]
      simp

/-! ### Messages of items -/

/-- What is read off the words of a message, `k` arguments having gone before. -/
def wordTokens : ℕ → List MessageItem → List (List MessageToken)
  | _, [] => []
  | k, .label text :: items => text.toList.map .shown :: wordTokens k items
  | k, .argument _ :: items => [.place (k + 1)] :: wordTokens (k + 1) items

lemma messageWords_readAs (k : ℕ) (items : List MessageItem) :
    List.Forall₂ ReadsAs (messageWords k items) (wordTokens k items) := by
  induction items generalizing k with
  | nil => exact .nil
  | cons item items ih =>
    cases item with
    | label text => exact .cons (fun rest _ => readMessage_escapePercent _ rest) (ih k)
    | argument v => exact .cons (fun rest h => readMessage_place (k + 1) h) (ih (k + 1))

namespace MessageItem

/-- The characters of a label, or one mark for an argument. -/
def marks : MessageItem → List (Option Char)
  | label text => text.toList.map some
  | argument _ => [none]

@[simp] lemma marks_label (text : String) : (label text).marks = text.toList.map some := rfl
@[simp] lemma marks_argument (v : Json) : (argument v).marks = [none] := rfl
@[simp] lemma argument?_label (text : String) : (label text).argument? = none := rfl
@[simp] lemma argument?_argument (v : Json) : (argument v).argument? = some v := rfl

end MessageItem

lemma map_char?_wordTokens (k : ℕ) (items : List MessageItem) :
    (wordTokens k items).map (·.map MessageToken.char?) = items.map MessageItem.marks := by
  induction items generalizing k with
  | nil => rfl
  | cons item items ih =>
    cases item <;> simp [wordTokens, ih, MessageToken.char?, Function.comp_def]

/-- The places are numbered one after the other, from the number after `k` on. -/
lemma filterMap_number?_wordTokens (k : ℕ) (items : List MessageItem) :
    (wordTokens k items).flatMap (·.filterMap MessageToken.number?) =
      List.range' (k + 1) (items.filterMap MessageItem.argument?).length := by
  induction items generalizing k with
  | nil => rfl
  | cons item items ih =>
    cases item with
    | label text =>
      have hl : (text.toList.map MessageToken.shown).filterMap MessageToken.number? = [] := by
        simp [MessageToken.number?]
      rw [wordTokens, List.flatMap_cons, hl, ih]
      simp [List.filterMap_cons]
    | argument v => simp [wordTokens, ih, MessageToken.number?, List.range'_succ]

lemma map_intercalate {α β : Type} (f : α → β) (sep : List α) (ls : List (List α)) :
    (sep.intercalate ls).map f = (sep.map f).intercalate (ls.map (·.map f)) := by
  induction ls with
  | nil => simp
  | cons l ls ih =>
    rcases ls with _ | ⟨l', ls⟩
    · simp
    · simp only [List.intercalate_cons_cons, List.map_append, ih, List.map_cons]

/-- What a separator does not hold is found in the pieces only. -/
lemma filterMap_intercalate {α β : Type} {f : α → Option β} {sep : List α}
    (hsep : sep.filterMap f = []) (ls : List (List α)) :
    (sep.intercalate ls).filterMap f = ls.flatMap (·.filterMap f) := by
  induction ls with
  | nil => simp
  | cons l ls ih =>
    rcases ls with _ | ⟨l', ls⟩
    · simp
    · rw [List.intercalate_cons_cons, List.filterMap_append, List.filterMap_append, hsep, ih]
      simp

/-! ### Messages of schemas -/

/-- The characters of a label, or one mark for any other fragment. -/
def Fragment.marks : Fragment → List (Option Char)
  | .label text => text.toList.map some
  | .widget .. => [none]
  | .help _ => [none]

def Fragment.argument? (f : Fragment) : Option Json := f.messageItem.argument?

/-- What a row shows, its input being one mark. -/
def Row.marks (r : Row) : List (List (Option Char)) := r.fragments.map Fragment.marks ++ [[none]]

/-- The arguments of the fragments of a row, then the one of its input. -/
def Row.arguments (r : Row) : List Json :=
  r.fragments.filterMap Fragment.argument? ++ [r.input.argument]

/-- The object has these members and no others; of several with one name the first counts. -/
def Json.HasMembers (v : Json) (members : List (String × Json)) : Prop :=
  ∀ key, v.get? key = members.lookup key

/-- What the argument of a fragment holds. -/
def Fragment.members? : Fragment → Option (List (String × Json))
  | .label _ => none
  | .widget name w =>
    some (w.properties.entries ++ [("name", .text name), ("type", .text w.kind)])
  | .help source =>
    some [("type", .text "field_image"), ("src", .text source), ("width", .number (.int 16)),
      ("height", .number (.int 16)), ("alt", .text "?")]

/-- What the argument of an input holds. -/
def Input.members : Input → List (String × Json)
  | .dummy => [("type", .text "input_dummy")]
  | .value name none _ => [("type", .text "input_value"), ("name", .text name)]
  | .value name (some check) _ =>
    [("type", .text "input_value"), ("name", .text name), ("check", .text check)]
  | .statement name _ => [("type", .text "input_statement"), ("name", .text name)]

def Row.members (r : Row) : List (List (String × Json)) :=
  r.fragments.filterMap Fragment.members? ++ [r.input.members]

lemma get?_argument (name : String) (w : Widget) (key : String) :
    (w.argument name).get? key = (w.properties.get? key).or
      ([("name", .text name), ("type", .text w.kind)].lookup key) := by
  rw [Widget.argument, Json.sorted, Json.get?, Keyed.lookup_ofList, List.reverse_append,
    List.lookup_append, Keyed.lookup_of_perm w.properties.sorted (List.reverse_perm _)]
  rfl

/-- Among entries of distinct names the order does not matter. -/
lemma lookup_reverse {α : Type} {l : List (String × α)} (h : (l.map (·.1)).Nodup) (key : String) :
    l.reverse.lookup key = l.lookup key := by
  induction l with
  | nil => rfl
  | cons e l ih =>
    obtain ⟨k, v⟩ := e
    obtain ⟨hk, hl⟩ := List.nodup_cons.mp h
    rw [List.reverse_cons, List.lookup_append, ih hl, List.lookup_cons]
    by_cases heq : key = k
    · subst heq
      have hnone : l.lookup key = none := by
        refine List.lookup_eq_none_iff.mpr fun e he => bne_iff_ne.mpr fun hkey => ?_
        exact hk (hkey ▸ List.mem_map.mpr ⟨e, he, rfl⟩)
      simp [hnone]
    · simp [List.lookup_cons, beq_false_of_ne heq]

/-- Entries of distinct names are the members of the object that is made of them. -/
lemma hasMembers_sorted {members : List (String × Json)} (h : (members.map (·.1)).Nodup) :
    (Json.sorted members).HasMembers members := fun key => by
  rw [Json.sorted, Json.get?, Keyed.lookup_ofList, lookup_reverse h]

lemma hasMembers_input (input : Input) : input.argument.HasMembers input.members := by
  rcases input with _ | ⟨name, _ | check, shadow⟩ | ⟨name, shadow⟩
  all_goals exact hasMembers_sorted (by simp [Json.optional])

lemma hasMembers_fragments (fragments : List Fragment) :
    List.Forall₂ Json.HasMembers (fragments.filterMap Fragment.argument?)
      (fragments.filterMap Fragment.members?) := by
  induction fragments with
  | nil => exact .nil
  | cons f fragments ih =>
    cases f with
    | label text => exact ih
    | widget name w =>
      refine .cons (fun key => ?_) ih
      rw [get?_argument, List.lookup_append]
      rfl
    | help source => exact .cons (hasMembers_sorted (by simp)) ih

lemma hasMembers_rows (rows : List Row) :
    List.Forall₂ Json.HasMembers (rows.flatMap Row.arguments) (rows.flatMap Row.members) := by
  induction rows with
  | nil => exact .nil
  | cons r rows ih =>
    have hrow : List.Forall₂ Json.HasMembers r.arguments r.members :=
      List.rel_append (hasMembers_fragments r.fragments) (.cons (hasMembers_input r.input) .nil)
    exact List.rel_append hrow ih

lemma marks_messageItem (f : Fragment) : f.messageItem.marks = f.marks := by
  cases f <;> rfl

lemma marks_messageItems (r : Row) : r.messageItems.map MessageItem.marks = r.marks := by
  simp [Row.messageItems, Row.marks, marks_messageItem]

lemma argument?_messageItems (r : Row) :
    r.messageItems.filterMap MessageItem.argument? = r.arguments := by
  have h : Fragment.argument? = MessageItem.argument? ∘ Fragment.messageItem := rfl
  simp [Row.messageItems, Row.arguments, List.filterMap_map, h]

lemma length_filterMap_argument? (fs : List Fragment) :
    (fs.filterMap Fragment.argument?).length = fs.countP (·.label?.isNone) := by
  rw [List.length_filterMap_eq_countP]
  congr 1
  funext f
  cases f <;> rfl

lemma length_arguments (rows : List Row) :
    (rows.flatMap Row.arguments).length =
      rows.length + (rows.flatMap (·.fragments)).countP (·.label?.isNone) := by
  induction rows with
  | nil => rfl
  | cons r rows ih =>
    simp only [List.flatMap_cons, List.length_append, ih, Row.arguments,
      length_filterMap_argument?, List.countP_append, List.length_cons, List.length_nil]
    omega

lemma definition_message (s : BlockSchema) :
    s.definition.get? "message0" = some (.text s.message) :=
  s.get?_definition.2.1

lemma definition_arguments (s : BlockSchema) :
    s.definition.get? "args0" = some (.list s.arguments) :=
  s.get?_definition.2.2.1

/-- **A message is readable back.** The message of a definition holds no lone percent sign; its
places are those of all arguments in order; and what it shows are, with single spaces between them,
the labels as declared and a mark for each other fragment and for each input, the arguments being
those of the marked items and holding what belongs to these. -/
theorem readMessage_definition (s : BlockSchema) :
    ∃ message arguments tokens,
      s.definition.get? "message0" = some (.text message) ∧
      s.definition.get? "args0" = some (.list arguments) ∧
      readMessage message.toList = some tokens ∧
      tokens.filterMap MessageToken.number? = List.range' 1 arguments.length ∧
      tokens.map MessageToken.char? = [some ' '].intercalate (s.rows.flatMap Row.marks) ∧
      arguments = s.rows.flatMap Row.arguments ∧
      List.Forall₂ Json.HasMembers arguments (s.rows.flatMap Row.members) ∧
      arguments.length =
        s.rows.length + (s.rows.flatMap (·.fragments)).countP (·.label?.isNone) := by
  have hmarks : s.messageItems.map MessageItem.marks = s.rows.flatMap Row.marks := by
    simp only [BlockSchema.messageItems, List.map_flatMap, marks_messageItems]
  have hargs : s.arguments = s.rows.flatMap Row.arguments := by
    simp only [BlockSchema.arguments, BlockSchema.messageItems, List.filterMap_flatMap,
      argument?_messageItems]
  refine ⟨s.message, s.arguments, [.shown ' '].intercalate (wordTokens 0 s.messageItems),
    definition_message s, definition_arguments s, ?_, ?_, ?_, hargs, ?_, ?_⟩
  · simpa [BlockSchema.message] using readMessage_intercalate (messageWords_readAs 0 s.messageItems)
  · rw [filterMap_intercalate (by rfl), filterMap_number?_wordTokens]
    rfl
  · rw [map_intercalate, map_char?_wordTokens, hmarks]
    rfl
  · exact hargs ▸ hasMembers_rows s.rows
  · rw [hargs, length_arguments]

end BlockVocabulary
