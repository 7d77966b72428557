import BlockVocabulary.Json.Printer
import BlockVocabulary.Json.Reader
import BlockVocabulary.Proofs.NumberText

/-!
What is written on one line can be read again.

A value whose members stand in order and whose lists and objects do not nest too deep is read where
its text stands, in front of anything that ends a number: a comma, a closing bracket or the end of
the text. The reader takes exactly the text of the value. This is shown for each part of a value by
going through the text as the reader does, and for lists and objects from what holds of their
elements. The rounds that the loops of the reader may take are more than the characters of the text.
-/

namespace BlockVocabulary.Json

/-! ### Words and strings -/

lemma word_append (ls rest : List Char) (offset rounds : ℕ) :
    ∃ after, word ls ⟨ls ++ rest, offset, rounds⟩ = .ok ⟨rest, after, rounds⟩ := by
  induction ls generalizing offset with
  | nil => exact ⟨offset, rfl⟩
  | cons l ls ih =>
    obtain ⟨after, h⟩ := ih (offset + l.utf8Size)
    refine ⟨after, ?_⟩
    rw [List.cons_append, word]
    simpa [Cursor.advance] using h

lemma hexValue?_digitChar {d : ℕ} (h : d < 16) : hexValue? d.digitChar = some d := by
  revert d
  decide

lemma utf8Size_digitChar {d : ℕ} (h : d < 16) : d.digitChar.utf8Size = 1 := by
  revert d
  decide

lemma hex4_controlDigits {n : ℕ} (h : n < 0x100) (rest : List Char) (offset rounds : ℕ) :
    hex4 ⟨'0' :: '0' :: (controlDigits n ++ rest), offset, rounds⟩ =
      .ok (n, ⟨rest, offset + 4, rounds⟩) := by
  have hhigh : n / 16 < 16 := by omega
  have hlow : n % 16 < 16 := by omega
  have hzero : hexValue? '0' = some 0 ∧ '0'.utf8Size = 1 := by decide
  have hvalue : 16 * (n / 16) + n % 16 = n := by omega
  simp [hex4, controlDigits, Cursor.skip, utf8Size_digitChar hhigh, utf8Size_digitChar hlow, hzero,
    hexValue?_digitChar hhigh, hexValue?_digitChar hlow, hvalue]

/-- A control character is read back from its number. -/
lemma escape_controlDigits {c : Char} (h : c.toNat < 0x20) (rest : List Char)
    (offset rounds : ℕ) :
    escape ⟨'u' :: '0' :: '0' :: (controlDigits c.toNat ++ rest), offset, rounds⟩ =
      .ok (c, ⟨rest, offset + 5, rounds⟩) := by
  have hhigh : isHighSurrogate c.toNat = false := by
    simp [isHighSurrogate]
    omega
  have hlow : isLowSurrogate c.toNat = false := by
    simp [isLowSurrogate]
    omega
  have hread := hex4_controlDigits (by omega : c.toNat < 0x100) rest (offset + 1) rounds
  unfold escape codeUnits
  simp only [Cursor.advance]
  rw [show offset + 'u'.utf8Size = offset + 1 from rfl, hread]
  simp [bind, Except.bind, hlow, hhigh]
  rfl

/-- A character that needs no backslash stands for itself. -/
lemma stringFrom_cons {c : Char} (hquote : c ≠ '"') (hback : c ≠ '\\') (hshown : ¬c.toNat < 0x20)
    (done : List Char) (n : ℕ) (rest : List Char) (offset rounds : ℕ) :
    stringFrom (n + 1) done ⟨c :: rest, offset, rounds⟩ =
      stringFrom n (c :: done) ⟨rest, offset + c.utf8Size, rounds⟩ := by
  rw [stringFrom]
  split
  case h_1 hc => cases hc
  case h_2 hc => exact absurd (List.cons.inj hc).1 hquote
  case h_3 hc => exact absurd (List.cons.inj hc).1 hback
  case h_4 x xs _ _ hc =>
    obtain rfl : c = x := (List.cons.inj hc).1
    rw [if_neg hshown]
    rfl

/-- A character is read back from the way it is written. -/
lemma stringFrom_escapedChar (c : Char) (done : List Char) (n : ℕ) (rest : List Char)
    (offset rounds : ℕ) :
    ∃ after, stringFrom (n + 1) done ⟨escapedChar c ++ rest, offset, rounds⟩ =
      stringFrom n (c :: done) ⟨rest, after, rounds⟩ := by
  unfold escapedChar
  split
  case h_8 hquote hback _ _ _ _ _ =>
    by_cases hcontrol : c.toNat < 0x20
    · have hread := escape_controlDigits hcontrol rest (offset + 1) rounds
      refine ⟨offset + 1 + 5, ?_⟩
      rw [if_pos hcontrol, List.append_assoc]
      exact congrArg (· >>= fun r => stringFrom n (r.1 :: done) r.2) hread
    · rw [if_neg hcontrol]
      exact ⟨_, stringFrom_cons hquote hback hcontrol done n rest offset rounds⟩
  -- each of the other characters has a letter of its own
  all_goals exact ⟨_, rfl⟩

/-- The rest of a string is read back up to its closing quote. -/
lemma stringFrom_escaped (cs done : List Char) {n : ℕ} (h : cs.length < n) (rest : List Char)
    (offset rounds : ℕ) :
    ∃ after, stringFrom n done ⟨cs.flatMap escapedChar ++ '"' :: rest, offset, rounds⟩ =
      .ok (String.ofList (done.reverse ++ cs), ⟨rest, after, rounds⟩) := by
  obtain ⟨n, rfl⟩ := Nat.exists_eq_succ_of_ne_zero (by omega : n ≠ 0)
  induction cs generalizing done n offset with
  | nil => exact ⟨offset + 1, by rw [List.append_nil]; rfl⟩
  | cons c cs ih =>
    obtain ⟨n, rfl⟩ := Nat.exists_eq_succ_of_ne_zero (by simp at h; omega : n ≠ 0)
    obtain ⟨next, hnext⟩ :=
      stringFrom_escapedChar c done (n + 1) (cs.flatMap escapedChar ++ '"' :: rest) offset rounds
    obtain ⟨after, hafter⟩ := ih (c :: done) next n (by simpa using h)
    refine ⟨after, ?_⟩
    rw [List.flatMap_cons, List.append_assoc, hnext, hafter]
    simp

lemma toList_literal (s : String) :
    (literal s).toList = '"' :: (s.toList.flatMap escapedChar ++ ['"']) := by
  simp [literal]

lemma length_le_escaped (cs : List Char) : cs.length ≤ (cs.flatMap escapedChar).length := by
  induction cs with
  | nil => exact Nat.zero_le _
  | cons c cs ih =>
    have hc : 0 < (escapedChar c).length := by
      unfold escapedChar
      split <;> try simp
      split <;> simp
    rw [List.flatMap_cons, List.length_append, List.length_cons]
    omega

lemma length_lt_literal (s : String) : s.length < (literal s).toList.length := by
  have hle := length_le_escaped s.toList
  rw [toList_literal, ← String.length_toList, List.length_cons, List.length_append]
  omega

/-- A string literal is read back. -/
lemma stringAfterQuote_literal {s : String} {rounds : ℕ} (h : s.length < rounds) (rest : List Char)
    (offset : ℕ) : ∃ after,
      stringAfterQuote (⟨(literal s).toList ++ rest, offset, rounds⟩ : Cursor).advance =
        .ok (s, ⟨rest, after, rounds⟩) := by
  have hadvance : (⟨(literal s).toList ++ rest, offset, rounds⟩ : Cursor).advance =
      ⟨s.toList.flatMap escapedChar ++ '"' :: rest, offset + 1, rounds⟩ := by
    rw [toList_literal, List.cons_append, List.append_assoc]
    rfl
  obtain ⟨after, hafter⟩ := stringFrom_escaped s.toList []
    (by rwa [String.length_toList] : _ < rounds) rest (offset + 1) rounds
  refine ⟨after, ?_⟩
  rw [hadvance, stringAfterQuote, hafter]
  simp

/-! ### Values that can be read -/

/-- The values that a text can hold: numbers that are read where they stand, members in increasing
order of name, and lists and objects that nest at most so deep. -/
inductive Readable : ℕ → Json → Prop
  | null {depth : ℕ} : Readable depth .null
  | bool {depth : ℕ} (b : Bool) : Readable depth (.bool b)
  | number {depth : ℕ} {n : Number} (h : n.ReadsBack) : Readable depth (.number n)
  | text {depth : ℕ} (s : String) : Readable depth (.text s)
  | list {depth : ℕ} {items : List Json} (h : ∀ v ∈ items, Readable depth v) :
    Readable (depth + 1) (.list items)
  | object {depth : ℕ} {members : List (String × Json)} (hsorted : Keyed.Sorted members)
      (h : ∀ m ∈ members, Readable depth m.2) : Readable (depth + 1) (.object members)

/-- The reader takes exactly the text, in front of anything that ends a number. -/
def ReadAs (read : Cursor → Reading (Json × Cursor)) (rounds : ℕ) (text : List Char) (v : Json) :
    Prop :=
  ∀ rest, EndsNumber rest → ∀ offset, ∃ after,
    read ⟨text ++ rest, offset, rounds⟩ = .ok (v, ⟨rest, after, rounds⟩)

variable {rest : List Char} {offset rounds depth : ℕ}

lemma ne_of_isDigit {x y : Char} (hx : x.isDigit = true) (hy : y.isDigit = false) : x ≠ y := by
  rintro rfl
  exact Bool.false_ne_true (hy.symm.trans hx)

lemma isSpace_of_isDigit {x : Char} (h : x.isDigit = true) : Cursor.isSpace x = false := by
  simp [Cursor.isSpace, ne_of_isDigit h (y := ' ') rfl, ne_of_isDigit h (y := '\t') rfl,
    ne_of_isDigit h (y := '\n') rfl, ne_of_isDigit h (y := '\r') rfl]

/-- A value that is written begins with none of the characters that stand between values. -/
lemma Readable.begins {v : Json} (h : Readable depth v) :
    ∃ x xs, v.compact.toList = x :: xs ∧ Cursor.isSpace x = false ∧ x ≠ ']' := by
  cases h with
  | null => exact ⟨'n', _, rfl, rfl, by decide⟩
  | bool b => cases b <;> exact ⟨_, _, rfl, rfl, by decide⟩
  | number hn =>
    obtain ⟨x, xs, htext, hx⟩ := hn.begins
    refine ⟨x, xs, htext, ?_⟩
    rcases hx with rfl | hx
    · decide
    · exact ⟨isSpace_of_isDigit hx, ne_of_isDigit hx rfl⟩
  | text s => exact ⟨'"', _, by rw [compact, toList_literal], rfl, by decide⟩
  | list => exact ⟨'[', _, by rw [compact]; simp; rfl, rfl, by decide⟩
  | object => exact ⟨'\x7b', _, by rw [compact]; simp; rfl, rfl, by decide⟩

/-- Nothing is skipped where no space stands. -/
lemma skipSpace_of_begins {x : Char} {xs : List Char} (h : Cursor.isSpace x = false) :
    (⟨x :: xs, offset, rounds⟩ : Cursor).skipSpace = ⟨x :: xs, offset, rounds⟩ := by
  simp [Cursor.skipSpace, Cursor.skip, h]

/-! ### Lists -/

/-- Texts with a comma before each. -/
def afterCommas (texts : List (List Char)) : List Char := texts.flatMap (',' :: ·)

lemma afterCommas_cons (text : List Char) (texts : List (List Char)) :
    afterCommas (text :: texts) = ',' :: (text ++ afterCommas texts) := rfl

lemma intercalate_comma (text : List Char) (texts : List (List Char)) :
    [','].intercalate (text :: texts) = text ++ afterCommas texts := by
  induction texts generalizing text with
  | nil => simp [afterCommas]
  | cons t ts ih => simp [List.intercalate_cons_cons, ih, afterCommas_cons]

lemma length_le_afterCommas (texts : List (List Char)) :
    texts.length ≤ (afterCommas texts).length := by
  induction texts with
  | nil => exact Nat.zero_le _
  | cons t ts ih =>
    rw [afterCommas_cons, List.length_cons, List.length_cons, List.length_append]
    omega

lemma length_lt_afterCommas {text : List Char} {texts : List (List Char)} (h : text ∈ texts) :
    text.length < (afterCommas texts).length := by
  obtain ⟨before, behind, rfl⟩ := List.append_of_mem h
  simp only [afterCommas, List.flatMap_append, List.flatMap_cons, List.length_append,
    List.length_cons]
  omega

lemma compactItems_eq (items : List Json) : compactItems items = items.map compact := by
  induction items with
  | nil => rfl
  | cons v vs ih => rw [compactItems, ih, List.map_cons]

lemma toList_compact_list_nil : (compact (.list [])).toList = ['[', ']'] := by
  simp [compact, compactItems]

lemma toList_compact_list_cons (v : Json) (vs : List Json) :
    (compact (.list (v :: vs))).toList =
      '[' :: (v.compact.toList ++ (afterCommas (vs.map (·.compact.toList)) ++ [']'])) := by
  have hitems := intercalate_comma v.compact.toList (vs.map (·.compact.toList))
  simp only [compact, compactItems_eq, String.toList_append, String.toList_intercalate,
    List.map_map, List.map_cons, Function.comp_def]
  rw [show ",".toList = [','] from rfl, hitems, List.append_assoc, List.append_assoc]
  rfl

section

variable {item : Cursor → Reading (Json × Cursor)} {c : Cursor} {v : Json} {n : ℕ}

lemma itemsFrom_last (h : item c = .ok (v, ⟨']' :: rest, offset, rounds⟩)) (done : List Json) :
    itemsFrom item (n + 1) done c = .ok ((v :: done).reverse, ⟨rest, offset + 1, rounds⟩) := by
  rw [itemsFrom, h]
  rfl

lemma itemsFrom_next {x : Char} (h : item c = .ok (v, ⟨',' :: x :: rest, offset, rounds⟩))
    (hspace : Cursor.isSpace x = false) (hend : x ≠ ']') (done : List Json) :
    itemsFrom item (n + 1) done c =
      itemsFrom item n (v :: done) ⟨x :: rest, offset + 1, rounds⟩ := by
  have hskip : (⟨x :: rest, offset + 1, rounds⟩ : Cursor).skipSpace =
      ⟨x :: rest, offset + 1, rounds⟩ := skipSpace_of_begins hspace
  rw [itemsFrom, h]
  simp only [bind, Except.bind]
  rw [skipSpace_of_begins (x := ',') rfl]
  simp only [Cursor.advance]
  rw [show offset + ','.utf8Size = offset + 1 from rfl, hskip]
  split
  case h_1 hx => cases hx
  case h_2 hx => exact absurd (List.cons.inj hx).1 hend
  case h_3 => rfl

lemma listAfterBracket_of_begins {x : Char} {xs : List Char} (hspace : Cursor.isSpace x = false)
    (hend : x ≠ ']') :
    listAfterBracket item ⟨x :: xs, offset, rounds⟩ =
      itemsFrom item rounds [] ⟨x :: xs, offset, rounds⟩ := by
  rw [listAfterBracket, skipSpace_of_begins hspace]
  dsimp only
  split
  case h_1 hxs => cases hxs
  case h_2 hxs => exact absurd (List.cons.inj hxs).1 hend
  case h_3 => rfl

/-- The items of a list are read one after the other. -/
lemma itemsFrom_compact {vs : List Json}
    (hread : ∀ u ∈ v :: vs, ReadAs item rounds u.compact.toList u)
    (hvalues : ∀ u ∈ v :: vs, Readable depth u) (hn : vs.length < n) (done : List Json)
    (rest : List Char) (offset : ℕ) : ∃ after, itemsFrom item n done
        ⟨v.compact.toList ++ (afterCommas (vs.map (·.compact.toList)) ++ ']' :: rest), offset,
          rounds⟩ =
      .ok (done.reverse ++ v :: vs, ⟨rest, after, rounds⟩) := by
  obtain ⟨n, rfl⟩ := Nat.exists_eq_succ_of_ne_zero (by omega : n ≠ 0)
  induction vs generalizing v n done offset with
  | nil =>
    obtain ⟨next, hnext⟩ := hread v (by simp) (']' :: rest) (by simp [EndsNumber]) offset
    refine ⟨next + 1, ?_⟩
    rw [List.map_nil, afterCommas, List.flatMap_nil, List.nil_append, itemsFrom_last hnext]
    simp
  | cons u us ih =>
    obtain ⟨n, rfl⟩ := Nat.exists_eq_succ_of_ne_zero (by simp at hn; omega : n ≠ 0)
    obtain ⟨x, xs, htext, hspace, hend⟩ := (hvalues u (by simp)).begins
    let behind := afterCommas (us.map (·.compact.toList)) ++ ']' :: rest
    obtain ⟨next, hnext⟩ := hread v (by simp) (',' :: (u.compact.toList ++ behind))
      (by simp [EndsNumber]) offset
    obtain ⟨after, hafter⟩ := ih (fun w hw => hread w (List.mem_cons_of_mem _ hw))
      (fun w hw => hvalues w (List.mem_cons_of_mem _ hw)) (v :: done) (next + 1) n
      (by simpa using hn)
    refine ⟨after, ?_⟩
    rw [List.map_cons, afterCommas_cons, List.cons_append, List.append_assoc]
    rw [htext, List.cons_append] at hnext hafter ⊢
    rw [itemsFrom_next hnext hspace hend, hafter]
    simp

end

/-! ### Objects -/

/-- A member as it is written. -/
def compactMember (m : String × Json) : String := literal m.1 ++ ":" ++ compact m.2

lemma compactMembers_eq (members : List (String × Json)) :
    compactMembers members = members.map compactMember := by
  induction members with
  | nil => rfl
  | cons m ms ih => rw [compactMembers, ih, List.map_cons, compactMember]

lemma toList_compactMember (m : String × Json) :
    (compactMember m).toList = (literal m.1).toList ++ ':' :: m.2.compact.toList := by
  simp [compactMember]

lemma exists_toList_compactMember (m : String × Json) :
    ∃ xs, (compactMember m).toList = '"' :: xs :=
  ⟨_, by rw [toList_compactMember, toList_literal, List.cons_append]⟩

lemma toList_compact_object_nil : (compact (.object [])).toList = ['\x7b', '\x7d'] := by
  simp [compact, compactMembers]

lemma toList_compact_object_cons (m : String × Json) (ms : List (String × Json)) :
    (compact (.object (m :: ms))).toList = '\x7b' :: ((compactMember m).toList ++
      (afterCommas (ms.map fun e => (compactMember e).toList) ++ ['\x7d'])) := by
  have hmembers := intercalate_comma (compactMember m).toList
    (ms.map fun e => (compactMember e).toList)
  simp only [compact, compactMembers_eq, String.toList_append, String.toList_intercalate,
    List.map_map, List.map_cons, Function.comp_def]
  rw [show ",".toList = [','] from rfl, hmembers, show "\x7b".toList = ['\x7b'] from rfl,
    show "\x7d".toList = ['\x7d'] from rfl, List.append_assoc, List.append_assoc,
    List.singleton_append]

/-- A sorted list of members is kept as it is. -/
lemma sorted_of_sorted {members : List (String × Json)} (h : Keyed.Sorted members) :
    sorted members = .object members :=
  congrArg (fun t : Table Json => Json.object t.entries)
    (Table.ofList_of_perm (t := ⟨members, h⟩) (.refl _))

section

variable {item : Cursor → Reading (Json × Cursor)} {c : Cursor} {name : String} {cs : List Char}
  {v : Json} {n after : ℕ}

lemma membersFrom_last
    (hname : stringAfterQuote c.advance = .ok (name, ⟨':' :: cs, offset, rounds⟩))
    (h : item ⟨cs, offset + 1, rounds⟩ = .ok (v, ⟨'\x7d' :: rest, after, rounds⟩))
    (done : List (String × Json)) :
    membersFrom item (n + 1) done c =
      .ok (((name, v) :: done).reverse, ⟨rest, after + 1, rounds⟩) := by
  have hcolon : colon ⟨':' :: cs, offset, rounds⟩ = .ok ⟨cs, offset + 1, rounds⟩ := rfl
  rw [membersFrom, hname]
  simp only [bind, Except.bind, hcolon, h]
  rfl

lemma membersFrom_next
    (hname : stringAfterQuote c.advance = .ok (name, ⟨':' :: cs, offset, rounds⟩))
    (h : item ⟨cs, offset + 1, rounds⟩ = .ok (v, ⟨',' :: '"' :: rest, after, rounds⟩))
    (done : List (String × Json)) :
    membersFrom item (n + 1) done c =
      membersFrom item n ((name, v) :: done) ⟨'"' :: rest, after + 1, rounds⟩ := by
  have hcolon : colon ⟨':' :: cs, offset, rounds⟩ = .ok ⟨cs, offset + 1, rounds⟩ := rfl
  rw [membersFrom, hname]
  simp only [bind, Except.bind, hcolon, h]
  rfl

/-- The members of an object are read one after the other. -/
lemma membersFrom_compact {m : String × Json} {ms : List (String × Json)}
    (hname : ∀ e ∈ m :: ms, e.1.length < rounds)
    (hread : ∀ e ∈ m :: ms, ReadAs item rounds e.2.compact.toList e.2) (hn : ms.length < n)
    (done : List (String × Json)) (rest : List Char) (offset : ℕ) : ∃ after, membersFrom item n done
        ⟨(compactMember m).toList ++
          (afterCommas (ms.map fun e => (compactMember e).toList) ++ '\x7d' :: rest), offset,
          rounds⟩ =
      .ok (done.reverse ++ m :: ms, ⟨rest, after, rounds⟩) := by
  obtain ⟨n, rfl⟩ := Nat.exists_eq_succ_of_ne_zero (by omega : n ≠ 0)
  induction ms generalizing m n done offset with
  | nil =>
    obtain ⟨next, hnext⟩ := stringAfterQuote_literal (hname m (by simp))
      (':' :: (m.2.compact.toList ++ '\x7d' :: rest)) offset
    obtain ⟨last, hlast⟩ := hread m (by simp) ('\x7d' :: rest) (by simp [EndsNumber]) (next + 1)
    refine ⟨last + 1, ?_⟩
    rw [toList_compactMember, List.map_nil, afterCommas, List.flatMap_nil, List.nil_append,
      List.append_assoc, List.cons_append, membersFrom_last hnext hlast]
    simp
  | cons e es ih =>
    obtain ⟨n, rfl⟩ := Nat.exists_eq_succ_of_ne_zero (by simp at hn; omega : n ≠ 0)
    obtain ⟨xs, hxs⟩ := exists_toList_compactMember e
    let behind := afterCommas (es.map fun e => (compactMember e).toList) ++ '\x7d' :: rest
    obtain ⟨next, hnext⟩ := stringAfterQuote_literal (hname m (by simp))
      (':' :: (m.2.compact.toList ++ ',' :: ((compactMember e).toList ++ behind))) offset
    obtain ⟨last, hlast⟩ := hread m (by simp) (',' :: ((compactMember e).toList ++ behind))
      (by simp [EndsNumber]) (next + 1)
    obtain ⟨after, hafter⟩ := ih (fun e' he' => hname e' (List.mem_cons_of_mem _ he'))
      (fun e' he' => hread e' (List.mem_cons_of_mem _ he')) (m :: done) (last + 1) n
      (by simpa using hn)
    refine ⟨after, ?_⟩
    rw [List.map_cons, afterCommas_cons, List.cons_append, List.append_assoc]
    rw [hxs, List.cons_append] at hnext hlast hafter ⊢
    rw [toList_compactMember, List.append_assoc, List.cons_append, membersFrom_next hnext hlast,
      hafter]
    simp

end

/-! ### Values -/

/-- What begins with a sign or a digit is read as a number. -/
lemma valueWithin_number {x : Char} {xs : List Char} (hx : x = '-' ∨ x.isDigit = true) :
    valueWithin depth ⟨x :: xs, offset, rounds⟩ =
      number? ⟨x :: xs, offset, rounds⟩ >>= fun r => .ok (.number r.1, r.2) := by
  have hne : ∀ y : Char, y ≠ '-' → y.isDigit = false → x ≠ y := by
    rintro y hsign hdigit rfl
    exact hx.elim hsign fun h => Bool.false_ne_true (hdigit.symm.trans h)
  have hspace : Cursor.isSpace x = false := by
    rcases hx with rfl | hx
    · rfl
    · exact isSpace_of_isDigit hx
  cases depth
  all_goals
    rw [valueWithin.eq_def, skipSpace_of_begins hspace]
    dsimp only
    split
    case h_1 hxs => cases hxs
    case h_8 y ys _ _ _ _ _ _ hxs =>
      obtain rfl : x = y := (List.cons.inj hxs).1
      rw [if_pos (by simpa using hx)]
      rfl
    all_goals exact absurd (List.cons.inj ‹_›).1 (hne _ (by decide) rfl)

lemma valueWithin_text (cs : List Char) :
    valueWithin depth ⟨'"' :: cs, offset, rounds⟩ =
      stringAfterQuote (⟨'"' :: cs, offset, rounds⟩ : Cursor).advance >>=
        fun r => .ok (.text r.1, r.2) := by
  rw [valueWithin.eq_def]
  rfl

lemma valueWithin_list (cs : List Char) :
    valueWithin (depth + 1) ⟨'[' :: cs, offset, rounds⟩ =
      listAfterBracket (valueWithin depth) ⟨cs, offset + 1, rounds⟩ >>=
        fun r => .ok (.list r.1, r.2) := by
  rw [valueWithin.eq_def]
  rfl

lemma valueWithin_object (cs : List Char) :
    valueWithin (depth + 1) ⟨'\x7b' :: cs, offset, rounds⟩ =
      objectAfterBrace (valueWithin depth) ⟨cs, offset + 1, rounds⟩ >>=
        fun r => .ok (sorted r.1, r.2) := by
  rw [valueWithin.eq_def]
  rfl

lemma objectAfterBrace_quote (item : Cursor → Reading (Json × Cursor)) (cs : List Char) :
    objectAfterBrace item ⟨'"' :: cs, offset, rounds⟩ =
      membersFrom item rounds [] ⟨'"' :: cs, offset, rounds⟩ := rfl

/-- A word is read as the value that it stands for. -/
lemma readAs_word {l : Char} {ls : List Char} {v : Json}
    (h : ∀ cs offset, valueWithin depth ⟨l :: cs, offset, rounds⟩ =
      word ls ⟨cs, offset + 1, rounds⟩ >>= fun c => .ok (v, c)) :
    ReadAs (valueWithin depth) rounds (l :: ls) v := by
  intro rest _ offset
  obtain ⟨after, hafter⟩ := word_append ls rest (offset + 1) rounds
  exact ⟨after, by rw [List.cons_append, h, hafter]; rfl⟩

lemma readAs_list {items : List Json} (h : ∀ v ∈ items, Readable depth v)
    (hread : ∀ v ∈ items, v.compact.toList.length < rounds →
      ReadAs (valueWithin depth) rounds v.compact.toList v)
    (hrounds : (compact (.list items)).toList.length < rounds) :
    ReadAs (valueWithin (depth + 1)) rounds (compact (.list items)).toList (.list items) := by
  intro rest _ offset
  rcases items with _ | ⟨v, vs⟩
  · exact ⟨offset + 1 + 1,
      by rw [toList_compact_list_nil, List.cons_append, valueWithin_list]; rfl⟩
  · rw [toList_compact_list_cons] at hrounds ⊢
    have hitems := length_le_afterCommas (vs.map (·.compact.toList))
    simp only [List.length_cons, List.length_append, List.length_map] at hrounds hitems
    have hlength : ∀ u ∈ v :: vs, u.compact.toList.length < rounds := by
      intro u hu
      rcases List.mem_cons.mp hu with rfl | hu
      · omega
      · have := length_lt_afterCommas (List.mem_map_of_mem (f := (·.compact.toList)) hu)
        omega
    obtain ⟨after, hafter⟩ := itemsFrom_compact (fun u hu => hread u hu (hlength u hu)) h
      (by omega : vs.length < rounds) [] rest (offset + 1)
    obtain ⟨x, xs, htext, hspace, hend⟩ := (h v (by simp)).begins
    refine ⟨after, ?_⟩
    rw [htext, List.cons_append] at hafter ⊢
    rw [List.cons_append, List.cons_append, valueWithin_list,
      listAfterBracket_of_begins hspace hend, List.append_assoc, List.append_assoc,
      List.singleton_append, hafter]
    rfl

lemma readAs_object {members : List (String × Json)} (hsorted : Keyed.Sorted members)
    (hread : ∀ m ∈ members, m.2.compact.toList.length < rounds →
      ReadAs (valueWithin depth) rounds m.2.compact.toList m.2)
    (hrounds : (compact (.object members)).toList.length < rounds) :
    ReadAs (valueWithin (depth + 1)) rounds (compact (.object members)).toList
      (.object members) := by
  intro rest _ offset
  rcases members with _ | ⟨m, ms⟩
  · exact ⟨offset + 1 + 1,
      by rw [toList_compact_object_nil, List.cons_append, valueWithin_object]; rfl⟩
  · rw [toList_compact_object_cons] at hrounds ⊢
    have hmembers := length_le_afterCommas (ms.map fun e => (compactMember e).toList)
    simp only [List.length_cons, List.length_append, List.length_map] at hrounds hmembers
    have hlength : ∀ e ∈ m :: ms,
        (literal e.1).toList.length + e.2.compact.toList.length < rounds := by
      intro e he
      have hmember : (compactMember e).toList.length < rounds := by
        rcases List.mem_cons.mp he with rfl | he
        · omega
        · have := length_lt_afterCommas
            (List.mem_map_of_mem (f := fun e => (compactMember e).toList) he)
          omega
      rw [toList_compactMember, List.length_append, List.length_cons] at hmember
      omega
    have hname : ∀ e ∈ m :: ms, e.1.length < rounds := fun e he =>
      (length_lt_literal e.1).trans (Nat.lt_of_le_of_lt (Nat.le_add_right _ _) (hlength e he))
    obtain ⟨after, hafter⟩ := membersFrom_compact hname
      (fun e he => hread e he (Nat.lt_of_le_of_lt (Nat.le_add_left _ _) (hlength e he)))
      (by omega : ms.length < rounds) [] rest (offset + 1)
    obtain ⟨xs, hxs⟩ := exists_toList_compactMember m
    refine ⟨after, ?_⟩
    rw [hxs, List.cons_append] at hafter ⊢
    rw [List.cons_append, List.cons_append, valueWithin_object, objectAfterBrace_quote,
      List.append_assoc, List.append_assoc, List.singleton_append, hafter]
    exact congrArg (fun v => Except.ok (v, _)) (sorted_of_sorted hsorted)

/-- A value is read where its text stands. -/
lemma readAs_compact {v : Json} (h : Readable depth v)
    (hrounds : v.compact.toList.length < rounds) :
    ReadAs (valueWithin depth) rounds v.compact.toList v := by
  induction h with
  | null => exact readAs_word fun cs offset => by rw [valueWithin.eq_def]; rfl
  | bool b =>
    cases b with
    | false => exact readAs_word fun cs offset => by rw [valueWithin.eq_def]; rfl
    | true => exact readAs_word fun cs offset => by rw [valueWithin.eq_def]; rfl
  | @number depth n hn =>
    intro rest hrest offset
    obtain ⟨x, xs, htext, hx⟩ := hn.begins
    obtain ⟨after, hafter⟩ := hn rest hrest offset rounds
    refine ⟨after, ?_⟩
    rw [compact, htext, List.cons_append, valueWithin_number hx, ← List.cons_append, ← htext,
      hafter]
    rfl
  | text s =>
    intro rest _ offset
    obtain ⟨after, hafter⟩ :=
      stringAfterQuote_literal ((length_lt_literal s).trans hrounds) rest offset
    refine ⟨after, ?_⟩
    rw [toList_literal, List.cons_append] at hafter
    rw [compact, toList_literal, List.cons_append, valueWithin_text, hafter]
    rfl
  | list h ih => exact readAs_list h ih hrounds
  | object hsorted h ih => exact readAs_object hsorted ih hrounds

/-- **What is written can be read again.** -/
theorem read_compact {v : Json} (h : Readable nestingLimit v) : read v.compact = .ok v := by
  obtain ⟨after, hafter⟩ := readAs_compact h (Nat.lt_succ_self _) [] (by simp [EndsNumber]) 0
  rw [List.append_nil] at hafter
  rw [read, Cursor.ofText]
  dsimp only
  rw [hafter]
  rfl

/-- A text that is written stands for one value only. -/
theorem compact_injective {v w : Json} (hv : Readable nestingLimit v) (hw : Readable nestingLimit w)
    (h : v.compact = w.compact) : v = w := by
  have hread := read_compact hv
  rw [h, read_compact hw] at hread
  exact (Except.ok.inj hread).symm

end BlockVocabulary.Json
