import BlockVocabulary.Generator
import Mathlib.Data.List.Infix
import Mathlib.Data.List.TakeWhile
import Mathlib.Tactic.Common

/-!
The pieces of a template.

A template is read as a sequence of pieces, each a literal text or a slot. They are those of the
template alone, so what a block puts into one slot has no part in how the rest is read. Every
sequence of pieces can be written as a template, and is read again from it.
-/

namespace BlockVocabulary

inductive Piece where
  | literal (text : String)
  | slot (name : Identifier)
  deriving DecidableEq

namespace Piece

/-- What a piece becomes in the code of a block. -/
def code (b : Block) : Piece → String
  | literal text => text
  | slot name =>
    match b.fieldValue name.text, b.inputCode name.text with
    | some value, _ => value
    | none, some code => code
    | none, none => ""

/-- How a character is written. -/
def doubled (c : Char) : List Char := if c = '\x7b' ∨ c = '\x7d' then [c, c] else [c]

/-- A text with its braces doubled. -/
def escape (text : String) : String := String.ofList (text.toList.flatMap doubled)

/-- A piece as it stands in a template. -/
def written : Piece → String
  | literal text => escape text
  | slot name => "\x7b" ++ name.text ++ "\x7d"

/-- The pieces of a template, literal text character by character. -/
def read : List Char → List Piece
  | [] => []
  | '\x7b' :: '\x7b' :: rest => literal "\x7b" :: read rest
  | '\x7d' :: '\x7d' :: rest => literal "\x7d" :: read rest
  | '\x7b' :: rest =>
    match Identifier.closed? rest with
    | some name => slot name :: read (rest.drop (name.chars.length + 1))
    | none => literal "\x7b" :: read rest
  | c :: rest => literal (String.singleton c) :: read rest
termination_by cs => cs.length
decreasing_by all_goals (simp only [List.length_cons, List.length_drop]; omega)

lemma code_slot (b : Block) (name : Identifier) : (slot name).code b = b.codeOf name.text := by
  simp only [code, Block.codeOf]
  rcases b.fieldValue name.text <;> rcases b.inputCode name.text <;> rfl

end Piece

namespace Identifier

lemma of_mem_chars {n : Identifier} {c : Char} (h : c ∈ n.chars) :
    (c.isAlphanum || c = '_') = true := by
  obtain ⟨chars, hn⟩ := n
  rcases chars with _ | ⟨first, others⟩
  · cases h
  · rw [BlockVocabulary.isIdentifier, Bool.and_eq_true] at hn
    obtain ⟨hfirst, hothers⟩ := hn
    rcases List.mem_cons.mp h with rfl | h
    · rcases Bool.or_eq_true _ _ |>.mp hfirst with hc | hc
      · simp [Char.isAlphanum, hc]
      · simp [hc]
    · exact List.all_eq_true.mp hothers c h

lemma opening_not_mem (n : Identifier) : '\x7b' ∉ n.chars := fun h =>
  absurd (of_mem_chars h) (by decide)

lemma closing_not_mem (n : Identifier) : '\x7d' ∉ n.chars := fun h =>
  absurd (of_mem_chars h) (by decide)

lemma chars_ne_nil (n : Identifier) : n.chars ≠ [] := by
  intro h
  have hn := n.isIdentifier
  rw [h] at hn
  cases hn

lemma ofChars?_eq_some_iff {cs : List Char} {n : Identifier} : ofChars? cs = some n ↔ n.chars = cs := by
  unfold ofChars?
  constructor
  · intro h
    split at h
    · obtain rfl := Option.some.inj h
      rfl
    · cases h
  · rintro rfl
    exact dif_pos n.isIdentifier

/-- **Only the brace right behind an identifier closes it.** -/
lemma closed?_eq_some_iff {cs : List Char} {n : Identifier} :
    closed? cs = some n ↔ ∃ rest, cs = n.chars ++ '\x7d' :: rest := by
  constructor
  · intro h
    unfold closed? at h
    split at h
    · next hmem =>
      have hname := ofChars?_eq_some_iff.mp h
      have hcut := List.takeWhile_append_dropWhile (p := (· ≠ '\x7d')) (l := cs)
      have hstop := List.head?_dropWhile_not (· ≠ '\x7d') cs
      rcases hdrop : cs.dropWhile (· ≠ '\x7d') with _ | ⟨c, rest⟩
      · have hnone := List.dropWhile_eq_nil_iff.mp hdrop '\x7d' hmem
        simp at hnone
      · rw [hdrop] at hcut hstop
        obtain rfl : c = '\x7d' := by simpa using hstop
        exact ⟨rest, hname ▸ hcut.symm⟩
    · cases h
  · rintro ⟨rest, rfl⟩
    have htake : (n.chars ++ '\x7d' :: rest).takeWhile (· ≠ '\x7d') = n.chars := by
      rw [List.takeWhile_append_of_pos fun c hc => by
        simpa using ne_of_mem_of_not_mem hc n.closing_not_mem]
      simp
    rw [closed?, if_pos (by simp), htake]
    exact ofChars?_eq_some_iff.mpr rfl

/-- The name stands between braces somewhere in a text. -/
def OccursIn (n : Identifier) (cs : List Char) : Prop := '\x7b' :: n.chars ++ ['\x7d'] <:+: cs

lemma OccursIn.cons {n : Identifier} {cs : List Char} (c : Char) (h : n.OccursIn cs) :
    n.OccursIn (c :: cs) := List.infix_cons h

end Identifier

namespace Piece

/-! ### Reading -/

/-- A template is read on behind the brace that closes a slot. -/
lemma read_slot (n : Identifier) (rest : List Char) :
    read ('\x7b' :: (n.chars ++ '\x7d' :: rest)) = slot n :: read rest := by
  have hclosed : Identifier.closed? (n.chars ++ '\x7d' :: rest) = some n :=
    Identifier.closed?_eq_some_iff.mpr ⟨rest, rfl⟩
  have hdrop : (n.chars ++ '\x7d' :: rest).drop (n.chars.length + 1) = rest := by
    rw [List.append_cons, List.drop_left' (by simp)]
  have hopen : ∀ more, n.chars ++ '\x7d' :: rest = '\x7b' :: more → False := by
    intro more h
    rcases hchars : n.chars with _ | ⟨c, cs⟩
    · exact n.chars_ne_nil hchars
    · rw [hchars, List.cons_append, List.cons_eq_cons] at h
      exact n.opening_not_mem (by simp [hchars, h.1])
  rw [read.eq_4 _ hopen, hclosed]
  simp only [hdrop]

/-- A doubled brace is one brace, and any other character is itself. -/
lemma read_doubled (c : Char) (rest : List Char) :
    read (doubled c ++ rest) = literal (String.singleton c) :: read rest := by
  unfold doubled
  by_cases hopen : c = '\x7b'
  · subst hopen
    exact read.eq_2 rest
  · by_cases hclose : c = '\x7d'
    · subst hclose
      exact read.eq_3 rest
    · rw [if_neg (by simp [hopen, hclose])]
      exact read.eq_5 c rest (fun _ h _ => hopen h) (fun _ h _ => hclose h) hopen

/-- A piece with literal text cut into its characters. -/
def cut : Piece → List Piece
  | literal text => text.toList.map fun c => literal (String.singleton c)
  | slot name => [slot name]

lemma read_escape (cs rest : List Char) :
    read (cs.flatMap doubled ++ rest) =
      cs.map (fun c => literal (String.singleton c)) ++ read rest := by
  induction cs with
  | nil => rfl
  | cons c cs ih => rw [List.flatMap_cons, List.append_assoc, read_doubled, ih]; rfl

/-- **Reading resumes where the next piece begins.** -/
lemma read_written (p : Piece) (rest : List Char) :
    read (p.written.toList ++ rest) = p.cut ++ read rest := by
  cases p with
  | literal text =>
    rw [written, escape, String.toList_ofList]
    exact read_escape text.toList rest
  | slot name =>
    have htext : ("\x7b" ++ name.text ++ "\x7d").toList = '\x7b' :: (name.chars ++ ['\x7d']) := by
      simp [Identifier.text]
    rw [written, htext, List.cons_append, List.append_assoc]
    exact read_slot name rest

lemma read_join_written (pieces : List Piece) :
    read (String.join (pieces.map written)).toList = pieces.flatMap cut := by
  induction pieces with
  | nil => rw [List.map_nil, String.join_nil]; exact read.eq_1
  | cons p ps ih =>
    rw [List.map_cons, String.join_cons, String.toList_append, read_written, ih]
    rfl

/-- A name in a slot stands between braces in the template. -/
lemma occursIn_of_mem_read {cs : List Char} {n : Identifier} (h : slot n ∈ read cs) :
    n.OccursIn cs := by
  -- the cases of reading: the end, a doubled brace of either kind, a slot, an opening brace that
  -- opens none, and any other character
  induction cs using read.induct with
  | case1 => simp [read.eq_1] at h
  | case2 rest ih =>
    have hrest : slot n ∈ read rest := by simpa [read.eq_2] using h
    exact ((ih hrest).cons _).cons _
  | case3 rest ih =>
    have hrest : slot n ∈ read rest := by simpa [read.eq_3] using h
    exact ((ih hrest).cons _).cons _
  | case4 rest hopen name hclosed ih =>
    obtain ⟨after, rfl⟩ := Identifier.closed?_eq_some_iff.mp hclosed
    rw [read_slot, List.mem_cons] at h
    rw [List.append_cons, List.drop_left' (by simp)] at ih
    rcases h with h | h
    · obtain rfl := Piece.slot.inj h
      exact ⟨[], after, by simp⟩
    · have hafter : after <:+: name.chars ++ '\x7d' :: after :=
        List.append_cons name.chars '\x7d' after ▸ (List.suffix_append _ _).isInfix
      exact Identifier.OccursIn.cons _ ((ih h).trans hafter)
  | case5 rest hopen hclosed ih =>
    have hrest : slot n ∈ read rest := by simpa [read.eq_4 rest hopen, hclosed] using h
    exact (ih hrest).cons _
  | case6 c rest hopen hclose hsingle ih =>
    have hrest : slot n ∈ read rest := by simpa [read.eq_5 c rest hopen hclose hsingle] using h
    exact (ih hrest).cons _

/-! ### Writing -/

/-- A character that was written is a literal piece. -/
lemma push_append_code (b : Block) (written : String) (c : Char) (ps : List Piece) :
    written.push c ++ String.join (ps.map (code b)) =
      written ++ String.join ((literal (String.singleton c) :: ps).map (code b)) := by
  rw [String.push_eq_append, String.append_assoc, List.map_cons, String.join_cons]
  rfl

/-- **What a generator writes is the code of the pieces that are read.** -/
lemma write_eq (b : Block) (written : String) (cs : List Char) :
    Generator.write b written cs = written ++ String.join ((read cs).map (code b)) := by
  -- what is read next does not depend on `written`, which is general in the induction
  induction cs using read.induct generalizing written with
  | case1 => simp [read.eq_1, Generator.write.eq_1]
  | case2 rest ih =>
    rw [read.eq_2, Generator.write.eq_2, ih]
    exact push_append_code b written '\x7b' (read rest)
  | case3 rest ih =>
    rw [read.eq_3, Generator.write.eq_3, ih]
    exact push_append_code b written '\x7d' (read rest)
  | case4 rest hopen name hclosed ih =>
    rw [read.eq_4 rest hopen, Generator.write.eq_4 b written rest hopen, hclosed]
    simp only
    rw [ih, ← code_slot, String.append_assoc, List.map_cons, String.join_cons]
  | case5 rest hopen hclosed ih =>
    rw [read.eq_4 rest hopen, Generator.write.eq_4 b written rest hopen, hclosed]
    simp only
    rw [ih]
    exact push_append_code b written '\x7b' (read rest)
  | case6 c rest hopen hclose hsingle ih =>
    rw [read.eq_5 c rest hopen hclose hsingle,
      Generator.write.eq_5 b written c rest hopen hclose hsingle, ih]
    exact push_append_code b written c (read rest)

/-- Literal text cut into characters is the same code. -/
lemma join_code_cut (b : Block) (p : Piece) : String.join (p.cut.map (code b)) = p.code b := by
  rw [← String.toList_inj, String.toList_join]
  cases p with
  | literal text =>
    rw [cut, List.map_map, List.flatMap_map]
    simp [code]
  | slot name => simp [cut]

end Piece

/-- The pieces of a template. -/
def pieces (template : String) : List Piece := Piece.read template.toList

lemma generate_ofTemplate (template : String) (b : Block) :
    (Generator.ofTemplate template).generate b =
      String.join ((pieces template).map (Piece.code b)) := by
  have h := Piece.write_eq b "" template.toList
  rwa [String.empty_append] at h

/-- The pieces that are written are those that are read, but for literal text being cut. -/
lemma join_code_written (b : Block) (ps : List Piece) :
    String.join ((pieces (String.join (ps.map Piece.written))).map (Piece.code b)) =
      String.join (ps.map (Piece.code b)) := by
  rw [pieces, Piece.read_join_written]
  induction ps with
  | nil => rfl
  | cons p ps ih =>
    rw [List.flatMap_cons, List.map_append, String.join_append, Piece.join_code_cut, ih,
      List.map_cons, String.join_cons]

/-- **A template written from pieces gives the code of these pieces**, whatever stands side by side in
it. So a text written with its braces doubled is given back, and the code in a slot is copied as it
is. -/
theorem generate_written (b : Block) :
    (∀ ps : List Piece,
      (Generator.ofTemplate (String.join (ps.map Piece.written))).generate b =
        String.join (ps.map (Piece.code b))) ∧
    (∀ text : String, (Generator.ofTemplate (Piece.escape text)).generate b = text) ∧
    ∀ name : Identifier, (Generator.ofTemplate ("\x7b" ++ name.text ++ "\x7d")).generate b =
      ((b.fieldValue name.text).or (b.inputCode name.text)).getD "" := by
  have hpieces : ∀ ps : List Piece,
      (Generator.ofTemplate (String.join (ps.map Piece.written))).generate b =
        String.join (ps.map (Piece.code b)) := fun ps =>
    (generate_ofTemplate _ b).trans (join_code_written b ps)
  have hone : ∀ p : Piece, (Generator.ofTemplate p.written).generate b = p.code b := by
    intro p
    simpa using hpieces [p]
  exact ⟨hpieces, fun text => hone (.literal text), fun name =>
    (hone (.slot name)).trans (Piece.code_slot b name)⟩

/-! ### What a block contributes -/

lemma Identifier.text_injective {m n : Identifier} (h : m.text = n.text) : m = n := by
  obtain ⟨chars, hm⟩ := m
  obtain ⟨chars', hn⟩ := n
  obtain rfl : chars = chars' := String.ofList_injective h
  rfl

/-- Two blocks have the same under a name. -/
def Block.AgreeOn (b b' : Block) (name : String) : Prop :=
  b.fieldValue name = b'.fieldValue name ∧ b.inputCode name = b'.inputCode name

lemma Piece.code_congr {b b' : Block} {p : Piece} (h : ∀ n, p = slot n → b.AgreeOn b' n.text) :
    p.code b = p.code b' := by
  cases p with
  | literal text => rfl
  | slot n =>
    obtain ⟨hvalue, hcode⟩ := h n rfl
    rw [code_slot, code_slot, Block.codeOf, Block.codeOf, hvalue, hcode]

lemma intercalate_append_cons (sep front first : String) (others : List String) :
    sep.intercalate ((front ++ first) :: others) = front ++ sep.intercalate (first :: others) := by
  cases others with
  | nil => simp
  | cons next others => simp [String.intercalate_cons_cons, String.append_assoc]

/-- Between the slots of one name stand texts that what is put into these slots has no part in. -/
lemma exists_intercalate (b : Block) (name : Identifier) (ps : List Piece) :
    ∃ first others, ∀ b' : Block, (∀ n ≠ name.text, b.AgreeOn b' n) →
      String.join (ps.map (Piece.code b')) =
        (b'.codeOf name.text).intercalate (first :: others) := by
  induction ps with
  | nil => exact ⟨"", [], fun b' _ => by simp⟩
  | cons p ps ih =>
    obtain ⟨first, others, h⟩ := ih
    by_cases hp : p = .slot name
    · refine ⟨"", first :: others, fun b' hb => ?_⟩
      rw [List.map_cons, String.join_cons, h b' hb, hp, Piece.code_slot,
        String.intercalate_cons_cons, String.empty_append]
    · refine ⟨p.code b ++ first, others, fun b' hb => ?_⟩
      have hsame : p.code b = p.code b' := Piece.code_congr fun n hn =>
        hb n.text fun htext => hp (Identifier.text_injective htext ▸ hn)
      rw [List.map_cons, String.join_cons, h b' hb, intercalate_append_cons, hsame]

/-- **A block is read at the slots of a template and nowhere else.** The template alone decides what
its pieces are, and every slot among them is a name that stands between braces in it; the code of a
block is that of the pieces. So blocks that have the same under all such names have the same code, and
whatever a block puts into the slots of one name stands between texts that do not depend on it. -/
theorem generate_pieces (template : String) :
    (∀ name, .slot name ∈ pieces template → name.OccursIn template.toList) ∧
    (∀ b : Block, (Generator.ofTemplate template).generate b =
      String.join ((pieces template).map (Piece.code b))) ∧
    (∀ b b' : Block, (∀ name : Identifier, name.OccursIn template.toList → b.AgreeOn b' name.text) →
      (Generator.ofTemplate template).generate b = (Generator.ofTemplate template).generate b') ∧
    ∀ (b : Block) (name : Identifier), ∃ first others, ∀ b' : Block,
      (∀ n ≠ name.text, b.AgreeOn b' n) →
      (Generator.ofTemplate template).generate b' =
        (((b'.fieldValue name.text).or (b'.inputCode name.text)).getD "").intercalate
          (first :: others) := by
  have hoccurs : ∀ name, .slot name ∈ pieces template → name.OccursIn template.toList :=
    fun name => Piece.occursIn_of_mem_read
  refine ⟨hoccurs, generate_ofTemplate template, fun b b' hagree => ?_, fun b name => ?_⟩
  · have hcode : ∀ p ∈ pieces template, p.code b = p.code b' := by
      intro p hp
      refine Piece.code_congr fun n hn => hagree n (hoccurs n ?_)
      rwa [← hn]
    rw [generate_ofTemplate, generate_ofTemplate, List.map_congr_left hcode]
  · obtain ⟨first, others, h⟩ := exists_intercalate b name (pieces template)
    exact ⟨first, others, fun b' hb => (generate_ofTemplate template b').trans (h b' hb)⟩

/-- Braces that are doubled, closed, left open and left over. -/
def stray : String := "\x7b\x7b \x7bA\x7d \x7bB \x7bC\x7d \x7d"

/-- A block with a note under a name that the template does not close. -/
def noted (note : String) : Block where
  type := note
  fieldValue n := if n = "A" then some "\x7bC\x7d" else if n = "B" then some note else none
  inputCode n := if n = "C" then some "c" else none

theorem generate_pieces_stray :
    (∀ name : Identifier, name.OccursIn stray.toList → (noted "p").AgreeOn (noted "q") name.text) ∧
    (Generator.ofTemplate stray).generate (noted "p") =
      (Generator.ofTemplate stray).generate (noted "q") ∧
    (Generator.ofTemplate stray).generate (noted "p") = "\x7b \x7bC\x7d \x7bB c \x7d" := by
  have hagree : ∀ name : Identifier, name.OccursIn stray.toList →
      (noted "p").AgreeOn (noted "q") name.text := by
    intro name hoccurs
    have hname : name.text ≠ "B" := by
      intro htext
      have hchars : name.chars = ['B'] := String.ofList_injective htext
      rw [Identifier.OccursIn, hchars] at hoccurs
      exact absurd hoccurs (by decide)
    simp [Block.AgreeOn, noted, hname]
  obtain ⟨-, -, hcode, -⟩ := generate_pieces stray
  exact ⟨hagree, hcode _ _ hagree, by decide +kernel⟩

end BlockVocabulary
