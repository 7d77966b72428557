import BlockVocabulary.Proofs.Refusals
import BlockVocabulary.Proofs.RowGrammar

/-!
Line ends.

A text is cut at its line feeds, so it may as well be read in two parts, the second of which begins
with a line feed. A carriage return in front of a line feed belongs to the line end and not to the
line, so a text is read alike with either kind of line end.
-/

namespace BlockVocabulary

namespace Text

/-- What stands for a character where a carriage return precedes every line feed. -/
def withReturn (c : Char) : List Char := if c = '\n' then ['\r', '\n'] else [c]

/-- The text with a carriage return put in front of every line feed. -/
def withReturns (content : String) : String := String.ofList (content.toList.flatMap withReturn)

/-- No piece between line feeds ends in a carriage return. -/
def IsPlain (content : String) : Prop :=
  ∀ piece ∈ content.toList.splitOn '\n', piece.getLast? ≠ some '\r'

instance (content : String) : Decidable (IsPlain content) := List.decidableBAll _ _

/-! ### Pieces of a text -/

lemma splitOn_append_feed (upper lower : List Char) :
    (upper ++ '\n' :: lower).splitOn '\n' = upper.splitOn '\n' ++ lower.splitOn '\n' := by
  rw [List.splitOn_eq_splitOnP, List.splitOn_eq_splitOnP, List.splitOn_eq_splitOnP]
  exact List.splitOnP_append_cons upper lower rfl

lemma splitOn_of_not_mem {line : List Char} (h : '\n' ∉ line) : line.splitOn '\n' = [line] := by
  rw [List.splitOn_eq_splitOnP]
  refine List.splitOnP_eq_singleton fun c hc => ?_
  simpa using ne_of_mem_of_not_mem hc h

lemma flatMap_withReturn_of_not_mem {line : List Char} (h : '\n' ∉ line) :
    line.flatMap withReturn = line := by
  induction line with
  | nil => rfl
  | cons c cs ih =>
    obtain ⟨hc, hcs⟩ := List.ne_and_not_mem_of_not_mem_cons h
    rw [List.flatMap_cons, ih hcs, withReturn, if_neg (Ne.symm hc), List.singleton_append]

/-- A carriage return in front of every line feed goes with the line ends. -/
lemma map_dropReturn_splitOn {lines : List (List Char)} (hne : lines ≠ [])
    (hfeed : ∀ line ∈ lines, '\n' ∉ line) (hplain : ∀ line ∈ lines, line.getLast? ≠ some '\r') :
    ((['\n'].intercalate lines).flatMap withReturn |>.splitOn '\n').map dropReturn = lines := by
  induction lines with
  | nil => exact absurd rfl hne
  | cons line lines ih =>
    obtain ⟨hline, hlines⟩ := List.forall_mem_cons.mp hfeed
    obtain ⟨hlast, hlasts⟩ := List.forall_mem_cons.mp hplain
    rcases lines with _ | ⟨next, lines⟩
    · -- the last line has no line end
      rw [List.intercalate_singleton, flatMap_withReturn_of_not_mem hline,
        splitOn_of_not_mem hline, List.map_singleton, dropReturn_of_ne hlast]
    · have hreturn : '\n' ∉ line ++ ['\r'] := by simp [hline]
      have hmarked : (['\n'].intercalate (line :: next :: lines)).flatMap withReturn =
          (line ++ ['\r']) ++ '\n' :: (['\n'].intercalate (next :: lines)).flatMap withReturn := by
        rw [List.intercalate_cons_cons, List.flatMap_append, List.flatMap_append,
          flatMap_withReturn_of_not_mem hline]
        simp [withReturn]
      rw [hmarked, splitOn_append_feed, splitOn_of_not_mem hreturn, List.map_append,
        List.map_singleton, dropReturn_return, ih (List.cons_ne_nil _ _) hlines hlasts,
        List.singleton_append]

/-! ### Lines of a text -/

lemma segments_eq (content : String) :
    segments content = ((content.toList.splitOn '\n').map dropReturn).map String.ofList := by
  rw [segments, splitAtFeeds_eq_splitOn, List.map_map]
  rfl

/-- The lines on both sides of a line feed are the lines of the two parts. -/
lemma segments_append_feed (upper lower : String) :
    segments (upper ++ "\n" ++ lower) = segments upper ++ segments lower := by
  have hcut : (upper ++ "\n" ++ lower).toList = upper.toList ++ '\n' :: lower.toList := by
    simp [String.toList_append]
  rw [segments_eq, segments_eq, segments_eq, hcut, splitOn_append_feed, List.map_append,
    List.map_append]

/-- **Either kind of line end gives the same lines.** -/
lemma segments_withReturns {content : String} (h : IsPlain content) :
    segments (withReturns content) = segments content := by
  have hfeed : ∀ line ∈ content.toList.splitOn '\n', '\n' ∉ line := fun line hline =>
    not_mem_of_mem_splitAtFeeds (splitAtFeeds_eq_splitOn _ ▸ hline)
  have hmarked := map_dropReturn_splitOn (List.splitOn_ne_nil _ _) hfeed h
  rw [List.intercalate_splitOn] at hmarked
  have hplain : (content.toList.splitOn '\n').map dropReturn = content.toList.splitOn '\n' :=
    calc (content.toList.splitOn '\n').map dropReturn
      _ = (content.toList.splitOn '\n').map id :=
        List.map_congr_left fun line hline => dropReturn_of_ne (h line hline)
      _ = content.toList.splitOn '\n' := List.map_id _
  rw [segments_eq, segments_eq, withReturns, String.toList_ofList, hmarked, hplain]

end Text

/-- The field with a carriage return put in front of every line feed of a text. -/
def Field.withReturns : Field → Field
  | .text content => .text (Text.withReturns content)
  | f => f

namespace LayoutState

/-- Every line after the first stands on a row of its own. -/
lemma text_eq_foldl {content first : String} {further : List String}
    (h : Text.segments content = first :: further) (s : LayoutState) :
    s.text content = further.foldl (fun s line => (s.begin Row.dummy).label line) (s.label first) := by
  rw [text, h]

/-- An empty line leaves the open row as it is. -/
lemma label_empty {s : LayoutState} (h : s.current.isSome) : s.label "" = s := by
  obtain ⟨committed, current, connections, skipped⟩ := s
  obtain ⟨r, rfl⟩ := Option.isSome_iff_exists.mp h
  rfl

/-- A text may be read in two parts, the second of which begins with a line feed. -/
lemma text_append_feed (s : LayoutState) (upper lower : String) :
    s.text (upper ++ "\n" ++ lower) = (s.text upper).text ("\n" ++ lower) := by
  have hwhole := Text.segments_append_feed upper lower
  have hempty : Text.segments "" = [""] := rfl
  have hlower : Text.segments ("\n" ++ lower) = "" :: Text.segments lower := by
    simpa [hempty] using Text.segments_append_feed "" lower
  rcases hupper : Text.segments upper with _ | ⟨first, further⟩
  · exact absurd hupper (Text.segments_ne_nil upper)
  · rw [hupper, List.cons_append] at hwhole
    rw [text_eq_foldl hwhole, text_eq_foldl hlower, label_empty (isSome_text s upper),
      text_eq_foldl hupper, List.foldl_append]

lemma text_withReturns {content : String} (h : Text.IsPlain content) (s : LayoutState) :
    s.text (Text.withReturns content) = s.text content := by
  rw [text, text, Text.segments_withReturns h]

/-- What is read alike field by field is laid out alike. -/
lemma feedAll_map {policy : UnknownFieldPolicy} {φ : Field → Field} {fs : List Field}
    (h : ∀ f ∈ fs, ∀ (s : LayoutState) (index : ℕ),
      s.feed policy index (φ f) = s.feed policy index f) (s : LayoutState) (index : ℕ) :
    s.feedAll policy index (fs.map φ) = s.feedAll policy index fs := by
  induction fs generalizing s index with
  | nil => rfl
  | cons f fs ih =>
    obtain ⟨hf, hfs⟩ := List.forall_mem_cons.mp h
    rw [List.map_cons, feedAll, feedAll, hf]
    exact congrArg (s.feed policy index f >>= ·) (funext fun t => ih hfs t (index + 1))

end LayoutState

/-- Reading a text never fails. -/
lemma LayoutPass.run_feed_text (policy : UnknownFieldPolicy) (index : ℕ) (content : String)
    (s : LayoutState) : (feed policy index (.text content)).run s = .ok () (s.text content) :=
  run_text content s

/-- **A text can be cut at any line feed, and either kind of line end can be used.** In whatever
state the pass is, it ends alike after a text with a line feed in it and after the two parts of the
text, the second of which begins with the line feed; and it ends alike after a text no piece of
which ends in a carriage return and after the same text with a carriage return in front of every
line feed. So a template with such texts has the same layout with either kind of line end. -/
theorem text_lineEnds (policy : UnknownFieldPolicy) (s : LayoutState) (i j : ℕ) :
    (∀ upper lower : String, ∃ t,
      (LayoutPass.feed policy i (.text (upper ++ "\n" ++ lower))).run s = .ok () t ∧
      (do LayoutPass.feed policy i (.text upper)
          LayoutPass.feed policy j (.text ("\n" ++ lower)) : LayoutPass Unit).run s = .ok () t) ∧
    (∀ content : String, Text.IsPlain content → ∃ t,
      (LayoutPass.feed policy i (.text content)).run s = .ok () t ∧
      (LayoutPass.feed policy i (.text (Text.withReturns content))).run s = .ok () t) ∧
    ∀ (o : LayoutOptions) (template : List Field),
      (∀ content, .text content ∈ template → Text.IsPlain content) →
      layOut o (template.map Field.withReturns) = layOut o template := by
  refine ⟨fun upper lower => ⟨_, LayoutPass.run_feed_text policy i _ s, ?_⟩,
    fun content hplain => ⟨_, LayoutPass.run_feed_text policy i content s, ?_⟩,
    fun o template hplain => ?_⟩
  · rw [LayoutState.text_append_feed, run_bind (LayoutPass.run_feed_text policy i upper s)]
    exact LayoutPass.run_feed_text policy j _ _
  · rw [LayoutPass.run_feed_text, LayoutState.text_withReturns hplain]
  · have hfeed : ∀ f ∈ template, ∀ (s : LayoutState) (index : ℕ),
        s.feed o.unknownFields index f.withReturns = s.feed o.unknownFields index f := by
      intro f hf s index
      cases f with
      | text content =>
        exact congrArg Except.ok (LayoutState.text_withReturns (hplain content hf) s)
      | _ => rfl
    rw [layOut, layOut, LayoutState.feedAll_map hfeed]

/-- A place for statements is open, and the text has an empty line and ends in a line feed. -/
theorem text_lineEnds_statement :
    let s : LayoutState := { current := some ⟨.statement "DO" none, []⟩, connections := ["DO"] }
    let content := "then\n\nnext\n"
    Text.IsPlain content ∧ Text.withReturns content = "then\r\n\r\nnext\r\n" ∧
    (∃ t, (LayoutPass.feed .failFast 1 (.text content)).run s = .ok () t ∧
      (LayoutPass.feed .failFast 1 (.text "then\r\n\r\nnext\r\n")).run s = .ok () t) ∧
    layOut {} [.connection { tag := some "void", name := "DO" }, .text "then\r\n\r\nnext\r\n"] =
      layOut {} [.connection { tag := some "void", name := "DO" }, .text content] := by
  intro s content
  have hplain : Text.IsPlain content := by decide
  have hmarked : Text.withReturns content = "then\r\n\r\nnext\r\n" := by decide
  obtain ⟨-, hreturns, hlayout⟩ := text_lineEnds .failFast s 1 2
  refine ⟨hplain, hmarked, hmarked ▸ hreturns content hplain, ?_⟩
  have htemplate := hlayout {} [.connection { tag := some "void", name := "DO" }, .text content]
    fun other hother => by
      obtain rfl : other = content := by simpa using hother
      exact hplain
  rw [← htemplate, ← hmarked]
  rfl

end BlockVocabulary
