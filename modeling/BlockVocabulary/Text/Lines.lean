/-!
Lines of a text. A text is cut at every line feed; a carriage return at the end of a piece belongs
to the line break, so both conventions for line ends give the same lines.
-/

namespace BlockVocabulary.Text

/-- The pieces between line feeds, at least one. -/
def splitAtFeeds : List Char → List (List Char)
  | [] => [[]]
  | c :: cs =>
    if c = '\n' then [] :: splitAtFeeds cs
    else match splitAtFeeds cs with
      | [] => [[c]]
      | piece :: pieces => (c :: piece) :: pieces

/-- Takes one carriage return off the end. -/
def dropReturn (cs : List Char) : List Char :=
  if cs.getLast? = some '\r' then cs.dropLast else cs

/-- The lines of a text, at least one. -/
def segments (s : String) : List String :=
  (splitAtFeeds s.toList).map fun piece => String.ofList (dropReturn piece)

theorem splitAtFeeds_ne_nil (cs : List Char) : splitAtFeeds cs ≠ [] := by
  cases cs with
  | nil => simp [splitAtFeeds]
  | cons c cs =>
    rw [splitAtFeeds]
    split
    · simp
    · split <;> simp

theorem segments_ne_nil (s : String) : segments s ≠ [] := by
  simp [segments, splitAtFeeds_ne_nil]

end BlockVocabulary.Text
