import BlockVocabulary.Proofs.LayoutContent

/-!
Template elements that are no known field.

The permissive policy leaves them out and notes where they stood, and the other one fails. A template
without such elements is laid out alike under both.
-/

namespace BlockVocabulary

/-- The element is a text, a widget or a connection. -/
def Field.isRecognized : Field → Bool
  | .unrecognized _ => false
  | _ => true

lemma Field.eq_unrecognized {f : Field} (hf : ¬f.isRecognized = true) : ∃ v, f = .unrecognized v := by
  cases f with
  | unrecognized v => exact ⟨v, rfl⟩
  | _ => exact absurd rfl hf

/-- The positions of the elements that are no known field, the first element standing at the given
position. -/
def unknownPositions (index : ℕ) (template : List Field) : List ℕ :=
  (template.zipIdx index).filterMap fun (f, i) => if f.isRecognized then none else some i

lemma unknownPositions_cons (index : ℕ) (f : Field) (fs : List Field) :
    unknownPositions index (f :: fs) =
      (if f.isRecognized then [] else [index]) ++ unknownPositions (index + 1) fs := by
  rcases hf : f.isRecognized <;> simp [unknownPositions, List.zipIdx_cons, hf]

lemma unknownPositions_eq_nil_iff (index : ℕ) (template : List Field) :
    unknownPositions index template = [] ↔ ∀ f ∈ template, f.isRecognized = true := by
  induction template generalizing index with
  | nil => simp [unknownPositions]
  | cons f fs ih =>
    rw [unknownPositions_cons, List.append_eq_nil_iff, ih, List.forall_mem_cons]
    rcases f.isRecognized <;> simp

namespace LayoutState

lemma skipped_text (s : LayoutState) (content : String) :
    (s.text content).skipped = s.skipped :=
  text_invariant (P := fun t => t.skipped = s.skipped) (fun _ => rfl) (fun _ _ ht => ht) content

lemma skipped_connection (s : LayoutState) (c : Connection) (t : ConnectionType) :
    (s.connection c t).skipped = s.skipped := by
  unfold connection
  split <;> rfl

/-- Only an element that is no known field is left out. -/
lemma skipped_feed {policy : UnknownFieldPolicy} {s t : LayoutState} {index : ℕ} {f : Field}
    (h : s.feed policy index f = .ok t) :
    t.skipped = s.skipped ++ if f.isRecognized then [] else [index] := by
  cases f with
  | text content =>
    obtain rfl := Except.ok.inj h
    simp [skipped_text, Field.isRecognized]
  | widget name w =>
    obtain rfl := Except.ok.inj h
    simp [widget, onRow, Field.isRecognized]
  | connection c =>
    obtain ⟨ty, -, rfl⟩ := feed_connection_eq_ok.mp h
    simp [skipped_connection, Field.isRecognized]
  | unrecognized v =>
    cases policy with
    | failFast => cases h
    | permissive =>
      obtain rfl := Except.ok.inj h
      rfl

lemma skipped_feedAll {policy : UnknownFieldPolicy} {s t : LayoutState} {index : ℕ}
    {fs : List Field} (h : s.feedAll policy index fs = .ok t) :
    t.skipped = s.skipped ++ unknownPositions index fs := by
  induction fs generalizing s index with
  | nil =>
    obtain rfl := Except.ok.inj h
    simp [unknownPositions]
  | cons f fs ih =>
    obtain ⟨u, hf, hfs⟩ := feedAll_cons_eq_ok.mp h
    rw [ih hfs, skipped_feed hf, unknownPositions_cons, List.append_assoc]

lemma feed_congr {f : Field} (h : f.isRecognized = true) (p p' : UnknownFieldPolicy)
    (s : LayoutState) (index : ℕ) : s.feed p index f = s.feed p' index f := by
  cases f with
  | unrecognized v => cases h
  | _ => rfl

lemma feedAll_congr {fs : List Field} (h : ∀ f ∈ fs, f.isRecognized = true)
    (p p' : UnknownFieldPolicy) (s : LayoutState) (index : ℕ) :
    s.feedAll p index fs = s.feedAll p' index fs := by
  induction fs generalizing s index with
  | nil => rfl
  | cons f fs ih =>
    rw [feedAll, feedAll, feed_congr (h f (by simp)) p p']
    exact congrArg (s.feed p' index f >>= ·) (funext fun t => ih (fun g hg => h g (by simp [hg])) t _)

end LayoutState

/-- **What is left out of a layout are the elements that are no known field.** -/
lemma skipped_layOut {o : LayoutOptions} {template : List Field} {l : Layout}
    (h : layOut o template = .ok l) : l.skipped = unknownPositions 0 template := by
  obtain ⟨s, hs, rfl⟩ := layOut_eq_ok.mp h
  exact LayoutState.skipped_feedAll hs

/-- **Without such elements the policy makes no difference.** -/
lemma layOut_congr {template : List Field} (h : ∀ f ∈ template, f.isRecognized = true)
    {o o' : LayoutOptions} (hicon : o.helpIcon = o'.helpIcon) :
    layOut o template = layOut o' template := by
  rw [layOut, layOut, LayoutState.feedAll_congr h o.unknownFields o'.unknownFields, hicon]

end BlockVocabulary
