import BlockVocabulary.Proofs.Accounting
import BlockVocabulary.Proofs.Faults
import BlockVocabulary.Proofs.FirstMentions
import Mathlib.Data.List.Perm.Subperm

/-!
What a compile gains when its policies are relaxed.

The accepted names are those of the declarations that have no fault of their own; under the strict
policy each of them is accepted once, and every further declaration of it is an error. Relaxing a
policy takes faults away and adds none. So no name is lost, and since every declaration is accepted
or counted as an error, no errors are gained.
-/

namespace BlockVocabulary

/-- The options with the given policies. -/
def Options.under (o : Options) (p : UnknownFieldPolicy) (q : DuplicatePolicy) : Options :=
  { o with unknownFields := p, duplicates := q }

/-- No policy is stricter. -/
structure Options.Relaxes (o' o : Options) : Prop where
  unknownFields : o'.unknownFields = .failFast → o.unknownFields = .failFast
  duplicates : o'.duplicates = .strict → o.duplicates = .strict

/-! ### Faults under relaxed policies -/

lemma faults_field_sublist {p p' : UnknownFieldPolicy} (h : p' = .failFast → p = .failFast)
    (index : ℕ) (f : Field) : (f.faults p' index).Sublist (f.faults p index) := by
  cases f with
  | unrecognized v =>
    cases p' with
    | failFast => rw [h rfl]
    | permissive => exact List.nil_sublist _
  | _ => exact List.Sublist.refl _

lemma templateFaults_sublist {p p' : UnknownFieldPolicy} (h : p' = .failFast → p = .failFast)
    (index : ℕ) (template : List Field) :
    (templateFaults p' index template).Sublist (templateFaults p index template) := by
  induction template generalizing index with
  | nil => exact List.Sublist.refl _
  | cons f fs ih =>
    rw [templateFaults_cons, templateFaults_cons]
    exact (faults_field_sublist h index f).append (ih (index + 1))

/-- A fault that only the strict policy finds. -/
lemma strict_sublist {p p' : DuplicatePolicy} (h : p' = .strict → p = .strict) (c : Prop)
    [Decidable c] (fault : Fault) :
    (if p' = .strict ∧ c then [fault] else []).Sublist (if p = .strict ∧ c then [fault] else []) := by
  by_cases hc : p' = .strict ∧ c
  · rw [if_pos hc, if_pos ⟨h hc.1, hc.2⟩]
  · rw [if_neg hc]
    exact List.nil_sublist _

/-- **Relaxing a policy takes faults away and adds none.** -/
lemma faults_sublist {o o' : Options} (h : o'.Relaxes o) (declared : Bool) (e : Entry) :
    (e.faults o' declared).Sublist (e.faults o declared) :=
  (strict_sublist h.duplicates _ _).append
    ((templateFaults_sublist h.unknownFields 0 e.template).append
      ((strict_sublist h.duplicates _ _).append (List.Sublist.refl _)))

/-! ### The accepted names -/

/-- The declaration has no fault but perhaps its name. -/
def Entry.isFaultless (o : Options) (e : Entry) : Bool := (e.faults o false).isEmpty

/-- The names of the declarations without faults of their own. -/
def faultlessNames (o : Options) (ds : List (Category × Entry)) : List String :=
  (ds.filter (·.2.isFaultless o)).map (·.2.name)

lemma faultlessNames_cons (o : Options) (d : Category × Entry) (ds : List (Category × Entry)) :
    faultlessNames o (d :: ds) =
      if d.2.isFaultless o then d.2.name :: faultlessNames o ds else faultlessNames o ds := by
  rw [faultlessNames, List.filter_cons]
  split <;> rfl

lemma faults_isEmpty (o : Options) (declared : Bool) (e : Entry) :
    (e.faults o declared).isEmpty =
      (!(decide (o.duplicates = .strict) && declared) && e.isFaultless o) := by
  rcases hp : o.duplicates <;> cases declared <;>
    simp [Entry.isFaultless, Entry.faults, nameFaults, hp]

lemma acceptedNames_judge_cons (o : Options) (accepted : List String) (d : Category × Entry)
    (ds : List (Category × Entry)) :
    acceptedNames ((judge o accepted (d :: ds)).map (·.2)) =
      if (d.2.faults o (accepted.contains d.2.name)).isEmpty then
        d.2.name :: acceptedNames ((judge o (accepted ++ [d.2.name]) ds).map (·.2))
      else acceptedNames ((judge o accepted ds).map (·.2)) := by
  have hnames := acceptedNames_outcome o d.1.name (visibleColour d.1.colour)
    (accepted.contains d.2.name) d.2
  rw [isAccepted_outcome] at hnames
  rw [judge, List.map_cons, ← List.singleton_append (l := List.map _ _), acceptedNames_append,
    hnames]
  split <;> simp

/-- Without the strict policy a name is accepted as often as it is declared without fault. -/
lemma acceptedNames_judge_of_warn {o : Options} (hp : o.duplicates = .warn)
    (accepted : List String) (ds : List (Category × Entry)) :
    acceptedNames ((judge o accepted ds).map (·.2)) = faultlessNames o ds := by
  induction ds generalizing accepted with
  | nil => rfl
  | cons d ds ih =>
    rw [acceptedNames_judge_cons, ih, ih, faults_isEmpty, faultlessNames_cons]
    simp [hp]

/-- Under the strict policy it is accepted once, unless it was accepted before. -/
lemma acceptedNames_judge_of_strict {o : Options} (hp : o.duplicates = .strict)
    (accepted : List String) (ds : List (Category × Entry)) :
    acceptedNames ((judge o accepted ds).map (·.2)) =
      ((faultlessNames o ds).filter (· ∉ accepted)).eraseDups := by
  induction ds generalizing accepted with
  | nil => rfl
  | cons d ds ih =>
    rw [acceptedNames_judge_cons, ih, ih, faults_isEmpty, faultlessNames_cons]
    by_cases hf : d.2.isFaultless o = true
    · by_cases hmem : d.2.name ∈ accepted
      · simp [hp, hf, hmem]
      · -- the name is taken from here on
        have hrest : (faultlessNames o ds).filter (· ∉ accepted ++ [d.2.name]) =
            ((faultlessNames o ds).filter (· ∉ accepted)).filter (!· == d.2.name) := by
          rw [List.filter_filter]
          refine List.filter_congr fun n _ => ?_
          by_cases hn : n = d.2.name <;> simp [hn, hmem]
        rw [hrest]
        simp [hp, hf, hmem, List.eraseDups_cons]
    · simp [hp, hf]

/-- **The accepted names are those of the declarations without faults**, each once under the strict
policy. -/
lemma names_compile (o : Options) (vocabulary : List Category) :
    (compile o vocabulary).names =
      match o.duplicates with
      | .warn => faultlessNames o (declarations vocabulary)
      | .strict => (faultlessNames o (declarations vocabulary)).eraseDups := by
  rw [Compilation.names, outcomes_eq_judged, judged_compile]
  rcases hp : o.duplicates
  · exact acceptedNames_judge_of_warn hp [] _
  · rw [acceptedNames_judge_of_strict hp []]
    simp

lemma mem_names_iff (o : Options) (vocabulary : List Category) (n : String) :
    n ∈ (compile o vocabulary).names ↔ n ∈ faultlessNames o (declarations vocabulary) := by
  rw [names_compile]
  rcases o.duplicates
  · exact Iff.rfl
  · exact List.mem_eraseDups

/-! ### Relaxing the policies of a compile -/

variable {o o' : Options}

lemma faultlessNames_sublist (h : o'.Relaxes o) (ds : List (Category × Entry)) :
    (faultlessNames o ds).Sublist (faultlessNames o' ds) := by
  refine (List.monotone_filter_right ds fun d hd => ?_).map _
  rw [Entry.isFaultless, List.isEmpty_iff] at hd ⊢
  exact List.sublist_nil.mp (hd ▸ faults_sublist h false d.2)

lemma names_subset (h : o'.Relaxes o) (vocabulary : List Category) :
    (compile o vocabulary).names ⊆ (compile o' vocabulary).names := by
  intro n hn
  rw [mem_names_iff] at hn ⊢
  exact (faultlessNames_sublist h _).subset hn

/-- A name that is accepted several times under both options is so for each of its declarations
without fault; where it is accepted once, it counts once. -/
lemma length_names_le (h : o'.Relaxes o) (vocabulary : List Category) :
    (compile o vocabulary).names.length ≤ (compile o' vocabulary).names.length := by
  rcases hp : o.duplicates
  · have hp' : o'.duplicates = .warn := by
      rcases hp' : o'.duplicates
      · rfl
      · rw [h.duplicates hp'] at hp
        cases hp
    rw [names_compile, names_compile, hp, hp']
    exact (faultlessNames_sublist h _).length_le
  · have hnodup : (compile o vocabulary).names.Nodup := by
      rw [names_compile, hp]
      exact nodup_eraseDups _
    exact (List.subperm_of_subset hnodup (names_subset h vocabulary)).length_le

lemma totalErrors_le (h : o'.Relaxes o) (vocabulary : List Category) :
    (compile o' vocabulary).diagnostics.totalErrors ≤
      (compile o vocabulary).diagnostics.totalErrors := by
  have hle := length_names_le h vocabulary
  have hsum := length_names_add_totalErrors o vocabulary
  have hsum' := length_names_add_totalErrors o' vocabulary
  omega

/-- **Relaxing a policy loses no block and gains no error**, for the policy on unknown fields and for
the one on duplicates, whatever the other is. -/
theorem compile_relaxed (o : Options) (vocabulary : List Category) :
    let run := fun p q => compile (o.under p q) vocabulary
    (∀ q, (run .failFast q).names ⊆ (run .permissive q).names ∧
      (run .permissive q).diagnostics.totalErrors ≤ (run .failFast q).diagnostics.totalErrors) ∧
    ∀ p, (run p .strict).names ⊆ (run p .warn).names ∧
      (run p .warn).diagnostics.totalErrors ≤ (run p .strict).diagnostics.totalErrors := by
  intro run
  have hfields : ∀ q, (o.under .permissive q).Relaxes (o.under .failFast q) :=
    fun q => ⟨fun _ => rfl, id⟩
  have hduplicates : ∀ p, (o.under p .warn).Relaxes (o.under p .strict) :=
    fun p => ⟨id, fun _ => rfl⟩
  exact ⟨fun q => ⟨names_subset (hfields q) vocabulary, totalErrors_le (hfields q) vocabulary⟩,
    fun p => ⟨names_subset (hduplicates p) vocabulary, totalErrors_le (hduplicates p) vocabulary⟩⟩

end BlockVocabulary
