import BlockVocabulary.Command.Execute
import BlockVocabulary.Proofs.Collection

/-!
The limit on errors.

Errors and warnings are collected apart, so how they were mixed when they came makes no difference.
An error beyond the limit is counted and not kept. In a collection that began empty, the errors that
a report shows and the number at its end therefore make up the total.
-/

namespace BlockVocabulary

/-- The diagnostics of a severity, in order. -/
def Severity.among (severity : Severity) (ds : List Diagnostic) : List Diagnostic :=
  ds.filter (·.severity = severity)

namespace Diagnostics

lemma filter_isError (ds : List Diagnostic) : ds.filter (·.isError) = Severity.error.among ds := rfl

lemma filter_not_isError (ds : List Diagnostic) :
    ds.filter (!·.isError) = Severity.warning.among ds := by
  refine List.filter_congr fun d _ => ?_
  rcases hd : d.severity <;> simp [Diagnostic.isError, hd]

/-- What is kept and counted is a matter of the errors and of the warnings, each taken alone. -/
lemma pushAll_among (ds : Diagnostics) (added : List Diagnostic) :
    ds.pushAll added =
      { errors := ds.errors ++ (Severity.error.among added).take (limit - ds.errors.length)
        warnings := ds.warnings ++ Severity.warning.among added
        totalErrors := ds.totalErrors + (Severity.error.among added).length
        totalWarnings := ds.totalWarnings + (Severity.warning.among added).length } := by
  rw [pushAll_eq, List.countP_eq_length_filter, List.countP_eq_length_filter, filter_isError,
    filter_not_isError]

/-- No more errors are kept than counted, if it is so at first. -/
lemma length_errors_pushAll_le {ds : Diagnostics} (h : ds.errors.length ≤ ds.totalErrors)
    (added : List Diagnostic) :
    (ds.pushAll added).errors.length ≤ (ds.pushAll added).totalErrors := by
  simp only [pushAll_among, List.length_append, List.length_take]
  omega

/-- Where no more errors are kept than counted, a report accounts for all of them. -/
lemma diagnosticLines_eq {ds : Diagnostics} (h : ds.errors.length ≤ ds.totalErrors) :
    ∃ k, Command.diagnosticLines ds =
        ds.errors.map Diagnostic.text ++ ds.warnings.map Diagnostic.text ++
          (if k = 0 then [] else ["... and " ++ toString k ++ " more errors"]) ∧
      ds.errors.length + k = ds.totalErrors := by
  refine ⟨ds.dropped, ?_, by rw [dropped]; omega⟩
  rw [Command.diagnosticLines, stored, List.map_append]
  rcases ds.dropped with _ | k <;> rfl

end Diagnostics

/-- **What a collection keeps and counts.** Whatever was kept and counted before, of the errors
added the first are kept until the limit is reached, all warnings are kept, each in the order in
which they came, and each total grows by their number. The same errors and the same warnings, mixed
in another way, give the same collection. If at first no more errors were kept than counted, as in
an empty collection, the report shows the errors that are kept, and the number of further errors
that it ends with makes them up to the total. -/
theorem pushAll_capped (ds : Diagnostics) (added : List Diagnostic) :
    let t := ds.pushAll added
    t.errors = ds.errors ++
      (Severity.error.among added).take (Diagnostics.limit - ds.errors.length) ∧
    t.warnings = ds.warnings ++ Severity.warning.among added ∧
    t.totalErrors = ds.totalErrors + (Severity.error.among added).length ∧
    t.totalWarnings = ds.totalWarnings + (Severity.warning.among added).length ∧
    (∀ mixed, Severity.error.among mixed = Severity.error.among added →
      Severity.warning.among mixed = Severity.warning.among added → ds.pushAll mixed = t) ∧
    (ds.errors.length ≤ ds.totalErrors →
      ∃ k, Command.diagnosticLines t =
          t.errors.map Diagnostic.text ++ t.warnings.map Diagnostic.text ++
            (if k = 0 then [] else ["... and " ++ toString k ++ " more errors"]) ∧
        t.errors.length + k = t.totalErrors) := by
  have hkept := Diagnostics.pushAll_among ds added
  intro t
  refine ⟨congrArg Diagnostics.errors hkept, congrArg Diagnostics.warnings hkept,
    congrArg Diagnostics.totalErrors hkept, congrArg Diagnostics.totalWarnings hkept,
    fun mixed herrors hwarnings => ?_, fun hle => ?_⟩
  · rw [Diagnostics.pushAll_among, herrors, hwarnings]
    exact hkept.symm
  · exact Diagnostics.diagnosticLines_eq (Diagnostics.length_errors_pushAll_le hle added)

def lateError : Diagnostic := .error .unknownField "late" .document

def lateWarning : Diagnostic := .warning .duplicateEntry "again" .document

/-- A collection one error short of the limit, of which only three are counted. -/
def nearlyFull : Diagnostics := { errors := List.replicate 19 lateError, totalErrors := 3 }

theorem pushAll_capped_nearlyFull :
    let other := lateError.suggest "wait"
    let added := [lateWarning, other, lateError]
    let mixed := [other, lateError, lateWarning]
    let t := nearlyFull.pushAll added
    (t.errors = nearlyFull.errors ++ [other] ∧ t.warnings = [lateWarning] ∧ t.totalErrors = 5 ∧
      t.totalWarnings = 1) ∧
    (Severity.error.among mixed = Severity.error.among added ∧
      Severity.warning.among mixed = Severity.warning.among added ∧ nearlyFull.pushAll mixed = t) ∧
    Diagnostics.empty.errors.length ≤ Diagnostics.empty.totalErrors ∧
    Command.diagnosticLines (Diagnostics.empty.pushAll (List.replicate 23 lateError)) =
      List.replicate 20 lateError.text ++ ["... and 3 more errors"] := by
  intro other added mixed t
  obtain ⟨herrors, hwarnings, htotal, hwarned, hmixed, -⟩ := pushAll_capped nearlyFull added
  obtain ⟨-, -, -, -, -, hreport⟩ := pushAll_capped .empty (List.replicate 23 lateError)
  obtain ⟨k, hlines, hk⟩ := hreport (by decide)
  have hdropped : 20 + k = 23 := hk
  obtain rfl : k = 3 := by omega
  exact ⟨⟨herrors, hwarnings, htotal, hwarned⟩,
    ⟨by decide, by decide, hmixed mixed (by decide) (by decide)⟩, by decide, hlines⟩

end BlockVocabulary
