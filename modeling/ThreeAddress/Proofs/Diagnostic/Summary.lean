import ThreeAddress.Proofs.Lowering.Steps
import ThreeAddress.Proofs.Numeral.Grammar
import ThreeAddress.Proofs.Text.Spaced

/-!
What a report counts and what its summary tells. In whatever way diagnostics come in, they are kept
in their order and the counters agree with them. The words of a summary are its numbers and what
they count, so both counts are read back from it.
-/

namespace ThreeAddress.Report
open Text Numeral

inductive Entry where
  | whole (diagnostic : Diagnostic)
  | warning (message : String) (location : Location)
  | note (message : String) (location : Location)

def Entry.diagnostic : Entry → Diagnostic
  | whole diagnostic => diagnostic
  | warning message location => ⟨.warning, message, location, []⟩
  | note message location => ⟨.note, message, location, []⟩

@[simp] theorem Entry.diagnostic_whole (diagnostic : Diagnostic) :
    (whole diagnostic).diagnostic = diagnostic := rfl

def enter (report : Report) : Entry → Report
  | .whole diagnostic => report.add diagnostic
  | .warning message location => report.warn message location
  | .note message location => report.note message location

def collect (report : Report) (entries : List Entry) : Report :=
  entries.foldl enter report

def unnoted (entries : List Entry) : List Entry :=
  (entries.filter (·.diagnostic.severity ≠ .note)).map fun entry =>
    .whole { entry.diagnostic with notes := [] }

theorem enter_eq (report : Report) (entry : Entry) :
    report.enter entry = report.add entry.diagnostic := by
  cases entry <;> rfl

theorem collect_diagnostics (report : Report) (entries : List Entry) :
    (report.collect entries).diagnostics =
      report.diagnostics ++ entries.map Entry.diagnostic := by
  induction entries generalizing report with
  | nil => simp [collect]
  | cons entry rest ih =>
      have later := ih (report.enter entry)
      rwa [enter_eq, add, List.append_assoc, ← add, ← enter_eq] at later

theorem Counted.collect {report : Report} (counted : report.Counted) (entries : List Entry) :
    (report.collect entries).Counted := by
  induction entries generalizing report with
  | nil => exact counted
  | cons entry rest ih =>
      have entered := counted.add entry.diagnostic
      rw [← enter_eq] at entered
      exact ih entered

/-- What is collected from nothing is counted by severity. -/
theorem collect_counts (entries : List Entry) :
    (collect {} entries).errors = entries.countP (·.diagnostic.severity = .error) ∧
      (collect {} entries).warnings = entries.countP (·.diagnostic.severity = .warning) := by
  have counted : (collect {} entries).Counted := Counted.collect ⟨rfl, rfl⟩ entries
  have kept := collect_diagnostics {} entries
  rw [counted.errors, counted.warnings, kept, List.nil_append, List.countP_map, List.countP_map]
  exact ⟨rfl, rfl⟩

theorem countP_unnoted (entries : List Entry) {severity : Severity} (other : severity ≠ .note) :
    (unnoted entries).countP (·.diagnostic.severity = severity) =
      entries.countP (·.diagnostic.severity = severity) := by
  rw [unnoted, List.countP_map, List.countP_filter]
  congr 1
  funext entry
  by_cases same : entry.diagnostic.severity = severity
  · simp [same, other]
  · simp [same]

/-! ## Summaries -/

def plural (count : Nat) (noun : String) : String :=
  noun ++ if count = 1 then "" else "s"

def summaryWords : Nat → Nat → List String
  | 0, 0 => ["No", "errors", "or", "warnings"]
  | 0, warnings => [Nat.repr warnings, plural warnings "warning"]
  | errors, 0 => [Nat.repr errors, plural errors "error"]
  | errors, warnings =>
      [Nat.repr errors, plural errors "error", "and", Nat.repr warnings, plural warnings "warning"]

/-- Five words tell both counts, two words the one that the second names. -/
def countsTold : List (List Char) → Nat × Nat
  | [errors, _, _, warnings, _] => (natural errors, natural warnings)
  | [number, noun] => if noun.head? = some 'e' then (natural number, 0) else (0, natural number)
  | _ => (0, 0)

theorem toList_summary (report : Report) :
    report.summary.toList =
      joined ((summaryWords report.errors report.warnings).map String.toList) := by
  rcases report with ⟨diagnostics, _ | errors, _ | warnings⟩ <;>
    simp [summary, summaryWords, counted, plural, joined]

theorem plural_solid (count : Nat) {noun : String} (solid : Solid noun.toList) :
    Solid (plural count noun).toList := by
  have ending : ∀ c ∈ (if count = 1 then "" else "s").toList, isBlank c = false := by
    split
    · simp
    · exact (by decide : Solid "s".toList).2
  rw [plural, String.toList_append]
  exact ⟨by simp [solid.1], List.forall_mem_append.mpr ⟨solid.2, ending⟩⟩

theorem summaryWords_solid (errors warnings : Nat) :
    ∀ word ∈ (summaryWords errors warnings).map String.toList, Solid word := by
  have error (count : Nat) := plural_solid count (by decide : Solid "error".toList)
  have warning (count : Nat) := plural_solid count (by decide : Solid "warning".toList)
  unfold summaryWords
  split
  · decide
  · simp [toDigits_solid, warning]
  · simp [toDigits_solid, error]
  · have between : Solid ['a', 'n', 'd'] := by decide
    simp [toDigits_solid, error, warning, between]

theorem countsTold_summary (report : Report) :
    countsTold (words report.summary.toList) = (report.errors, report.warnings) := by
  rw [toList_summary, words_joined (summaryWords_solid _ _)]
  rcases report with ⟨diagnostics, _ | errors, _ | warnings⟩ <;>
    simp [summaryWords, countsTold, plural, natural_written]

example : countsTold (words "1 error and 12 warnings".toList) = (1, 12) := by decide

/-- A report and its summary are faithful. Whatever is entered in it, and in whichever way, its
diagnostics are these in order, its counters are the numbers of errors and of warnings among them,
and it has errors if there is one; neither notes nor what stands below a diagnostic count. Summaries
of any two reports are the same if and only if both counts are. -/
theorem reports_faithful :
    (∀ entries : List Entry,
      let report := collect {} entries
      report.diagnostics = entries.map Entry.diagnostic ∧
      report.errors = report.diagnostics.countP (·.severity = .error) ∧
      report.warnings = report.diagnostics.countP (·.severity = .warning) ∧
      (report.hasErrors = true ↔
        ∃ diagnostic ∈ report.diagnostics, diagnostic.severity = .error) ∧
      (collect {} (unnoted entries)).errors = report.errors ∧
      (collect {} (unnoted entries)).warnings = report.warnings) ∧
    ∀ first second : Report, first.summary = second.summary ↔
      first.errors = second.errors ∧ first.warnings = second.warnings := by
  constructor
  · intro entries report
    have counted : report.Counted := Counted.collect ⟨rfl, rfl⟩ entries
    obtain ⟨errors, warnings⟩ := collect_counts entries
    obtain ⟨bareErrors, bareWarnings⟩ := collect_counts (unnoted entries)
    refine ⟨collect_diagnostics {} entries, counted.errors, counted.warnings,
      counted.hasErrors_iff, ?_, ?_⟩
    · rw [bareErrors, countP_unnoted entries (by decide), errors]
    · rw [bareWarnings, countP_unnoted entries (by decide), warnings]
  · intro first second
    constructor
    · intro same
      have told := countsTold_summary first
      rw [same, countsTold_summary second, Prod.mk.injEq] at told
      exact ⟨told.1.symm, told.2.symm⟩
    · rintro ⟨errors, warnings⟩
      rw [summary, summary, errors, warnings]

end ThreeAddress.Report
