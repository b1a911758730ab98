import ThreeAddress.Proofs.Control.Idioms
import ThreeAddress.Proofs.Lowering.Findings
import ThreeAddress.Proofs.Lowering.Steps

/-!
Errors and dropped code. Only a store and a print may leave out the code that they stand for, and
each of them says so in one error with one note; whatever else is wrong with a line, some default
takes its place. So the errors of a report are the lines that were dropped, one for one.
-/

namespace ThreeAddress

def Line.mayDrop : Line → Bool
  | .store .. => true
  | line => line.isPrint

def Act.executes : Act → Bool
  | .emit item => item.isExecuted
  | .code instructions => !instructions.isEmpty
  | _ => false

theorem Act.any_items (act : Act) (comments : Bool) :
    (act.items comments).any Item.isExecuted = act.executes := by
  cases act with
  | comment text => cases comments <;> rfl
  | emit item => simp [items, executes]
  | code instructions => cases instructions <;> simp [items, executes, Item.isExecuted]
  | _ => rfl

/-- Acts that execute nothing come with one error, which has one note; others come with none. -/
inductive Answers (acts : List Act) (found : List Finding) : Prop
  | runs (ran : acts.any Act.executes = true) (clean : found.filter Finding.isError = [])
  | drops {finding : Finding} {note : String} (idle : acts.any Act.executes = false)
      (only : found.filter Finding.isError = [finding]) (noted : finding.notes = [note])

/-- An act that executes nothing and findings that are no errors change no answer. -/
theorem Answers.cons {acts : List Act} {found : List Finding} (answers : Answers acts found)
    {act : Act} {others : List Finding} (idle : act.executes = false)
    (harmless : others.filter Finding.isError = []) : Answers (act :: acts) (others ++ found) := by
  cases answers with
  | runs ran clean =>
      exact .runs (by rw [List.any_cons, idle, ran]; rfl)
        (by rw [List.filter_append, harmless, clean]; rfl)
  | drops quiet only noted =>
      exact .drops (by rw [List.any_cons, idle, quiet]; rfl)
        (by rw [List.filter_append, harmless, only]; rfl) noted

theorem Answers.mark {acts : List Act} {found : List Finding} (answers : Answers acts found)
    {act : Act} (idle : act.executes = false) : Answers (act :: acts) found :=
  answers.cons idle (show ([] : List Finding).filter Finding.isError = [] from rfl)

namespace Lowering
variable {s : Lowering}

/-- The line is one whose code may be left out, and it has written nothing that is executed. -/
def drops (s : Lowering) (entry : Location × String) : Bool :=
  (Line.ofText? entry.2).any Line.mayDrop && !(s.written entry).any Item.isExecuted

def dropped (s : Lowering) : List (Location × String) → List (Location × String)
  | [] => []
  | entry :: rest =>
      if s.drops entry then entry :: dropped (s.feed entry).1 rest
      else dropped (s.feed entry).1 rest

def Tells (s : Lowering) (entry : Location × String) : Prop :=
  if s.drops entry then
    ∃ diagnostic note, diagnostic.location = entry.1 ∧
      (s.reported entry).filter Diagnostic.isError = [diagnostic] ∧ diagnostic.notes = [note]
  else (s.reported entry).filter Diagnostic.isError = []

/-! ## Errors among the findings -/

section Lines

theorem printArgument_answers (argument : String) :
    Answers (s.printScript argument) (s.printFindings argument) := by
  unfold printScript printFindings
  cases s.registers.holder? argument with
  | some register => exact .runs rfl rfl
  | none =>
      by_cases temp : Line.isTemp argument = true
      · simp only [temp, ↓reduceIte]
        cases sameNumber? argument with
        | some register => exact .runs rfl rfl
        | none => exact .drops rfl rfl rfl
      · by_cases literal : Line.isIntOrChar argument = true
        · simp only [temp, literal, ↓reduceIte]
          exact .runs rfl rfl
        · simp only [temp, literal]
          exact .runs rfl (warning_errorless (undeclared_warns argument))

theorem popScript_answers : Answers s.popScript s.popFindings := by
  unfold popScript popFindings
  cases s.pending with
  | nil => exact .drops rfl rfl rfl
  | cons argument rest => exact ((printArgument_answers argument).mark rfl).mark rfl

theorem storeScript_answers (dest temp : String) :
    Answers (s.storeScript dest temp)
      ((s.undeclared? dest).toList ++ s.storeFindings dest temp) := by
  refine Answers.cons ?_ rfl (warning_errorless (undeclared_warns dest))
  unfold storeFindings
  cases s.storeSource? (s.typeOf dest).registerClass temp with
  | some register => exact .runs rfl rfl
  | none => exact .drops rfl rfl rfl

/-- A line whose code may be left out says so where it is. -/
theorem droppable_answers {line : Line} (droppable : line.mayDrop = true) :
    Answers (s.script line) (s.findings line) := by
  cases line with
  | store dest temp => exact storeScript_answers dest temp
  | call made =>
      cases made with
      | param value => cases droppable
      | call callee count =>
          have known : isPrint callee = true := droppable
          simp only [script, callScript, findings, known, ↓reduceIte]
          exact popScript_answers.cons rfl (warning_errorless (miscounted_warns count))
  | label text | declaration declared | control flow | operation dest left op right
  | assign dest value | generic text => cases droppable

/-- No other line finds an error. -/
theorem findings_errorless {line : Line} (kept : line.mayDrop = false) :
    (s.findings line).filter Finding.isError = [] := by
  cases line with
  | label text | declaration declared | generic text => rfl
  | store dest temp => cases kept
  | operation dest left op right => exact warning_errorless (operandless_warns op _)
  | control flow =>
      cases flow with
      | ifGoto condition target =>
          rw [findings, List.filter_append, warning_errorless (untested_warns condition),
            errorless (misplaced_notes condition) (by decide)]
          rfl
      | goto target | leave => rfl
  | call made =>
      cases made with
      | param value => rfl
      | call callee count =>
          -- A call of anything but `print` finds nothing.
          have other : isPrint callee = false := kept
          simp [findings, other]
  | assign dest value =>
      cases value with
      | increment name | intOrChar text | float text => rfl
      | «variable» name => exact warning_errorless (undeclared_warns name)
      | temp source =>
          simp only [findings]
          cases s.registers.holder? source with
          | some register => rfl
          | none => exact warning_errorless (undeclared_warns source)

end Lines

/-! ## Errors among the diagnostics -/

section Reported
variable {entry : Location × String} {line : Line}

theorem written_executes (understood : Line.ofText? entry.2 = some line) :
    (s.written entry).any Item.isExecuted = (s.doing entry.1 line).any Act.executes := by
  rw [written_line understood, List.any_flatMap]
  simp only [Act.any_items]

/-- Whatever of the findings of a line is reported, its errors are among those of the line. -/
theorem errors_of_findings (found : List Finding) (place : Location) :
    (found.map (Finding.diagnostic · place)).filter Diagnostic.isError =
      (found.filter Finding.isError).map (Finding.diagnostic · place) :=
  List.filter_map

theorem kept_reports (understood : Line.ofText? entry.2 = some line)
    (kept : line.mayDrop = false) : (s.reported entry).filter Diagnostic.isError = [] := by
  -- The line may fail, but then it has reported no more than it found.
  have early := (reported_initial (s := s) understood).filter Diagnostic.isError
  rw [errors_of_findings, findings_errorless kept] at early
  exact List.prefix_nil.mp early

theorem droppable_idle (s : Lowering) (droppable : line.mayDrop = true) :
    (s.script line).all Act.isIdle = true := by
  cases line with
  | store dest temp => exact all_idle (storeScript_calm s dest temp)
  | call made => exact all_idle (callScript_calm s made)
  | label text | declaration declared | control flow | operation dest left op right
  | assign dest value | generic text => cases droppable

theorem droppable_tells (understood : Line.ofText? entry.2 = some line)
    (droppable : line.mayDrop = true) : s.Tells entry := by
  have idle := droppable_idle s droppable
  have executed := (written_executes (s := s) understood).trans
    (congrArg (List.any · Act.executes) (doing_idle understood idle))
  rw [Tells, reported_findings understood idle, errors_of_findings]
  cases droppable_answers (s := s) droppable with
  | runs ran clean =>
      have kept : s.drops entry = false := by simp [drops, understood, executed, ran]
      rw [clean, if_neg (ne_true_of_eq_false kept)]
      rfl
  | drops quiet only noted =>
      have dropped : s.drops entry = true := by
        simp [drops, understood, droppable, executed, quiet]
      rw [only, if_pos dropped]
      exact ⟨_, _, rfl, rfl, noted⟩

theorem line_tells (s : Lowering) (entry : Location × String) : s.Tells entry := by
  cases understood : Line.ofText? entry.2 with
  | none => simp [Tells, drops, understood, reported_blank understood]
  | some line =>
      cases droppable : line.mayDrop with
      | true => exact droppable_tells understood droppable
      | false =>
          have kept : s.drops entry = false := by simp [drops, understood, droppable]
          rw [Tells, if_neg (ne_true_of_eq_false kept)]
          exact kept_reports understood droppable

end Reported

/-- The errors of a history stand where its dropped lines stand, in the same order. -/
theorem after_errors (s : Lowering) (history : List (Location × String)) :
    ((s.after history).report.diagnostics.filter Diagnostic.isError).map Diagnostic.location =
      (s.report.diagnostics.filter Diagnostic.isError).map Diagnostic.location ++
        (s.dropped history).map Prod.fst := by
  induction history generalizing s with
  | nil => exact (List.append_nil _).symm
  | cons entry rest ih =>
      have tells := s.line_tells entry
      rw [after, ih, feed_diagnostics, List.filter_append, List.map_append, List.append_assoc,
        dropped]
      congr 1
      by_cases drop : s.drops entry = true
      · rw [Tells, if_pos drop] at tells
        obtain ⟨diagnostic, note, here, only, -⟩ := tells
        rw [only, if_pos drop, List.map_cons, List.map_cons, here]
        rfl
      · rw [Tells, if_neg drop] at tells
        rw [tells, if_neg drop]
        rfl

/-- Errors are dropped code and nothing else. In any state, a line reports an error exactly if it is
a store or a print that has written nothing that is executed, and then one, with one note. So after
any lines, failed ones included, the errors of the report are as many as the lines that were
dropped, and stand where these stand, in the same order. -/
theorem errors_mark_drops :
    (∀ (s : Lowering) (entry : Location × String),
      ((∃ diagnostic ∈ s.reported entry, diagnostic.severity = .error) ↔ s.drops entry = true) ∧
      (s.drops entry = true → ∃ diagnostic note,
        (s.reported entry).filter Diagnostic.isError = [diagnostic] ∧ diagnostic.notes = [note])) ∧
    ∀ (options : Options) (history : List (Location × String)),
      let report := ((start options).after history).report
      let dropped := (start options).dropped history
      (report.diagnostics.filter Diagnostic.isError).map Diagnostic.location =
        dropped.map Prod.fst ∧
      report.errors = dropped.length ∧ (report.hasErrors = true ↔ dropped ≠ []) := by
  constructor
  · intro s entry
    have tells := s.line_tells entry
    by_cases drop : s.drops entry = true
    · rw [Tells, if_pos drop] at tells
      obtain ⟨diagnostic, note, -, only, noted⟩ := tells
      -- The one error of the line is among what it reports.
      have among : diagnostic ∈ (s.reported entry).filter Diagnostic.isError := by simp [only]
      obtain ⟨reported, error⟩ := List.mem_filter.mp among
      refine ⟨iff_of_true ⟨diagnostic, reported, by simpa [Diagnostic.isError] using error⟩ drop,
        fun _ => ⟨diagnostic, note, only, noted⟩⟩
    · rw [Tells, if_neg drop, List.filter_eq_nil_iff] at tells
      refine ⟨iff_of_false ?_ drop, fun dropped => absurd dropped drop⟩
      rintro ⟨diagnostic, reported, error⟩
      exact tells diagnostic reported (by simp [Diagnostic.isError, error])
  · intro options history report dropped
    have places : (report.diagnostics.filter Diagnostic.isError).map Diagnostic.location =
        dropped.map Prod.fst := after_errors (start options) history
    have errors : report.errors = dropped.length := by
      -- The counter was raised for each error, and the errors are the dropped lines.
      have counted : report.errors = _ := (after_counted options history).errors
      rw [counted, List.countP_eq_length_filter, ← List.length_map (f := Prod.fst), ← places,
        List.length_map]
      rfl
    refine ⟨places, errors, ?_⟩
    rw [Report.hasErrors, decide_eq_true_iff, errors, List.length_pos_iff]

example : (start {}).dropped
    [(.input 1, "param t12"), (.input 2, "call print, 1"), (.input 3, "x = t0")] =
      [(.input 2, "call print, 1"), (.input 3, "x = t0")] := by
  decide +kernel

end Lowering

end ThreeAddress
