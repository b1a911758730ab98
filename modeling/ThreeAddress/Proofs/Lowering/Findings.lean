import ThreeAddress.Proofs.Lowering.History
import ThreeAddress.Proofs.Lowering.Scripts

/-!
What one line adds to the text and to the report, up to the request that is refused where the line
fails. What a line finds wrong with itself is read off the line and the state before it, apart from
the code that the line becomes; a line that is refused a register reports what it had found by then,
any other line all of it, in this order.
-/

namespace ThreeAddress

/-! ## Additions -/

def Act.finding? : Act → Option Finding
  | .report finding => finding
  | _ => none

def Act.instructions : Act → List Instruction
  | .code instructions => instructions
  | .emit (.code instruction) => [instruction]
  | _ => []

theorem Act.mem_instructions {act : Act} {comments : Bool} {instruction : Instruction}
    (member : .code instruction ∈ act.items comments) : instruction ∈ act.instructions := by
  cases act with
  | comment text => cases comments <;> simp [items] at member
  | emit item =>
      obtain rfl := List.mem_singleton.mp member
      exact List.mem_singleton_self instruction
  | code added => simpa [items, instructions] using member
  | _ => cases member

def Instruction.symbol? : Instruction → Option String
  | load _ _ symbol | store _ _ symbol => some symbol
  | compute .. | addImmediate .. | intoLo .. | fromLo _ | immediate .. | copy .. | branchZero ..
  | jump _ | syscall => none

namespace Lowering
variable {s : Lowering}

def written (s : Lowering) (entry : Location × String) : List Item :=
  (s.feed entry).1.text.drop s.text.length

def reported (s : Lowering) (entry : Location × String) : List Diagnostic :=
  (s.feed entry).1.report.diagnostics.drop s.report.diagnostics.length

/-! ## What lists of acts add -/

theorem apply_diagnostics (s : Lowering) (act : Act) :
    (s.apply act).report.diagnostics =
      s.report.diagnostics ++ act.finding?.toList.map (Finding.diagnostic · s.location) := by
  cases act with
  | comment text =>
      rw [apply, comment_report]
      exact (List.append_nil _).symm
  | report finding =>
      cases finding with
      | none => exact (List.append_nil _).symm
      | some finding => rfl
  | _ => exact (List.append_nil _).symm

theorem perform_diagnostics (s : Lowering) (acts : List Act) :
    (s.perform acts).1.report.diagnostics = s.report.diagnostics ++
      ((s.carried acts).filterMap Act.finding?).map (Finding.diagnostic · s.location) := by
  induction acts generalizing s with
  | nil => exact (List.append_nil _).symm
  | cons act rest ih =>
      unfold perform carried
      cases s.lacks? act with
      | some cls => exact (List.append_nil _).symm
      | none =>
          simp only
          rw [ih, apply_diagnostics, apply_location, List.append_assoc, ← List.map_append]
          cases found : act.finding? <;> simp [found]

theorem carried_initial (s : Lowering) (acts : List Act) : s.carried acts <+: acts := by
  induction acts generalizing s with
  | nil => exact List.prefix_rfl
  | cons act rest ih =>
      unfold carried
      cases s.lacks? act with
      | none => exact (List.prefix_cons_inj act).mpr (ih (s.apply act))
      | some cls => exact List.nil_prefix

/-- Acts that are all granted are all carried out. -/
theorem carried_done {acts : List Act} (succeeded : (s.perform acts).2 = none) :
    s.carried acts = acts := by
  induction acts generalizing s with
  | nil => rfl
  | cons act rest ih =>
      unfold perform at succeeded
      unfold carried
      cases lacks : s.lacks? act with
      | none =>
          simp only [lacks] at succeeded ⊢
          rw [ih succeeded]
      | some cls =>
          simp only [lacks] at succeeded
          cases succeeded

/-- Acts that take no register are all granted. -/
theorem perform_granted {acts : List Act} (takeless : ∀ cls, Act.take cls ∉ acts) (s : Lowering) :
    (s.perform acts).2 = none := by
  induction acts generalizing s with
  | nil => rfl
  | cons act rest ih =>
      have granted : s.lacks? act = none := by
        cases act with
        | take cls => exact absurd List.mem_cons_self (takeless cls)
        | _ => rfl
      unfold perform
      simp only [granted]
      exact ih (fun cls member => takeless cls (List.mem_cons_of_mem act member)) (s.apply act)

theorem perform_idle {acts : List Act} (idle : acts.all Act.isIdle = true) (s : Lowering) :
    (s.perform acts).2 = none := by
  refine perform_granted (fun cls member => ?_) s
  cases List.all_eq_true.mp idle _ member

/-! ## What lines add -/

section Line
variable {entry : Location × String} {line : Line}

def doing (s : Lowering) (place : Location) (line : Line) : List Act :=
  { s with location := place }.carried (s.script line)

theorem doing_initial (s : Lowering) (place : Location) (line : Line) :
    s.doing place line <+: s.script line :=
  carried_initial _ _

theorem feed_performs (understood : Line.ofText? entry.2 = some line) :
    s.feed entry = { s with location := entry.1 }.perform (s.script line) := by
  rw [feed_line s understood, step_performs]
  exact congrArg _ (script_elsewhere s s.data s.text s.report entry.1 line)

theorem doing_done (understood : Line.ofText? entry.2 = some line)
    (succeeded : (s.feed entry).2 = none) : s.doing entry.1 line = s.script line := by
  rw [feed_performs understood] at succeeded
  exact carried_done succeeded

theorem doing_idle (understood : Line.ofText? entry.2 = some line)
    (idle : (s.script line).all Act.isIdle = true) : s.doing entry.1 line = s.script line := by
  apply doing_done understood
  rw [feed_performs understood]
  exact perform_idle idle _

theorem written_line (understood : Line.ofText? entry.2 = some line) :
    s.written entry = (s.doing entry.1 line).flatMap (Act.items s.options.comments) := by
  rw [written, feed_performs understood, perform_text]
  exact List.drop_left

theorem written_code (understood : Line.ofText? entry.2 = some line) {instruction : Instruction}
    (member : .code instruction ∈ s.written entry) :
    instruction ∈ (s.doing entry.1 line).flatMap Act.instructions := by
  rw [written_line understood] at member
  obtain ⟨act, carried, added⟩ := List.mem_flatMap.mp member
  exact List.mem_flatMap.mpr ⟨act, carried, Act.mem_instructions added⟩

theorem reported_line (understood : Line.ofText? entry.2 = some line) :
    s.reported entry =
      ((s.doing entry.1 line).filterMap Act.finding?).map (Finding.diagnostic · entry.1) := by
  rw [reported, feed_performs understood, perform_diagnostics]
  exact List.drop_left

/-- What a line that asks for nothing reports and reads is all there in its acts. -/
theorem reported_idle (understood : Line.ofText? entry.2 = some line)
    (idle : (s.script line).all Act.isIdle = true) :
    s.reported entry = [] ↔ (s.script line).filterMap Act.finding? = [] := by
  rw [reported_line understood, doing_idle understood idle, List.map_eq_nil_iff]

theorem written_idle (understood : Line.ofText? entry.2 = some line)
    (idle : (s.script line).all Act.isIdle = true) {instruction : Instruction}
    (member : .code instruction ∈ s.written entry) :
    instruction ∈ (s.script line).flatMap Act.instructions := by
  have added := written_code understood member
  rwa [doing_idle understood idle] at added

theorem written_blank (blank : Line.ofText? entry.2 = none) : s.written entry = [] := by
  rw [written, feed_blank s blank]
  exact List.drop_length

theorem feed_text (s : Lowering) (entry : Location × String) :
    (s.feed entry).1.text = s.text ++ s.written entry := by
  cases understood : Line.ofText? entry.2 with
  | none =>
      rw [written_blank understood, feed_blank s understood]
      exact (List.append_nil _).symm
  | some line => rw [written_line understood, feed_performs understood, perform_text]; rfl

theorem reported_blank (blank : Line.ofText? entry.2 = none) : s.reported entry = [] := by
  rw [reported, feed_blank s blank]
  exact List.drop_length

theorem feed_diagnostics (s : Lowering) (entry : Location × String) :
    (s.feed entry).1.report.diagnostics = s.report.diagnostics ++ s.reported entry := by
  cases understood : Line.ofText? entry.2 with
  | none =>
      rw [reported_blank understood, feed_blank s understood]
      exact (List.append_nil _).symm
  | some line =>
      rw [reported_line understood, feed_performs understood, perform_diagnostics]
      rfl

end Line

/-! ## Lines that leave memory alone -/

theorem operationScript_memoryless (s : Lowering) (dest left : String) (op : Operator)
    (right : String) :
    ∀ instruction ∈ (s.operationScript dest left op right).flatMap Act.instructions,
      instruction.symbol? = none := by
  cases op <;> simp [operationScript, Operator.code, Act.instructions, Instruction.symbol?]

theorem controlScript_memoryless (s : Lowering) (flow : Transfer) :
    ∀ instruction ∈ (s.controlScript flow).flatMap Act.instructions,
      instruction.symbol? = none := by
  cases flow with
  | leave =>
      rw [controlScript]
      cases s.options.returnLabel <;>
        simp [returnCode, Act.instructions, Service.request, Instruction.symbol?]
  | _ => simp [controlScript, Act.instructions, Instruction.symbol?]

end Lowering

/-! ## Findings -/

def Finding.isError (finding : Finding) : Bool :=
  finding.severity == .error

namespace Lowering

section Found
variable (s : Lowering)

def printFindings (argument : String) : List Finding :=
  match s.registers.holder? argument with
  | some _ => []
  | none =>
      if Line.isTemp argument then
        match sameNumber? argument with
        | some register => [.unboundPrinted argument register]
        | none => [.unboundDropped argument]
      else if Line.isIntOrChar argument then []
      else (s.undeclared? argument).toList

def popFindings : List Finding :=
  match s.pending with
  | [] => [.noArgument]
  | argument :: _ => s.printFindings argument

def storeFindings (dest temp : String) : List Finding :=
  match s.storeSource? (s.typeOf dest).registerClass temp with
  | some _ => []
  | none => [.nothingStored dest (s.typeOf dest) temp]

def findings : Line → List Finding
  | .control (.ifGoto condition _) =>
      (s.untested? condition).toList ++ (s.misplaced? condition).toList
  | .call (.call callee count) =>
      if isPrint callee then (miscounted? count).toList ++ s.popFindings else []
  | .operation _ left op right => (s.operandless? op (s.operationClass op left right)).toList
  | .assign _ (.temp source) =>
      match s.registers.holder? source with
      | some _ => []
      | none => (s.undeclared? source).toList
  | .assign _ (.variable name) => (s.undeclared? name).toList
  | .store dest temp => (s.undeclared? dest).toList ++ s.storeFindings dest temp
  | .label _ | .declaration _ | .generic _ | .control (.goto _) | .control .leave
  | .call (.param _) | .assign _ (.increment _) | .assign _ (.intOrChar _)
  | .assign _ (.float _) => []

end Found

/-! ## The findings among the acts -/

section Scripts
variable {s : Lowering}

theorem filterMap_finding_cons (act : Act) (acts : List Act) :
    (act :: acts).filterMap Act.finding? =
      act.finding?.toList ++ acts.filterMap Act.finding? := by
  rw [List.filterMap_cons]
  cases act.finding? <;> rfl

theorem printScript_findings (argument : String) :
    (s.printScript argument).filterMap Act.finding? = s.printFindings argument := by
  unfold printScript printFindings
  cases s.registers.holder? argument with
  | some register => rfl
  | none =>
      by_cases temp : Line.isTemp argument = true
      · simp only [temp, ↓reduceIte]
        cases sameNumber? argument <;> rfl
      · by_cases literal : Line.isIntOrChar argument = true
        · simp only [temp, literal, ↓reduceIte]
          rfl
        · simp [temp, literal, filterMap_finding_cons, Act.finding?]

theorem popScript_findings : s.popScript.filterMap Act.finding? = s.popFindings := by
  unfold popScript popFindings
  cases s.pending with
  | nil => rfl
  | cons argument rest => exact printScript_findings argument

theorem storeScript_findings (dest temp : String) :
    (s.storeScript dest temp).filterMap Act.finding? =
      (s.undeclared? dest).toList ++ s.storeFindings dest temp := by
  rw [storeScript, storeFindings, filterMap_finding_cons]
  cases s.storeSource? (s.typeOf dest).registerClass temp <;> rfl

theorem storeBackScript_silent (cls : RegisterClass) (symbol : String) :
    (s.storeBackScript cls symbol).filterMap Act.finding? = [] := by
  cases cls <;> rfl

theorem assignScript_findings (dest : String) (value : Value) :
    (s.assignScript dest value).filterMap Act.finding? = s.findings (.assign dest value) := by
  cases value with
  | increment name | intOrChar text | float text => rfl
  | «variable» name =>
      simp [assignScript, loadScript, findings, filterMap_finding_cons, Act.finding?]
  | temp source =>
      simp only [assignScript, assignTempScript, findings]
      cases s.registers.holder? source with
      | some register =>
          simp only [List.filterMap_append, storeBackScript_silent, List.append_nil]
          rfl
      | none =>
          simp only [List.filterMap_append, storeBackScript_silent, List.append_nil]
          simp [loadScript, filterMap_finding_cons, Act.finding?]

/-- The acts of a line report its findings. -/
theorem script_findings (line : Line) :
    (s.script line).filterMap Act.finding? = s.findings line := by
  cases line with
  | label text | declaration declared | generic text => rfl
  | assign dest value => exact assignScript_findings dest value
  | store dest temp => exact storeScript_findings dest temp
  | operation dest left op right =>
      simp [script, operationScript, findings, filterMap_finding_cons, Act.finding?]
  | control flow =>
      cases flow with
      | ifGoto condition target =>
          simp [script, controlScript, findings, filterMap_finding_cons, Act.finding?]
      | goto target | leave => rfl
  | call made =>
      cases made with
      | param value => rfl
      | call callee count =>
          simp only [script, callScript, findings]
          by_cases known : isPrint callee = true
          · rw [if_pos known, if_pos known, filterMap_finding_cons, popScript_findings]
            rfl
          · rw [if_neg known, if_neg known]
            rfl

end Scripts

/-! ## How grave the findings are -/

section Severity
variable {s : Lowering}

theorem undeclared_warns (name : String) :
    ∀ finding ∈ s.undeclared? name, finding.severity = .warning := by
  unfold undeclared?
  split <;> simp [Finding.severity]

theorem untested_warns (condition : String) :
    ∀ finding ∈ s.untested? condition, finding.severity = .warning := by
  unfold untested?
  split <;> simp [Finding.severity]

theorem operandless_warns (op : Operator) (cls : RegisterClass) :
    ∀ finding ∈ s.operandless? op cls, finding.severity = .warning := by
  unfold operandless?
  split <;> simp [Finding.severity]

theorem miscounted_warns (count : Option UInt32) :
    ∀ finding ∈ miscounted? count, finding.severity = .warning := by
  cases count with
  | none => simp [miscounted?]
  | some passed => by_cases one : passed = 1 <;> simp [miscounted?, one, Finding.severity]

theorem misplaced_notes (condition : String) :
    ∀ finding ∈ s.misplaced? condition, finding.severity = .note := by
  unfold misplaced?
  split
  · split <;> simp [Finding.severity]
  · simp

theorem errorless {found : Option Finding} {severity : Severity}
    (grave : ∀ finding ∈ found, finding.severity = severity) (other : severity ≠ .error) :
    found.toList.filter Finding.isError = [] := by
  apply List.filter_eq_nil_iff.mpr
  intro finding member
  rw [Finding.isError, grave finding (Option.mem_toList.mp member)]
  simpa using other

theorem warning_errorless {found : Option Finding}
    (warns : ∀ finding ∈ found, finding.severity = .warning) :
    found.toList.filter Finding.isError = [] :=
  errorless warns (by decide)

end Severity

/-! ## What is reported of them -/

section Reported
variable {s : Lowering} {entry : Location × String} {line : Line}

/-- No line reports more than it finds. -/
theorem reported_initial (understood : Line.ofText? entry.2 = some line) :
    s.reported entry <+: (s.findings line).map (Finding.diagnostic · entry.1) := by
  rw [reported_line understood, ← script_findings]
  exact ((s.doing_initial entry.1 line).filterMap Act.finding?).map _

/-- A line that asks for nothing reports all that it finds. -/
theorem reported_findings (understood : Line.ofText? entry.2 = some line)
    (idle : (s.script line).all Act.isIdle = true) :
    s.reported entry = (s.findings line).map (Finding.diagnostic · entry.1) := by
  rw [reported_line understood, doing_idle understood idle, script_findings]

end Reported

end Lowering

end ThreeAddress
