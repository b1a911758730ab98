import ThreeAddress.Proofs.Lowering.Changes
import ThreeAddress.Proofs.Lowering.History

/-!
Every line goes through a chain of the changes that lines are made of, whatever the state it
starts from and whether or not it fails. So what each change keeps is kept by a whole run, such as
that the counters of the report tell its errors and its warnings.
-/

namespace ThreeAddress

namespace Allocation
variable (held : Allocation) (cls : RegisterClass)

@[simp] theorem newest?_hold (temp : String) (register : Register) :
    (held.hold temp register).newest? cls = held.newest? cls := by
  simp [newest?, recent?]

@[simp] theorem newest?_noteOrigin (register : Register) (name : String) :
    (held.noteOrigin register name).newest? cls = held.newest? cls := by
  simp [newest?, recent?]

theorem taken_hold (temp : String) (register other : Register) (taken : held.Taken other) :
    (held.hold temp register).Taken other := by
  obtain ⟨cls, inClass, below⟩ := taken
  exact ⟨cls, inClass, by simpa using below⟩

theorem taken_noteOrigin (register other : Register) (name : String)
    (taken : held.Taken other) : (held.noteOrigin register name).Taken other := by
  obtain ⟨cls, inClass, below⟩ := taken
  exact ⟨cls, inClass, by simpa using below⟩

end Allocation

namespace Lowering
variable {start s t : Lowering} {line : Line}

theorem Change.taken (change : Change start line s t) {register : Register}
    (taken : s.registers.Taken register) : t.registers.Taken register := by
  cases change with
  | comment text => simpa using taken
  | hold _ _ _ => exact Allocation.taken_hold _ _ _ _ taken
  | noteOrigin _ _ => exact Allocation.taken_noteOrigin _ _ _ _ taken
  | fill _ _ => exact Allocation.taken_advance _ _ _ taken
  | _ => exact taken

theorem Change.reports (change : Change start line s t) :
    s.report.diagnostics <+: t.report.diagnostics := by
  cases change with
  | raise finding => exact List.prefix_append _ _
  | comment text => exact comment_report s text ▸ List.prefix_rfl
  | _ => exact List.prefix_rfl

theorem Change.texts (change : Change start line s t) : s.text <+: t.text := by
  cases change with
  | comment text => exact comment_text s text ▸ List.prefix_append _ _
  | label text | raw text | code idle | fill room fills => exact List.prefix_append _ _
  | _ => exact List.prefix_rfl

theorem Change.options (change : Change start line s t) : t.options = s.options := by
  cases change with
  | comment text => exact comment_options s text
  | _ => rfl

namespace Reaches

theorem next (reached : Reaches start line s) (change : Change start line s t) :
    Reaches start line t :=
  Relation.ReflTransGen.tail reached change

/-- What every change keeps, every state on the way of the line has. -/
theorem keeps (Kept : Lowering → Prop)
    (kept : ∀ s t, Change start line s t → Kept s → Kept t) (first : Kept start)
    (reached : Reaches start line s) : Kept s := by
  induction reached with
  | refl => exact first
  | tail _ change ih => exact kept _ _ change ih

theorem taken (reached : Reaches start line s) {register : Register}
    (taken : start.registers.Taken register) : s.registers.Taken register :=
  reached.keeps (fun s => s.registers.Taken register)
    (fun _ _ change => change.taken) taken

theorem reports (reached : Reaches start line s) :
    start.report.diagnostics <+: s.report.diagnostics :=
  reached.keeps (fun s => start.report.diagnostics <+: s.report.diagnostics)
    (fun _ _ change before => before.trans change.reports) List.prefix_rfl

theorem warned_raise (reached : Reaches start line s) (finding : Finding)
    (warning : finding.severity = .warning) : Warned start (s.raise finding) := by
  refine ⟨finding.diagnostic s.location, ?_, warning⟩
  have grown := reached.reports.length_le
  have same : (s.raise finding).report.diagnostics =
      s.report.diagnostics ++ [finding.diagnostic s.location] := rfl
  rw [same, List.drop_append_of_le_length grown]
  exact List.mem_append_right _ List.mem_cons_self

end Reaches

theorem Warned.change (warned : Warned start s) (change : Change start line s t) :
    Warned start t := by
  obtain ⟨diagnostic, member, warning⟩ := warned
  obtain ⟨later, grown⟩ := change.reports
  refine ⟨diagnostic, ?_, warning⟩
  rw [← grown, List.drop_append]
  exact List.mem_append_left _ member

inductive Noted (s : Lowering) : Lowering → Prop
  | nothing : Noted s s
  | finding (finding : Finding) : Noted s (s.raise finding)

theorem Noted.registers (noted : Noted s t) : t.registers = s.registers := by
  cases noted <;> rfl

theorem Noted.text (noted : Noted s t) : t.text = s.text := by
  cases noted <;> rfl

theorem Noted.reaches (noted : Noted s t) (reached : Reaches start line s) :
    Reaches start line t := by
  cases noted with
  | nothing => exact reached
  | finding finding => exact reached.next (.raise s finding)

theorem Noted.warned (noted : Noted s t) (warned : Warned start s) : Warned start t := by
  cases noted with
  | nothing => exact warned
  | finding finding =>
      have change : Change start (.label "") s (s.raise finding) := .raise s finding
      exact warned.change change

theorem noteType_noted (s : Lowering) (name : String) : Noted s (s.noteType name) := by
  unfold noteType
  split
  · exact .nothing
  · exact .finding _

theorem noteTested_noted (s : Lowering) (condition : String) :
    Noted s (s.noteTested condition) := by
  unfold noteTested
  split
  · exact .nothing
  · exact .finding _

theorem noteOther_noted (s : Lowering) (condition : String) :
    Noted s (s.noteOther condition) := by
  unfold noteOther
  split
  · split
    · exact .nothing
    · exact .finding _
  · exact .nothing

theorem noteCount_noted (s : Lowering) (count : Option UInt32) :
    Noted s (s.noteCount count) := by
  unfold noteCount
  split
  · split
    · exact .nothing
    · exact .finding _
  · exact .nothing

theorem noteOperands_noted (s : Lowering) (op : Operator) (cls : RegisterClass) :
    Noted s (s.noteOperands op cls) := by
  unfold noteOperands
  split
  · exact .nothing
  · exact .finding _

namespace Reaches

/-- A fresh register and the code that fills it are one change. -/
theorem withRegister (reached : Reaches start line s) {cls : RegisterClass}
    {next : Register → Lowering → Outcome}
    (goesOn : s.registers.count cls < cls.capacity →
      Reaches start line (next (s.registers.upcoming cls) (s.advance cls)).1) :
    Reaches start line (s.withRegister cls next).1 := by
  by_cases room : s.registers.count cls < cls.capacity
  · rw [withRegister_room s cls next room]
    exact goesOn room
  · rw [withRegister_full s cls next room]
    exact reached

/-- The register that was filled last holds the temporary that the line assigns. -/
theorem fillHold (reached : Reaches start line s) {cls : RegisterClass} {temp : String}
    {instructions : Register → List Instruction} (assigned : line.dest? = some temp)
    (room : s.registers.count cls < cls.capacity) (fills : Fill start line s cls instructions) :
    Reaches start line (((s.advance cls).code (instructions (s.registers.upcoming cls))).hold
      temp (s.registers.upcoming cls)) := by
  have newest := Allocation.newest?_advance s.registers cls
  have fresh : ¬ start.registers.Taken (s.registers.upcoming cls) :=
    fun taken => Allocation.upcoming_fresh s.registers cls room (reached.taken taken)
  exact (reached.next (.fill room fills)).next (.hold assigned newest fresh)

end Reaches

theorem branch_reaches (condition target : String)
    (read : line = .control (.ifGoto condition target)) (reached : Reaches start line s) :
    Reaches start line (s.branch condition target) := by
  have marked := reached.next (.comment s "if")
  have tested := noteTested_noted (s.comment "if") condition
  have other := noteOther_noted ((s.comment "if").noteTested condition) condition
  apply (other.reaches (tested.reaches marked)).next
  apply Change.code
  cases found : s.registers.newest? .general with
  | some register =>
      rw [show s.tested = register by simp [Lowering.tested, found]]
      exact .branch target (by simpa [other.registers, tested.registers] using found)
  | none =>
      rw [show s.tested = .t 0 by simp [Lowering.tested, found]]
      refine .guessedBranch read (other.warned ?_)
      have raised : (s.comment "if").noteTested condition =
          (s.comment "if").raise (.nothingTested condition) := by
        simp [noteTested, found]
      rw [raised]
      exact marked.warned_raise _ rfl

theorem leave_reaches (reached : Reaches start line s) : Reaches start line s.leave := by
  apply (reached.next (.comment s "return")).next
  apply Change.code
  cases s.options.returnLabel with
  | some label => exact .jump label
  | none => exact .exit

theorem printArgument_reaches {callee : String} {count : Option UInt32}
    (read : line = .call (.call callee count)) (known : isPrint callee = true)
    (argument : String) (reached : Reaches start line s) :
    Reaches start line (s.printArgument argument) := by
  unfold printArgument
  split
  · rename_i register held
    exact reached.next (.code (.print held))
  · split
    · unfold printUnbound
      split
      · rename_i register numbered
        -- The warning comes first, so the read that follows is a guess that was announced.
        have raised := reached.next (.raise s (.unboundPrinted argument register))
        obtain ⟨number, _, rfl⟩ := Option.map_eq_some_iff.mp numbered
        exact raised.next (.code (.guessedPrint number read known (reached.warned_raise _ rfl)))
      · exact reached.next (.raise _ _)
    · split
      · exact reached.next (.code (.printLiteral argument))
      · refine ((noteType_noted s argument).reaches reached).next (.code (.printLoad argument ?_))
        unfold argumentLoad
        split
        · decide
        · cases typed : s.typeOf argument <;> simp_all [SymbolType.loadOp]

theorem print_reaches {callee : String} {count : Option UInt32}
    (read : line = .call (.call callee count)) (known : isPrint callee = true)
    (reached : Reaches start line s) : Reaches start line s.print := by
  unfold print
  split
  · exact reached.next (.raise _ _)
  · rename_i argument rest pending
    exact printArgument_reaches read known argument
      ((reached.next (.pend s rest)).next (.comment _ "print"))

theorem call_reaches (made : Call) (read : line = .call made) (reached : Reaches start line s) :
    Reaches start line (s.call made) := by
  cases made with
  | param value => exact reached.next (.pend s _)
  | call callee count =>
      unfold call
      by_cases known : isPrint callee = true
      · simp only [known, ↓reduceIte]
        exact print_reaches read known ((noteCount_noted s count).reaches reached)
      · simpa [known] using reached

theorem control_reaches (flow : Transfer) (read : line = .control flow)
    (reached : Reaches start line s) : Reaches start line (s.control flow) := by
  cases flow with
  | ifGoto condition target => exact branch_reaches condition target read reached
  | goto target => exact (reached.next (.comment s "goto")).next (.code (.jump target))
  | leave => exact leave_reaches reached

theorem declare_reaches (declared : Declaration) (reached : Reaches start line s) :
    Reaches start line (s.declare declared) :=
  (reached.next (.comment s _)).next (.declare _ _ _ _)

theorem store_reaches (dest temp : String) (reached : Reaches start line s) :
    Reaches start line (s.store dest temp) := by
  have noted := (noteType_noted s dest).reaches reached
  unfold store
  simp only
  split
  · rename_i register source
    exact noted.next (.code (.store dest source))
  · exact noted.next (.raise _ _)

/-- As `fillHold`, where a variable was loaded on the way. -/
theorem Reaches.fillOriginHold (reached : Reaches start line s) {cls : RegisterClass}
    {temp : String} (loaded : Register) (name : String)
    {instructions : Register → List Instruction} (assigned : line.dest? = some temp)
    (room : s.registers.count cls < cls.capacity) (fills : Fill start line s cls instructions) :
    Reaches start line ((((s.advance cls).code (instructions (s.registers.upcoming cls))).noteOrigin
      loaded name).hold temp (s.registers.upcoming cls)) := by
  have loads := (reached.next (.fill room fills)).next (.noteOrigin _ loaded name)
  have newest : ((s.registers.advance cls).noteOrigin loaded name).newest? cls =
      some (s.registers.upcoming cls) := by
    rw [Allocation.newest?_noteOrigin, Allocation.newest?_advance]
  have fresh : ¬ start.registers.Taken (s.registers.upcoming cls) :=
    fun taken => Allocation.upcoming_fresh s.registers cls room (reached.taken taken)
  exact loads.next (.hold assigned newest fresh)

theorem literal_reaches {dest : String} {op : ImmediateOp} {cls : RegisterClass} (text : String)
    (assigned : line.dest? = some dest)
    (fills : Fill start line s cls fun fresh => [.immediate op fresh text])
    (reached : Reaches start line s) :
    Reaches start line (s.literal dest op cls text).1 :=
  reached.withRegister fun room => reached.fillHold assigned room fills

theorem increment_reaches {dest : String} (name : String) (assigned : line.dest? = some dest)
    (reached : Reaches start line s) : Reaches start line (s.increment dest name).1 := by
  apply reached.withRegister
  intro room
  have loaded := reached.next (.fill room (.load .int name))
  apply loaded.withRegister
  intro roomAgain
  have newest : ((s.advance .general).code [.load .word (s.registers.upcoming .general) name]
      ).registers.newest? .general = some (s.registers.upcoming .general) :=
    Allocation.newest?_advance s.registers .general
  exact Reaches.fillOriginHold loaded _ name assigned roomAgain (.bump name newest)

theorem load_reaches {dest name : String} {next : Register → Lowering → Outcome}
    (assigned : line.dest? = some dest)
    (goesOn : ∀ t cls register, Reaches start line t → t.registers.newest? cls = some register →
      register.registerClass? = some cls → Reaches start line (next register t).1)
    (reached : Reaches start line s) : Reaches start line (s.load dest name next).1 := by
  have noted := (noteType_noted s name).reaches reached
  apply noted.withRegister
  intro room
  apply goesOn _ (s.typeOf name).registerClass
  · exact noted.fillOriginHold _ name assigned room (.load (s.typeOf name) name)
  · simpa using Allocation.newest?_advance _ _
  · exact Allocation.registerClass?_upcoming _ _

theorem copy_reaches {dest temp : String} {source : Register}
    {next : Register → Lowering → Outcome} (assigned : line.dest? = some dest)
    (held : s.registers.holder? temp = some source)
    (goesOn : ∀ t cls register, Reaches start line t → t.registers.newest? cls = some register →
      register.registerClass? = some cls → Reaches start line (next register t).1)
    (reached : Reaches start line s) : Reaches start line (s.copy dest source next).1 := by
  apply reached.withRegister
  intro room
  apply goesOn _ (source.registerClass?.getD .general)
  · exact reached.fillHold assigned room (.copy held)
  · simpa using Allocation.newest?_advance _ _
  · exact Allocation.registerClass?_upcoming _ _

theorem storeByte_reaches {cls : RegisterClass} {register : Register} (symbol : String)
    (newest : s.registers.newest? cls = some register)
    (inClass : register.registerClass? = some cls) (reached : Reaches start line s) :
    Reaches start line (s.storeByte register symbol).1 := by
  unfold storeByte
  cases cls with
  | float =>
      rw [if_pos ((Register.isFloat_iff register).mpr inClass)]
      exact reached.withRegister fun room => reached.next (.fill room (.moveOut symbol newest))
  | general =>
      have notFloat : ¬ register.isFloat = true := by
        rw [Register.isFloat_iff, inClass]
        decide
      rw [if_neg notFloat]
      exact reached.next (.code (.storeByte symbol newest))

theorem assignTemp_reaches {dest : String} (source : String)
    (assigned : line.dest? = some dest) (reached : Reaches start line s) :
    Reaches start line (s.assignTemp dest source).1 := by
  unfold assignTemp
  cases held : s.registers.holder? source with
  | some register =>
      exact copy_reaches assigned held (fun t cls filled reached newest inClass =>
        storeByte_reaches source newest inClass reached) reached
  | none =>
      exact load_reaches assigned (fun t cls filled reached newest inClass =>
        storeByte_reaches source newest inClass reached) reached

theorem assign_reaches {dest : String} (value : Value) (assigned : line.dest? = some dest)
    (reached : Reaches start line s) : Reaches start line (s.assign dest value).1 := by
  cases value with
  | increment name => exact increment_reaches name assigned reached
  | intOrChar text => exact literal_reaches text assigned (.integer text) reached
  | float text => exact literal_reaches text assigned (.single text) reached
  | temp source => exact assignTemp_reaches source assigned reached
  | «variable» name => exact load_reaches assigned (fun t _ _ reached _ _ => reached) reached

/-- An operation that finds a register for its result. -/
theorem operation_room (s : Lowering) (dest left : String) (op : Operator) (right : String)
    (room : s.registers.count (s.operationClass op left right) <
      (s.operationClass op left right).capacity) :
    ∃ t, Noted (s.comment ("op = " ++ op.symbol)) t ∧
      s.operation dest left op right =
        done (((t.advance (s.operationClass op left right)).code
          (op.code (s.operationClass op left right)
            (s.registers.upcoming (s.operationClass op left right))
            ((s.registers.previous? (s.operationClass op left right)).getD .zero)
            ((s.registers.newest? (s.operationClass op left right)).getD .zero))).hold dest
              (s.registers.upcoming (s.operationClass op left right))) := by
  have noted := noteOperands_noted (s.comment ("op = " ++ op.symbol)) op
    (s.operationClass op left right)
  have registers : ((s.comment ("op = " ++ op.symbol)).noteOperands op
      (s.operationClass op left right)).registers = s.registers := by
    rw [noted.registers, comment_registers]
  refine ⟨_, noted, ?_⟩
  unfold operation
  rw [withRegister_room _ _ _ (registers.symm ▸ room), registers]

theorem operation_reaches (s : Lowering) (dest left : String) (op : Operator) (right : String) :
    Reaches s (.operation dest left op right) (s.operation dest left op right).1 := by
  have marked : Reaches s (.operation dest left op right) (s.comment ("op = " ++ op.symbol)) :=
    .single (.comment s _)
  have noted := noteOperands_noted (s.comment ("op = " ++ op.symbol)) op
    (s.operationClass op left right)
  apply (noted.reaches marked).withRegister
  intro room
  exact (noted.reaches marked).fillHold rfl room
    (.operation rfl (by rw [noted.registers, comment_registers]))

/-- Whatever a line is, and whether or not it fails, it goes through a chain of changes. -/
theorem step_reaches (s : Lowering) (line : Line) : Reaches s line (s.step line).1 := by
  cases line with
  | label text => exact .single (.label s text)
  | declaration declared => exact declare_reaches declared .refl
  | control flow => exact control_reaches flow rfl .refl
  | call made => exact call_reaches made rfl .refl
  | operation dest left op right => exact operation_reaches s dest left op right
  | assign dest value => exact assign_reaches value rfl .refl
  | store dest temp => exact store_reaches dest temp .refl
  | generic text => exact .single (.raw s text)

theorem step_text (s : Lowering) (line : Line) : s.text <+: (s.step line).1.text :=
  (step_reaches s line).keeps (fun t => s.text <+: t.text)
    (fun _ _ change before => before.trans change.texts) List.prefix_rfl

/-- What every change keeps, and a change of place does not touch, holds after every history. -/
theorem history_keeps (Kept : Lowering → Prop)
    (moved : ∀ s location, Kept s → Kept { s with location })
    (kept : ∀ start line s t, Change start line s t → Kept s → Kept t)
    (s : Lowering) (first : Kept s) (history : List (Location × String)) :
    Kept (s.after history) := by
  apply after_keeps Kept _ s first
  intro s entry before
  have placed := moved s entry.1 before
  cases understood : Line.ofText? entry.2 with
  | some line =>
      rw [feed_line s understood]
      exact (step_reaches _ line).keeps Kept (kept _ line) placed
  | none =>
      rw [feed_blank s understood]
      exact placed

theorem after_text (s : Lowering) (history : List (Location × String)) :
    s.text <+: (s.after history).text :=
  history_keeps (fun t => s.text <+: t.text) (fun _ _ before => before)
    (fun _ _ _ _ change before => before.trans change.texts) s List.prefix_rfl history

theorem after_options (s : Lowering) (history : List (Location × String)) :
    (s.after history).options = s.options :=
  history_keeps (fun t => t.options = s.options) (fun _ _ same => same)
    (fun _ _ _ _ change same => change.options.trans same) s rfl history

end Lowering

/-! ## Counters -/

namespace Report

structure Counted (report : Report) : Prop where
  errors : report.errors = report.diagnostics.countP (·.severity = .error)
  warnings : report.warnings = report.diagnostics.countP (·.severity = .warning)

theorem Counted.add {report : Report} (counted : report.Counted) (diagnostic : Diagnostic) :
    (report.add diagnostic).Counted where
  errors := by
    rw [Report.add, List.countP_append, List.countP_singleton, counted.errors]
    simp only [decide_eq_true_eq]
  warnings := by
    rw [Report.add, List.countP_append, List.countP_singleton, counted.warnings]
    simp only [decide_eq_true_eq]

theorem Counted.hasErrors_iff {report : Report} (counted : report.Counted) :
    report.hasErrors = true ↔ ∃ diagnostic ∈ report.diagnostics, diagnostic.severity = .error := by
  rw [hasErrors, decide_eq_true_iff, counted.errors, List.countP_pos_iff]
  simp only [decide_eq_true_eq]

end Report

namespace Lowering

theorem Change.counted {start s t : Lowering} {line : Line} (change : Change start line s t)
    (counted : s.report.Counted) : t.report.Counted := by
  cases change with
  | comment text =>
      rw [comment_report]
      exact counted
  | raise finding => exact counted.add _
  | _ => exact counted

theorem after_counted (options : Options) (history : List (Location × String)) :
    ((start options).after history).report.Counted :=
  history_keeps (·.report.Counted) (fun _ _ counted => counted)
    (fun _ _ _ _ change counted => change.counted counted) _ ⟨rfl, rfl⟩ history

end Lowering

theorem Program.lower_counted {program : Program} {options : Options} {lowered : Lowered}
    (accepted : program.lower options = .ok lowered) : lowered.report.Counted := by
  unfold Program.lower at accepted
  split at accepted
  · rename_i final ended
    cases accepted
    obtain ⟨history, -, same⟩ :=
      (Lowering.start options).numberedLines_history program program.lines
    have last : final = (Lowering.start options).after history := by
      rw [← same]
      exact (congrArg Prod.fst ended).symm
    rw [last]
    exact Lowering.after_counted options history
  · cases accepted

end ThreeAddress
