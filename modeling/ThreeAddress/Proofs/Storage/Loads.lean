import ThreeAddress.Proofs.Lowering.Findings
import ThreeAddress.Proofs.Text.Flat

/-!
Loads of variables that were never declared. Such a variable is taken for an integer, and the line
that loads it warns of that, once and by name. The one load that looks no type up is that of an
increment, which is always a word.
-/

namespace ThreeAddress

def Diagnostic.isUndeclared (diagnostic : Diagnostic) : Bool :=
  diagnostic.severity == .warning &&
    "no declared type for variable ".toList.isPrefixOf diagnostic.message.toList

namespace Finding
open Text

def isUndeclared : Finding → Bool
  | undeclared _ => true
  | _ => false

theorem not_undeclared_of_opens {diagnostic : Diagnostic} {sign : Char}
    (opens : diagnostic.message.toList.head? = some sign) (other : sign ≠ 'n') :
    diagnostic.isUndeclared = false := by
  obtain ⟨later, begins⟩ : ∃ later, "no declared type for variable ".toList = 'n' :: later :=
    ⟨_, rfl⟩
  obtain ⟨rest, message⟩ := List.head?_eq_some_iff.mp opens
  rw [Diagnostic.isUndeclared, begins, message]
  simp [List.isPrefixOf, other.symm]

/-- No other finding is worded like the one of a missing declaration. -/
theorem diagnostic_isUndeclared (finding : Finding) (place : Location) :
    (finding.diagnostic place).isUndeclared = finding.isUndeclared := by
  cases finding with
  | undeclared name =>
      have said : (undeclared name).message =
          "no declared type for variable " ++ (quoted name ++ ", assuming int") :=
        String.append_assoc
      have begins : "no declared type for variable ".toList.isPrefixOf
          (undeclared name).message.toList = true := by
        rw [List.isPrefixOf_iff_prefix, said, String.toList_append]
        exact List.prefix_append _ _
      exact begins
  | nothingTested condition =>
      exact not_undeclared_of_opens (opens_append _ (opens_append _ (by decide)))
        (show 'b' ≠ 'n' by decide)
  | argumentCount passed =>
      exact not_undeclared_of_opens (opens_append _ (by decide)) (show 'p' ≠ 'n' by decide)
  | unboundPrinted temp printed =>
      exact not_undeclared_of_opens (opens_append _ (opens_append _ (opens_append _ (by decide))))
        (show 't' ≠ 'n' by decide)
  | missingOperand op cls count =>
      -- The message begins with the quote before the operator.
      exact not_undeclared_of_opens (opens_append _ (opens_append _ (opens_append _
        (opens_append _ (opens_append _ (opens_append _ (opens_append _ (by decide))))))))
        (show '\'' ≠ 'n' by decide)
  | otherTested condition bound tested => rfl
  | noArgument => rfl
  | unboundDropped temp => rfl
  | nothingStored dest type temp => rfl

end Finding

namespace Lowering
variable {s : Lowering}

/-! ## Acts that load -/

/-- Where acts load a symbol, they report that it is undeclared if it is, and nothing else of the
kind. -/
def LooksUp (s : Lowering) (acts : List Act) : Prop :=
  ∀ op dest name, Instruction.load op dest name ∈ acts.flatMap Act.instructions →
    (acts.filterMap Act.finding?).filter Finding.isUndeclared = (s.undeclared? name).toList

section Acts
variable {act : Act} {acts : List Act}

theorem looksUp_of_no_load (loadless : ∀ op dest name,
    Instruction.load op dest name ∉ acts.flatMap Act.instructions) : LooksUp s acts :=
  fun op dest name member => absurd member (loadless op dest name)

theorem looksUp_of_memoryless (memoryless : ∀ instruction ∈ acts.flatMap Act.instructions,
    instruction.symbol? = none) : LooksUp s acts :=
  looksUp_of_no_load fun _ _ _ member => nomatch memoryless _ member

theorem LooksUp.cons (looksUp : LooksUp s acts) (codeless : act.instructions = [])
    (other : ∀ finding ∈ act.finding?, finding.isUndeclared = false) :
    LooksUp s (act :: acts) := by
  intro op dest name member
  rw [List.flatMap_cons, codeless, List.nil_append] at member
  rw [List.filterMap_cons, ← looksUp op dest name member]
  cases found : act.finding? with
  | none => rfl
  | some finding => simp [other finding found]

theorem undeclared_filter (s : Lowering) (name : String) :
    ([Act.report (s.undeclared? name)].filterMap Act.finding?).filter Finding.isUndeclared =
      (s.undeclared? name).toList := by
  unfold undeclared?
  split <;> rfl

/-- Acts that look up the one symbol that they load. -/
theorem looksUp_load {name : String}
    (loads : ∀ op dest other, Instruction.load op dest other ∈ acts.flatMap Act.instructions →
      other = name)
    (silent : acts.filterMap Act.finding? = []) :
    LooksUp s (.report (s.undeclared? name) :: acts) := by
  intro op dest other member
  obtain rfl := loads op dest other member
  rw [← undeclared_filter, List.filterMap_cons, List.filterMap_cons, silent]
  rfl

end Acts

section Scripts
variable (s : Lowering)

theorem printScript_looksUp (argument : String) : LooksUp s (s.printScript argument) := by
  unfold printScript
  split
  · exact looksUp_of_no_load (by simp [Act.instructions, Service.print, Service.passArgument,
      Service.request])
  · split
    · split
      · exact looksUp_of_no_load (by simp [Act.instructions, Service.print, Service.passArgument,
          Service.request])
      · exact looksUp_of_no_load (by simp [Act.instructions])
    · split
      · exact looksUp_of_no_load (by simp [Act.instructions, Service.request])
      · exact looksUp_load (by simp [Act.instructions, Service.request]) rfl

theorem miscounted_other (count : Option UInt32) :
    ∀ finding ∈ miscounted? count, finding.isUndeclared = false := by
  unfold miscounted?
  split
  · split <;> simp [Finding.isUndeclared]
  · simp

theorem callScript_looksUp (made : Call) : LooksUp s (s.callScript made) := by
  cases made with
  | param value => exact looksUp_of_no_load (by simp [callScript, Act.instructions])
  | call callee count =>
      simp only [callScript, popScript]
      split
      · refine LooksUp.cons ?_ rfl (miscounted_other count)
        split
        · exact looksUp_of_no_load (by simp [Act.instructions])
        · exact ((printScript_looksUp s _).cons rfl (by simp [Act.finding?])).cons rfl
            (by simp [Act.finding?])
      · exact looksUp_of_no_load (by simp)

theorem storeBackScript_loadless (cls : RegisterClass) (symbol : String)
    (op : LoadOp) (dest : Register) (name : String) :
    Instruction.load op dest name ∉ (s.storeBackScript cls symbol).flatMap Act.instructions := by
  unfold storeBackScript storeByteScript
  split <;> simp [Act.instructions]

theorem assignTempScript_looksUp (dest source : String) :
    LooksUp s (s.assignTempScript dest source) := by
  have loadless := storeBackScript_loadless s
  unfold assignTempScript
  split
  · refine looksUp_of_no_load fun op filled name member => ?_
    rw [List.flatMap_append, List.mem_append] at member
    rcases member with copies | back
    · simp [copyScript, Act.instructions] at copies
    · exact loadless _ _ _ _ _ back
  · refine looksUp_load ?_ ?_
    · simp [Act.instructions, loadless]
    · simp [Act.finding?, List.filterMap_cons, storeBackScript_silent]

theorem assignScript_looksUp (dest : String) {value : Value}
    (other : ∀ name, value ≠ .increment name) : LooksUp s (s.assignScript dest value) := by
  cases value with
  | increment name => exact absurd rfl (other name)
  | intOrChar text | float text =>
      exact looksUp_of_no_load (by simp [assignScript, literalScript, Act.instructions])
  | temp source => exact assignTempScript_looksUp s dest source
  | «variable» name => exact looksUp_load (by simp [Act.instructions]) rfl

theorem storeScript_loadless (dest temp : String) (op : LoadOp) (filled : Register)
    (name : String) :
    Instruction.load op filled name ∉ (s.storeScript dest temp).flatMap Act.instructions := by
  unfold storeScript
  split <;> simp [Act.instructions]

/-- Every line but an increment looks up what it loads. -/
theorem script_looksUp {line : Line}
    (other : ∀ dest name, line ≠ .assign dest (.increment name)) : LooksUp s (s.script line) := by
  cases line with
  | label text | generic text | declaration declared =>
      exact looksUp_of_no_load (by simp [script, Act.instructions])
  | control flow => exact looksUp_of_memoryless (controlScript_memoryless s flow)
  | call made => exact callScript_looksUp s made
  | operation dest left op right =>
      exact looksUp_of_memoryless (operationScript_memoryless s dest left op right)
  | assign dest value =>
      exact assignScript_looksUp s dest fun name same => other dest name (same ▸ rfl)
  | store dest temp => exact looksUp_of_no_load (storeScript_loadless s dest temp)

end Scripts

/-! ## What lines report -/

def ReportsLoads (s : Lowering) (entry : Location × String) : Prop :=
  ∀ op dest name, Item.code (.load op dest name) ∈ s.written entry → s.symbols.get? name = none →
    (s.reported entry).filter Diagnostic.isUndeclared =
      [(Finding.undeclared name).diagnostic entry.1]

def IncrementsUndeclared (s : Lowering) (entry : Location × String) : Prop :=
  ∃ dest name, Line.ofText? entry.2 = some (.assign dest (.increment name)) ∧
    s.symbols.get? name = none

theorem reported_undeclared {entry : Location × String} {line : Line}
    (understood : Line.ofText? entry.2 = some line) (accepted : (s.feed entry).2 = none) :
    (s.reported entry).filter Diagnostic.isUndeclared =
      (((s.script line).filterMap Act.finding?).filter Finding.isUndeclared).map
        (Finding.diagnostic · entry.1) := by
  have same : Diagnostic.isUndeclared ∘ (Finding.diagnostic · entry.1) = Finding.isUndeclared :=
    funext fun finding => finding.diagnostic_isUndeclared entry.1
  rw [reported_line understood, doing_done understood accepted, List.filter_map, same]

theorem reports_of_looksUp {entry : Location × String} {line : Line}
    (understood : Line.ofText? entry.2 = some line) (accepted : (s.feed entry).2 = none)
    (looksUp : LooksUp s (s.script line)) : s.ReportsLoads entry := by
  intro op dest name member unknown
  have loads := written_code understood member
  rw [doing_done understood accepted] at loads
  have found : s.undeclared? name = some (.undeclared name) := by simp [undeclared?, unknown]
  rw [reported_undeclared understood accepted, looksUp op dest name loads, found]
  rfl

theorem increment_silent {entry : Location × String} {dest name : String}
    (understood : Line.ofText? entry.2 = some (.assign dest (.increment name)))
    (accepted : (s.feed entry).2 = none) : s.reported entry = [] := by
  rw [reported_line understood, doing_done understood accepted]
  rfl

theorem increment_loads {entry : Location × String} {dest name : String}
    (understood : Line.ofText? entry.2 = some (.assign dest (.increment name)))
    (accepted : (s.feed entry).2 = none) :
    .code (.load .word (s.registers.upcoming .general) name) ∈ s.written entry := by
  rw [written_line understood, doing_done understood accepted]
  simp [script, assignScript, incrementScript, Act.items]

theorem IncrementsUndeclared.unreported {entry : Location × String}
    (increments : s.IncrementsUndeclared entry) (accepted : (s.feed entry).2 = none) :
    ¬ s.ReportsLoads entry := by
  obtain ⟨dest, name, understood, unknown⟩ := increments
  intro reports
  have warned := reports _ _ _ (increment_loads understood accepted) unknown
  rw [increment_silent understood accepted] at warned
  cases warned

theorem reports_of_no_increment {entry : Location × String} (accepted : (s.feed entry).2 = none)
    (other : ¬ s.IncrementsUndeclared entry) : s.ReportsLoads entry := by
  cases understood : Line.ofText? entry.2 with
  | none =>
      intro op dest name member
      rw [written_blank understood] at member
      cases member
  | some line =>
      by_cases increment : ∃ dest name, line = .assign dest (.increment name)
      · obtain ⟨dest, name, rfl⟩ := increment
        intro op filled loaded member unknown
        -- An increment loads its own variable alone, which is declared here.
        have loads := written_code understood member
        rw [doing_done understood accepted] at loads
        obtain ⟨-, -, rfl⟩ : op = .word ∧ filled = s.registers.upcoming .general ∧
            loaded = name := by
          simpa [script, assignScript, incrementScript, Act.instructions] using loads
        exact absurd ⟨dest, loaded, understood, unknown⟩ other
      · have looksUp := script_looksUp s fun dest name same => increment ⟨dest, name, same⟩
        exact reports_of_looksUp understood accepted looksUp

/-- A line that is lowered warns exactly once of each symbol that it loads without a declared type,
unless it increments such a variable, and then it reports nothing at all. -/
theorem loads_reported_iff (s : Lowering) (entry : Location × String)
    (accepted : (s.feed entry).2 = none) :
    (s.ReportsLoads entry ↔ ¬ s.IncrementsUndeclared entry) ∧
      (s.IncrementsUndeclared entry → s.reported entry = []) := by
  refine ⟨⟨fun reports increments => increments.unreported accepted reports,
    reports_of_no_increment accepted⟩, ?_⟩
  rintro ⟨dest, name, understood, -⟩
  exact increment_silent understood accepted

theorem copied_variable_reported :
    ((start {}).feed (.input 1, "t0 = y")).2 = none ∧
      (start {}).ReportsLoads (.input 1, "t0 = y") := by
  have accepted : ((start {}).feed (.input 1, "t0 = y")).2 = none := by decide +kernel
  have understood : Line.ofText? "t0 = y" = some (.assign "t0" (.variable "y")) := by
    decide +kernel
  refine ⟨accepted, (loads_reported_iff (start {}) (.input 1, "t0 = y") accepted).1.mpr ?_⟩
  rintro ⟨dest, name, incremented, -⟩
  cases understood.symm.trans incremented

/-- The first line of a program loads and increments a variable that nothing declares, and no
warning says so. -/
theorem incremented_variable_unreported :
    ((start {}).feed (.input 1, "t0 = ++x")).2 = none ∧
      Item.code (.load .word (.t 0) "x") ∈ (start {}).written (.input 1, "t0 = ++x") ∧
      (start {}).symbols.get? "x" = none ∧ (start {}).reported (.input 1, "t0 = ++x") = [] ∧
      ¬ (start {}).ReportsLoads (.input 1, "t0 = ++x") := by
  have accepted : ((start {}).feed (.input 1, "t0 = ++x")).2 = none := by decide +kernel
  have understood : Line.ofText? "t0 = ++x" = some (.assign "t0" (.increment "x")) := by
    decide +kernel
  have increments : (start {}).IncrementsUndeclared (.input 1, "t0 = ++x") :=
    ⟨"t0", "x", understood, rfl⟩
  exact ⟨accepted, increment_loads understood accepted, rfl, increment_silent understood accepted,
    increments.unreported accepted⟩

end Lowering

end ThreeAddress
