import Mathlib.Logic.Embedding.Basic
import ThreeAddress.Instruction
import ThreeAddress.Proofs.Line.Shapes
import ThreeAddress.Proofs.Lowering.Places
import ThreeAddress.Proofs.Registers.Sources

/-!
The names of temporaries decide nothing. Where a temporary has a register, all that is asked of
its name is which one, and names that no two temporaries share answer that in the same way. Only
a temporary without a register is known by its name, as a variable or by its number, so what is
copied or passed must have been assigned.
-/

namespace ThreeAddress

/-! ## Other names

A renaming gives each temporary the name of a temporary and no two the same. It is carried to words,
lines and code: only what is read as a temporary is renamed, and the names of variables, labels and
verbatim text stay. -/

abbrev Temporary := {word : String // Line.isTemp word = true}

abbrev Renaming := Temporary ↪ Temporary

variable (rho : Renaming)

namespace Renaming

def word (word : String) : String :=
  if temp : Line.isTemp word = true then (rho ⟨word, temp⟩).1 else word

theorem word_temp {word : String} (temp : Line.isTemp word = true) :
    rho.word word = (rho ⟨word, temp⟩).1 :=
  dif_pos temp

theorem word_other {word : String} (other : Line.isTemp word = false) : rho.word word = word :=
  dif_neg (by simp [other])

@[simp] theorem isTemp_word (word : String) : Line.isTemp (rho.word word) = Line.isTemp word := by
  cases temp : Line.isTemp word with
  | true =>
      rw [rho.word_temp temp]
      exact (rho ⟨word, temp⟩).2
  | false => rw [rho.word_other temp, temp]

theorem word_injective : Function.Injective rho.word := by
  intro first second same
  have alike : Line.isTemp second = Line.isTemp first := by
    rw [← rho.isTemp_word first, same, rho.isTemp_word]
  cases temp : Line.isTemp first with
  | true =>
      rw [rho.word_temp temp, rho.word_temp (alike.trans temp)] at same
      exact congrArg Subtype.val (rho.injective (Subtype.ext same))
  | false => rwa [rho.word_other temp, rho.word_other (alike.trans temp)] at same

end Renaming

def Value.renamed : Value → Value
  | .temp source => .temp (rho.word source)
  | value => value

def Line.renamed : Line → Line
  | .control (.ifGoto condition target) => .control (.ifGoto (rho.word condition) target)
  | .call (.param value) => .call (.param (rho.word value))
  | .operation dest left op right =>
      .operation (rho.word dest) (rho.word left) op (rho.word right)
  | .assign dest value => .assign (rho.word dest) (value.renamed rho)
  | .store dest temp => .store dest (rho.word temp)
  | line => line

/-- In code the name of a temporary is only found where its value is stored as a byte. -/
def Instruction.renamed : Instruction → Instruction
  | .store .byte source symbol => .store .byte source (rho.word symbol)
  | instruction => instruction

def Item.renamed : Item → Item
  | .code instruction => .code (instruction.renamed rho)
  | item => item

/-! ## Lowering under other names -/

namespace Table
variable {Key Value : Type} [DecidableEq Key]

def mapKeys (f : Key → Key) (table : Table Key Value) : Table Key Value :=
  ⟨table.entries.map fun entry => (f entry.1, entry.2)⟩

variable {f : Key → Key} (injective : Function.Injective f)
include injective

theorem get?_mapKeys (table : Table Key Value) (key : Key) :
    (table.mapKeys f).get? (f key) = table.get? key := by
  obtain ⟨entries⟩ := table
  change lookup (entries.map _) (f key) = lookup entries key
  induction entries with
  | nil => rfl
  | cons entry rest ih =>
      obtain ⟨found, value⟩ := entry
      rw [List.map_cons, lookup, lookup, ih]
      simp only [injective.eq_iff]

theorem insert_mapKeys (table : Table Key Value) (key : Key) (value : Value) :
    (table.insert key value).mapKeys f = (table.mapKeys f).insert (f key) value := by
  obtain ⟨entries⟩ := table
  change Table.mk ((put entries key value).map _) = ⟨put (entries.map _) (f key) value⟩
  congr 1
  induction entries with
  | nil => rfl
  | cons entry rest ih =>
      obtain ⟨found, old⟩ := entry
      rw [List.map_cons, put, put]
      simp only [injective.eq_iff]
      split
      · rfl
      · rw [List.map_cons, ih]

end Table

namespace Allocation

def renamed (held : Allocation) : Allocation :=
  { held with holders := held.holders.mapKeys rho.word }

@[simp] theorem count_renamed (held : Allocation) (cls : RegisterClass) :
    (held.renamed rho).count cls = held.count cls := by
  cases cls <;> rfl

@[simp] theorem holder?_renamed (held : Allocation) (word : String) :
    (held.renamed rho).holder? (rho.word word) = held.holder? word :=
  Table.get?_mapKeys rho.word_injective held.holders word

theorem advance_renamed (held : Allocation) (cls : RegisterClass) :
    (held.advance cls).renamed rho = (held.renamed rho).advance cls := by
  cases cls <;> rfl

theorem hold_renamed (held : Allocation) (temp : String) (register : Register) :
    (held.hold temp register).renamed rho = (held.renamed rho).hold (rho.word temp) register := by
  simp only [hold, renamed, Table.insert_mapKeys rho.word_injective]

@[simp] theorem upcoming_renamed (held : Allocation) (cls : RegisterClass) :
    (held.renamed rho).upcoming cls = held.upcoming cls := by
  rw [upcoming, upcoming, count_renamed]

@[simp] theorem newest?_renamed (held : Allocation) (cls : RegisterClass) :
    (held.renamed rho).newest? cls = held.newest? cls := by
  rw [newest?, newest?, recent?, recent?, count_renamed]

@[simp] theorem previous?_renamed (held : Allocation) (cls : RegisterClass) :
    (held.renamed rho).previous? cls = held.previous? cls := by
  rw [previous?, previous?, recent?, recent?, count_renamed]

end Allocation

/-- Findings about a temporary without a register are left out: they depend on its number. -/
def Finding.renamed : Finding → Finding
  | .nothingTested condition => .nothingTested (rho.word condition)
  | .otherTested condition bound tested => .otherTested (rho.word condition) bound tested
  | .nothingStored dest type temp => .nothingStored dest type (rho.word temp)
  | finding => finding

@[simp] theorem Finding.severity_renamed (finding : Finding) :
    (finding.renamed rho).severity = finding.severity := by
  cases finding <;> rfl

def Act.renamed : Act → Act
  | .report finding => .report (finding.map (Finding.renamed rho))
  | .emit item => .emit (item.renamed rho)
  | .code instructions => .code (instructions.map (Instruction.renamed rho))
  | .hold temp register => .hold (rho.word temp) register
  | .pend arguments => .pend (arguments.map rho.word)
  | act => act

def Report.outline (report : Report) : List (Severity × Location) :=
  report.diagnostics.map fun diagnostic => (diagnostic.severity, diagnostic.location)

structure Report.Alike (one other : Report) : Prop where
  outline : other.outline = one.outline
  errors : other.errors = one.errors
  warnings : other.warnings = one.warnings

theorem Report.outline_add (report : Report) (diagnostic : Diagnostic) :
    (report.add diagnostic).outline =
      report.outline ++ [(diagnostic.severity, diagnostic.location)] :=
  List.map_append

theorem Report.Alike.add {one other : Report} (alike : one.Alike other) {here there : Diagnostic}
    (severity : there.severity = here.severity) (location : there.location = here.location) :
    (one.add here).Alike (other.add there) where
  outline := by rw [outline_add, outline_add, alike.outline, severity, location]
  errors := by simp only [Report.add, alike.errors, severity]
  warnings := by simp only [Report.add, alike.warnings, severity]

namespace Lowering

def renamed (s : Lowering) : Lowering :=
  { s with
    registers := s.registers.renamed rho
    pending := s.pending.map rho.word
    text := s.text.map (Item.renamed rho) }

structure Renamed (s t : Lowering) : Prop where
  same : t = { s.renamed rho with report := t.report }
  report : s.report.Alike t.report

variable {rho} {s t : Lowering}

namespace Renamed

theorem move (renamed : Renamed rho s t) (place : Location) :
    Renamed rho { s with location := place } { t with location := place } := by
  refine ⟨?_, renamed.report⟩
  rw [renamed.same]
  rfl

theorem raise (renamed : Renamed rho s t) (finding : Finding) :
    Renamed rho (s.raise finding) (t.raise (finding.renamed rho)) := by
  have place : t.location = s.location := by rw [renamed.same]; rfl
  refine ⟨?_, renamed.report.add (finding.severity_renamed rho) place⟩
  rw [renamed.same]
  rfl

theorem emit (renamed : Renamed rho s t) (items : List Item) :
    Renamed rho (s.emit items) (t.emit (items.map (Item.renamed rho))) := by
  refine ⟨?_, renamed.report⟩
  rw [renamed.same]
  simp only [Lowering.renamed, Lowering.emit, List.map_append]

theorem apply (renamed : Renamed rho s t) (act : Act) :
    Renamed rho (s.apply act) (t.apply (act.renamed rho)) := by
  cases act with
  | report finding =>
      cases finding with
      | none => exact renamed
      | some finding => exact renamed.raise finding
  | comment text =>
      have options : t.options = s.options := by rw [renamed.same]; rfl
      -- Comments name no temporary, so both states write the same one or none.
      simp only [Lowering.apply, Act.renamed, comment, options]
      split
      · exact renamed.emit [.comment text]
      · exact renamed
  | emit item => exact renamed.emit [item]
  | code instructions =>
      have moved : (instructions.map (Instruction.renamed rho)).map Item.code =
          (instructions.map .code).map (Item.renamed rho) := by
        rw [List.map_map, List.map_map]
        rfl
      simp only [Lowering.apply, Act.renamed, code, moved]
      exact renamed.emit _
  | take cls | hold temp register =>
      refine ⟨?_, renamed.report⟩
      rw [renamed.same]
      simp only [Lowering.apply, Act.renamed, Lowering.renamed, advance, hold,
        Allocation.advance_renamed, Allocation.hold_renamed]
  | noteOrigin register name | pend arguments | declare declared =>
      refine ⟨?_, renamed.report⟩
      rw [renamed.same]
      rfl

theorem script (renamed : Renamed rho s t) (line : Line) :
    t.script line = (s.renamed rho).script line := by
  rw [renamed.same]
  cases line with
  | control flow => cases flow <;> rfl
  | _ => rfl

theorem lacks (renamed : Renamed rho s t) (act : Act) :
    t.lacks? (act.renamed rho) = s.lacks? act := by
  rw [renamed.same]
  cases act with
  | take cls => simp only [Act.renamed, lacks?, Lowering.renamed, Allocation.count_renamed]
  | _ => rfl

theorem perform (renamed : Renamed rho s t) (acts : List Act) :
    (t.perform (acts.map (Act.renamed rho))).2 = (s.perform acts).2 ∧
      Renamed rho (s.perform acts).1 (t.perform (acts.map (Act.renamed rho))).1 := by
  have place : t.location = s.location := by rw [renamed.same]; rfl
  obtain ⟨states, _, full, one, other⟩ := perform_related (Renamed rho) (Act.renamed rho)
    (fun _ _ act renamed => renamed.lacks act) (fun _ _ act renamed => renamed.apply act)
    renamed acts
  rw [one, other, place]
  exact ⟨rfl, states⟩

end Renamed

/-! ## The acts of a renamed line -/

section Scripts
variable (rho) (s)

@[simp] theorem renamed_registers : (s.renamed rho).registers = s.registers.renamed rho := rfl

@[simp] theorem renamed_typeOf (name : String) : (s.renamed rho).typeOf name = s.typeOf name := rfl

@[simp] theorem renamed_undeclared (name : String) :
    (s.renamed rho).undeclared? name = s.undeclared? name := rfl

/-- Names of variables stay. -/
@[simp] theorem undeclared_stays (name : String) :
    (s.undeclared? name).map (Finding.renamed rho) = s.undeclared? name := by
  unfold undeclared?
  split <;> rfl

theorem tested_renamed : (s.renamed rho).tested = s.tested := by
  simp [tested]

theorem misplaced_renamed (condition : String) :
    (s.renamed rho).misplaced? (rho.word condition) =
      (s.misplaced? condition).map (Finding.renamed rho) := by
  simp only [misplaced?, renamed_registers, Allocation.holder?_renamed, tested_renamed]
  cases s.registers.holder? condition with
  | none => rfl
  | some bound => by_cases same : bound = s.tested <;> simp [same, Finding.renamed]

theorem untested_renamed (condition : String) :
    (s.renamed rho).untested? (rho.word condition) =
      (s.untested? condition).map (Finding.renamed rho) := by
  simp only [untested?, renamed_registers, Allocation.newest?_renamed]
  cases s.registers.newest? .general <;> rfl

theorem operandless_renamed (op : Operator) (cls : RegisterClass) :
    (s.renamed rho).operandless? op cls =
      (s.operandless? op cls).map (Finding.renamed rho) := by
  simp only [operandless?, renamed_registers, Allocation.previous?_renamed,
    Allocation.count_renamed]
  cases s.registers.previous? cls <;> rfl

theorem operationClass_renamed (op : Operator) (left right : String) :
    (s.renamed rho).operationClass op (rho.word left) (rho.word right) =
      s.operationClass op left right := by
  have held : ∀ word, (s.renamed rho).tempClass? (rho.word word) = s.tempClass? word := by
    intro word
    simp [tempClass?]
  unfold operationClass sumClass
  rw [held, held]
  rfl

theorem storeSource_renamed (cls : RegisterClass) (temp : String) :
    (s.renamed rho).storeSource? cls (rho.word temp) = s.storeSource? cls temp := by
  simp [storeSource?]

theorem operator_stays (op : Operator) (cls : RegisterClass) (dest left right : Register) :
    (op.code cls dest left right).map (Instruction.renamed rho) =
      op.code cls dest left right := by
  cases op <;> rfl

theorem store_stays (op : StoreOp) (register : Register) {symbol : String}
    (other : Line.isTemp symbol = false) :
    (Instruction.store op register symbol).renamed rho = .store op register symbol := by
  cases op with
  | byte => simp only [Instruction.renamed, rho.word_other other]
  | word | single => rfl

theorem operationScript_renamed (dest left : String) (op : Operator) (right : String) :
    (s.renamed rho).operationScript (rho.word dest) (rho.word left) op (rho.word right) =
      (s.operationScript dest left op right).map (Act.renamed rho) := by
  simp [operationScript, Act.renamed, operationClass_renamed, operandless_renamed, operator_stays]

theorem loadScript_renamed (dest name : String) :
    (s.renamed rho).loadScript (rho.word dest) name =
      (s.loadScript dest name).map (Act.renamed rho) := by
  simp [loadScript, Act.renamed, Instruction.renamed]

theorem copyScript_renamed (dest : String) (source : Register) :
    (s.renamed rho).copyScript (rho.word dest) source =
      (s.copyScript dest source).map (Act.renamed rho) := by
  simp [copyScript, Act.renamed, Instruction.renamed]

theorem storeBackScript_renamed (cls : RegisterClass) (symbol : String) :
    (s.renamed rho).storeBackScript cls (rho.word symbol) =
      (s.storeBackScript cls symbol).map (Act.renamed rho) := by
  simp only [storeBackScript, storeByteScript, renamed_registers, Allocation.upcoming_renamed,
    ← Allocation.advance_renamed]
  split <;> rfl

theorem assignScript_renamed (dest : String) {value : Value}
    (bound : ∀ source, value = .temp source → s.Bound source) :
    (s.renamed rho).assignScript (rho.word dest) (value.renamed rho) =
      (s.assignScript dest value).map (Act.renamed rho) := by
  cases value with
  | increment name =>
      simp [assignScript, Value.renamed, incrementScript, Act.renamed, Instruction.renamed,
        ← Allocation.advance_renamed]
  | intOrChar text | float text =>
      simp [assignScript, Value.renamed, literalScript, Act.renamed, Instruction.renamed]
  | «variable» name => exact loadScript_renamed rho s dest name
  | temp source =>
      -- A bound temporary is copied; any other would be loaded by its name.
      obtain ⟨register, held⟩ := Option.isSome_iff_exists.mp (bound source rfl)
      simp only [assignScript, Value.renamed, assignTempScript, renamed_registers,
        Allocation.holder?_renamed, held]
      rw [copyScript_renamed, storeBackScript_renamed, List.map_append]

theorem printScript_renamed {argument : String}
    (bound : Line.isTemp argument = true → s.Bound argument) :
    (s.renamed rho).printScript (rho.word argument) =
      (s.printScript argument).map (Act.renamed rho) := by
  simp only [printScript, renamed_registers, Allocation.holder?_renamed]
  cases held : s.registers.holder? argument with
  | some register => rfl
  | none =>
      -- What is not bound is no temporary, so its name stays, and all that is read off it.
      have other : Line.isTemp argument = false := by
        rw [← Bool.not_eq_true]
        intro temp
        have found := bound temp
        rw [Bound, held] at found
        cases found
      simp only [rho.word_other other, other, Bool.false_eq_true, ↓reduceIte, renamed_undeclared,
        renamed_typeOf]
      split
      · rfl
      · rw [List.map_cons, Act.renamed, undeclared_stays]
        rfl

theorem callScript_renamed (callee : String) (count : Option UInt32)
    (bound : ∀ argument ∈ s.pending, Line.isTemp argument = true → s.Bound argument) :
    (s.renamed rho).callScript (.call callee count) =
      (s.callScript (.call callee count)).map (Act.renamed rho) := by
  simp only [callScript]
  split
  · have counted : (miscounted? count).map (Finding.renamed rho) = miscounted? count := by
      unfold miscounted?
      split
      · split <;> rfl
      · rfl
    rw [List.map_cons, Act.renamed, counted]
    congr 1
    simp only [popScript, renamed]
    cases waiting : s.pending with
    | nil => rfl
    | cons argument rest =>
        -- A bound argument is printed from its register, whatever it is called.
        have held := bound argument (waiting ▸ List.mem_cons_self)
        have printed := printScript_renamed rho s held
        simp only [List.map_cons]
        rw [← printed]
        rfl
  · rfl

theorem script_renamed {line : Line} (proper : line.Proper)
    (sources : ∀ temp ∈ line.source?, s.Bound temp)
    (waiting : ∀ argument ∈ s.pending, Line.isTemp argument = true → s.Bound argument) :
    (s.renamed rho).script (line.renamed rho) = (s.script line).map (Act.renamed rho) := by
  cases line with
  | label text | generic text | declaration declared => rfl
  | control flow =>
      cases flow with
      | ifGoto condition target =>
          simp [Line.renamed, script, controlScript, Act.renamed, Instruction.renamed,
            tested_renamed, untested_renamed, misplaced_renamed]
      | goto target => rfl
      | leave =>
          have code : (returnCode s.options.returnLabel).map (Instruction.renamed rho) =
              returnCode s.options.returnLabel := by
            cases s.options.returnLabel <;> rfl
          simp only [Line.renamed, script, controlScript, List.map_cons, Act.renamed, code]
          rfl
  | call made =>
      cases made with
      | param value => rfl
      | call callee count => exact callScript_renamed rho s callee count waiting
  | operation dest left op right => exact operationScript_renamed rho s dest left op right
  | assign dest value =>
      refine assignScript_renamed rho s dest ?_
      rintro source rfl
      exact sources source rfl
  | store dest temp =>
      -- The symbol of this store is no temporary, or it would have been read as an assignment.
      have other := proper.stored dest temp rfl
      simp only [Line.renamed, script, storeScript, renamed_typeOf, renamed_undeclared,
        storeSource_renamed, List.map_cons, Act.renamed, undeclared_stays]
      split
      · simp [Act.renamed, store_stays rho _ _ other]
      · simp [Act.renamed, Finding.renamed]

end Scripts

/-! ## Runs -/

/-- What is ready for its lines is followed alike under other names. -/
theorem follow_renamed {known : List String} {lines : List (Location × Line)}
    (read : ∀ entry ∈ lines, entry.2.Proper) (assigned : SourcesAssigned known (lines.map Prod.snd))
    (ready : Ready s known) (renamed : Renamed rho s t) :
    (t.follow (lines.map fun entry => (entry.1, entry.2.renamed rho))).2 = (s.follow lines).2 ∧
      Renamed rho (s.follow lines).1
        (t.follow (lines.map fun entry => (entry.1, entry.2.renamed rho))).1 := by
  induction lines generalizing s t known with
  | nil => exact ⟨rfl, renamed⟩
  | cons entry rest ih =>
      obtain ⟨place, line⟩ := entry
      obtain ⟨sources, later⟩ := assigned
      rw [List.forall_mem_cons] at read
      -- What is bound here goes into the acts of the line, and what it leaves bound into the rest.
      have here : Ready { s with location := place } known := ⟨ready.known, ready.waiting⟩
      have next := here.step sources
      have moved := renamed.move place
      have script : { t with location := place }.script (line.renamed rho) =
          ({ s with location := place }.script line).map (Act.renamed rho) := by
        rw [moved.script]
        exact script_renamed rho _ read.1 (fun temp source => here.known temp (sources temp source))
          here.waiting
      obtain ⟨failure, states⟩ := moved.perform ({ s with location := place }.script line)
      rw [← script, ← step_performs, ← step_performs] at failure states
      rw [List.map_cons]
      unfold follow
      simp only
      generalize { s with location := place }.step line = one at failure states next
      generalize { t with location := place }.step (line.renamed rho) = two at failure states
      obtain ⟨following, failed⟩ := one
      obtain ⟨alsoFollowing, _⟩ := two
      cases failure
      cases failed with
      | none => exact ih read.2 later (next rfl) states
      | some failure => exact ⟨rfl, states⟩

/-- The names of temporaries matter only up to renaming. Lines that were read, and that copy and
pass only temporaries that were assigned before, are followed from the start in the same way under
other names: the same failure or none, the state that the renamed one is, and the same reports
but for their words. -/
theorem temporary_names_irrelevant (rho : Renaming) (options : Options)
    (lines : List (Location × Line))
    (read : ∀ entry ∈ lines, ∃ raw, Line.ofText? raw = some entry.2)
    (assigned : SourcesAssigned [] (lines.map Prod.snd)) :
    let one := (start options).follow lines
    let two := (start options).follow (lines.map fun entry => (entry.1, entry.2.renamed rho))
    two.2 = one.2 ∧ two.1 = { one.1.renamed rho with report := two.1.report } ∧
      one.1.report.Alike two.1.report := by
  have proper : ∀ entry ∈ lines, entry.2.Proper := by
    intro entry member
    obtain ⟨_, understood⟩ := read entry member
    exact Line.ofText_proper understood
  have ready : Ready (start options) [] := ⟨nofun, nofun⟩
  have renamed : Renamed rho (start options) (start options) := ⟨rfl, rfl, rfl, rfl⟩
  obtain ⟨failure, states⟩ := follow_renamed proper assigned ready renamed
  exact ⟨failure, states.same, states.report⟩

/-- Two temporaries change names; the byte that is stored on the way is stored under the new one. -/
theorem swapped_copy_printed :
    let rho : Renaming := (Equiv.swap ⟨"t0", by decide⟩ ⟨"t1", by decide⟩).toEmbedding
    let lines : List (Location × Line) :=
      [(.input 1, .assign "t0" (.intOrChar "65")), (.input 2, .assign "t1" (.temp "t0")),
        (.input 3, .call (.param "t1")), (.input 4, .call (.call "print" (some 1)))]
    (∀ entry ∈ lines, ∃ raw, Line.ofText? raw = some entry.2) ∧
      SourcesAssigned [] (lines.map Prod.snd) ∧
      let other := (start {}).follow (lines.map fun entry => (entry.1, entry.2.renamed rho))
      other.2 = none ∧ other.1.registers.holder? "t0" = some (.t 1) ∧
        Item.code (.store .byte (.t 1) "t1") ∈ other.1.text := by
  intro rho lines
  have read : ∀ entry ∈ lines, ∃ raw, Line.ofText? raw = some entry.2 := by
    simp only [lines, List.forall_mem_cons]
    refine ⟨⟨"t0 = 65", ?_⟩, ⟨"t1 = t0", ?_⟩, ⟨"param t1", ?_⟩, ⟨"call print, 1", ?_⟩, nofun⟩
    all_goals decide +kernel
  have assigned : SourcesAssigned [] (lines.map Prod.snd) := by
    simp [lines, SourcesAssigned, Line.source?, Line.dest?]
  obtain ⟨failure, same, _⟩ := temporary_names_irrelevant rho {} lines read assigned
  refine ⟨read, assigned, failure.trans (by decide +kernel), ?_, ?_⟩
  · rw [same]
    decide +kernel
  · rw [same]
    decide +kernel

end Lowering

end ThreeAddress
