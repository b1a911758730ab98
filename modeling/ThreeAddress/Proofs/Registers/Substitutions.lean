import ThreeAddress.Proofs.Lowering.Findings
import ThreeAddress.Proofs.Registers.Files

/-!
Registers that are read in the place of the one a temporary is held in. A line that stores, tests
or prints a temporary falls back on another register where it does not find the right one. A print
always says so. A branch is silent about a condition that is held nowhere, and a store about a
temporary that is not held in the class of a declared variable.
-/

namespace ThreeAddress

namespace Lowering
variable {s : Lowering} {entry : Location × String}

def usedTemp? (s : Lowering) : Line → Option String
  | .store _ temp => some temp
  | .control (.ifGoto condition _) => if Line.isTemp condition then some condition else none
  | .call (.call callee _) => if isPrint callee then s.pending.head?.filter Line.isTemp else none
  | _ => none

/-- The line reads another register of a class than the one that the temporary is held in, if it is
held in one. -/
def Substitutes (s : Lowering) (entry : Location × String) (temp : String) : Prop :=
  ∃ instruction register, Item.code instruction ∈ s.written entry ∧
    register ∈ instruction.sources ∧ register.registerClass? ≠ none ∧
    s.registers.holder? temp ≠ some register

def ReportsSubstitution (s : Lowering) (entry : Location × String) : Prop :=
  ∀ line temp, Line.ofText? entry.2 = some line → s.usedTemp? line = some temp →
    s.Substitutes entry temp → s.reported entry ≠ []

/-- The line stores the newest register of the class of a declared variable, since the temporary
that it names is held in none of that class. -/
def StoresOther (s : Lowering) (entry : Location × String) : Prop :=
  ∃ dest temp type register, Line.ofText? entry.2 = some (.store dest temp) ∧
    s.symbols.get? dest = some type ∧ s.tempClass? temp ≠ some type.registerClass ∧
    s.registers.newest? type.registerClass = some register

/-- The line branches on the newest general register, since the temporary that it names is held
nowhere. -/
def TestsOther (s : Lowering) (entry : Location × String) : Prop :=
  ∃ condition target register,
    Line.ofText? entry.2 = some (.control (.ifGoto condition target)) ∧
      Line.isTemp condition = true ∧ s.registers.holder? condition = none ∧
      s.registers.newest? .general = some register

/-! ## Stores -/

section Store
variable {dest temp : String} {type : SymbolType}

theorem storeSource?_held {cls : RegisterClass} (held : s.tempClass? temp = some cls) :
    s.storeSource? cls temp = s.registers.holder? temp := by
  obtain ⟨register, bound, inClass⟩ := Option.bind_eq_some_iff.mp held
  simp [storeSource?, bound, Option.filter, inClass]

theorem storeSource?_other {cls : RegisterClass} (other : s.tempClass? temp ≠ some cls) :
    s.storeSource? cls temp = s.registers.newest? cls := by
  have passed : (s.registers.holder? temp).filter (·.registerClass? == some cls) = none := by
    rw [Option.filter_eq_none_iff]
    intro register bound inClass
    exact other (by simp [tempClass?, bound, beq_iff_eq.mp inClass])
  simp [storeSource?, passed]

theorem store_silent_iff (understood : Line.ofText? entry.2 = some (.store dest temp)) :
    s.reported entry = [] ↔
      (∃ type, s.symbols.get? dest = some type) ∧
        ∃ register, s.storeSource? (s.typeOf dest).registerClass temp = some register := by
  rw [reported_idle understood (all_idle (storeScript_calm s dest temp))]
  cases declared : s.symbols.get? dest <;>
    cases found : s.storeSource? (s.typeOf dest).registerClass temp <;>
    simp [script, storeScript, Act.finding?, undeclared?, declared, found]

theorem store_reads (understood : Line.ofText? entry.2 = some (.store dest temp))
    {instruction : Instruction} {register : Register}
    (member : .code instruction ∈ s.written entry) (read : register ∈ instruction.sources) :
    s.storeSource? (s.typeOf dest).registerClass temp = some register := by
  have added := written_idle understood (all_idle (storeScript_calm s dest temp)) member
  cases found : s.storeSource? (s.typeOf dest).registerClass temp with
  | none => simp [script, storeScript, Act.instructions, found] at added
  | some source =>
      obtain rfl : instruction = .store (s.typeOf dest).storeOp source dest := by
        simpa [script, storeScript, Act.instructions, found] using added
      exact congrArg some (List.mem_singleton.mp read).symm

theorem store_written (understood : Line.ofText? entry.2 = some (.store dest temp))
    {register : Register}
    (found : s.storeSource? (s.typeOf dest).registerClass temp = some register) :
    .code (.store (s.typeOf dest).storeOp register dest) ∈ s.written entry := by
  rw [written_line understood, doing_idle understood (all_idle (storeScript_calm s dest temp))]
  simp [script, storeScript, Act.items, found]

theorem StoresOther.silent (other : s.StoresOther entry) :
    s.reported entry = [] ∧ ¬ s.ReportsSubstitution entry := by
  obtain ⟨dest, temp, type, register, understood, declared, unheld, newest⟩ := other
  have typed : s.typeOf dest = type := by simp [typeOf, declared]
  have found : s.storeSource? (s.typeOf dest).registerClass temp = some register := by
    rw [typed, storeSource?_other unheld, newest]
  have inClass := storeSource?_class found
  have silent := (store_silent_iff understood).mpr ⟨⟨type, declared⟩, register, found⟩
  refine ⟨silent, fun reports => reports _ temp understood rfl ?_ silent⟩
  refine ⟨_, register, store_written understood found, List.mem_singleton_self _, ?_, ?_⟩
  · simp [inClass]
  · intro bound
    exact unheld (by simp [tempClass?, bound, inClass, typed])

/-- A store that reports nothing and reads another register falls back on the newest. -/
theorem store_reports (understood : Line.ofText? entry.2 = some (.store dest temp))
    (substitutes : s.Substitutes entry temp) (other : ¬ s.StoresOther entry) :
    s.reported entry ≠ [] := by
  obtain ⟨instruction, register, member, read, -, unbound⟩ := substitutes
  have found := store_reads understood member read
  intro silent
  obtain ⟨⟨type, declared⟩, -⟩ := (store_silent_iff understood).mp silent
  have typed : s.typeOf dest = type := by simp [typeOf, declared]
  rw [typed] at found
  by_cases held : s.tempClass? temp = some type.registerClass
  · rw [storeSource?_held held] at found
    exact unbound found
  · rw [storeSource?_other held] at found
    exact other ⟨dest, temp, type, register, understood, declared, held, found⟩

end Store

/-! ## Branches -/

section Branch
variable {condition target : String}

theorem branch_silent_iff
    (understood : Line.ofText? entry.2 = some (.control (.ifGoto condition target))) :
    s.reported entry = [] ↔
      (∃ register, s.registers.newest? .general = some register) ∧
        ∀ register, s.registers.holder? condition = some register → register = s.tested := by
  rw [reported_idle understood (controlScript_idle s (.ifGoto condition target))]
  cases newest : s.registers.newest? .general <;>
    cases held : s.registers.holder? condition <;>
    simp [script, controlScript, Act.finding?, untested?, misplaced?, newest, held]

theorem branch_reads
    (understood : Line.ofText? entry.2 = some (.control (.ifGoto condition target)))
    {instruction : Instruction} {register : Register}
    (member : .code instruction ∈ s.written entry) (read : register ∈ instruction.sources) :
    register = s.tested := by
  have added := written_idle understood (controlScript_idle s (.ifGoto condition target)) member
  obtain rfl : instruction = .branchZero s.tested target := by
    simpa [script, controlScript, Act.instructions] using added
  exact List.mem_singleton.mp read

theorem TestsOther.silent (other : s.TestsOther entry) :
    s.reported entry = [] ∧ ¬ s.ReportsSubstitution entry := by
  obtain ⟨condition, target, register, understood, temp, unheld, newest⟩ := other
  have tested : s.tested = register := by simp [Lowering.tested, newest]
  have silent : s.reported entry = [] :=
    (branch_silent_iff understood).mpr ⟨⟨register, newest⟩, by simp [unheld]⟩
  have written : .code (.branchZero s.tested target) ∈ s.written entry := by
    have idle := controlScript_idle s (.ifGoto condition target)
    rw [written_line understood, doing_idle understood idle]
    simp [script, controlScript, Act.items]
  refine ⟨silent, fun reports => ?_⟩
  refine reports _ condition understood (by simp [usedTemp?, temp]) ?_ silent
  refine ⟨_, s.tested, written, List.mem_singleton_self _, ?_, by simp [unheld]⟩
  simp [tested, Allocation.recent?_class newest]

theorem branch_reports
    (understood : Line.ofText? entry.2 = some (.control (.ifGoto condition target)))
    (temp : Line.isTemp condition = true) (substitutes : s.Substitutes entry condition)
    (other : ¬ s.TestsOther entry) : s.reported entry ≠ [] := by
  obtain ⟨instruction, register, member, read, -, unbound⟩ := substitutes
  obtain rfl := branch_reads understood member read
  intro silent
  obtain ⟨⟨register, newest⟩, held⟩ := (branch_silent_iff understood).mp silent
  cases bound : s.registers.holder? condition with
  | none => exact other ⟨condition, target, register, understood, temp, bound, newest⟩
  | some holder => exact unbound (by rw [bound, held holder bound])

end Branch

/-! ## Prints -/

/-- A printed temporary is read from the register it is held in, or the print reports. -/
theorem printScript_reads {temp : String} (isTemp : Line.isTemp temp = true)
    (silent : (s.printScript temp).filterMap Act.finding? = []) {instruction : Instruction}
    (added : instruction ∈ (s.printScript temp).flatMap Act.instructions) {register : Register}
    (read : register ∈ instruction.sources) : s.registers.holder? temp = some register := by
  cases held : s.registers.holder? temp with
  | none => cases numbered : sameNumber? temp <;>
      simp [printScript, held, isTemp, numbered, Act.finding?] at silent
  | some bound =>
      simp only [printScript, held, List.flatMap_cons, List.flatMap_nil, List.append_nil,
        Act.instructions, Service.print, Service.request, List.mem_cons, List.not_mem_nil,
        or_false] at added
      rcases added with rfl | rfl | rfl
      · exact congrArg some (List.mem_singleton.mp read).symm
      · cases read
      · cases read

theorem print_reports {callee temp : String} {count : Option UInt32}
    (understood : Line.ofText? entry.2 = some (.call (.call callee count)))
    (known : isPrint callee = true) {rest : List String} (waiting : s.pending = temp :: rest)
    (isTemp : Line.isTemp temp = true) (substitutes : s.Substitutes entry temp) :
    s.reported entry ≠ [] := by
  obtain ⟨instruction, register, member, read, -, unbound⟩ := substitutes
  have idle := all_idle (callScript_calm s (.call callee count))
  have added := written_idle understood idle member
  rw [Ne, reported_idle understood idle]
  simp only [script, callScript, known, ↓reduceIte, popScript, waiting, List.flatMap_cons,
    Act.instructions, List.nil_append] at added
  intro silent
  simp only [script, callScript, known, ↓reduceIte, popScript, waiting] at silent
  have quiet : (s.printScript temp).filterMap Act.finding? = [] := by
    rw [List.filterMap_cons, List.filterMap_cons_none rfl, List.filterMap_cons_none rfl] at silent
    split at silent
    · exact silent
    · cases silent
  exact unbound (printScript_reads isTemp quiet added read)

/-! ## All lines -/

/-- A line that stores, tests or prints a temporary reports each register of a class that it reads
in the place of the one the temporary is held in, unless it stores another register into a declared
variable or tests another register for a temporary that is held nowhere. Then it reports nothing. -/
theorem substitutions_reported_iff (s : Lowering) (entry : Location × String) :
    (s.ReportsSubstitution entry ↔ ¬ s.StoresOther entry ∧ ¬ s.TestsOther entry) ∧
      (s.StoresOther entry ∨ s.TestsOther entry → s.reported entry = []) := by
  constructor
  · constructor
    · intro reports
      exact ⟨fun other => other.silent.2 reports, fun other => other.silent.2 reports⟩
    · -- Only three kinds of lines use a temporary.
      rintro ⟨noStore, noTest⟩ line temp understood used substitutes
      cases line with
      | store dest stored =>
          cases used
          exact store_reports understood substitutes noStore
      | control flow =>
          cases flow with
          | ifGoto condition target =>
              simp only [usedTemp?] at used
              split at used
              · rename_i isTemp
                cases used
                exact branch_reports understood isTemp substitutes noTest
              · cases used
          | goto target | leave => cases used
      | call made =>
          cases made with
          | param value => cases used
          | call callee count =>
              simp only [usedTemp?] at used
              split at used
              · rename_i known
                obtain ⟨first, isTemp⟩ := Option.filter_eq_some_iff.mp used
                obtain ⟨rest, waiting⟩ := List.head?_eq_some_iff.mp first
                exact print_reports understood known waiting isTemp substitutes
              · cases used
      | label text | declaration declared | operation dest left op right | assign dest value
      | generic text => cases used
  · rintro (other | other) <;> exact other.silent.1

/-- A float is stored into an integer: what goes there is the newest general register, and nothing
says so. -/
theorem stored_float_silent :
    let s := (start {}).after
      [(.input 1, "dataInt x"), (.input 2, "t0 = 1"), (.input 3, "t1 = 1.5")]
    s.registers.holder? "t1" = some (.f 0) ∧
      s.written (.input 4, "x = t1") = [.code (.store .word (.t 0) "x")] ∧
      s.reported (.input 4, "x = t1") = [] ∧
      ¬ s.ReportsSubstitution (.input 4, "x = t1") := by
  intro s
  have held : s.registers.holder? "t1" = some (.f 0) := by decide +kernel
  have stored : s.written (.input 4, "x = t1") = [.code (.store .word (.t 0) "x")] := by
    decide +kernel
  have silent : s.reported (.input 4, "x = t1") = [] := by decide +kernel
  refine ⟨held, stored, silent, fun reports => ?_⟩
  refine reports (.store "x" "t1") "t1" (by decide +kernel) rfl ?_ silent
  refine ⟨.store .word (.t 0) "x", .t 0, ?_, List.mem_singleton_self _, by decide, ?_⟩
  · rw [stored]
    exact List.mem_singleton_self _
  · rw [held]
    decide

end Lowering

end ThreeAddress
