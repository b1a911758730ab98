import ThreeAddress.Proofs.Line.SourceTexts
import ThreeAddress.Proofs.Lowering.Options
import ThreeAddress.Proofs.Registers.Sources
import ThreeAddress.Proofs.Storage.Declarations

/-!
Every entry and every item of a lowered program takes one line of its own, and only comments begin
with `#`. Whatever lines take over from their source goes either into an item at once or into what
the lowering keeps for later lines, so nothing that is kept may break a line either.
-/

namespace ThreeAddress
open Text

def Item.Tidy (item : Item) : Prop :=
  Flat item.text ∧ (item.text.toList.head? = some '#' ↔ item.isComment = true)

namespace Instruction

def sourceText? : Instruction → Option String
  | immediate _ _ text | load _ _ text | store _ _ text | branchZero _ text | jump text => some text
  | compute .. | addImmediate .. | intoLo .. | fromLo _ | copy .. | syscall => none

/-- Mnemonics take one line and begin with a letter. -/
theorem mnemonic_lower (instruction : Instruction) :
    Flat instruction.mnemonic ∧ instruction.mnemonic.toList.head?.any Char.isLower = true := by
  cases instruction with
  | compute op | intoLo op | immediate op | copy op | load op | store op =>
      exact (show Flat op.mnemonic ∧ op.mnemonic.toList.head?.any Char.isLower = true by
        cases op <;> decide)
  | addImmediate => exact (show Flat "addi" ∧ "addi".toList.head?.any Char.isLower by decide)
  | fromLo => exact (show Flat "mflo" ∧ "mflo".toList.head?.any Char.isLower by decide)
  | branchZero => exact (show Flat "beqz" ∧ "beqz".toList.head?.any Char.isLower by decide)
  | jump => exact (show Flat "j" ∧ "j".toList.head?.any Char.isLower by decide)
  | «syscall» => exact (show Flat "syscall" ∧ "syscall".toList.head?.any Char.isLower by decide)

def Unbroken (instruction : Instruction) : Prop :=
  ∀ text ∈ instruction.sourceText?, Flat text

theorem mnemonic_opens (instruction : Instruction) :
    ∃ sign, instruction.mnemonic.toList.head? = some sign ∧ sign ≠ '#' := by
  have lower := instruction.mnemonic_lower.2
  cases opens : instruction.mnemonic.toList.head? with
  | none =>
      rw [opens] at lower
      cases lower
  | some sign =>
      refine ⟨sign, rfl, ?_⟩
      rintro rfl
      rw [opens] at lower
      exact absurd lower (by decide)

theorem register_flat (register : Register) : Flat register.name := by
  cases register with
  | t index | f index => exact Flat.append (by decide) (flat_nat index.toNat)
  | _ => decide

theorem Unbroken.operands {instruction : Instruction} (unbroken : instruction.Unbroken) :
    ∀ operand ∈ instruction.operands, Flat operand := by
  cases instruction <;>
    simp_all [Unbroken, Instruction.operands, sourceText?, register_flat, flat_int]

theorem text_opens (instruction : Instruction) :
    ∃ sign, instruction.text.toList.head? = some sign ∧ sign ≠ '#' := by
  obtain ⟨sign, opens, other⟩ := instruction.mnemonic_opens
  refine ⟨sign, ?_, other⟩
  unfold text
  split
  · exact opens
  · exact opens_append _ (opens_append _ opens)

theorem Unbroken.text {instruction : Instruction} (unbroken : instruction.Unbroken) :
    Flat instruction.text := by
  have named := instruction.mnemonic_lower.1
  unfold Instruction.text
  split
  · exact named
  · exact (named.append (by decide)).append (flat_intercalate (by decide) unbroken.operands)

theorem Unbroken.tidy {instruction : Instruction} (unbroken : instruction.Unbroken) :
    (Item.code instruction).Tidy := by
  obtain ⟨sign, opens, other⟩ := instruction.text_opens
  refine ⟨unbroken.text, ?_⟩
  simp [Item.text, Item.isComment, opens, other]

end Instruction

theorem Item.comment_tidy {text : String} (flat : Flat text) : (Item.comment text).Tidy := by
  refine ⟨Flat.append (by decide) flat, ?_⟩
  simp [Item.text, Item.isComment]

theorem Line.Clean.label_tidy {text : String} (clean : (Line.label text).Clean) :
    (Item.label text).Tidy := by
  refine ⟨clean.flat text (List.mem_singleton_self text), ?_⟩
  simpa [Item.text, Item.isComment] using clean.unmarked text (.inl rfl)

theorem Line.Clean.raw_tidy {text : String} (clean : (Line.generic text).Clean) :
    (Item.raw text).Tidy := by
  refine ⟨clean.flat text (List.mem_singleton_self text), ?_⟩
  simpa [Item.text, Item.isComment] using clean.unmarked text (.inr rfl)

theorem Declaration.line_flat {declared : Declaration} (flat : Flat declared.name) :
    Flat (declared.storage.line declared.name) := by
  rw [storage_line]
  cases declared with
  | array name count =>
      exact (Flat.append flat (by decide)).append (flat_nat _)
  | _ => exact Flat.append flat (by decide)

def Act.Tidy : Act → Prop
  | .comment text => Flat text
  | .emit item => item.Tidy
  | .code instructions => ∀ instruction ∈ instructions, instruction.Unbroken
  | .pend arguments => ∀ argument ∈ arguments, Flat argument
  | .declare declared => Flat declared.name
  | _ => True

theorem Act.Tidy.items {act : Act} (tidy : act.Tidy) (comments : Bool) :
    ∀ item ∈ act.items comments, item.Tidy := by
  intro item member
  cases act with
  | comment text =>
      simp only [Act.items] at member
      split at member
      · obtain rfl := List.mem_singleton.mp member
        exact Item.comment_tidy tidy
      · cases member
  | emit added =>
      obtain rfl := List.mem_singleton.mp member
      exact tidy
  | code instructions =>
      obtain ⟨instruction, among, rfl⟩ := List.mem_map.mp member
      exact (tidy instruction among).tidy
  | _ => cases member

namespace Lowering
variable {s : Lowering}

/-- Nothing that the lowering has written or keeps breaks a line. -/
structure Tidy (s : Lowering) : Prop where
  items : ∀ item ∈ s.text, item.Tidy
  entries : ∀ entry ∈ s.data.entries, Flat (entry.2.line entry.1)
  arguments : ∀ argument ∈ s.pending, Flat argument
  returns : ∀ label ∈ s.options.returnLabel, Flat label

theorem Tidy.apply (tidy : s.Tidy) {act : Act} (acts : act.Tidy) : (s.apply act).Tidy where
  items := by
    intro item member
    rw [apply_text, List.mem_append] at member
    exact member.elim (tidy.items item) (acts.items _ item)
  entries := by
    intro entry member
    -- Only a declaration adds an entry, and its line is made of its name and of numbers.
    by_cases other : act.declared? = none
    · exact tidy.entries entry ((apply_declares_nothing other).1 ▸ member)
    · cases act with
      | declare declared =>
          rcases Table.mem_put member with rfl | before
          · exact Declaration.line_flat acts
          · exact tidy.entries entry before
      | _ => exact absurd rfl other
  arguments := by
    rw [apply_pending]
    cases act with
    | pend arguments => exact acts
    | _ => exact tidy.arguments
  returns := by
    rw [apply_options]
    exact tidy.returns

/-! ## The acts of each line -/

section Scripts

theorem request_unbroken (service : Service) :
    ∀ instruction ∈ service.request, instruction.Unbroken := by
  simp [Service.request, Instruction.Unbroken, Instruction.sourceText?, flat_nat]

theorem print_unbroken (source : Register) :
    ∀ instruction ∈ Service.print source, instruction.Unbroken := by
  have passed : (Service.passArgument source).Unbroken := by
    simp [Service.passArgument, Instruction.Unbroken, Instruction.sourceText?]
  exact List.forall_mem_cons.mpr ⟨passed, request_unbroken .printInteger⟩

theorem printScript_tidy {argument : String} (flat : Flat argument) :
    ∀ act ∈ s.printScript argument, act.Tidy := by
  have request := request_unbroken .printInteger
  unfold printScript
  split
  · simpa [Act.Tidy] using print_unbroken _
  · split
    · split
      · simpa [Act.Tidy] using print_unbroken _
      · simp [Act.Tidy]
    · split
      · simpa [Act.Tidy, Instruction.Unbroken, Instruction.sourceText?, flat] using request
      · simpa [Act.Tidy, Instruction.Unbroken, Instruction.sourceText?, flat] using request

theorem Tidy.callScript (tidy : s.Tidy) {made : Call} (clean : (Line.call made).Clean) :
    ∀ act ∈ s.callScript made, act.Tidy := by
  have waiting := tidy.arguments
  cases made with
  | param value =>
      have passed : Flat value := clean.flat value (List.mem_singleton_self value)
      simpa [Lowering.callScript, Act.Tidy, passed] using waiting
  | call callee count =>
      simp only [Lowering.callScript, popScript]
      split
      · split
        · simp [Act.Tidy]
        · rename_i argument rest pended
          -- The argument comes from a line above.
          rw [pended] at waiting
          have printed := printScript_tidy (s := s) (waiting argument List.mem_cons_self)
          have left := (List.forall_mem_cons.mp waiting).2
          have marked : Flat "print" := by decide
          simpa [Act.Tidy, marked] using ⟨left, printed⟩
      · simp

theorem Tidy.returnCode (tidy : s.Tidy) :
    ∀ instruction ∈ returnCode s.options.returnLabel, instruction.Unbroken := by
  have returns := tidy.returns
  cases labelled : s.options.returnLabel with
  | some label =>
      have aimed : Flat label := returns label labelled
      simpa [Lowering.returnCode, Instruction.Unbroken, Instruction.sourceText?] using aimed
  | none => exact request_unbroken .exit

theorem Tidy.controlScript (tidy : s.Tidy) {flow : Transfer} (clean : (Line.control flow).Clean) :
    ∀ act ∈ s.controlScript flow, act.Tidy := by
  cases flow with
  | leave =>
      have marked : Flat "return" := by decide
      simpa [Lowering.controlScript, Act.Tidy, marked] using tidy.returnCode
  | ifGoto condition target =>
      have aimed : Flat target := clean.flat target (List.mem_singleton_self target)
      have marked : Flat "if" := by decide
      simp [Lowering.controlScript, Act.Tidy, Instruction.Unbroken, Instruction.sourceText?, aimed,
        marked]
  | goto target =>
      have aimed : Flat target := clean.flat target (List.mem_singleton_self target)
      have marked : Flat "goto" := by decide
      simp [Lowering.controlScript, Act.Tidy, Instruction.Unbroken, Instruction.sourceText?, aimed,
        marked]

theorem operationScript_tidy (dest left : String) (op : Operator) (right : String) :
    ∀ act ∈ s.operationScript dest left op right, act.Tidy := by
  have marked : Flat ("op = " ++ op.symbol) := by cases op <;> decide
  cases op <;>
    simpa [operationScript, Operator.code, Act.Tidy, Instruction.Unbroken,
      Instruction.sourceText?] using marked

theorem storeBackScript_tidy (cls : RegisterClass) {symbol : String} (flat : Flat symbol) :
    ∀ act ∈ s.storeBackScript cls symbol, act.Tidy := by
  unfold storeBackScript storeByteScript
  split <;> simp [Act.Tidy, Instruction.Unbroken, Instruction.sourceText?, flat]

theorem loadScript_tidy (dest : String) {name : String} (flat : Flat name) :
    ∀ act ∈ s.loadScript dest name, act.Tidy := by
  simp [loadScript, Act.Tidy, Instruction.Unbroken, Instruction.sourceText?, flat]

theorem assignScript_tidy (dest : String) {value : Value} (flat : Flat value.text) :
    ∀ act ∈ s.assignScript dest value, act.Tidy := by
  cases value with
  | increment name | intOrChar text | float text =>
      simpa [assignScript, incrementScript, literalScript, Act.Tidy, Instruction.Unbroken,
        Instruction.sourceText?, Value.text] using flat
  | «variable» name => exact loadScript_tidy dest flat
  | temp source =>
      simp only [assignScript, assignTempScript]
      split
      · refine List.forall_mem_append.mpr ⟨?_, storeBackScript_tidy _ flat⟩
        simp [copyScript, Act.Tidy, Instruction.Unbroken, Instruction.sourceText?]
      · exact List.forall_mem_append.mpr ⟨loadScript_tidy dest flat, storeBackScript_tidy _ flat⟩

theorem storeScript_tidy {dest : String} (flat : Flat dest) (temp : String) :
    ∀ act ∈ s.storeScript dest temp, act.Tidy := by
  unfold storeScript
  split <;> simp [Act.Tidy, Instruction.Unbroken, Instruction.sourceText?, flat]

/-- The acts of a line that was read from a flat text are tidy. -/
theorem Tidy.script (tidy : s.Tidy) {line : Line} (clean : line.Clean) :
    ∀ act ∈ s.script line, act.Tidy := by
  cases line with
  | label text => simpa [Lowering.script, Act.Tidy] using clean.label_tidy
  | generic text => simpa [Lowering.script, Act.Tidy] using clean.raw_tidy
  | declaration declared =>
      have named : Flat declared.name := clean.flat _ (List.mem_singleton_self _)
      have marked : Flat (declared.type.name ++ " declaration") := by
        cases declared.type <;> decide
      simp [Lowering.script, Act.Tidy, named, marked]
  | control flow => exact tidy.controlScript clean
  | call made => exact tidy.callScript clean
  | operation dest left op right => exact operationScript_tidy dest left op right
  | assign dest value =>
      exact assignScript_tidy dest (clean.flat _ (List.mem_singleton_self _))
  | store dest temp => exact storeScript_tidy (clean.flat _ (List.mem_singleton_self _)) temp

end Scripts

/-! ## Whole runs -/

theorem Tidy.feed (tidy : s.Tidy) {entry : Location × String} (flat : Flat entry.2) :
    (s.feed entry).1.Tidy := by
  have placed : { s with location := entry.1 }.Tidy :=
    ⟨tidy.items, tidy.entries, tidy.arguments, tidy.returns⟩
  cases understood : Line.ofText? entry.2 with
  | none =>
      rw [feed_blank s understood]
      exact placed
  | some line =>
      rw [feed_line s understood, step_performs]
      have acts := placed.script (Line.ofText_clean flat understood)
      apply perform_keeps Tidy _ _ _ placed
      exact fun act member _ before => before.apply (acts act member)

theorem Tidy.after (tidy : s.Tidy) {history : List (Location × String)}
    (flats : ∀ entry ∈ history, Flat entry.2) : (s.after history).Tidy := by
  induction history generalizing s with
  | nil => exact tidy
  | cons entry rest ih =>
      obtain ⟨here, later⟩ := List.forall_mem_cons.mp flats
      exact ih (tidy.feed here) later

end Lowering

end ThreeAddress
