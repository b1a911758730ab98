import Mathlib.Data.List.Nodup
import ThreeAddress.Instruction
import ThreeAddress.Proofs.Numeral.Grammar

/-!
Reading instructions back from their text. The mnemonic ends at the first blank and tells which
operands follow. All operands but the last one are registers, and no register has a comma in its
name, so each of these operands ends at the first comma; all that is left belongs to the last one,
whatever its characters are.
-/

namespace ThreeAddress
open Numeral

/-- A text is cut where a character first stands. -/
theorem cut_first {stop : Char} {front : List Char} (clear : stop ∉ front) (back : List Char) :
    (front ++ stop :: back).takeWhile (· != stop) = front ∧
      (front ++ stop :: back).dropWhile (· != stop) = stop :: back := by
  have pass : ∀ c ∈ front, (c != stop) = true := fun c member =>
    bne_iff_ne.mpr fun same => clear (same ▸ member)
  rw [List.takeWhile_append_of_pos pass, List.dropWhile_append_of_pos pass]
  simp

theorem cut_nowhere {stop : Char} {text : List Char} (clear : stop ∉ text) :
    text.takeWhile (· != stop) = text ∧ text.dropWhile (· != stop) = [] := by
  have pass : ∀ c ∈ text, (c != stop) = true := fun c member =>
    bne_iff_ne.mpr fun same => clear (same ▸ member)
  exact ⟨List.takeWhile_eq_self_iff.mpr pass, List.dropWhile_eq_nil_iff.mpr pass⟩

namespace Register

def ofName? (word : String) : Option Register :=
  match word.toList with
  | ['$', 'z', 'e', 'r', 'o'] => some zero
  | ['$', 'v', '0'] => some v0
  | ['$', 'a', '0'] => some a0
  | '$' :: 't' :: digits => (uint8? digits).map t
  | '$' :: 'f' :: digits => (uint8? digits).map f
  | _ => none

theorem ofName?_name (register : Register) : ofName? register.name = some register := by
  cases register with
  | t index | f index => simp [ofName?, name, uint8?_written]
  | zero | v0 | a0 => rfl

theorem name_clear (register : Register) : ',' ∉ register.name.toList := by
  cases register with
  | t index | f index =>
      intro member
      simp only [name, String.toList_append, List.mem_append, Nat.toList_repr] at member
      rcases member with sign | digit
      · exact absurd sign (by decide)
      · exact absurd ((digits_written index.toNat).2 ',' digit) (by decide)
  | zero | v0 | a0 => decide

end Register

namespace Instruction

inductive Form where
  | compute (op : ComputeOp)
  | addImmediate
  | intoLo (op : LoOp)
  | fromLo
  | immediate (op : ImmediateOp)
  | copy (op : CopyOp)
  | load (op : LoadOp)
  | store (op : StoreOp)
  | branchZero
  | jump
  | syscall
  deriving DecidableEq, Repr

namespace Form

def mnemonic : Form → String
  | compute op => op.mnemonic
  | addImmediate => "addi"
  | intoLo op => op.mnemonic
  | fromLo => "mflo"
  | immediate op => op.mnemonic
  | copy op => op.mnemonic
  | load op => op.mnemonic
  | store op => op.mnemonic
  | branchZero => "beqz"
  | jump => "j"
  | syscall => "syscall"

def all : List Form :=
  [.add, .addSingle, .sub, .sgt, .slt, .seq, .sne, .and, .or].map compute ++
    [.mult, .div].map intoLo ++ [.integer, .single].map immediate ++
    [.move, .single, .fromFloat].map copy ++ [.word, .byte, .address, .single].map load ++
    [.word, .byte, .single].map store ++ [addImmediate, fromLo, branchZero, jump, syscall]

def ofMnemonic? (word : String) : Option Form :=
  all.find? fun form => form.mnemonic == word

def commas : Form → Nat
  | compute _ | addImmediate => 2
  | intoLo _ | immediate _ | copy _ | load _ | store _ | branchZero => 1
  | fromLo | jump | syscall => 0

def fill? : Form → List String → Option Instruction
  | compute op, [dest, left, right] => do
      return .compute op (← Register.ofName? dest) (← Register.ofName? left)
        (← Register.ofName? right)
  | addImmediate, [dest, source, value] => do
      return .addImmediate (← Register.ofName? dest) (← Register.ofName? source)
        (← int32? value.toList)
  | intoLo op, [left, right] => do
      return .intoLo op (← Register.ofName? left) (← Register.ofName? right)
  | fromLo, [dest] => do return .fromLo (← Register.ofName? dest)
  | immediate op, [dest, literal] => do return .immediate op (← Register.ofName? dest) literal
  | copy op, [dest, source] => do
      return .copy op (← Register.ofName? dest) (← Register.ofName? source)
  | load op, [dest, symbol] => do return .load op (← Register.ofName? dest) symbol
  | store op, [source, symbol] => do return .store op (← Register.ofName? source) symbol
  | branchZero, [tested, target] => do return .branchZero (← Register.ofName? tested) target
  | jump, [target] => some (.jump target)
  | syscall, [] => some .syscall
  | _, _ => none

theorem mem_all (form : Form) : form ∈ all := by
  cases form with
  | compute op | intoLo op | immediate op | copy op | load op | store op => cases op <;> decide
  | _ => decide

theorem mnemonics_distinct : (all.map mnemonic).Nodup := by
  decide

theorem ofMnemonic?_mnemonic (form : Form) : ofMnemonic? form.mnemonic = some form := by
  cases found : ofMnemonic? form.mnemonic with
  | none =>
      have missed := List.find?_eq_none.mp found form form.mem_all
      exact absurd (beq_self_eq_true form.mnemonic) missed
  | some other =>
      have same : other.mnemonic = form.mnemonic := by simpa using List.find?_some found
      exact congrArg some (List.inj_on_of_nodup_map mnemonics_distinct
        (List.mem_of_find?_eq_some found) form.mem_all same)

theorem mnemonic_clear (form : Form) : ' ' ∉ form.mnemonic.toList := by
  have clear : ∀ form ∈ all, ' ' ∉ form.mnemonic.toList := by decide
  exact clear form form.mem_all

end Form

def form : Instruction → Form
  | compute op .. => .compute op
  | addImmediate .. => .addImmediate
  | intoLo op .. => .intoLo op
  | fromLo _ => .fromLo
  | immediate op .. => .immediate op
  | copy op .. => .copy op
  | load op .. => .load op
  | store op .. => .store op
  | branchZero .. => .branchZero
  | jump _ => .jump
  | syscall => .syscall

theorem mnemonic_form (instruction : Instruction) :
    instruction.form.mnemonic = instruction.mnemonic := by
  cases instruction <;> rfl

theorem fill?_operands (instruction : Instruction) :
    instruction.form.fill? instruction.operands = some instruction := by
  cases instruction <;>
    simp [form, operands, Form.fill?, Register.ofName?_name, int32?_written]

/-! ## Operands -/

def splitOperands : Nat → List Char → List String
  | 0, text => [String.ofList text]
  | commas + 1, text =>
      match text.dropWhile (· != ',') with
      | ',' :: ' ' :: rest =>
          String.ofList (text.takeWhile (· != ',')) :: splitOperands commas rest
      | _ => [String.ofList text]

theorem splitOperands_intercalate (front : List String) (last : String)
    (clear : ∀ word ∈ front, ',' ∉ word.toList) :
    splitOperands front.length (String.intercalate ", " (front ++ [last])).toList =
      front ++ [last] := by
  induction front with
  | nil => simp [splitOperands]
  | cons word rest ih =>
      -- The first comma is not in the first operand, so it is the one behind it.
      obtain ⟨here, later⟩ := List.forall_mem_cons.mp clear
      have joined : (String.intercalate ", " (word :: rest ++ [last])).toList =
          word.toList ++ ',' :: ' ' :: (String.intercalate ", " (rest ++ [last])).toList := by
        cases rest <;> simp [String.intercalate_cons_cons]
      obtain ⟨before, behind⟩ :=
        cut_first here (' ' :: (String.intercalate ", " (rest ++ [last])).toList)
      rw [joined, List.length_cons, splitOperands, behind, before]
      simp only [String.ofList_toList, ih later, List.cons_append]

theorem operands_clear (instruction : Instruction) :
    ∀ word ∈ instruction.operands.dropLast, ',' ∉ word.toList := by
  cases instruction <;> simp [operands, Register.name_clear]

theorem split_operands (instruction : Instruction) (filled : instruction.operands ≠ []) :
    splitOperands instruction.form.commas
      (String.intercalate ", " instruction.operands).toList = instruction.operands := by
  have whole := List.dropLast_concat_getLast filled
  have count : instruction.operands.dropLast.length = instruction.form.commas := by
    cases instruction <;> rfl
  have split := splitOperands_intercalate instruction.operands.dropLast
    (instruction.operands.getLast filled) instruction.operands_clear
  rwa [whole, count] at split

/-! ## Whole texts -/

def operandsBehind (commas : Nat) (text : List Char) : List String :=
  match text.dropWhile (· != ' ') with
  | [] => []
  | _ :: rest => splitOperands commas rest

def ofText? (text : String) : Option Instruction := do
  let form ← Form.ofMnemonic? (String.ofList (text.toList.takeWhile (· != ' ')))
  form.fill? (operandsBehind form.commas text.toList)

theorem toList_text (instruction : Instruction) :
    instruction.text.toList = instruction.mnemonic.toList ++
      if instruction.operands = [] then []
      else ' ' :: (String.intercalate ", " instruction.operands).toList := by
  unfold text
  split
  · rename_i none
    simp [none]
  · rename_i some
    rw [if_neg some]
    simp

theorem ofText?_text (instruction : Instruction) : ofText? instruction.text = some instruction := by
  have clear := instruction.form.mnemonic_clear
  have known := instruction.form.ofMnemonic?_mnemonic
  rw [mnemonic_form] at clear known
  have filled := instruction.fill?_operands
  by_cases none : instruction.operands = []
  · -- No blank follows, so the mnemonic is the whole text.
    obtain ⟨before, behind⟩ := cut_nowhere clear
    rw [none] at filled
    simp [ofText?, toList_text, operandsBehind, none, before, behind, known, filled]
  · obtain ⟨before, behind⟩ :=
      cut_first clear (String.intercalate ", " instruction.operands).toList
    have operands : operandsBehind instruction.form.commas instruction.text.toList =
        instruction.operands := by
      rw [operandsBehind, toList_text, if_neg none, behind]
      exact instruction.split_operands none
    have mnemonic : instruction.text.toList.takeWhile (· != ' ') = instruction.mnemonic.toList := by
      rw [toList_text, if_neg none, before]
    simp [ofText?, mnemonic, known, operands, filled]

example : ofText? "l.s $f31, x, y" = some (.load .single (.f 31) "x, y") := by decide

theorem text_injective {first second : Instruction} (same : first.text = second.text) :
    first = second := by
  have read := first.ofText?_text
  rw [same, ofText?_text] at read
  exact (Option.some.inj read).symm

end Instruction

end ThreeAddress
