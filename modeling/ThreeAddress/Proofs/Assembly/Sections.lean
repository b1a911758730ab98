import ThreeAddress.Proofs.Assembly.Instructions
import ThreeAddress.Proofs.Program.Rendering

/-!
The sections of an assembly file and what they were made of. Instructions and data entries are read
back from their lines, and flat lines are found again between the line feeds, so sections that look
the same have the same contents.
-/

namespace ThreeAddress
open Text Numeral

namespace Storage

/-- What reserves a word or a number of bytes. Floats are left out: different ones that are no
number have one text. -/
def IsWhole : Storage → Prop
  | word _ | space _ => True
  | float _ => False

instance : (storage : Storage) → Decidable storage.IsWhole
  | word _ | space _ => .isTrue trivial
  | float _ => .isFalse id

def ofWords? (directive operand : List Char) : Option Storage :=
  if directive = ['.', 'w', 'o', 'r', 'd'] then (int32? operand).map .word
  else if directive = ['.', 's', 'p', 'a', 'c', 'e'] then (uint32? operand).map .space
  else none

/-- A name may have blanks and colons in it, so a line is read from its end. -/
def ofLine? (line : String) : Option (String × Storage) :=
  let operand := line.toList.reverse.takeWhile (· != ' ')
  match line.toList.reverse.dropWhile (· != ' ') with
  | ' ' :: ahead =>
      let directive := ahead.takeWhile (· != ' ')
      match ahead.dropWhile (· != ' ') with
      | ' ' :: ':' :: name =>
          (ofWords? directive.reverse operand.reverse).map (String.ofList name.reverse, ·)
      | _ => none
  | _ => none

theorem directive_clear (storage : Storage) :
    ' ' ∉ storage.directive.toList ∧ Flat storage.directive := by
  cases storage with
  | word => exact (by decide : ' ' ∉ ".word".toList ∧ Flat ".word")
  | float => exact (by decide : ' ' ∉ ".float".toList ∧ Flat ".float")
  | space => exact (by decide : ' ' ∉ ".space".toList ∧ Flat ".space")

variable {storage : Storage}

theorem IsWhole.operand_clear (whole : storage.IsWhole) : ' ' ∉ storage.operand.toList := by
  intro member
  cases storage with
  | word value =>
      rcases signed_written value.toInt ' ' member with digit | sign
      · exact absurd digit (by decide)
      · exact absurd sign (by decide)
  | space bytes =>
      exact absurd ((digits_written bytes.toNat).2 ' ' (Nat.toList_repr ▸ member)) (by decide)
  | float value => exact whole.elim

theorem IsWhole.ofWords? (whole : storage.IsWhole) :
    ofWords? storage.directive.toList storage.operand.toList = some storage := by
  cases storage with
  | word value => simp [Storage.ofWords?, directive, operand, int32?_written]
  | space bytes => simp [Storage.ofWords?, directive, operand, uint32?_written]
  | float value => exact whole.elim

theorem reverse_line (name : String) (storage : Storage) :
    (storage.line name).toList.reverse =
      storage.operand.toList.reverse ++
        ' ' :: (storage.directive.toList.reverse ++ ' ' :: ':' :: name.toList.reverse) := by
  simp [line]

theorem IsWhole.ofLine?_line (whole : storage.IsWhole) (name : String) :
    ofLine? (storage.line name) = some (name, storage) := by
  have operand : ' ' ∉ storage.operand.toList.reverse :=
    fun member => whole.operand_clear (List.mem_reverse.mp member)
  have directive : ' ' ∉ storage.directive.toList.reverse :=
    fun member => storage.directive_clear.1 (List.mem_reverse.mp member)
  obtain ⟨last, ahead⟩ := cut_first operand
    (storage.directive.toList.reverse ++ ' ' :: ':' :: name.toList.reverse)
  obtain ⟨middle, front⟩ := cut_first directive (':' :: name.toList.reverse)
  simp only [ofLine?, reverse_line, last, ahead, middle, front, List.reverse_reverse,
    whole.ofWords?, Option.map_some, String.ofList_toList]

theorem IsWhole.line_flat (whole : storage.IsWhole) {name : String} (flat : Flat name) :
    Flat (storage.line name) := by
  have operand : Flat storage.operand := by
    cases storage with
    | word value => exact flat_int value.toInt
    | space bytes => exact flat_nat bytes.toNat
    | float value => exact whole.elim
  have label : Flat (name ++ ": ") := flat.append (by decide)
  have gap : Flat " " := by decide
  exact ((label.append storage.directive_clear.2).append gap).append operand

end Storage

def Item.Spelled (item : Item) : Prop :=
  ∃ instruction, item = .code instruction ∧ instruction.Unbroken

/-- Values that are read back from their texts are told by these. -/
theorem eq_of_map_eq {α β : Type} {write : α → β} (read : β → Option α) {first second : List α}
    (readable : ∀ value ∈ first ++ second, read (write value) = some value)
    (same : first.map write = second.map write) : first = second := by
  have recovered (values : List α) (known : ∀ value ∈ values, read (write value) = some value) :
      (values.map write).filterMap read = values := by
    rw [List.filterMap_map]
    exact (List.filterMap_congr known).trans List.filterMap_some
  obtain ⟨here, there⟩ := List.forall_mem_append.mp readable
  rw [← recovered first here, same, recovered second there]

namespace Assembly
variable {first second : Assembly}

theorem text_of_section (spelled : ∀ item ∈ first.text ++ second.text, item.Spelled)
    (same : first.textSection = second.textSection) : first.text = second.text := by
  have flat : ∀ item ∈ first.text ++ second.text, Flat item.text := by
    intro item member
    obtain ⟨instruction, rfl, unbroken⟩ := spelled item member
    exact unbroken.text
  obtain ⟨here, there⟩ := List.forall_mem_append.mp flat
  have lines := unlines_injective
    (List.forall_mem_map.mpr there) (List.forall_mem_map.mpr here) same
  apply eq_of_map_eq (fun text => (Instruction.ofText? text).map Item.code) _ lines
  intro item member
  obtain ⟨instruction, rfl, -⟩ := spelled item member
  exact congrArg (Option.map Item.code) instruction.ofText?_text

theorem data_of_section
    (plain : ∀ entry ∈ first.data ++ second.data, Flat entry.1 ∧ entry.2.IsWhole)
    (same : first.dataSection = second.dataSection) : first.data = second.data := by
  have flat : ∀ entry ∈ first.data ++ second.data, Flat (entry.2.line entry.1) :=
    fun entry member => (plain entry member).2.line_flat (plain entry member).1
  obtain ⟨here, there⟩ := List.forall_mem_append.mp flat
  have header : Flat ".data" := by decide
  have lines := unlines_injective
    (List.forall_mem_cons.mpr ⟨header, List.forall_mem_map.mpr there⟩)
    (List.forall_mem_cons.mpr ⟨header, List.forall_mem_map.mpr here⟩) same
  apply eq_of_map_eq Storage.ofLine? _ (List.cons.inj lines).2
  intro entry member
  exact (plain entry member).2.ofLine?_line entry.1

/-- Writing an assembly file loses nothing. Every instruction is read back from its text, whatever
characters its operands have, so no two instructions have the same text; so is every data entry of
a whole number from its line, whatever its name. Where no name and no operand breaks its line, equal
text sections are made of the same instructions and equal data sections of the same entries. -/
theorem contents_recoverable :
    (∀ instruction : Instruction, Instruction.ofText? instruction.text = some instruction) ∧
    (∀ first second : Instruction, first.text = second.text → first = second) ∧
    (∀ (name : String) (storage : Storage), storage.IsWhole →
      Storage.ofLine? (storage.line name) = some (name, storage)) ∧
    (∀ (name other : String) (storage kept : Storage), storage.IsWhole → kept.IsWhole →
      storage.line name = kept.line other → name = other ∧ storage = kept) ∧
    (∀ first second : Assembly, (∀ item ∈ first.text ++ second.text, item.Spelled) →
      first.textSection = second.textSection → first.text = second.text) ∧
    ∀ first second : Assembly,
      (∀ entry ∈ first.data ++ second.data, '\n' ∉ entry.1.toList ∧ entry.2.IsWhole) →
      first.dataSection = second.dataSection → first.data = second.data := by
  refine ⟨Instruction.ofText?_text, fun _ _ => Instruction.text_injective,
    fun name _ whole => whole.ofLine?_line name, ?_, fun _ _ => text_of_section,
    fun _ _ => data_of_section⟩
  intro name other storage kept whole alsoWhole same
  have read := whole.ofLine?_line name
  rw [same, alsoWhole.ofLine?_line other] at read
  cases read
  exact ⟨rfl, rfl⟩

/-- An operand that looks like two and a name that looks like a whole entry, alone and together. -/
theorem misleading_texts_recovered :
    let load := Instruction.load .word (.t 0) "a, $t1"
    let again := Instruction.load .word (RegisterClass.general.register 0) ("a" ++ ", $t1")
    let storage := Storage.space 4
    let name := "x: .word 1"
    let code : Assembly := { text := [.code load] }
    let data : Assembly := { data := [(name, storage)] }
    let both : Assembly := { data := [("x" ++ ": .word 1", storage)], text := [.code again] }
    (load.text = "lw $t0, a, $t1" ∧ Instruction.ofText? load.text = some load ∧
      load.text = again.text ∧ load = again) ∧
    (storage.line name = "x: .word 1: .space 4" ∧ storage.IsWhole ∧
      Storage.ofLine? (storage.line name) = some (name, storage) ∧
      storage.line name = storage.line ("x" ++ ": .word 1") ∧ name = "x" ++ ": .word 1") ∧
    ((∀ item ∈ code.text ++ both.text, item.Spelled) ∧
      code.textSection = both.textSection ∧ code.text = both.text) ∧
    (∀ entry ∈ data.data ++ both.data, '\n' ∉ entry.1.toList ∧ entry.2.IsWhole) ∧
      data.dataSection = both.dataSection ∧ data.data = both.data := by
  intro load again storage name code data both
  obtain ⟨texts, instructions, lines, names, items, entries⟩ := contents_recoverable
  have sameText : load.text = again.text := by decide
  have sameLine : storage.line name = storage.line ("x" ++ ": .word 1") := by decide
  -- Commas and colons are harmless, since neither breaks a line.
  have unbroken : load.Unbroken ∧ again.Unbroken := by
    constructor <;> (intro text member; cases member; decide)
  have spelled : ∀ item ∈ code.text ++ both.text, item.Spelled :=
    List.forall_mem_cons.mpr ⟨⟨load, rfl, unbroken.1⟩,
      List.forall_mem_singleton.mpr ⟨again, rfl, unbroken.2⟩⟩
  have plain : ∀ entry ∈ data.data ++ both.data, '\n' ∉ entry.1.toList ∧ entry.2.IsWhole := by
    decide
  have sameCode : code.textSection = both.textSection := by decide
  have sameData : data.dataSection = both.dataSection := by decide
  exact ⟨⟨by decide, texts load, sameText, instructions load again sameText⟩,
    ⟨by decide, trivial, lines name storage trivial, sameLine,
      (names name _ storage storage trivial trivial sameLine).1⟩,
    ⟨spelled, sameCode, items code both spelled sameCode⟩,
    plain, sameData, entries data both plain sameData⟩

end Assembly

end ThreeAddress
