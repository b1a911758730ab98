import Mathlib.Data.List.Induction
import ThreeAddress.Proofs.Lowering.History
import ThreeAddress.Proofs.Lowering.Scripts

/-!
What declarations leave behind. The data section and the declared types are two tables that are
written apart from each other, yet both follow from the declarations made so far: the names
stand in the order in which they were first declared, and what a name stands for comes from its
last declaration. No other line touches either, whether or not it fails.
-/

namespace ThreeAddress

def latest? (made : List Declaration) (name : String) : Option Declaration :=
  made.reverse.find? fun declared => declared.name = name

/-- The line of the data section that a declaration asks for. An array has four bytes for each
element, and at most what 32 bits can count. -/
def Declaration.dataLine : Declaration → String
  | .int name => name ++ ": .word 0"
  | .float name => name ++ ": .float 0.0"
  | .char name => name ++ ": .space 1"
  | .array name count => name ++ ": .space " ++ Nat.repr (min (4 * count.toNat) 0xFFFFFFFF)

def Act.declared? : Act → Option Declaration
  | .declare declared => some declared
  | _ => none

def lineDeclared? : Line → Option Declaration
  | .declaration declared => some declared
  | _ => none

def entryDeclared? (entry : Location × String) : Option Declaration :=
  (Line.ofText? entry.2).bind lineDeclared?

theorem latest_append (made : List Declaration) (declared : Declaration) (name : String) :
    latest? (made ++ [declared]) name =
      if declared.name = name then some declared else latest? made name := by
  by_cases same : declared.name = name <;> simp [latest?, same]

theorem latest_isSome_iff (made : List Declaration) (name : String) :
    (latest? made name).isSome ↔ name ∈ made.map Declaration.name := by
  simp [latest?, List.find?_isSome]

theorem latest_name {made : List Declaration} {name : String} {declared : Declaration}
    (found : latest? made name = some declared) : declared.name = name := by
  simpa using List.find?_some found

/-- A name that comes again adds nothing. -/
theorem eraseDups_append_singleton (names : List String) (name : String) :
    (names ++ [name]).eraseDups =
      if name ∈ names.eraseDups then names.eraseDups else names.eraseDups ++ [name] := by
  rw [List.eraseDups_append]
  by_cases member : name ∈ names <;> simp [List.removeAll, member, List.eraseDups_cons]

theorem line_append (name : String) (storage : Storage) {rest : String}
    (same : ": " ++ (storage.directive ++ (" " ++ storage.operand)) = rest) :
    storage.line name = name ++ rest := by
  rw [← same, Storage.line, String.append_assoc, String.append_assoc, String.append_assoc]

theorem storage_line (declared : Declaration) :
    declared.storage.line declared.name = declared.dataLine := by
  cases declared with
  | int name => exact line_append name _ rfl
  | float name => exact line_append name _ rfl
  | char name => exact line_append name _ rfl
  | array name count =>
      -- The bound is what 32 bits can count, so nothing is cut off.
      have bytes : (Nat.toUInt32 (min (count.toNat * 4) (UInt32.size - 1))).toNat =
          min (4 * count.toNat) 0xFFFFFFFF := by
        rw [Nat.toUInt32_eq, UInt32.toNat_ofNat', Nat.mul_comm, UInt32.size]
        omega
      have operand : (Declaration.array name count).storage.operand =
          Nat.repr (min (4 * count.toNat) 0xFFFFFFFF) := congrArg Nat.repr bytes
      have spaced := line_append name (Declaration.array name count).storage rfl
      rw [operand] at spaced
      rw [Declaration.dataLine, String.append_assoc]
      exact spaced

namespace Lowering
variable {s : Lowering} {made : List Declaration}

structure Records (s : Lowering) (made : List Declaration) : Prop where
  listed : s.data.keys = (made.map Declaration.name).eraseDups
  typed : s.symbols.keys = (made.map Declaration.name).eraseDups
  stored : ∀ name, s.data.get? name = (latest? made name).map Declaration.storage
  types : ∀ name, s.symbols.get? name = (latest? made name).map Declaration.type
  current : s.currentType = (made.filterMap Declaration.numberType?).getLast?

theorem start_records (options : Options) : Records (Lowering.start options) [] where
  listed := rfl
  typed := rfl
  stored _ := rfl
  types _ := rfl
  current := rfl

theorem Records.declare (records : Records s made) (declared : Declaration) :
    Records (s.apply (.declare declared)) (made ++ [declared]) where
  listed := by
    simp only [apply, List.map_append, List.map_cons, List.map_nil]
    rw [Table.keys_insert, eraseDups_append_singleton, records.listed]
  typed := by
    simp only [apply, List.map_append, List.map_cons, List.map_nil]
    rw [Table.keys_insert, eraseDups_append_singleton, records.typed]
  stored name := by
    simp only [apply, Table.get?_insert, latest_append]
    split
    · rfl
    · exact records.stored name
  types name := by
    simp only [apply, Table.get?_insert, latest_append]
    split
    · rfl
    · exact records.types name
  current := by
    simp only [apply, List.filterMap_append, List.getLast?_append, records.current]
    cases declared <;> rfl

theorem apply_declares_nothing {act : Act} (other : act.declared? = none) :
    (s.apply act).data = s.data ∧ (s.apply act).symbols = s.symbols ∧
      (s.apply act).currentType = s.currentType := by
  cases act with
  | declare declared => cases other
  | comment text => simp [apply]
  | report finding => cases finding <;> exact ⟨rfl, rfl, rfl⟩
  | _ => exact ⟨rfl, rfl, rfl⟩

theorem Records.other (records : Records s made) (act : Act) (other : act.declared? = none) :
    Records (s.apply act) made := by
  obtain ⟨data, symbols, currentType⟩ := apply_declares_nothing (s := s) other
  exact ⟨data ▸ records.listed, symbols ▸ records.typed, data ▸ records.stored,
    symbols ▸ records.types, currentType ▸ records.current⟩

theorem Records.perform (records : Records s made) {acts : List Act}
    (others : ∀ act ∈ acts, act.declared? = none) : Records (s.perform acts).1 made :=
  perform_keeps (fun t => Records t made) acts
    (fun act member _ before => before.other act (others act member)) s records

theorem quiet_declared {act : Act} (quiet : act.isQuiet = true) : act.declared? = none := by
  cases act with
  | declare declared => cases quiet
  | _ => rfl

/-- Only declarations declare. -/
theorem script_declared (s : Lowering) {line : Line}
    (other : ∀ declared, line ≠ .declaration declared) :
    ∀ act ∈ s.script line, act.declared? = none := by
  cases line with
  | declaration declared => exact absurd rfl (other declared)
  | label text | generic text => simp [script, Act.declared?]
  | control flow => cases flow <;> simp [script, controlScript, Act.declared?]
  | call made | operation dest left op right | assign dest value | store dest temp =>
      exact fun act member => quiet_declared (script_quiet s rfl act member)

/-- A line that declares something declares it at once, any other leaves both tables alone, also
where it fails. -/
theorem step_records (records : Records s made) (line : Line) :
    Records (s.step line).1 (made ++ (lineDeclared? line).toList) := by
  rw [step_performs]
  cases line with
  | declaration declared =>
      exact (records.other (.comment _) rfl).declare declared
  | _ =>
      simp only [lineDeclared?, Option.toList_none, List.append_nil]
      exact records.perform (script_declared s fun _ => by simp)

theorem feed_records (records : Records s made) (entry : Location × String) :
    Records (s.feed entry).1 (made ++ (entryDeclared? entry).toList) := by
  have placed : Records { s with location := entry.1 } made :=
    ⟨records.listed, records.typed, records.stored, records.types, records.current⟩
  cases understood : Line.ofText? entry.2 with
  | some line =>
      rw [feed_line s understood]
      simpa [entryDeclared?, understood] using step_records placed line
  | none =>
      rw [feed_blank s understood]
      simpa [entryDeclared?, understood, done] using placed

theorem after_records (history : List (Location × String)) (s : Lowering)
    (made : List Declaration) (records : Records s made) :
    Records (s.after history) (made ++ history.filterMap entryDeclared?) := by
  induction history generalizing s made with
  | nil => simpa [after] using records
  | cons entry rest ih =>
      have later := ih (s.feed entry).1 _ (feed_records records entry)
      cases declared : entryDeclared? entry <;> simpa [after, declared] using later

theorem Records.mem_iff (records : Records s made) (name : String) :
    name ∈ s.data.keys ↔ (s.symbols.get? name).isSome := by
  rw [records.listed, List.mem_eraseDups, records.types, Option.isSome_map, latest_isSome_iff]

theorem Records.lines (records : Records s made) (name : String) :
    (s.data.get? name).map (Storage.line name) = (latest? made name).map Declaration.dataLine := by
  rw [records.stored, Option.map_map]
  apply Option.map_congr
  intro declared found
  rw [← latest_name found]
  exact storage_line declared

end Lowering

end ThreeAddress
