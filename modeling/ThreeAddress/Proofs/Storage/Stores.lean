import Mathlib.Data.List.Nodup
import ThreeAddress.Proofs.Lowering.Findings
import ThreeAddress.Proofs.Storage.Declarations

/-!
Stores into declared variables. The mnemonic follows the declared type where a temporary is stored
into a variable, and the byte that a copy leaves behind fits any type. An increment stores a whole
word, which is more than a character has.
-/

namespace ThreeAddress

def StoreOp.bytes : StoreOp → Nat
  | word | single => 4
  | byte => 1

def Storage.bytes : Storage → Nat
  | word _ | float _ => 4
  | space count => count.toNat

def Declaration.isScalar : Declaration → Bool
  | array .. => false
  | char _ | int _ | float _ => true

theorem SymbolType.storeOp_fits (type : SymbolType) : type.storeOp.bytes ≤ type.size.toNat := by
  cases type <;> decide

theorem SymbolType.byte_fits (type : SymbolType) : StoreOp.byte.bytes ≤ type.size.toNat := by
  cases type <;> decide

theorem SymbolType.word_fits {type : SymbolType} (wide : type ≠ .char) :
    StoreOp.word.bytes ≤ type.size.toNat := by
  cases type <;> first | decide | exact absurd rfl wide

theorem Declaration.storage_bytes {declared : Declaration} (scalar : declared.isScalar = true) :
    declared.storage.bytes = declared.type.size.toNat := by
  cases declared with
  | array name count => cases scalar
  | _ => rfl

theorem Declaration.eq_char {declared : Declaration} (char : declared.type = .char) :
    declared = .char declared.name := by
  cases declared <;> first | rfl | cases char

/-- The only declaration of a name is the last one. -/
theorem latest_of_once {made : List Declaration} (once : (made.map Declaration.name).Nodup)
    {declared : Declaration} (member : declared ∈ made) :
    latest? made declared.name = some declared := by
  obtain ⟨found, latest⟩ := Option.isSome_iff_exists.mp
    ((latest_isSome_iff made declared.name).mpr (List.mem_map_of_mem member))
  have listed : found ∈ made := List.mem_reverse.mp (List.mem_of_find?_eq_some latest)
  rw [latest, List.inj_on_of_nodup_map once listed member (latest_name latest)]

namespace Lowering
variable {s : Lowering}

theorem Records.typeOf {made : List Declaration} (records : Records s made)
    (once : (made.map Declaration.name).Nodup) {declared : Declaration} (member : declared ∈ made) :
    s.typeOf declared.name = declared.type := by
  rw [Lowering.typeOf, records.types, latest_of_once once member]
  rfl

/-! ## Acts that store -/

section Scripts
variable (s : Lowering) {op : StoreOp} {source : Register} {name : String}

theorem storeByteScript_stores {register bits : Register} {symbol : String}
    (member : .store op source name ∈
      (storeByteScript register bits symbol).flatMap Act.instructions) : op = .byte := by
  unfold storeByteScript at member
  split at member
  · obtain ⟨rfl, -, -⟩ : op = .byte ∧ source = bits ∧ name = symbol := by
      simpa [Act.instructions] using member
    rfl
  · obtain ⟨rfl, -, -⟩ : op = .byte ∧ source = register ∧ name = symbol := by
      simpa [Act.instructions] using member
    rfl

theorem assignTempScript_stores (dest temp : String)
    (member : .store op source name ∈ (s.assignTempScript dest temp).flatMap Act.instructions) :
    op = .byte := by
  unfold assignTempScript at member
  split at member
  · rw [List.flatMap_append, List.mem_append] at member
    rcases member with copies | back
    · simp [copyScript, Act.instructions] at copies
    · exact storeByteScript_stores back
  · rw [List.flatMap_append, List.mem_append] at member
    rcases member with loads | back
    · simp [loadScript, Act.instructions] at loads
    · exact storeByteScript_stores back

theorem storeScript_stores (dest temp : String)
    (member : .store op source name ∈ (s.storeScript dest temp).flatMap Act.instructions) :
    op = (s.typeOf name).storeOp := by
  unfold storeScript at member
  split at member
  · rename_i register _
    obtain ⟨rfl, -, rfl⟩ : op = (s.typeOf dest).storeOp ∧ source = register ∧ name = dest := by
      simpa [Act.instructions] using member
    rfl
  · simp [Act.instructions] at member

theorem printScript_storeless (argument : String) :
    .store op source name ∉ (s.printScript argument).flatMap Act.instructions := by
  unfold printScript
  split
  · simp [Act.instructions, Service.print, Service.passArgument, Service.request]
  · split
    · split <;>
        simp [Act.instructions, Service.print, Service.passArgument, Service.request]
    · split <;> simp [Act.instructions, Service.request]

theorem callScript_storeless (made : Call) :
    .store op source name ∉ (s.callScript made).flatMap Act.instructions := by
  cases made with
  | param value => simp [callScript, Act.instructions]
  | call callee count =>
      have storeless : ∀ argument, .store op source name ∉
          (s.printScript argument).flatMap Act.instructions := printScript_storeless s
      simp only [callScript, popScript]
      split
      · split
        · simp [Act.instructions]
        · simpa [Act.instructions] using storeless _
      · simp

/-- Every store fits the type of its symbol but that of an incremented character. -/
theorem script_stores {line : Line}
    (member : .store op source name ∈ (s.script line).flatMap Act.instructions) :
    op.bytes ≤ (s.typeOf name).size.toNat ∨
      ∃ dest, line = .assign dest (.increment name) ∧ s.typeOf name = .char := by
  cases line with
  | label text | generic text | declaration declared => simp [script, Act.instructions] at member
  | control flow => cases controlScript_memoryless s flow _ member
  | call made => exact absurd member (callScript_storeless s made)
  | operation dest left operator right =>
      cases operationScript_memoryless s dest left operator right _ member
  | store dest temp =>
      rw [storeScript_stores s dest temp member]
      exact .inl (s.typeOf name).storeOp_fits
  | assign dest value =>
      cases value with
      | increment incremented =>
          obtain ⟨rfl, -, rfl⟩ : op = .word ∧
              source = (s.registers.advance .general).upcoming .general ∧ name = incremented := by
            simpa [script, assignScript, incrementScript, Act.instructions] using member
          -- A word is stored whatever the type is.
          by_cases narrow : s.typeOf name = .char
          · exact .inr ⟨dest, rfl, narrow⟩
          · exact .inl (SymbolType.word_fits narrow)
      | temp temp =>
          rw [assignTempScript_stores s dest temp member]
          exact .inl (s.typeOf name).byte_fits
      | _ => simp [script, assignScript, literalScript, loadScript, Act.instructions] at member

/-- An increment that finds a class used up stores nothing. -/
theorem increment_refused {dest incremented : String}
    (failed : (s.perform (s.incrementScript dest incremented)).2 ≠ none) :
    .store op source name ∉
      (s.carried (s.incrementScript dest incremented)).flatMap Act.instructions := by
  by_cases first : s.registers.count .general < RegisterClass.general.capacity
  · by_cases second : s.registers.count .general + 1 < RegisterClass.general.capacity
    · -- Both registers are granted, and nothing else is asked for.
      refine absurd ?_ failed
      rw [incrementScript, perform_take_room first]
      change (((s.advance .general).code _).perform (.take .general :: _)).2 = none
      rw [perform_take_room (by simpa using second)]
      rfl
    · simp [incrementScript, carried, lacks?, apply, first, second, Act.instructions]
  · simp [incrementScript, carried, lacks?, first]

end Scripts

/-! ## What lines store -/

/-- What the line stores into the scalars among the declared variables is no wider than they are. -/
def StoresFit (s : Lowering) (made : List Declaration) (entry : Location × String) : Prop :=
  ∀ declared ∈ made, declared.isScalar = true → ∀ op source,
    Item.code (.store op source declared.name) ∈ s.written entry →
      op.bytes ≤ declared.type.size.toNat

def WidensChar (s : Lowering) (made : List Declaration) (entry : Location × String) : Prop :=
  ∃ dest name, Line.ofText? entry.2 = some (.assign dest (.increment name)) ∧
    .char name ∈ made ∧ (s.feed entry).2 = none

section Line
variable {made : List Declaration} {entry : Location × String}

theorem increment_accepted {dest name : String}
    (understood : Line.ofText? entry.2 = some (.assign dest (.increment name)))
    {op : StoreOp} {source : Register} {stored : String}
    (member : .code (.store op source stored) ∈ s.written entry) : (s.feed entry).2 = none := by
  by_contra failed
  rw [feed_performs understood] at failed
  exact increment_refused { s with location := entry.1 } failed (written_code understood member)

theorem stores_fit_of_not_widens (records : Records s made)
    (once : (made.map Declaration.name).Nodup) (narrow : ¬ s.WidensChar made entry) :
    s.StoresFit made entry := by
  intro declared member scalar op source stored
  cases understood : Line.ofText? entry.2 with
  | none =>
      rw [written_blank understood] at stored
      cases stored
  | some line =>
      -- The line may have failed halfway, but what it wrote is among the acts that it has.
      obtain ⟨act, doing, stores⟩ := List.mem_flatMap.mp (written_code understood stored)
      have scripted := List.mem_flatMap.mpr
        ⟨act, (doing_initial s entry.1 line).mem doing, stores⟩
      have typed := records.typeOf once member
      rcases script_stores s scripted with fits | ⟨dest, rfl, char⟩
      · rwa [typed] at fits
      · have charDeclared := Declaration.eq_char (typed ▸ char)
        exact absurd ⟨dest, declared.name, understood, charDeclared ▸ member,
          increment_accepted understood stored⟩ narrow

theorem WidensChar.overruns (widens : s.WidensChar made entry) : ¬ s.StoresFit made entry := by
  obtain ⟨dest, name, understood, member, accepted⟩ := widens
  intro fit
  have stored : .code (.store .word ((s.registers.advance .general).upcoming .general) name) ∈
      s.written entry := by
    rw [written_line understood, doing_done understood accepted]
    simp [script, assignScript, incrementScript, Act.items]
  exact absurd (fit (.char name) member rfl _ _ stored) (show ¬ 4 ≤ 1 by decide)

end Line

/-- Where no name is declared twice, what a line stores into the scalars declared before it fits
them, unless it increments a character. Each scalar has the bytes of its type reserved. -/
theorem stores_fit_iff (options : Options) (history : List (Location × String))
    (once : ((history.filterMap entryDeclared?).map Declaration.name).Nodup) :
    (∀ past entry rest, history = past ++ entry :: rest →
      (((start options).after past).StoresFit (past.filterMap entryDeclared?) entry ↔
        ¬ ((start options).after past).WidensChar (past.filterMap entryDeclared?) entry)) ∧
    ∀ declared ∈ history.filterMap entryDeclared?, declared.isScalar = true →
      (((start options).after history).data.get? declared.name).map Storage.bytes =
        some declared.type.size.toNat := by
  constructor
  · rintro past entry rest rfl
    have records := after_records past _ [] (start_records options)
    rw [List.filterMap_append, List.map_append] at once
    exact ⟨fun fit widens => widens.overruns fit,
      stores_fit_of_not_widens records (List.Nodup.of_append_left once)⟩
  · intro declared member scalar
    have records := after_records history _ [] (start_records options)
    rw [records.stored, List.nil_append, latest_of_once once member, Option.map_some,
      Option.map_some, Declaration.storage_bytes scalar]

theorem incremented_int_fits :
    (([(Location.input 1, "dataInt n"), (.input 2, "t0 = ++n")].filterMap entryDeclared?).map
      Declaration.name).Nodup ∧
    ((start {}).after [(.input 1, "dataInt n")]).StoresFit [.int "n"] (.input 2, "t0 = ++n") := by
  have once : (([(Location.input 1, "dataInt n"), (.input 2, "t0 = ++n")].filterMap
      entryDeclared?).map Declaration.name).Nodup := by decide +kernel
  have made : [(Location.input 1, "dataInt n")].filterMap entryDeclared? = [.int "n"] := by
    decide +kernel
  have fits := ((stores_fit_iff {} _ once).1 [(.input 1, "dataInt n")] _ [] rfl).mpr
  rw [made] at fits
  refine ⟨once, fits ?_⟩
  rintro ⟨dest, name, -, char, -⟩
  simp at char

/-- A word is stored into the one byte that is reserved for a character. -/
theorem incremented_char_overruns :
    (([(Location.input 1, "dataChar c"), (.input 2, "t0 = ++c")].filterMap entryDeclared?).map
      Declaration.name).Nodup ∧
    [(Location.input 1, "dataChar c")].filterMap entryDeclared? = [.char "c"] ∧
    Item.code (.store .word (.t 1) "c") ∈
      ((start {}).after [(.input 1, "dataChar c")]).written (.input 2, "t0 = ++c") ∧
    ((((start {}).after [(.input 1, "dataChar c"), (.input 2, "t0 = ++c")]).data.get? "c").map
      Storage.bytes) = some 1 ∧
    ¬ ((start {}).after [(.input 1, "dataChar c")]).StoresFit [.char "c"]
      (.input 2, "t0 = ++c") := by
  have stored : Item.code (.store .word (.t 1) "c") ∈
      ((start {}).after [(.input 1, "dataChar c")]).written (.input 2, "t0 = ++c") := by
    decide +kernel
  refine ⟨by decide +kernel, by decide +kernel, stored, by decide +kernel, fun fits => ?_⟩
  exact absurd (fits (.char "c") (List.mem_singleton_self _) rfl _ _ stored)
    (show ¬ 4 ≤ 1 by decide)

end Lowering

end ThreeAddress
