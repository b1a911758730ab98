import ThreeAddress.Proofs.Lowering.Findings
import ThreeAddress.Proofs.Registers.Exhaustion
import ThreeAddress.Proofs.Registers.Sources
import ThreeAddress.Proofs.Storage.Declarations

/-!
What lines leave of the work before them. Acts only add: to the text, to the report, to the names
in memory, to the counters of the registers and to what is known of names, temporaries and
registers. What is known of a name or a temporary may change, but a temporary only moves to a
register that nothing was ever bound to, and what a register was loaded from stays.
-/

namespace ThreeAddress

theorem Table.keys_insert_grows {Key Value : Type} [DecidableEq Key] (table : Table Key Value)
    (key : Key) (value : Value) : table.keys <+: (table.insert key value).keys := by
  rw [keys_insert]
  split
  · exact List.prefix_rfl
  · exact List.prefix_append _ _

/-- A register that is not taken lies above those of its class that are. -/
theorem Allocation.Taken.below_fresh {held : Allocation} {old new : Register}
    (taken : held.Taken old) (fresh : ¬ held.Taken new) :
    old.registerClass? ≠ new.registerClass? ∨ old.index < new.index := by
  by_cases same : old.registerClass? = new.registerClass?
  · right
    obtain ⟨cls, inClass, below⟩ := taken
    by_contra above
    exact fresh ⟨cls, same ▸ inClass, Nat.lt_of_le_of_lt (Nat.le_of_not_lt above) below⟩
  · exact .inl same

namespace Lowering
variable {s t u : Lowering}

structure Grows (s t : Lowering) : Prop where
  text : s.text <+: t.text
  diagnostics : s.report.diagnostics <+: t.report.diagnostics
  names : s.data.keys <+: t.data.keys
  counts (cls : RegisterClass) : s.registers.count cls ≤ t.registers.count cls
  declared (name : String) : (s.symbols.get? name).isSome → (t.symbols.get? name).isSome
  bound (temp : String) : s.Bound temp → t.Bound temp
  loaded (register : Register) :
    (s.registers.origin? register).isSome → (t.registers.origin? register).isSome

namespace Grows

/-- A change of place adds nothing. -/
theorem placed (s : Lowering) (place : Location) : Grows s { s with location := place } where
  text := List.prefix_rfl
  diagnostics := List.prefix_rfl
  names := List.prefix_rfl
  counts _ := Nat.le_refl _
  declared _ := id
  bound _ := id
  loaded _ := id

theorem refl (s : Lowering) : Grows s s :=
  placed s s.location

theorem trans (first : Grows s t) (second : Grows t u) : Grows s u where
  text := first.text.trans second.text
  diagnostics := first.diagnostics.trans second.diagnostics
  names := first.names.trans second.names
  counts cls := Nat.le_trans (first.counts cls) (second.counts cls)
  declared name := second.declared name ∘ first.declared name
  bound temp := second.bound temp ∘ first.bound temp
  loaded register := second.loaded register ∘ first.loaded register

theorem taken (grows : Grows s t) {register : Register} (taken : s.registers.Taken register) :
    t.registers.Taken register := by
  obtain ⟨cls, inClass, below⟩ := taken
  exact ⟨cls, inClass, Nat.lt_of_lt_of_le below (grows.counts cls)⟩

end Grows

/-! ## Acts, lines and histories -/

theorem apply_count_le (s : Lowering) (act : Act) (cls : RegisterClass) :
    s.registers.count cls ≤ (s.apply act).registers.count cls := by
  cases asks : act.request? s.location with
  | none => exact Nat.le_of_eq (congrFun (apply_count s s.location asks) cls).symm
  | some request =>
      rw [apply_granted s s.location asks, granted]
      split <;> omega

/-- A declaration may take the place of another, but not the name from the tables. -/
theorem apply_tables (s : Lowering) (act : Act) :
    s.data.keys <+: (s.apply act).data.keys ∧
      ∀ name, (s.symbols.get? name).isSome → ((s.apply act).symbols.get? name).isSome := by
  cases declares : act.declared? with
  | none =>
      obtain ⟨data, symbols, -⟩ := apply_declares_nothing (s := s) declares
      rw [data, symbols]
      exact ⟨List.prefix_rfl, fun _ => id⟩
  | some made =>
      cases act with
      | declare declared =>
          refine ⟨Table.keys_insert_grows s.data declared.name declared.storage, ?_⟩
          intro name known
          simp only [apply, Table.get?_insert]
          split
          · rfl
          · exact known
      | _ => cases declares

theorem apply_grows (s : Lowering) (act : Act) : Grows s (s.apply act) where
  text := ⟨_, (apply_text s act).symm⟩
  diagnostics := ⟨_, (apply_diagnostics s act).symm⟩
  names := (apply_tables s act).1
  counts := apply_count_le s act
  declared := (apply_tables s act).2
  bound _ held := held.apply act
  loaded register known := by
    rw [apply_origin, Option.isSome_or]
    exact Bool.or_eq_true_iff.mpr (.inr known)

theorem feed_grows (s : Lowering) (entry : Location × String) : Grows s (s.feed entry).1 := by
  cases understood : Line.ofText? entry.2 with
  | none =>
      rw [feed_blank s understood]
      exact .placed s entry.1
  | some line =>
      rw [feed_performs understood]
      exact perform_keeps (Grows s) _ (fun act _ t before => before.trans (apply_grows t act)) _
        (.placed s entry.1)

theorem after_grows (s : Lowering) (history : List (Location × String)) :
    Grows s (s.after history) :=
  after_keeps (Grows s) (fun t entry before => before.trans (feed_grows t entry)) s (.refl s)
    history

/-! ## What may change -/

section Histories
variable (options : Options) (history more : List (Location × String))

/-- A register is loaded once at most, so it never comes from anything else. -/
theorem history_origin {register : Register} {name : String}
    (found : ((start options).after history).registers.origin? register = some name) :
    (((start options).after history).after more).registers.origin? register = some name := by
  have grows := after_grows ((start options).after history) more
  obtain ⟨later, known⟩ := Option.isSome_iff_exists.mp
    (grows.loaded register (Option.isSome_of_eq_some found))
  have orderly := history_orderly options (history ++ more)
  have sourced := history_sourced options (history ++ more) register later
  rw [after_append] at orderly sourced
  obtain ⟨ofClass, among⟩ := sourced known
  obtain ⟨added, text⟩ := grows.text
  have before := (history_sourced options history register name found).2
  have still : name ∈ loadedInto register (((start options).after history).after more).text := by
    rw [← text, loaded_append]
    exact List.mem_append_left _ before
  rw [orderly.loaded_once ofClass among, List.mem_singleton] at still
  rw [known, still]

/-- What was ever bound is taken. -/
theorem history_taken {earlier : List (Location × String)} (early : earlier <+: history)
    {temp : String} {register : Register}
    (bound : ((start options).after earlier).registers.holder? temp = some register) :
    ((start options).after history).registers.Taken register := by
  obtain ⟨later, rfl⟩ := early
  rw [after_append]
  exact (after_grows _ later).taken ((history_orderly options earlier).held temp register bound)

end Histories

/-- Nothing that was done is undone. After any lines, failed ones included, further lines only add
to the text, the report, the names in memory and the counters; what is declared, bound or known to
be loaded stays so, and a register stays loaded from what it was loaded from. A temporary that comes
into another register comes into one that is of the other class or higher, and to which no temporary
was bound at any time before. -/
theorem nothing_revisited (options : Options) (history more : List (Location × String)) :
    let s := (start options).after history
    let t := s.after more
    Grows s t ∧
      (∀ register name, s.registers.origin? register = some name →
        t.registers.origin? register = some name) ∧
      ∀ temp new, t.registers.holder? temp = some new → s.registers.holder? temp ≠ some new →
        (∀ old, s.registers.holder? temp = some old →
          old.registerClass? ≠ new.registerClass? ∨ old.index < new.index) ∧
        ∀ earlier, earlier <+: history → ∀ other,
          ((start options).after earlier).registers.holder? other ≠ some new := by
  intro s t
  refine ⟨after_grows s more, fun register name => history_origin options history more, ?_⟩
  intro temp new bound moved
  have fresh : ¬ s.registers.Taken new := fun taken => moved (after_bound more s taken bound)
  constructor
  · intro old held
    exact ((history_orderly options history).held temp old held).below_fresh fresh
  · intro earlier early other held
    exact fresh (history_taken options history early held)

example :
    let s := (start {}).after [(.input 1, "t0 = 7"), (.input 2, "t1 = 7")]
    s.registers.holder? "t0" = some (.t 0) ∧
      (s.after [(.input 3, "t0 = 7")]).registers.holder? "t0" = some (.t 2) ∧
      (s.after [(.input 3, "t0 = 1.5")]).registers.holder? "t0" = some (.f 0) := by
  decide +kernel

end Lowering

end ThreeAddress
