import ThreeAddress.Proofs.Lowering.Findings
import ThreeAddress.Proofs.Lowering.Growth

/-!
What a line leaves that finds a class used up. Such a line may ask for two registers and be refused
the second, so what it did for the first stays done: at most one item, which only fills a register
or marks the line, and at most one warning. The class stays used up, so all later lines that ask for
one of its registers fail too.
-/

namespace ThreeAddress

namespace Act

/-- The beginnings of a list of acts that end before a request, each with the class asked for. -/
def stops : List Act → List (List Act × RegisterClass)
  | [] => []
  | .take cls :: rest => ([], cls) :: (stops rest).map fun stop => (.take cls :: stop.1, stop.2)
  | act :: rest => (stops rest).map fun stop => (act :: stop.1, stop.2)

theorem stops_append (first second : List Act) :
    stops (first ++ second) =
      stops first ++ (stops second).map fun stop => (first ++ stop.1, stop.2) := by
  induction first with
  | nil => simp [stops]
  | cons act rest ih =>
      cases act <;> simp [stops, ih, List.map_append, Function.comp_def]

theorem stops_idle {acts : List Act} (idle : acts.all isIdle = true) : stops acts = [] := by
  induction acts with
  | nil => rfl
  | cons act rest ih =>
      rw [List.all_cons, Bool.and_eq_true] at idle
      cases act with
      | take cls => cases idle.1
      | _ => simp [stops, ih idle.2]

end Act

theorem SymbolType.eq_float {type : SymbolType} (float : type.registerClass = .float) :
    type = .float := by
  cases type <;> first | rfl | cases float

/-- An item that a line may leave: a mark, or the filling of the first of two registers. -/
def Item.isRemnant : Item → Bool
  | .comment _ => true
  | .code (.load .word ..) | .code (.load .single ..) | .code (.copy .single ..) => true
  | _ => false

def Item.bringsFloat (register : Register) : Item → Bool
  | .code (.load .single dest _) | .code (.copy .single dest _) => dest = register
  | _ => false

namespace Lowering
variable {s : Lowering}

theorem perform_stops {acts : List Act} {failure : Failure}
    (failed : (s.perform acts).2 = some failure) :
    ∃ done cls, (done, cls) ∈ Act.stops acts ∧ s.carried acts = done ∧
      (s.perform acts).1 = done.foldl apply s ∧
      cls.capacity ≤ (done.foldl apply s).registers.count cls ∧
      failure = .ofClass s.location cls := by
  induction acts generalizing s with
  | nil => cases failed
  | cons act rest ih =>
      -- The first refusal decides; what comes before it is carried out as asked.
      unfold perform at failed
      unfold perform carried
      cases lacks : s.lacks? act with
      | none =>
          simp only [lacks] at failed ⊢
          obtain ⟨done, cls, stop, rfl, same, full, cause⟩ := ih failed
          rw [apply_location] at cause
          refine ⟨_, cls, ?_, rfl, same, full, cause⟩
          cases act <;> simp [Act.stops, stop]
      | some cls =>
          simp only [lacks] at failed ⊢
          cases failed
          cases act with
          | take asked =>
              simp only [lacks?] at lacks
              split at lacks
              · cases lacks
              · rename_i full
                cases lacks
                exact ⟨[], cls, List.mem_cons_self, rfl, rfl, Nat.le_of_not_lt full, rfl⟩
          | _ => cases lacks

/-! ## Where lines stop -/

inductive Remnant (s : Lowering) : Line → RegisterClass → List Act → Prop
  | untouched (line : Line) (cls : RegisterClass) : Remnant s line cls []
  | noted (line : Line) (cls : RegisterClass) (name : String) :
      Remnant s line cls [.report (s.undeclared? name)]
  | marked (line : Line) (cls : RegisterClass) (text : String) (op : Operator) :
      Remnant s line cls [.comment text, .report (s.operandless? op cls)]
  | bumped (dest name : String) :
      Remnant s (.assign dest (.increment name)) .general
        [.take .general, .code [.load .word (s.registers.upcoming .general) name]]
  | copied (dest temp : String) {source : Register}
      (float : source.registerClass?.getD .general = .float) :
      Remnant s (.assign dest (.temp temp)) .general (s.copyScript dest source)
  | loaded (dest : String) {temp : String} (float : (s.typeOf temp).registerClass = .float) :
      Remnant s (.assign dest (.temp temp)) .general (s.loadScript dest temp)

section Scripts
variable {done : List Act} {cls : RegisterClass}

theorem stops_storeBackScript (first : List Act) (kept : RegisterClass) (symbol : String)
    (stop : (done, cls) ∈ Act.stops (first ++ s.storeBackScript kept symbol)) :
    (done, cls) ∈ Act.stops first ∨ kept = .float ∧ done = first ∧ cls = .general := by
  rw [Act.stops_append] at stop
  cases kept <;> simpa [storeBackScript, storeByteScript, Act.stops] using stop

theorem assignTempScript_stops {dest temp : String}
    (stop : (done, cls) ∈ Act.stops (s.assignTempScript dest temp)) :
    Remnant s (.assign dest (.temp temp)) cls done := by
  unfold assignTempScript at stop
  split at stop
  · rcases stops_storeBackScript _ _ _ stop with early | ⟨float, rfl, rfl⟩
    · obtain ⟨rfl, -⟩ : done = [] ∧ cls = _ := by simpa [copyScript, Act.stops] using early
      exact .untouched _ cls
    · exact .copied dest temp float
  · rcases stops_storeBackScript _ _ _ stop with early | ⟨float, rfl, rfl⟩
    · obtain ⟨rfl, -⟩ : done = [.report (s.undeclared? temp)] ∧ cls = _ := by
        simpa [loadScript, Act.stops] using early
      exact .noted _ cls temp
    · exact .loaded dest float

/-- Only assignments and operations are refused registers. -/
theorem script_stops {line : Line} (stop : (done, cls) ∈ Act.stops (s.script line)) :
    Remnant s line cls done := by
  have calm : ∀ {acts}, acts.all Act.isIdle = true → (done, cls) ∉ Act.stops acts := by
    intro acts idle member
    rw [Act.stops_idle idle] at member
    cases member
  cases line with
  | label text | generic text | declaration declared => cases stop
  | control flow => exact absurd stop (calm (controlScript_idle s flow))
  | call made => exact absurd stop (calm (all_idle (callScript_calm s made)))
  | store dest temp => exact absurd stop (calm (all_idle (storeScript_calm s dest temp)))
  | operation dest left op right =>
      obtain ⟨rfl, rfl⟩ : done = [.comment ("op = " ++ op.symbol),
          .report (s.operandless? op (s.operationClass op left right))] ∧
            cls = s.operationClass op left right := by
        simpa [script, operationScript, Act.stops] using stop
      exact .marked _ _ _ op
  | assign dest value =>
      cases value with
      | increment name =>
          -- The second register may be the one that is missing.
          have either : done = [] ∧ cls = .general ∨
              done = [.take .general, .code [.load .word (s.registers.upcoming .general) name]] ∧
                cls = .general := by
            simpa [script, assignScript, incrementScript, Act.stops] using stop
          rcases either with ⟨rfl, rfl⟩ | ⟨rfl, rfl⟩
          · exact .untouched _ .general
          · exact .bumped dest name
      | intOrChar text | float text =>
          obtain ⟨rfl, -⟩ : done = [] ∧ cls = _ := by
            simpa [script, assignScript, literalScript, Act.stops] using stop
          exact .untouched _ cls
      | temp temp => exact assignTempScript_stops stop
      | «variable» name =>
          obtain ⟨rfl, -⟩ : done = [.report (s.undeclared? name)] ∧ cls = _ := by
            simpa [script, assignScript, loadScript, Act.stops] using stop
          exact .noted _ cls name

end Scripts

/-! ## What is left -/

structure Aside (s t : Lowering) : Prop where
  data : t.data = s.data
  symbols : t.symbols = s.symbols
  pending : t.pending = s.pending
  currentType : t.currentType = s.currentType
  location : t.location = s.location

structure Stopped (s t : Lowering) (line : Line) (cls : RegisterClass) : Prop extends
    Aside s t where
  text : ∃ added : Option Item, t.text = s.text ++ added.toList ∧
    ∀ item ∈ added, item.isRemnant = true
  report : ∃ told : Option Diagnostic,
    t.report.diagnostics = s.report.diagnostics ++ told.toList ∧
      ∀ diagnostic ∈ told, diagnostic.severity = .warning
  full : t.registers.count cls = cls.capacity
  counts (other : RegisterClass) : s.registers.count other ≤ t.registers.count other ∧
    t.registers.count other ≤ s.registers.count other + 1
  bindings (temp : String) (changed : t.registers.holder? temp ≠ s.registers.holder? temp) :
    line.dest? = some temp ∧ ∃ register item, t.registers.holder? temp = some register ∧
      t.text = s.text ++ [item] ∧ item.bringsFloat register = true

section Left
variable {line : Line} {cls : RegisterClass} {done : List Act}

theorem Remnant.harmless (remnant : Remnant s line cls done) :
    ∀ act ∈ done, act.declared? = none ∧ act.pended? = none := by
  cases remnant <;> simp [copyScript, loadScript, Act.declared?, Act.pended?]

theorem Remnant.adds (remnant : Remnant s line cls done) (comments : Bool) :
    ∃ added : Option Item, done.flatMap (Act.items comments) = added.toList ∧
      ∀ item ∈ added, item.isRemnant = true := by
  cases remnant with
  | untouched | noted => exact ⟨none, rfl, by simp⟩
  | marked line cls text op =>
      cases comments with
      | false => exact ⟨none, rfl, by simp⟩
      | true => exact ⟨some (.comment text), rfl, by simp [Item.isRemnant]⟩
  | bumped dest name => exact ⟨some _, rfl, by simp [Item.isRemnant]⟩
  | @copied dest temp source float =>
      refine ⟨some _, rfl, ?_⟩
      cases source <;> simp_all [Item.isRemnant, Register.isFloat, Register.registerClass?]
  | loaded dest float =>
      refine ⟨some _, rfl, ?_⟩
      simp [Item.isRemnant, SymbolType.eq_float float, SymbolType.loadOp]

theorem Remnant.warns (remnant : Remnant s line cls done) :
    ∃ told : Option Finding, done.filterMap Act.finding? = told.toList ∧
      ∀ finding ∈ told, finding.severity = .warning := by
  have lone : ∀ told : Option Finding,
      [Act.report told].filterMap Act.finding? = told.toList := by
    rintro (_ | finding) <;> rfl
  cases remnant with
  | untouched | bumped | copied => exact ⟨none, rfl, by simp⟩
  | noted line cls name => exact ⟨_, lone _, undeclared_warns name⟩
  | marked line cls text op => exact ⟨_, lone _, operandless_warns op cls⟩
  | @loaded dest temp float => exact ⟨_, lone _, undeclared_warns temp⟩

theorem Remnant.asks (remnant : Remnant s line cls done) (place : Location) :
    (done.filterMap (Act.request? place)).length ≤ 1 := by
  cases remnant <;> first | exact Nat.zero_le 1 | exact Nat.le_refl 1

/-- What is bound by then is a float that was brought into its register. -/
theorem Remnant.binds (remnant : Remnant s line cls done) (temp : String) :
    done.filterMap (Act.held? temp) = [] ∨
      line.dest? = some temp ∧ ∃ register item, done.filterMap (Act.held? temp) = [register] ∧
        (∀ comments, done.flatMap (Act.items comments) = [item]) ∧
        item.bringsFloat register = true := by
  cases remnant with
  | untouched | noted | marked | bumped => exact .inl rfl
  | @copied dest copied source float =>
      -- The copy binds what the line assigns, so other temporaries keep theirs.
      by_cases same : dest = temp
      · subst same
        refine .inr ⟨rfl, s.registers.upcoming (source.registerClass?.getD .general), _, ?_,
          fun comments => rfl, ?_⟩
        · simp [copyScript, List.filterMap_cons, Act.held?]
        · cases source <;> simp_all [Item.bringsFloat, Register.isFloat, Register.registerClass?]
      · exact .inl (by simp [copyScript, Act.held?, same])
  | @loaded dest loaded float =>
      by_cases same : dest = temp
      · subst same
        refine .inr ⟨rfl, s.registers.upcoming (s.typeOf loaded).registerClass, _, ?_,
          fun comments => rfl, ?_⟩
        · simp [loadScript, List.filterMap_cons, Act.held?]
        · simp [Item.bringsFloat, SymbolType.eq_float float, SymbolType.loadOp]
      · exact .inl (by simp [loadScript, Act.held?, same])

/-- Acts that neither wait for a call nor declare leave the rest of the state alone. -/
theorem foldl_aside {acts : List Act}
    (harmless : ∀ act ∈ acts, act.declared? = none ∧ act.pended? = none) :
    Aside s (acts.foldl apply s) := by
  refine List.foldlRecOn (motive := Aside s) acts apply ⟨rfl, rfl, rfl, rfl, rfl⟩ ?_
  intro t before act member
  obtain ⟨declaresNot, waitsNot⟩ := harmless act member
  obtain ⟨data, symbols, current⟩ := apply_declares_nothing (s := t) declaresNot
  have pending : (t.apply act).pending = t.pending := by rw [apply_pending, waitsNot]; rfl
  exact ⟨data.trans before.data, symbols.trans before.symbols, pending.trans before.pending,
    current.trans before.currentType, (apply_location t act).trans before.location⟩

theorem Remnant.stopped (remnant : Remnant s line cls done) (acts : List Act)
    (carried : s.carried acts = done) (ends : (s.perform acts).1 = done.foldl apply s)
    (full : (s.perform acts).1.registers.count cls = cls.capacity) :
    Stopped s (s.perform acts).1 line cls := by
  have text := carried ▸ perform_text s acts
  have report := carried ▸ perform_diagnostics s acts
  refine ⟨ends ▸ foldl_aside remnant.harmless, ?_, ?_, full, ?_, ?_⟩
  · obtain ⟨added, same, each⟩ := remnant.adds s.options.comments
    exact ⟨added, same ▸ text, each⟩
  · obtain ⟨told, same, each⟩ := remnant.warns
    refine ⟨told.map (Finding.diagnostic · s.location), ?_, ?_⟩
    · rw [report, same]
      cases told <;> rfl
    · intro diagnostic member
      obtain ⟨finding, found, rfl⟩ := Option.map_eq_some_iff.mp member
      exact each finding found
  · intro other
    -- Each request that was granted counts once, and there was at most one.
    have grown := foldl_count s done s.location other
    have few := remnant.asks s.location
    have asked : demand (done.filterMap (Act.request? s.location)) other ≤ _ :=
      List.count_le_length
    rw [List.length_map] at asked
    rw [ends]
    omega
  · intro temp changed
    have held := foldl_last (fun t => t.registers.holder? temp) (Act.held? temp)
      (fun t act => apply_holder t act temp) s done
    rw [← ends] at held
    rcases remnant.binds temp with unbound | ⟨assigns, register, item, bound, only, brings⟩
    · rw [unbound] at held
      exact absurd held changed
    · rw [bound] at held
      exact ⟨assigns, register, item, held, text.trans (by rw [only]), brings⟩

end Left

/-! ## A class that stays used up -/

theorem feed_refused (orderly : Orderly s) {cls : RegisterClass}
    (full : s.registers.count cls = cls.capacity) (entry : Location × String)
    (needs : cls ∈ (s.classes.askedAt entry).map Request.registerClass) :
    (s.feed entry).2 ≠ none := by
  intro accepted
  obtain ⟨fits, -⟩ := refused_decides orderly.within (feed_exact orderly entry).failure
  have within := fits.mp accepted cls
  have asked : 0 < demand (s.classes.askedAt entry) cls := List.count_pos_iff.mpr needs
  omega

/-- What a line that fails leaves, after any lines, failed ones included. It fails since a class is
used up, has left at most one item and one warning, and has bound at most the temporary that it
assigns, to a float that it brought. From then on every line that asks for a register of the class
fails. -/
theorem refusal_leaves (options : Options) (history : List (Location × String))
    (entry : Location × String) (failure : Failure)
    (failed : (((start options).after history).feed entry).2 = some failure) :
    let s := (start options).after history
    let t := (s.feed entry).1
    ∃ line cls, Line.ofText? entry.2 = some line ∧ failure = .ofClass entry.1 cls ∧
      Stopped { s with location := entry.1 } t line cls ∧
      ∀ more later, cls ∈ ((t.after more).classes.askedAt later).map Request.registerClass →
        ((t.after more).feed later).2 ≠ none := by
  intro s t
  have orderly : Orderly s := history_orderly options history
  have onward : Orderly t := feed_orderly orderly entry
  cases understood : Line.ofText? entry.2 with
  | none =>
      rw [feed_blank _ understood] at failed
      cases failed
  | some line =>
      have performs : s.feed entry = _ := feed_performs understood
      have refused := performs ▸ failed
      obtain ⟨done, cls, stop, carried, ends, enough, cause⟩ := perform_stops refused
      rw [← ends, ← performs] at enough
      have full : t.registers.count cls = cls.capacity :=
        Nat.le_antisymm (onward.within cls) enough
      have remnant : Remnant { s with location := entry.1 } line cls done := by
        apply script_stops
        rwa [script_elsewhere s s.data s.text s.report entry.1 line]
      have stopped : Stopped _ (s.feed entry).1 line cls :=
        performs.symm ▸ remnant.stopped _ carried ends (performs ▸ full)
      refine ⟨line, cls, rfl, cause, stopped, fun more later => ?_⟩
      -- Counters never fall, so the class stays full.
      have within := history_orderly options (history ++ entry :: more)
      rw [after_append] at within
      apply feed_refused within
      exact Nat.le_antisymm (within.within cls) (full ▸ (after_grows t more).counts cls)

/-- A float is copied after the tenth general register. The copy stays, bound, and no literal finds
a register again. -/
theorem refused_copy_leaves :
    let history := (List.range 10).map (fun n => (Location.input n, "t" ++ Nat.repr n ++ " = 7")) ++
      [(.input 10, "t10 = 1.5")]
    let s := (start {}).after history
    let t := (s.feed (.input 11, "t11 = t10")).1
    (s.feed (.input 11, "t11 = t10")).2 = some (.ofClass (.input 11) .general) ∧
      t.registers.holder? "t11" = some (.f 1) ∧
      t.text = s.text ++ [.code (.copy .single (.f 1) (.f 0))] ∧
      ∀ more, ((t.after more).feed (.input 12, "t0 = 1")).2 ≠ none := by
  intro history s t
  have failed : (s.feed (.input 11, "t11 = t10")).2 = some (.ofClass (.input 11) .general) := by
    decide +kernel
  refine ⟨failed, by decide +kernel, by decide +kernel, fun more => ?_⟩
  obtain ⟨line, cls, -, cause, -, later⟩ :=
    refusal_leaves {} history (.input 11, "t11 = t10") _ failed
  obtain rfl : cls = .general := by
    cases cls with
    | general => rfl
    | float => exact absurd cause (by decide)
  have understood : Line.ofText? "t0 = 1" = some (.assign "t0" (.intOrChar "1")) := by
    decide +kernel
  apply later more
  simp [Classes.askedAt, understood, Classes.asked, Classes.askedFor]

end Lowering

end ThreeAddress
