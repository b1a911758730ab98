import ThreeAddress.Proofs.Control.Idioms

/-!
Arguments on their way to a call. They wait on a stack: a `param` line puts one on top, a print
takes the top one off, and no other line touches it, whether or not it fails. So a print takes
what the last `param` line passed of which not all was taken before, as brackets are matched, and
what it passes on depends on that argument alone.
-/

namespace ThreeAddress

inductive Move where
  | push (value : String)
  | pop
  | stay
  deriving DecidableEq, Repr

def Line.move : Line → Move
  | .call (.param value) => .push value
  | .call (.call callee _) => if Lowering.isPrint callee then .pop else .stay
  | .label _ | .declaration _ | .control _ | .operation .. | .assign .. | .store .. | .generic _ =>
      .stay

namespace Move

def apply : Move → List String → List String
  | push value, waiting => value :: waiting
  -- Taking from nothing does nothing.
  | pop, waiting => waiting.tail
  | stay, waiting => waiting

def isPush : Move → Bool
  | push _ => true
  | pop | stay => false

def stacked (waiting : List String) : List Move → List String
  | [] => waiting
  | move :: rest => stacked (move.apply waiting) rest

/-- Moves that take off all that they put on, and nothing else. -/
inductive Settled : List Move → Prop
  | nil : Settled []
  | stay {rest : List Move} (onward : Settled rest) : Settled (.stay :: rest)
  | pair (value : String) {inner rest : List Move} (within : Settled inner)
      (onward : Settled rest) : Settled (.push value :: (inner ++ .pop :: rest))

/-- The move at the second place takes off what the one at the first has put on. -/
def Takes (moves : List Move) (first second : Nat) : Prop :=
  ∃ before value between later, moves = before ++ push value :: (between ++ pop :: later) ∧
    Settled between ∧ first = before.length ∧ second = before.length + (between.length + 1)

section Words
variable {moves between other : List Move}

theorem stacked_append (waiting : List String) (first second : List Move) :
    stacked waiting (first ++ second) = stacked (stacked waiting first) second := by
  induction first generalizing waiting with
  | nil => rfl
  | cons move rest ih => exact ih (move.apply waiting)

theorem Settled.append (settled : Settled moves) (more : Settled other) :
    Settled (moves ++ other) := by
  induction settled with
  | nil => exact more
  | stay _ ih => exact .stay ih
  | @pair value inner rest within _ _ ih =>
      rw [List.cons_append, List.append_assoc, List.cons_append]
      exact .pair value within ih

/-- Moves that are settled leave what waits as it was. -/
theorem Settled.keeps (settled : Settled moves) (waiting : List String) :
    stacked waiting moves = waiting := by
  induction settled generalizing waiting with
  | nil => rfl
  | stay _ ih => exact ih waiting
  | @pair value inner rest _ _ inside ih =>
      rw [stacked, stacked_append, inside, stacked]
      exact ih waiting

/-- What is on top was put there by the last move of which not all was taken off. -/
theorem stacked_top {value : String} {rest : List String}
    (top : stacked [] moves = value :: rest) :
    ∃ before between, moves = before ++ push value :: between ∧ Settled between ∧
      stacked [] before = rest := by
  -- A pop uncovers what lies two pushes back, so the induction is on the length.
  induction size : moves.length using Nat.strongRecOn generalizing moves value rest with
  | ind size ih =>
      rcases List.eq_nil_or_concat moves with rfl | ⟨earlier, last, rfl⟩
      · cases top
      · rw [List.concat_eq_append, List.length_append, List.length_singleton] at size
        rw [List.concat_eq_append, stacked_append] at top
        cases last with
        | push passed =>
            cases top
            exact ⟨earlier, [], List.concat_eq_append, .nil, rfl⟩
        | stay =>
            obtain ⟨before, between, rfl, settled, below⟩ := ih earlier.length (by omega) top rfl
            exact ⟨before, between ++ [.stay], by simp, settled.append (.stay .nil), below⟩
        | pop =>
            obtain ⟨taken, waiting⟩ : ∃ taken, stacked [] earlier = taken :: value :: rest := by
              generalize stacked [] earlier = waiting at top
              cases waiting with
              | nil => cases top
              | cons taken others => exact ⟨taken, congrArg (taken :: ·) top⟩
            obtain ⟨before, between, rfl, settled, below⟩ :=
              ih earlier.length (by omega) waiting rfl
            rw [List.length_append] at size
            obtain ⟨first, inner, rfl, still, under⟩ := ih before.length (by omega) below rfl
            refine ⟨first, inner ++ push taken :: (between ++ [.pop]), by simp, ?_, under⟩
            exact still.append (.pair taken settled .nil)

/-- Two places in one word: they are the same, or one lies behind the other. -/
theorem places_apart {before after front behind : List Move} {here there : Move}
    (same : before ++ here :: after = front ++ there :: behind) :
    before = front ∨ (∃ gap, front = before ++ here :: gap ∧ after = gap ++ there :: behind) ∨
      ∃ gap, before = front ++ there :: gap ∧ behind = gap ++ here :: after := by
  rcases List.append_eq_append_iff.mp same with ⟨gap, rfl, rest⟩ | ⟨gap, rfl, rest⟩
  · cases gap with
    | nil => exact .inl (List.append_nil _).symm
    | cons move gap =>
        obtain ⟨rfl, later⟩ := List.cons.inj rest
        exact .inr (.inl ⟨gap, rfl, later⟩)
  · cases gap with
    | nil => exact .inl (List.append_nil _)
    | cons move gap =>
        obtain ⟨rfl, later⟩ := List.cons.inj rest
        exact .inr (.inr ⟨gap, rfl, later⟩)

theorem Settled.same_push {before front : List Move} {one two : String} (settled : Settled between)
    (also : Settled other) (same : before ++ push one :: between = front ++ push two :: other) :
    before = front := by
  -- If one push came behind the other, what it puts on would still wait at the end.
  have apart : ∀ {gap between other : List Move} {value : String}, Settled between →
      Settled other → between ≠ gap ++ push value :: other := by
    rintro gap _ other value settled also rfl
    have kept := settled.keeps []
    rw [stacked_append, stacked, also.keeps] at kept
    cases kept
  rcases places_apart same with same | ⟨gap, -, later⟩ | ⟨gap, -, later⟩
  · exact same
  · exact absurd later (apart settled also)
  · exact absurd later (apart also settled)

theorem Settled.same_pop {later behind : List Move} (settled : Settled between)
    (also : Settled other) (same : between ++ pop :: later = other ++ pop :: behind) :
    between = other := by
  -- If one pop came behind the other, it would find nothing where nothing waited before both.
  have apart : ∀ {gap between other : List Move}, Settled between → Settled other →
      other ≠ between ++ pop :: gap := by
    rintro gap between _ settled also rfl
    have empty := also.keeps []
    have filled := also.keeps [""]
    rw [stacked_append, settled.keeps] at empty filled
    cases filled.symm.trans empty
  rcases places_apart same with same | ⟨gap, longer, -⟩ | ⟨gap, longer, -⟩
  · exact same
  · exact absurd longer (apart settled also)
  · exact absurd longer (apart also settled)

/-- A push is taken off by one pop at most, and a pop takes off one push at most. -/
theorem Takes.unique {first second third fourth : Nat} (one : Takes moves first second)
    (two : Takes moves third fourth) : first = third ↔ second = fourth := by
  obtain ⟨before, value, between, later, rfl, settled, rfl, rfl⟩ := one
  obtain ⟨front, passed, other, behind, same, also, rfl, rfl⟩ := two
  constructor
  · intro pushed
    obtain ⟨rfl, rest⟩ := List.append_inj same pushed
    obtain rfl := settled.same_pop also (List.cons.inj rest).2
    rfl
  · intro popped
    have early : before ++ push value :: between = front ++ push passed :: other := by
      have whole : (before ++ push value :: between) ++ pop :: later =
          (front ++ push passed :: other) ++ pop :: behind := by simpa using same
      exact (List.append_inj whole (by simpa using popped)).1
    rw [settled.same_push also early]

/-- A pop finds something if and only if it takes off what some push has put on. -/
theorem takes_iff (early later : List Move) :
    stacked [] early ≠ [] ↔ ∃ first, Takes (early ++ pop :: later) first early.length := by
  constructor
  · intro found
    obtain ⟨value, rest, top⟩ := List.exists_cons_of_ne_nil found
    obtain ⟨before, between, rfl, settled, -⟩ := stacked_top top
    exact ⟨before.length, before, value, between, later, by simp, settled, rfl, by simp⟩
  · rintro ⟨-, before, value, between, behind, whole, settled, -, place⟩
    have same : early ++ pop :: later = (before ++ push value :: between) ++ pop :: behind := by
      simpa using whole
    rw [(List.append_inj same (by simpa using place)).1, stacked_append, stacked, settled.keeps]
    exact List.cons_ne_nil _ _

end Words

end Move

def entryMove (entry : Location × String) : Move :=
  match Line.ofText? entry.2 with
  | some line => line.move
  | none => .stay

/-- What fills the argument register for the print of an argument. It depends on where the argument
is held, and for one that is held nowhere on its number as a temporary, its form as a literal or
its declared type. -/
def argumentCode? (held : Option Register) (declared : Option SymbolType) (argument : String) :
    Option Instruction :=
  match held with
  | some register => some (Service.passArgument register)
  | none =>
      if Line.isTemp argument then (Lowering.sameNumber? argument).map Service.passArgument
      else if Line.isIntOrChar argument then some (.immediate .integer .a0 argument)
      else some (.load (Lowering.argumentLoad (declared.getD .int)) .a0 argument)

def argumentItems (items : List Item) : List Item :=
  items.filter fun item => item.dest? = some .a0

@[simp] theorem argumentItems_append (first second : List Item) :
    argumentItems (first ++ second) = argumentItems first ++ argumentItems second :=
  List.filter_append _ _

namespace Lowering
variable {s : Lowering} {entry : Location × String}

def topCode? (s : Lowering) : Option Instruction :=
  s.pending.head?.bind fun argument =>
    argumentCode? (s.registers.holder? argument) (s.symbols.get? argument) argument

def finds (s : Lowering) (entry : Location × String) : Bool :=
  entryMove entry = .pop && !s.pending.isEmpty

def foundCount (s : Lowering) : List (Location × String) → Nat
  | [] => 0
  | entry :: rest => (if s.finds entry then 1 else 0) + foundCount (s.feed entry).1 rest

/-! ## What one line does -/

theorem move_push {line : Line} {value : String} (pushes : line.move = .push value) :
    line = .call (.param value) := by
  cases line with
  | call made =>
      cases made with
      | param passed =>
          cases pushes
          rfl
      | call callee count =>
          rw [Line.move] at pushes
          split at pushes <;> cases pushes
  | _ => cases pushes

theorem move_pop {line : Line} (pops : line.move = .pop) :
    ∃ callee count, line = .call (.call callee count) ∧ isPrint callee = true := by
  cases line with
  | call made =>
      cases made with
      | param passed => cases pops
      | call callee count =>
          refine ⟨callee, count, rfl, ?_⟩
          rw [Line.move] at pops
          split at pops
          · assumption
          · cases pops
  | _ => cases pops

theorem script_unpended {line : Line} (stays : line.move = .stay) :
    (s.script line).filterMap Act.pended? = [] := by
  cases line with
  | label text | generic text | declaration declared | operation dest left op right => rfl
  | control flow => cases flow <;> rfl
  | assign dest value => exact assignScript_pends s dest value
  | store dest temp =>
      rw [script, storeScript]
      split <;> rfl
  | call made =>
      cases made with
      | param value => cases stays
      | call callee count =>
          rw [Line.move] at stays
          split at stays
          · cases stays
          · rename_i other
            rw [script, callScript, if_neg other]
            rfl

theorem feed_pending (s : Lowering) (entry : Location × String) :
    (s.feed entry).1.pending = (entryMove entry).apply s.pending := by
  rw [entryMove]
  cases understood : Line.ofText? entry.2 with
  | none =>
      rw [feed_blank s understood]
      rfl
  | some line =>
      cases moves : line.move with
      | stay =>
          rw [feed_performs understood]
          simp only [moves]
          exact perform_pending (script_unpended moves) _
      | push value =>
          obtain rfl := move_push moves
          rw [feed_performs understood]
          rfl
      | pop =>
          obtain ⟨callee, count, rfl, known⟩ := move_pop moves
          simp only [moves]
          cases waiting : s.pending with
          | nil =>
              -- A print that finds nothing takes nothing.
              rw [feed_performs understood, script, idle_script known waiting]
              exact (perform_pending rfl _).trans waiting
          | cons argument rest => exact pop_pending understood known waiting

theorem printScript_passes (argument : String) (comments : Bool) :
    argumentItems ((s.printScript argument).flatMap (Act.items comments)) =
      (argumentCode? (s.registers.holder? argument) (s.symbols.get? argument)
        argument).toList.map .code := by
  unfold printScript argumentCode?
  cases s.registers.holder? argument with
  | some register => rfl
  | none =>
      by_cases temp : Line.isTemp argument = true
      · simp only [temp, ↓reduceIte]
        cases sameNumber? argument <;> rfl
      · by_cases literal : Line.isIntOrChar argument = true
        · simp only [temp, literal, ↓reduceIte]
          rfl
        · simp only [temp, literal]
          rfl

/-- What a print passes to the service is decided by the argument that it takes. -/
theorem pop_passes (s : Lowering) (pops : entryMove entry = .pop) :
    argumentItems (s.written entry) = s.topCode?.toList.map .code := by
  rw [entryMove] at pops
  split at pops
  · rename_i line understood
    obtain ⟨callee, count, rfl, known⟩ := move_pop pops
    rw [topCode?]
    cases waiting : s.pending with
    | nil =>
        rw [idle_written understood known waiting]
        rfl
    | cons argument rest =>
        have mark : argumentItems (Act.items s.options.comments (.comment "print")) = [] := by
          cases s.options.comments <;> rfl
        rw [pop_written understood known waiting, argumentItems_append, mark,
          printScript_passes argument]
        rfl
  · cases pops

theorem param_line {raw value : String}
    (understood : Line.ofText? raw = some (.call (.param value))) :
    s.line raw = done { s with pending := value :: s.pending } := by
  rw [line, understood]
  rfl

theorem ignored_line {raw callee : String} {count : Option UInt32}
    (understood : Line.ofText? raw = some (.call (.call callee count)))
    (other : isPrint callee = false) : s.line raw = done s := by
  rw [line, understood]
  exact congrArg done (if_neg (ne_true_of_eq_false other))

/-! ## What histories do -/

theorem after_pending (s : Lowering) (history : List (Location × String)) :
    (s.after history).pending = Move.stacked s.pending (history.map entryMove) := by
  induction history generalizing s with
  | nil => rfl
  | cons entry rest ih => rw [after, ih, feed_pending, List.map_cons, Move.stacked]

section Start
variable (options : Options)

theorem history_pending (history : List (Location × String)) :
    ((start options).after history).pending = Move.stacked [] (history.map entryMove) :=
  after_pending (start options) history

/-- What is on top was passed by the last line of which not all was taken. -/
theorem pending_iff (history : List (Location × String)) (value : String) (rest : List String) :
    ((start options).after history).pending = value :: rest ↔
      ∃ before param between, history = before ++ param :: between ∧
        entryMove param = .push value ∧ Move.Settled (between.map entryMove) ∧
        ((start options).after before).pending = rest := by
  simp only [history_pending]
  constructor
  · intro top
    obtain ⟨before, between, moves, settled, below⟩ := Move.stacked_top top
    obtain ⟨first, second, rfl, rfl, behind⟩ := List.map_eq_append_iff.mp moves
    obtain ⟨param, last, rfl, passes, rfl⟩ := List.map_eq_cons_iff.mp behind
    exact ⟨first, param, last, rfl, passes, settled, below⟩
  · rintro ⟨before, param, between, rfl, passes, settled, below⟩
    rw [List.map_append, Move.stacked_append, below, List.map_cons, Move.stacked, settled.keeps,
      passes]
    rfl

/-- A print finds something if and only if it takes what some line has passed. -/
theorem finds_iff {before later : List (Location × String)} {print : Location × String}
    (pops : entryMove print = .pop) :
    ((start options).after before).pending ≠ [] ↔
      ∃ place, Move.Takes ((before ++ print :: later).map entryMove) place before.length := by
  have found := Move.takes_iff (before.map entryMove) (later.map entryMove)
  rw [List.length_map] at found
  rwa [history_pending, List.map_append, List.map_cons, pops]

end Start

/-! ## How many arguments there are -/

theorem feed_balance (s : Lowering) (entry : Location × String) :
    (s.feed entry).1.pending.length + (if s.finds entry then 1 else 0) =
      s.pending.length + if (entryMove entry).isPush then 1 else 0 := by
  rw [feed_pending, finds]
  cases entryMove entry with
  | push value => rfl
  | stay => rfl
  | pop => cases s.pending <;> rfl

theorem after_balance (s : Lowering) (history : List (Location × String)) :
    (s.after history).pending.length + s.foundCount history =
      s.pending.length + history.countP fun entry => (entryMove entry).isPush := by
  induction history generalizing s with
  | nil => rfl
  | cons entry rest ih =>
      have onward := ih (s.feed entry).1
      have here := feed_balance s entry
      rw [after, foundCount, List.countP_cons]
      omega

/-- Arguments wait on a stack, and none is lost or taken twice. In any state, a `param` line does
nothing but put its argument on top and a call of another function does nothing; a print takes the
top off, if there is one, and what it passes on is decided by that argument; every other line leaves
the stack alone, also where it fails. So after any lines the stack is what these have put on and not
taken off, and what is on top was passed by the last `param` line of which not all was taken; a
print that finds something takes what one such line passed, no other takes it too, and as many are
passed as wait or were found. -/
theorem arguments_stacked :
    (∀ (s : Lowering) (raw : String),
      (∀ value, Line.ofText? raw = some (.call (.param value)) →
        s.line raw = done { s with pending := value :: s.pending }) ∧
      ∀ callee count, Line.ofText? raw = some (.call (.call callee count)) →
        isPrint callee = false → s.line raw = done s) ∧
    (∀ (s : Lowering) (entry : Location × String),
      (s.feed entry).1.pending = (entryMove entry).apply s.pending ∧
      (entryMove entry = .pop → argumentItems (s.written entry) = s.topCode?.toList.map .code)) ∧
    ∀ (options : Options) (history : List (Location × String)),
      let s := (start options).after history
      let moves := history.map entryMove
      s.pending = Move.stacked [] moves ∧
      (∀ value rest, s.pending = value :: rest ↔
        ∃ before param between, history = before ++ param :: between ∧
          entryMove param = .push value ∧ Move.Settled (between.map entryMove) ∧
          ((start options).after before).pending = rest) ∧
      (∀ before print later, history = before ++ print :: later → entryMove print = .pop →
        (((start options).after before).pending ≠ [] ↔
          ∃ place, Move.Takes moves place before.length)) ∧
      (∀ first second third fourth, Move.Takes moves first second →
        Move.Takes moves third fourth → (first = third ↔ second = fourth)) ∧
      s.pending.length + (start options).foundCount history =
        history.countP fun entry => (entryMove entry).isPush := by
  refine ⟨?_, ?_, ?_⟩
  · intro s raw
    exact ⟨fun value => param_line, fun callee count => ignored_line⟩
  · intro s entry
    exact ⟨feed_pending s entry, pop_passes s⟩
  · intro options history s moves
    refine ⟨history_pending options history, pending_iff options history, ?_, ?_, ?_⟩
    · rintro before print later rfl pops
      exact finds_iff options pops
    · intro first second third fourth one two
      exact one.unique two
    · have balance := after_balance (start options) history
      rwa [show (start options).pending = [] from rfl, List.length_nil, Nat.zero_add] at balance

example :
    let s := (start {}).after [(.input 1, "param x"), (.input 2, "param t12"),
      (.input 3, "call print, 2"), (.input 4, "t0 = t12"), (.input 5, "call f, 1")]
    s.pending = ["x"] ∧ s.topCode? = some (.load .word .a0 "x") := by
  decide +kernel

end Lowering

end ThreeAddress
