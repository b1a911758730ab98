import ThreeAddress.Proofs.Control.Arguments
import ThreeAddress.Proofs.Line.RuleOrder
import ThreeAddress.Proofs.Line.Values
import ThreeAddress.Proofs.Registers.Provenance

/-!
Quoted characters. A character between quotes is one word unless it is a blank, and then it is an
integer wherever a value stands, also if it would mean something else without the quotes: a comment,
a label or a comma. A blank between quotes parts them, so the line is not understood.
-/

namespace ThreeAddress

namespace Line
open Text

variable {c : Char} {temp : String} {front : List String}

def quoted (c : Char) : String :=
  String.ofList ['\'', c, '\'']

theorem toList_quoted (c : Char) : (quoted c).toList = ['\'', c, '\''] :=
  String.toList_ofList

theorem quoted_solid (plain : isBlank c = false) : Solid (quoted c).toList := by
  rw [toList_quoted]
  simp only [Solid, List.forall_mem_cons]
  exact ⟨by simp, by decide, plain, by decide, by simp⟩

theorem isTemp_quoted (c : Char) : isTemp (quoted c) = false := by
  simp [isTemp, toList_quoted]

theorem isIntOrChar_quoted (c : Char) : isIntOrChar (quoted c) = true := by
  simp [isIntOrChar, isChar, toList_quoted]

theorem valueOf_quoted (c : Char) : valueOf (quoted c) = .intOrChar (quoted c) := by
  apply Spells.valueOf_eq
  apply Spells.quoted
  rw [toList_quoted]
  exact .quoted _

/-! ## Lines with quoted characters -/

section Last
variable (filled : front ≠ []) (solid : ∀ word ∈ front, Solid word.toList)

include filled solid

/-- The last word of a line is cut in two by a blank between quotes. -/
theorem wordsOf_quoted (blank : isBlank c = true) :
    wordsOf (spaced (front ++ [quoted c])).toList = front ++ ["'", "'"] := by
  have halves : (spaced (front ++ [quoted c])).toList =
      (spaced (front ++ ["'"])).toList ++ c :: ['\''] := by
    rw [spaced_append filled (by simp), spaced_append filled (by simp)]
    simp [spaced, toList_quoted]
  have before : wordsOf (spaced (front ++ ["'"])).toList = front ++ ["'"] := by
    apply wordsOf_spaced
    simp only [List.forall_mem_append, List.forall_mem_singleton]
    exact ⟨solid, by decide⟩
  rw [halves, wordsOf, words_append_blank _ _ blank, List.map_append]
  change wordsOf _ ++ _ = _
  rw [before]
  simp [words_of_solid (by decide : Solid ['\''])]

theorem trim_quoted (c : Char) :
    trim (spaced (front ++ [quoted c])).toList = (spaced (front ++ [quoted c])).toList := by
  have ends : (spaced (front ++ [quoted c])).toList.getLast? = some '\'' := by
    rw [spaced_append filled (by simp)]
    simp [spaced, toList_quoted]
  obtain ⟨first, rest, rfl⟩ := List.exists_cons_of_ne_nil filled
  have whole := solid first List.mem_cons_self
  obtain ⟨d, more, written⟩ := List.exists_cons_of_ne_nil whole.1
  have begins : (spaced (first :: rest ++ [quoted c])).toList.head? = some d := by
    rw [List.cons_append, ← List.singleton_append, spaced_append (by simp) (by simp)]
    simp [spaced, written]
  exact trim_of_ends begins (whole.2 d (by simp [written])) ends (by decide)

/-- What a line with a quoted character at its end is read as depends on what the rules make of the
words with the character in one piece and in two. -/
theorem quoted_read {line : Line} (uncommented : opening? front ≠ some '#') (c : Char)
    (known : ofWords? (front ++ [quoted c]) = some line)
    (parted : ofWords? (front ++ ["'", "'"]) = none) :
    ofText? (spaced (front ++ [quoted c])) =
      some (if isBlank c = true then .generic (spaced (front ++ [quoted c])) else line) := by
  have opens (words : List String) : opening? (front ++ words) ≠ some '#' := by
    rwa [opening_ahead filled]
  split
  · rename_i blank
    -- The blank parts the quotes, and no rule knows words with both at their end.
    have words : wordsOf (trim (spaced (front ++ [quoted c])).toList) = front ++ ["'", "'"] := by
      rw [trim_quoted filled solid, wordsOf_quoted filled solid blank]
    have closes : closing? (front ++ ["'", "'"]) ≠ some ':' := by
      rw [closing_behind front (by simp)]
      decide
    have read := ofText_words words (by simp) (opens _) closes
    rwa [parted, trimmed, trim_quoted filled solid, String.ofList_toList] at read
  · rename_i plain
    have closes : closing? (front ++ [quoted c]) ≠ some ':' := by
      rw [closing_behind front (by simp)]
      simp [closing?, toList_quoted]
    have spoken : Spoken (front ++ [quoted c]) := by
      refine ⟨by simp, ?_, opens _, closes⟩
      simp only [List.forall_mem_append, List.forall_mem_singleton]
      exact ⟨solid, quoted_solid (by simpa using plain)⟩
    exact spoken.read known

end Last

/-- No digit of any script is a blank. -/
theorem decimalDigit_solid (digit : isDecimalDigit c = true) : isBlank c = false := by
  have apart : ∀ digits ∈ decimalDigits, ∀ gap ∈ blanks,
      digits.2 < gap.1 ∨ gap.2 < digits.1 := by decide +kernel
  rw [Bool.eq_false_iff]
  intro blank
  obtain ⟨digits, among, low, high⟩ := (decimalDigits.has_iff c).mp digit
  obtain ⟨gap, alsoAmong, alsoLow, alsoHigh⟩ := (blanks.has_iff c).mp blank
  have := apart digits among gap alsoAmong
  omega

theorem isTemp_solid (named : isTemp temp = true) : Solid temp.toList := by
  have opens := isTemp_opens named
  refine ⟨?_, fun c member => ?_⟩
  · rintro nothing
    rw [nothing] at opens
    cases opens
  · rcases isTemp_characters named c member with rfl | digit
    · decide
    · exact decimalDigit_solid digit

theorem assignment_parted (named : isTemp temp = true) :
    ofWords? [temp, "=", "'", "'"] = none := by
  rw [Option.eq_none_iff_forall_ne_some]
  intro line read
  rcases ofWords_eq_some_iff.mp read with ⟨family, fits⟩ | ⟨-, stores⟩
  · have opened := rule_opened fits
    rw [List.head?_cons, Option.bind_some, opened_temp named] at opened
    cases opened
    cases fits
  · cases stores

/-- An assignment of a quoted character is read as one if the character is no blank. -/
theorem assignment_read (named : isTemp temp = true) (c : Char) :
    ofText? (spaced [temp, "=", quoted c]) =
      some (if isBlank c = true then .generic (spaced [temp, "=", quoted c])
        else .assign temp (.intOrChar (quoted c))) := by
  have solid : ∀ word ∈ [temp, "="], Solid word.toList := by
    simp only [List.forall_mem_cons]
    exact ⟨isTemp_solid named, by decide, by simp⟩
  have uncommented : opening? [temp, "="] ≠ some '#' := by
    simp [opening?, isTemp_opens named]
  have known : ofWords? ([temp, "="] ++ [quoted c]) =
      some (.assign temp (.intOrChar (quoted c))) := by
    apply ofWords_of_family .temp
    simp [Family.rule, temp?, named, isAssign, valueOf_quoted]
  exact quoted_read (by simp) solid uncommented c known (assignment_parted named)

theorem param_read (c : Char) :
    ofText? (spaced ["param", quoted c]) =
      some (if isBlank c = true then .generic (spaced ["param", quoted c])
        else .call (.param (quoted c))) := by
  have solid : ∀ word ∈ ["param"], Solid word.toList := by decide
  have known : ofWords? (["param"] ++ [quoted c]) = some (.call (.param (quoted c))) :=
    ofWords_of_family .call rfl
  exact quoted_read (by simp) solid (by decide) c known (by decide)

theorem print_read : ofText? "call print, 1" = some (.call (.call "print" (some 1))) := by
  decide +kernel

/-- A blank between quotes is not understood. -/
theorem quoted_blank_unread :
    ofText? "t0 = ' '" ≠ some (.assign "t0" (.intOrChar "' '")) := by
  decide +kernel

end Line

namespace Lowering
open Line Text

variable {s : Lowering} {entry : Location × String}

/-- The register that comes next was not filled before. -/
theorem Orderly.upcoming_unwritten (orderly : Orderly s) {cls : RegisterClass}
    (room : s.registers.count cls < cls.capacity) :
    s.registers.upcoming cls ∉ writes s.text := by
  have small : s.registers.count cls ≤ 32 :=
    Nat.le_trans (orderly.within cls) (capacity_le cls)
  have place := Allocation.index_upcoming s.registers cls room
  rw [Allocation.upcoming, index_register] at place
  rw [← List.count_eq_zero, Allocation.upcoming, ← count_class_writes, orderly.written cls,
    count_first_registers cls _ small, place, if_neg (Nat.lt_irrefl _)]

/-- An integer goes into the register that comes next, and nothing else happens. -/
theorem integer_feed {temp literal : String}
    (understood : ofText? entry.2 = some (.assign temp (.intOrChar literal)))
    (room : s.registers.count .general < RegisterClass.general.capacity) :
    s.feed entry = done ((({ s with location := entry.1 }.advance .general).code
      [.immediate .integer (s.registers.upcoming .general) literal]).hold temp
        (s.registers.upcoming .general)) := by
  have granted : { s with location := entry.1 }.registers.count .general <
      RegisterClass.general.capacity := room
  rw [feed_performs understood, script, assignScript, literalScript, perform_take_room granted]
  rfl

theorem integer_written {temp literal : String}
    (understood : ofText? entry.2 = some (.assign temp (.intOrChar literal)))
    (room : s.registers.count .general < RegisterClass.general.capacity) :
    s.written entry =
      [.code (.immediate .integer (s.registers.upcoming .general) literal)] := by
  rw [written, integer_feed understood room]
  exact List.drop_left

/-- An integer that is held nowhere is printed as it is written. -/
theorem integer_printed {argument : String} {rest : List String}
    (understood : ofText? entry.2 = some (.call (.call "print" (some 1))))
    (waiting : s.pending = argument :: rest) (unheld : s.registers.holder? argument = none)
    (named : isTemp argument = false) (integer : isIntOrChar argument = true) :
    s.written entry = Act.items s.options.comments (.comment "print") ++
        (.immediate .integer .a0 argument :: Service.printInteger.request).map .code ∧
      s.reported entry = [] := by
  have script : s.printScript argument =
      [.code (.immediate .integer .a0 argument :: Service.printInteger.request)] := by
    simp [printScript, unheld, named, integer]
  constructor
  · rw [pop_written understood rfl waiting, script]
    rfl
  · rw [reported_line understood, call_doing understood, pop_script rfl waiting, script]
    rfl

/-- What a line has passed is on top again once the lines behind it have settled. -/
theorem param_waits {value : String} {between : List (Location × String)}
    (understood : ofText? entry.2 = some (.call (.param value)))
    (settled : Move.Settled (between.map entryMove)) :
    ((s.feed entry).1.after between).pending = value :: s.pending := by
  rw [after_pending, settled.keeps, feed_pending, entryMove, understood]
  rfl

section Plain
variable {c : Char} (plain : isBlank c = false) (options : Options)
  (history : List (Location × String)) (place : Location)

include plain

theorem assignment_plain {temp : String} (named : isTemp temp = true) :
    ofText? (spaced [temp, "=", quoted c]) = some (.assign temp (.intOrChar (quoted c))) := by
  rw [assignment_read named c, plain]
  rfl

theorem param_plain : ofText? (spaced ["param", quoted c]) = some (.call (.param (quoted c))) := by
  rw [param_read c, plain]
  rfl

theorem quoted_assigned {temp : String} (named : isTemp temp = true)
    (room : ((start options).after history).registers.count .general <
      RegisterClass.general.capacity) :
    let s := (start options).after history
    let entry := (place, spaced [temp, "=", quoted c])
    let fresh := s.registers.upcoming .general
    (s.feed entry).2 = none ∧
      s.written entry = [.code (.immediate .integer fresh (quoted c))] ∧
      fresh.registerClass? = some .general ∧ fresh ∉ writes s.text ∧
      (s.feed entry).1.registers.holder? temp = some fresh := by
  intro s entry fresh
  have read : ofText? entry.2 = some (.assign temp (.intOrChar (quoted c))) :=
    assignment_plain plain named
  have fed := integer_feed read room
  have unwritten := (history_orderly options history).upcoming_unwritten room
  refine ⟨?_, integer_written read room, ?_, unwritten, ?_⟩
  · rw [fed]
    rfl
  · exact Allocation.registerClass?_upcoming _ _
  · rw [fed]
    simp [done, s, fresh, Allocation.holder?, Allocation.hold]

/-- The lines behind the argument may pass and take others, and none of them can bind a literal. -/
theorem quoted_printed {between : List (Location × String)}
    (settled : Move.Settled (between.map entryMove)) (later : Location) :
    let s := (start options).after history
    let t := (s.feed (place, spaced ["param", quoted c])).1.after between
    t.written (later, "call print, 1") = Act.items options.comments (.comment "print") ++
        (.immediate .integer .a0 (quoted c) :: Service.printInteger.request).map .code ∧
      t.reported (later, "call print, 1") = [] := by
  intro s t
  have passed : ofText? (place, spaced ["param", quoted c]).2 =
      some (.call (.param (quoted c))) := param_plain plain
  have waiting : t.pending = quoted c :: s.pending := param_waits passed settled
  have reached : t = (start options).after
      (history ++ (place, spaced ["param", quoted c]) :: between) := by
    rw [after_append]
    rfl
  -- Only temporaries are bound, and a literal is none.
  have unheld : t.registers.holder? (quoted c) = none := by
    rw [reached, Option.eq_none_iff_forall_ne_some]
    intro register bound
    have named := history_temps options _ _ _ bound
    rw [isTemp_quoted] at named
    cases named
  have same : t.options = options := by
    rw [reached, after_options]
    rfl
  have calls : ofText? (later, "call print, 1").2 = some (.call (.call "print" (some 1))) :=
    print_read
  rw [← same]
  exact integer_printed calls waiting unheld (isTemp_quoted c) (isIntOrChar_quoted c)

end Plain

/-- Quoted characters. An assignment of one to a temporary, or a `param` line with one, is read as
such if and only if the character is no blank. Then, after any lines, the assignment adds one
instruction, which loads the literal into a register that no instruction filled before and to which
the temporary is bound; and the print that takes the argument loads the literal into the argument
register. -/
theorem quoted_characters_lowered {temp : String} (named : isTemp temp = true) (c : Char) :
    let assignment := spaced [temp, "=", quoted c]
    let param := spaced ["param", quoted c]
    ofText? assignment =
      some (if isBlank c = true then .generic assignment
        else .assign temp (.intOrChar (quoted c))) ∧
    ofText? param =
      some (if isBlank c = true then .generic param else .call (.param (quoted c))) ∧
    (isBlank c = false → ∀ options history place,
      let s := (start options).after history
      let fresh := s.registers.upcoming .general
      (s.registers.count .general < RegisterClass.general.capacity →
        (s.feed (place, assignment)).2 = none ∧
        s.written (place, assignment) = [.code (.immediate .integer fresh (quoted c))] ∧
        fresh.registerClass? = some .general ∧ fresh ∉ writes s.text ∧
        (s.feed (place, assignment)).1.registers.holder? temp = some fresh) ∧
      ∀ between later, Move.Settled (between.map entryMove) →
        let t := (s.feed (place, param)).1.after between
        t.written (later, "call print, 1") =
          Act.items options.comments (.comment "print") ++
            (.immediate .integer .a0 (quoted c) :: Service.printInteger.request).map .code ∧
        t.reported (later, "call print, 1") = []) := by
  intro assignment param
  refine ⟨assignment_read named c, param_read c, ?_⟩
  intro plain options history place s fresh
  constructor
  · intro room
    exact quoted_assigned plain options history place named room
  · intro between later settled
    exact quoted_printed plain options history place settled later

theorem quoted_hash_lowered :
    let s := (start {}).after [(.input 1, "t0 = 1")]
    ofText? "t7 = '#'" = some (.assign "t7" (.intOrChar "'#'")) ∧
      s.written (.input 2, "t7 = '#'") = [.code (.immediate .integer (.t 1) "'#'")] ∧
      (s.feed (.input 2, "param '#'")).1.written (.input 3, "call print, 1") =
        [.comment "print", .code (.immediate .integer .a0 "'#'"),
          .code (.immediate .integer .v0 "1"), .code .syscall] := by
  intro s
  have assignment : spaced ["t7", "=", quoted '#'] = "t7 = '#'" := by decide +kernel
  have param : spaced ["param", quoted '#'] = "param '#'" := by decide +kernel
  have fresh : s.registers.upcoming .general = .t 1 := by decide +kernel
  have room : s.registers.count .general < RegisterClass.general.capacity := by decide +kernel
  have named : isTemp "t7" = true := by decide +kernel
  obtain ⟨read, -, lowered⟩ := quoted_characters_lowered named '#'
  obtain ⟨assigned, printed⟩ := lowered (by decide +kernel) {} [(.input 1, "t0 = 1")] (.input 2)
  have called := printed [] (.input 3) .nil
  rw [assignment] at read assigned
  rw [param] at called
  exact ⟨read, fresh ▸ (assigned room).2.1, called.1⟩

end Lowering

end ThreeAddress
