import Mathlib.Logic.Relation
import ThreeAddress.Proofs.Line.Spelling
import ThreeAddress.Proofs.Lowering.Places
import ThreeAddress.Proofs.Text.Flat

/-!
The layout of a source. Spelling a line in another way, and adding or removing lines that are
blank or comments, changes where the other lines stand and not what is said. So it changes
nothing in what becomes of the source but the numbers of lines.
-/

namespace ThreeAddress

namespace Text

def LineEndsBefore (behind : List Char) : Prop :=
  behind = [] ∨ behind.head? = some '\n'

end Text

namespace Layout
open Text Line

/-- One change of the layout; in the other direction it is one too. -/
inductive Edit : List Char → List Char → Prop
  /-- A line in another spelling. -/
  | spelling {before line other behind : List Char} (starts : LineStartsAfter before)
      (flat : '\n' ∉ line) (ends : LineEndsBefore behind) (respelled : Respelled line other) :
      Edit (before ++ line ++ behind) (before ++ other ++ behind)
  /-- A new line above another, or at the end. -/
  | above {before line : List Char} (behind : List Char) (starts : LineStartsAfter before)
      (silent : SaysNothing line) : Edit (before ++ behind) (before ++ (line ++ '\n' :: behind))
  /-- A new line below another. -/
  | below (before : List Char) {line behind : List Char} (ends : LineEndsBefore behind)
      (silent : SaysNothing line) : Edit (before ++ behind) (before ++ '\n' :: (line ++ behind))

def Same (source other : String) : Prop :=
  Relation.EqvGen Edit source.toList other.toList

/-! ## What a text says -/

def said (text : List Char) : List Line :=
  (pieces isLineFeed text).filterMap ofChars?

@[simp] theorem said_nil : said [] = [] := rfl

theorem said_lineFeed (first second : List Char) :
    said (first ++ '\n' :: second) = said first ++ said second := by
  rw [said, pieces_append_cut isLineFeed first '\n' second rfl, List.filterMap_append]
  rfl

theorem said_starts {before : List Char} (starts : LineStartsAfter before) (behind : List Char) :
    said (before ++ behind) = said before ++ said behind := by
  rcases starts with rfl | ends
  · rfl
  · obtain ⟨front, rfl⟩ := List.getLast?_eq_some_iff.mp ends
    -- The last line feed cuts off an empty piece, which says nothing.
    have empty := said_lineFeed front []
    rw [said_nil, List.append_nil] at empty
    rw [List.append_assoc, List.singleton_append, said_lineFeed, empty]

theorem said_ends (before : List Char) {behind : List Char} (ends : LineEndsBefore behind) :
    said (before ++ behind) = said before ++ said behind := by
  rcases ends with rfl | starts
  · simp
  · obtain ⟨rest, rfl⟩ := List.head?_eq_some_iff.mp starts
    have empty := said_lineFeed [] rest
    rw [said_nil, List.nil_append, List.nil_append] at empty
    rw [said_lineFeed, empty]

theorem said_flat {line : List Char} (flat : '\n' ∉ line) :
    said line = (ofChars? line).toList := by
  rw [said, pieces_flat flat]
  cases read : ofChars? line <;> simp [read]

theorem said_silent {line : List Char} (silent : SaysNothing line) : said line = [] := by
  rw [said_flat silent.1, silent.read]
  rfl

/-- An edit changes nothing in what is said. -/
theorem Edit.said_eq {source other : List Char} (edit : Edit source other) :
    said other = said source := by
  cases edit with
  | spelling starts flat ends respelled =>
      rw [said_ends _ ends, said_ends _ ends, said_starts starts, said_starts starts,
        said_flat flat, said_flat (respelled.flat flat), respelled.read]
  | above behind starts silent =>
      rw [said_starts starts, said_starts starts, said_lineFeed, said_silent silent,
        List.nil_append]
  | below before ends silent =>
      rw [said_lineFeed, said_ends _ ends, said_ends _ ends, said_silent silent, List.nil_append]

theorem Same.said_eq {source other : String} (same : Same source other) :
    said other.toList = said source.toList := by
  -- Edits may lead back and forth, so what they keep is shown of all that they lead to.
  have kept : ∀ first second, Relation.EqvGen Edit first second → said second = said first := by
    intro first second edits
    induction edits with
    | rel _ _ edit => exact edit.said_eq
    | refl _ => rfl
    | symm _ _ _ ih => exact ih.symm
    | trans _ _ _ _ _ here there => exact there.trans here
  exact kept _ _ same

/-! ## Numbered lines -/

theorem ofChars_dropReturn (line : List Char) : ofChars? (dropReturn line) = ofChars? line := by
  unfold dropReturn
  split
  · rename_i returned
    obtain ⟨front, rfl⟩ := List.getLast?_eq_some_iff.mp returned
    rw [List.dropLast_concat]
    exact (Respelled.returned front).read.symm
  · rfl

theorem closeLines_said (cut : List (List Char)) :
    (closeLines cut).filterMap ofChars? = cut.filterMap ofChars? := by
  fun_induction closeLines cut with
  | case1 => rfl
  | case2 last empty =>
      obtain rfl := List.isEmpty_iff.mp empty
      rfl
  | case3 last filled => rfl
  | case4 line later more ih =>
      rw [List.filterMap_cons, List.filterMap_cons, ofChars_dropReturn, ih]

theorem numbered_said (program : Program) (start : Nat) (lines : List (List Char)) :
    (program.saidFrom (Program.number start (lines.map String.ofList))).map Prod.snd =
      lines.filterMap ofChars? := by
  induction lines generalizing start with
  | nil => rfl
  | cons text rest ih =>
      rw [List.map_cons, Program.number, List.filterMap_cons]
      cases read : ofChars? text with
      | none =>
          rw [program.saidFrom_blank start _ read]
          exact ih (start + 1)
      | some line =>
          rw [program.saidFrom_line start _ read, List.map_cons, ih]

theorem said_lines (program : Program) :
    program.said.map Prod.snd = said program.source.toList := by
  rw [Program.said, Program.lines, numbered_said, Text.lines, closeLines_said]
  rfl

def SameFile (first second : Location) : Prop :=
  second.file = first.file

theorem said_file (program : Program) :
    ∀ entry ∈ program.said, entry.1.file = program.name := by
  intro entry member
  obtain ⟨line, _, read⟩ := List.mem_filterMap.mp member
  obtain ⟨_, _, rfl⟩ := Option.map_eq_some_iff.mp read
  rfl

theorem told_sameFile {first second : List (Location × Line)} {name : String}
    (same : second.map Prod.snd = first.map Prod.snd)
    (here : ∀ entry ∈ first, entry.1.file = name)
    (there : ∀ entry ∈ second, entry.1.file = name) :
    List.Forall₂ (Told SameFile) first second := by
  induction first generalizing second with
  | nil =>
      obtain rfl := List.map_eq_nil_iff.mp same
      exact .nil
  | cons one rest ih =>
      obtain ⟨other, more, rfl, line, lines⟩ := List.map_eq_cons_iff.mp same
      rw [List.forall_mem_cons] at here there
      exact .cons ⟨there.1.trans here.1.symm, line⟩ (ih lines here.2 there.2)

end Layout

namespace Lowering
open Layout Line Text

/-- Sources that differ in layout end alike: both fail, and for the same cause, or neither does,
the code is the same letter by letter, and the same is reported in the same order. Nothing but
the numbers of lines may differ. -/
theorem layout_irrelevant (options : Options) (name : String) {source other : String}
    (same : Layout.Same source other) :
    let one := (start options).program ⟨name, source⟩
    let two := (start options).program ⟨name, other⟩
    Option.Rel (Failure.Moved SameFile) one.2 two.2 ∧
      two.1.assembly.render = one.1.assembly.render ∧
      List.Forall₂ (Diagnostic.Moved SameFile) one.1.report.diagnostics
        two.1.report.diagnostics := by
  intro one two
  have lines : (Program.said ⟨name, other⟩).map Prod.snd =
      (Program.said ⟨name, source⟩).map Prod.snd := by
    rw [said_lines, said_lines]
    exact same.said_eq
  have told := told_sameFile lines (said_file ⟨name, source⟩)
    (said_file ⟨name, other⟩)
  obtain ⟨⟨states, _, _, first, second, here, there, moved⟩, failure⟩ :=
    numberedLines_displaced (start options) _ _ _ _ told
  refine ⟨failure, ?_, ?_⟩
  · have code : two.1.assembly = one.1.assembly := by
      simp only [two, one, program]
      rw [states]
      rfl
    rw [code]
  · exact here ▸ there ▸ moved

theorem respelled_store :
    Respelled ['x', ' ', '=', ' ', 't', '0'] ['x', ' ', ' ', '=', ' ', 't', '0'] := by
  have before : HasWord ['x'] := ⟨'x', by decide, by decide⟩
  have behind : HasWord ['=', ' ', 't', '0'] := ⟨'=', by decide, by decide⟩
  have gaps : IsGap [' '] := by decide
  have wider : IsGap [' ', ' '] := by decide
  refine .respaced before behind gaps (by decide) wider (by decide) ?_
  intro line read
  have stored : ofChars? ['x', ' ', '=', ' ', 't', '0'] = some (.store "x" "t0") := by
    decide +kernel
  obtain rfl := Option.some.inj (stored.symm.trans read)
  rfl

/-- A comment above, a tab in front, a carriage return at the end and a wider gap. -/
theorem commented_store_alike :
    Layout.Same "x = t0\n" "# store\n\tx  = t0\r\n" ∧
      let one := (start {}).program ⟨"m", "x = t0\n"⟩
      let two := (start {}).program ⟨"m", "# store\n\tx  = t0\r\n"⟩
      Option.Rel (Failure.Moved SameFile) one.2 two.2 ∧
        two.1.assembly.render = one.1.assembly.render ∧
        List.Forall₂ (Diagnostic.Moved SameFile) one.1.report.diagnostics
          two.1.report.diagnostics := by
  have same : Layout.Same "x = t0\n" "# store\n\tx  = t0\r\n" := by
    have tab : IsGap ['\t'] := by decide
    have silent : SaysNothing "# store".toList := ⟨by decide, .inr (by decide)⟩
    have first : LineStartsAfter [] := .inl rfl
    have last : LineEndsBefore ['\n'] := .inr rfl
    have wider := Edit.spelling first (by decide) last respelled_store
    have indented := Edit.spelling first (by decide) last
      (Respelled.indented ['x', ' ', ' ', '=', ' ', 't', '0'] tab)
    have returned := Edit.spelling first (by decide) last
      (Respelled.returned ['\t', 'x', ' ', ' ', '=', ' ', 't', '0'])
    have commented := Edit.above ['\t', 'x', ' ', ' ', '=', ' ', 't', '0', '\r', '\n'] first silent
    exact (((Relation.EqvGen.rel _ _ wider).trans _ _ _ (.rel _ _ indented)).trans _ _ _
      (.rel _ _ returned)).trans _ _ _ (.rel _ _ commented)
  exact ⟨same, layout_irrelevant {} "m" same⟩

end Lowering

end ThreeAddress
