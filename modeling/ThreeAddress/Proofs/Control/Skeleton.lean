import ThreeAddress.Proofs.Line.Shapes
import ThreeAddress.Proofs.Lowering.History
import ThreeAddress.Proofs.Lowering.Scripts

/-!
The control skeleton of a program: its labels, jumps, branches, returns and the lines that are
passed through. The text has the same skeleton as the source, in the same order. What other
lines add is taken as it comes before any text, since the syscall of an exit is told from that
of a print by the item before it.
-/

namespace ThreeAddress

/-- An item of the skeleton. Which register a branch tests is left out. -/
inductive Landmark where
  | label (text : String)
  | raw (text : String)
  | branch (target : String)
  | jump (target : String)
  | exitNumber
  | exitCall
  deriving DecidableEq, Repr

def exitNumber : Instruction :=
  .immediate .integer .v0 (Nat.repr Service.exit.number)

/-- A syscall is one for an exit if the number was asked for just before. -/
def Item.landmark? (exits : Bool) : Item → Option Landmark
  | .label text => some (.label text)
  | .raw text => some (.raw text)
  | .comment _ => none
  | .code (.branchZero _ target) => some (.branch target)
  | .code (.jump target) => some (.jump target)
  | .code .syscall => if exits then some .exitCall else none
  | .code instruction => if instruction = exitNumber then some .exitNumber else none

def skeletonFrom : Bool → List Item → List Landmark
  | _, [] => []
  | exits, item :: rest =>
      (item.landmark? exits).toList ++ skeletonFrom (item = .code exitNumber) rest

def skeleton (items : List Item) : List Landmark :=
  skeletonFrom false items

def sourceLandmarks (returnLabel : Option String) (raw : String) : List Landmark :=
  match Line.ofText? raw with
  | some (.label _) => [.label (Line.trimmed raw)]
  | some (.generic _) => [.raw (Line.trimmed raw)]
  | some (.control (.ifGoto _ target)) => [.branch target]
  | some (.control (.goto target)) => [.jump target]
  | some (.control .leave) => skeleton ((Lowering.returnCode returnLabel).map .code)
  | _ => []

def Line.landmarks (returnLabel : Option String) : Line → List Landmark
  | .label text => [.label text]
  | .generic text => [.raw text]
  | .control (.ifGoto _ target) => [.branch target]
  | .control (.goto target) => [.jump target]
  | .control .leave => skeleton ((Lowering.returnCode returnLabel).map .code)
  | _ => []

theorem landmarks_source {raw : String} {line : Line} (returnLabel : Option String)
    (read : Line.ofText? raw = some line) :
    line.landmarks returnLabel = sourceLandmarks returnLabel raw := by
  unfold sourceLandmarks
  rw [read]
  cases line with
  | label text => rw [Line.ofText_label read]; rfl
  | generic text => rw [Line.ofText_generic read]; rfl
  | control flow => cases flow <;> rfl
  | _ => rfl

/-! ## What items add to a skeleton -/

/-- The items show these landmarks, whatever comes after them. -/
def Shows (items : List Item) (marks : List Landmark) : Prop :=
  ∀ rest, skeleton (items ++ rest) = marks ++ skeleton rest

namespace Shows
variable {first second : List Item} {firstMarks secondMarks : List Landmark}

theorem nothing : Shows [] [] := fun _ => rfl

theorem append (shown : Shows first firstMarks) (more : Shows second secondMarks) :
    Shows (first ++ second) (firstMarks ++ secondMarks) := by
  intro rest
  rw [List.append_assoc, shown, more, List.append_assoc]

/-- Only the number of the exit service needs what follows it. -/
theorem one (item : Item) (closed : item ≠ .code exitNumber) :
    Shows [item] (item.landmark? false).toList := by
  intro rest
  simp [skeleton, skeletonFrom, closed]

theorem exit : Shows (Service.exit.request.map .code) [.exitNumber, .exitCall] := by
  intro rest
  rfl

theorem plain {instruction : Instruction} (plain : instruction.isControl = false) :
    Shows [.code instruction] [] := by
  have other : instruction ≠ exitNumber := by
    rintro rfl
    revert plain
    decide
  have none : (Item.code instruction).landmark? false = Option.none := by
    cases instruction <;> simp_all [Item.landmark?, Instruction.isControl]
  have shown := one (.code instruction) (by simpa using other)
  rwa [none] at shown

theorem code {instructions : List Instruction}
    (plain : ∀ instruction ∈ instructions, instruction.isControl = false) :
    Shows (instructions.map .code) [] := by
  induction instructions with
  | nil => exact nothing
  | cons instruction rest ih =>
      have later := ih fun other member => plain other (List.mem_cons_of_mem _ member)
      exact (Shows.plain (plain instruction List.mem_cons_self)).append later

theorem quiet {act : Act} (quiet : act.isQuiet = true) (comments : Bool) :
    Shows (act.items comments) [] := by
  cases act with
  | comment text =>
      cases comments
      · exact nothing
      · exact one (.comment text) (by simp)
  | code instructions => exact code (by simpa [Act.isQuiet] using quiet)
  | emit item => cases quiet
  | _ => exact nothing

theorem returns (returnLabel : Option String) :
    Shows ((Lowering.returnCode returnLabel).map .code)
      (skeleton ((Lowering.returnCode returnLabel).map .code)) := by
  cases returnLabel with
  | some label => exact one (.code (.jump label)) (by simp [exitNumber])
  | none => exact exit

end Shows

namespace Lowering
variable {s : Lowering}

def Draws (s t : Lowering) (marks : List Landmark) : Prop :=
  t.options = s.options ∧ ∃ added, t.text = s.text ++ added ∧ Shows added marks

theorem Draws.refl (s : Lowering) : Draws s s [] :=
  ⟨rfl, [], (List.append_nil _).symm, .nothing⟩

theorem Draws.trans {t u : Lowering} {first second : List Landmark} (early : Draws s t first)
    (late : Draws t u second) : Draws s u (first ++ second) := by
  obtain ⟨options, added, text, shown⟩ := early
  obtain ⟨again, more, longer, alsoShown⟩ := late
  refine ⟨again.trans options, added ++ more, ?_, shown.append alsoShown⟩
  rw [longer, text, List.append_assoc]

theorem apply_draws (s : Lowering) (act : Act) {marks : List Landmark}
    (shown : Shows (act.items s.options.comments) marks) : Draws s (s.apply act) marks :=
  ⟨apply_options s act, _, apply_text s act, shown⟩

theorem perform_draws {acts : List Act} (quiet : ∀ act ∈ acts, act.isQuiet = true)
    (s : Lowering) : Draws s (s.perform acts).1 [] := by
  apply perform_keeps (fun t => Draws s t []) acts _ s (.refl s)
  intro act member t drawn
  exact drawn.trans (apply_draws t act (.quiet (quiet act member) _))

theorem comment_draws (s : Lowering) (text : String) : Draws s (s.comment text) [] :=
  apply_draws s (.comment text) (.quiet rfl _)

theorem report_draws (s : Lowering) (finding : Option Finding) :
    Draws s (s.apply (.report finding)) [] :=
  apply_draws s (.report finding) (.quiet rfl _)

theorem code_draws (s : Lowering) {instructions : List Instruction} {marks : List Landmark}
    (shown : Shows (instructions.map .code) marks) : Draws s (s.code instructions) marks :=
  apply_draws s (.code instructions) shown

theorem control_draws (s : Lowering) (flow : Transfer) :
    Draws s (s.control flow) (Line.landmarks s.options.returnLabel (.control flow)) := by
  cases flow with
  | ifGoto condition target =>
      rw [control, branch_performs]
      have noted := ((comment_draws s "if").trans (report_draws _ (s.untested? condition))).trans
        (report_draws _ (s.misplaced? condition))
      have shown : Shows [.code (.branchZero s.tested target)] [.branch target] :=
        .one _ (by simp [exitNumber])
      exact noted.trans (code_draws _ shown)
  | goto target =>
      have shown : Shows [.code (.jump target)] [.jump target] := .one _ (by simp [exitNumber])
      exact (comment_draws s "goto").trans (code_draws _ shown)
  | leave => exact (comment_draws s "return").trans (code_draws _ (.returns s.options.returnLabel))

/-- A line shows what it says about control, also where it fails. -/
theorem step_draws (s : Lowering) (line : Line) :
    Draws s (s.step line).1 (line.landmarks s.options.returnLabel) := by
  cases line with
  | label text => exact apply_draws s (.emit (.label text)) (.one _ (by simp))
  | generic text => exact apply_draws s (.emit (.raw text)) (.one _ (by simp))
  | declaration declared =>
      exact (comment_draws s _).trans (apply_draws _ (.declare declared) .nothing)
  | control flow => exact control_draws s flow
  | call made | operation dest left op right | assign dest value | store dest temp =>
      rw [step_performs]
      exact perform_draws (script_quiet s rfl) s

theorem feed_draws (s : Lowering) (entry : Location × String) :
    Draws s (s.feed entry).1 (sourceLandmarks s.options.returnLabel entry.2) := by
  cases understood : Line.ofText? entry.2 with
  | some line =>
      rw [feed_line s understood, ← landmarks_source _ understood]
      exact step_draws { s with location := entry.1 } line
  | none =>
      rw [feed_blank s understood]
      have marks : sourceLandmarks s.options.returnLabel entry.2 = [] := by
        simp [sourceLandmarks, understood]
      rw [marks]
      exact ⟨rfl, [], (List.append_nil _).symm, .nothing⟩

/-- A history shows what its lines say about control, those that fail included. -/
theorem after_draws (s : Lowering) (history : List (Location × String)) :
    Draws s (s.after history)
      (history.flatMap fun entry => sourceLandmarks s.options.returnLabel entry.2) := by
  -- On the lines, with the state general: each line goes on from what the last one left.
  induction history generalizing s with
  | nil => exact .refl s
  | cons entry rest ih =>
      have here := feed_draws s entry
      have later := ih (s.feed entry).1
      rw [here.1] at later
      exact here.trans later

end Lowering

/-- The text of a lowered program has the control skeleton of its source: the labels, raw lines,
branches, jumps and returns of the lines, in their order, and no others. -/
theorem skeleton_lowered (program : Program) (options : Options) (lowered : Lowered)
    (accepted : program.lower options = .ok lowered) :
    skeleton lowered.assembly.text =
      program.lines.flatMap fun line => sourceLandmarks options.returnLabel line.2 := by
  obtain ⟨final, outcome, text⟩ := Program.lower_ok accepted
  obtain ⟨_, reached⟩ := Lowering.numberedLines_succeeds _ final program _ outcome
  obtain ⟨_, added, grown, shown⟩ :=
    Lowering.after_draws (Lowering.start options) program.entries
  have whole : lowered.assembly.text = added := by
    rw [text, ← reached]
    exact grown
  have marks := shown []
  rw [List.append_nil] at marks
  rw [whole, marks, Program.entries, Program.entriesFrom, List.flatMap_map]
  exact List.append_nil _

/-- Every kind of landmark, beside lines that leave none. The `li` of the print and its syscall
are not those of an exit. -/
def guarded : Program where
  name := "guarded"
  source := "dataInt n\nt0 = n\n  again :\nif t0 goto done\nparam t0\ncall print, 1\n" ++
    "goto again\n  .align  2\ndone:\nreturn\n"

theorem guarded_skeleton :
    ∃ lowered, guarded.lower {} = .ok lowered ∧
      skeleton lowered.assembly.text =
        [.label "again :", .branch "done", .jump "again", .raw ".align  2", .label "done:",
          .exitNumber, .exitCall] := by
  obtain ⟨lowered, accepted⟩ : ∃ lowered, guarded.lower {} = .ok lowered := by
    have succeeds : ((Lowering.start {}).program guarded).2 = none := by decide +kernel
    unfold Program.lower
    split
    · exact ⟨_, rfl⟩
    · simp_all
  refine ⟨lowered, accepted, ?_⟩
  rw [skeleton_lowered guarded {} lowered accepted]
  decide +kernel

end ThreeAddress
