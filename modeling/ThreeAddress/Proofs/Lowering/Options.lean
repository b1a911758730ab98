import ThreeAddress.Proofs.Lowering.History
import ThreeAddress.Proofs.Lowering.Scripts
import ThreeAddress.Proofs.Lowering.Steps

/-!
Options decide what a text says and nothing else. Two lowerings of the same lines with different
options are compared line by line: they fail together, they agree in all but options and texts,
and what a line adds to one text it adds to the other, apart from comments and from the code of
a return.
-/

namespace ThreeAddress

def Item.isComment : Item → Bool
  | .comment _ => true
  | _ => false

def uncommented (items : List Item) : List Item :=
  items.filter fun item => !item.isComment

def Lowered.beside (lowered : Lowered) : List (String × Storage) × Report :=
  (lowered.assembly.data, lowered.report)

@[simp] theorem uncommented_append (first second : List Item) :
    uncommented (first ++ second) = uncommented first ++ uncommented second :=
  List.filter_append ..

theorem uncommented_code (instructions : List Instruction) :
    uncommented (instructions.map .code) = instructions.map .code := by
  simp [uncommented, Item.isComment]

/-- Comments are all that an act adds with one setting and not with the other. -/
theorem Act.items_uncommented (act : Act) (one other : Bool) :
    uncommented (act.items one) = uncommented (act.items other) := by
  cases act with
  | comment text => cases one <;> cases other <;> rfl
  | _ => rfl

theorem flatMap_uncommented (acts : List Act) (one other : Bool) :
    uncommented (acts.flatMap (Act.items one)) = uncommented (acts.flatMap (Act.items other)) := by
  induction acts with
  | nil => rfl
  | cons act rest ih =>
      rw [List.flatMap_cons, List.flatMap_cons, uncommented_append, uncommented_append, ih,
        act.items_uncommented one other]

namespace Lowering
variable {s t : Lowering}

/-! ## Two lowerings of the same lines -/

def Alike (s t : Lowering) : Prop :=
  t = { s with options := t.options, text := t.text }

namespace Alike

theorem lacks (alike : Alike s t) (act : Act) : t.lacks? act = s.lacks? act := by
  rw [alike]
  rfl

theorem apply (alike : Alike s t) (act : Act) : Alike (s.apply act) (t.apply act) := by
  obtain ⟨options, text, rfl⟩ : ∃ options text, t = { s with options, text } := ⟨_, _, alike⟩
  cases act with
  | comment words =>
      -- Either state may have comments on.
      simp only [Lowering.apply, Lowering.comment]
      split <;> split <;> rfl
  | report finding => cases finding <;> rfl
  | _ => rfl

theorem code (alike : Alike s t) (first second : List Instruction) :
    Alike (s.code first) (t.code second) := by
  rw [alike]
  rfl

theorem perform (alike : Alike s t) (acts : List Act) :
    (t.perform acts).2 = (s.perform acts).2 ∧ Alike (s.perform acts).1 (t.perform acts).1 ∧
      t.carried acts = s.carried acts := by
  -- The counters agree, so both states refuse the same request.
  have both := perform_related Alike id (fun _ _ act alike => alike.lacks act)
    (fun _ _ act alike => alike.apply act) alike acts
  have place : t.location = s.location := by rw [alike]
  rw [List.map_id, List.map_id, place] at both
  obtain ⟨states, same, full, one, other⟩ := both
  exact ⟨other.trans one.symm, states, same⟩

/-- A return is the one line whose acts depend on the options. -/
theorem script (alike : Alike s t) {line : Line} (other : line ≠ .control .leave) :
    t.script line = s.script line := by
  rw [alike]
  cases line with
  | control flow =>
      cases flow with
      | leave => exact absurd rfl other
      | _ => rfl
  | _ => rfl

end Alike

/-- What a line, if there is one, adds to two texts that are written with these options. -/
def AddsAlike (one other : Options) (line? : Option Line) (first second : List Item) : Prop :=
  if line? = some (.control .leave) then
    uncommented first = (returnCode one.returnLabel).map .code ∧
      uncommented second = (returnCode other.returnLabel).map .code
  else
    uncommented first = uncommented second

structure EndAlike (s t : Lowering) (line? : Option Line) (one other : Outcome) : Prop where
  failure : other.2 = one.2
  states : Alike one.1 other.1
  texts : ∃ first second, one.1.text = s.text ++ first ∧ other.1.text = t.text ++ second ∧
    AddsAlike s.options t.options line? first second

theorem uncommented_marks (s : Lowering) (text : String) : uncommented (s.marks text) = [] := by
  unfold marks
  split <;> rfl

theorem leave_text (s : Lowering) :
    (s.control .leave).text =
      s.text ++ (s.marks "return" ++ (returnCode s.options.returnLabel).map .code) := by
  rw [← List.append_assoc, ← comment_text]
  rfl

theorem leave_alike (alike : Alike s t) :
    EndAlike s t (some (.control .leave)) (done (s.control .leave)) (done (t.control .leave)) where
  failure := rfl
  states := (alike.apply (.comment "return")).code (returnCode s.options.returnLabel)
    (returnCode t.options.returnLabel)
  texts := by
    refine ⟨_, _, leave_text s, leave_text t, ?_⟩
    rw [AddsAlike, if_pos rfl]
    simp only [uncommented_append, uncommented_marks, uncommented_code, List.nil_append, and_self]

theorem step_alike (alike : Alike s t) (line : Line) :
    EndAlike s t (some line) (s.step line) (t.step line) := by
  by_cases leaves : line = .control .leave
  · subst leaves
    exact leave_alike alike
  · -- The same acts, carried out equally far, so only their comments can differ.
    rw [step_performs, step_performs, alike.script leaves]
    obtain ⟨failure, states, same⟩ := alike.perform (s.script line)
    refine ⟨failure, states, _, _, perform_text s _, perform_text t _, ?_⟩
    rw [AddsAlike, if_neg (by simpa using leaves), same]
    exact flatMap_uncommented _ _ _

theorem feed_alike (alike : Alike s t) (entry : Location × String) :
    EndAlike s t (Line.ofText? entry.2) (s.feed entry) (t.feed entry) := by
  have moved : Alike { s with location := entry.1 } { t with location := entry.1 } := by
    rw [alike]
    rfl
  cases understood : Line.ofText? entry.2 with
  | some line =>
      rw [feed_line s understood, feed_line t understood]
      obtain ⟨failure, states, texts⟩ := step_alike moved line
      exact ⟨failure, states, texts⟩
  | none =>
      rw [feed_blank s understood, feed_blank t understood]
      exact ⟨rfl, moved, [], [], (List.append_nil _).symm, (List.append_nil _).symm, rfl⟩

/-! ## Whole runs -/

theorem start_alike (one other : Options) : Alike (start one) (start other) := rfl

theorem after_alike (one other : Options) (history : List (Location × String)) :
    Alike ((start one).after history) ((start other).after history) := by
  apply after_related Alike _ (start_alike one other)
  intro s t entry alike
  exact ⟨(feed_alike alike entry).failure, (feed_alike alike entry).states⟩

theorem program_alike (one other : Options) (program : Program) :
    ((start other).program program).2 = ((start one).program program).2 ∧
      Alike ((start one).program program).1 ((start other).program program).1 := by
  apply numberedLines_related Alike _ (start_alike one other)
  intro s t entry alike
  exact ⟨(feed_alike alike entry).failure, (feed_alike alike entry).states⟩

theorem lower_alike (one other : Options) (program : Program) :
    (program.lower other).map Lowered.beside = (program.lower one).map Lowered.beside := by
  obtain ⟨failure, states⟩ := program_alike one other program
  unfold Program.lower
  generalize (start one).program program = ended at failure states
  generalize (start other).program program = alsoEnded at failure states
  obtain ⟨s, outcome⟩ := ended
  obtain ⟨t, _⟩ := alsoEnded
  cases failure
  cases outcome with
  | some failure => rfl
  | none =>
      have same : t.data = s.data ∧ t.report = s.report := by
        rw [show t = { s with options := t.options, text := t.text } from states]
        exact ⟨rfl, rfl⟩
      simp [Except.map, Lowered.beside, assembly, same]

/-- States whose returns end alike, with texts that differ in comments alone. -/
structure Twins (s t : Lowering) : Prop where
  alike : Alike s t
  returns : t.options.returnLabel = s.options.returnLabel
  texts : uncommented t.text = uncommented s.text

theorem feed_twins (twins : Twins s t) (entry : Location × String) :
    Twins (s.feed entry).1 (t.feed entry).1 := by
  obtain ⟨_, states, first, second, longer, alsoLonger, added⟩ := feed_alike twins.alike entry
  have same : uncommented second = uncommented first := by
    unfold AddsAlike at added
    split at added
    · -- A return says where it ends, which is the same place for twins.
      rw [added.1, added.2, twins.returns]
    · exact added.symm
  refine ⟨states, ?_, ?_⟩
  · have here : (s.feed entry).1.options = s.options := after_options s [entry]
    have there : (t.feed entry).1.options = t.options := after_options t [entry]
    rw [here, there, twins.returns]
  · rw [longer, alsoLonger, uncommented_append, uncommented_append, twins.texts, same]

theorem program_twins (returnLabel : Option String) (one other : Bool) (program : Program) :
    Twins ((start ⟨one, returnLabel⟩).program program).1
      ((start ⟨other, returnLabel⟩).program program).1 := by
  have begun : Twins (start ⟨one, returnLabel⟩) (start ⟨other, returnLabel⟩) := ⟨rfl, rfl, rfl⟩
  refine (numberedLines_related Twins ?_ begun program program.lines).2
  intro s t entry twins
  exact ⟨(feed_alike twins.alike entry).failure, feed_twins twins entry⟩

structure Silent (s : Lowering) : Prop where
  off : s.options.comments = false
  bare : uncommented s.text = s.text

theorem Silent.adds (silent : Silent s) {added : List Item} (bare : uncommented added = added)
    (options : t.options = s.options) (text : t.text = s.text ++ added) : Silent t where
  off := options ▸ silent.off
  bare := by rw [text, uncommented_append, silent.bare, bare]

theorem Change.silent {start : Lowering} {line : Line} (change : Change start line s t)
    (silent : Silent s) : Silent t := by
  have same := change.options
  cases change with
  | comment text =>
      have quiet : s.marks text = [] := by simp [marks, silent.off]
      exact silent.adds rfl same (by rw [comment_text, quiet])
  | label text => exact silent.adds rfl same rfl
  | raw text => exact silent.adds rfl same rfl
  | code idle => exact silent.adds (uncommented_code _) same rfl
  | fill room fills => exact silent.adds (uncommented_code _) same rfl
  | _ => exact ⟨silent.off, silent.bare⟩

theorem history_silent (returnLabel : Option String) (history : List (Location × String)) :
    Silent ((start ⟨false, returnLabel⟩).after history) :=
  history_keeps Silent (fun _ _ silent => ⟨silent.off, silent.bare⟩)
    (fun _ _ _ _ change => change.silent) _ ⟨rfl, rfl⟩ history

theorem program_silent (returnLabel : Option String) (program : Program) :
    Silent ((start ⟨false, returnLabel⟩).program program).1 := by
  obtain ⟨history, _, same⟩ :=
    numberedLines_history (start ⟨false, returnLabel⟩) program program.lines
  rw [Lowering.program, same]
  exact history_silent returnLabel history

/-- Options decide the comments and how a return ends, and nothing else. With any two of them a
program is lowered to its end, or fails, in the same way, and the states agree in all but the
text; so do the states before and after any line, failed ones before it included, and the line
adds the same to both texts but for comments, or what the options say of a return. A text
without comments has none, and is the text with comments once these are taken out. -/
theorem options_decide (one other : Options) :
    (∀ program : Program,
      (program.lower other).map Lowered.beside = (program.lower one).map Lowered.beside ∧
      ((start other).program program).2 = ((start one).program program).2 ∧
      Alike ((start one).program program).1 ((start other).program program).1) ∧
    (∀ (history : List (Location × String)) (entry : Location × String),
      let s := (start one).after history
      let t := (start other).after history
      Alike s t ∧ (t.feed entry).2 = (s.feed entry).2 ∧
      Alike (s.feed entry).1 (t.feed entry).1 ∧
      ∃ first second, (s.feed entry).1.text = s.text ++ first ∧
        (t.feed entry).1.text = t.text ++ second ∧
        AddsAlike one other (Line.ofText? entry.2) first second) ∧
    (∀ history : List (Location × String),
      ∀ item ∈ ((start ⟨false, one.returnLabel⟩).after history).text, item.isComment = false) ∧
    ∀ program : Program,
      ((start ⟨false, one.returnLabel⟩).program program).1.text =
        uncommented ((start ⟨true, one.returnLabel⟩).program program).1.text := by
  refine ⟨fun program => ⟨lower_alike one other program, program_alike one other program⟩,
    ?_, ?_, ?_⟩
  · intro history entry s t
    have alike := after_alike one other history
    obtain ⟨failure, states, texts⟩ := feed_alike alike entry
    rw [after_options, after_options] at texts
    exact ⟨alike, failure, states, texts⟩
  · intro history item member
    rw [← (history_silent one.returnLabel history).bare] at member
    simpa using (List.mem_filter.mp member).2
  · intro program
    rw [← (program_twins one.returnLabel true false program).texts]
    exact (program_silent one.returnLabel program).bare.symm

end Lowering

end ThreeAddress
