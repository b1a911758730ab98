import ThreeAddress.Line.Rules
import ThreeAddress.Lowering.Flow
import ThreeAddress.Lowering.Values
import ThreeAddress.Program

/-!
Lowering lines and programs. A program ends at the first line that fails.
-/

namespace ThreeAddress

namespace Lowering

def step (s : Lowering) : Line → Outcome
  | .label text => done (s.emit [.label text])
  | .declaration declared => done (s.declare declared)
  | .control flow => done (s.control flow)
  | .call made => done (s.call made)
  | .operation dest left op right => s.operation dest left op right
  | .assign dest value => s.assign dest value
  | .store dest temp => done (s.store dest temp)
  | .generic text => done (s.emit [.raw text])

/-- A line that says nothing changes nothing. -/
def line (s : Lowering) (raw : String) : Outcome :=
  match Line.ofText? raw with
  | some line => s.step line
  | none => done s

def numberedLines (s : Lowering) (program : Program) : List (Nat × String) → Outcome
  | [] => done s
  | (number, raw) :: rest =>
      match line { s with location := program.location number } raw with
      | (s, none) => numberedLines s program rest
      | (s, some failure) => (s, some failure)

def program (s : Lowering) (program : Program) : Outcome :=
  s.numberedLines program program.lines

def assembly (s : Lowering) : Assembly :=
  ⟨s.data.entries, s.text⟩

end Lowering

structure Lowered where
  assembly : Assembly
  report : Report

def Program.lower (program : Program) (options : Options) : Except Failure Lowered :=
  match (Lowering.start options).program program with
  | (s, none) => .ok ⟨s.assembly, s.report⟩
  | (_, some failure) => .error failure

end ThreeAddress
