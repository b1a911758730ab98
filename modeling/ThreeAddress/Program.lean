import ThreeAddress.Text.Lines

/-!
Named source text, its numbered lines, and places in it. Three address code goes line by line, so a
place is a file name and the number of a line, counted from one.
-/

namespace ThreeAddress

structure Location where
  file : String
  line : Nat
  deriving DecidableEq, Repr

namespace Location

/-- A line of text that comes from no file. -/
def input (line : Nat) : Location := ⟨"<input>", line⟩

def unknown : Location := ⟨"<unknown>", 0⟩

def text (location : Location) : String :=
  location.file ++ ":" ++ Nat.repr location.line

end Location

structure Program where
  name : String
  source : String
  deriving DecidableEq, Repr

namespace Program

def number (first : Nat) : List String → List (Nat × String)
  | [] => []
  | line :: later => (first, line) :: number (first + 1) later

def lines (program : Program) : List (Nat × String) :=
  number 1 ((Text.lines program.source.toList).map String.ofList)

def location (program : Program) (line : Nat) : Location :=
  ⟨program.name, line⟩

end Program

end ThreeAddress
