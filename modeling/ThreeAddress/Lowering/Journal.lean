import ThreeAddress.Line.Listing
import ThreeAddress.Log
import ThreeAddress.Lowering.Run

/-!
The log of a lowering, read off the states before and after each line. For a line the log
shows what it was read as, what it did to the pending arguments or the data, the diagnostics
it raised, and last the registers it took.
-/

namespace ThreeAddress

namespace Lowering

def codeTarget : String := "mtac_codegen::translator"

def registerTarget : String := "mtac_codegen::regalloc"

def entry (s : Lowering) (level : Log.Level) (target message : String) : Log.Entry :=
  ⟨level, target, s.location.text ++ ": " ++ message⟩

def handlingEntries (before : Lowering) : Line → List Log.Entry
  | .declaration declared =>
      match before.data.get? declared.name with
      | some _ =>
          [before.entry .debug (codeTarget ++ "::declare")
            ("redeclaring '" ++ declared.name ++ "'")]
      | none => []
  | .call (.param value) =>
      [before.entry .debug (codeTarget ++ "::call") ("pending argument '" ++ value ++ "'")]
  | .call (.call callee _) =>
      if isPrint callee then []
      else
        [before.entry .debug (codeTarget ++ "::call")
          ("call to unsupported function '" ++ callee ++ "' ignored")]
  | _ => []

def diagnosticEntry (s : Lowering) (diagnostic : Diagnostic) : Log.Entry :=
  match diagnostic.severity with
  | .error => s.entry .error codeTarget diagnostic.message
  | .warning => s.entry .warn codeTarget diagnostic.message
  | .note => s.entry .debug codeTarget ("note: " ++ diagnostic.message)

def diagnosticEntries (before after : Lowering) : List Log.Entry :=
  (after.report.diagnostics.drop before.report.diagnostics.length).map
    before.diagnosticEntry

/-- A binding follows the register that it binds. -/
def registerEntries (after : Lowering) (dest : Option String) (cls : RegisterClass)
    (index : Nat) : List Log.Entry :=
  let register := cls.register index.toUInt8
  let taken : Log.Entry :=
    ⟨.trace, registerTarget,
      "Allocated " ++ register.name ++ " (" ++ cls.name ++ " count now " ++
        Nat.repr (index + 1) ++ ")"⟩
  match dest with
  | some temp =>
      if after.registers.holder? temp = some register then
        [taken, ⟨.trace, registerTarget, "Binding " ++ temp ++ " -> " ++ register.name⟩]
      else
        [taken]
  | none => [taken]

def takenEntries (before after : Lowering) (dest : Option String) (cls : RegisterClass) :
    List Log.Entry :=
  let first := before.registers.count cls
  (List.range' first (after.registers.count cls - first)).flatMap
    (registerEntries after dest cls)

/-- A line that takes registers of both classes takes the float register first. -/
def lineEntries (before after : Lowering) (line : Line) : List Log.Entry :=
  before.entry .debug codeTarget line.listing ::
    before.handlingEntries line ++ before.diagnosticEntries after ++
    before.takenEntries after line.dest? .float ++
    before.takenEntries after line.dest? .general

def journal (s : Lowering) (program : Program) : List (Nat × String) → List Log.Entry
  | [] => []
  | (number, raw) :: rest =>
      let before := { s with location := program.location number }
      let outcome := before.line raw
      let entries :=
        match Line.ofText? raw with
        | some line => before.lineEntries outcome.1 line
        | none => []
      match outcome.2 with
      | none => entries ++ journal outcome.1 program rest
      | some _ => entries

end Lowering

end ThreeAddress
