import ThreeAddress.Program

/-!
Messages about source text, the report that collects them, and its text for other programs to
read. The report counts errors and warnings as they come in; notes are kept but not counted. In
the text of a JSON value two blanks indent each level, and an array or an object with nothing in
it stays on its line.
-/

namespace ThreeAddress

inductive Severity where
  | error
  | warning
  | note
  deriving DecidableEq, Repr

def Severity.name : Severity → String
  | error => "error"
  | warning => "warning"
  | note => "note"

structure Diagnostic where
  severity : Severity
  message : String
  location : Location
  notes : List String := []
  deriving DecidableEq, Repr

/-- The message on one line, every note below it on a line of its own. -/
def Diagnostic.text (diagnostic : Diagnostic) : String :=
  diagnostic.location.text ++ ": " ++ diagnostic.severity.name ++ ": " ++ diagnostic.message ++
    String.join (diagnostic.notes.map fun note => "\n  note: " ++ note)

structure Report where
  diagnostics : List Diagnostic := []
  errors : Nat := 0
  warnings : Nat := 0

namespace Report

def add (report : Report) (diagnostic : Diagnostic) : Report where
  diagnostics := report.diagnostics ++ [diagnostic]
  errors := report.errors + if diagnostic.severity = .error then 1 else 0
  warnings := report.warnings + if diagnostic.severity = .warning then 1 else 0

def warn (report : Report) (message : String) (location : Location) : Report :=
  report.add ⟨.warning, message, location, []⟩

def note (report : Report) (message : String) (location : Location) : Report :=
  report.add ⟨.note, message, location, []⟩

def hasErrors (report : Report) : Bool :=
  0 < report.errors

def counted (n : Nat) (noun : String) : String :=
  Nat.repr n ++ " " ++ noun ++ if n = 1 then "" else "s"

def summary (report : Report) : String :=
  match report.errors, report.warnings with
  | 0, 0 => "No errors or warnings"
  | 0, warnings => counted warnings "warning"
  | errors, 0 => counted errors "error"
  | errors, warnings => counted errors "error" ++ " and " ++ counted warnings "warning"

end Report

/-! ## Export -/

inductive Json where
  | number (value : Nat)
  | string (value : String)
  | array (items : List Json)
  | object (fields : List (String × Json))

namespace Json

def twoDigits (n : Nat) : List Char :=
  [Nat.digitChar (n / 16), Nat.digitChar (n % 16)]

def escape (c : Char) : List Char :=
  if c = '"' then ['\\', '"']
  else if c = '\\' then ['\\', '\\']
  else if c = '\x08' then ['\\', 'b']
  else if c = '\x0c' then ['\\', 'f']
  else if c = '\n' then ['\\', 'n']
  else if c = '\r' then ['\\', 'r']
  else if c = '\t' then ['\\', 't']
  else if c.toNat < 0x20 then ['\\', 'u', '0', '0'] ++ twoDigits c.toNat
  else [c]

def quote (text : String) : String :=
  String.ofList ('"' :: text.toList.flatMap escape ++ ['"'])

def newline (depth : Nat) : String :=
  "\n" ++ String.ofList (List.replicate (2 * depth) ' ')

/-- Texts between two brackets, each on a line of its own. -/
def bracketed (opening closing : String) (depth : Nat) : List String → String
  | [] => opening ++ closing
  | items =>
      opening ++ newline (depth + 1) ++ String.intercalate ("," ++ newline (depth + 1)) items ++
        newline depth ++ closing

mutual

def render (depth : Nat) : Json → String
  | number value => Nat.repr value
  | string value => quote value
  | array items => bracketed "[" "]" depth (renderItems (depth + 1) items)
  | object fields => bracketed "\x7b" "\x7d" depth (renderFields (depth + 1) fields)

def renderItems (depth : Nat) : List Json → List String
  | [] => []
  | item :: rest => render depth item :: renderItems depth rest

def renderFields (depth : Nat) : List (String × Json) → List String
  | [] => []
  | (name, value) :: rest =>
      (quote name ++ ": " ++ render depth value) :: renderFields depth rest

end

def text (value : Json) : String :=
  value.render 0

end Json

def Severity.label : Severity → String
  | error => "Error"
  | warning => "Warning"
  | note => "Note"

def Location.json (location : Location) : Json :=
  .object [("filename", .string location.file), ("line", .number location.line)]

def Diagnostic.json (diagnostic : Diagnostic) : Json :=
  .object
    [("severity", .string diagnostic.severity.label),
     ("message", .string diagnostic.message),
     ("location", diagnostic.location.json),
     ("notes", .array (diagnostic.notes.map .string))]

namespace Report

def diagnosticsJson (report : Report) : Json :=
  .array (report.diagnostics.map Diagnostic.json)

def json (report : Report) (input : String) : Json :=
  .object
    [("input", .string input),
     ("errors", .number report.errors),
     ("warnings", .number report.warnings),
     ("diagnostics", report.diagnosticsJson)]

end Report

end ThreeAddress
