import ThreeAddress.Table
import ThreeAddress.Text.Lines
import ThreeAddress.Text.Pattern.Meaning

/-!
Log entries, and filters that select them. A specification of a filter lists directives, with
commas between them, and after a slash a pattern that must occur in the message. For an entry the
directive with the longest target that its own target begins with decides, and an entry that no
directive fits is left out. What is wrong in a specification is reported and otherwise ignored.
-/

namespace ThreeAddress.Log

inductive Level where
  | error | warn | info | debug | trace
  deriving DecidableEq, Repr

namespace Level

def name : Level → String
  | error => "ERROR"
  | warn => "WARN"
  | info => "INFO"
  | debug => "DEBUG"
  | trace => "TRACE"

def rank : Level → Nat
  | error => 1
  | warn => 2
  | info => 3
  | debug => 4
  | trace => 5

end Level

structure Entry where
  level : Level
  target : String
  message : String
  deriving DecidableEq, Repr

namespace Entry

/-- Later lines of a message stand four blanks in. -/
def indent (c : Char) : List Char :=
  if c = '\n' then ['\n', ' ', ' ', ' ', ' '] else [c]

def padding (level : Level) : String :=
  String.ofList (List.replicate (5 - level.name.length) ' ')

def text (entry : Entry) : String :=
  "[" ++ entry.level.name ++ padding entry.level ++ " " ++ entry.target ++ "] " ++
    String.ofList (entry.message.toList.flatMap indent)

end Entry

/-- For each target the highest rank of its entries that pass. A directive without a target
is for all entries. -/
abbrev Directives := Table (Option String) Nat

structure Filter where
  directives : Directives := {}
  pattern : Option (Text.Pattern Text.Atom) := none

inductive Fault where
  | specification (text : String)
  | slashes (text : String)
  | pattern (text : String) (cause : Text.Pattern.Fault)
  deriving DecidableEq, Repr

namespace Fault

def message : Fault → String
  | specification text => "invalid logging spec '" ++ text ++ "'"
  | slashes text => "invalid logging spec '" ++ text ++ "' (too many '/'s)"
  | pattern text cause => "invalid regex filter - " ++ cause.message text

def warning (fault : Fault) : String :=
  "warning: " ++ fault.message ++ ", ignoring it"

end Fault

def limit? (word : List Char) : Option Nat :=
  match String.ofList (word.map Char.toLower) with
  | "off" => some 0
  | "error" => some 1
  | "warn" => some 2
  | "info" => some 3
  | "debug" => some 4
  | "trace" => some 5
  | _ => none

/-- A directive is a level, a target, or a target with a level. A target without a level lets
everything pass. -/
def directive (text : List Char) : Except Fault (Option String × Nat) :=
  match Text.pieces (· == '=') text with
  | [word] =>
      match limit? word with
      | some limit => .ok (none, limit)
      | none => .ok (some (String.ofList word), Level.trace.rank)
  | [target, word] =>
      let level := Text.trim word
      match level, limit? level with
      | [], _ => .ok (some (String.ofList target), Level.trace.rank)
      | _, some limit => .ok (some (String.ofList target), limit)
      | _, none => .error (.specification (String.ofList level))
  | _ => .error (.specification (String.ofList text))

/-- A directive for a target that came before takes the place of the earlier one. -/
def readDirective (read : Directives × List Fault) (text : List Char) :
    Directives × List Fault :=
  match directive text with
  | .ok (target, limit) => (read.1.insert target limit, read.2)
  | .error fault => (read.1, read.2 ++ [fault])

def readDirectives (text : List Char) : Directives × List Fault :=
  (((Text.pieces (· == ',') text).map Text.trim).filter fun text => !text.isEmpty).foldl
    readDirective ({}, [])

def readPattern (text : String) : Option (Text.Pattern Text.Atom) × List Fault :=
  match Text.Pattern.read text with
  | .ok pattern => (some pattern, [])
  | .error cause => (none, [.pattern text cause])

def readFilter (specification : String) : Filter × List Fault :=
  match Text.pieces (· == '/') specification.toList with
  | [text] =>
      let (directives, faults) := readDirectives text
      ({ directives }, faults)
  | [text, written] =>
      let (directives, faults) := readDirectives text
      let (pattern, found) := readPattern (String.ofList written)
      ({ directives, pattern }, faults ++ found)
  | _ => ({}, [.slashes specification])

def fits (entry : Entry) (target : Option String) : Bool :=
  match target with
  | some text => text.toList.isPrefixOf entry.target.toList
  | none => true

def targetLength (target : Option String) : Nat :=
  (target.getD "").length

/-- The better of two directives; of two equally long targets the later. -/
def closer (best : Option (Option String × Nat)) (directive : Option String × Nat) :
    Option (Option String × Nat) :=
  match best with
  | some other => if targetLength directive.1 < targetLength other.1 then best else some directive
  | none => some directive

namespace Filter

/-- Without a directive only errors pass. -/
def limitFor (filter : Filter) (entry : Entry) : Nat :=
  match filter.directives.entries with
  | [] => Level.error.rank
  | directives =>
      match (directives.filter fun directive => fits entry directive.1).foldl closer none with
      | some (_, limit) => limit
      | none => 0

def passes (filter : Filter) (entry : Entry) : Bool :=
  entry.level.rank ≤ filter.limitFor entry &&
    filter.pattern.all (·.occursIn entry.message)

end Filter

end ThreeAddress.Log
