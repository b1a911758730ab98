/-!
The command line. Flags may stand before and after the input, short flags may be joined, and
the value of a flag may be attached to it or follow it. A flag is given at most once, but the
one for the log may be given again after the name of the command. After `--` nothing is a
flag.
-/

namespace ThreeAddress.Command

structure Job where
  input : String
  output : Option String := none
  returnLabel : Option String := none
  comments : Bool := true
  diagnostics : Option String := none
  deriving DecidableEq, Repr

inductive Task where
  | translate (job : Job)
  | classify (input : String)
  deriving DecidableEq, Repr

structure Request where
  task : Task
  verbose : Bool
  deriving DecidableEq, Repr

inductive Stop where
  | usage
  | help
  | version
  deriving DecidableEq, Repr

inductive Flag where
  | verbose
  | output
  | returnLabel
  | noComments
  | diagnosticsJson
  deriving DecidableEq, Repr

namespace Flag

def long : Flag → String
  | verbose => "verbose"
  | output => "output"
  | returnLabel => "return-label"
  | noComments => "no-comments"
  | diagnosticsJson => "diagnostics-json"

def short? : Flag → Option Char
  | verbose => some 'v'
  | output => some 'o'
  | _ => none

def takesValue : Flag → Bool
  | verbose | noComments => false
  | output | returnLabel | diagnosticsJson => true

/-- A label may be empty, a path may not. -/
def accepts (flag : Flag) (value : String) : Bool :=
  flag == returnLabel || !flag.takesValue || !value.isEmpty

end Flag

def translateFlags : List Flag :=
  [.verbose, .output, .returnLabel, .noComments, .diagnosticsJson]

def classifyFlags : List Flag :=
  [.verbose]

structure Given where
  input : Option String := none
  flags : List (Flag × String) := []

namespace Given

def value? (given : Given) (flag : Flag) : Option String :=
  (given.flags.find? fun entry => entry.1 == flag).map Prod.snd

def has (given : Given) (flag : Flag) : Bool :=
  (given.value? flag).isSome

def give (given : Given) (flag : Flag) (value : String) : Except Stop Given :=
  if given.has flag || !flag.accepts value then .error .usage
  else .ok { given with flags := given.flags ++ [(flag, value)] }

def giveInput (given : Given) (value : String) : Except Stop Given :=
  if given.input.isSome || value.isEmpty then .error .usage
  else .ok { given with input := some value }

end Given

/-- Reading is between two arguments, waits for the value of a flag, or has seen `--`. -/
inductive Mode where
  | between
  | value (flag : Flag)
  | inputs

abbrev State := Given × Mode

/-- Joined short flags. What follows one that takes a value is that value. -/
def cluster (flags : List Flag) (given : Given) : List Char → Except Stop State
  | [] => .ok (given, .between)
  | c :: rest =>
      match flags.find? (·.short? == some c) with
      | none => .error (if c = 'h' then .help else .usage)
      | some flag =>
          if flag.takesValue then
            match rest with
            | [] => .ok (given, .value flag)
            | '=' :: value => do return (← given.give flag (String.ofList value), .between)
            | value => do return (← given.give flag (String.ofList value), .between)
          else do cluster flags (← given.give flag "") rest

def longFlag (flags : List Flag) (given : Given) (body : List Char) : Except Stop State :=
  let name := String.ofList (body.takeWhile (· != '='))
  let value? := match body.dropWhile (· != '=') with
    | [] => none
    | _ :: value => some (String.ofList value)
  match flags.find? (·.long == name), value? with
  | none, none => .error (if name == "help" then .help else .usage)
  | none, some _ => .error .usage
  | some flag, none =>
      if flag.takesValue then .ok (given, .value flag)
      else do return (← given.give flag "", .between)
  | some flag, some value =>
      if flag.takesValue then do return (← given.give flag value, .between)
      else .error .usage

def between (flags : List Flag) (given : Given) (argument : String) : Except Stop State :=
  match argument.toList with
  | ['-', '-'] => .ok (given, .inputs)
  | '-' :: '-' :: body => longFlag flags given body
  | '-' :: c :: rest => cluster flags given (c :: rest)
  | _ => do return (← given.giveInput argument, .between)

/-- A value that follows its flag must not look like a flag itself. -/
def looksLikeFlag (argument : String) : Bool :=
  argument.toList.head? == some '-' && argument != "-"

def step (flags : List Flag) (state : State) (argument : String) : Except Stop State :=
  match state with
  | (given, .between) => between flags given argument
  | (given, .value flag) =>
      if looksLikeFlag argument then .error .usage
      else do return (← given.give flag argument, .between)
  | (given, .inputs) => do return (← given.giveInput argument, .inputs)

def givenBy (flags : List Flag) (arguments : List String) : Except Stop Given := do
  let (given, mode) ← arguments.foldlM (step flags) ({}, .between)
  match mode with
  | .value _ => .error .usage
  | _ => return given

def translateTask (given : Given) (input : String) : Task :=
  .translate
    { input
      output := given.value? .output
      returnLabel := given.value? .returnLabel
      comments := !given.has .noComments
      diagnostics := given.value? .diagnosticsJson }

def classifyTask (_ : Given) (input : String) : Task :=
  .classify input

def request (flags : List Flag) (task : Given → String → Task) (verbose : Bool)
    (arguments : List String) : Except Stop Request := do
  let given ← givenBy flags arguments
  match given.input with
  | some input => return ⟨task given input, verbose || given.has .verbose⟩
  | none => .error .usage

/-- Joined short flags before the command: whether the log was asked for. -/
def leading (verbose : Bool) : List Char → Except Stop Bool
  | [] => .ok verbose
  | 'v' :: rest => if verbose then .error .usage else leading true rest
  | 'V' :: _ => .error .version
  | 'h' :: _ => .error .help
  | _ :: _ => .error .usage

def commands : List String :=
  ["translate", "classify", "help"]

/-- Help may be asked for about one command. -/
def help (about : List String) : Stop :=
  match about with
  | [] => .help
  | [command] => if commands.contains command then .help else .usage
  | _ => .usage

def parseFrom (verbose : Bool) : List String → Except Stop Request
  | [] => .error .usage
  | "translate" :: rest => request translateFlags translateTask verbose rest
  | "classify" :: rest => request classifyFlags classifyTask verbose rest
  | "--version" :: _ => .error .version
  | "--help" :: _ => .error .help
  | "help" :: about => .error (help about)
  | "--verbose" :: rest => if verbose then .error .usage else parseFrom true rest
  | argument :: rest =>
      match argument.toList with
      | '-' :: c :: more => do parseFrom (← leading verbose (c :: more)) rest
      | _ => .error .usage

def parse (arguments : List String) : Except Stop Request :=
  parseFrom false arguments

end ThreeAddress.Command
