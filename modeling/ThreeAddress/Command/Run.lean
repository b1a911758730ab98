import ThreeAddress.Command.Arguments
import ThreeAddress.Diagnostic
import ThreeAddress.Files.Access
import ThreeAddress.Log
import ThreeAddress.Lowering.Journal

/-!
Running a command: what it writes to which file, what it prints, and its exit code. The code
is zero only if an assembly without errors was written, or all lines were listed.
-/

namespace ThreeAddress.Command

/-- Messages go to the error stream: log entries, which a filter may drop, and the rest. -/
inductive Message where
  | log (entry : Log.Entry)
  | plain (text : String)

structure Result where
  messages : List Message := []
  printed : List String := []
  code : Nat := 0

namespace Result

def output (result : Result) : String :=
  Assembly.unlines result.printed

/-- Without a filter no log entry is shown. -/
def shown (filter : Option Log.Filter) : Message → Option String
  | .plain text => some text
  | .log entry =>
      if filter.any (·.passes entry) then some entry.text else none

/-- What is wrong with the log comes before all messages. -/
def errors (result : Result) (log : Option (Log.Filter × List Log.Fault)) : String :=
  Assembly.unlines <|
    ((log.map Prod.snd).getD []).map Log.Fault.warning ++
      result.messages.filterMap (shown (log.map Prod.fst))

def failed (messages : List Message) (what input cause : String)
    (printed : List String) : Result where
  messages := messages ++ [.plain ("Error " ++ what ++ " " ++ input ++ ": " ++ cause)]
  printed := printed
  code := 1

end Result

def programTarget : String := "mtac"

def loaded (program : Program) : Message :=
  .log ⟨.debug, "mtac_common::loader",
    "Loaded " ++ program.name ++ " (" ++ Nat.repr program.source.utf8ByteSize ++ " bytes)"⟩

def optionsListing (options : Options) : String :=
  Listing.record "TranslateOptions"
    [("emit_comments", if options.comments then "true" else "false"),
     ("return_label", Listing.optional (options.returnLabel.map Text.quoted))]

def translating (program : Program) (options : Options) : Message :=
  .log ⟨.debug, programTarget,
    "Translating " ++ program.name ++ " with " ++ optionsListing options⟩

def assemblyWritten (path : String) : Message :=
  .log ⟨.debug, Lowering.codeTarget, "Assembly written to " ++ path⟩

def diagnosticsWritten (path : String) : Message :=
  .log ⟨.debug, programTarget, "Diagnostics written to " ++ path⟩

def journal (program : Program) (options : Options) : List Message :=
  ((Lowering.start options).journal program program.lines).map .log

def diagnosticMessages (report : Report) : List Message :=
  if report.diagnostics.isEmpty then []
  else
    (report.diagnostics.map fun diagnostic => .plain diagnostic.text) ++
      [.plain report.summary]

def Job.options (job : Job) : Options :=
  ⟨job.comments, job.returnLabel⟩

def Job.outputPath (job : Job) : String :=
  job.output.getD (Path.withExtension job.input "asm")

variable {m : Type → Type} [Monad m]

def exportDiagnostics (files : Files m) (job : Job) (program : Program) (report : Report) :
    m (Except Fault (List Message)) := do
  match job.diagnostics with
  | none => return .ok []
  | some path =>
      match ← files.writeText path (report.json program.name).text with
      | .ok () => return .ok [diagnosticsWritten path]
      | .error fault => return .error fault

def conclude (job : Job) (messages : List Message) (report : Report) : Result :=
  let printed := ["Assembly written to: " ++ job.outputPath]
  if report.hasErrors then
    .failed messages "translating" job.input (report.summary ++ ", output is incomplete") printed
  else
    { messages, printed }

def translateTo (files : Files m) (job : Job) (program : Program) : m Result := do
  let opening :=
    [loaded program, translating program job.options] ++ journal program job.options
  match program.lower job.options with
  | .error failure => return .failed opening "translating" job.input failure.message []
  | .ok lowered =>
      match ← files.save job.outputPath lowered.assembly.render with
      | .error failure => return .failed opening "translating" job.input failure.message []
      | .ok () =>
          let messages :=
            opening ++ [assemblyWritten job.outputPath] ++
              diagnosticMessages lowered.report
          match ← exportDiagnostics files job program lowered.report with
          | .error fault => return .failed messages "translating" job.input fault.message []
          | .ok exported => return conclude job (messages ++ exported) lowered.report

def runTranslate (files : Files m) (job : Job) : m Result := do
  if ← files.isSameFile job.input job.outputPath then
    return .failed [] "translating" job.input
      ("output would overwrite the input file " ++ job.input) []
  else
    match ← files.load job.input with
    | .error failure => return .failed [] "translating" job.input failure.message []
    | .ok program => translateTo files job program

/-- The number of a line, at least four wide. -/
def lineNumber (n : Nat) : String :=
  let digits := Nat.toDigits 10 n
  String.ofList (List.replicate (4 - digits.length) ' ' ++ digits)

def classification (program : Program) : List String :=
  program.lines.filterMap fun numbered =>
    (Line.ofText? numbered.2).map fun line => lineNumber numbered.1 ++ ": " ++ line.listing

def runClassify (files : Files m) (input : String) : m Result := do
  match ← files.load input with
  | .error failure => return .failed [] "classifying" input failure.message []
  | .ok program => return { messages := [loaded program], printed := classification program }

def run (files : Files m) : Task → m Result
  | .translate job => runTranslate files job
  | .classify input => runClassify files input

/-- The log shows debug entries unless the specification says otherwise. -/
def Request.log (request : Request) (specification : Option String) :
    Option (Log.Filter × List Log.Fault) :=
  if request.verbose then some (Log.readFilter (specification.getD "debug")) else none

def versionText : String := "mtac 0.1.0"

def helpText : List String :=
  ["Three-address code to MIPS32 translator",
   "",
   "Usage: mtac [-v] translate INPUT [-o OUTPUT] [--return-label LABEL] [--no-comments]",
   "                                 [--diagnostics-json FILE]",
   "       mtac [-v] classify INPUT"]

/-- The code, the output and the errors of a whole run. Wrong usage has the code two. -/
def execute (files : Files m) (arguments : List String) (specification : Option String) :
    m (Nat × String × String) := do
  match parse arguments with
  | .error .version => return (0, Assembly.unlines [versionText], "")
  | .error .help => return (0, Assembly.unlines helpText, "")
  | .error .usage => return (2, "", Assembly.unlines ("error: wrong usage" :: helpText))
  | .ok request =>
      let result ← run files request.task
      return (result.code, result.output, result.errors (request.log specification))

end ThreeAddress.Command
