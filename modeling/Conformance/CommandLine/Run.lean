import Conformance.CommandLine.Select
import Conformance.Runner.Run
import Conformance.Summary.Sink

/-!
# The program

Runs the selected features one after another, reports each outcome, and writes a summary.

## Main definitions

- `Style` — how the report is coloured
- `runSelections` — the features with their outcomes
- `execute` — the whole program
-/

namespace Conformance.CommandLine

/-! ## The report -/

/-- How the report is coloured, if it is. -/
structure Style where
  coloured : Bool := false
  deriving DecidableEq, Repr, Inhabited

namespace Style

/-- A text with an attribute. -/
def paint (s : Style) (code text : String) : String :=
  if s.coloured then "\x1b[" ++ code ++ "m" ++ text ++ "\x1b[0m" else text

/-- The line for one feature. -/
def outcomeLine (s : Style) (dir : String) : Outcome → String
  | .passed => "  " ++ s.paint "32" "✓" ++ " " ++ dir ++ "\n"
  | .skipped reason =>
    "  " ++ s.paint "33" "-" ++ " " ++ dir ++ " " ++ s.paint "2" ("(skipped: " ++ reason ++ ")")
      ++ "\n"
  | .failed message => "  " ++ s.paint "31" "✗" ++ " " ++ dir ++ ": " ++ message ++ "\n"

/-- The last lines, for the number of failed features and the number of all. -/
def verdict (s : Style) (failed total : Nat) : String :=
  if failed = 0 then
    "\n" ++ s.paint "1;32" "✓" ++ " " ++ toString total ++ " feature(s) ran\n"
  else
    "\n" ++ s.paint "1;31" "✗" ++ " " ++ toString failed ++ " of " ++ toString total
      ++ " feature(s) failed\n"

end Style

/-! ## Running -/

/-- What has happened so far: the report and the outcomes. -/
structure Progress where
  output : String := ""
  outcomes : List (String × Outcome) := []
  deriving Inhabited

/-- The number of failed features. -/
def Progress.failed (p : Progress) : Nat := (p.outcomes.filter fun o => o.2.isFailed).length

/-- Runs features one after another. Each gets a line in the report and an entry in the summary;
a sink that fails is of no consequence. -/
def runSelections (style : Style) (base : Config) (sink : Option SummaryTarget) (p : Progress) :
    List Selection → Program Progress
  | [] => return p
  | s :: rest => do
    let dir := s.prepared.dir
    let outcome ← runFeature (base.forTaskQueue s.taskQueue) s.prepared
    let p : Progress :=
      { output := p.output ++ style.outcomeLine dir outcome
        outcomes := p.outcomes ++ [(dir, outcome)] }
    if let some target := sink then
      let _ ← Program.lift (target.write (SummaryEntry.ofOutcome dir outcome))
    runSelections style base sink p rest

/-- Opens the sink that a URL names, if one is given. -/
def openSink (uri : Option String) : Program (Except Error (Option SummaryTarget)) :=
  match uri with
  | none => return .ok none
  | some uri =>
    match SummaryTarget.parse uri with
    | .error e => return .error e
    | .ok target => do
      match ← Program.lift target.connect with
      | .error e => return .error e
      | .ok () => return .ok (some target)

/-- Closes the sink. -/
def closeSink (sink : Option SummaryTarget) : Program (Except Error Unit) :=
  match sink with
  | none => return .ok ()
  | some target => Program.look target.close

/-- Refuses servers for which there is no transport. -/
def requireTransport (server : String) : Except Error Unit :=
  if server = "loopback" then .ok ()
  else
    .error (.config ("no SDK transport is available for server " ++ server
      ++ ", use --server loopback"))

/-- Runs the selected features and closes the sink: the report, and the verdict. -/
def runAll (style : Style) (base : Config) (sink : Option SummaryTarget)
    (selections : List Selection) : Program (String × Except Error Unit) := do
  let p ← runSelections style base sink {} selections
  match ← closeSink sink with
  | .error e => return (p.output, .error e)
  | .ok () =>
    let output := p.output ++ style.verdict p.failed selections.length
    return (output, if p.failed = 0 then .ok () else .error (.featuresFailed p.failed))

/-- The command `run`. -/
def run (style : Style) (runId : String) (a : RunArguments) :
    Program (String × Except Error Unit) := do
  match select a.features runId with
  | .error e => return ("", .error e)
  | .ok selections =>
    match ← Program.look fun w => baseConfig w.files a with
    | .error e => return ("", .error e)
    | .ok base =>
      match requireTransport a.server with
      | .error e => return ("", .error e)
      | .ok () =>
        match ← openSink a.summaryUri with
        | .error e => return ("", .error e)
        | .ok sink => runAll style base sink selections

/-- The command `list`. -/
def listing : String := String.join (Features.all.map fun f => f.dir ++ "\n")

/-! ## The whole program -/

/-- How the program ends. -/
structure Ended where
  exitCode : Nat := 0
  output : String := ""
  error : Option Error := none
  deriving Inhabited

/-- How the program ends with a result. -/
def Ended.ofResult (output : String) : Except Error Unit → Ended
  | .ok () => { output }
  | .error e => { exitCode := 1, output, error := some e }

/-- Opens the log file, if one is wanted. -/
def openLog (path : Option String) : Program (Except Error Unit) :=
  match path with
  | none => return .ok ()
  | some path =>
    Program.lift fun w =>
      match w.files.openToAppend (Text.bytesOf path) with
      | .ok files => (.ok (), { w with files })
      | .error e => (.error (.config ("Could not open log file " ++ path ++ ": " ++ e.message)), w)

/-- The name and the version of the program. -/
def versionLine : String := "sdk-features 0.1.0\n"

/-- How the program is used. -/
def usage : String :=
  "Workflow SDK feature runner\n\nUsage: sdk-features <COMMAND>\n\nCommands:\n" ++
  "  run   Run features\n  list  List the registered features\n"

/-- Runs the program with arguments. -/
def execute (style : Style) (runId : String) (args : List String) : Program Ended :=
  match Command.parse args with
  | .unusable => return { exitCode := 2 }
  | .version => return { output := versionLine }
  | .help => return { output := usage }
  | .list => return { output := listing }
  | .run a => do
    match ← openLog a.logFile with
    | .error e => return Ended.ofResult "" (.error e)
    | .ok () =>
      let (output, result) ← run style runId a
      return Ended.ofResult output result

end Conformance.CommandLine
