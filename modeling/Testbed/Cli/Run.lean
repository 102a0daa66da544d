import Testbed.Cli.Flags
import Testbed.App
import Testbed.FileTable

/-!
# Running a command line

A command line is read, and then either refused, answered with help, or run. Before an
operation runs, the settings file is loaded and the `--runtime` flag, when given, overrides
the engine. Every operation except reading the journal first needs a runtime.

Messages for the user go to standard output with a status mark: `ℹ` before an action and `✓`
after it succeeded. A failure ends the command with `✗` and the fault's message on standard
error, and the command's exit status is the fault's code. The journal of a test is printed
grouped by run, one line per event with its time in UTC, or as the journal's own JSON lines.
-/

namespace Testbed.Cli

open TestRun

/-- What an operation is asked to do. -/
inductive Request where
  | buildImage (buildArgs : List String)
  | stopContainer (name : String)
  | startContainer (name pipSpec : String)
  | exec (name command : String)
  | copy (name source dest : String)
  | runTest (invocation : Invocation)
  | showLogs (name : String)
  | events (name : String) (lines clear : Bool)
  deriving Inhabited

def info (text : String) : BenchM Unit := Bench.say ("ℹ " ++ text ++ "\n")

def success (text : String) : BenchM Unit := Bench.say ("✓ " ++ text ++ "\n")

def failure (text : String) : BenchM Unit := Bench.complain ("✗ " ++ text ++ "\n")

/-- The request of a parsed command line, with the settings in force. -/
def Request.ofParsed (config : Config) (parsed : Parsed) : Request :=
  let arg (n : Nat) : String := parsed.args.getD n ""
  match parsed.command.name with
  | "build-image" => .buildImage (parsed.texts "build-arg")
  | "stop-container" => .stopContainer (arg 0)
  | "start-container" => .startContainer (arg 0) (parsed.text "bootstrap-pip-spec")
  | "run" => .exec (arg 0) (" ".intercalate (parsed.args.drop 1))
  | "copy" => .copy (arg 0) (arg 1) (arg 2)
  | "run-test" => .runTest
      { image := config.image, testName := arg 0, pipSpec := parsed.text "bootstrap-pip-spec",
        testFiles := parsed.args.drop 1, upgradeFrom := parsed.text "upgrade-from",
        installerArgs := parsed.text "installer-args" }
  | "show-logs" => .showLogs (arg 0)
  | _ => .events (arg 0) (parsed.switch "json-lines") (parsed.switch "clear")

def eventLine (event : Journal.Event) : String :=
  let stamp := "  [" ++ event.timestamp.renderPlain ++ "] " ++ padRight 10 event.step ++ " "
  if event.details.isEmpty then stamp ++ event.outcome ++ "\n"
  else stamp ++ padRight 7 event.outcome ++ " (" ++ event.details ++ ")\n"

/-- Prints or clears the journal of a test. -/
def showEvents (app : App) (name : String) (lines clear : Bool) : Act Unit := do
  let stateDir := app.config.stateDir
  if clear then
    match Journal.remove (← get).disk stateDir name with
    | .error fault => throw (.context "failed to clear run journal" (some fault))
    | .ok disk =>
      modify fun bench => { bench with disk }
      success ("Cleared run journal for " ++ name)
  else
    let (events, fault) := Journal.events (← get).disk stateDir name
    if let some fault := fault then throw (.context "failed to read run journal" (some fault))
    if events.isEmpty then info ("No events found for test " ++ name)
    else if lines then
      for event in events do Bench.say (event.line ++ "\n")
    else
      for run in Journal.runs events do
        Bench.say ("run " ++ ((run.head?.map (·.runId)).getD "") ++ "\n")
        for event in run do Bench.say (eventLine event)

/-- Runs a request. -/
def dispatch (app : App) (request : Request) : Act Unit := do
  match request with
  | .events name lines clear => showEvents app name lines clear
  | _ =>
    let (orchestrator, app) ← ExceptT.mk app.orchestrator
    match request with
    | .buildImage buildArgs =>
      info ("Building image " ++ app.config.image ++ " from " ++ app.config.buildContext)
      orchestrator.buildImage (if buildArgs.isEmpty then none else some buildArgs)
      success ("Built image " ++ app.config.image)
    | .stopContainer name =>
      orchestrator.runtime.stop name
      success ("Container " ++ name ++ " is gone")
    | .startContainer name pipSpec =>
      info ("Starting container " ++ name)
      orchestrator.startContainer name pipSpec
      success ("Started container " ++ name)
    | .exec name command => orchestrator.runtime.exec name command
    | .copy name source dest => orchestrator.runtime.copy name source dest
    | .runTest invocation =>
      info ("Running " ++ invocation.testName)
      orchestrator.runTest invocation
      success ("Test run " ++ invocation.testName ++ " passed")
    | .showLogs name => orchestrator.showLogs name
    | .events .. => pure ()

def topicText (words : List String) : String :=
  let shown (word : String) : String :=
    if word.toList.all (fun c => c != '\x60' && (c == '\t' || !(c.toNat < 0x20 || c.toNat == 0x7f)))
    then "\x60" ++ word ++ "\x60" else Quoted.quote word
  "[" ++ " ".intercalate (words.map shown) ++ "]"

def helpTopic (words : List String) : BenchM Unit := do
  let (cmd, _, problem) := findCommand words
  match problem with
  | some _ => Bench.complain ("Unknown help topic " ++ topicText words ++ "\n" ++ usageText root)
  | none => Bench.say (helpText cmd)

/-- Runs a command line with the given source of settings files and application; the exit
status. -/
def execute (source : Bench → FileSource) (app : App) (words : List String) : BenchM Int := do
  match read words with
  | .fail message =>
    failure message
    pure Fault.generalCode
  | .help cmd =>
    Bench.say (helpText cmd)
    pure 0
  | .run parsed =>
    match app.loadConfig (source (← get)) (parsed.text "config") with
    | .error fault =>
      failure fault.message
      pure fault.exitCode
    | .ok app =>
      let runtime := parsed.text "runtime"
      let app := if runtime.isEmpty then app
        else { app with config := { app.config with runtime } }
      if parsed.command.name == "help" then
        helpTopic parsed.args
        pure 0
      else
        match ← (dispatch app (Request.ofParsed app.config parsed)).run with
        | .ok () => pure 0
        | .error fault =>
          failure fault.message
          pure fault.exitCode

end Testbed.Cli
