import Testbed.TestRun.Invocation
import Testbed.TestRun.Commands
import Testbed.Readiness
import Testbed.Journal.Store

/-!
# Test runs

A test run replaces the test's container with a fresh one, waits until it is ready, copies the
installer and the tests into it, shows its console output, optionally installs a released
version first, runs the installer, installs the test requirements, lists the resolved packages,
and runs the tests. The steps run in that order and the first failing step ends the run with its
fault; showing the console output never fails the run.

Every step leaves events in the run's journal: `start` with the step's details and then `ok`,
or `start` and then `failed` with the fault's message; a step that does not apply leaves one
`skipped` event. A journal that cannot be written is logged as a warning and never ends the
run. Every log record of a run carries the run id and the test name first.
-/

namespace Testbed.TestRun

open Container

/-- Where the events of runs go. -/
inductive JournalSink where
  | memory (failure : Nat → Option Fault)
  | files (stateDir : String)
  deriving Inhabited

/-- How the id of each run is made. -/
inductive RunIds where
  | counted
  | fixed (id : String)
  deriving Inhabited

def stampOrigin : Timestamp := ⟨2024, 1, 1, 0, 0, 0, 0, 0⟩

/-- Writes one event to the sink. -/
def JournalSink.write (sink : JournalSink) (event : Journal.Event) : BenchM (Option Fault) :=
  match sink with
  | .memory failure => modifyGet fun bench =>
    (failure bench.journal.size, { bench with journal := bench.journal.push event })
  | .files stateDir => modifyGet fun bench =>
    let stamps : Nat := bench.stamps + 1
    let stamped := { event with timestamp := stampOrigin.addSeconds (stamps : Int) }
    match Journal.log bench.disk stateDir stamped with
    | .ok disk => (none, { bench with disk, stamps })
    | .error fault => (some fault, { bench with stamps })

def RunIds.next : RunIds → BenchM String
  | .counted => modifyGet fun bench =>
    ("run-" ++ toString (bench.runs + 1), { bench with runs := bench.runs + 1 })
  | .fixed id => pure id

/-- What a test run works with: the settings, the runtime, the wait for a container to be ready,
where events go, and how run ids are made. -/
structure Orchestrator where
  config : Config
  runtime : Api
  waiter : String → Act Unit
  journal : JournalSink
  runIds : RunIds

/-- One step of a run: its name, whether it applies, its journal details, and its work. -/
structure Step where
  name : String
  skip : Bool := false
  details : String := ""
  work : Act Unit

namespace Orchestrator

/-- An orchestrator whose readiness wait runs liveness checks on the runtime, paced by the
settings. -/
def withProbe (config : Config) (runtime : Runtime) (journal : JournalSink) (runIds : RunIds) :
    Orchestrator :=
  ⟨config, runtime.api,
   fun name => waitReady runtime.api name ⟨config.readyTimeout, config.pollInterval, true⟩,
   journal, runIds⟩

/-- The orchestrator the harness builds from the settings: a readiness wait paced by the
settings, and the journal files under the state directory. -/
def standard (config : Config) (runtime : Runtime) (runIds : RunIds) : Orchestrator :=
  withProbe config runtime (.files config.stateDir) runIds

def runOptions (o : Orchestrator) (image name pipSpec : String) : RunOptions :=
  ⟨image, name, o.config.memory, pipSpec⟩

def copyFixtures (o : Orchestrator) (name : String) : Act Unit := do
  match fixtureSources o.config with
  | .error cause => throw (Fault.copyFailed name o.config.sourceRoot (some cause))
  | .ok sources => sources.forM fun source => o.runtime.copy name source o.config.containerSrc

/-- Records an event of a run; a failed write is logged and dropped. -/
def record (o : Orchestrator) (tags : List Log.Attr) (runId test step outcome details : String) :
    BenchM Unit := do
  match ← o.journal.write ⟨Timestamp.zero, runId, test, step, outcome, details⟩ with
  | some fault =>
    Bench.warn "failed to write run journal" (tags ++ [("step", step), ("error", fault.message)])
  | none => pure ()

/-- The steps of a run of a valid invocation. -/
def steps (o : Orchestrator) (inv : Invocation) (tags : List Log.Attr) : List Step :=
  let name := inv.testName
  let config := o.config
  [{ name := "stop", work := o.runtime.stop name },
   { name := "run", details := inv.image,
     work := o.runtime.run (o.runOptions inv.image name inv.pipSpec) },
   { name := "wait-ready", work := o.waiter name },
   { name := "copy", work := o.copyFixtures name },
   { name := "logs", work := do
       match ← (Diagnostics.printLogs o.runtime name).attempt with
       | .error fault =>
         Bench.warn "failed to fetch container logs" (tags ++ [("error", fault.message)])
       | .ok () => pure () },
   { name := "upgrade", skip := inv.upgradeFrom.isEmpty, details := inv.upgradeFrom,
     work := o.runtime.exec name (upgradeCommand config inv.upgradeFrom) },
   { name := "install", details := inv.installerArgs,
     work := o.runtime.exec name (installCommand config inv.installerArgs) },
   { name := "deps", work := o.runtime.exec name (depsCommand config) },
   { name := "freeze", work := o.runtime.exec name (freezeCommand config) },
   { name := "verify", details := ShellWords.join inv.testFiles,
     work := o.runtime.exec name (verifyCommand config inv.testFiles) }]

/-- Runs steps in order, stopping at the first that fails. -/
def runSteps (o : Orchestrator) (tags : List Log.Attr) (runId test : String) :
    List Step → Act Unit
  | [] => pure ()
  | step :: rest => do
    if step.skip then
      Bench.debug "skipping step" (tags ++ [("step", step.name)])
      o.record tags runId test step.name Journal.outcomeSkipped ""
    else
      Bench.info "running step" (tags ++ [("step", step.name)])
      o.record tags runId test step.name Journal.outcomeStart step.details
      match ← step.work.attempt with
      | .error fault =>
        Bench.error "step failed" (tags ++ [("step", step.name), ("error", fault.message)])
        o.record tags runId test step.name Journal.outcomeFailed fault.message
        throw fault
      | .ok () => o.record tags runId test step.name Journal.outcomeOk ""
    o.runSteps tags runId test rest

/-- Runs the full install-and-verify sequence for an invocation. -/
def runTest (o : Orchestrator) (request : Invocation) : Act Unit := do
  let inv ← liftExcept request.validate
  let runId ← o.runIds.next
  let tags := [("run_id", runId), ("test", inv.testName)]
  Bench.info "starting test run" (tags ++ [("image", inv.image),
    ("files", toString inv.testFiles.length), ("upgrade_from", inv.upgradeFrom)])
  o.runSteps tags runId inv.testName (o.steps inv tags)
  Bench.info "test run passed" tags
where
  liftExcept {α : Type} : Except Fault α → Act α
    | .ok value => pure value
    | .error fault => throw fault

def buildImage (o : Orchestrator) (buildArgs : Option (List String)) : Act Unit :=
  o.runtime.buildImage ⟨o.config.image, o.config.buildContext, buildArgs⟩

/-- Replaces any container of the name with a fresh one from the configured image. -/
def startContainer (o : Orchestrator) (name pipSpec : String) : Act Unit := do
  match validateTestName name with
  | .error text => throw (Fault.invalid text)
  | .ok () => pure ()
  o.runtime.stop name
  o.runtime.run (o.runOptions o.config.image name pipSpec)

def showLogs (o : Orchestrator) (name : String) : Act Unit := do
  o.runtime.exec name "journalctl --no-pager"
  o.runtime.exec name "systemctl --no-pager status jupyterhub traefik"

end Orchestrator

end Testbed.TestRun
