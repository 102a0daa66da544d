import Testbed.Support.Fixtures
import Testbed.App

/-!
# Test environments

A test environment gives a test a temporary directory holding the checkout and an empty state
directory, settings that point there and poll readiness every millisecond for at most a second,
and an application whose runtime is the engine double and whose run id is fixed, so that what a
test run does can be read back from the double and from the journal.
-/

namespace Testbed.Support

/-- A test environment on the engine double. -/
structure TestEnv where
  tmpDir : String
  sourceRoot : String
  config : Config
  app : App

namespace TestEnv

def runId : String := "test-run"

/-- Creates a test environment in a temporary directory. -/
def create (tmpDir : String) : TrialM TestEnv := do
  let sourceRoot := Path.join [tmpDir, "src"]
  writeSourceTree sourceRoot
  let config := { Config.defaults with
    sourceRoot, stateDir := Path.join [tmpDir, "state"], readyTimeout := Duration.ofSeconds 1,
    pollInterval := Duration.millisecond }
  Trial.onDisk (·.makeDirs config.stateDir) fun fault =>
    "Failed to create directory " ++ config.stateDir ++ ": " ++ fault.message
  pure { tmpDir, sourceRoot, config,
         app := { config, runtime := some .double, runIds := .fixed runId } }

def writeConfig (env : TestEnv) (content : String) : TrialM String := do
  let path := Path.join [env.tmpDir, Config.defaultFile]
  Trial.onDisk (·.write path content) fun fault => "Failed to write config: " ++ fault.message
  pure path

def journal (env : TestEnv) (test : String) : TrialM (List String) := do
  let (events, fault) := Journal.events (← get).disk env.app.config.stateDir test
  if let some fault := fault then Trial.fatal ("Failed to read journal: " ++ fault.message)
  pure (events.map fun event => event.step ++ ":" ++ event.outcome)

def runTest (env : TestEnv) (invocation : TestRun.Invocation) : Act Unit := do
  let (orchestrator, _) ← ExceptT.mk env.app.orchestrator
  orchestrator.runTest invocation

end TestEnv

end Testbed.Support
