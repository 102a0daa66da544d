import Testbed.Support.Fixtures
import Testbed.Container.Runtime
import Testbed.Config.Basic

/-!
# The integration harness

Integration tests drive a real engine. They run only when enabled, and only when an engine is
found on the search path, which a variable may pin to docker or podman; otherwise the test is
skipped. The harness writes the checkout into a temporary directory and uses settings for a
small test image. Engine output that is not captured goes into the test log, one message per
write.

Containers a test creates are tracked, and the harness removes them when the test ends,
logging a warning for each one it cannot remove.
-/

namespace Testbed.Support

/-- The integration harness. -/
structure Harness where
  tempDir : String
  sourceRoot : String
  config : Config
  runtime : Container.Runtime
  containers : List String := []

namespace Harness

def enableVariable : String := "TLJH_ITEST_INTEGRATION"

def runtimeVariable : String := "TLJH_ITEST_RUNTIME"

def testImage : String := "tljh-itest-integration"

def dockerfile : String :=
  "FROM python:3.12-slim\nRUN pip install --no-cache-dir pytest\nCMD [\"sleep\", \"infinity\"]\n"

def streamToLog : BenchM Unit :=
  modify fun bench =>
    match bench.machine with
    | .host host => { bench with machine := .host { host with terminal := .messages } }
    | _ => bench

/-- Creates the harness from the values of the two variables and a temporary directory. -/
def create (enable runtimeName tempDir : String) : TrialM Harness := do
  if enable != "1" then
    Trial.skip ("integration tests disabled (set " ++ enableVariable ++ "=1 to enable)")
  let wanted ← match Engine.parse runtimeName with
    | .ok engine => pure engine
    | .error text => Trial.fatal ("invalid " ++ runtimeVariable ++ ": " ++ text)
  streamToLog
  let (result, _, records, _) := (Selector.new wanted).select (← Bench.pathLookup)
  Bench.noteAll records
  let engine ← match result with
    | .ok engine => pure engine
    | .error fault => Trial.skip ("no container runtime available: " ++ fault.message)
  let sourceRoot := Path.join [tempDir, "src"]
  writeSourceTree sourceRoot
  let config := { Config.defaults with
    image := testImage, buildContext := Path.join [tempDir, "image"], sourceRoot,
    stateDir := Path.join [tempDir, "state"], hubPython := "/usr/local/bin/python3",
    readyTimeout := Duration.ofSeconds 30, pollInterval := Duration.ofSeconds 1 }
  pure { tempDir, sourceRoot, config, runtime := .engine engine }

/-- Adds or replaces a file of the checkout; the path it was written to. -/
def writeSource (harness : Harness) (rel content : String) : TrialM String := do
  let path ← match harness.config.sourcePath rel with
    | .ok path => pure path
    | .error text => Trial.fatal ("Failed to resolve " ++ rel ++ ": " ++ text)
  let dir := Path.dir path
  Trial.onDisk (·.makeDirs dir) fun fault => "Failed to create " ++ dir ++ ": " ++ fault.message
  Trial.onDisk (·.write path content) fun fault =>
    "Failed to write " ++ path ++ ": " ++ fault.message
  pure path

/-- Writes the recipe into the build context and builds the test image. -/
def buildTestImage (harness : Harness) : TrialM Unit := do
  let context := harness.config.buildContext
  Trial.onDisk (·.makeDirs context) fun fault =>
    "Failed to create build context: " ++ fault.message
  Trial.onDisk (·.write (Path.join [context, "Dockerfile"]) dockerfile) fun fault =>
    "Failed to write Dockerfile: " ++ fault.message
  Trial.require (harness.runtime.buildImage { tag := testImage, context, buildArgs := none })
    fun fault => "Failed to build " ++ testImage ++ ": " ++ fault.message

def track (harness : Harness) (name : String) : Harness :=
  { harness with containers := harness.containers ++ [name] }

/-- Removes every tracked container, logging a warning for each failure. -/
def cleanup (harness : Harness) : TrialM Harness := do
  for name in harness.containers do
    match ← (harness.runtime.stop name).run with
    | .ok () => pure ()
    | .error fault =>
      Trial.log ("Warning: failed to remove container " ++ name ++ ": " ++ fault.message)
  pure { harness with containers := [] }

/-- Fails the test unless the container is running. -/
def requireRunning (harness : Harness) (name : String) : TrialM Unit := do
  let state ← Trial.require (harness.runtime.inspectState name) fun fault =>
    "failed to inspect " ++ name ++ ": " ++ fault.message
  if let some state := state then
    if !state.running then
      Trial.fatal ("container " ++ name ++ " is not running (status " ++ state.status ++ ")")

end Harness

end Testbed.Support
