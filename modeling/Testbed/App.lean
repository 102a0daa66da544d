import Testbed.TestRun.Orchestrator
import Testbed.Config.Load
import Testbed.Engine

/-!
# The application

The application holds what the commands work with: the settings, the container runtime once
it is known, and how test runs are numbered. The settings start as the defaults and may be
replaced by a settings file. The runtime may be given; otherwise it is chosen on first use from
the settings' engine and the machine's search path, and kept once found. A failed choice is not
kept, so the next use searches again.
-/

namespace Testbed

/-- What the commands of the harness work with. -/
structure App where
  config : Config := Config.defaults
  runtime : Option Container.Runtime := none
  runIds : TestRun.RunIds := .counted
  deriving Inhabited

namespace App

/-- Replaces the settings with those of a file. With no file named and no default file, the
settings are kept. -/
def loadConfig (app : App) (source : FileSource) (path : String) : Except Fault App :=
  if path.isEmpty && !source.present Config.defaultFile then .ok app
  else do
    let config ← Config.load source path
    pure { app with config }

/-- The runtime, chosen on first use and kept. -/
def resolveRuntime (app : App) : BenchM (Except Fault (Container.Runtime × App)) := do
  match app.runtime with
  | some runtime => pure (.ok (runtime, app))
  | none =>
    match Engine.parse app.config.runtime with
    | .error text => pure (.error (Fault.config "invalid runtime" (some (.note text))))
    | .ok wanted =>
      let (result, _, records, _) :=
        Container.Runtime.new (Selector.new wanted) (← Bench.pathLookup)
      Bench.noteAll records
      match result with
      | .error fault => pure (.error fault)
      | .ok runtime => pure (.ok (runtime, { app with runtime := some runtime }))

def orchestrator (app : App) : BenchM (Except Fault (TestRun.Orchestrator × App)) := do
  match ← app.resolveRuntime with
  | .error fault => pure (.error fault)
  | .ok (runtime, app) => pure (.ok (TestRun.Orchestrator.standard app.config runtime app.runIds, app))

def journalPath (app : App) (test : String) : Except Fault String :=
  Journal.path app.config.stateDir test

end App

end Testbed
