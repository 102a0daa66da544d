import Testbed.Banner
import Testbed.Container.Runtime

/-!
# Diagnostics of a container that is not ready

After a failed liveness check the harness shows what it can learn about the container: the
cause as a warning, the raw inspect document between banners, the decoded state as a log
record, and the console output between a start and an end banner. Every read is best effort:
its failure is logged and dropped, so it never replaces the failure being diagnosed. A decoded
state that is not there is no failure but a read through nothing, which stops the program.
-/

namespace Testbed.Diagnostics

open Container

def printLogs (runtime : Api) (name : String) : Act Unit := do
  let logs ← runtime.logs name
  Bench.banner ("Start of logs from the container: " ++ name)
  Bench.block logs
  Bench.banner ("End of logs from the container: " ++ name)

/-- Shows the raw inspect document between banners, or warns that it could not be read. -/
def showInspect (runtime : Api) (name : String) : Act Unit := do
  match ← (runtime.inspect name).attempt with
  | .error fault =>
    Bench.warn "failed to inspect container" [("container", name), ("error", fault.message)]
  | .ok raw =>
    Bench.banner ("Inspect output of the container: " ++ name)
    Bench.block raw

/-- Logs the decoded state of the container, or that it could not be decoded. An answer that
holds no state stops the diagnosis at the first field it reads. -/
def showState (runtime : Api) (name : String) : Act Unit := do
  match ← (runtime.inspectState name).attempt with
  | .error fault =>
    Bench.debug "failed to decode container state" [("container", name), ("error", fault.message)]
  | .ok (some state) =>
    Bench.info "container state"
      [("container", name), ("status", state.status), ("running", toString state.running),
       ("exit_code", toString state.exitCode), ("started_at", state.startedAt),
       ("error", state.error)]
  | .ok none => throw Fault.nilDereference

def showLogs (runtime : Api) (name : String) : Act Unit := do
  match ← (printLogs runtime name).attempt with
  | .error fault =>
    Bench.warn "failed to fetch container logs" [("container", name), ("error", fault.message)]
  | .ok () => pure ()

def collect (runtime : Api) (name : String) (cause : Fault) : Act Unit := do
  Bench.warn "container not ready" [("container", name), ("error", cause.message)]
  showInspect runtime name
  showState runtime name
  showLogs runtime name

end Testbed.Diagnostics
