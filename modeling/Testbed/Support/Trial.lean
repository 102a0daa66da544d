import Testbed.Bench

/-!
# Test functions

A test function runs on the bench and writes its log into the bench's message log. It may stop
early in two ways: it fails, which marks the test failed, or it is skipped. Either way its log
message is recorded first, and the clean-up steps registered by the fixtures still run after it.
-/

namespace Testbed.Support

/-- How a test function stopped before its end. -/
inductive Halt where
  | failed
  | skipped
  deriving DecidableEq, Inhabited, Repr

abbrev TrialM := ExceptT Halt BenchM

namespace Trial

def log (text : String) : TrialM Unit := Bench.message text

def fatal (text : String) : TrialM α := do
  Bench.message text
  throw .failed

def skip (text : String) : TrialM α := do
  Bench.message text
  throw .skipped

/-- Runs an action of the harness, stopping the test as failed with a message made from its
fault when it fails. -/
def require (step : Act α) (message : Fault → String) : TrialM α := do
  match ← step.run with
  | .ok value => pure value
  | .error fault => fatal (message fault)

def onDisk (change : Disk → Except Fault Disk) (message : Fault → String) : TrialM Unit := do
  match change (← get).disk with
  | .ok disk => modify fun bench => { bench with disk }
  | .error fault => fatal (message fault)

end Trial

end Testbed.Support
