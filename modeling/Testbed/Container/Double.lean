import Testbed.Container.Options
import Testbed.Program.Command
import Testbed.Fault
import Testbed.Text.Blank

/-!
# An engine held in memory

The double answers every request of an engine from a small state: the containers that exist,
planned failures per method, planned failures for shell commands that contain a given text,
a queue of exit codes for liveness checks, and fixed texts for logs and inspect output. It
records each call, with its arguments, before answering.

A planned failure of a method that has an effect (start, stop, shell command, logs, inspect,
state, liveness check) replaces the effect, even when the planned failure is empty: the call
then succeeds without doing anything. Building an image and copying have no effect, and answer
with their planned failure, if any.
-/

namespace Testbed.Container

/-- The arguments of a recorded call. -/
inductive CallArg where
  | text (value : String)
  | build (options : BuildOptions)
  | run (options : RunOptions)
  deriving DecidableEq, Repr, Inhabited

/-- One recorded call: the method's name and its arguments. -/
structure Call where
  method : String
  args : List CallArg
  deriving DecidableEq, Repr, Inhabited

def probeStdout : String := "uid=0(root) gid=0(root) groups=0(root)\n"

/-- An engine held in memory. -/
structure Double where
  containers : List String := []
  failures : List (String × Option Fault) := []
  execFailures : List (String × Option Fault) := []
  probeCodes : List Int := []
  logsText : String := ""
  inspectText : String := ""
  calls : List Call := []
  deriving Inhabited

namespace Double

def addContainer (double : Double) (name : String) : Double :=
  if double.containers.contains name then double
  else { double with containers := double.containers ++ [name] }

def hasContainer (double : Double) (name : String) : Bool := double.containers.contains name

/-- Plans the failure of a method; an empty failure still replaces the method's effect. -/
def setFailure (double : Double) (method : String) (failure : Option Fault) : Double :=
  { double with failures := (double.failures.filter (·.1 != method)) ++ [(method, failure)] }

def setExecFailure (double : Double) (part : String) (failure : Option Fault) : Double :=
  { double with execFailures := (double.execFailures.filter (·.1 != part)) ++ [(part, failure)] }

/-- The planned failure of a method: absent when none was planned. -/
def planned (double : Double) (method : String) : Option (Option Fault) :=
  double.failures.lookup method

def record (double : Double) (method : String) (args : List CallArg) : Double :=
  { double with calls := double.calls ++ [⟨method, args⟩] }

def callsFor (double : Double) (method : String) : List Call :=
  double.calls.filter (·.method == method)

def methods (double : Double) : List String := double.calls.map (·.method)

def execCommands (double : Double) : List String :=
  (double.callsFor "Exec").filterMap fun call =>
    match call.args with
    | [_, .text command] => some command
    | _ => none

/-- Forgets containers, planned failures, exit codes and calls; the fixed texts stay. -/
def reset (double : Double) : Double :=
  { double with containers := [], failures := [], execFailures := [], probeCodes := [],
                calls := [] }

def buildImage (double : Double) (options : BuildOptions) : Option Fault × Double :=
  let double := double.record "BuildImage" [.build options]
  ((double.planned "BuildImage").join, double)

def run (double : Double) (options : RunOptions) : Option Fault × Double :=
  let double := double.record "Run" [.run options]
  match double.planned "Run" with
  | some failure => (failure, double)
  | none => (none, double.addContainer options.name)

def stop (double : Double) (name : String) : Option Fault × Double :=
  let double := double.record "Stop" [.text name]
  match double.planned "Stop" with
  | some failure => (failure, double)
  | none => (none, { double with containers := double.containers.filter (· != name) })

def exec (double : Double) (name command : String) : Option Fault × Double :=
  let double := double.record "Exec" [.text name, .text command]
  match double.planned "Exec" with
  | some failure => (failure, double)
  | none =>
    match double.execFailures.find? fun (part, _) => Text.includes command part with
    | some (_, failure) => (failure, double)
    | none => (none, double)

def copy (double : Double) (name source dest : String) : Option Fault × Double :=
  let double := double.record "Copy" [.text name, .text source, .text dest]
  ((double.planned "Copy").join, double)

/-- A fixed text, or the planned failure that replaces it. -/
def readText (double : Double) (method name : String) (text : String) :
    Except Fault String × Double :=
  let double := double.record method [.text name]
  match double.planned method with
  | some (some failure) => (.error failure, double)
  | some none => (.ok "", double)
  | none => (.ok text, double)

def logs (double : Double) (name : String) : Except Fault String × Double :=
  double.readText "Logs" name double.logsText

def inspect (double : Double) (name : String) : Except Fault String × Double :=
  double.readText "Inspect" name double.inspectText

/-- The state the double reports: running exactly when the container exists. `none` when an
empty failure was planned. -/
def inspectState (double : Double) (name : String) : Except Fault (Option State) × Double :=
  let double := double.record "InspectState" [.text name]
  match double.planned "InspectState" with
  | some (some failure) => (.error failure, double)
  | some none => (.ok none, double)
  | none => (.ok (some { name, status := "running", running := double.hasContainer name }), double)

/-- Takes the next liveness exit code: the head of the queue, the last one repeating, and 0
for an empty queue. -/
def nextProbeCode (double : Double) : Int × Double :=
  match double.probeCodes with
  | [] => (0, double)
  | [last] => (last, double)
  | first :: rest => (first, { double with probeCodes := rest })

def probe (double : Double) (name : String) : Except Fault (Option Program.Output) × Double :=
  let double := double.record "Probe" [.text name]
  match double.planned "Probe" with
  | some (some failure) => (.error failure, double)
  | some none => (.ok none, double)
  | none =>
    let (code, double) := double.nextProbeCode
    (.ok (some ⟨code, probeStdout, ""⟩), double)

end Double

end Testbed.Container
