import Testbed.Bench
import Testbed.Container.Inspect
import Testbed.Engine
import Testbed.Text.ShellWords

/-!
# Driving a container engine

A runtime is either an engine driven through its command line on the bench's machine, or the
engine double. Each request to an engine issues one engine command (stopping a container may
issue a second one to remove it), logs the command line before it runs, and turns a non-zero
exit status into a fault that names the command. Requests with an effect wrap that fault in a
coded fault naming what failed: building, starting, stopping, running a shell command,
copying.

How a command's output is handled is one of three choices, fixed per request: streamed to the
terminal, captured, or captured with the error stream merged into it. Whether a non-zero
status is a fault is a fourth.
-/

namespace Testbed.Container

/-- How an engine command's output is handled. -/
structure Handling where
  capture : Bool
  checkStatus : Bool
  mergeStderr : Bool
  deriving DecidableEq, Repr, Inhabited

/-- Output goes to the terminal; a non-zero status is a fault. -/
def Handling.streamed : Handling := ⟨false, true, false⟩

/-- Output is kept for the caller; a non-zero status is a fault. -/
def Handling.captured : Handling := ⟨true, true, false⟩

/-- Both streams are kept together; a non-zero status is a fault. -/
def Handling.merged : Handling := ⟨true, true, true⟩

def Handling.probing : Handling := ⟨true, false, false⟩

def argv (engine : Engine) (subcommand : String) (args : List String) : List String :=
  engine.name :: subcommand :: args

def commandLine (engine : Engine) (subcommand : String) (args : List String) : String :=
  ShellWords.join (argv engine subcommand args)

/-- Runs an engine subcommand. The output comes back with a fault when the status is checked
and not zero; there is no output when the command could not start. -/
def execute (engine : Engine) (subcommand : String) (args : List String) (handling : Handling) :
    BenchM (Option Program.Output × Option Fault) := do
  Bench.info "executing" [("command", commandLine engine subcommand args)]
  let command : Program.Command :=
    { name := engine.name, args := subcommand :: args, capture := handling.capture,
      mergeStderr := handling.mergeStderr }
  match ← Bench.runCommand command with
  | .error cause =>
    pure (none, some (.context ("running " ++ engine.name ++ " " ++ subcommand) (some cause)))
  | .ok output =>
    if handling.checkStatus && output.status != 0 then
      let stderr := if handling.mergeStderr then output.stdout else output.stderr
      pure (some output,
        some (Fault.commandFailed (argv engine subcommand args) output.status
          (Text.trimBlanks stderr)))
    else pure (some output, none)

/-- Runs an engine subcommand and keeps only its fault, wrapped by `wrap`. -/
def executeOnly (engine : Engine) (subcommand : String) (args : List String) (handling : Handling)
    (wrap : Fault → Fault) : Act Unit := do
  let (_, fault) ← execute engine subcommand args handling
  match fault with
  | some cause => throw (wrap cause)
  | none => pure ()

/-- Runs an engine subcommand and gives its standard output. -/
def executeText (engine : Engine) (subcommand : String) (args : List String)
    (handling : Handling) : Act String := do
  let (output, fault) ← execute engine subcommand args handling
  match fault with
  | some cause => throw cause
  | none => pure ((output.map (·.stdout)).getD "")

def fromDouble (step : Double → Option Fault × Double) : Act Unit :=
  ExceptT.mk do
    match ← Bench.withDouble step with
    | some fault => pure (.error fault)
    | none => pure (.ok ())

def fromDoubleValue {α : Type} (step : Double → Except Fault α × Double) : Act α :=
  ExceptT.mk (Bench.withDouble step)

/-- What drives the containers. -/
inductive Runtime where
  | engine (engine : Engine)
  | double
  deriving DecidableEq, Repr, Inhabited

namespace Runtime

/-- The engine a runtime stands for; the double stands for `docker`. -/
def engineOf : Runtime → Engine
  | engine e => e
  | double => Engine.docker

/-- A runtime for the engine a selector chooses, with the selector after choosing, the log
records and the names looked up; a failed choice is passed on unchanged. -/
def new (selector : Selector) (lookPath : String → Except String String) :
    Except Fault Runtime × Selector × List Log.Record × List String :=
  let (result, selector, records, looked) := selector.select lookPath
  (result.map engine, selector, records, looked)

/-- Builds and tags an image. -/
def buildImage : Runtime → BuildOptions → Act Unit
  | engine e, options => do
    Bench.debug "building image"
      [("tag", options.tag), ("context", options.context),
       ("build_args", toString (options.buildArgs.getD []).length)]
    let args := ["-t=" ++ options.tag, options.context] ++
      (options.buildArgs.getD []).map ("--build-arg=" ++ ·)
    executeOnly e "build" args .streamed fun cause => Fault.buildFailed options.tag (some cause)
  | double, options => fromDouble (·.buildImage options)

/-- Starts a privileged, detached container with a memory ceiling. -/
def run : Runtime → RunOptions → Act Unit
  | engine e, options => do
    let memory := if options.memory.isEmpty then defaultMemory else options.memory
    Bench.debug "starting container"
      [("name", options.name), ("image", options.image), ("memory", memory)]
    let args := ["--privileged", "--detach", "--name=" ++ options.name, "--memory=" ++ memory] ++
      (if options.pipSpec.isEmpty then [] else ["-e", pipSpecVariable ++ "=" ++ options.pipSpec]) ++
      [options.image]
    executeOnly e "run" args .streamed fun cause => Fault.runFailed options.name (some cause)
  | double, options => fromDouble (·.run options)

def saysMissing (text : String) : Bool := Text.includes (Text.lowerAscii text) "no such"

/-- Removes a container; a container that does not exist is not an error. -/
def stop : Runtime → String → Act Unit
  | engine e, name => do
    Bench.debug "stopping container" [("name", name)]
    let (output, fault) ← execute e "inspect" ["--type=container", name] .merged
    match fault with
    | some cause =>
      match output with
      | some out =>
        if saysMissing out.stdout then
          Bench.debug "container does not exist, nothing to stop" [("name", name)]
        else throw (Fault.stopFailed name (some cause))
      | none => throw (Fault.stopFailed name (some cause))
    | none =>
      executeOnly e "rm" ["-f", name] .captured fun cause => Fault.stopFailed name (some cause)
  | double, name => fromDouble (·.stop name)

def exec : Runtime → String → String → Act Unit
  | engine e, name, command =>
    executeOnly e "exec" ["-t", name, "/bin/bash", "-c", command] .streamed
      fun cause => Fault.execFailed name (some cause)
  | double, name, command => fromDouble (·.exec name command)

def copy : Runtime → String → String → String → Act Unit
  | engine e, name, source, dest =>
    executeOnly e "cp" [source, name ++ ":" ++ dest] .streamed
      fun cause => Fault.copyFailed name source (some cause)
  | double, name, source, dest => fromDouble (·.copy name source dest)

def logs : Runtime → String → Act String
  | engine e, name => executeText e "logs" [name] .merged
  | double, name => fromDoubleValue (·.logs name)

def inspect : Runtime → String → Act String
  | engine e, name => executeText e "inspect" [name] .captured
  | double, name => fromDoubleValue (·.inspect name)

/-- The summary of a container's inspect document; `none` only from the double, when an empty
failure was planned. -/
def inspectState : Runtime → String → Act (Option State)
  | engine e, name => do
    let text ← executeText e "inspect" [name] .captured
    match State.ofInspect text with
    | .ok state => pure (some state)
    | .error fault => throw fault
  | double, name => fromDoubleValue (·.inspectState name)

/-- Runs the liveness command `id` inside a container; its status is left to the caller.
`none` only from the double, when an empty failure was planned. -/
def probe : Runtime → String → Act (Option Program.Output)
  | engine e, name => do
    let (output, fault) ← execute e "exec" ["-t", name, "id"] .probing
    match fault with
    | some cause => throw cause
    | none => pure output
  | double, name => fromDoubleValue (·.probe name)

end Runtime

/-- What the harness asks of whatever drives its containers, one operation per request. The
engine and the double answer these requests; a test run and a readiness wait see a runtime only
through them. -/
structure Api where
  buildImage : BuildOptions → Act Unit
  run : RunOptions → Act Unit
  stop : String → Act Unit
  exec : String → String → Act Unit
  copy : String → String → String → Act Unit
  logs : String → Act String
  inspect : String → Act String
  inspectState : String → Act (Option State)
  probe : String → Act (Option Program.Output)

def Runtime.api (runtime : Runtime) : Api :=
  ⟨runtime.buildImage, runtime.run, runtime.stop, runtime.exec, runtime.copy, runtime.logs,
   runtime.inspect, runtime.inspectState, runtime.probe⟩

end Testbed.Container
