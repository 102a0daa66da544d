import Testbed.Container.Double
import Testbed.Program.Script
import Testbed.Log
import Testbed.Disk
import Testbed.Journal.Event
import Testbed.Host

/-!
# The bench

The bench is everything outside the harness that the harness can observe or change while it
works: the machine that runs engine commands, the engine double, the structured log, the text
written for the user on standard output and standard error, a clock, and the call-off signal
of the current operation. Operations of the harness are functions of the bench, so a whole run
is a value that tests and proofs can look at.

The clock counts nanoseconds from the start of the bench. A liveness check costs a fixed time
on it, and may be the one at which the operation is called off from outside.

The bench also holds a file system, the journal events kept in memory, the number of journal
stamps handed out, the number of runs started, from which run ids are made, and a log of
messages for tests, which also receives program output when the host's terminal is the log.

A machine is either scripted, answering commands from queues of replies, or a host whose
programs are shell scripts run on the bench's file system. On a host, output a command keeps
goes into its result; the rest is streamed to the terminal, and streamed errors are kept too.
-/

namespace Testbed

/-- The machine that runs commands. -/
inductive Machine where
  | scripted (script : Program.Script)
  | host (host : Host)
  deriving Inhabited

/-- Everything outside the harness that it can observe or change. -/
structure Bench where
  machine : Machine := .scripted {}
  double : Container.Double := {}
  log : Array Log.Record := #[]
  stdout : String := ""
  stderr : String := ""
  clock : Int := 0
  checkCost : Int := 0
  cancelAt : Nat := 0
  checks : Nat := 0
  canceled : Bool := false
  disk : Disk := {}
  journal : Array Journal.Event := #[]
  stamps : Nat := 0
  runs : Nat := 0
  messages : Array String := #[]
  deriving Inhabited

/-- A step that reads and changes the bench. -/
abbrev BenchM := StateM Bench

/-- A step that may stop with a fault; the bench keeps what happened before the fault. -/
abbrev Act := ExceptT Fault BenchM

def Act.attempt (step : Act α) : Act (Except Fault α) := ExceptT.lift step.run

namespace Bench

def note (level : Log.Level) (message : String) (attrs : List Log.Attr) : BenchM Unit :=
  modify fun bench => { bench with log := bench.log.push ⟨level, message, attrs⟩ }

def debug (message : String) (attrs : List Log.Attr) : BenchM Unit := note .debug message attrs
def info (message : String) (attrs : List Log.Attr) : BenchM Unit := note .info message attrs
def warn (message : String) (attrs : List Log.Attr) : BenchM Unit := note .warn message attrs
def error (message : String) (attrs : List Log.Attr) : BenchM Unit := note .error message attrs

def say (text : String) : BenchM Unit :=
  modify fun bench => { bench with stdout := bench.stdout ++ text }

def complain (text : String) : BenchM Unit :=
  modify fun bench => { bench with stderr := bench.stderr ++ text }

def message (text : String) : BenchM Unit :=
  modify fun bench => { bench with messages := bench.messages.push text }

def stream (terminal : Terminal) (channel : Shell.Channel) (text : String) : BenchM Unit :=
  match terminal, channel with
  | .console, .out => say text
  | .console, .err => complain text
  | .messages, _ => message text

/-- The exit status of a finished run: a run ended by a signal has none, which reads as -1. -/
def exitStatus : Shell.Ending → Int
  | .exited code => code
  | .killed _ => -1

/-- Runs a program of the host and routes its writes: kept output goes into the result, the
rest is streamed; merged errors follow the output, and streamed errors are also kept. -/
def runOnHost (host : Host) (command : Program.Command) :
    BenchM (Except Fault Program.Output) := do
  let bench ← get
  match host.resolve bench.disk command.name with
  | .error text => return .error (.note text)
  | .ok path =>
  if bench.canceled then return .error .canceled
  match host.launch bench.disk path with
  | .error text => return .error (.note text)
  | .ok program =>
  let (outcome, host) := host.execute bench.disk program path command.name command.args ""
  modify fun bench => { bench with machine := .host host, disk := outcome.disk }
  let mut kept := ""
  let mut keptErr := ""
  for (channel, text) in outcome.writes do
    let channel := if command.mergeStderr then .out else channel
    match channel with
    | .out =>
      if command.capture then kept := kept ++ text else stream host.terminal .out text
    | .err =>
      keptErr := keptErr ++ text
      if !command.capture then stream host.terminal .err text
  pure (.ok ⟨exitStatus outcome.ending, kept, keptErr⟩)

/-- Runs a command on the machine: its output, or why it could not start. -/
def runCommand (command : Program.Command) : BenchM (Except Fault Program.Output) := do
  match (← get).machine with
  | .scripted script =>
    modifyGet fun bench =>
      let (result, script) := script.run command
      (result.mapError Fault.note, { bench with machine := .scripted script })
  | .host host => runOnHost host command

/-- The machine's search path as a lookup function. -/
def pathLookup : BenchM (String → Except String String) := do
  let bench ← get
  match bench.machine with
  | .scripted script => pure fun name =>
    match script.lookPath? name with
    | some path => .ok path
    | none => .error (Program.Script.notFoundMessage name)
  | .host host => pure (host.lookPath bench.disk)

def lookPath (name : String) : BenchM (Except String String) := do
  pure ((← pathLookup) name)

def noteAll (records : List Log.Record) : BenchM Unit :=
  modify fun bench => { bench with log := bench.log ++ records.toArray }

def withDouble (step : Container.Double → α × Container.Double) : BenchM α :=
  modifyGet fun bench =>
    let (result, double) := step bench.double
    (result, { bench with double })

def advance (span : Duration) : BenchM Unit :=
  modify fun bench => { bench with clock := bench.clock + span.nanos }

def now : BenchM Duration := do pure ⟨(← get).clock⟩

def isCanceled : BenchM Bool := do pure (← get).canceled

end Bench

end Testbed
