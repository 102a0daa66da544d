import Testbed.Program.Command
import Testbed.Text.Quoted

/-!
# Scripted programs

A script stands in for the programs of a machine. It knows which program names are on the
search path, and answers each command from queues of replies kept under patterns. A command is
matched first by its whole argument vector joined with spaces, then by its name and first
argument, then by its name alone; the first of these patterns with a non-empty queue answers.
The head of that queue is taken, except that the last reply of a queue stays and answers every
later match. A command that no pattern answers gets the fallback reply. Every command is
recorded in the order it was issued.
-/

namespace Testbed.Program

/-- A scripted answer: an output, or a failure to start the program. -/
structure Reply where
  status : Int := 0
  stdout : String := ""
  stderr : String := ""
  startError : Option String := none
  deriving DecidableEq, Repr, Inhabited

def Reply.result (reply : Reply) : Except String Output :=
  match reply.startError with
  | some text => .error text
  | none => .ok ⟨reply.status, reply.stdout, reply.stderr⟩

/-- Programs that answer from queues of replies. -/
structure Script where
  onPath : List String := []
  queues : List (String × List Reply) := []
  fallback : Reply := {}
  issued : List Command := []
  deriving Repr, Inhabited

namespace Script

def addPath (script : Script) (name : String) : Script :=
  { script with onPath := script.onPath ++ [name] }

def addReplies (script : Script) (pattern : String) (replies : List Reply) : Script :=
  if script.queues.any (·.1 == pattern) then
    { script with queues := script.queues.map fun (p, q) =>
        if p == pattern then (p, q ++ replies) else (p, q) }
  else { script with queues := script.queues ++ [(pattern, replies)] }

def notFoundMessage (name : String) : String :=
  "exec: " ++ Quoted.quote name ++ ": executable file not found in $PATH"

def lookPath? (script : Script) (name : String) : Option String :=
  if script.onPath.contains name then some ("/usr/bin/" ++ name) else none

/-- The patterns a command matches, most specific first. -/
def patterns (command : Command) : List String :=
  [" ".intercalate command.argv] ++
    (match command.args with
     | first :: _ => [command.name ++ " " ++ first]
     | [] => []) ++
    [command.name]

def queueOf (script : Script) (pattern : String) : List Reply :=
  ((script.queues.find? (·.1 == pattern)).map (·.2)).getD []

/-- A pattern's queue after its head has answered: the head leaves, unless it is the last. -/
def afterAnswer : List Reply → List Reply
  | _ :: next :: rest => next :: rest
  | queue => queue

def take (script : Script) (pattern : String) : Script :=
  { script with queues := script.queues.map fun (p, q) =>
      if p == pattern then (p, afterAnswer q) else (p, q) }

def answering? (script : Script) (command : Command) : Option String :=
  (patterns command).find? fun p => !(script.queueOf p).isEmpty

/-- The reply to a command and the script after answering it. -/
def answer (script : Script) (command : Command) : Reply × Script :=
  match script.answering? command with
  | some pattern =>
    match script.queueOf pattern with
    | reply :: _ => (reply, script.take pattern)
    | [] => (script.fallback, script)
  | none => (script.fallback, script)

def run (script : Script) (command : Command) : Except String Output × Script :=
  let recorded := { script with issued := script.issued ++ [command] }
  let (reply, next) := recorded.answer command
  (reply.result, next)

def subcommands (script : Script) : List String :=
  script.issued.filterMap fun command => command.args.head?

def clearIssued (script : Script) : Script := { script with issued := [] }

end Script

end Testbed.Program
