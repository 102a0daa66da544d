import Testbed.Journal.Event
import Testbed.Disk

/-!
# The journal on disk

Each test has one journal file, `<test>.events.jsonl` in the `runs` directory of the state
directory. The file's path is placed under that directory so that a test name cannot climb out
of it. Logging appends one line per event, creating the directories it needs. Reading skips
empty and malformed lines and drops a carriage return at the end of a line; a line of 64 KiB
or more, its carriage return counted, stops the reading with an error, and the events read
before it are kept. A journal that does not exist reads as empty, and removing it
is not an error.
-/

namespace Testbed.Journal

/-- The longest line, in bytes, that reading accepts. -/
def maxLineBytes : Nat := 65535

def path (stateDir test : String) : Except Fault String :=
  (Path.within (Path.join [stateDir, "runs"]) (test ++ ".events.jsonl")).mapError Fault.note

/-- The lines of a file: split at line feeds, and a last line kept when the file does not end
with a line feed. The empty piece after a last line feed, or of an empty file, is no line. -/
def lines (content : String) : List String :=
  let pieces := content.toList.splitOn '\n'
  let complete := if pieces.getLast? = some [] then pieces.dropLast else pieces
  complete.map String.ofList

def trimReturn (text : String) : String :=
  String.ofList (if text.toList.getLast? = some '\r' then text.toList.dropLast else text.toList)

/-- Reads the events of a file's lines, stopping at a line that is too long. -/
def readLines : List String → List Event × Option Fault
  | [] => ([], none)
  | text :: rest =>
    if text.utf8ByteSize > maxLineBytes then
      ([], some (.context "error reading journal" (some (.note "bufio.Scanner: token too long"))))
    else
      let (events, fault) := readLines rest
      let line := trimReturn text
      if line.isEmpty then (events, fault)
      else match Event.ofLine? line with
        | some event => (event :: events, fault)
        | none => (events, fault)

/-- Appends an event to its test's journal. The file is opened, and so created, before the
event is written out; an event whose timestamp RFC 3339 cannot write leaves it as it was. -/
def log (disk : Disk) (stateDir : String) (event : Event) : Except Fault Disk := do
  let file ← (path stateDir event.test).mapError fun cause => .context "invalid journal path" (some cause)
  let disk ← (disk.makeDirs (Path.dir file)).mapError fun cause =>
    .context "failed to create journal directory" (some cause)
  let disk ← (disk.append file "").mapError fun cause =>
    .context "failed to open journal" (some cause)
  match event.timestamp.unwritable? with
  | some reason =>
    throw (.context "failed to marshal event" (some (.note
      ("json: error calling MarshalJSON for type time.Time: Time.MarshalJSON: " ++ reason))))
  | none =>
    (disk.append file (event.line ++ "\n")).mapError fun cause =>
      .context "failed to write event" (some cause)

/-- The events of a test's journal, and the fault that stopped the reading, if any. -/
def events (disk : Disk) (stateDir test : String) : List Event × Option Fault :=
  match path stateDir test with
  | .error cause => ([], some (.context "invalid journal path" (some cause)))
  | .ok file =>
    match disk.read file with
    | .missing => ([], none)
    | .failed cause =>
      if (cause.message.splitOn "read ").head? == some "" then
        ([], some (.context "error reading journal" (some cause)))
      else ([], some (.context "failed to open journal" (some cause)))
    | .content content => readLines (lines content)

def remove (disk : Disk) (stateDir test : String) : Except Fault Disk := do
  let file ← path stateDir test
  match ← disk.remove file with
  | some next => pure next
  | none => pure disk

end Testbed.Journal
