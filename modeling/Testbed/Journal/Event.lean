import Testbed.Timestamp
import Testbed.Json.Read
import Testbed.Json.Write
import Testbed.Json.Shape

/-!
# Journal events

A journal event says that a step of a test run started, passed, failed or was skipped, with the
run it belongs to and a free-text detail. On disk an event is one line of JSON with the members
`timestamp`, `run_id`, `test`, `step`, `outcome` and `details`, in that order; `details` is left
out when empty. Reading a line back accepts members in any order and any letter case, keeps
the last of repeated members, and refuses a line that is not JSON, is not an object, has a
member of the wrong kind, or has a timestamp that is not RFC 3339.

Events group into runs by their run id: one group per run id, in the order each run id first
appears, each group keeping the order of its events.
-/

namespace Testbed.Journal

def outcomeStart : String := "start"
def outcomeOk : String := "ok"
def outcomeFailed : String := "failed"
def outcomeSkipped : String := "skipped"

/-- One entry of a test's journal. -/
structure Event where
  timestamp : Timestamp
  runId : String
  test : String
  step : String
  outcome : String
  details : String
  deriving DecidableEq, Repr, Inhabited

namespace Event

def toJson (event : Event) : Json :=
  .object ([("timestamp", .string event.timestamp.render), ("run_id", .string event.runId),
    ("test", .string event.test), ("step", .string event.step),
    ("outcome", .string event.outcome)] ++
    (if event.details.isEmpty then [] else [("details", .string event.details)]))

def line (event : Event) : String := Json.render event.toJson

def shape : Json.Shape :=
  .record "audit.Event" false
    [("timestamp", .text "time.Time" fun text => (Timestamp.parse? text).isSome),
     ("run_id", Json.Shape.string), ("test", Json.Shape.string), ("step", Json.Shape.string),
     ("outcome", .text "audit.Outcome" fun _ => true), ("details", Json.Shape.string)]

/-- Reads an event from a journal line. -/
def ofLine? (text : String) : Option Event := do
  let value ← (Json.read text).toOption
  let decoded ← (Json.decode shape value).toOption
  let stamp := decoded.field "timestamp"
  let timestamp ← match stamp with
    | .string "" => some Timestamp.zero
    | .string written => Timestamp.parse? written
    | _ => some Timestamp.zero
  pure { timestamp, runId := (decoded.field "run_id").textOr, test := (decoded.field "test").textOr,
         step := (decoded.field "step").textOr, outcome := (decoded.field "outcome").textOr,
         details := (decoded.field "details").textOr }

end Event

/-- A pass over events grouping them by run: the run ids in the order they were first seen, and
under each id the events of that run read so far. -/
structure Grouping where
  order : List String
  byId : String → Option (List Event)

def Grouping.empty : Grouping := ⟨[], fun _ => none⟩

/-- Reads one event: a run id seen for the first time joins the order, and the event is
appended to the events of its run. -/
def Grouping.add (grouping : Grouping) (event : Event) : Grouping where
  order :=
    if (grouping.byId event.runId).isSome then grouping.order else grouping.order ++ [event.runId]
  byId := fun id =>
    if id = event.runId then some ((grouping.byId id).getD [] ++ [event]) else grouping.byId id

def runs (events : List Event) : List (List Event) :=
  let grouping := events.foldl Grouping.add Grouping.empty
  grouping.order.map fun id => (grouping.byId id).getD []

end Testbed.Journal
