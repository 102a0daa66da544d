import Testbed.Fault
import Testbed.Log

/-!
# Container engines and choosing one

An engine is the program that runs containers, named by its command. The configured name may
be `auto` (or empty), which tries `docker` and then `podman`; any other name is tried alone.
Choosing looks each candidate up on the search path in order and takes the first one found.
A choice is remembered, so later requests look nothing up; a failure is not, so a later
request looks again.
-/

namespace Testbed

/-- A container engine, named by its command. -/
structure Engine where
  name : String
  deriving DecidableEq, Repr, Inhabited

namespace Engine

def auto : Engine := ⟨"auto"⟩
def docker : Engine := ⟨"docker"⟩
def podman : Engine := ⟨"podman"⟩

def preference : List Engine := [docker, podman]

/-- Reads a configured engine name: empty or `auto` for automatic choice, or one of the two
known engines. -/
def parse (text : String) : Except String Engine :=
  if text == "" || text == "auto" then .ok auto
  else if text == "docker" then .ok docker
  else if text == "podman" then .ok podman
  else .error ("unknown runtime " ++ Quoted.quote text ++ " (want auto, docker or podman)")

end Engine

/-- Chooses an engine once and remembers the choice. -/
structure Selector where
  wanted : Engine
  chosen : Option Engine := none
  deriving DecidableEq, Repr, Inhabited

namespace Selector

/-- A selector for a wanted engine; the empty name means automatic choice. -/
def new (wanted : Engine) : Selector :=
  { wanted := if wanted.name == "" then Engine.auto else wanted }

def candidates (selector : Selector) : List Engine :=
  if selector.wanted == Engine.auto then Engine.preference else [selector.wanted]

/-- Looks up candidates in order: the first one found, or the names tried, with one debug
record for each lookup. -/
def search (lookPath : String → Except String String) (tried : List String) :
    List Engine → Except (List String) Engine × List Log.Record
  | [] => (.error tried, [])
  | engine :: rest =>
    match lookPath engine.name with
    | .ok path =>
      (.ok engine, [⟨.debug, "detected container runtime", [("engine", engine.name), ("path", path)]⟩])
    | .error text =>
      let (result, records) := search lookPath (tried ++ [engine.name]) rest
      (result, ⟨.debug, "runtime not on PATH", [("engine", engine.name), ("error", text)]⟩ :: records)

/-- The chosen engine, the selector after choosing, the log records of the lookups, and the
names looked up: one per record, in order. -/
def select (selector : Selector) (lookPath : String → Except String String) :
    Except Fault Engine × Selector × List Log.Record × List String :=
  match selector.chosen with
  | some engine => (.ok engine, selector, [], [])
  | none =>
    let (result, records) := search lookPath [] selector.candidates
    let looked := (selector.candidates.take records.length).map (·.name)
    match result with
    | .ok engine => (.ok engine, { selector with chosen := some engine }, records, looked)
    | .error tried => (.error (Fault.noRuntime tried), selector, records, looked)

end Selector

end Testbed
