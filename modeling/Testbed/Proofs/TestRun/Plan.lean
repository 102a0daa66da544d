import Testbed.Proofs.Container.Answering
import Testbed.TestRun.Orchestrator

/-!
# The plan of a test run

A test run asks its runtime and its readiness wait for a fixed sequence of calls and stops at
the first one that fails. This file writes that sequence down as data, the plan, and gives its
meaning when every call is answered by an arbitrary function of the calls made before it:
the calls made, the journal entries written, and how the run ends.

A runtime and a wait that record every call on the double's call log and answer it from such a
function stand for every behaviour a runtime and a wait can show a run.
-/

namespace Testbed.TestRun

open Container

/-- What a step asks of its runtime or its readiness wait. -/
inductive Request where
  | call (call : Call)
  | bestEffort (call : Call)
  | refused (fault : Fault)

namespace Request

/-- The calls that requests make in order when answered by `answer` after `history`, up to and
including the first call that fails, and how the requests end. -/
def answerAll (answer : Answers) : List Call → List Request → List Call × Except Fault Unit
  | _, [] => ([], .ok ())
  | _, refused fault :: _ => ([], .error fault)
  | history, bestEffort made :: rest =>
    let later := answerAll answer (history ++ [made]) rest
    (made :: later.1, later.2)
  | history, call made :: rest =>
    match answer history made with
    | some fault => ([made], .error fault)
    | none =>
      let later := answerAll answer (history ++ [made]) rest
      (made :: later.1, later.2)

def made : Request → List Call
  | call made => [made]
  | bestEffort made => [made]
  | refused _ => []

theorem answerAll_prefix (answer : Answers) (history : List Call) (requests : List Request) :
    (answerAll answer history requests).1 <+: requests.flatMap made ∧
    ((answerAll answer history requests).2 = .ok () →
      (answerAll answer history requests).1 = requests.flatMap made) := by
  induction requests generalizing history with
  | nil => simp [answerAll]
  | cons request rest restPrefix =>
      cases request with
      | refused fault => simp [answerAll]
      | bestEffort made =>
          obtain ⟨isPrefix, whenPassed⟩ := restPrefix (history ++ [made])
          refine ⟨by simpa [answerAll, Request.made] using isPrefix, fun passed => ?_⟩
          simpa [answerAll, Request.made] using whenPassed (by simpa [answerAll] using passed)
      | call made =>
          cases answered : answer history made with
          | some fault => simp [answerAll, Request.made, answered]
          | none =>
              obtain ⟨isPrefix, whenPassed⟩ := restPrefix (history ++ [made])
              refine ⟨by simpa [answerAll, Request.made, answered] using isPrefix, fun passed => ?_⟩
              simpa [answerAll, Request.made, answered] using
                whenPassed (by simpa [answerAll, answered] using passed)

end Request

/-- A step of a run as data: its name, whether it is skipped, its journal details, and what it
asks for. -/
structure PlannedStep where
  name : String
  skip : Bool := false
  details : String := ""
  requests : List Request

/-- What planned steps do when their calls are answered: the calls made, the journal entries
written as step, outcome and details, and how the steps end. -/
structure Outcome where
  issued : List Call := []
  entries : List (String × String × String) := []
  ending : Except Fault Unit := .ok ()

namespace PlannedStep

/-- Planned steps run in order from `history`: a skipped step writes one entry, any other step
writes its start, makes its calls, and writes its failure, which ends the run, or its success. -/
def answerAll (answer : Answers) : List Call → List PlannedStep → Outcome
  | _, [] => {}
  | history, step :: rest =>
    if step.skip then
      let later := answerAll answer history rest
      { later with entries := (step.name, Journal.outcomeSkipped, "") :: later.entries }
    else
      let own := Request.answerAll answer history step.requests
      match own.2 with
      | .error fault =>
        { issued := own.1,
          entries := [(step.name, Journal.outcomeStart, step.details),
                      (step.name, Journal.outcomeFailed, fault.message)],
          ending := .error fault }
      | .ok () =>
        let later := answerAll answer (history ++ own.1) rest
        { later with
          issued := own.1 ++ later.issued,
          entries := (step.name, Journal.outcomeStart, step.details) ::
            (step.name, Journal.outcomeOk, "") :: later.entries }

/-- Every call of planned steps in order, when none of them fails. -/
def allCalls (steps : List PlannedStep) : List Call :=
  steps.flatMap fun step => if step.skip then [] else step.requests.flatMap Request.made

/-- The calls of planned steps are a prefix of all their calls, and all of them when the steps
pass. -/
theorem answerAll_prefix (answer : Answers) (history : List Call) (steps : List PlannedStep) :
    (answerAll answer history steps).issued <+: allCalls steps ∧
    ((answerAll answer history steps).ending = .ok () →
      (answerAll answer history steps).issued = allCalls steps) := by
  induction steps generalizing history with
  | nil => simp [answerAll, allCalls]
  | cons step rest restPrefix =>
      by_cases skipped : step.skip
      · simpa [answerAll, allCalls, skipped] using restPrefix history
      · obtain ⟨ownPrefix, ownPassed⟩ := Request.answerAll_prefix answer history step.requests
        cases ending : (Request.answerAll answer history step.requests).2 with
        | error fault =>
            refine ⟨?_, by simp [answerAll, skipped, ending]⟩
            simp only [answerAll, skipped, ending, allCalls, List.flatMap_cons]
            exact ownPrefix.trans (List.prefix_append _ _)
        | ok =>
            obtain ⟨laterPrefix, laterPassed⟩ :=
              restPrefix (history ++ (Request.answerAll answer history step.requests).1)
            have ownAll := ownPassed ending
            simp only [answerAll, skipped, ending, allCalls, List.flatMap_cons, Bool.false_eq_true,
              if_false]
            rw [ownAll] at laterPrefix laterPassed ⊢
            exact ⟨(List.prefix_append_right_inj _).2 laterPrefix,
              fun passed => by rw [laterPassed passed]; rfl⟩

end PlannedStep

/-- An orchestrator whose runtime and readiness wait record every call and answer it from
`answer`. -/
def Orchestrator.answering (config : Config) (journal : JournalSink) (runIds : RunIds)
    (answer : Answers) : Orchestrator :=
  ⟨config, answeringApi answer, fun name => answerCall answer ⟨"Wait", [.text name]⟩, journal,
   runIds⟩

def execRequest (name command : String) : Request := .call ⟨"Exec", [.text name, .text command]⟩

def copyRequests (config : Config) (name : String) : List Request :=
  match fixtureSources config with
  | .error cause => [.refused (Fault.copyFailed name config.sourceRoot (some cause))]
  | .ok sources => sources.map fun source =>
    .call ⟨"Copy", [.text name, .text source, .text config.containerSrc]⟩

/-- The steps of a run of `inv`: replace the container, wait for it, copy the fixtures, show its
console output, upgrade from a released version when one is given, install, install the test
requirements, list them, and run the tests. -/
def plan (config : Config) (inv : Invocation) : List PlannedStep :=
  let name := inv.testName
  [{ name := "stop", requests := [.call ⟨"Stop", [.text name]⟩] },
   { name := "run", details := inv.image,
     requests := [.call ⟨"Run", [.run ⟨inv.image, name, config.memory, inv.pipSpec⟩]⟩] },
   { name := "wait-ready", requests := [.call ⟨"Wait", [.text name]⟩] },
   { name := "copy", requests := copyRequests config name },
   { name := "logs", requests := [.bestEffort ⟨"Logs", [.text name]⟩] },
   { name := "upgrade", skip := inv.upgradeFrom.isEmpty, details := inv.upgradeFrom,
     requests := [execRequest name (upgradeCommand config inv.upgradeFrom)] },
   { name := "install", details := inv.installerArgs,
     requests := [execRequest name (installCommand config inv.installerArgs)] },
   { name := "deps", requests := [execRequest name (depsCommand config)] },
   { name := "freeze", requests := [execRequest name (freezeCommand config)] },
   { name := "verify", details := ShellWords.join inv.testFiles,
     requests := [execRequest name (verifyCommand config inv.testFiles)] }]

end Testbed.TestRun
