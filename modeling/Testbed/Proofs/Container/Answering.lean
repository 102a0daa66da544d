import Testbed.Proofs.Bench
import Testbed.Diagnostics

/-!
# Runtimes that answer from the calls made before

A runtime whose every request records its call on the double's call log and is answered by an
arbitrary function of the calls recorded before it stands for every behaviour an engine can
show the harness, as far as success and failure go. Proofs about the harness quantify over
that function. A probing runtime answers the same way, except that its answer to a liveness
check is any function of how many checks the bench has made. Like an engine, neither answers a
read with nothing: a read gives a value or a failure.
-/

namespace Testbed.Container

/-- How requests are answered: from the calls made before and the call itself, a failure or
nothing. -/
abbrev Answers := List Call → Call → Option Fault

/-- Records a call on the double's call log and answers it from the calls recorded before. -/
def answerCall (answer : Answers) (made : Call) : Act Unit :=
  ExceptT.mk <| modifyGet fun bench =>
    (match answer bench.double.calls made with
     | some fault => .error fault
     | none => .ok (),
     { bench with double := bench.double.record made.method made.args })

def runningState (name : String) : State := { name, status := "running", running := true }

def passingOutput : Program.Output := ⟨0, probeStdout, ""⟩

/-- A runtime that records every request and answers it from `answer`. What it reads back when
`answer` lets a read pass is never missing: empty texts, a running state, a passing check. -/
def answeringApi (answer : Answers) : Api where
  buildImage options := answerCall answer ⟨"BuildImage", [.build options]⟩
  run options := answerCall answer ⟨"Run", [.run options]⟩
  stop name := answerCall answer ⟨"Stop", [.text name]⟩
  exec name command := answerCall answer ⟨"Exec", [.text name, .text command]⟩
  copy name source dest := answerCall answer ⟨"Copy", [.text name, .text source, .text dest]⟩
  logs name := do answerCall answer ⟨"Logs", [.text name]⟩; pure ""
  inspect name := do answerCall answer ⟨"Inspect", [.text name]⟩; pure ""
  inspectState name := do
    answerCall answer ⟨"InspectState", [.text name]⟩
    pure (some (runningState name))
  probe name := do answerCall answer ⟨"Probe", [.text name]⟩; pure (some passingOutput)

/-- A runtime whose answer to the bench's `n`-th liveness check is `outcome n`, a failure or an
output, and whose other requests answer as `answeringApi reads` does; every request records its
call. -/
def probingApi (outcome : Nat → Except Fault Program.Output) (reads : Answers) : Api :=
  { answeringApi reads with
    probe := fun name => ExceptT.mk <| modifyGet fun bench =>
      ((outcome bench.checks).map some,
       { bench with double := bench.double.record "Probe" [.text name] }) }

@[simp] theorem answerCall_on (answer : Answers) (made : Call) (bench : Bench) :
    (answerCall answer made).on bench =
      (match answer bench.double.calls made with
       | some fault => .error fault
       | none => .ok (),
       { bench with double := { bench.double with calls := bench.double.calls ++ [made] } }) := rfl

/-- Showing the console output through an answering runtime makes one call and writes only to
the standard output. -/
theorem printLogs_answering (answer : Answers) (name : String) (before : Bench) :
    ∃ text, (Diagnostics.printLogs (answeringApi answer) name).on before =
      (match answer before.double.calls ⟨"Logs", [.text name]⟩ with
       | some fault => .error fault
       | none => .ok (),
       { before with
         double := { before.double with calls := before.double.calls ++ [⟨"Logs", [.text name]⟩] },
         stdout := before.stdout ++ text }) := by
  cases answered : answer before.double.calls ⟨"Logs", [.text name]⟩ with
  | some fault =>
      exact ⟨"", by simp [Diagnostics.printLogs, answeringApi, Act.on_bind, answered]⟩
  | none =>
      refine ⟨bannerLine ("Start of logs from the container: " ++ name) ++
        bannerLine ("End of logs from the container: " ++ name), ?_⟩
      simp [Diagnostics.printLogs, answeringApi, Act.on_bind, answered, Bench.banner, Bench.block,
        String.append_assoc]

end Testbed.Container
