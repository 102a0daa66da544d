import Mathlib
import Testbed.Proofs.Container.Engine

/-!
# Stopping a container

Stopping a container through an engine first asks the engine about it, with the error stream
merged into the kept output, and removes it only when the engine knows it. An engine that
answers that there is no such container, in any letter case, leaves nothing to stop, which is
what makes stopping idempotent; any other failed question, and any failed removal, is a stop
failure around the engine's fault.

`stop_on` gives a stop as a function of what the machine answers the question; the main
statement reads the four outcomes off it.
-/

namespace Testbed.Container

open Program

/-- Engine output says the container is missing when, with ASCII letters made lowercase, it
contains `no such`. -/
theorem saysMissing_iff (text : String) :
    Runtime.saysMissing text = true ↔ "no such".toList <:+: text.toList.map Char.toLower := by
  simp [Runtime.saysMissing, Text.includes, Text.lowerAscii]

/-- A stop logs, asks the engine about the container once, and then removes the container
when the question passed, does nothing more when the engine says the container is missing,
and fails around the question's fault otherwise. -/
theorem stop_on (engine : Engine) (name : String) (bench : Bench) :
    let asked := { bench with log := bench.log.push ⟨.debug, "stopping container", [("name", name)]⟩ }
    let logged := { asked with
      log := asked.log.push ⟨.info, "executing",
        [("command", commandLine engine "inspect" ["--type=container", name])]⟩ }
    let first := ((Bench.runCommand
      ⟨engine.name, ["inspect", "--type=container", name], true, true⟩).run logged).run
    ((Runtime.engine engine).stop name).on bench =
      match first.1 with
      | .error cause =>
        (.error (Fault.stopFailed name
          (some (.context ("running " ++ engine.name ++ " inspect") (some cause)))), first.2)
      | .ok out =>
        if out.status = 0 then
          (executeOnly engine "rm" ["-f", name] .captured
            fun cause => Fault.stopFailed name (some cause)).on first.2
        else if Runtime.saysMissing out.stdout then
          (.ok (), { first.2 with
            log := first.2.log.push
              ⟨.debug, "container does not exist, nothing to stop", [("name", name)]⟩ })
        else
          (.error (Fault.stopFailed name (some (Fault.commandFailed
            (argv engine "inspect" ["--type=container", name]) out.status
            (Text.trimBlanks out.stdout)))), first.2) := by
  have asked := execute_run engine "inspect" ["--type=container", name] .merged
    { bench with log := bench.log.push ⟨.debug, "stopping container", [("name", name)]⟩ }
  simp only [Runtime.stop, Act.on_lift_bind, Bench.debug_run, Bench.note_run]
  rw [asked]
  simp only [Handling.merged]
  generalize ((Bench.runCommand _).run _).run = first
  rcases first with ⟨_ | out, after⟩
  case error cause =>
    simp [String.append_assoc]
  case ok =>
    by_cases passed : out.status = 0
    · simp [passed]
    · by_cases missing : Runtime.saysMissing out.stdout <;> simp [passed, missing]

/-- Stopping a container through an engine first runs `inspect --type=container` on it, kept
with the error stream merged and exit-checked, from the bench as a few log records leave it.
A question that cannot start is a stop failure with the stop code alone and no failed command;
a question that fails while the engine says the container is missing, in any letter case,
passes with nothing more run; any other failed question is a stop failure that carries the
stop and command codes and names the question with its status and trimmed output. A passing
question is followed by the removal `rm -f`, kept and exit-checked, which runs checked with the
stop code. -/
theorem stop_inspects_then_removes (engine : Engine) (name : String) :
    let removal : Act Unit := executeOnly engine "rm" ["-f", name] .captured
      fun cause => Fault.stopFailed name (some cause)
    RunsChecked removal ⟨engine.name, ["rm", "-f", name], true, false⟩ 6 ∧
    ∀ before : Bench, ∃ records : Array Log.Record,
      let first := ((Bench.runCommand ⟨engine.name, ["inspect", "--type=container", name], true,
        true⟩).run { before with log := before.log ++ records }).run
      let stopped := ((Runtime.engine engine).stop name).on before
      match first.1 with
      | .error _ =>
        stopped.2 = first.2 ∧ ∃ fault, stopped.1 = .error fault ∧ fault.exitCode = 6 ∧
          (∀ c, fault.hasCode c = true ↔ c = 6) ∧ fault.failedCommand? = none
      | .ok out =>
        if out.status = 0 then stopped = removal.on first.2
        else if "no such".toList <:+: out.stdout.toList.map Char.toLower then
          stopped = (.ok (), { first.2 with
            log := first.2.log.push
              ⟨.debug, "container does not exist, nothing to stop", [("name", name)]⟩ })
        else
          stopped.2 = first.2 ∧ ∃ fault, stopped.1 = .error fault ∧ fault.exitCode = 6 ∧
            (∀ c, fault.hasCode c = true ↔ c = 6 ∨ c = 3) ∧
            fault.failedCommand? = some ([engine.name, "inspect", "--type=container", name],
              out.status, Text.trimBlanks out.stdout) := by
  refine ⟨executeOnly_checked_runsChecked engine "rm" ["-f", name] .captured rfl rfl _ _,
    fun before => ⟨#[⟨.debug, "stopping container", [("name", name)]⟩,
      ⟨.info, "executing", [("command", commandLine engine "inspect" ["--type=container", name])]⟩],
      ?_⟩⟩
  have logged : before.log ++ #[⟨.debug, "stopping container", [("name", name)]⟩,
      ⟨.info, "executing", [("command", commandLine engine "inspect" ["--type=container", name])]⟩] =
      (before.log.push ⟨.debug, "stopping container", [("name", name)]⟩).push
        ⟨.info, "executing", [("command", commandLine engine "inspect" ["--type=container", name])]⟩ := by
    simp only [Array.push_eq_append, Array.append_assoc]
    rfl
  dsimp only
  rw [stop_on, logged]
  generalize answered : ((Bench.runCommand _).run _).run = first
  rcases first with ⟨_ | out, after⟩
  case error cause =>
    exact ⟨rfl, _, rfl, Fault.coded_startFailure_reads _ _ _
      (Bench.runCommand_error (congrArg Prod.fst answered))⟩
  case ok =>
    by_cases passed : out.status = 0
    · simp [passed]
    · dsimp only
      rw [if_neg passed, if_neg passed]
      by_cases missing : Runtime.saysMissing out.stdout = true
      · rw [if_pos ((saysMissing_iff _).1 missing), if_pos missing]
      · rw [if_neg (mt (saysMissing_iff _).2 missing), if_neg missing]
        exact ⟨rfl, _, rfl, Fault.coded_commandFailed_reads _ _ _ _ _⟩

end Testbed.Container
