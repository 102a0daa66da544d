import Testbed.Proofs.Bench
import Testbed.Proofs.Fault
import Testbed.Container.Runtime

/-!
# Requests to an engine's command line

An engine request runs one engine command on the bench's machine. `execute_run` gives what an
engine command does as a function of what the machine answers, whatever the machine is; the
requests with an effect (building, starting, running a shell command, copying) are then read
off it: each runs exactly one command, streamed and exit-checked, and wraps what went wrong in
a fault with its own code.
-/

namespace Testbed.Container

open Program

/-- An engine command logs its command line, then runs once: a command that cannot start
gives no output and names the engine and subcommand around the cause; one that exits with a
checked non-zero status gives its output and a failed-command fault. -/
theorem execute_run (engine : Engine) (subcommand : String) (args : List String)
    (handling : Handling) (bench : Bench) :
    let logged := { bench with
      log := bench.log.push ⟨.info, "executing", [("command", commandLine engine subcommand args)]⟩ }
    let command : Command :=
      ⟨engine.name, subcommand :: args, handling.capture, handling.mergeStderr⟩
    let ran := ((Bench.runCommand command).run logged).run
    ((execute engine subcommand args handling).run bench).run =
      (match ran.1 with
       | .error cause =>
         (none, some (.context ("running " ++ engine.name ++ " " ++ subcommand) (some cause)))
       | .ok output =>
         if handling.checkStatus && output.status != 0 then
           (some output, some (Fault.commandFailed (argv engine subcommand args) output.status
             (Text.trimBlanks (if handling.mergeStderr then output.stdout else output.stderr))))
         else (some output, none),
       ran.2) := by
  simp only [execute, StateT.run_bind, Id.run_bind, Bench.info_run, Bench.note_run]
  generalize ((Bench.runCommand _).run _).run = ran
  rcases ran with ⟨_ | output, after⟩
  · rfl
  · simp only
    split <;> rfl

/-- Whatever the machine does, an engine command logs exactly one record, the shell-quoted
command line, and then hands the machine exactly one command: the engine with the subcommand
and its arguments, and the output handling asked for. A command that cannot start gives no
output and a fault that puts the engine and subcommand before the cause and carries no exit
code. A command that starts gives back its output unchanged, with a failed-command fault
naming the command handed over exactly when the status is checked and not zero. -/
theorem execute_logs_then_runs_once (engine : Engine) (subcommand : String) (args : List String)
    (handling : Handling) (bench : Bench) :
    let record : Log.Record := ⟨.info, "executing", [("command", commandLine engine subcommand args)]⟩
    let command : Command :=
      ⟨engine.name, subcommand :: args, handling.capture, handling.mergeStderr⟩
    let ran := ((Bench.runCommand command).run { bench with log := bench.log.push record }).run
    let result := ((execute engine subcommand args handling).run bench).run
    commandLine engine subcommand args = ShellWords.join (engine.name :: subcommand :: args) ∧
    result.2 = ran.2 ∧ result.2.log = bench.log.push record ∧
    (∀ cause, ran.1 = .error cause →
      let fault := Fault.context ("running " ++ engine.name ++ " " ++ subcommand) (some cause)
      result.1 = (none, some fault) ∧
      fault.message = "running " ++ engine.name ++ " " ++ subcommand ++ ": " ++ cause.message ∧
      ∀ link ∈ fault.chain, link.ownCode? = none) ∧
    (∀ output, ran.1 = .ok output →
      result.1 = (some output,
        if handling.checkStatus = true ∧ output.status ≠ 0 then
          some (Fault.commandFailed command.argv output.status
            (Text.trimBlanks (if handling.mergeStderr then output.stdout else output.stderr)))
        else none)) := by
  intro record command ran result
  have executed : result = (match ran.1 with
      | .error cause =>
        (none, some (.context ("running " ++ engine.name ++ " " ++ subcommand) (some cause)))
      | .ok output =>
        if handling.checkStatus && output.status != 0 then
          (some output, some (Fault.commandFailed (argv engine subcommand args) output.status
            (Text.trimBlanks (if handling.mergeStderr then output.stdout else output.stderr))))
        else (some output, none),
      ran.2) :=
    execute_run engine subcommand args handling bench
  have logKept := Bench.runCommand_keepsLog command { bench with log := bench.log.push record }
  refine ⟨rfl, by rw [executed], by rw [executed]; exact logKept, fun cause failed => ?_,
    fun output started => ?_⟩
  · refine ⟨by rw [executed, failed], rfl, ?_⟩
    rcases Bench.runCommand_error failed with rfl | ⟨text, rfl⟩ <;>
      simp [Fault.chain, Fault.ownCode?]
  · rw [executed, started]
    by_cases checked : handling.checkStatus = true ∧ output.status ≠ 0
    · simp [checked.1, checked.2, Command.argv, argv, command]
    · rw [if_neg checked]
      by_cases flagged : handling.checkStatus = true
      · have passed : output.status = 0 :=
          Decidable.byContradiction fun nonzero => checked ⟨flagged, nonzero⟩
        simp [passed]
      · simp [flagged]

/-- A build on a machine that answers `docker build` with status 2 gives its output back with a
failed-command fault that carries the trimmed error output. -/
theorem execute_build_exits_two :
    let bench : Bench := { machine := .scripted (({} : Program.Script).addReplies "docker build"
      [{ status := 2, stderr := "no Dockerfile\n" }]) }
    let record : Log.Record :=
      ⟨.info, "executing", [("command", commandLine .docker "build" ["-t=img", "ctx"])]⟩
    ((Bench.runCommand ⟨"docker", ["build", "-t=img", "ctx"], false, false⟩).run
        { bench with log := bench.log.push record }).run.1 = .ok ⟨2, "", "no Dockerfile\n"⟩ ∧
    ((execute .docker "build" ["-t=img", "ctx"] .streamed).run bench).run.1 =
      (some ⟨2, "", "no Dockerfile\n"⟩,
        some (Fault.commandFailed ["docker", "build", "-t=img", "ctx"] 2 "no Dockerfile")) := by
  intro bench record
  have started : ((Bench.runCommand ⟨"docker", ["build", "-t=img", "ctx"], false, false⟩).run
      { bench with log := bench.log.push record }).run.1 = .ok ⟨2, "", "no Dockerfile\n"⟩ := rfl
  refine ⟨started, ?_⟩
  rw [(execute_logs_then_runs_once .docker "build" ["-t=img", "ctx"] .streamed bench).2.2.2.2 _
    started]
  have trimmed : Text.trimBlanks "no Dockerfile\n" = "no Dockerfile" := by decide
  simp [Handling.streamed, trimmed, Command.argv]
  rfl

/-- An exit-checked engine command whose fault is wrapped by `wrap`: it passes exactly when the
command starts and exits with 0. -/
theorem executeOnly_checked_on (engine : Engine) (subcommand : String) (args : List String)
    (handling : Handling) (checks : handling.checkStatus = true) (wrap : Fault → Fault)
    (bench : Bench) :
    let logged := { bench with
      log := bench.log.push ⟨.info, "executing", [("command", commandLine engine subcommand args)]⟩ }
    let ran := ((Bench.runCommand
      ⟨engine.name, subcommand :: args, handling.capture, handling.mergeStderr⟩).run logged).run
    (executeOnly engine subcommand args handling wrap).on bench =
      (match ran.1 with
       | .error cause =>
         .error (wrap (.context ("running " ++ engine.name ++ " " ++ subcommand) (some cause)))
       | .ok output =>
         if output.status = 0 then .ok ()
         else .error (wrap (Fault.commandFailed (argv engine subcommand args) output.status
           (Text.trimBlanks (if handling.mergeStderr then output.stdout else output.stderr)))),
       ran.2) := by
  simp only [executeOnly, Act.on_lift_bind, execute_run engine subcommand args handling bench]
  generalize ((Bench.runCommand _).run _).run = ran
  rcases ran with ⟨_ | output, after⟩
  · rfl
  · by_cases passed : output.status = 0 <;> simp [passed, checks]

/-- A request that runs `command` once and checks its exit status, with `code` as its own
exit code. From any bench it logs some records and then leaves the bench as the one command
leaves it. It passes when the command exits with 0. A command that cannot start gives a fault
that carries `code` alone and names no failed command; a non-zero exit gives a fault with exit
code `code` that carries `code` and the command code, and whose failed command is `command`
with its status and trimmed error output. -/
def RunsChecked (step : Act Unit) (command : Command) (code : Int) : Prop :=
  ∀ before : Bench, ∃ records : Array Log.Record,
    let ran := ((Bench.runCommand command).run { before with log := before.log ++ records }).run
    (step.on before).2 = ran.2 ∧
    match ran.1 with
    | .error _ =>
      ∃ fault, (step.on before).1 = .error fault ∧ fault.exitCode = code ∧
        (∀ c, fault.hasCode c = true ↔ c = code) ∧ fault.failedCommand? = none
    | .ok output =>
      if output.status = 0 then (step.on before).1 = .ok ()
      else ∃ fault, (step.on before).1 = .error fault ∧ fault.exitCode = code ∧
        (∀ c, fault.hasCode c = true ↔ c = code ∨ c = Fault.commandCode) ∧
        fault.failedCommand? = some (command.argv, output.status, Text.trimBlanks output.stderr)

theorem RunsChecked.after_note {step : Act Unit} {command : Command} {code : Int}
    (runs : RunsChecked step command code) (level : Log.Level) (message : String)
    (attrs : List Log.Attr) :
    RunsChecked (do Bench.note level message attrs; step) command code := by
  intro before
  obtain ⟨records, ran⟩ := runs { before with log := before.log.push ⟨level, message, attrs⟩ }
  refine ⟨#[⟨level, message, attrs⟩] ++ records, ?_⟩
  have logged : before.log ++ (#[⟨level, message, attrs⟩] ++ records) =
      before.log.push ⟨level, message, attrs⟩ ++ records := by
    rw [← Array.append_assoc]
    rfl
  have noted : (do Bench.note level message attrs; step : Act Unit).on before =
      step.on { before with log := before.log.push ⟨level, message, attrs⟩ } := by
    rw [Act.on_lift_bind, Bench.note_run]
  rw [noted, logged]
  exact ran

/-- An exit-checked engine command that keeps its error stream apart, wrapped in a coded fault,
runs checked with that code. -/
theorem executeOnly_checked_runsChecked (engine : Engine) (subcommand : String)
    (args : List String) (handling : Handling) (checks : handling.checkStatus = true)
    (separate : handling.mergeStderr = false) (code : Int) (summary : String) :
    RunsChecked (executeOnly engine subcommand args handling fun cause =>
        .coded code summary (some cause))
      ⟨engine.name, subcommand :: args, handling.capture, false⟩ code := by
  intro before
  refine ⟨#[⟨.info, "executing", [("command", commandLine engine subcommand args)]⟩], ?_⟩
  rw [← Array.push_eq_append, executeOnly_checked_on engine subcommand args handling checks, separate]
  generalize answered : ((Bench.runCommand _).run _).run = ran
  rcases ran with ⟨_ | output, after⟩
  case error cause =>
    exact ⟨rfl, _, rfl,
      Fault.coded_startFailure_reads code summary _ (Bench.runCommand_error (congrArg Prod.fst answered))⟩
  case ok =>
    refine ⟨rfl, ?_⟩
    by_cases passed : output.status = 0
    · simp [passed]
    · simp only [passed, if_false, Bool.false_eq_true]
      exact ⟨_, rfl, Fault.coded_commandFailed_reads code summary _ _ _⟩

/-- A streamed, exit-checked engine command wrapped in a coded fault runs checked with that
code. -/
theorem executeOnly_runsChecked (engine : Engine) (subcommand : String) (args : List String)
    (code : Int) (summary : String) :
    RunsChecked (executeOnly engine subcommand args .streamed fun cause =>
        .coded code summary (some cause))
      ⟨engine.name, subcommand :: args, false, false⟩ code :=
  executeOnly_checked_runsChecked engine subcommand args .streamed rfl rfl code summary

/-- Building an image, starting a container, running a shell command in it and copying into it
each run exactly one engine command, streamed and exit-checked, with the arguments in this
order, and fail with their own exit code. -/
theorem effect_requests_run_one_checked_command (engine : Engine) :
    (∀ options : BuildOptions,
      RunsChecked ((Runtime.engine engine).buildImage options)
        ⟨engine.name, "build" :: ("-t=" ++ options.tag) :: options.context ::
          (options.buildArgs.getD []).map ("--build-arg=" ++ ·), false, false⟩ 4) ∧
    (∀ options : RunOptions,
      RunsChecked ((Runtime.engine engine).run options)
        ⟨engine.name, "run" :: "--privileged" :: "--detach" :: ("--name=" ++ options.name) ::
          ("--memory=" ++ if options.memory.isEmpty then "900m" else options.memory) ::
          ((if options.pipSpec.isEmpty then []
            else ["-e", "TLJH_BOOTSTRAP_PIP_SPEC=" ++ options.pipSpec]) ++ [options.image]),
          false, false⟩ 5) ∧
    (∀ name command : String,
      RunsChecked ((Runtime.engine engine).exec name command)
        ⟨engine.name, ["exec", "-t", name, "/bin/bash", "-c", command], false, false⟩ 7) ∧
    (∀ name source dest : String,
      RunsChecked ((Runtime.engine engine).copy name source dest)
        ⟨engine.name, ["cp", source, name ++ ":" ++ dest], false, false⟩ 8) := by
  refine ⟨fun options => ?_, fun options => ?_, fun name command => ?_, fun name source dest => ?_⟩
  · exact (executeOnly_runsChecked engine "build" _ _ _).after_note .debug "building image" _
  · exact (executeOnly_runsChecked engine "run" _ _ _).after_note .debug "starting container" _
  · exact executeOnly_runsChecked engine "exec" _ _ _
  · exact executeOnly_runsChecked engine "cp" _ _ _

end Testbed.Container
