import Testbed.Proofs.Fault
import Testbed.Proofs.Validation
import Testbed.Proofs.TestRun.FollowsPlan

/-!
# Which requests reach the runtime

A test-run request is acceptable when it names an image, has a test name that names a
container, and lists at least one test file with no empty entry. An acceptable request is
taken as it is; any other is refused with the general exit code before anything happens: no
run id is drawn, no runtime or readiness call is made, and nothing is written to the journal.
Starting a container alone accepts exactly the same names.
-/

namespace Testbed.TestRun

open Container

/-- What a test-run request must give: an image, a test name that names a container, and at
least one test file, none of them empty. -/
def Invocation.Acceptable (inv : Invocation) : Prop :=
  inv.image ≠ "" ∧ ContainerNamed inv.testName ∧ inv.testFiles ≠ [] ∧
    ∀ file ∈ inv.testFiles, file ≠ ""

namespace Invocation

theorem validate_cases (inv : Invocation) :
    inv.validate = .ok inv ∨ ∃ message, inv.validate = .error (Fault.invalid message) := by
  unfold validate
  split
  · exact .inl rfl
  · exact .inr ⟨_, rfl⟩

theorem validate_eq_ok_iff (inv : Invocation) : inv.validate = .ok inv ↔ inv.Acceptable := by
  have fieldsPass : Validation.verdict inv.fields = .ok () ↔ inv.Acceptable := by
    rw [Validation.verdict_eq_ok_iff]
    simp [fields, Validation.Field.messages_eq_nil_iff, Validation.Rule.holds,
      isContainerName_iff, Acceptable, List.ne_nil_iff_length_pos]
    intro _
    constructor
    · rintro ⟨⟨-, named⟩, some, filled⟩
      exact ⟨named, by omega, filled⟩
    · rintro ⟨named, some, filled⟩
      exact ⟨⟨named.ne_empty, named⟩, by omega, filled⟩
  unfold validate
  split <;> simp_all

end Invocation

/-- A run of a request that is not acceptable is refused with a general fault before anything
happens, whatever the orchestrator. -/
theorem runTest_refuses (o : Orchestrator) {inv : Invocation} (refused : ¬ inv.Acceptable)
    (before : Bench) :
    ∃ message, (o.runTest inv).on before = (.error (Fault.invalid message), before) := by
  rcases inv.validate_cases with passed | ⟨message, failed⟩
  · exact absurd ((Invocation.validate_eq_ok_iff inv).1 passed) refused
  · exact ⟨message, by simp [Orchestrator.runTest, failed, Orchestrator.runTest.liftExcept]⟩

/-- Starting a container with a name that is not a container name is refused with a general
fault before anything happens, whatever the orchestrator. -/
theorem startContainer_refuses (o : Orchestrator) {name : String} (refused : ¬ ContainerNamed name)
    (pipSpec : String) (before : Bench) :
    ∃ message, (o.startContainer name pipSpec).on before = (.error (Fault.invalid message), before) := by
  cases named : validateTestName name with
  | ok => exact absurd ((validateTestName_eq_ok_iff name).1 named) refused
  | error message => exact ⟨message, by simp [Orchestrator.startContainer, named]⟩

theorem invalid_reads (message : String) :
    (Fault.invalid message).exitCode = 1 ∧ ∀ c, (Fault.invalid message).hasCode c = true ↔ c = 1 := by
  refine ⟨by simp [Fault.invalid, Fault.plain, Fault.generalCode], fun c => ?_⟩
  simp [Fault.invalid, Fault.plain, Fault.generalCode]
  omega

theorem plan_issues_stop_first (config : Config) (inv : Invocation) (answer : Answers)
    (history : List Call) :
    ∃ later, (PlannedStep.answerAll answer history (plan config inv)).issued =
      ⟨"Stop", [.text inv.testName]⟩ :: later := by
  cases stopped : answer history ⟨"Stop", [.text inv.testName]⟩ <;>
    simp [plan, PlannedStep.answerAll, Request.answerAll, stopped]

/-- Starting a container under a container name first asks the runtime to remove any container
of that name. -/
theorem startContainer_stops_first (config : Config) (journal : JournalSink) (runIds : RunIds)
    (answer : Answers) {name : String} (named : ContainerNamed name) (pipSpec : String)
    (before : Bench) :
    ∃ later, (((Orchestrator.answering config journal runIds answer).startContainer name
      pipSpec).on before).2.double.calls = before.double.calls ++ ⟨"Stop", [.text name]⟩ :: later := by
  have accepted := (validateTestName_eq_ok_iff name).2 named
  cases stopped : answer before.double.calls ⟨"Stop", [.text name]⟩ <;>
    simp [Orchestrator.startContainer, accepted, Orchestrator.answering, answeringApi, Act.on_bind,
      stopped]

/-- A test run reaches the runtime exactly for an acceptable request: it then first asks to
remove the test's container, and otherwise it is refused with the general exit code alone
before anything happens, whatever the orchestrator. An acceptable request is taken unchanged.
Starting a container alone accepts exactly the container names, the names the test-name check
accepts, and refuses any other the same way. -/
theorem run_reaches_runtime_iff_acceptable :
    (∀ (config : Config) (journal : JournalSink) (runIds : RunIds) (answer : Answers)
        (inv : Invocation) (before : Bench),
      let ran := ((Orchestrator.answering config journal runIds answer).runTest inv).on before
      inv.Acceptable ↔
        ∃ later, ran.2.double.calls = before.double.calls ++ ⟨"Stop", [.text inv.testName]⟩ :: later) ∧
    (∀ (o : Orchestrator) (inv : Invocation) (before : Bench), ¬ inv.Acceptable →
      ∃ fault, (o.runTest inv).on before = (.error fault, before) ∧ fault.exitCode = 1 ∧
        ∀ c, fault.hasCode c = true ↔ c = 1) ∧
    (∀ inv : Invocation, inv.Acceptable ↔ inv.validate = .ok inv) ∧
    (∀ name : String, validateTestName name = .ok () ↔ ContainerNamed name) ∧
    (∀ (config : Config) (journal : JournalSink) (runIds : RunIds) (answer : Answers)
        (name pipSpec : String) (before : Bench),
      let started :=
        ((Orchestrator.answering config journal runIds answer).startContainer name pipSpec).on before
      ContainerNamed name ↔
        ∃ later, started.2.double.calls = before.double.calls ++ ⟨"Stop", [.text name]⟩ :: later) ∧
    (∀ (o : Orchestrator) (name pipSpec : String) (before : Bench), ¬ ContainerNamed name →
      ∃ fault, (o.startContainer name pipSpec).on before = (.error fault, before) ∧
        fault.exitCode = 1 ∧ ∀ c, fault.hasCode c = true ↔ c = 1) := by
  have unchanged : ∀ (calls : List Call) (made : Call) (later : List Call),
      calls ≠ calls ++ made :: later := by
    intro calls made later same
    have := congrArg List.length same
    simp at this
  refine ⟨fun config journal runIds answer inv before => ⟨fun accepted => ?_, fun reached => ?_⟩,
    fun o inv before refused => ?_, fun inv => (Invocation.validate_eq_ok_iff inv).symm,
    validateTestName_eq_ok_iff,
    fun config journal runIds answer name pipSpec before =>
      ⟨fun named => startContainer_stops_first config journal runIds answer named pipSpec before,
        fun reached => ?_⟩,
    fun o name pipSpec before refused => ?_⟩
  · obtain ⟨-, calls, -, -⟩ := runTest_follows_plan config journal runIds answer
      ((Invocation.validate_eq_ok_iff inv).2 accepted) before
    obtain ⟨later, first⟩ := plan_issues_stop_first config inv answer before.double.calls
    exact ⟨later, by rw [calls, first]⟩
  · by_contra refused
    obtain ⟨message, ran⟩ := runTest_refuses (Orchestrator.answering config journal runIds answer)
      refused before
    obtain ⟨later, extended⟩ := reached
    rw [ran] at extended
    exact unchanged _ _ _ extended
  · obtain ⟨message, ran⟩ := runTest_refuses o refused before
    exact ⟨_, ran, invalid_reads message⟩
  · by_contra refused
    obtain ⟨message, started⟩ := startContainer_refuses
      (Orchestrator.answering config journal runIds answer) refused pipSpec before
    obtain ⟨later, extended⟩ := reached
    rw [started] at extended
    exact unchanged _ _ _ extended
  · obtain ⟨message, started⟩ := startContainer_refuses o refused pipSpec before
    exact ⟨_, started, invalid_reads message⟩

end Testbed.TestRun
