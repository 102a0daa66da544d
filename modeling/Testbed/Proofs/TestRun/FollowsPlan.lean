import Mathlib.Data.List.Forall2
import Testbed.Proofs.TestRun.Plan

/-!
# A test run follows its plan

Whatever its runtime and its readiness wait answer, a test run of a valid invocation makes
exactly the calls its plan makes under those answers: a prefix of the fixed call sequence that
ends right after the first call failing its step, or all of it. Its journal holds the plan's
entries under the one run id it drew, and a journal that fails to write changes neither the
calls, nor the entries, nor how the run ends.

The proof is a simulation. Each step's work performs the requests of its planned step
(`Performs`, `Realizes`); the journal and the log written between works never touch the call
log; an induction over the steps then carries the plan's meaning through the whole loop.
-/

namespace Testbed.TestRun

open Container

/-- From any bench, `work` adds to the call log the calls that `requests` make when answered by
`answer` and ends as they end; besides the call log it changes at most the structured log and
the standard output. -/
def Performs (answer : Answers) (work : Act Unit) (requests : List Request) : Prop :=
  ∀ before : Bench, ∃ log stdout,
    work.on before =
      ((Request.answerAll answer before.double.calls requests).2,
       { before with
         double := { before.double with
           calls := before.double.calls ++ (Request.answerAll answer before.double.calls requests).1 },
         log, stdout })

theorem Performs.facts {answer : Answers} {work : Act Unit} {requests : List Request}
    (performs : Performs answer work requests) (before : Bench) :
    let own := Request.answerAll answer before.double.calls requests
    (work.on before).1 = own.2 ∧
    (work.on before).2.double.calls = before.double.calls ++ own.1 ∧
    (work.on before).2.journal = before.journal ∧ (work.on before).2.runs = before.runs := by
  obtain ⟨log, stdout, ran⟩ := performs before
  simp [ran]

/-- A step carries out a planned step: it has its name, skip flag and details, and its work
performs its requests. -/
structure Realizes (answer : Answers) (step : Step) (planned : PlannedStep) : Prop where
  name : step.name = planned.name
  skip : step.skip = planned.skip
  details : step.details = planned.details
  performs : Performs answer step.work planned.requests

/-! ### What each step's work performs -/

theorem answerCall_performs (answer : Answers) (made : Call) :
    Performs answer (answerCall answer made) [.call made] := by
  intro before
  refine ⟨before.log, before.stdout, ?_⟩
  cases answered : answer before.double.calls made <;> simp [answered, Request.answerAll]

theorem forM_answerCall_performs (answer : Answers) (call : α → Call) (items : List α) :
    Performs answer (items.forM fun item => answerCall answer (call item))
      (items.map fun item => .call (call item)) := by
  induction items with
  | nil =>
      intro before
      exact ⟨before.log, before.stdout, by simp [Request.answerAll]⟩
  | cons item rest restPerforms =>
      intro before
      cases answered : answer before.double.calls (call item) with
      | some fault =>
          refine ⟨before.log, before.stdout, ?_⟩
          simp [List.forM.eq_2, Act.on_bind, answered, Request.answerAll]
      | none =>
          let called : Bench :=
            { before with double := { before.double with calls := before.double.calls ++ [call item] } }
          have firstRan : (answerCall answer (call item)).on before = (.ok (), called) := by
            simp [answered, called]
          obtain ⟨log, stdout, restRan⟩ := restPerforms called
          refine ⟨log, stdout, ?_⟩
          rw [List.forM.eq_2, Act.on_bind_ok firstRan, restRan]
          simp [called, Request.answerAll, answered]

theorem copyFixtures_performs (config : Config) (journal : JournalSink) (runIds : RunIds)
    (answer : Answers) (name : String) :
    Performs answer ((Orchestrator.answering config journal runIds answer).copyFixtures name)
      (copyRequests config name) := by
  rcases found : fixtureSources config with cause | sources
  · intro before
    refine ⟨before.log, before.stdout, ?_⟩
    simp [Orchestrator.copyFixtures, copyRequests, Orchestrator.answering, found, Request.answerAll]
  · simp only [Orchestrator.copyFixtures, copyRequests, Orchestrator.answering, found]
    exact forM_answerCall_performs answer
      (fun source => ⟨"Copy", [.text name, .text source, .text config.containerSrc]⟩) sources

theorem steps_realize_plan (config : Config) (journal : JournalSink) (runIds : RunIds)
    (answer : Answers) (inv : Invocation) (tags : List Log.Attr) :
    List.Forall₂ (Realizes answer)
      ((Orchestrator.answering config journal runIds answer).steps inv tags) (plan config inv) := by
  simp only [Orchestrator.steps, plan, List.forall₂_cons, List.Forall₂.nil, and_true]
  refine ⟨⟨rfl, rfl, rfl, answerCall_performs _ _⟩, ⟨rfl, rfl, rfl, answerCall_performs _ _⟩,
    ⟨rfl, rfl, rfl, answerCall_performs _ _⟩, ⟨rfl, rfl, rfl, copyFixtures_performs _ _ _ _ _⟩,
    ⟨rfl, rfl, rfl, ?_⟩, ⟨rfl, rfl, rfl, answerCall_performs _ _⟩,
    ⟨rfl, rfl, rfl, answerCall_performs _ _⟩, ⟨rfl, rfl, rfl, answerCall_performs _ _⟩,
    ⟨rfl, rfl, rfl, answerCall_performs _ _⟩, ⟨rfl, rfl, rfl, answerCall_performs _ _⟩⟩
  intro before
  obtain ⟨text, printed⟩ := printLogs_answering answer inv.testName before
  cases answered : answer before.double.calls ⟨"Logs", [.text inv.testName]⟩ with
  | some fault =>
      refine ⟨before.log.push ⟨.warn, "failed to fetch container logs",
        tags ++ [("error", fault.message)]⟩, before.stdout ++ text, ?_⟩
      simp [Orchestrator.answering, Act.on_bind, printed, answered, Request.answerAll]
  | none =>
      refine ⟨before.log, before.stdout ++ text, ?_⟩
      simp [Orchestrator.answering, Act.on_bind, printed, answered, Request.answerAll]

/-! ### What the bookkeeping between works changes -/

/-- The events a sink keeps on the bench out of those written to it: all of them in memory,
none when they go to files. -/
def JournalSink.kept : JournalSink → List Journal.Event → List Journal.Event
  | .memory _, events => events
  | .files _, _ => []

@[simp] theorem JournalSink.kept_nil (sink : JournalSink) : sink.kept [] = [] := by
  cases sink <;> rfl

theorem JournalSink.write_effect (sink : JournalSink) (event : Journal.Event) (bench : Bench) :
    let after := ((sink.write event).run bench).run.2
    after.double = bench.double ∧ after.runs = bench.runs ∧
      after.journal.toList = bench.journal.toList ++ sink.kept [event] := by
  cases sink with
  | memory failure => simp [JournalSink.write, JournalSink.kept]
  | files stateDir =>
      simp only [JournalSink.write, JournalSink.kept, StateT.run_modifyGet, Id.run_pure]
      split <;> simp

def entryEvent (runId test : String) (entry : String × String × String) : Journal.Event :=
  ⟨Timestamp.zero, runId, test, entry.1, entry.2.1, entry.2.2⟩

theorem record_effect (o : Orchestrator) (tags : List Log.Attr)
    (runId test step outcome details : String) (bench : Bench) :
    let after := ((o.record tags runId test step outcome details).run bench).run.2
    after.double = bench.double ∧ after.runs = bench.runs ∧
      after.journal.toList =
        bench.journal.toList ++ o.journal.kept [entryEvent runId test (step, outcome, details)] := by
  have writtenEffect :=
    o.journal.write_effect ⟨Timestamp.zero, runId, test, step, outcome, details⟩ bench
  simp only [Orchestrator.record, StateT.run_bind, Id.run_bind]
  generalize ((o.journal.write ⟨Timestamp.zero, runId, test, step, outcome, details⟩).run bench).run =
    written at writtenEffect ⊢
  rcases written with ⟨failed, mid⟩
  cases failed <;> simpa [Bench.warn, Bench.note, entryEvent] using writtenEffect

theorem RunIds.next_effect (runIds : RunIds) (bench : Bench) :
    let named := ((runIds.next).run bench).run.2
    named.double = bench.double ∧ named.journal = bench.journal := by
  cases runIds <;> simp [RunIds.next]

/-! ### The loop -/

theorem runSteps_follows_plan (o : Orchestrator) (answer : Answers) (tags : List Log.Attr)
    (runId test : String) {steps : List Step} {planned : List PlannedStep}
    (realized : List.Forall₂ (Realizes answer) steps planned) (before : Bench) :
    let outcome := PlannedStep.answerAll answer before.double.calls planned
    let ran := (o.runSteps tags runId test steps).on before
    ran.1 = outcome.ending ∧
    ran.2.double.calls = before.double.calls ++ outcome.issued ∧
    ran.2.journal.toList =
      before.journal.toList ++ o.journal.kept (outcome.entries.map (entryEvent runId test)) ∧
    ran.2.runs = before.runs := by
  induction realized generalizing before with
  | nil => simp [Orchestrator.runSteps, PlannedStep.answerAll]
  | @cons step planned steps plans realizes rest restFollows =>
      by_cases skipped : planned.skip
      · have stepSkipped : step.skip = true := realizes.skip.trans skipped
        simp only [Orchestrator.runSteps, stepSkipped, if_true, Act.on_lift_bind, Bench.debug_run,
          Bench.note_run]
        obtain ⟨sameDouble, sameRuns, keptSkip⟩ := record_effect o tags runId test step.name
          Journal.outcomeSkipped ""
          { before with log := before.log.push ⟨.debug, "skipping step", tags ++ [("step", step.name)]⟩ }
        generalize ((o.record tags runId test step.name Journal.outcomeSkipped "").run
          { before with
            log := before.log.push ⟨.debug, "skipping step", tags ++ [("step", step.name)]⟩ }).run.2 =
          recorded at sameDouble sameRuns keptSkip ⊢
        dsimp only at sameDouble sameRuns keptSkip
        obtain ⟨ending, issued, journal, runs⟩ := restFollows recorded
        simp only [PlannedStep.answerAll, skipped, if_true, List.map_cons]
        rw [sameDouble] at ending issued journal
        refine ⟨ending, issued, ?_, runs.trans sameRuns⟩
        rw [journal, keptSkip]
        cases o.journal <;> simp [JournalSink.kept, entryEvent, realizes.name]
      · have stepRuns : step.skip = false := by simpa [realizes.skip] using skipped
        simp only [Orchestrator.runSteps, stepRuns, Bool.false_eq_true, if_false, Act.on_lift_bind,
          Bench.info_run, Bench.note_run]
        obtain ⟨sameDouble, sameRuns, keptStart⟩ := record_effect o tags runId test step.name
          Journal.outcomeStart step.details
          { before with log := before.log.push ⟨.info, "running step", tags ++ [("step", step.name)]⟩ }
        generalize ((o.record tags runId test step.name Journal.outcomeStart step.details).run
          { before with
            log := before.log.push ⟨.info, "running step", tags ++ [("step", step.name)]⟩ }).run.2 =
          started at sameDouble sameRuns keptStart ⊢
        dsimp only at sameDouble sameRuns keptStart
        obtain ⟨workEnding, workCalls, workJournal, workRuns⟩ := realizes.performs.facts started
        rw [Act.on_bind, Act.on_attempt]
        generalize step.work.on started = worked at workEnding workCalls workJournal workRuns ⊢
        rcases worked with ⟨result, worked⟩
        dsimp only at workEnding workCalls workJournal workRuns ⊢
        subst workEnding
        rw [sameDouble] at workCalls ⊢
        simp only [PlannedStep.answerAll, skipped, Bool.false_eq_true, if_false]
        generalize Request.answerAll answer before.double.calls planned.requests = own at workCalls ⊢
        rcases own with ⟨ownCalls, fault | ⟨⟩⟩
        · simp only [Act.on_lift_bind, Bench.error_run, Bench.note_run, Act.on_throw_bind]
          obtain ⟨failedDouble, failedRuns, keptFailed⟩ := record_effect o tags runId test step.name
            Journal.outcomeFailed fault.message
            { worked with
              log := worked.log.push
                ⟨.error, "step failed", tags ++ [("step", step.name), ("error", fault.message)]⟩ }
          dsimp only at failedDouble failedRuns keptFailed workCalls
          refine ⟨trivial, ?_, ?_, ?_⟩
          · rw [failedDouble, workCalls]
          · rw [keptFailed, workJournal, keptStart]
            cases o.journal <;> simp [JournalSink.kept, entryEvent, realizes.name, realizes.details]
          · rw [failedRuns, workRuns, sameRuns]
        · simp only [Act.on_lift_bind]
          obtain ⟨okDouble, okRuns, keptOk⟩ :=
            record_effect o tags runId test step.name Journal.outcomeOk "" worked
          generalize ((o.record tags runId test step.name Journal.outcomeOk "").run worked).run.2 =
            recorded at okDouble okRuns keptOk ⊢
          obtain ⟨ending, issued, journal, runs⟩ := restFollows recorded
          dsimp only at workCalls
          rw [okDouble, workCalls] at ending issued journal
          refine ⟨ending, ?_, ?_, ?_⟩
          · rw [issued, List.append_assoc]
          · rw [journal, keptOk, workJournal, keptStart]
            cases o.journal <;> simp [JournalSink.kept, entryEvent, realizes.name, realizes.details]
          · rw [runs, okRuns, workRuns, sameRuns]

theorem runTest_follows_plan (config : Config) (journal : JournalSink) (runIds : RunIds)
    (answer : Answers) {inv : Invocation} (valid : inv.validate = .ok inv) (before : Bench) :
    let named := ((runIds.next).run before).run
    let outcome := PlannedStep.answerAll answer before.double.calls (plan config inv)
    let ran := ((Orchestrator.answering config journal runIds answer).runTest inv).on before
    ran.1 = outcome.ending ∧
    ran.2.double.calls = before.double.calls ++ outcome.issued ∧
    ran.2.journal.toList = before.journal.toList ++
      journal.kept (outcome.entries.map (entryEvent named.1 inv.testName)) ∧
    ran.2.runs = named.2.runs := by
  obtain ⟨namedDouble, namedJournal⟩ := runIds.next_effect before
  have answeringIds : (Orchestrator.answering config journal runIds answer).runIds = runIds := rfl
  simp only [Orchestrator.runTest, valid, Orchestrator.runTest.liftExcept, pure_bind,
    Act.on_lift_bind, answeringIds, Bench.info_run, Bench.note_run]
  generalize ((runIds.next).run before).run = named at namedDouble namedJournal ⊢
  rcases named with ⟨runId, named⟩
  dsimp only at namedDouble namedJournal ⊢
  obtain ⟨ending, calls, journalFacts, runs⟩ :=
    runSteps_follows_plan (Orchestrator.answering config journal runIds answer) answer
      [("run_id", runId), ("test", inv.testName)] runId inv.testName
      (steps_realize_plan config journal runIds answer inv [("run_id", runId), ("test", inv.testName)])
      { named with log := named.log.push ⟨.info, "starting test run",
          [("run_id", runId), ("test", inv.testName)] ++ [("image", inv.image),
            ("files", toString inv.testFiles.length), ("upgrade_from", inv.upgradeFrom)]⟩ }
  rw [Act.on_bind]
  generalize ((Orchestrator.answering config journal runIds answer).runSteps _ _ _ _).on _ = ran
    at ending calls journalFacts runs ⊢
  rcases ran with ⟨_ | ⟨⟩, after⟩ <;> simp_all [Orchestrator.answering]

/-! ### Calls and journal of a run -/

/-- Under any answers of its runtime and readiness wait, a run of a valid invocation makes the
calls of its plan: a prefix of the fixed call sequence, cut right after the first call that fails
its step, or all of it when the run passes; and it ends as the plan ends. -/
theorem runTest_issues_plan_prefix (config : Config) (journal : JournalSink) (runIds : RunIds)
    (answer : Answers) {inv : Invocation} (valid : inv.validate = .ok inv) (before : Bench) :
    let outcome := PlannedStep.answerAll answer before.double.calls (plan config inv)
    let ran := ((Orchestrator.answering config journal runIds answer).runTest inv).on before
    ran.2.double.calls = before.double.calls ++ outcome.issued ∧ ran.1 = outcome.ending ∧
    outcome.issued <+: PlannedStep.allCalls (plan config inv) ∧
    (ran.1 = .ok () → outcome.issued = PlannedStep.allCalls (plan config inv)) := by
  obtain ⟨ending, calls, -, -⟩ := runTest_follows_plan config journal runIds answer valid before
  obtain ⟨isPrefix, whenPassed⟩ :=
    PlannedStep.answerAll_prefix answer before.double.calls (plan config inv)
  exact ⟨calls, ending, isPrefix, fun passed => whenPassed (ending ▸ passed)⟩

/-- The run of `t1` whose second copy fails. -/
theorem runTest_second_copy_failure :
    ({ image := "img", testName := "t1", testFiles := ["a.py"] } : Invocation).validate =
      .ok { image := "img", testName := "t1", testFiles := ["a.py"] } ∧
    let answer : Answers := fun history _ => if history.length = 4 then some (.note "boom") else none
    let inv : Invocation := { image := "img", testName := "t1", testFiles := ["a.py"] }
    let outcome := PlannedStep.answerAll answer [] (plan Config.defaults inv)
    let ran := ((Orchestrator.answering Config.defaults (.memory fun _ => none) .counted
      answer).runTest inv).on {}
    ran.2.double.calls = [] ++ outcome.issued ∧ ran.1 = outcome.ending ∧
    outcome.issued <+: PlannedStep.allCalls (plan Config.defaults inv) ∧
    (ran.1 = .ok () → outcome.issued = PlannedStep.allCalls (plan Config.defaults inv)) :=
  ⟨rfl, runTest_issues_plan_prefix Config.defaults (.memory fun _ => none) .counted
    (fun history _ => if history.length = 4 then some (.note "boom") else none) rfl {}⟩

/-- Under any answers, a run of a valid invocation writes the journal entries of its plan, all
under the one run id it drew with a single request; and however its journal fails to write,
its calls, its entries and its ending are those of the same run with a journal that never
fails. -/
theorem runTest_journal_follows_plan (config : Config) (failure : Nat → Option Fault)
    (runIds : RunIds) (answer : Answers) {inv : Invocation} (valid : inv.validate = .ok inv)
    (before : Bench) :
    let named := ((runIds.next).run before).run
    let outcome := PlannedStep.answerAll answer before.double.calls (plan config inv)
    let ran := ((Orchestrator.answering config (.memory failure) runIds answer).runTest inv).on before
    let quiet :=
      ((Orchestrator.answering config (.memory fun _ => none) runIds answer).runTest inv).on before
    ran.2.journal.toList =
      before.journal.toList ++ outcome.entries.map (entryEvent named.1 inv.testName) ∧
    ran.2.runs = named.2.runs ∧
    quiet.1 = ran.1 ∧ quiet.2.double.calls = ran.2.double.calls ∧ quiet.2.journal = ran.2.journal := by
  obtain ⟨ending, calls, journal, runs⟩ :=
    runTest_follows_plan config (.memory failure) runIds answer valid before
  obtain ⟨quietEnding, quietCalls, quietJournal, -⟩ :=
    runTest_follows_plan config (.memory fun _ => none) runIds answer valid before
  exact ⟨journal, runs, quietEnding.trans ending.symm, quietCalls.trans calls.symm,
    Array.ext' (quietJournal.trans journal.symm)⟩

/-- The run of `t1` whose journal fails every write from the third on. -/
theorem runTest_journal_failing_from_third_write :
    ({ image := "img", testName := "t1", testFiles := ["a.py"] } : Invocation).validate =
      .ok { image := "img", testName := "t1", testFiles := ["a.py"] } ∧
    let failure : Nat → Option Fault := fun written => if 2 ≤ written then some (.note "disk full") else none
    let answer : Answers := fun _ _ => none
    let inv : Invocation := { image := "img", testName := "t1", testFiles := ["a.py"] }
    let named := ((RunIds.counted.next).run {}).run
    let outcome := PlannedStep.answerAll answer [] (plan Config.defaults inv)
    let ran := ((Orchestrator.answering Config.defaults (.memory failure) .counted answer).runTest
      inv).on {}
    let quiet := ((Orchestrator.answering Config.defaults (.memory fun _ => none) .counted
      answer).runTest inv).on {}
    ran.2.journal.toList = #[].toList ++ outcome.entries.map (entryEvent named.1 inv.testName) ∧
    ran.2.runs = named.2.runs ∧
    quiet.1 = ran.1 ∧ quiet.2.double.calls = ran.2.double.calls ∧ quiet.2.journal = ran.2.journal :=
  ⟨rfl, runTest_journal_follows_plan Config.defaults
    (fun written => if 2 ≤ written then some (.note "disk full") else none) .counted
    (fun _ _ => none) rfl {}⟩

end Testbed.TestRun
