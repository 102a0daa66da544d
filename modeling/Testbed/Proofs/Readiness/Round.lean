import Testbed.Proofs.Readiness.Diagnosis
import Testbed.Readiness

/-!
# One check of a readiness wait

A wait against a probing runtime makes one check per round. A passing check ends the wait; a
failed one is diagnosed when the wait diagnoses, and then the wait either gives up or
announces a sleep, sleeps one interval and checks again. `WaitState` records what a wait has
done since it started, as far as later rounds and the claims about the wait read it: checks
made, time spent, calls made and sleeps announced. `waitFrom_passes` and `waitFrom_fails` say
what one round adds to it.
-/

namespace Testbed

open Container

def checkVerdict : Except Fault Program.Output → Except Fault Unit
  | .ok output => if output.status = 0 then .ok () else .error (livenessFault output)
  | .error fault => .error fault

/-- A liveness check against a probing runtime, on a bench with no call-off planned, counts,
costs its time, records its probe and gives the verdict the runtime's outcome for it says. -/
theorem livenessCheck_probing (outcome : Nat → Except Fault Program.Output) (reads : Answers)
    (name : String) (bench : Bench) (calm : bench.cancelAt = 0) :
    (livenessCheck (probingApi outcome reads) name).on bench =
      (.ok (checkVerdict (outcome (bench.checks + 1))),
       { bench with checks := bench.checks + 1, clock := bench.clock + bench.checkCost,
                    double := { bench.double with
                      calls := bench.double.calls ++ [⟨"Probe", [.text name]⟩] } }) := by
  simp only [livenessCheck, probingApi, Act.on_bind, Act.on_modify, Act.on_attempt,
    Act.on_modifyGet, calm, bne_self_eq_false, Bool.false_and, Bool.false_eq_true, if_false,
    Double.record]
  cases outcome (bench.checks + 1) with
  | error fault => rfl
  | ok output =>
      by_cases passed : output.status = 0 <;> simp [checkVerdict, passed, Except.map]

theorem checkVerdict_fails {result : Except Fault Program.Output}
    (notPassed : ¬ checkVerdict result = .ok ()) : ∃ fault, checkVerdict result = .error fault := by
  cases verdict : checkVerdict result with
  | error fault => exact ⟨fault, rfl⟩
  | ok => exact absurd verdict notPassed

def probeCall (name : String) : Call := ⟨"Probe", [.text name]⟩

/-- The calls of a failed check: the liveness probe, then the diagnosis when the wait
diagnoses. -/
def failedCheckCalls (name : String) (diagnose : Bool) : List Call :=
  probeCall name :: if diagnose then diagnosisCalls name else []

def waitingNote (name : String) (pacing : Pacing) (elapsed : Duration) : Log.Record :=
  ⟨.info, "waiting for container",
   [("container", name), ("retry_in", pacing.effectiveInterval.render),
    ("elapsed", (elapsed.round Duration.millisecond).render)]⟩

/-- The bench of a wait that started at `before` once it has made `checks` checks, spent
`elapsed` on the clock, made `calls` and logged `notes` before its sleeps; nothing else that
the wait reads has changed. -/
structure WaitState (before : Bench) (checks : Nat) (elapsed : Int) (calls : List Call)
    (notes : List Log.Record) (bench : Bench) : Prop where
  checks : bench.checks = before.checks + checks
  clock : bench.clock = before.clock + elapsed
  calls : bench.double.calls = before.double.calls ++ calls
  notes : waitingNotes bench.log.toList = waitingNotes before.log.toList ++ notes
  checkCost : bench.checkCost = before.checkCost
  cancelAt : bench.cancelAt = before.cancelAt
  canceled : bench.canceled = before.canceled

namespace WaitState

variable {before bench : Bench} {k : Nat} {elapsed : Int} {calls : List Call}
  {notes : List Log.Record}

theorem start (before : Bench) : WaitState before 0 0 [] [] before := by
  constructor <;> simp

theorem check (state : WaitState before k elapsed calls notes bench) (name : String) :
    WaitState before (k + 1) (elapsed + before.checkCost) (calls ++ [probeCall name]) notes
      { bench with checks := bench.checks + 1, clock := bench.clock + bench.checkCost,
                   double := { bench.double with
                     calls := bench.double.calls ++ [⟨"Probe", [.text name]⟩] } } := by
  obtain ⟨checks, clock, madeCalls, notesSoFar, checkCost, cancelAt, canceled⟩ := state
  constructor <;> simp [checks, clock, madeCalls, notesSoFar, checkCost, cancelAt, canceled,
    probeCall] <;> omega

theorem note (state : WaitState before k elapsed calls notes bench) (level : Log.Level)
    (message : String) (attrs : List Log.Attr) (quiet : message ≠ "waiting for container") :
    WaitState before k elapsed calls notes
      { bench with log := bench.log.push ⟨level, message, attrs⟩ } := by
  obtain ⟨checks, clock, madeCalls, notesSoFar, checkCost, cancelAt, canceled⟩ := state
  constructor <;> simp [checks, clock, madeCalls, notesSoFar, checkCost, cancelAt, canceled, quiet]

theorem diagnoses (state : WaitState before k elapsed calls notes bench) {step : Act Unit}
    {made : List Call} {ends : Unit → Prop} (diagnosing : Diagnoses step made ends) :
    ∃ after, step.on bench = (.ok (), after) ∧
      WaitState before k elapsed (calls ++ made) notes after := by
  obtain ⟨_, records, text, -, ran, quiet⟩ := diagnosing bench
  obtain ⟨checks, clock, madeCalls, notesSoFar, checkCost, cancelAt, canceled⟩ := state
  refine ⟨_, ran, ?_⟩
  constructor <;> simp [checks, clock, madeCalls, notesSoFar, checkCost, cancelAt, canceled, quiet]

theorem canceledAt (state : WaitState before k elapsed calls notes bench)
    (live : before.canceled = false) : (bench.canceled = true) = False := by
  simp [state.canceled, live]

theorem since (state : WaitState before k elapsed calls notes bench) :
    (⟨bench.clock⟩ : Duration) - ⟨before.clock⟩ = ⟨elapsed⟩ := by
  show Duration.mk (bench.clock - before.clock) = Duration.mk elapsed
  rw [state.clock]
  congr 1
  omega

theorem sleep (state : WaitState before k elapsed calls notes bench) (name : String)
    (pacing : Pacing) (since : Duration) :
    WaitState before k (elapsed + pacing.effectiveInterval.nanos) calls
      (notes ++ [waitingNote name pacing since])
      { bench with log := bench.log.push (waitingNote name pacing since),
                   clock := bench.clock + pacing.effectiveInterval.nanos } := by
  obtain ⟨checks, clock, madeCalls, notesSoFar, checkCost, cancelAt, canceled⟩ := state
  constructor <;> simp [checks, clock, madeCalls, notesSoFar, checkCost, cancelAt, canceled,
    waitingNote]
  omega

end WaitState

section Step

variable (outcome : Nat → Except Fault Program.Output) (reads : Answers) (name : String)
  (pacing : Pacing) {before bench : Bench} {k : Nat} {elapsed : Int} {calls : List Call}
  {notes : List Log.Record}

theorem waitFrom_passes (state : WaitState before k elapsed calls notes bench)
    (calm : before.cancelAt = 0) (fuel : Nat)
    (passed : checkVerdict (outcome (before.checks + k + 1)) = .ok ()) :
    ∃ after, (waitFrom (probingApi outcome reads) name pacing ⟨before.clock⟩ (fuel + 1) (k + 1)).on
        bench = (.ok (), after) ∧
      WaitState before (k + 1) (elapsed + before.checkCost) (calls ++ [probeCall name]) notes after := by
  rw [waitFrom]
  simp only [Act.on_bind,
    livenessCheck_probing outcome reads name bench (state.cancelAt.trans calm), state.checks, passed]
  simp only [Act.on_lift, Bench.debug_run, Bench.note_run]
  refine ⟨_, rfl, ?_⟩
  have checked := state.check name
  rw [state.checks] at checked
  exact checked.note _ _ _ (by decide)

/-- A failed check is followed by its diagnosis; then the wait gives up if another interval
would reach the timeout in 64-bit arithmetic, or announces a sleep, sleeps and checks again. -/
theorem waitFrom_fails (state : WaitState before k elapsed calls notes bench)
    (calm : before.cancelAt = 0) (live : before.canceled = false) (fuel : Nat) {fault : Fault}
    (failed : checkVerdict (outcome (before.checks + k + 1)) = .error fault) :
    let since := (⟨elapsed + before.checkCost⟩ : Duration).saturate
    ∃ diagnosed, WaitState before (k + 1) (elapsed + before.checkCost)
        (calls ++ failedCheckCalls name pacing.diagnose) notes diagnosed ∧
      (waitFrom (probingApi outcome reads) name pacing ⟨before.clock⟩ (fuel + 1) (k + 1)).on bench =
        if pacing.effectiveTimeout.nanos ≤ (since.addWrapping pacing.effectiveInterval).nanos then
          (.error (gaveUp name pacing.effectiveTimeout (k + 1) since fault), diagnosed)
        else
          (waitFrom (probingApi outcome reads) name pacing ⟨before.clock⟩ fuel (k + 2)).on
            { diagnosed with log := diagnosed.log.push (waitingNote name pacing since),
                             clock := diagnosed.clock + pacing.effectiveInterval.nanos } := by
  intro since
  rw [waitFrom]
  simp only [Act.on_bind,
    livenessCheck_probing outcome reads name bench (state.cancelAt.trans calm), state.checks, failed,
    Act.on_lift, Bench.isCanceled_run, state.canceledAt live, if_false, Bench.debug_run,
    Bench.note_run]
  have checked := (state.check name).note .debug "liveness check failed"
    [("container", name), ("attempt", toString (k + 1)), ("error", fault.message)] (by decide)
  rw [state.checks] at checked
  have diagnosing : Diagnoses
      (if pacing.diagnose then Diagnostics.collect (probingApi outcome reads) name fault else pure ())
      (if pacing.diagnose then diagnosisCalls name else []) fun _ => True := by
    cases pacing.diagnose
    · exact Diagnoses.pure ()
    · exact collect_diagnoses outcome reads name fault
  obtain ⟨diagnosed, diagnosedRan, diagnosedState⟩ := checked.diagnoses diagnosing
  rw [List.append_assoc, show [probeCall name] ++ (if pacing.diagnose then diagnosisCalls name else [])
    = failedCheckCalls name pacing.diagnose from rfl] at diagnosedState
  refine ⟨_, diagnosedState, ?_⟩
  rw [Act.on_when_bind_ok diagnosedRan]
  simp only [Act.on_lift_bind, Bench.now_run, diagnosedState.since, ge_iff_le]
  split <;> simp [Bench.info_run, Bench.note_run, Bench.advance_run, waitingNote, since]

end Step

end Testbed
