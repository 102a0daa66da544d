import Mathlib.Tactic.Ring
import Mathlib.Tactic.IntervalCases
import Testbed.Proofs.Readiness.Deadline
import Testbed.Proofs.Readiness.Round
import Testbed.Proofs.Fault

/-!
# A readiness wait checks until a pass or the deadline

A wait that is not called off makes rounds of `waitFrom` from its first check on. By induction
over the failed checks, `waitReady_after_failures` says where the wait stands before each
check. The main statement counts the checks: the wait stops at the first that passes, or gives
up after the last check that fits before the timeout, with no check starting at or after it.
The runtime is any probing runtime: each check gives a failure or an output, with any exit
status, and each read of a diagnosis gives a failure or a value, the state of the container
included, so no diagnosis stops the wait.

That count assumes that the steps of the wait stay in the 64-bit range. Past it, the deadline
test wraps around to a negative span and lets the wait go on: `waitReady_wraps_past_deadline`
shows a wait whose timeout fits two checks and that passes on its third.
-/

namespace Testbed

open Container

def failedRunCalls (name : String) (diagnose : Bool) (k : Nat) : List Call :=
  (List.replicate k (failedCheckCalls name diagnose)).flatten

def sleepNotes (name : String) (pacing : Pacing) (cost : Int) (k : Nat) : List Log.Record :=
  (List.range k).map fun (i : Nat) =>
    waitingNote name pacing
      (⟨(i : Int) * (pacing.effectiveInterval.nanos + cost) + cost⟩ : Duration).saturate

theorem failedRunCalls_succ (name : String) (diagnose : Bool) (k : Nat) :
    failedRunCalls name diagnose (k + 1) =
      failedRunCalls name diagnose k ++ failedCheckCalls name diagnose := by
  simp [failedRunCalls, List.replicate_succ']

theorem sleepNotes_succ (name : String) (pacing : Pacing) (cost : Int) (k : Nat) :
    sleepNotes name pacing cost (k + 1) = sleepNotes name pacing cost k ++
      [waitingNote name pacing
        (⟨(k : Int) * (pacing.effectiveInterval.nanos + cost) + cost⟩ : Duration).saturate] := by
  simp [sleepNotes, List.range_succ]

/-- A wait whose first `k` checks fail, each with a deadline test that lets it go on, is at its
check `k + 1`, after those checks' calls, time and notes. -/
theorem waitReady_after_failures (outcome : Nat → Except Fault Program.Output) (reads : Answers)
    (name : String) (pacing : Pacing) {before : Bench} (calm : before.cancelAt = 0)
    (live : before.canceled = false) (k : Nat) (fuelLeft : k ≤ Pacing.attemptLimit)
    (failing : ∀ i < k, ∃ fault, checkVerdict (outcome (before.checks + i + 1)) = .error fault)
    (goingOn : ∀ i < k, ((⟨i * (pacing.effectiveInterval.nanos + before.checkCost) +
      before.checkCost⟩ : Duration).saturate.addWrapping pacing.effectiveInterval).nanos <
        pacing.effectiveTimeout.nanos) :
    ∃ bench, WaitState before k (k * (pacing.effectiveInterval.nanos + before.checkCost))
        (failedRunCalls name pacing.diagnose k) (sleepNotes name pacing before.checkCost k) bench ∧
      (waitReady (probingApi outcome reads) name pacing).on before =
        (waitFrom (probingApi outcome reads) name pacing ⟨before.clock⟩ (Pacing.attemptLimit - k)
          (k + 1)).on bench := by
  induction k with
  | zero =>
      refine ⟨before, by simpa [failedRunCalls, sleepNotes] using WaitState.start before, ?_⟩
      simp [waitReady, Act.on_lift_bind]
  | succ k reached =>
      obtain ⟨bench, state, ran⟩ := reached (by omega) (fun i below => failing i (by omega))
        (fun i below => goingOn i (by omega))
      obtain ⟨fault, failed⟩ := failing k (by omega)
      obtain ⟨diagnosed, diagnosedState, failedRan⟩ :=
        waitFrom_fails outcome reads name pacing state calm live (Pacing.attemptLimit - (k + 1)) failed
      have slept := diagnosedState.sleep name pacing
        (⟨k * (pacing.effectiveInterval.nanos + before.checkCost) + before.checkCost⟩ : Duration).saturate
      have elapsedNow : (k : Int) * (pacing.effectiveInterval.nanos + before.checkCost) +
          before.checkCost + pacing.effectiveInterval.nanos =
            ((k + 1 : Nat) : Int) * (pacing.effectiveInterval.nanos + before.checkCost) := by
        push_cast
        ring
      rw [elapsedNow, ← failedRunCalls_succ, ← sleepNotes_succ] at slept
      refine ⟨_, slept, ?_⟩
      rw [ran, show Pacing.attemptLimit - k = Pacing.attemptLimit - (k + 1) + 1 by omega, failedRan,
        if_neg (by have := goingOn k (by omega); omega)]

/-- A wait whose checks before check `m` fail, with `m` among the checks that fit before the
deadline, reaches check `m` after the calls, time and notes of the failed ones. -/
theorem waitReady_reaches_check (outcome : Nat → Except Fault Program.Output) (reads : Answers)
    (name : String) (pacing : Pacing) {before : Bench} (calm : before.cancelAt = 0)
    (live : before.canceled = false) (free : 0 ≤ before.checkCost)
    (inRange : (pacing.attemptsWithin before.checkCost : Int) *
      (pacing.effectiveInterval.nanos + before.checkCost) ≤ Duration.maxNanos)
    {m : Nat} (mPos : 1 ≤ m) (mLe : m ≤ pacing.attemptsWithin before.checkCost)
    (failsBefore : ∀ j, 1 ≤ j → j < m → ¬ checkVerdict (outcome (before.checks + j)) = .ok ()) :
    ∃ bench, WaitState before (m - 1)
        ((m - 1 : Nat) * (pacing.effectiveInterval.nanos + before.checkCost))
        (failedRunCalls name pacing.diagnose (m - 1)) (sleepNotes name pacing before.checkCost (m - 1))
        bench ∧
      (waitReady (probingApi outcome reads) name pacing).on before =
        (waitFrom (probingApi outcome reads) name pacing ⟨before.clock⟩ (Pacing.attemptLimit - m + 1)
          (m - 1 + 1)).on bench := by
  have failing : ∀ i < m - 1, ∃ fault,
      checkVerdict (outcome (before.checks + i + 1)) = .error fault := fun i below =>
    checkVerdict_fails (failsBefore (i + 1) (by omega) (by omega))
  have goingOn := fun i (below : i < m - 1) => pacing.deadlineTest_lt free inRange
    (show i + 1 < pacing.attemptsWithin before.checkCost by omega)
  have withinLimit := pacing.attemptsWithin_le_attemptLimit free inRange
  obtain ⟨bench, state, ranFrom⟩ :=
    waitReady_after_failures outcome reads name pacing calm live (m - 1) (by omega) failing goingOn
  rw [show Pacing.attemptLimit - (m - 1) = Pacing.attemptLimit - m + 1 by omega] at ranFrom
  exact ⟨bench, state, ranFrom⟩

/-- The fault a wait gives up with exits with the not-ready code, and its message names the
container, the timeout, the checks made and the time they took, then the last failure. -/
theorem gaveUp_reads (name : String) (timeout : Duration) (attempts : Nat) (elapsed : Duration)
    (cause : Fault) :
    (gaveUp name timeout attempts elapsed cause).exitCode = Fault.notReadyCode ∧
    (gaveUp name timeout attempts elapsed cause).message =
      "container " ++ name ++ " hasn't started within " ++ timeout.render ++ ": gave up after " ++
        toString attempts ++ " attempts in " ++ (elapsed.round Duration.millisecond).render ++
        ": " ++ cause.message := by
  refine ⟨Fault.exitCode_coded _ _ _, ?_⟩
  simp only [gaveUp, Fault.notReady, Fault.message, String.append_assoc]
  rfl

theorem exists_first_pass (passes : Nat → Prop) {count : Nat} (positive : 1 ≤ count) :
    ∃ m, 1 ≤ m ∧ m ≤ count ∧ (∀ j, 1 ≤ j → j < m → ¬ passes j) ∧ (passes m ∨ m = count) := by
  classical
  by_cases found : ∃ j, 1 ≤ j ∧ j ≤ count ∧ passes j
  · obtain ⟨low, high, passed⟩ := Nat.find_spec found
    refine ⟨Nat.find found, low, high, fun j jLow below passedEarlier => ?_, .inl passed⟩
    exact Nat.find_min found below ⟨jLow, by omega, passedEarlier⟩
  · refine ⟨count, positive, le_rfl, fun j low high passed => found ⟨j, low, by omega, passed⟩, .inr rfl⟩

/-- With a timeout and an interval in force and a check cost of at least zero, while the checks
that fit before the deadline and their sleeps stay in the 64-bit range, a wait that is not
called off makes checks until the first that passes or until the last that fits, and no check
starts at or after the timeout. Each failed check is followed by its diagnosis and, unless it is
the last, by a note and a sleep of one interval. A wait whose checks all fail gives up after the
last that fits with a fault that exits with the not-ready code and names the container, the
timeout, how many checks it made, the time they took and the last failure. -/
theorem waitReady_checks_until_pass_or_deadline (outcome : Nat → Except Fault Program.Output)
    (reads : Answers) (name : String) (pacing : Pacing) (before : Bench)
    (calm : before.cancelAt = 0) (live : before.canceled = false) (free : 0 ≤ before.checkCost)
    (inRange : (pacing.attemptsWithin before.checkCost : Int) *
      (pacing.effectiveInterval.nanos + before.checkCost) ≤ Duration.maxNanos) :
    let count := pacing.attemptsWithin before.checkCost
    let step := pacing.effectiveInterval.nanos + before.checkCost
    let passes : Nat → Prop := fun j => checkVerdict (outcome (before.checks + j)) = .ok ()
    let ran := (waitReady (probingApi outcome reads) name pacing).on before
    ∃ m, 1 ≤ m ∧ m ≤ count ∧ ((m : Int) - 1) * step < pacing.effectiveTimeout.nanos ∧
      (∀ j, 1 ≤ j → j < m → ¬ passes j) ∧
      ran.2.checks = before.checks + m ∧
      ran.2.clock = before.clock + ((m : Int) - 1) * step + before.checkCost ∧
      waitingNotes ran.2.log.toList =
        waitingNotes before.log.toList ++ sleepNotes name pacing before.checkCost (m - 1) ∧
      (passes m → ran.1 = .ok () ∧
        ran.2.double.calls = before.double.calls ++
          failedRunCalls name pacing.diagnose (m - 1) ++ [probeCall name]) ∧
      (¬ passes m → m = count ∧
        ran.2.double.calls = before.double.calls ++ failedRunCalls name pacing.diagnose count ∧
        ∃ cause, checkVerdict (outcome (before.checks + count)) = .error cause ∧
          let elapsed : Duration := ⟨count * step - pacing.effectiveInterval.nanos⟩
          let fault := gaveUp name pacing.effectiveTimeout count elapsed cause
          ran.1 = .error fault ∧ fault.exitCode = Fault.notReadyCode ∧
          fault.message = "container " ++ name ++ " hasn't started within " ++
            pacing.effectiveTimeout.render ++ ": gave up after " ++ toString count ++
            " attempts in " ++ (elapsed.round Duration.millisecond).render ++ ": " ++
            cause.message) := by
  intro count step passes ran
  obtain ⟨countPos, -, shortOf⟩ := pacing.attemptsWithin_spec free
  have intervalPos := pacing.effectiveInterval_pos
  obtain ⟨m, mPos, mLe, failsBefore, passedOrLast⟩ := exists_first_pass passes countPos
  obtain ⟨bench, state, ranFrom⟩ :=
    waitReady_reaches_check outcome reads name pacing calm live free inRange mPos mLe failsBefore
  have atCheck : before.checks + (m - 1) + 1 = before.checks + m := by omega
  have castPred : ((m - 1 : Nat) : Int) = (m : Int) - 1 := by omega
  have stepNonneg : 0 ≤ step := by
    show 0 ≤ pacing.effectiveInterval.nanos + before.checkCost
    omega
  refine ⟨m, mPos, mLe, ?_, failsBefore, ?_⟩
  · have earlier : ((m : Int) - 1) * step ≤ ((count : Int) - 1) * step :=
      Int.mul_le_mul_of_nonneg_right (by omega) stepNonneg
    exact lt_of_le_of_lt earlier shortOf
  by_cases passed : passes m
  · obtain ⟨after, ranAfter, afterState⟩ :=
      waitFrom_passes outcome reads name pacing state calm _ (by rw [atCheck]; exact passed)
    have ranIs : ran = (.ok (), after) := ranFrom.trans ranAfter
    rw [ranIs]
    refine ⟨by rw [afterState.checks]; omega, by rw [afterState.clock, castPred]; ring,
      afterState.notes, fun _ => ⟨rfl, by rw [afterState.calls, List.append_assoc]⟩,
      fun failed => absurd passed failed⟩
  · have last : m = pacing.attemptsWithin before.checkCost := passedOrLast.resolve_left passed
    obtain ⟨cause, failed⟩ : ∃ cause,
        checkVerdict (outcome (before.checks + (m - 1) + 1)) = .error cause := by
      rw [atCheck]
      exact checkVerdict_fails passed
    obtain ⟨diagnosed, diagnosedState, failedRan⟩ :=
      waitFrom_fails outcome reads name pacing state calm live _ failed
    have givesUp := pacing.deadlineTest_last free inRange
    rw [← last] at givesUp
    rw [if_pos givesUp] at failedRan
    have ranIs : ran = _ := ranFrom.trans failedRan
    rw [ranIs]
    refine ⟨by rw [diagnosedState.checks]; omega, by rw [diagnosedState.clock, castPred]; ring,
      diagnosedState.notes, fun passedNow => absurd passedNow passed,
      fun _ => ⟨last, ?_, cause, ?_, ?_, gaveUp_reads _ _ _ _ _⟩⟩
    · rw [diagnosedState.calls, ← failedRunCalls_succ, show m - 1 + 1 = count by omega]
    · rw [atCheck, last] at failed
      exact failed
    · show Except.error (gaveUp name pacing.effectiveTimeout (m - 1 + 1)
        (⟨((m - 1 : Nat) : Int) * step + before.checkCost⟩ : Duration).saturate cause) = _
      rw [show m - 1 + 1 = count by omega, last, pacing.lastCheck_elapsed free inRange]

/-- With the default timeout and interval and free checks, a container that passes its third
check is ready. -/
theorem waitReady_default_pacing_passes_third :
    let pacing : Pacing := ⟨⟨0⟩, ⟨0⟩, true⟩
    let outcome : Nat → Except Fault Program.Output := fun n => .ok ⟨if n < 3 then 1 else 0, "", ""⟩
    let before : Bench := {}
    let ran := (waitReady (probingApi outcome fun _ _ => none) "t1" pacing).on before
    before.cancelAt = 0 ∧ before.canceled = false ∧ 0 ≤ before.checkCost ∧
      (pacing.attemptsWithin before.checkCost : Int) *
        (pacing.effectiveInterval.nanos + before.checkCost) ≤ Duration.maxNanos ∧
      ran.1 = .ok () := by
  intro pacing outcome before ran
  have twelve : pacing.attemptsWithin before.checkCost = 12 := rfl
  have interval : pacing.effectiveInterval.nanos = 5000000000 := rfl
  have inRange : (pacing.attemptsWithin before.checkCost : Int) *
      (pacing.effectiveInterval.nanos + before.checkCost) ≤ Duration.maxNanos := by
    rw [twelve, interval]
    simp [Duration.maxNanos, before]
  obtain ⟨m, mPos, mLe, -, failsBefore, checked, -, -, passing, failing⟩ :=
    waitReady_checks_until_pass_or_deadline outcome (fun _ _ => none) "t1" pacing before rfl rfl
      (by decide) inRange
  have third : checkVerdict (outcome (before.checks + 3)) = .ok () := rfl
  have early : ∀ j, 1 ≤ j → j < 3 → checkVerdict (outcome (before.checks + j)) ≠ .ok () := by
    intro j low high
    interval_cases j <;> simp [outcome, before, checkVerdict]
  have atThird : m = 3 := by
    by_contra other
    rcases Nat.lt_or_gt_of_ne other with below | above
    · have lastFits := (failing (early m mPos below)).1
      have twelve : pacing.attemptsWithin before.checkCost = 12 := by decide
      omega
    · exact failsBefore 3 (by omega) above third
  subst atThird
  exact ⟨rfl, rfl, le_rfl, inRange, (passing third).1⟩


/-- With a timeout of the largest span and an interval of 6·10¹⁸ ns, two checks fit before the
deadline, yet the test after the second wraps around, and a container that passes its third
check is ready after three checks. -/
theorem waitReady_wraps_past_deadline :
    let pacing : Pacing := ⟨⟨Duration.maxNanos⟩, ⟨6000000000000000000⟩, true⟩
    let outcome : Nat → Except Fault Program.Output :=
      fun n => .ok ⟨if n < 3 then 1 else 0, Container.probeStdout, ""⟩
    let ran := (waitReady (probingApi outcome fun _ _ => none) "t1" pacing).on {}
    pacing.attemptsWithin 0 = 2 ∧ ran.1 = .ok () ∧ ran.2.checks = 3 := by
  intro pacing outcome ran
  have two : pacing.attemptsWithin 0 = 2 := by decide
  have failing : ∀ i < 2, ∃ fault,
      checkVerdict (outcome (({} : Bench).checks + i + 1)) = .error fault := by
    intro i below
    interval_cases i
    · exact ⟨_, rfl⟩
    · exact ⟨_, rfl⟩
  have goingOn : ∀ i : Nat, i < 2 → ((⟨(i : Int) * (pacing.effectiveInterval.nanos + ({} : Bench).checkCost) +
      ({} : Bench).checkCost⟩ : Duration).saturate.addWrapping pacing.effectiveInterval).nanos <
        pacing.effectiveTimeout.nanos := by
    intro i below
    interval_cases i <;> decide
  obtain ⟨bench, state, ranFrom⟩ :=
    waitReady_after_failures outcome (fun _ _ => none) "t1" pacing rfl rfl 2 (by decide) failing
      goingOn
  rw [show Pacing.attemptLimit - 2 = Pacing.attemptLimit - 3 + 1 by decide] at ranFrom
  obtain ⟨after, ranAfter, afterState⟩ :=
    waitFrom_passes outcome (fun _ _ => none) "t1" pacing state rfl _ rfl
  have ranIs : ran = (.ok (), after) := ranFrom.trans ranAfter
  rw [ranIs]
  exact ⟨two, rfl, afterState.checks⟩

end Testbed
