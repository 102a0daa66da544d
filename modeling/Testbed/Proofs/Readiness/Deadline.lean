import Testbed.Readiness

/-!
# How many liveness checks fit before the deadline

A wait makes a check, and after each failure tests whether another interval would reach the
timeout. The elapsed time is a clamped difference of clock readings and the test adds the
interval in 64-bit arithmetic, which wraps around. With every check costing `cost`, the checks
start one step of an interval and a cost apart. While the steps stay in the 64-bit range the
test neither clamps nor wraps, and `attemptsWithin` counts the checks it lets the wait make:
the first check whose next step would reach the timeout is the last.
-/

namespace Testbed

namespace Duration

theorem saturate_of_inRange {d : Duration} (low : minNanos ≤ d.nanos) (high : d.nanos ≤ maxNanos) :
    d.saturate = d := by
  simp only [saturate]
  congr 1
  omega

theorem addWrapping_nanos_of_inRange {a b : Duration} (low : minNanos ≤ a.nanos + b.nanos)
    (high : a.nanos + b.nanos ≤ maxNanos) : (a.addWrapping b).nanos = a.nanos + b.nanos := by
  simp only [addWrapping, minNanos, maxNanos, Nat.pow_eq, Nat.reducePow] at low high ⊢
  omega

end Duration

namespace Pacing

theorem effectiveTimeout_pos (pacing : Pacing) : 0 < pacing.effectiveTimeout.nanos := by
  unfold effectiveTimeout
  split
  · simp [defaultTimeout, Duration.ofSeconds]
  · omega

theorem effectiveInterval_pos (pacing : Pacing) : 0 < pacing.effectiveInterval.nanos := by
  unfold effectiveInterval
  split
  · simp [defaultInterval, Duration.ofSeconds]
  · omega

/-- How many checks fit before the deadline when each check costs `cost`: the timeout over one
step of an interval and a cost, rounded up. -/
def attemptsWithin (pacing : Pacing) (cost : Int) : Nat :=
  ((pacing.effectiveTimeout.nanos + (pacing.effectiveInterval.nanos + cost) - 1) /
    (pacing.effectiveInterval.nanos + cost)).toNat

/-- The checks that fit before the deadline are at least one; the last of them reaches the
timeout and the one before does not. -/
theorem attemptsWithin_spec (pacing : Pacing) {cost : Int} (free : 0 ≤ cost) :
    1 ≤ pacing.attemptsWithin cost ∧
    pacing.effectiveTimeout.nanos ≤
      pacing.attemptsWithin cost * (pacing.effectiveInterval.nanos + cost) ∧
    ((pacing.attemptsWithin cost : Int) - 1) * (pacing.effectiveInterval.nanos + cost) <
      pacing.effectiveTimeout.nanos := by
  have timeoutPos := pacing.effectiveTimeout_pos
  have stepPos : 0 < pacing.effectiveInterval.nanos + cost := by
    have := pacing.effectiveInterval_pos
    omega
  unfold attemptsWithin
  generalize pacing.effectiveTimeout.nanos = timeout at timeoutPos ⊢
  generalize pacing.effectiveInterval.nanos + cost = step at stepPos ⊢
  have divided := Int.emod_add_mul_ediv (timeout + step - 1) step
  have remainderLow := Int.emod_nonneg (timeout + step - 1) (by omega : step ≠ 0)
  have remainderHigh := Int.emod_lt_of_pos (timeout + step - 1) stepPos
  have quotientPos : 1 ≤ (timeout + step - 1) / step :=
    Int.le_ediv_of_mul_le stepPos (by omega)
  rw [Int.toNat_of_nonneg (by omega)]
  generalize (timeout + step - 1) / step = quotient at divided quotientPos ⊢
  generalize (timeout + step - 1) % step = remainder at divided remainderLow remainderHigh
  rw [Int.sub_mul, Int.one_mul, Int.mul_comm quotient step]
  refine ⟨by omega, by omega, by omega⟩

/-- While the checks so far and one more sleep stay in the 64-bit range, the deadline test after
check `i + 1` neither clamps nor wraps: it compares `i + 1` whole steps with the timeout. -/
theorem deadlineTest_eq (pacing : Pacing) {cost : Int} (free : 0 ≤ cost) {i : Nat}
    (inRange : ((i : Int) + 1) * (pacing.effectiveInterval.nanos + cost) ≤ Duration.maxNanos) :
    ((⟨(i : Int) * (pacing.effectiveInterval.nanos + cost) + cost⟩ : Duration).saturate.addWrapping
        pacing.effectiveInterval).nanos = ((i : Int) + 1) * (pacing.effectiveInterval.nanos + cost) := by
  have intervalPos := pacing.effectiveInterval_pos
  have stepsDone : 0 ≤ (i : Int) * (pacing.effectiveInterval.nanos + cost) :=
    Int.mul_nonneg (Int.natCast_nonneg i) (by omega)
  have low : Duration.minNanos < 0 := by simp [Duration.minNanos]
  rw [Int.add_mul, Int.one_mul] at inRange ⊢
  rw [Duration.saturate_of_inRange (by simp only; omega) (by simp only; omega),
    Duration.addWrapping_nanos_of_inRange (by simp only; omega) (by simp only; omega)]
  simp only
  omega

theorem deadlineTest_lt (pacing : Pacing) {cost : Int} (free : 0 ≤ cost)
    (inRange : (pacing.attemptsWithin cost : Int) * (pacing.effectiveInterval.nanos + cost) ≤
      Duration.maxNanos) {i : Nat} (early : i + 1 < pacing.attemptsWithin cost) :
    ((⟨(i : Int) * (pacing.effectiveInterval.nanos + cost) + cost⟩ : Duration).saturate.addWrapping
        pacing.effectiveInterval).nanos < pacing.effectiveTimeout.nanos := by
  obtain ⟨-, -, shortOf⟩ := pacing.attemptsWithin_spec free
  have stepPos : 0 ≤ pacing.effectiveInterval.nanos + cost := by
    have := pacing.effectiveInterval_pos
    omega
  have earlier : ((i : Int) + 1) * (pacing.effectiveInterval.nanos + cost) ≤
      ((pacing.attemptsWithin cost : Int) - 1) * (pacing.effectiveInterval.nanos + cost) :=
    Int.mul_le_mul_of_nonneg_right (by omega) stepPos
  have fits : ((i : Int) + 1) * (pacing.effectiveInterval.nanos + cost) ≤
      (pacing.attemptsWithin cost : Int) * (pacing.effectiveInterval.nanos + cost) :=
    Int.mul_le_mul_of_nonneg_right (by omega) stepPos
  rw [pacing.deadlineTest_eq free (by omega)]
  omega

theorem deadlineTest_last (pacing : Pacing) {cost : Int} (free : 0 ≤ cost)
    (inRange : (pacing.attemptsWithin cost : Int) * (pacing.effectiveInterval.nanos + cost) ≤
      Duration.maxNanos) :
    pacing.effectiveTimeout.nanos ≤
      ((⟨((pacing.attemptsWithin cost - 1 : Nat) : Int) * (pacing.effectiveInterval.nanos + cost) +
        cost⟩ : Duration).saturate.addWrapping pacing.effectiveInterval).nanos := by
  obtain ⟨countPos, reaches, -⟩ := pacing.attemptsWithin_spec free
  have lastIsCount : ((pacing.attemptsWithin cost - 1 : Nat) : Int) + 1 = pacing.attemptsWithin cost := by
    omega
  rw [pacing.deadlineTest_eq free (by rw [lastIsCount]; exact inRange), lastIsCount]
  exact reaches

/-- The time a wait reports when it gives up after the last check that fits: every step up to
that check, short of the sleep that would follow it. -/
theorem lastCheck_elapsed (pacing : Pacing) {cost : Int} (free : 0 ≤ cost)
    (inRange : (pacing.attemptsWithin cost : Int) * (pacing.effectiveInterval.nanos + cost) ≤
      Duration.maxNanos) :
    (⟨((pacing.attemptsWithin cost - 1 : Nat) : Int) * (pacing.effectiveInterval.nanos + cost) +
        cost⟩ : Duration).saturate =
      ⟨pacing.attemptsWithin cost * (pacing.effectiveInterval.nanos + cost) -
        pacing.effectiveInterval.nanos⟩ := by
  obtain ⟨countPos, -, -⟩ := pacing.attemptsWithin_spec free
  have intervalPos := pacing.effectiveInterval_pos
  have stepsBefore : 0 ≤ ((pacing.attemptsWithin cost - 1 : Nat) : Int) *
      (pacing.effectiveInterval.nanos + cost) :=
    Int.mul_nonneg (Int.natCast_nonneg _) (by omega)
  have castPred : ((pacing.attemptsWithin cost - 1 : Nat) : Int) =
      (pacing.attemptsWithin cost : Int) - 1 := by
    omega
  have lastSteps : ((pacing.attemptsWithin cost - 1 : Nat) : Int) *
      (pacing.effectiveInterval.nanos + cost) + (pacing.effectiveInterval.nanos + cost) =
        pacing.attemptsWithin cost * (pacing.effectiveInterval.nanos + cost) := by
    rw [castPred, Int.sub_mul, Int.one_mul]
    omega
  have low : Duration.minNanos < 0 := by simp [Duration.minNanos]
  rw [Duration.saturate_of_inRange (by simp only; omega) (by simp only; omega)]
  simp only [Duration.mk.injEq]
  omega

theorem attemptsWithin_le_attemptLimit (pacing : Pacing) {cost : Int} (free : 0 ≤ cost)
    (inRange : (pacing.attemptsWithin cost : Int) * (pacing.effectiveInterval.nanos + cost) ≤
      Duration.maxNanos) :
    pacing.attemptsWithin cost ≤ attemptLimit := by
  have stepPos : 1 ≤ pacing.effectiveInterval.nanos + cost := by
    have := pacing.effectiveInterval_pos
    omega
  have atLeastCount : (pacing.attemptsWithin cost : Int) * 1 ≤
      (pacing.attemptsWithin cost : Int) * (pacing.effectiveInterval.nanos + cost) :=
    Int.mul_le_mul_of_nonneg_left stepPos (Int.natCast_nonneg _)
  simp only [attemptLimit, Duration.maxNanos, Nat.pow_eq, Nat.reducePow] at inRange ⊢
  omega

end Pacing

end Testbed
