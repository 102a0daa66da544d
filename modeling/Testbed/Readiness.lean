import Testbed.Diagnostics

/-!
# Waiting for a container to be ready

A container is ready when the liveness command `id` succeeds inside it. Waiting runs liveness
checks until one succeeds, with a fixed interval between them, and gives up once another
interval would reach the timeout. A timeout or interval that is not positive means the default:
sixty seconds and five seconds.

A failed check is logged and followed by diagnostics. A runtime that answers a check or a read
of the state with no value and no failure stops the wait there. Before the next check the wait logs the
interval and the time elapsed so far, rounded to milliseconds, and sleeps the interval. Giving
up reports how many checks ran and how long they took. A wait that is called off stops at the
failed check in which it was called off, with that as its fault.

Time is the bench's clock: a check costs the bench's check cost, a sleep its interval. The time
elapsed is the clock's advance since the start clamped to the 64-bit range, and the deadline test
adds the interval to it in 64-bit arithmetic, which wraps around. With a check cost `c ≥ 0` the
checks start at multiples of `interval + c`; while the test does not wrap, the wait gives up
after the first failed check whose multiple reaches the timeout. Once it wraps, only a passing
check ends the wait. The loop's fuel, 2^64 checks, is more than any wait that ends can use.
-/

namespace Testbed

open Container

/-- How a wait is paced. -/
structure Pacing where
  timeout : Duration
  interval : Duration
  diagnose : Bool := true
  deriving DecidableEq, Repr, Inhabited

namespace Pacing

def defaultTimeout : Duration := Duration.ofSeconds 60
def defaultInterval : Duration := Duration.ofSeconds 5

/-- The timeout in force: the given one when positive, else the default. -/
def effectiveTimeout (pacing : Pacing) : Duration :=
  if pacing.timeout.nanos ≤ 0 then defaultTimeout else pacing.timeout

/-- The interval in force: the given one when positive, else the default. -/
def effectiveInterval (pacing : Pacing) : Duration :=
  if pacing.interval.nanos ≤ 0 then defaultInterval else pacing.interval

def attemptLimit : Nat := Nat.pow 2 64

end Pacing

def livenessFault (output : Program.Output) : Fault :=
  .note ("liveness check exited with status " ++ toString output.status ++ ": " ++
    Text.trimBlanks output.stdout)

/-- One liveness check: it costs its time on the clock, may be the one in which the operation
is called off, and then asks the runtime. Its verdict is the value: a fault when the runtime
fails or the command exits non-zero. An answer that holds no output stops the wait at the first
field it reads. -/
def livenessCheck (runtime : Api) (name : String) : Act (Except Fault Unit) := do
  modify fun bench => { bench with checks := bench.checks + 1,
                                   clock := bench.clock + bench.checkCost }
  modify fun bench =>
    if bench.cancelAt != 0 && bench.checks == bench.cancelAt then { bench with canceled := true }
    else bench
  match ← (runtime.probe name).attempt with
  | .error fault => pure (.error fault)
  | .ok (some output) =>
    pure (if output.status != 0 then .error (livenessFault output) else .ok ())
  | .ok none => throw Fault.nilDereference

def gaveUp (name : String) (timeout : Duration) (attempts : Nat) (elapsed : Duration)
    (cause : Fault) : Fault :=
  Fault.notReady name timeout (some (.context ("gave up after " ++ toString attempts ++
    " attempts in " ++ (elapsed.round Duration.millisecond).render) (some cause)))

/-- The checks of a wait from attempt `attempt` on, with `fuel` checks left at most. -/
def waitFrom (runtime : Api) (name : String) (pacing : Pacing) (start : Duration) :
    (fuel : Nat) → (attempt : Nat) → Act Unit
  | 0, attempt => do
    let elapsed := ((← Bench.now) - start).saturate
    throw (gaveUp name pacing.effectiveTimeout (attempt - 1) elapsed
      (.note "no liveness check left"))
  | fuel + 1, attempt => do
    match ← livenessCheck runtime name with
    | .ok () =>
      Bench.debug "container ready" [("container", name), ("attempts", toString attempt)]
    | .error fault =>
      if ← Bench.isCanceled then throw .canceled
      Bench.debug "liveness check failed"
        [("container", name), ("attempt", toString attempt), ("error", fault.message)]
      if pacing.diagnose then Diagnostics.collect runtime name fault
      let elapsed := ((← Bench.now) - start).saturate
      if (elapsed.addWrapping pacing.effectiveInterval).nanos ≥ pacing.effectiveTimeout.nanos then
        throw (gaveUp name pacing.effectiveTimeout attempt elapsed fault)
      Bench.info "waiting for container"
        [("container", name), ("retry_in", pacing.effectiveInterval.render),
         ("elapsed", (elapsed.round Duration.millisecond).render)]
      Bench.advance pacing.effectiveInterval
      waitFrom runtime name pacing start fuel (attempt + 1)

/-- Waits until the container answers a liveness check, the timeout passes, or the operation is
called off. -/
def waitReady (runtime : Api) (name : String) (pacing : Pacing) : Act Unit := do
  let start ← Bench.now
  waitFrom runtime name pacing start Pacing.attemptLimit 1

end Testbed
