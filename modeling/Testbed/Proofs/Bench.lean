import Std.Do.WP.SimpLemmas
import Testbed.Bench

/-!
# Running steps on a bench

A step of the harness is a function of the bench. `Act.on` runs one from a given bench and
gives its result with the bench it leaves; the equations below say how a sequence, a lifted
bench operation, a thrown fault and a caught fault run, so that later proofs follow a step
through its definition without unfolding the monad.
-/

namespace Testbed

def Act.on (step : Act α) (bench : Bench) : Except Fault α × Bench := ((step.run).run bench).run

namespace Act

theorem on_bind (first : Act α) (next : α → Act β) (bench : Bench) :
    (first >>= next).on bench =
      match first.on bench with
      | (.ok value, after) => (next value).on after
      | (.error fault, after) => (.error fault, after) := by
  simp only [on, ExceptT.run_bind, StateT.run_bind, Id.run_bind]
  rcases (first.run.run bench).run with ⟨_ | _, after⟩ <;> rfl

theorem on_bind_ok {first : Act α} {bench after : Bench} {value : α}
    (ran : first.on bench = (.ok value, after)) (next : α → Act β) :
    (first >>= next).on bench = (next value).on after := by
  rw [on_bind, ran]

theorem on_bind_error {first : Act α} {bench after : Bench} {fault : Fault}
    (ran : first.on bench = (.error fault, after)) (next : α → Act β) :
    (first >>= next).on bench = (.error fault, after) := by
  rw [on_bind, ran]

@[simp] theorem on_pure (value : α) (bench : Bench) :
    (pure value : Act α).on bench = (.ok value, bench) := rfl

@[simp] theorem on_throw (fault : Fault) (bench : Bench) :
    (throw fault : Act α).on bench = (.error fault, bench) := rfl

@[simp] theorem on_lift (step : BenchM α) (bench : Bench) :
    Act.on (monadLift step : Act α) bench =
      (.ok ((step.run bench).run).1, ((step.run bench).run).2) := rfl

@[simp] theorem on_lift_bind (step : BenchM α) (next : α → Act β) (bench : Bench) :
    (monadLift step >>= next : Act β).on bench =
      (next ((step.run bench).run.1)).on ((step.run bench).run.2) := by
  rw [on_bind, on_lift]

@[simp] theorem on_throw_bind (fault : Fault) (next : α → Act β) (bench : Bench) :
    (throw fault >>= next : Act β).on bench = (.error fault, bench) := rfl

@[simp] theorem on_modify (change : Bench → Bench) (bench : Bench) :
    (modify change : Act Unit).on bench = (.ok (), change bench) := rfl

@[simp] theorem on_modifyGet (step : Bench → Except Fault α × Bench) (bench : Bench) :
    Act.on (ExceptT.mk (modifyGet step) : Act α) bench = step bench := rfl

/-- A step made only when `run` holds, then the rest: when the step ends without a fault, the
rest runs from the bench it leaves, or from the same bench when it is skipped. -/
theorem on_when_bind_ok {run : Bool} {first : Act Unit} {rest : Act α} {bench after : Bench}
    (ran : (if run = true then first else pure ()).on bench = (.ok (), after)) :
    (if run = true then (first >>= fun _ => rest) else rest).on bench = rest.on after := by
  cases run with
  | false =>
    simp only [Bool.false_eq_true, if_false, on_pure, Prod.mk.injEq, true_and] at ran
    subst ran
    rfl
  | true =>
    simp only [if_true] at ran ⊢
    exact on_bind_ok ran _

@[simp] theorem on_attempt (step : Act α) (bench : Bench) :
    step.attempt.on bench = (.ok (step.on bench).1, (step.on bench).2) := rfl

end Act

namespace Bench

@[simp] theorem note_run (level : Log.Level) (message : String) (attrs : List Log.Attr)
    (bench : Bench) :
    ((note level message attrs).run bench).run =
      ((), { bench with log := bench.log.push ⟨level, message, attrs⟩ }) := rfl

@[simp] theorem debug_run (message : String) (attrs : List Log.Attr) (bench : Bench) :
    ((debug message attrs).run bench).run = ((note .debug message attrs).run bench).run := rfl

@[simp] theorem info_run (message : String) (attrs : List Log.Attr) (bench : Bench) :
    ((info message attrs).run bench).run = ((note .info message attrs).run bench).run := rfl

@[simp] theorem warn_run (message : String) (attrs : List Log.Attr) (bench : Bench) :
    ((warn message attrs).run bench).run = ((note .warn message attrs).run bench).run := rfl

@[simp] theorem error_run (message : String) (attrs : List Log.Attr) (bench : Bench) :
    ((error message attrs).run bench).run = ((note .error message attrs).run bench).run := rfl

@[simp] theorem say_run (text : String) (bench : Bench) :
    ((say text).run bench).run = ((), { bench with stdout := bench.stdout ++ text }) := rfl

@[simp] theorem noteAll_run (records : List Log.Record) (bench : Bench) :
    ((noteAll records).run bench).run = ((), { bench with log := bench.log ++ records.toArray }) :=
  rfl

@[simp] theorem pathLookup_run_snd (bench : Bench) : (pathLookup.run bench).run.2 = bench := by
  simp only [pathLookup, StateT.run_bind, StateT.run_get, Id.run_bind]
  split <;> rfl

@[simp] theorem isCanceled_run (bench : Bench) :
    (isCanceled.run bench).run = (bench.canceled, bench) := rfl

@[simp] theorem now_run (bench : Bench) : (now.run bench).run = (⟨bench.clock⟩, bench) := rfl

@[simp] theorem advance_run (span : Duration) (bench : Bench) :
    ((advance span).run bench).run = ((), { bench with clock := bench.clock + span.nanos }) := rfl

/-- A command that cannot be started fails with the text of why, or because the bench was
called off; nothing else can stand in for its output. -/
theorem runCommand_error {command : Program.Command} {bench : Bench} {cause : Fault}
    (failed : ((runCommand command).run bench).run.1 = .error cause) :
    cause = .canceled ∨ ∃ text, cause = .note text := by
  unfold runCommand at failed
  simp only [StateT.run_bind, Id.run_bind, StateT.run_get, Id.run_pure] at failed
  generalize bench.machine = machine at failed
  cases machine with
  | scripted script =>
      simp only [StateT.run_modifyGet, Id.run_pure] at failed
      generalize (script.run command).1 = answer at failed
      cases answer <;> simp [Except.mapError] at failed
      exact .inr ⟨_, failed.symm⟩
  | host host =>
      unfold runOnHost at failed
      simp only [StateT.run_bind, Id.run_bind, StateT.run_get, Id.run_pure] at failed
      split at failed
      · simp at failed
        exact .inr ⟨_, failed.symm⟩
      split at failed
      · simp at failed
        exact .inl failed.symm
      split at failed
      · simp at failed
        exact .inr ⟨_, failed.symm⟩
      simp only [StateT.run_bind, Id.run_bind, StateT.run_pure, Id.run_pure] at failed
      cases failed

/-! ## Steps that keep the structured log -/

def KeepsLog {α : Type} (step : BenchM α) : Prop :=
  ∀ bench, ((step.run bench).run).2.log = bench.log

namespace KeepsLog

theorem of_pure {α : Type} (value : α) : KeepsLog (pure value : BenchM α) := fun _ => rfl

theorem of_get : KeepsLog (get : BenchM Bench) := fun _ => rfl

theorem of_modify {change : Bench → Bench} (keeps : ∀ bench, (change bench).log = bench.log) :
    KeepsLog (modify change : BenchM Unit) := keeps

theorem bind {α β : Type} {first : BenchM α} {next : α → BenchM β} (keepsFirst : KeepsLog first)
    (keepsNext : ∀ value, KeepsLog (next value)) : KeepsLog (first >>= next) := by
  intro bench
  simp only [StateT.run_bind, Id.run_bind]
  rw [keepsNext, keepsFirst]

theorem forIn_list {α β : Type} (items : List α) (init : β) {body : α → β → BenchM (ForInStep β)}
    (keeps : ∀ item acc, KeepsLog (body item acc)) : KeepsLog (forIn items init body) := by
  induction items generalizing init with
  | nil => exact of_pure init
  | cons item rest restKeeps =>
    rw [List.forIn_cons]
    refine bind (keeps item init) fun step => ?_
    cases step with
    | done acc => exact of_pure acc
    | yield acc => exact restKeeps acc

theorem forIn_array {α β : Type} (items : Array α) (init : β)
    {body : α → β → BenchM (ForInStep β)} (keeps : ∀ item acc, KeepsLog (body item acc)) :
    KeepsLog (forIn items init body) := by
  rw [← Array.forIn_toList]
  exact forIn_list items.toList init keeps

end KeepsLog

theorem stream_keepsLog (terminal : Terminal) (channel : Shell.Channel) (text : String) :
    KeepsLog (stream terminal channel text) := by
  unfold stream
  split <;> exact KeepsLog.of_modify fun _ => rfl

theorem runOnHost_keepsLog (host : Host) (command : Program.Command) :
    KeepsLog (runOnHost host command) := by
  unfold runOnHost
  refine KeepsLog.bind KeepsLog.of_get fun bench => ?_
  split
  · exact KeepsLog.of_pure _
  split
  · exact KeepsLog.of_pure _
  split
  · exact KeepsLog.of_pure _
  refine KeepsLog.bind (KeepsLog.of_modify fun _ => rfl) fun _ => ?_
  refine KeepsLog.bind (KeepsLog.forIn_array _ _ fun write acc => ?_) fun _ => KeepsLog.of_pure _
  obtain ⟨channel, text⟩ := write
  dsimp only
  generalize (if command.mergeStderr = true then Shell.Channel.out else channel) = routed
  cases routed with
  | out =>
    cases command.capture
    · exact KeepsLog.bind (stream_keepsLog _ _ _) fun _ => KeepsLog.of_pure _
    · exact KeepsLog.of_pure _
  | err =>
    cases command.capture
    · exact KeepsLog.bind (stream_keepsLog _ _ _) fun _ => KeepsLog.of_pure _
    · exact KeepsLog.of_pure _

theorem runCommand_keepsLog (command : Program.Command) : KeepsLog (runCommand command) := by
  unfold runCommand
  refine KeepsLog.bind KeepsLog.of_get fun bench => ?_
  split
  · intro before
    rfl
  · exact runOnHost_keepsLog _ command

end Bench

end Testbed
