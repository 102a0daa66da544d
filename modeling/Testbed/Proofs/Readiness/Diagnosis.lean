import Testbed.Proofs.Container.Answering

/-!
# What a diagnosis changes

A diagnosis only reads: it asks the runtime for the inspect document, the decoded state and the
console output, in that order, and writes what it learns to the log and the standard output.
`Diagnoses step calls ends` says that of a step: from any bench it ends without a fault, with a
value that `ends` admits, adds exactly `calls` to the call log, appends some records and some
output, and changes nothing else. None of its records announces a sleep, so a wait's sleeps can
be counted from the log whether or not it diagnoses.

A diagnosis stops only on a read of the state that gives neither a state nor a failure. The
probing runtime never answers so, and on it every diagnosis ends.
-/

namespace Testbed

open Container

def waitingNotes (records : List Log.Record) : List Log.Record :=
  records.filter (·.message == "waiting for container")

@[simp] theorem waitingNotes_append (records later : List Log.Record) :
    waitingNotes (records ++ later) = waitingNotes records ++ waitingNotes later :=
  List.filter_append ..

@[simp] theorem waitingNotes_singleton (record : Log.Record) :
    waitingNotes [record] = if record.message = "waiting for container" then [record] else [] := by
  by_cases announces : record.message = "waiting for container" <;> simp [waitingNotes, announces]

/-- An act that ends without a fault, with a value `ends` admits, adds `calls` to the double's
call log and otherwise only writes log records, none announcing a sleep, and standard output. -/
def Diagnoses (step : Act α) (calls : List Call) (ends : α → Prop) : Prop :=
  ∀ bench, ∃ value records text, ends value ∧
    step.on bench = (.ok value,
      { bench with double := { bench.double with calls := bench.double.calls ++ calls },
                   log := bench.log ++ records, stdout := bench.stdout ++ text }) ∧
    waitingNotes records.toList = []

/-- A bench step that only writes records, none announcing a sleep, and standard output. -/
def OnlyWrites (step : BenchM α) : Prop :=
  ∀ bench, ∃ records text,
    (step.run bench).run.2 = { bench with log := bench.log ++ records, stdout := bench.stdout ++ text } ∧
    waitingNotes records.toList = []

namespace Diagnoses

theorem pure (value : α) : Diagnoses (Pure.pure value : Act α) [] fun _ => True := by
  intro bench
  exact ⟨value, #[], "", trivial, by simp, rfl⟩

theorem lift {step : BenchM α} (writes : OnlyWrites step) :
    Diagnoses (monadLift step : Act α) [] fun _ => True := by
  intro bench
  obtain ⟨records, text, ran, quiet⟩ := writes bench
  refine ⟨((step.run bench).run).1, records, text, trivial, ?_, quiet⟩
  rw [Act.on_lift, ran]
  simp

theorem bind {first : Act α} {next : α → Act β} {made later calls : List Call}
    {firstEnds : α → Prop} {ends : β → Prop} (firstDiagnoses : Diagnoses first made firstEnds)
    (nextDiagnoses : ∀ value, firstEnds value → Diagnoses (next value) later ends)
    (joined : made ++ later = calls) :
    Diagnoses (first >>= next) calls ends := by
  subst joined
  intro bench
  obtain ⟨value, records, text, firstEnded, firstRan, firstQuiet⟩ := firstDiagnoses bench
  obtain ⟨result, laterRecords, laterText, ended, nextRan, nextQuiet⟩ :=
    nextDiagnoses value firstEnded _
  refine ⟨result, records ++ laterRecords, text ++ laterText, ended, ?_, ?_⟩
  · rw [Act.on_bind_ok firstRan, nextRan]
    simp [List.append_assoc, Array.append_assoc, String.append_assoc]
  · simp [waitingNotes, List.filter_append] at firstQuiet nextQuiet ⊢
    exact ⟨firstQuiet, nextQuiet⟩

/-- A read of an answering runtime records its call and gives the value it reads back, or the
failure it is answered with. -/
theorem read (reads : Answers) (made : Call) (value : γ) :
    Diagnoses (answerCall reads made >>= fun _ => Pure.pure value : Act γ).attempt [made]
      fun answered => ∀ got, answered = .ok got → got = value := by
  intro bench
  cases answered : reads bench.double.calls made with
  | some fault =>
    refine ⟨.error fault, #[], "", (fun _ failed => nomatch failed), ?_, rfl⟩
    rw [Act.on_attempt, Act.on_bind, answerCall_on, answered]
    simp
  | none =>
    refine ⟨.ok value, #[], "", fun _ got => (Except.ok.inj got).symm, ?_, rfl⟩
    rw [Act.on_attempt, Act.on_bind, answerCall_on, answered]
    simp

end Diagnoses

namespace OnlyWrites

theorem note {level : Log.Level} {message : String} (attrs : List Log.Attr)
    (quiet : message ≠ "waiting for container") : OnlyWrites (Bench.note level message attrs) := by
  intro bench
  refine ⟨#[⟨level, message, attrs⟩], "", ?_, by simp [waitingNotes, quiet]⟩
  simp only [Bench.note_run, String.append_empty]
  rfl

theorem say (text : String) : OnlyWrites (Bench.say text) := by
  intro bench
  exact ⟨#[], text, by simp, rfl⟩

theorem block (text : String) : OnlyWrites (Bench.block text) := by
  unfold Bench.block
  split
  · intro bench
    exact ⟨#[], "", by simp, rfl⟩
  · split <;> exact say _

end OnlyWrites

section Collect

variable (outcome : Nat → Except Fault Program.Output) (reads : Answers) (name : String)

theorem printLogs_diagnoses :
    Diagnoses (Diagnostics.printLogs (answeringApi reads) name).attempt [⟨"Logs", [.text name]⟩]
      fun _ => True := by
  intro bench
  obtain ⟨text, printed⟩ := printLogs_answering reads name bench
  refine ⟨(Diagnostics.printLogs (answeringApi reads) name |>.on bench).1, #[], text, trivial, ?_,
    rfl⟩
  rw [Act.on_attempt, printed]
  simp

theorem showInspect_diagnoses :
    Diagnoses (Diagnostics.showInspect (probingApi outcome reads) name)
      [⟨"Inspect", [.text name]⟩] fun _ => True := by
  unfold Diagnostics.showInspect
  refine Diagnoses.bind (Diagnoses.read reads _ "") (fun inspected _ => ?_) (List.append_nil _)
  cases inspected with
  | error fault => exact Diagnoses.lift (OnlyWrites.note _ (by decide))
  | ok raw =>
    exact Diagnoses.bind (Diagnoses.lift (OnlyWrites.say _))
      (fun _ _ => Diagnoses.lift (OnlyWrites.block raw)) rfl

theorem showState_diagnoses :
    Diagnoses (Diagnostics.showState (probingApi outcome reads) name)
      [⟨"InspectState", [.text name]⟩] fun _ => True := by
  unfold Diagnostics.showState
  refine Diagnoses.bind (Diagnoses.read reads _ (some (runningState name)))
    (fun decoded readBack => ?_) (List.append_nil _)
  rcases decoded with fault | _ | state
  · exact Diagnoses.lift (OnlyWrites.note _ (by decide))
  · exact absurd (readBack none rfl) (by simp)
  · exact Diagnoses.lift (OnlyWrites.note _ (by decide))

theorem showLogs_diagnoses :
    Diagnoses (Diagnostics.showLogs (probingApi outcome reads) name) [⟨"Logs", [.text name]⟩]
      fun _ => True := by
  unfold Diagnostics.showLogs
  refine Diagnoses.bind (printLogs_diagnoses reads name) (fun printed _ => ?_) (List.append_nil _)
  cases printed with
  | error fault => exact Diagnoses.lift (OnlyWrites.note _ (by decide))
  | ok => exact Diagnoses.pure ()

def diagnosisCalls : List Call :=
  [⟨"Inspect", [.text name]⟩, ⟨"InspectState", [.text name]⟩, ⟨"Logs", [.text name]⟩]

theorem collect_diagnoses (cause : Fault) :
    Diagnoses (Diagnostics.collect (probingApi outcome reads) name cause) (diagnosisCalls name)
      fun _ => True := by
  unfold Diagnostics.collect
  refine Diagnoses.bind (Diagnoses.lift (OnlyWrites.note _ (by decide))) (fun _ _ => ?_)
    (List.nil_append _)
  refine Diagnoses.bind (showInspect_diagnoses outcome reads name) (fun _ _ => ?_) rfl
  exact Diagnoses.bind (showState_diagnoses outcome reads name)
    (fun _ _ => showLogs_diagnoses outcome reads name) rfl

end Collect

end Testbed
