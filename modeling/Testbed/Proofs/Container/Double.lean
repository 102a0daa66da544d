import Testbed.Container.Double

/-!
# The engine double over any sequence of requests

The double answers the nine requests of a runtime from its own small state. Over any sequence
of requests, from any initial state:

* every request is recorded with its arguments, whether it fails or not, and nothing else is
  ever recorded;
* the planned failures are never changed;
* whether a container exists is decided by the last start or stop of its name that no planned
  failure replaced, and by the initial state when there is none: no other request touches the
  containers;
* a planned failure of a request's method, even an empty one, is the answer, and the request
  then only records its call;
* the `k`-th liveness check reports the `k`-th exit code of the queue, the last one repeating,
  and 0 for an empty queue.
-/

namespace Testbed.Container

namespace Double

/-- A request to a runtime: one of its nine methods with its arguments. -/
inductive Request where
  | buildImage (options : BuildOptions)
  | run (options : RunOptions)
  | stop (name : String)
  | exec (name command : String)
  | copy (name source dest : String)
  | logs (name : String)
  | inspect (name : String)
  | inspectState (name : String)
  | probe (name : String)
  deriving DecidableEq, Repr

/-- What the double answers: the failure of a request that gives nothing back, or the value or
failure of one that does. -/
inductive Answer where
  | done (failure : Option Fault)
  | text (result : Except Fault String)
  | state (result : Except Fault (Option State))
  | probed (result : Except Fault (Option Program.Output))

/-- A planned failure as a result: the failure when there is one, else the empty value. -/
def failureOr {α : Type} (failure : Option Fault) (empty : α) : Except Fault α :=
  match failure with
  | some fault => .error fault
  | none => .ok empty

namespace Request

/-- The call a request records: its method's name and its arguments. -/
def call : Request → Call
  | buildImage options => ⟨"BuildImage", [.build options]⟩
  | run options => ⟨"Run", [.run options]⟩
  | stop name => ⟨"Stop", [.text name]⟩
  | exec name command => ⟨"Exec", [.text name, .text command]⟩
  | copy name source dest => ⟨"Copy", [.text name, .text source, .text dest]⟩
  | logs name => ⟨"Logs", [.text name]⟩
  | inspect name => ⟨"Inspect", [.text name]⟩
  | inspectState name => ⟨"InspectState", [.text name]⟩
  | probe name => ⟨"Probe", [.text name]⟩

/-- The answer of a request whose method has `failure` planned: the failure in place of the
request's value, and an empty text or no result where the planned failure is empty. -/
def failedWith (request : Request) (failure : Option Fault) : Answer :=
  match request with
  | logs _ | inspect _ => .text (failureOr failure "")
  | inspectState _ => .state (failureOr failure none)
  | probe _ => .probed (failureOr failure none)
  | _ => .done failure

/-- What a request settles about the container `name` under the planned failures `planned`: a
start of that name creates it and a stop removes it, unless a failure of the method is planned;
every other request settles nothing. -/
def settles (planned : String → Option (Option Fault)) (name : String) : Request → Option Bool
  | run options => if planned "Run" = none ∧ options.name = name then some true else none
  | stop stopped => if planned "Stop" = none ∧ stopped = name then some false else none
  | _ => none

def isProbe : Request → Bool
  | probe _ => true
  | _ => false

theorem isProbe_iff (request : Request) : request.isProbe = true ↔ ∃ name, request = probe name := by
  cases request <;> simp [isProbe]

end Request

/-- Answers a request. -/
def serve (double : Double) : Request → Answer × Double
  | .buildImage options => Prod.map .done id (double.buildImage options)
  | .run options => Prod.map .done id (double.run options)
  | .stop name => Prod.map .done id (double.stop name)
  | .exec name command => Prod.map .done id (double.exec name command)
  | .copy name source dest => Prod.map .done id (double.copy name source dest)
  | .logs name => Prod.map .text id (double.logs name)
  | .inspect name => Prod.map .text id (double.inspect name)
  | .inspectState name => Prod.map .state id (double.inspectState name)
  | .probe name => Prod.map .probed id (double.probe name)

/-- Answers requests one after the other: the answers in order, and the double after the last. -/
def serveAll (double : Double) : List Request → List Answer × Double
  | [] => ([], double)
  | request :: rest =>
    let (answer, next) := double.serve request
    let (answers, last) := next.serveAll rest
    (answer :: answers, last)

/-- The exit code the `k`-th liveness check reports from the queue `codes`, counting from 1: the
`k`-th code, the last one repeating, and 0 for an empty queue. -/
def probeCodeAt (codes : List Int) (k : Nat) : Int := codes.getD (min k codes.length - 1) 0

/-! ## One request -/

section Step

variable (double : Double)

@[simp] theorem serveAll_nil : double.serveAll [] = ([], double) := rfl

@[simp] theorem serveAll_cons (request : Request) (rest : List Request) :
    double.serveAll (request :: rest) =
      ((double.serve request).1 :: ((double.serve request).2.serveAll rest).1,
       ((double.serve request).2.serveAll rest).2) := rfl

section Record

variable (method : String) (args : List CallArg)

@[simp] theorem planned_record : (double.record method args).planned = double.planned := rfl
@[simp] theorem hasContainer_record :
    (double.record method args).hasContainer = double.hasContainer := rfl
@[simp] theorem containers_record : (double.record method args).containers = double.containers :=
  rfl
@[simp] theorem probeCodes_record : (double.record method args).probeCodes = double.probeCodes :=
  rfl
@[simp] theorem execFailures_record :
    (double.record method args).execFailures = double.execFailures := rfl

end Record

theorem addContainer_eq (name : String) :
    double.addContainer name = { double with containers :=
      if name ∈ double.containers then double.containers else double.containers ++ [name] } := by
  unfold addContainer
  split <;> simp_all

/-- A liveness check takes the head of the queue, 0 when it is empty, and drops it only when
another code stands behind it. -/
theorem nextProbeCode_eq :
    double.nextProbeCode = (double.probeCodes.headD 0,
      { double with probeCodes :=
          if 2 ≤ double.probeCodes.length then double.probeCodes.tail else double.probeCodes }) := by
  obtain ⟨containers, failures, execFailures, codes, logsText, inspectText, calls⟩ := double
  match codes with
  | [] => rfl
  | [_] => rfl
  | _ :: _ :: _ => simp [nextProbeCode]

/-- A request adds its own call to the call log, and changes nothing but the call log, the
containers and the queue of exit codes. -/
theorem serve_shape (request : Request) :
    ∃ containers probeCodes, (double.serve request).2 =
      { double with calls := double.calls ++ [request.call], containers, probeCodes } := by
  cases request with
  | run options =>
    simp only [serve, Double.run, planned_record]
    split
    · exact ⟨_, _, rfl⟩
    · rw [addContainer_eq]
      exact ⟨_, _, rfl⟩
  | stop name =>
    simp only [serve, Double.stop, planned_record]
    split <;> exact ⟨_, _, rfl⟩
  | exec name command =>
    simp only [serve, Double.exec, planned_record]
    split
    · exact ⟨_, _, rfl⟩
    · split <;> exact ⟨_, _, rfl⟩
  | probe name =>
    simp only [serve, Double.probe, planned_record]
    split
    · exact ⟨_, _, rfl⟩
    · exact ⟨_, _, rfl⟩
    · rw [nextProbeCode_eq]
      exact ⟨_, _, rfl⟩
  | logs name | inspect name =>
    simp only [serve, Double.logs, Double.inspect, readText, planned_record]
    split <;> exact ⟨_, _, rfl⟩
  | inspectState name =>
    simp only [serve, Double.inspectState, planned_record]
    split <;> exact ⟨_, _, rfl⟩
  | buildImage options | copy name source dest => exact ⟨_, _, rfl⟩

@[simp] theorem serve_calls (request : Request) :
    (double.serve request).2.calls = double.calls ++ [request.call] := by
  obtain ⟨containers, probeCodes, shaped⟩ := double.serve_shape request
  rw [shaped]

@[simp] theorem serve_planned (request : Request) :
    (double.serve request).2.planned = double.planned := by
  obtain ⟨containers, probeCodes, shaped⟩ := double.serve_shape request
  rw [shaped]
  rfl

@[simp] theorem serve_failures (request : Request) :
    (double.serve request).2.failures = double.failures := by
  obtain ⟨containers, probeCodes, shaped⟩ := double.serve_shape request
  rw [shaped]

@[simp] theorem serve_execFailures (request : Request) :
    (double.serve request).2.execFailures = double.execFailures := by
  obtain ⟨containers, probeCodes, shaped⟩ := double.serve_shape request
  rw [shaped]

/-- A planned failure of the request's method, even an empty one, is the answer, and the
request then only records its call. -/
theorem serve_of_planned (request : Request) {failure : Option Fault}
    (planned : double.planned request.call.method = some failure) :
    double.serve request =
      (request.failedWith failure, { double with calls := double.calls ++ [request.call] }) := by
  cases request <;> cases failure <;>
    simp_all only [Request.call, serve, Double.buildImage, Double.run, Double.stop, Double.exec,
      Double.copy, Double.logs, Double.inspect, readText, Double.inspectState, Double.probe,
      planned_record] <;>
    rfl

theorem serve_containers_of_settles (request : Request)
    (settlesNothing : ∀ planned name, request.settles planned name = none) :
    (double.serve request).2.containers = double.containers := by
  cases request with
  | run options => simpa [Request.settles] using settlesNothing (fun _ => none) options.name
  | stop name => simpa [Request.settles] using settlesNothing (fun _ => none) name
  | exec name command =>
    simp only [serve, Double.exec, planned_record]
    split
    · rfl
    · split <;> rfl
  | probe name =>
    simp only [serve, Double.probe, planned_record]
    split
    · rfl
    · rfl
    · rw [nextProbeCode_eq]
      rfl
  | logs name | inspect name =>
    simp only [serve, Double.logs, Double.inspect, readText, planned_record]
    split <;> rfl
  | inspectState name =>
    simp only [serve, Double.inspectState, planned_record]
    split <;> rfl
  | buildImage options | copy name source dest => rfl

/-- Whether a container exists after a request: what the request settles about its name, else
what held before. -/
theorem serve_hasContainer (request : Request) (name : String) :
    (double.serve request).2.hasContainer name =
      (request.settles double.planned name).getD (double.hasContainer name) := by
  cases request with
  | run options =>
    cases planned : double.planned "Run" with
    | some failure =>
      rw [double.serve_of_planned (.run options) planned]
      simp [Request.settles, planned, hasContainer]
    | none =>
      simp only [serve, Double.run, planned_record, planned, Prod.map, id, addContainer_eq,
        Request.settles, true_and, hasContainer]
      by_cases same : options.name = name
      · subst same
        split <;> simp_all
      · split <;> simp [Ne.symm same]
  | stop stopped =>
    cases planned : double.planned "Stop" with
    | some failure =>
      rw [double.serve_of_planned (.stop stopped) planned]
      simp [Request.settles, planned, hasContainer]
    | none =>
      simp only [serve, Double.stop, planned_record, planned, Prod.map, id, Request.settles,
        true_and, hasContainer]
      by_cases same : stopped = name
      · subst same
        simp
      · simp [same, Ne.symm same]
  | exec | probe | logs | inspect | inspectState | buildImage | copy =>
    rw [hasContainer, double.serve_containers_of_settles _ fun _ _ => rfl]
    rfl

theorem serve_run_fst (options : RunOptions) (unplanned : double.planned "Run" = none) :
    (double.serve (.run options)).1 = .done none := by
  simp [serve, Double.run, unplanned]

theorem serve_stop_fst (name : String) (unplanned : double.planned "Stop" = none) :
    (double.serve (.stop name)).1 = .done none := by
  simp [serve, Double.stop, unplanned]

theorem serve_buildImage_fst (options : BuildOptions) :
    (double.serve (.buildImage options)).1 = .done (double.planned "BuildImage").join := rfl

theorem serve_copy_fst (name source dest : String) :
    (double.serve (.copy name source dest)).1 = .done (double.planned "Copy").join := rfl

/-- With no failure planned for shell commands, a command fails with the failure planned for a
text it contains, and passes when it contains none of them. -/
theorem serve_exec_fst (name command : String) (unplanned : double.planned "Exec" = none) :
    (∃ part failure, (part, failure) ∈ double.execFailures ∧ Text.includes command part = true ∧
        (double.serve (.exec name command)).1 = .done failure) ∨
      ((∀ entry ∈ double.execFailures, Text.includes command entry.1 = false) ∧
        (double.serve (.exec name command)).1 = .done none) := by
  simp only [serve, Double.exec, planned_record, unplanned, execFailures_record]
  split
  · next part failure found =>
    left
    have member := List.mem_of_find?_eq_some found
    have contains := List.find?_some found
    exact ⟨part, failure, member, contains, rfl⟩
  · next found =>
    right
    refine ⟨fun entry member => ?_, rfl⟩
    simpa using List.find?_eq_none.1 found entry member

/-- With no failure planned, the console output and the inspect document are the double's
fixed texts, and the state reports the container running exactly when it exists. -/
theorem serve_logs_fst (name : String) (unplanned : double.planned "Logs" = none) :
    (double.serve (.logs name)).1 = .text (.ok double.logsText) := by
  simp [serve, Double.logs, readText, unplanned]

theorem serve_inspect_fst (name : String) (unplanned : double.planned "Inspect" = none) :
    (double.serve (.inspect name)).1 = .text (.ok double.inspectText) := by
  simp [serve, Double.inspect, readText, unplanned]

theorem serve_inspectState_fst (name : String) (unplanned : double.planned "InspectState" = none) :
    (double.serve (.inspectState name)).1 =
      .state (.ok (some { name, status := "running", running := double.hasContainer name })) := by
  simp [serve, Double.inspectState, unplanned]

/-- With no failure planned, a liveness check reports the head of the queue and takes it off
when another code stands behind it. -/
theorem serve_probe (name : String) (unplanned : double.planned "Probe" = none) :
    (double.serve (.probe name)).1 =
        .probed (.ok (some ⟨double.probeCodes.headD 0, probeStdout, ""⟩)) ∧
      (double.serve (.probe name)).2.probeCodes =
        if 2 ≤ double.probeCodes.length then double.probeCodes.tail else double.probeCodes := by
  simp only [serve, Double.probe, planned_record, unplanned, nextProbeCode_eq]
  exact ⟨rfl, rfl⟩

theorem serve_probeCodes_of_not_probe (request : Request) (other : request.isProbe = false) :
    (double.serve request).2.probeCodes = double.probeCodes := by
  cases request with
  | probe name => simp [Request.isProbe] at other
  | run options =>
    simp only [serve, Double.run, planned_record, addContainer_eq]
    split <;> rfl
  | stop name =>
    simp only [serve, Double.stop, planned_record]
    split <;> rfl
  | exec name command =>
    simp only [serve, Double.exec, planned_record]
    split
    · rfl
    · split <;> rfl
  | logs name | inspect name =>
    simp only [serve, Double.logs, Double.inspect, readText, planned_record]
    split <;> rfl
  | inspectState name =>
    simp only [serve, Double.inspectState, planned_record]
    split <;> rfl
  | buildImage options | copy name source dest => rfl

end Step

/-! ## Sequences of requests -/

section Run

theorem serveAll_calls (double : Double) (requests : List Request) :
    (double.serveAll requests).2.calls = double.calls ++ requests.map Request.call := by
  induction requests generalizing double with
  | nil => simp
  | cons request rest restCalls => simp [restCalls]

theorem serveAll_planned (double : Double) (requests : List Request) :
    (double.serveAll requests).2.failures = double.failures ∧
      (double.serveAll requests).2.execFailures = double.execFailures := by
  induction requests generalizing double with
  | nil => simp
  | cons request rest restPlanned => simp [restPlanned]

/-- A container exists after a sequence of requests exactly when the last request that settles
its name starts it, or, when no request settles it, when it existed before. -/
theorem serveAll_hasContainer (double : Double) (requests : List Request) (name : String) :
    (double.serveAll requests).2.hasContainer name =
      ((requests.filterMap (Request.settles double.planned name)).getLast?).getD
        (double.hasContainer name) := by
  induction requests generalizing double with
  | nil => simp
  | cons request rest restSettled =>
    rw [serveAll_cons, restSettled, serve_planned, serve_hasContainer]
    cases settled : request.settles double.planned name with
    | none => rw [List.filterMap_cons_none settled, Option.getD_none]
    | some exists' =>
      rw [List.filterMap_cons_some settled, List.getLast?_cons, Option.getD_some, Option.getD_some]

/-- The queue after `j` liveness checks: the first `j` codes are gone, except the last code,
which stays. -/
theorem headD_drop_checked (codes : List Int) (j : Nat) :
    (codes.drop (min j (codes.length - 1))).headD 0 = probeCodeAt codes (j + 1) := by
  rw [List.headD_eq_head?_getD, List.head?_drop, probeCodeAt, List.getD_eq_getElem?_getD]
  congr 2
  omega

theorem drop_checked_succ (codes : List Int) (j : Nat) :
    (if 2 ≤ (codes.drop (min j (codes.length - 1))).length
      then (codes.drop (min j (codes.length - 1))).tail
      else codes.drop (min j (codes.length - 1))) =
      codes.drop (min (j + 1) (codes.length - 1)) := by
  rw [List.length_drop]
  split
  · rw [List.tail_drop]
    congr 1
    omega
  · congr 1
    omega

/-- With no failure planned for liveness checks, the liveness check at position `i` of a
sequence that starts after `j` earlier checks on the queue `codes` reports the code of the
check it is, counted over the earlier checks and those of the sequence before it. -/
theorem serveAll_probe_after (codes : List Int) (requests : List Request) :
    ∀ (double : Double) (j : Nat), double.planned "Probe" = none →
      double.probeCodes = codes.drop (min j (codes.length - 1)) →
      ∀ (i : Nat) (name : String), requests[i]? = some (Request.probe name) →
        (double.serveAll requests).1[i]? = some (Answer.probed (.ok (some
          ⟨probeCodeAt codes (j + (requests.take i).countP Request.isProbe + 1), probeStdout, ""⟩))) := by
  induction requests with
  | nil => simp
  | cons request rest restProbed =>
    intro double j unplanned queue i name found
    have next : (double.serve request).2.probeCodes =
        codes.drop (min (j + if request.isProbe then 1 else 0) (codes.length - 1)) := by
      cases probing : request.isProbe with
      | true =>
        obtain ⟨checked, rfl⟩ := (Request.isProbe_iff request).1 probing
        rw [(double.serve_probe checked unplanned).2, queue, drop_checked_succ]
        rfl
      | false =>
        rw [double.serve_probeCodes_of_not_probe request probing, queue]
        rfl
    cases i with
    | zero =>
      obtain rfl : request = .probe name := by simpa using found
      rw [serveAll_cons, List.getElem?_cons_zero, (double.serve_probe name unplanned).1, queue,
        headD_drop_checked]
      simp
    | succ i =>
      rw [serveAll_cons, List.getElem?_cons_succ,
        restProbed _ _ (by rw [serve_planned]; exact unplanned) next i name (by simpa using found)]
      have counted : j + (if request.isProbe then 1 else 0) + (rest.take i).countP Request.isProbe =
          j + ((request :: rest).take (i + 1)).countP Request.isProbe := by
        rw [List.take_succ_cons, List.countP_cons]
        split <;> omega
      rw [counted]

/-- With no failure planned for liveness checks, the `k`-th liveness check of a sequence
reports the `k`-th code of the queue, the last one repeating, and 0 for an empty queue. -/
theorem serveAll_probe (double : Double) (requests : List Request)
    (unplanned : double.planned "Probe" = none) (i : Nat) (name : String)
    (found : requests[i]? = some (.probe name)) :
    (double.serveAll requests).1[i]? = some (.probed (.ok (some
      ⟨probeCodeAt double.probeCodes ((requests.take i).countP Request.isProbe + 1),
        probeStdout, ""⟩))) := by
  have start : double.probeCodes = double.probeCodes.drop (min 0 (double.probeCodes.length - 1)) :=
    by simp
  simpa using serveAll_probe_after double.probeCodes requests double 0 unplanned start i name found

end Run

/-- The double over any sequence of requests, from any state. Every request is recorded with its
arguments, whether it fails or not, and the planned failures never change. A container exists
after the requests when the last start or stop of its name that no planned failure replaced is
a start, or, with none, when it existed before. A planned failure of a request's method, even an
empty one, is its answer, and the request then only records its call; building and copying
answer with their planned failure, if any. With no failure planned, starting and stopping pass,
a shell command fails with the failure planned for a text it contains and passes when it
contains none, the console output and the inspect document are the fixed texts, the state
reports the container running exactly when it exists, and the `k`-th liveness check reports
the `k`-th code of the queue, the last one repeating, and 0 for an empty queue. -/
theorem requests_answer_by_plan :
    (∀ (double : Double) (requests : List Request),
      (double.serveAll requests).2.calls = double.calls ++ requests.map Request.call ∧
      (double.serveAll requests).2.failures = double.failures ∧
      (double.serveAll requests).2.execFailures = double.execFailures) ∧
    (∀ (double : Double) (requests : List Request) (name : String),
      (double.serveAll requests).2.hasContainer name =
        ((requests.filterMap (Request.settles double.planned name)).getLast?).getD
          (double.hasContainer name)) ∧
    (∀ (double : Double) (request : Request) (failure : Option Fault),
      double.planned request.call.method = some failure →
      double.serve request =
        (request.failedWith failure, { double with calls := double.calls ++ [request.call] })) ∧
    (∀ (double : Double) (options : BuildOptions) (name source dest : String),
      (double.serve (.buildImage options)).1 = .done (double.planned "BuildImage").join ∧
      (double.serve (.copy name source dest)).1 = .done (double.planned "Copy").join) ∧
    (∀ (double : Double) (options : RunOptions) (name : String),
      (double.planned "Run" = none → (double.serve (.run options)).1 = .done none) ∧
      (double.planned "Stop" = none → (double.serve (.stop name)).1 = .done none)) ∧
    (∀ (double : Double) (name command : String), double.planned "Exec" = none →
      (∃ part failure, (part, failure) ∈ double.execFailures ∧ Text.includes command part = true ∧
          (double.serve (.exec name command)).1 = .done failure) ∨
        ((∀ entry ∈ double.execFailures, Text.includes command entry.1 = false) ∧
          (double.serve (.exec name command)).1 = .done none)) ∧
    (∀ (double : Double) (name : String),
      (double.planned "Logs" = none → (double.serve (.logs name)).1 = .text (.ok double.logsText)) ∧
      (double.planned "Inspect" = none →
        (double.serve (.inspect name)).1 = .text (.ok double.inspectText)) ∧
      (double.planned "InspectState" = none → (double.serve (.inspectState name)).1 =
        .state (.ok (some { name, status := "running", running := double.hasContainer name })))) ∧
    (∀ (double : Double) (requests : List Request), double.planned "Probe" = none →
      ∀ (i : Nat) (name : String), requests[i]? = some (.probe name) →
        (double.serveAll requests).1[i]? = some (.probed (.ok (some
          ⟨probeCodeAt double.probeCodes ((requests.take i).countP Request.isProbe + 1),
            probeStdout, ""⟩)))) :=
  ⟨fun double requests => ⟨serveAll_calls double requests, serveAll_planned double requests⟩,
   serveAll_hasContainer,
   fun double request _ planned => double.serve_of_planned request planned,
   fun double options name source dest =>
     ⟨double.serve_buildImage_fst options, double.serve_copy_fst name source dest⟩,
   fun double options name => ⟨double.serve_run_fst options, double.serve_stop_fst name⟩,
   fun double name command => double.serve_exec_fst name command,
   fun double name => ⟨double.serve_logs_fst name, double.serve_inspect_fst name,
     double.serve_inspectState_fst name⟩,
   fun double requests unplanned i name found => serveAll_probe double requests unplanned i name found⟩

/-- An empty planned failure of a start passes without creating the container, and the fourth
of four liveness checks on the queue `1, 1, 0` reports the repeated last code 0. -/
theorem empty_failure_and_repeated_last_code :
    (({ failures := [("Run", none)] } : Double).planned (Request.run ⟨"img", "t1", "", ""⟩).call.method =
        some none ∧
      ({ failures := [("Run", none)] } : Double).serve (.run ⟨"img", "t1", "", ""⟩) =
        (.done none, { failures := [("Run", none)], calls := [⟨"Run", [.run ⟨"img", "t1", "", ""⟩]⟩] })) ∧
    (({ probeCodes := [1, 1, 0] } : Double).planned "Probe" = none ∧
      (({ probeCodes := [1, 1, 0] } : Double).serveAll
        [.probe "t1", .probe "t1", .probe "t1", .probe "t1"]).1[3]? =
        some (.probed (.ok (some ⟨0, probeStdout, ""⟩)))) := by
  refine ⟨⟨rfl, requests_answer_by_plan.2.2.1 _ (.run ⟨"img", "t1", "", ""⟩) none rfl⟩,
    ⟨rfl, ?_⟩⟩
  have fourth := requests_answer_by_plan.2.2.2.2.2.2.2 { probeCodes := [1, 1, 0] }
    [.probe "t1", .probe "t1", .probe "t1", .probe "t1"] rfl 3 "t1" rfl
  rw [fourth]
  rfl

end Double

end Testbed.Container
