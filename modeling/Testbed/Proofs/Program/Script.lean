import Testbed.Program.Script

/-!
# Answering from queues

A scripted machine answers each command from the queue of its most specific pattern that has a
reply queued, and takes that reply off the queue unless it is the last one. Two things follow
for any interleaving of appending replies and running commands: a queue that once held a reply
never runs dry, and the replies a pattern gives go through the replies appended to it in the
order they were appended, skipping none, each given at least once, and one is given again only
after it answered alone in its queue.
-/

namespace Testbed.Program

/-- How the replies of a queue whose last reply stays are given out. `ServedInTurn entries
servings` holds when each serving gives the first of `entries` not yet gone, flagged with
whether it was then alone in the queue: a reply given alone stays and may be given again; one
given with others behind it leaves, and the next serving gives the next reply. -/
inductive ServedInTurn : List Reply → List (Reply × Bool) → Prop where
  | done (entries : List Reply) : ServedInTurn entries []
  | stays {entry : Reply} {entries : List Reply} {servings : List (Reply × Bool)} :
      ServedInTurn (entry :: entries) servings →
      ServedInTurn (entry :: entries) ((entry, true) :: servings)
  | leaves {entry : Reply} {entries : List Reply} {servings : List (Reply × Bool)} :
      entries ≠ [] → ServedInTurn entries servings →
      ServedInTurn (entry :: entries) ((entry, false) :: servings)

theorem Reply.result_eq_error_iff (reply : Reply) (text : String) :
    reply.result = .error text ↔ reply.startError = some text := by
  unfold Reply.result
  split <;> simp_all

theorem Reply.result_eq_ok_iff (reply : Reply) (output : Output) :
    reply.result = .ok output ↔
      reply.startError = none ∧ output = ⟨reply.status, reply.stdout, reply.stderr⟩ := by
  unfold Reply.result
  split <;> simp_all [eq_comm]

namespace Script

/-! ## Queues -/

section Queues

variable (script : Script) (pattern other : String)

theorem afterAnswer_eq (queue : List Reply) :
    afterAnswer queue = if 2 ≤ queue.length then queue.tail else queue := by
  match queue with
  | [] => rfl
  | [_] => rfl
  | _ :: _ :: _ => simp [afterAnswer]

@[simp] theorem queueOf_take :
    (script.take pattern).queueOf other =
      if other = pattern then afterAnswer (script.queueOf pattern) else script.queueOf other := by
  unfold queueOf take
  rw [List.find?_map]
  have keys : ((fun entry : String × List Reply => entry.1 == other) ∘
      fun (p, q) => if p == pattern then (p, afterAnswer q) else (p, q)) = (·.1 == other) := by
    funext ⟨p, q⟩
    by_cases same : p = pattern <;> simp [same]
  rw [keys]
  by_cases same : other = pattern
  · subst same
    cases found : script.queues.find? (·.1 == other) with
    | none => simp [afterAnswer]
    | some entry =>
      have key : entry.1 = other := by simpa using List.find?_some found
      simp [key]
  · cases found : script.queues.find? (·.1 == other) with
    | none => simp [same]
    | some entry =>
      have key : entry.1 = other := by simpa using List.find?_some found
      simp [key, same]

@[simp] theorem queueOf_addReplies (replies : List Reply) :
    (script.addReplies pattern replies).queueOf other =
      if other = pattern then script.queueOf pattern ++ replies else script.queueOf other := by
  unfold addReplies
  split
  · case isTrue known =>
    unfold queueOf
    rw [List.find?_map]
    have keys : ((fun entry : String × List Reply => entry.1 == other) ∘
        fun (p, q) => if p == pattern then (p, q ++ replies) else (p, q)) = (·.1 == other) := by
      funext ⟨p, q⟩
      by_cases same : p = pattern <;> simp [same]
    rw [keys]
    by_cases same : other = pattern
    · subst same
      obtain ⟨entry, found⟩ :=
        Option.isSome_iff_exists.1 (List.find?_isSome.2 (List.any_eq_true.1 known))
      have key : entry.1 = other := by simpa using List.find?_some found
      simp [found, key]
    · cases found : script.queues.find? (·.1 == other) with
      | none => simp [same]
      | some entry =>
        have key : entry.1 = other := by simpa using List.find?_some found
        simp [key, same]
  · case isFalse unknown =>
    unfold queueOf
    have absent : script.queues.find? (·.1 == pattern) = none :=
      List.find?_eq_none.2 (List.any_eq_false.1 (Bool.eq_false_iff.2 unknown))
    by_cases same : other = pattern
    · subst same
      simp [List.find?_append, absent]
    · have differs : (pattern == other) = false := beq_false_of_ne (Ne.symm same)
      simp [List.find?_append, same, differs]

@[simp] theorem queueOf_addPath (name : String) :
    (script.addPath name).queueOf other = script.queueOf other := rfl

end Queues

/-! ## One command -/

section Run

variable (script : Script) (command : Command)

theorem answering?_eq_some_iff (pattern : String) :
    script.answering? command = some pattern ↔ script.queueOf pattern ≠ [] ∧
      ∃ outer inner, patterns command = outer ++ pattern :: inner ∧
        ∀ p ∈ outer, script.queueOf p = [] := by
  rw [answering?, List.find?_eq_some_iff_append]
  simp [List.isEmpty_iff]

theorem answering?_eq_none_iff :
    script.answering? command = none ↔ ∀ p ∈ patterns command, script.queueOf p = [] := by
  rw [answering?, List.find?_eq_none]
  simp

theorem answer_fst :
    (script.answer command).1 =
      match script.answering? command with
      | some pattern => (script.queueOf pattern).headD script.fallback
      | none => script.fallback := by
  cases found : script.answering? command with
  | none => simp [answer, found]
  | some pattern => cases queued : script.queueOf pattern <;> simp [answer, found, queued]

/-- Answering takes a reply off the answering pattern's queue, unless it is the last, and leaves
every other queue as it was. -/
theorem answer_queueOf (pattern : String) :
    (script.answer command).2.queueOf pattern =
      if script.answering? command = some pattern then afterAnswer (script.queueOf pattern)
      else script.queueOf pattern := by
  unfold answer
  split
  · case h_1 answering found =>
    by_cases same : pattern = answering
    · subst same
      split <;> simp_all [afterAnswer]
    · split <;> simp [found, same, Ne.symm same]
  · case h_2 found => simp [found]

theorem answer_onPath : (script.answer command).2.onPath = script.onPath := by
  unfold answer
  split
  · split <;> rfl
  · rfl

theorem answer_record (issued : List Command) :
    ({ script with issued } : Script).answer command =
      ((script.answer command).1, { (script.answer command).2 with issued }) := by
  unfold answer
  have same : ({ script with issued } : Script).answering? command = script.answering? command :=
    rfl
  rw [same]
  split
  · case h_1 pattern found =>
    have queued : ({ script with issued } : Script).queueOf pattern = script.queueOf pattern := rfl
    rw [queued]
    split <;> rfl
  · rfl

theorem run_eq : script.run command = ((script.answer command).1.result,
    { (script.answer command).2 with issued := script.issued ++ [command] }) := by
  simp only [run, answer_record]

theorem run_fst : (script.run command).1 = (script.answer command).1.result := by
  rw [run_eq]

theorem run_issued : (script.run command).2.issued = script.issued ++ [command] := by
  rw [run_eq]

theorem run_onPath : (script.run command).2.onPath = script.onPath := by
  rw [run_eq]
  exact answer_onPath script command

theorem run_queueOf (pattern : String) :
    (script.run command).2.queueOf pattern =
      if script.answering? command = some pattern then afterAnswer (script.queueOf pattern)
      else script.queueOf pattern := by
  rw [run_eq]
  exact answer_queueOf script command pattern

end Run

/-! ## Interleavings -/

/-- A call on a scripted machine. -/
inductive Call where
  | addPath (name : String)
  | addReplies (pattern : String) (replies : List Reply)
  | run (command : Command)
  deriving DecidableEq

def perform (script : Script) : Call → Script
  | .addPath name => script.addPath name
  | .addReplies pattern replies => script.addReplies pattern replies
  | .run command => (script.run command).2

def performAll (script : Script) (calls : List Call) : Script := calls.foldl perform script

def Call.appendedTo (pattern : String) : Call → List Reply
  | .addReplies p replies => if p = pattern then replies else []
  | _ => []

def Call.command? : Call → Option Command
  | .run command => some command
  | _ => none

def Call.path? : Call → Option String
  | .addPath name => some name
  | _ => none

/-- The replies a pattern gives along a list of calls, each flagged with whether it was alone in
its queue when it answered. -/
def servedFrom (script : Script) (pattern : String) : List Call → List (Reply × Bool)
  | [] => []
  | call :: calls =>
    let here := match call with
      | .run command =>
        if script.answering? command = some pattern then
          [((script.answer command).1, (script.queueOf pattern).length == 1)]
        else []
      | _ => []
    here ++ (script.perform call).servedFrom pattern calls

section Interleavings

variable (pattern : String)

/-- Replies leave a queue in the order they were appended, each given at least once, and one is
given again only after it answered alone. The induction carries the replies still queued. -/
theorem servedFrom_in_turn : ∀ (script : Script) (calls : List Call),
    ServedInTurn (script.queueOf pattern ++ calls.flatMap (Call.appendedTo pattern))
      (script.servedFrom pattern calls)
  | _, [] => .done _
  | script, call :: calls => by
    have next := servedFrom_in_turn (script.perform call) calls
    cases call with
    | addPath name => simpa [servedFrom, perform, Call.appendedTo] using next
    | addReplies p replies =>
      by_cases same : p = pattern
      · subst same
        simpa [servedFrom, perform, Call.appendedTo] using next
      · simpa [servedFrom, perform, Call.appendedTo, same, Ne.symm same] using next
    | run command =>
      by_cases answers : script.answering? command = some pattern
      · obtain ⟨reply, more, queued⟩ : ∃ reply more, script.queueOf pattern = reply :: more :=
          List.exists_cons_of_ne_nil ((answering?_eq_some_iff script command pattern).1 answers).1
        have given : (script.answer command).1 = reply := by
          rw [answer_fst, answers]
          simp [queued]
        simp only [perform, run_queueOf, if_pos answers, queued] at next
        simp only [servedFrom, perform, answers, if_true, given, queued, List.flatMap_cons,
          Call.appendedTo, List.nil_append, List.cons_append]
        cases more with
        | nil => exact .stays next
        | cons second rest => exact .leaves (by simp) next
      · simpa [servedFrom, perform, Call.appendedTo, answers, run_queueOf] using next

theorem perform_queueOf_ne_nil (script : Script) (call : Call)
    (filled : script.queueOf pattern ≠ []) : (script.perform call).queueOf pattern ≠ [] := by
  cases call with
  | addPath name => simpa [perform] using filled
  | addReplies p replies =>
    by_cases same : pattern = p
    · subst same
      simp [perform, filled]
    · simpa [perform, same] using filled
  | run command =>
    rw [perform, run_queueOf]
    split
    · obtain ⟨reply, more, queued⟩ := List.exists_cons_of_ne_nil filled
      rw [queued]
      cases more <;> simp [afterAnswer]
    · exact filled

theorem queueOf_performAll_ne_nil : ∀ (script : Script) (calls : List Call),
    script.queueOf pattern ≠ [] ∨ calls.flatMap (Call.appendedTo pattern) ≠ [] →
      (script.performAll calls).queueOf pattern ≠ []
  | script, [], filled => by simpa [performAll] using filled
  | script, call :: calls, filled => by
    apply queueOf_performAll_ne_nil (script.perform call) calls
    rw [List.flatMap_cons] at filled
    rcases filled with queued | appended
    · exact .inl (perform_queueOf_ne_nil pattern script call queued)
    · by_cases now : call.appendedTo pattern = []
      · rw [now, List.nil_append] at appended
        exact .inr appended
      · left
        cases call with
        | addReplies p replies =>
          by_cases same : p = pattern
          · subst same
            simp only [Call.appendedTo, if_true] at now
            simp [perform, now]
          · simp [Call.appendedTo, same] at now
        | addPath name => simp [Call.appendedTo] at now
        | run command => simp [Call.appendedTo] at now

theorem perform_issued (script : Script) (call : Call) :
    (script.perform call).issued = script.issued ++ call.command?.toList := by
  cases call with
  | addPath name => simp [perform, addPath, Call.command?]
  | addReplies p replies =>
    simp only [perform, Call.command?, Option.toList_none, List.append_nil]
    unfold addReplies
    split <;> rfl
  | run command => simp [perform, run_issued, Call.command?]

theorem perform_onPath (script : Script) (call : Call) :
    (script.perform call).onPath = script.onPath ++ call.path?.toList := by
  cases call with
  | addPath name => simp [perform, addPath, Call.path?]
  | addReplies p replies =>
    simp only [perform, Call.path?, Option.toList_none, List.append_nil]
    unfold addReplies
    split <;> rfl
  | run command => simp [perform, run_onPath, Call.path?]

theorem issued_performAll : ∀ (script : Script) (calls : List Call),
    (script.performAll calls).issued = script.issued ++ calls.filterMap Call.command?
  | script, [] => by simp [performAll]
  | script, call :: calls => by
    rw [performAll, List.foldl_cons, ← performAll, issued_performAll, perform_issued,
      List.filterMap_cons]
    cases call.command? <;> simp

theorem onPath_performAll : ∀ (script : Script) (calls : List Call),
    (script.performAll calls).onPath = script.onPath ++ calls.filterMap Call.path?
  | script, [] => by simp [performAll]
  | script, call :: calls => by
    rw [performAll, List.foldl_cons, ← performAll, onPath_performAll, perform_onPath,
      List.filterMap_cons]
    cases call.path? <;> simp

end Interleavings

/-- A scripted machine as it is made: nothing on the path, no replies queued, nothing recorded,
and the given fallback reply. -/
def fresh (fallback : Reply) : Script := { fallback }

/-- On a fresh machine a program is found, at `/usr/bin/<name>`, exactly when it was put on the
path. -/
theorem lookPath?_fresh_performAll (fallback : Reply) (calls : List Call) (name : String) :
    ((fresh fallback).performAll calls).lookPath? name =
      if Call.addPath name ∈ calls then some ("/usr/bin/" ++ name) else none := by
  have listed : name ∈ calls.filterMap Call.path? ↔ Call.addPath name ∈ calls := by
    rw [List.mem_filterMap]
    constructor
    · rintro ⟨call, member, named⟩
      cases call <;> simp_all [Call.path?]
    · intro member
      exact ⟨_, member, rfl⟩
  have onPath : ((fresh fallback).performAll calls).onPath = calls.filterMap Call.path? := by
    simpa [fresh] using onPath_performAll (fresh fallback) calls
  unfold lookPath?
  by_cases member : Call.addPath name ∈ calls
  · simp [onPath, listed.2 member, member]
  · simp [onPath, mt listed.1 member, member]

/-- On a fresh scripted machine, for any interleaving of calls: every command run is recorded in
order; each command is answered by the first of its patterns, most specific first, with a reply
queued, with the head of that queue, which leaves the queue only when another reply is behind
it, or by the fallback when no pattern has one; a reply gives its start failure or exactly its
status and outputs; a queue that was ever given a reply is never empty again, and the replies it
gives go through the appended ones in order, as `ServedInTurn` says; and a program is found on
the path, at `/usr/bin/<name>`, exactly when it was put there. -/
theorem scripted_replies_in_turn (fallback : Reply) (calls : List Call) :
    ((fresh fallback).performAll calls).issued = calls.filterMap Call.command? ∧
    (∀ (script : Script) (command : Command),
      (script.run command).2.issued = script.issued ++ [command] ∧
      (script.run command).1 = (script.answer command).1.result ∧
      (∀ pattern, script.answering? command = some pattern ↔ script.queueOf pattern ≠ [] ∧
        ∃ outer inner, patterns command = outer ++ pattern :: inner ∧
          ∀ p ∈ outer, script.queueOf p = []) ∧
      (script.answering? command = none ↔ ∀ p ∈ patterns command, script.queueOf p = []) ∧
      (script.answer command).1 =
        (match script.answering? command with
         | some pattern => (script.queueOf pattern).headD script.fallback
         | none => script.fallback) ∧
      ∀ pattern, (script.run command).2.queueOf pattern =
        if script.answering? command = some pattern then afterAnswer (script.queueOf pattern)
        else script.queueOf pattern) ∧
    (∀ queue, afterAnswer queue = if 2 ≤ queue.length then queue.tail else queue) ∧
    (∀ reply : Reply, (∀ text, reply.result = .error text ↔ reply.startError = some text) ∧
      (∀ output, reply.result = .ok output ↔
        reply.startError = none ∧ output = ⟨reply.status, reply.stdout, reply.stderr⟩)) ∧
    (∀ pattern, (calls.flatMap (Call.appendedTo pattern) ≠ [] →
        ((fresh fallback).performAll calls).queueOf pattern ≠ []) ∧
      ServedInTurn (calls.flatMap (Call.appendedTo pattern))
        ((fresh fallback).servedFrom pattern calls)) ∧
    (∀ name, ((fresh fallback).performAll calls).lookPath? name =
      if Call.addPath name ∈ calls then some ("/usr/bin/" ++ name) else none) := by
  have recorded : ((fresh fallback).performAll calls).issued = calls.filterMap Call.command? := by
    simpa [fresh] using issued_performAll (fresh fallback) calls
  have served : ∀ pattern, ServedInTurn (calls.flatMap (Call.appendedTo pattern))
      ((fresh fallback).servedFrom pattern calls) := fun pattern => by
    simpa [fresh, queueOf] using servedFrom_in_turn pattern (fresh fallback) calls
  exact ⟨recorded,
    fun script command => ⟨run_issued script command, run_fst script command,
      answering?_eq_some_iff script command, answering?_eq_none_iff script command,
      answer_fst script command, run_queueOf script command⟩,
    afterAnswer_eq,
    fun reply => ⟨reply.result_eq_error_iff, reply.result_eq_ok_iff⟩,
    fun pattern => ⟨fun appended => queueOf_performAll_ne_nil pattern _ calls (.inr appended),
      served pattern⟩,
    lookPath?_fresh_performAll fallback calls⟩

end Script

end Testbed.Program
