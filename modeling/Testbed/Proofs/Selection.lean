import Testbed.Proofs.Bench
import Testbed.Proofs.Fault
import Testbed.App

/-!
# Choosing an engine once

A selector looks its candidates up on the search path in order and takes the first one found;
when none is found it has looked up every candidate once and fails with a fault that lists
them. A choice is remembered, so every later request answers with it and looks nothing up,
whatever the search path then holds; a failure is not, so the next request looks again.

`Fresh` says what one request that looks again answers, and `Chooses` what a whole sequence
of requests answers: failures that each looked afresh, then possibly one success, after which
the same engine comes back with no lookup. The main statement shows that every sequence of
requests on a new selector, with the search path changed arbitrarily between them, answers as
`Chooses` says, and that a runtime built from a selector and the application's runtime follow
the selector's answer.
-/

namespace Testbed

abbrev Lookup := String → Except String String

namespace Selector

/-- The answer of a request that looks again over `candidates`: the first candidate found on the
search path, with the names looked up up to it; or, when none is found, a fault with exit code
2 that lists every candidate in order, after one lookup of each. -/
def Fresh (lookPath : Lookup) (candidates : List Engine) :
    Except Fault Engine × List String → Prop
  | (.ok engine, looked) =>
    ∃ pre post, candidates = pre ++ engine :: post ∧
      (∀ missing ∈ pre, ∃ reason, lookPath missing.name = .error reason) ∧
      (∃ path, lookPath engine.name = .ok path) ∧ looked = (pre ++ [engine]).map (·.name)
  | (.error fault, looked) =>
    (∀ missing ∈ candidates, ∃ reason, lookPath missing.name = .error reason) ∧
      looked = candidates.map (·.name) ∧ fault.exitCode = 2 ∧
      (∀ c, fault.hasCode c = true ↔ c = 2) ∧
      fault.message =
        "no container runtime found, tried: " ++ " ".intercalate (candidates.map (·.name))

/-- What successive requests answer, each with its own state of the search path: a failed
request looked afresh and the next one looks again; a request that finds an engine looked
afresh, and every later one answers with that engine and looks nothing up. -/
inductive Chooses (candidates : List Engine) :
    List Lookup → List (Except Fault Engine × List String) → Prop
  | done : Chooses candidates [] []
  | retry {lookPath : Lookup} {later : List Lookup}
      {answers : List (Except Fault Engine × List String)} {fault : Fault} {looked : List String} :
      Fresh lookPath candidates (.error fault, looked) → Chooses candidates later answers →
      Chooses candidates (lookPath :: later) ((.error fault, looked) :: answers)
  | found {lookPath : Lookup} {later : List Lookup} {engine : Engine} {looked : List String} :
      Fresh lookPath candidates (.ok engine, looked) →
      Chooses candidates (lookPath :: later)
        ((.ok engine, looked) :: later.map fun _ => (.ok engine, []))

/-- The answers of successive requests to one selector, each made with the search path as it
then is: the result and the names looked up. -/
def selectEach (selector : Selector) : List Lookup → List (Except Fault Engine × List String)
  | [] => []
  | lookPath :: later =>
    let (result, next, _, looked) := selector.select lookPath
    (result, looked) :: next.selectEach later

/-- A search finds the first candidate on the search path, after one record for each candidate
it looked up; or it looks up every candidate and fails with all the names tried. -/
theorem search_finds_first (lookPath : Lookup) (tried : List String) (candidates : List Engine) :
    (∃ pre engine post, candidates = pre ++ engine :: post ∧
      (∀ missing ∈ pre, ∃ reason, lookPath missing.name = .error reason) ∧
      (∃ path, lookPath engine.name = .ok path) ∧
      (search lookPath tried candidates).1 = .ok engine ∧
      (search lookPath tried candidates).2.length = pre.length + 1) ∨
    ((∀ missing ∈ candidates, ∃ reason, lookPath missing.name = .error reason) ∧
      (search lookPath tried candidates).1 = .error (tried ++ candidates.map (·.name)) ∧
      (search lookPath tried candidates).2.length = candidates.length) := by
  induction candidates generalizing tried with
  | nil => simp [search]
  | cons engine rest restFinds =>
    cases looked : lookPath engine.name with
    | ok path =>
      exact .inl ⟨[], engine, rest, rfl, by simp, ⟨path, looked⟩, by simp [search, looked],
        by simp [search, looked]⟩
    | error reason =>
      rcases restFinds (tried ++ [engine.name]) with
        ⟨pre, found, post, split, missing, onPath, result, records⟩ | ⟨missing, result, records⟩
      · refine .inl ⟨engine :: pre, found, post, by rw [split]; rfl, ?_, onPath, ?_, ?_⟩
        · intro candidate member
          rcases List.mem_cons.1 member with rfl | later
          · exact ⟨reason, looked⟩
          · exact missing candidate later
        · simpa [search, looked] using result
        · simpa [search, looked] using records
      · refine .inr ⟨?_, ?_, ?_⟩
        · intro candidate member
          rcases List.mem_cons.1 member with rfl | later
          · exact ⟨reason, looked⟩
          · exact missing candidate later
        · simpa [search, looked] using result
        · simpa [search, looked] using records

theorem select_of_chosen {selector : Selector} {engine : Engine}
    (chosen : selector.chosen = some engine) (lookPath : Lookup) :
    selector.select lookPath = (.ok engine, selector, [], []) := by
  simp [select, chosen]

/-- A selector that has not chosen looks afresh over its candidates; it keeps an engine it
finds and stays as it is when it finds none. -/
theorem select_of_unchosen {selector : Selector} (unchosen : selector.chosen = none)
    (lookPath : Lookup) :
    Fresh lookPath selector.candidates
      ((selector.select lookPath).1, (selector.select lookPath).2.2.2) ∧
    (∀ engine, (selector.select lookPath).1 = .ok engine →
      (selector.select lookPath).2.1 = { selector with chosen := some engine }) ∧
    (∀ fault, (selector.select lookPath).1 = .error fault →
      (selector.select lookPath).2.1 = selector) := by
  rcases search_finds_first lookPath [] selector.candidates with
    ⟨pre, engine, post, split, missing, onPath, result, records⟩ | ⟨missing, result, records⟩
  · have looked : (selector.candidates.take (pre.length + 1)).map (·.name) =
        (pre ++ [engine]).map (·.name) := by
      rw [split, List.take_append, List.take_of_length_le (by omega)]
      simp
    simp only [select, unchosen, result, records]
    exact ⟨⟨pre, post, split, missing, onPath, looked⟩, by simp, by simp⟩
  · simp only [select, unchosen, result, records, List.take_length, List.nil_append]
    refine ⟨⟨missing, rfl, by simp [Fault.noRuntime, Fault.plain, Fault.noRuntimeCode],
      fun c => ?_, by simp [Fault.noRuntime, Fault.plain, Fault.message]⟩, by simp, by simp⟩
    simp [Fault.noRuntime, Fault.plain, Fault.noRuntimeCode]
    omega

theorem selectEach_of_chosen {selector : Selector} {engine : Engine}
    (chosen : selector.chosen = some engine) (lookups : List Lookup) :
    selector.selectEach lookups = lookups.map fun _ => (.ok engine, []) := by
  induction lookups with
  | nil => rfl
  | cons lookPath later laterAnswers =>
    simp [selectEach, select_of_chosen chosen, laterAnswers]

/-- A selector that has not chosen answers successive requests as `Chooses` says: it retries
afresh after each failure and keeps the first engine it finds. -/
theorem selectEach_chooses {selector : Selector} (unchosen : selector.chosen = none)
    (lookups : List Lookup) :
    Chooses selector.candidates lookups (selector.selectEach lookups) := by
  induction lookups with
  | nil => exact .done
  | cons lookPath later laterChooses =>
    obtain ⟨fresh, kept, unchanged⟩ := select_of_unchosen unchosen lookPath
    rw [selectEach]
    generalize chosen : selector.select lookPath = answer at fresh kept unchanged
    rcases answer with ⟨_ | engine, next, records, looked⟩
    all_goals dsimp only at fresh kept unchanged ⊢
    case error fault =>
      rw [unchanged fault rfl]
      exact .retry fresh laterChooses
    case ok =>
      rw [kept engine rfl, selectEach_of_chosen rfl]
      exact .found fresh

theorem Chooses.mem_candidates {candidates : List Engine} {lookups : List Lookup}
    {answers : List (Except Fault Engine × List String)} (chooses : Chooses candidates lookups answers)
    {answer : Except Fault Engine × List String} (member : answer ∈ answers) {engine : Engine}
    (answered : answer.1 = .ok engine) : engine ∈ candidates := by
  induction chooses with
  | done => simp at member
  | retry _ _ laterMem =>
    rcases List.mem_cons.1 member with rfl | later
    · cases answered
    · exact laterMem later
  | found fresh =>
    obtain ⟨pre, post, split, -, -, -⟩ := fresh
    rcases List.mem_cons.1 member with rfl | later
    · cases answered
      simp [split]
    · obtain ⟨_, -, rfl⟩ := List.mem_map.1 later
      cases answered
      simp [split]

/-- The candidates of a new selector: `docker` then `podman` for automatic choice, the named
engine alone otherwise. -/
theorem candidates_new (wanted : String) :
    (Selector.new ⟨wanted⟩).candidates =
      if wanted = "" ∨ wanted = "auto" then [⟨"docker"⟩, ⟨"podman"⟩] else [⟨wanted⟩] := by
  by_cases automatic : wanted = "" ∨ wanted = "auto"
  · rcases automatic with rfl | rfl <;> rfl
  · have named : wanted ≠ "" ∧ wanted ≠ "auto" := not_or.1 automatic
    simp [Selector.new, candidates, Engine.auto, named.1, named.2]

end Selector

theorem Engine.parse_of_not_mem {text : String} (rejected : text ∉ ["", "auto", "docker", "podman"]) :
    Engine.parse text = .error ("unknown runtime " ++ Quoted.quote text ++ " (want auto, docker or podman)") := by
  simp only [List.mem_cons, List.not_mem_nil, or_false, not_or] at rejected
  simp [Engine.parse, rejected.1, rejected.2.1, rejected.2.2.1, rejected.2.2.2]

theorem Engine.parse_of_mem {text : String} (accepted : text ∈ ["", "auto", "docker", "podman"]) :
    ∃ wanted, Engine.parse text = .ok wanted ∧ Selector.new wanted = Selector.new ⟨text⟩ := by
  simp only [List.mem_cons, List.not_mem_nil, or_false] at accepted
  rcases accepted with rfl | rfl | rfl | rfl <;> exact ⟨_, rfl, rfl⟩

/-- A runtime built from a selector is the driven engine the selector chooses, or the
selector's fault unchanged; the selector after choosing, the records and the names looked up
are the selector's. -/
theorem Container.Runtime.new_eq (selector : Selector) (lookPath : Lookup) :
    Container.Runtime.new selector lookPath =
      ((selector.select lookPath).1.map .engine, (selector.select lookPath).2) := rfl

/-- Resolving the application's runtime gives a runtime it already has with the bench untouched;
refuses an unknown engine name with the bench untouched; and otherwise chooses afresh with a new
selector for the configured name, logs the records of its lookups, and keeps the runtime of a
found engine. -/
theorem App.resolveRuntime_run (app : App) (bench : Bench) :
    let resolved := (app.resolveRuntime.run bench).run
    let chosen := (Selector.new ⟨app.config.runtime⟩).select (Bench.pathLookup.run bench).run.1
    (∀ runtime, app.runtime = some runtime → resolved = (.ok (runtime, app), bench)) ∧
    (app.runtime = none → app.config.runtime ∉ ["", "auto", "docker", "podman"] →
      resolved = (.error (Fault.config "invalid runtime" (some (.note ("unknown runtime " ++
        Quoted.quote app.config.runtime ++ " (want auto, docker or podman)")))), bench)) ∧
    (app.runtime = none → app.config.runtime ∈ ["", "auto", "docker", "podman"] →
      resolved.2 = { bench with log := bench.log ++ chosen.2.2.1.toArray } ∧
      (∀ engine, chosen.1 = .ok engine →
        resolved.1 = .ok (.engine engine, { app with runtime := some (.engine engine) })) ∧
      (∀ fault, chosen.1 = .error fault → resolved.1 = .error fault)) := by
  refine ⟨fun runtime preset => ?_, fun unset rejected => ?_, fun unset accepted => ?_⟩
  · simp [App.resolveRuntime, preset]
  · simp [App.resolveRuntime, unset, Engine.parse_of_not_mem rejected]
  · obtain ⟨wanted, parsed, same⟩ := Engine.parse_of_mem accepted
    obtain ⟨lookPath, lookedUp⟩ : ∃ lookPath, (Bench.pathLookup.run bench).run = (lookPath, bench) :=
      ⟨_, Prod.ext rfl (Bench.pathLookup_run_snd bench)⟩
    simp only [App.resolveRuntime, unset, parsed, same, StateT.run_bind, Id.run_bind, lookedUp,
      Bench.noteAll_run]
    rw [Container.Runtime.new_eq]
    generalize (Selector.new ⟨app.config.runtime⟩).select lookPath = chosen
    rcases chosen with ⟨_ | engine, next, records, looked⟩ <;> simp [Except.map]

/-- Choosing a container engine retries until an engine is found and then keeps it. Successive
requests to a new selector, with the search path changed arbitrarily between them, fail afresh
until one finds an engine, each looking the candidates up in order (`docker` then `podman` for
`auto` or an empty name, the named engine alone otherwise) and stopping at the first found, or
looking each up once and failing with exit code 2 and a message that lists them all; after the
first success every request answers with the same engine and looks nothing up. Every engine
answered is a candidate. A runtime built from a selector drives the engine the selector chooses
or passes its fault on. The application's runtime is kept once set and resolved with no lookup;
an unknown engine name is a settings fault with exit code 10 and no lookup; otherwise one
request to a new selector decides, and only a found engine is kept. -/
theorem choice_retries_then_keeps_engine :
    (∀ (override : String) (lookups : List Lookup),
      let candidates : List Engine :=
        if override = "" ∨ override = "auto" then [⟨"docker"⟩, ⟨"podman"⟩] else [⟨override⟩]
      let answers := (Selector.new ⟨override⟩).selectEach lookups
      Selector.Chooses candidates lookups answers ∧
      ∀ answer ∈ answers, ∀ engine, answer.1 = .ok engine → engine ∈ candidates) ∧
    (∀ (selector : Selector) (lookPath : Lookup),
      let chosen := selector.select lookPath
      let made := Container.Runtime.new selector lookPath
      made.2 = chosen.2 ∧ (∀ engine, chosen.1 = .ok engine → made.1 = .ok (.engine engine)) ∧
      (∀ fault, chosen.1 = .error fault → made.1 = .error fault)) ∧
    (∀ (app : App) (bench : Bench),
      let resolved := (app.resolveRuntime.run bench).run
      let lookPath := (Bench.pathLookup.run bench).run.1
      let chosen := (Selector.new ⟨app.config.runtime⟩).select lookPath
      let candidates : List Engine :=
        if app.config.runtime = "" ∨ app.config.runtime = "auto" then [⟨"docker"⟩, ⟨"podman"⟩]
        else [⟨app.config.runtime⟩]
      (∀ runtime, app.runtime = some runtime → resolved = (.ok (runtime, app), bench)) ∧
      (app.runtime = none → app.config.runtime ∉ ["", "auto", "docker", "podman"] →
        resolved.2 = bench ∧ ∃ fault, resolved.1 = .error fault ∧ fault.exitCode = 10 ∧
          (∀ c, fault.hasCode c = true ↔ c = 10) ∧
          fault.message = "invalid runtime: unknown runtime " ++ Quoted.quote app.config.runtime ++
            " (want auto, docker or podman)") ∧
      (app.runtime = none → app.config.runtime ∈ ["", "auto", "docker", "podman"] →
        Selector.Fresh lookPath candidates (chosen.1, chosen.2.2.2) ∧
        resolved.2 = { bench with log := bench.log ++ chosen.2.2.1.toArray } ∧
        (∀ engine, chosen.1 = .ok engine →
          resolved.1 = .ok (.engine engine, { app with runtime := some (.engine engine) })) ∧
        (∀ fault, chosen.1 = .error fault → resolved.1 = .error fault))) := by
  refine ⟨fun override lookups => ?_, fun selector lookPath => ?_, fun app bench => ?_⟩
  · have unchosen : (Selector.new ⟨override⟩).chosen = none := rfl
    have chooses := Selector.selectEach_chooses unchosen lookups
    rw [Selector.candidates_new] at chooses
    exact ⟨chooses, fun answer member engine answered => chooses.mem_candidates member answered⟩
  · rw [Container.Runtime.new_eq]
    generalize selector.select lookPath = chosen
    rcases chosen with ⟨_ | engine, next, records, looked⟩ <;> simp [Except.map]
  · obtain ⟨preset, rejected, accepted⟩ := App.resolveRuntime_run app bench
    refine ⟨preset, fun unset unknown => ?_, fun unset known => ?_⟩
    · rw [rejected unset unknown]
      refine ⟨rfl, _, rfl, by simp [Fault.config, Fault.configCode], fun c => ?_, rfl⟩
      simp [Fault.config, Fault.configCode]
      omega
    · have unchosen : (Selector.new ⟨app.config.runtime⟩).chosen = none := rfl
      have fresh := (Selector.select_of_unchosen unchosen (Bench.pathLookup.run bench).run.1).1
      rw [Selector.candidates_new] at fresh
      exact ⟨fresh, accepted unset known⟩

end Testbed
