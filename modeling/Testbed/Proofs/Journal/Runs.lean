import Testbed.Journal.Event

/-!
# Runs of a journal

Grouping a journal's events by run is one pass that keeps the run ids in the order they are
first seen and, under each id, the events of that run read so far. The result is said here
without the pass: for each run id in order of first appearance, the events with that id, in
journal order. From that reading the groups split the journal: together they hold each event
once, each is a non-empty run of a single id in journal order, and no id has two groups.
-/

namespace Testbed.Journal

def byRunId (events : List Event) : List (List Event) :=
  (events.map (·.runId)).eraseDups.map fun id => events.filter (·.runId == id)

/-! ## The pass over the events -/

section Pass

/-- What a grouping holds once `seen` has been read: the run ids of `seen` in order of first
appearance, and under each of them the events of `seen` with that id. -/
def Grouping.Tracks (grouping : Grouping) (seen : List Event) : Prop :=
  grouping.order = (seen.map (·.runId)).eraseDups ∧
    ∀ id, grouping.byId id =
      if id ∈ seen.map (·.runId) then some (seen.filter (·.runId == id)) else none

theorem Grouping.empty_tracks : Grouping.empty.Tracks [] :=
  ⟨rfl, fun _ => rfl⟩

theorem eraseDups_append_singleton (items : List String) (item : String) :
    (items ++ [item]).eraseDups =
      if item ∈ items then items.eraseDups else items.eraseDups ++ [item] := by
  rw [List.eraseDups_append]
  by_cases seen : item ∈ items <;> simp [List.removeAll, List.eraseDups_cons, seen]

theorem Grouping.Tracks.add {grouping : Grouping} {seen : List Event}
    (tracks : grouping.Tracks seen) (event : Event) :
    (grouping.add event).Tracks (seen ++ [event]) := by
  obtain ⟨ordered, kept⟩ := tracks
  have present :
      (grouping.byId event.runId).isSome = decide (event.runId ∈ seen.map (·.runId)) := by
    rw [kept]
    split <;> simp_all
  constructor
  · simp only [Grouping.add, present, ordered, List.map_append, List.map_cons, List.map_nil,
      eraseDups_append_singleton, decide_eq_true_eq]
  · intro id
    have readsNew : id ∈ (seen ++ [event]).map (·.runId) ↔
        id ∈ seen.map (·.runId) ∨ id = event.runId := by
      simp [eq_comm]
    simp only [Grouping.add]
    by_cases same : id = event.runId
    · rw [if_pos same, if_pos (readsNew.2 (.inr same)), kept, List.filter_append]
      have sameRun : (event.runId == id) = true := beq_iff_eq.2 same.symm
      by_cases seenBefore : id ∈ seen.map (·.runId)
      · simp [seenBefore, sameRun]
      · have none : seen.filter (·.runId == id) = [] := by
          simpa [List.filter_eq_nil_iff] using seenBefore
        simp [seenBefore, none, sameRun]
    · have other : (event.runId == id) = false := beq_false_of_ne (Ne.symm same)
      rw [if_neg same, kept, List.filter_append]
      simp [same, other]

theorem Grouping.Tracks.foldl {grouping : Grouping} {seen : List Event}
    (tracks : grouping.Tracks seen) (events : List Event) :
    (events.foldl Grouping.add grouping).Tracks (seen ++ events) := by
  induction events generalizing grouping seen with
  | nil => simpa using tracks
  | cons event events ih =>
    rw [List.foldl_cons, ← List.singleton_append, ← List.append_assoc]
    exact ih (tracks.add event)

theorem runs_eq_byRunId (events : List Event) : runs events = byRunId events := by
  obtain ⟨ordered, kept⟩ := Grouping.empty_tracks.foldl events
  rw [List.nil_append] at ordered kept
  simp only [runs, byRunId, ordered]
  apply List.map_congr_left
  intro id member
  rw [kept, if_pos (List.mem_eraseDups.1 member), Option.getD_some]

end Pass

/-! ## Runs said by their run ids -/

section ByRunId

/-- The first run is the first event's, with every later event of that run; the other runs are
those of the remaining events. -/
theorem byRunId_cons (event : Event) (events : List Event) :
    byRunId (event :: events) =
      (event :: events.filter (·.runId == event.runId)) ::
        byRunId (events.filter (·.runId != event.runId)) := by
  simp only [byRunId, List.map_cons, List.eraseDups_cons, List.filter_cons, beq_self_eq_true,
    if_true, List.filter_map, List.cons.injEq, true_and]
  refine List.map_congr_left fun id member => ?_
  have later : id ≠ event.runId := by
    have := List.mem_eraseDups.1 member
    simp only [List.mem_map, List.mem_filter] at this
    obtain ⟨other, ⟨-, differs⟩, rfl⟩ := this
    simpa using differs
  have skip : (event.runId == id) = false := beq_false_of_ne (Ne.symm later)
  rw [skip, if_neg (by simp), List.filter_filter]
  refine List.filter_congr fun e _ => ?_
  by_cases same : e.runId = id <;> simp [same, later]

theorem byRunId_nil : byRunId [] = [] := rfl

theorem mem_byRunId {events : List Event} {group : List Event} (member : group ∈ byRunId events) :
    ∃ event ∈ events, group = events.filter (·.runId == event.runId) := by
  obtain ⟨id, listed, rfl⟩ := List.mem_map.1 member
  obtain ⟨event, present, rfl⟩ := List.mem_map.1 (List.mem_eraseDups.1 listed)
  exact ⟨event, present, rfl⟩

theorem flatten_byRunId_perm : ∀ events : List Event, (byRunId events).flatten.Perm events
  | [] => by simp [byRunId_nil]
  | event :: events => by
    rw [byRunId_cons, List.flatten_cons, List.cons_append]
    refine List.Perm.cons event ?_
    calc List.Perm (events.filter (·.runId == event.runId) ++
          (byRunId (events.filter (·.runId != event.runId))).flatten)
          (events.filter (·.runId == event.runId) ++ events.filter (·.runId != event.runId)) :=
          (flatten_byRunId_perm _).append_left _
      _ = events.filter (·.runId == event.runId) ++
          events.filter fun e => !(e.runId == event.runId) := rfl
      List.Perm _ events := List.filter_append_perm _ _
termination_by events => events.length
decreasing_by
  have := List.length_filter_le (·.runId != event.runId) events
  simp only [List.length_cons]
  omega

theorem byRunId_pairwise_distinct : ∀ events : List Event,
    (byRunId events).Pairwise fun group other => ∀ e ∈ group, ∀ f ∈ other, e.runId ≠ f.runId
  | [] => by simp [byRunId_nil]
  | event :: events => by
    rw [byRunId_cons, List.pairwise_cons]
    refine ⟨fun other member e inFirst f inOther => ?_, byRunId_pairwise_distinct _⟩
    have first : e.runId = event.runId := by
      rcases List.mem_cons.1 inFirst with rfl | later
      · rfl
      · simpa using (List.mem_filter.1 later).2
    have rest : f ∈ events.filter (·.runId != event.runId) :=
      (flatten_byRunId_perm _).subset (List.mem_flatten.2 ⟨other, member, inOther⟩)
    have differs : f.runId ≠ event.runId := by simpa using (List.mem_filter.1 rest).2
    rw [first]
    exact Ne.symm differs
termination_by events => events.length
decreasing_by
  have := List.length_filter_le (·.runId != event.runId) events
  simp only [List.length_cons]
  omega

end ByRunId

/-- Grouping a journal by run gives, for each run id in order of first appearance, the events of
that run in journal order. So the runs split the journal: together they hold each event once,
each is non-empty, a sublist of the journal and of a single run id, no run id has two runs, and
there is no run exactly when there is no event. -/
theorem runs_group_by_first_appearance (events : List Event) :
    runs events =
        (events.map (·.runId)).eraseDups.map (fun id => events.filter (·.runId == id)) ∧
      (runs events).flatten.Perm events ∧
      (∀ group ∈ runs events, group ≠ [] ∧ group.Sublist events ∧
        ∀ e ∈ group, ∀ f ∈ group, e.runId = f.runId) ∧
      (runs events).Pairwise (fun group other => ∀ e ∈ group, ∀ f ∈ other, e.runId ≠ f.runId) ∧
      (runs events = [] ↔ events = []) := by
  rw [runs_eq_byRunId]
  refine ⟨rfl, flatten_byRunId_perm events, fun group member => ?_,
    byRunId_pairwise_distinct events, ?_⟩
  · obtain ⟨event, present, rfl⟩ := mem_byRunId member
    refine ⟨List.ne_nil_of_mem (List.mem_filter.2 ⟨present, by simp⟩), List.filter_sublist,
      fun e inGroup f inGroup' => ?_⟩
    have eSame : e.runId = event.runId := by simpa using (List.mem_filter.1 inGroup).2
    have fSame : f.runId = event.runId := by simpa using (List.mem_filter.1 inGroup').2
    rw [eSame, fSame]
  · cases events with
    | nil => simp [byRunId_nil]
    | cons event events => simp [byRunId_cons]

end Testbed.Journal
