import ExprGraph.Proofs.Session.Announcement
import ExprGraph.Proofs.Session.Impact
import ExprGraph.Proofs.Session.Overwriting

/-!
The log of a session is the record of what was allocated.  A step announces each node it adds, in
order and as it was allocated, with the pointer a node reads before it and the root that collects a
store behind it, and nothing else.  Main statement: `allocations_logged`.
-/

namespace ExprGraph

theorem Allocation.map_since_eq_self {record : List Entry}
    (nothing : ∀ handle, stores record handle = []) (allocations : List Allocation) :
    allocations.map (since record) = allocations := by
  have same : since record = fun allocation => allocation :=
    funext (fun allocation => since_eq_self (nothing allocation.handle))
  rw [same, List.map_id']

theorem Impact.allocated {graph : Graph} {changes : List Change} {entries : List Entry}
    (impact : Impact graph changes entries) :
    (graph.applyAll changes).allocated =
      (graph.allocated ++ graph.gather Graph.allocates changes).map (Allocation.since entries) := by
  cases impact with
  | quiet quiet =>
      rw [Graph.allocated_quiet quiet, Allocation.map_since_eq_self (fun _ => rfl)]
  | create accepted =>
      rw [Allocation.map_since_eq_self (fun _ => rfl)]
      exact graph.allocated_add _
  | @store root draft accepted isStore =>
      have added := Graph.allocated_collect (graph.add draft) root graph.next
      rw [Graph.allocated_add] at added
      exact added
  | @storeFirst first second isCombine noChildren isStore =>
      have added := Graph.allocated_collect ((graph.add first).add second) graph.next
        (graph.add first).next
      rw [Graph.allocated_add, Graph.allocated_add, List.append_assoc] at added
      exact added

/-- The nodes of the graph are those announced, in order, with the stores on record handed over to
them since. -/
def Graph.Recorded (graph : Graph) (record : List Entry) (events : List Event) : Prop :=
  ∃ made : List Allocation, graph.allocated = made.map (Allocation.since record) ∧
    events = made.map Allocation.event

theorem Graph.Recorded.impact {graph : Graph} {record entries : List Entry} {events : List Event}
    {changes : List Change} (recorded : graph.Recorded record events)
    (keeps : graph.Keeps record) (impact : Impact graph changes entries) :
    (graph.applyAll changes).Recorded (record ++ entries)
      (events ++ traceEvents (graph.announceAll changes)) := by
  obtain ⟨made, stands, rfl⟩ := recorded
  refine ⟨made ++ graph.gather allocates changes, ?_, ?_⟩
  · have fresh : ∀ allocation ∈ graph.gather allocates changes,
        allocation.since entries = allocation.since (record ++ entries) := by
      intro allocation member
      have unknown := keeps.stores_unknown (not_accepts_allocates member)
      rw [← Allocation.since_since, Allocation.since_eq_self unknown]
    rw [impact.allocated, stands, List.map_append, List.map_append, List.map_map,
      List.map_congr_left fresh]
    congr 1
    exact List.map_congr_left (fun allocation _ => allocation.since_since record entries)
  · rw [traceEvents_announceAll, List.map_append]

namespace Session

structure Logged (session : Session) (step : Step) (graph after : Graph) (made : List Allocation) :
    Prop where
  added : after.allocated =
    (graph.allocated ++ made).map (Allocation.since (session.entries step))
  traces : traceEvents (session.step step).2.events = made.map Allocation.event
  lines : (∀ index, step ≠ .mutate index .resetCounter) →
    (session.step step).2.events = made.flatMap (step.lines graph)
  reads : ∀ allocation ∈ made, step.readsPointers = true → allocation.opcode = .load →
    graph.ReadsPointer allocation

structure Logs (session : Session) (step : Step) : Prop where
  allocations : ∀ index graph, step.target? = some index → session.graphs[index]? = some graph →
    ∃ after made, (session.step step).1.graphs[index]? = some after ∧
      session.Logged step graph after made
  elsewhere : ∀ (index : Nat) (graph : Graph), step.target? ≠ some index →
    session.graphs[index]? = some graph →
      ∃ after, (session.step step).1.graphs[index]? = some after ∧ after.size = graph.size
  restarted : ∀ index graph, step = .mutate index .resetCounter →
    session.graphs[index]? = some graph →
      (session.step step).2.events = [.counterReset graph.numbering.next graph.size]
  refused : ∀ refusal, (session.step step).2.answer = .error refusal →
    (session.step step).2.events = []
  undirected : step.target? = none → (session.step step).2.events = []
  setter : ∀ index mutation, step = .mutate index mutation → mutation ≠ .resetCounter →
    (session.step step).2.events = []
  naming : ∀ index handle name given, step = .construct index (.setName handle name) given →
    (session.step step).2.events = []

section

variable {session : Session} {index : Nat} {graph : Graph} {step : Step}

theorem logged_step (directed : step.target? = some index)
    (found : session.graphs[index]? = some graph) :
    session.Logged step graph (graph.applyAll (session.changes index graph step))
      (graph.gather Graph.allocates (session.changes index graph step)) := by
  have announced := (step_carries directed found).events
  have impact := step_impact step found
  rw [toldAt, if_pos directed] at impact
  refine ⟨impact.allocated, ?_, ?_, ?_⟩
  · rw [announced, Graph.traceEvents_announceAll]
  · intro going
    have caused := changes_caused session graph directed (going index)
    rw [announced]
    exact Graph.announceAll_eq_flatMap (fun change member => (caused change member).announced) graph
  · intro allocation member reading isLoad
    by_cases going : step = .mutate index .resetCounter
    · subst going
      cases reading
    · obtain ⟨change, isChange, before, told⟩ := Graph.mem_gather member
      exact (changes_caused session graph directed going change isChange).reads told reading isLoad

theorem logs (session : Session) (step : Step) : session.Logs step where
  allocations := by
    intro index graph directed found
    have notReplace : step.isReplace = false := by
      cases step with
      | replace target handle source replacement => cases directed
      | _ => rfl
    exact ⟨_, _, step_graph_kept notReplace found, logged_step directed found⟩
  elsewhere := fun _ _ elsewhere found => size_elsewhere elsewhere found
  restarted := by
    rintro index graph rfl found
    rw [(step_carries rfl found).events]
    simp only [changes, Step.target?, if_true]
    rfl
  refused := fun _ refused => events_refused refused
  undirected := events_undirected
  setter := by
    rintro index mutation rfl going
    exact events_setter going
  naming := by
    rintro index handle name given rfl
    exact events_naming handle name given

end

def traces (session : Session) (step : Step) : List Event :=
  traceEvents (session.step step).2.events

theorem traces_changes {session : Session} {index : Nat} {graph : Graph} (step : Step)
    (found : session.graphs[index]? = some graph) :
    toldAt traces session index step =
      traceEvents (graph.announceAll (session.changes index graph step)) := by
  by_cases directed : step.target? = some index
  · rw [toldAt, if_pos directed, traces, (step_carries directed found).events]
  · rw [toldAt, if_neg directed, changes_other directed]
    rfl

def reports (session : Session) (step : Step) : List (List Entry × List Event) :=
  [(session.entries step, session.traces step)]

theorem toldAt_reports_entries (session : Session) (index : Nat) (step : Step) :
    (toldAt reports session index step).flatMap Prod.fst = toldAt entries session index step := by
  unfold toldAt reports
  split <;> simp

theorem toldAt_reports_traces (session : Session) (index : Nat) (step : Step) :
    (toldAt reports session index step).flatMap Prod.snd = toldAt traces session index step := by
  unfold toldAt reports
  split <;> simp

structure Reported (graph : Graph) (told : List (List Entry × List Event)) : Prop where
  keeps : graph.Keeps (told.flatMap Prod.fst)
  recorded : graph.Recorded (told.flatMap Prod.fst) (told.flatMap Prod.snd)

theorem reported_step (session : Session) (step : Step) (index : Nat) (graph : Graph)
    (told : List (List Entry × List Event)) (found : session.graphs[index]? = some graph)
    (reported : Reported graph told) :
    Reported (graph.applyAll (session.changes index graph step))
      (told ++ toldAt reports session index step) := by
  have impact := step_impact step found
  constructor
  · rw [List.flatMap_append, toldAt_reports_entries]
    exact reported.keeps.impact impact
  · rw [List.flatMap_append, List.flatMap_append, toldAt_reports_entries, toldAt_reports_traces,
      traces_changes step found]
    exact reported.recorded.impact reported.keeps impact

theorem reported_empty (id : UInt32) (options : Options) :
    Reported { id := id, options := options } [] :=
  ⟨Graph.Keeps.empty id options, [], rfl, rfl⟩

theorem chronicles_reports (steps : List Step) :
    chronicles entries steps = (chronicles reports steps).map (List.flatMap Prod.fst) ∧
      chronicles traces steps = (chronicles reports steps).map (List.flatMap Prod.snd) := by
  rw [← chronicles_flatMap, ← chronicles_flatMap]
  simp [reports]

/-- Every step announces the nodes it adds and what else there is to tell, and without replaced
nodes all that was announced of a graph is the list of its nodes as they were allocated. -/
theorem allocations_logged :
    (∀ (session : Session) (step : Step), session.Logs step) ∧
      ∀ steps, (∀ step ∈ steps, step.isReplace = false) → ∀ (index : Nat) (graph : Graph),
        (start.run steps).graphs[index]? = some graph →
          ∃ record events, (chronicles entries steps)[index]? = some record ∧
            (chronicles traces steps)[index]? = some events ∧ graph.Recorded record events := by
  refine ⟨logs, ?_⟩
  intro steps noReplace index graph found
  have chronicled := chronicled_run reported_empty reported_step steps noReplace
  obtain ⟨told, isTold, reported⟩ := chronicled.keeps index graph found
  obtain ⟨sameEntries, sameTraces⟩ := chronicles_reports steps
  refine ⟨_, _, ?_, ?_, reported.recorded⟩
  · rw [sameEntries, Array.getElem?_map, isTold]
    rfl
  · rw [sameTraces, Array.getElem?_map, isTold]
    rfl

def announcing : List Step :=
  [.construct 0 (.addr ⟨"x", .float32, 0⟩) (some "a"),
    .construct 0 (.pointer (some "a")) (some "p"),
    .construct 0 (.binary .add (some "p") (some "p")) (some "sum"),
    .store 0 "root" (some "p") (some "sum") none,
    .mutate 0 .resetCounter,
    .store 0 "root" (some "sum") (some "p") none,
    .cloneGraph 0,
    .store 1 "root" (some "p") (some "sum") none]

theorem announcing_logged :
    (∀ step ∈ announcing, step.isReplace = false) ∧
      ∃ graph, (start.run announcing).graphs[1]? = some graph ∧
        (view graph (.ref 0 5)).map Node.children = some [.ref 0 6, .ref 0 7] ∧
        (chronicles traces announcing)[1]? =
          some [.allocated 0 .addr 0, .allocated 1 .pointer 1, .allocated 2 .load 1,
            .allocated 3 .load 1, .allocated 4 .add 2, .allocated 5 .combine 0,
            .allocated 6 .store 2, .allocated 0 .store 2] ∧
        ∃ record events, (chronicles entries announcing)[1]? = some record ∧
          (chronicles traces announcing)[1]? = some events ∧ graph.Recorded record events :=
  ⟨by decide, _, rfl, rfl, rfl, allocations_logged.2 announcing (by decide) 1 _ rfl⟩

example : ((start.run
      [.construct 0 (.addr ⟨"x", .float32, 0⟩) (some "a"),
        .construct 0 (.pointer (some "a")) (some "p")]).step
      (.construct 0 (.binary .add (some "p") (some "p")) none)).2.events =
    [.dereferenced 1, .allocated 2 .load 1, .dereferenced 1, .allocated 3 .load 1,
      .allocated 4 .add 2] := rfl

end Session

end ExprGraph
