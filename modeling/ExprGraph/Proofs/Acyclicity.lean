import ExprGraph.Proofs.Graph.Cycles
import ExprGraph.Proofs.Graph.Plan.Quiet
import ExprGraph.Proofs.Graph.Traversal
import ExprGraph.Proofs.Session.Evolution

/-!
When graphs have no cycles.  Children are there before their parents, but a store appends to a root
that is finished already; if the root can be reached from what is stored, it comes to be below
itself, and no traversal from it ends.  Nothing else closes a cycle, and nothing opens one again.
Main statements: `acyclic_iff_noCycleClosed` for a whole session, and `acyclic_after_step` for one
step of it.
-/

namespace ExprGraph

def Graph.Traversable (graph : Graph) : Prop :=
  ∀ root, graph.Accepts root →
    (∀ order, (graph.accept order root).interruption = none) ∧
      ∃ text, graph.dumpTree root = .ok text

def Graph.ClosesCycle (graph : Graph) (root pointer value : Handle) : Prop :=
  root ≠ .empty ∧ (graph.Reaches pointer root ∨ graph.Reaches value root)

theorem Graph.acyclicFrom_iff {graph : Graph} {root : Handle} :
    graph.AcyclicFrom root ↔ ∀ handle, graph.Reaches root handle → ¬ graph.OnCycle handle := by
  constructor
  · rintro acyclic handle reached ⟨child, edge, back⟩
    exact acyclic handle child reached edge back
  · intro none parent child reached edge back
    exact none parent reached ⟨child, edge, back⟩

theorem Graph.Closed.accept_completes_iff {graph : Graph} {root : Handle} (closed : graph.Closed)
    (accepted : graph.Accepts root) (order : VisitOrder) :
    (graph.accept order root).interruption = none ↔ graph.AcyclicFrom root := by
  refine ⟨fun ended => ?_, fun acyclic => accept_completes closed acyclic accepted order⟩
  obtain ⟨node, found⟩ := accepted
  simp only [accept, found] at ended
  refine acyclicFrom_iff.mpr (fun handle reached onCycle => ?_)
  exact Walk.endless_of_onCycle onCycle reached order _ ended

theorem Graph.Closed.dumpTree_completes_iff {graph : Graph} {root : Handle} (closed : graph.Closed)
    (accepted : graph.Accepts root) :
    (∃ text, graph.dumpTree root = .ok text) ↔ graph.AcyclicFrom root := by
  refine ⟨fun ended => ?_, fun acyclic => dumpTree_completes closed acyclic accepted⟩
  obtain ⟨text, isText⟩ := ended
  obtain ⟨node, found⟩ := accepted
  rw [dumpTree_eq found] at isText
  refine acyclicFrom_iff.mpr (fun handle reached onCycle => ?_)
  apply TreeDump.endless_of_onCycle onCycle reached (graph.visitBound + 1)
  split at isText
  next dump run => rw [run]
  next dump interruption run => cases isText

theorem Graph.Closed.traversable_iff {graph : Graph} (closed : graph.Closed) :
    graph.Traversable ↔ graph.Acyclic := by
  constructor
  · intro traversable parent child edge back
    have accepted := edge.accepts_parent
    have acyclic := (closed.dumpTree_completes_iff accepted).mp (traversable parent accepted).2
    exact acyclic parent child (.refl parent) edge back
  · intro acyclic root accepted
    constructor
    · intro order
      exact (closed.accept_completes_iff accepted order).mpr (acyclic.from root)
    · exact (closed.dumpTree_completes_iff accepted).mpr (acyclic.from root)

theorem Graph.Closed.acyclic_planStore_iff {graph : Graph} (closed : graph.Closed)
    {root pointer value : Handle} {plan : Plan (Handle × Handle)}
    (planned : graph.planStore root pointer value = .ok plan) :
    (graph.applyAll plan.changes).Acyclic ↔
      graph.Acyclic ∧ ¬ graph.ClosesCycle root pointer value := by
  obtain ⟨_, checked, returned⟩ := ok_of_bind planned
  obtain ⟨isPointer, valueAccepted, isRoot⟩ := (checkStore_eq_ok_iff _ _ _ _).mp checked
  obtain rfl := Except.ok.inj returned
  have accepted : ∀ child ∈ [pointer, value], graph.Accepts child := by
    simpa using ⟨accepts_of_opcode isPointer, valueAccepted⟩
  cases root with
  | empty =>
      have valid : graph.ValidAll (graph.planCollector .empty).changes :=
        (planCollector_valid (.inl rfl)).1
      refine (closed.acyclic_storeFirst_iff valid.1 accepted).trans ?_
      simp [ClosesCycle]
  | ref owner position =>
      have known := accepts_of_opcode (opcode_of_root isRoot)
      have apart : (∀ child ∈ [pointer, value], ¬ graph.Reaches child (.ref owner position)) ↔
          ¬ graph.ClosesCycle (.ref owner position) pointer value := by
        simp [ClosesCycle]
      exact (closed.acyclic_store_iff .asked accepted known).trans (and_congr_right fun _ => apart)

theorem Change.Quiet.not_collects {change : Change} (quiet : change.Quiet) :
    ¬ change.Collects := by
  intro collects
  cases change with
  | edit handle edit =>
      cases edit with
      | collect store => exact quiet
      | _ => exact collects
  | _ => exact collects

theorem Construction.plan_collects {construction : Construction Handle} {graph : Graph}
    {plan : Plan Handle} (planned : construction.plan graph = .ok plan) :
    ∀ change ∈ plan.changes, ¬ change.Collects := by
  intro change member
  by_cases isCombine : ∃ children, construction = .create .combine children
  · obtain ⟨children, rfl⟩ := isCombine
    obtain ⟨_, rfl⟩ := Graph.planCreate_cases planned
    rw [List.mem_singleton.mp member]
    exact fun isEdit => isEdit
  · have notCombine : ∀ children, construction ≠ .create .combine children :=
      fun children same => isCombine ⟨children, same⟩
    exact (plan_quiet planned notCombine change member).not_collects

theorem Mutation.plan_collects {mutation : Mutation Handle} {graph : Graph} {plan : Plan Unit}
    (planned : mutation.plan graph = .ok plan) : ∀ change ∈ plan.changes, ¬ change.Collects :=
  fun change member => (plan_quiet planned change member).not_collects

namespace Session

def Succeeds (session : Session) (step : Step) : Prop :=
  ∃ answer, (session.step step).2.answer = .ok answer

/-- The step is a store that succeeds on this graph, and puts under a root that is there already
something from which that root can be reached. -/
def ClosesCycle (session : Session) (index : Nat) (step : Step) : Prop :=
  ∃ root pointer value name graph,
    step = .store index root pointer value name ∧ session.graphs[index]? = some graph ∧
      session.Succeeds step ∧
      graph.ClosesCycle (session.resolve root) (session.resolve pointer) (session.resolve value)

theorem acyclic_store_iff {session : Session} {index : Nat} {graph : Graph} {root : String}
    {pointer value : Operand} (name : Option String) (closed : graph.Closed)
    (found : session.graphs[index]? = some graph) :
    (graph.applyAll (session.changes index graph (.store index root pointer value name))).Acyclic ↔
      graph.Acyclic ∧ ¬ session.ClosesCycle index (.store index root pointer value name) := by
  simp only [changes, Step.target?, if_true]
  cases decided : graph.planStore (session.resolve root) (session.resolve pointer)
      (session.resolve value) with
  | error fault =>
      have harmless : ¬ session.ClosesCycle index (.store index root pointer value name) := by
        rintro ⟨_, _, _, _, _, _, _, ⟨answer, answered⟩, _⟩
        rw [step_store_refused found decided] at answered
        cases answered
      simp [Plan.changesOf, harmless]
  | ok plan =>
      have closes : session.ClosesCycle index (.store index root pointer value name) ↔
          graph.ClosesCycle (session.resolve root) (session.resolve pointer)
            (session.resolve value) := by
        constructor
        · rintro ⟨_, _, _, _, other, same, foundAgain, _, closes⟩
          cases same
          obtain rfl := Option.some.inj (found.symm.trans foundAgain)
          exact closes
        · intro closes
          have succeeds : session.Succeeds (.store index root pointer value name) := by
            rw [Succeeds, step_store_done found decided]
            exact ⟨_, rfl⟩
          exact ⟨root, pointer, value, name, graph, rfl, found, succeeds, closes⟩
      rw [closes]
      exact closed.acyclic_planStore_iff decided

theorem changes_collects {session : Session} {index : Nat} (graph : Graph) {step : Step}
    (notStore : ∀ root pointer value name, step ≠ .store index root pointer value name) :
    ∀ change ∈ session.changes index graph step, ¬ change.Collects := by
  apply changes_cases (P := fun changes => ∀ change ∈ changes, ¬ change.Collects)
  · intro change member
    cases member
  · intro construction name plan _ planned
    exact Construction.plan_collects planned
  · intro root pointer value name plan isStore _
    exact (notStore root pointer value name isStore).elim
  · intro mutation plan _ planned
    exact Mutation.plan_collects planned

theorem acyclic_step_iff {session : Session} {index : Nat} {graph : Graph} (step : Step)
    (closed : graph.Closed) (found : session.graphs[index]? = some graph) :
    (graph.applyAll (session.changes index graph step)).Acyclic ↔
      graph.Acyclic ∧ ¬ session.ClosesCycle index step := by
  by_cases isStore : ∃ root pointer value name, step = .store index root pointer value name
  · obtain ⟨root, pointer, value, name, rfl⟩ := isStore
    exact acyclic_store_iff name closed found
  · have notStore : ∀ root pointer value name, step ≠ .store index root pointer value name :=
      fun root pointer value name same => isStore ⟨root, pointer, value, name, same⟩
    have harmless : ¬ session.ClosesCycle index step := by
      rintro ⟨root, pointer, value, name, _, same, _⟩
      exact notStore root pointer value name same
    have kept := closed.acyclic_applyAll_iff (session.changes_valid index graph step)
      (changes_collects graph notStore)
    rw [kept]
    simp [harmless]

def Acyclic (session : Session) : Prop := ∀ graph ∈ session.graphs, graph.Acyclic

def Closed (session : Session) : Prop := ∀ graph ∈ session.graphs, graph.Closed

theorem Closed.step {session : Session} {step : Step} (closed : session.Closed)
    (notReplace : step.isReplace = false) : (session.step step).1.Closed :=
  graphs_step Graph.closed_empty (fun _ _ held valid => held.apply valid) closed notReplace

theorem acyclic_empty (id : UInt32) (options : Options) :
    Graph.Acyclic { id := id, options := options } := by
  intro parent child edge
  exact (Graph.not_accepts_empty id options parent edge.accepts_parent).elim

theorem Closed.acyclic_step {session : Session} {step : Step} (closed : session.Closed)
    (notReplace : step.isReplace = false) :
    (session.step step).1.Acyclic ↔
      session.Acyclic ∧ ∀ index, ¬ session.ClosesCycle index step := by
  constructor
  · intro acyclic
    have before : ∀ index (graph : Graph), session.graphs[index]? = some graph →
        graph.Acyclic ∧ ¬ session.ClosesCycle index step := by
      intro index graph found
      have kept := step_graph_kept notReplace found
      exact (acyclic_step_iff step (closed graph (Array.mem_of_getElem? found)) found).mp
        (acyclic _ (Array.mem_of_getElem? kept))
    constructor
    · intro graph member
      obtain ⟨index, found⟩ := Array.mem_iff_getElem?.mp member
      exact (before index graph found).1
    · rintro index ⟨root, pointer, value, name, graph, isStore, found, closes⟩
      exact (before index graph found).2 ⟨root, pointer, value, name, graph, isStore, found, closes⟩
  · rintro ⟨acyclic, harmless⟩ after member
    obtain ⟨index, found⟩ := Array.mem_iff_getElem?.mp member
    rcases step_graph_cases notReplace found with ⟨graph, before, rfl⟩ | ⟨_, new | copied⟩
    · have isGraph := Array.mem_of_getElem? before
      exact (acyclic_step_iff step (closed graph isGraph) before).mpr
        ⟨acyclic graph isGraph, harmless index⟩
    · obtain ⟨options, _, rfl⟩ := new
      exact acyclic_empty _ options
    · obtain ⟨source, _, before⟩ := copied
      exact acyclic after (Array.mem_of_getElem? before)

theorem Closed.acyclic_run {session : Session} (closed : session.Closed) (steps : List Step)
    (noReplace : ∀ step ∈ steps, step.isReplace = false) :
    (session.run steps).Acyclic ↔
      session.Acyclic ∧ ∀ before step after index, steps = before ++ step :: after →
        ¬ (session.run before).ClosesCycle index step := by
  induction steps generalizing session with
  | nil => simp [run]
  | cons first rest ih =>
      have notReplace := noReplace first List.mem_cons_self
      have later := ih (closed.step notReplace)
        (fun step member => noReplace step (List.mem_cons_of_mem _ member))
      refine later.trans ?_
      rw [closed.acyclic_step notReplace]
      constructor
      · rintro ⟨⟨acyclic, harmless⟩, restHarmless⟩
        refine ⟨acyclic, ?_⟩
        intro before step after index split
        cases before with
        | nil =>
            cases split
            exact harmless index
        | cons _ before =>
            cases split
            exact restHarmless before step after index rfl
      · rintro ⟨acyclic, harmless⟩
        refine ⟨⟨acyclic, fun index => harmless [] first rest index rfl⟩, ?_⟩
        intro before step after index split
        exact harmless (first :: before) step after index (by rw [split]; rfl)

def NoCycleClosed (steps : List Step) : Prop :=
  ∀ before step after index, steps = before ++ step :: after →
    ¬ (start.run before).ClosesCycle index step

/-- In a session without replaced nodes no node is below itself, and every traversal ends, exactly
when no store put a root below itself. -/
theorem acyclic_iff_noCycleClosed (steps : List Step)
    (noReplace : ∀ step ∈ steps, step.isReplace = false) :
    ((∀ graph ∈ (start.run steps).graphs, graph.Acyclic) ↔ NoCycleClosed steps) ∧
      ((∀ graph ∈ (start.run steps).graphs, graph.Traversable) ↔ NoCycleClosed steps) := by
  have closed : (start.run steps).Closed :=
    graphs_of_changes Graph.closed_empty (fun _ _ held valid => held.apply valid) steps noReplace
  have acyclic : (start.run steps).Acyclic ↔ NoCycleClosed steps := by
    have closedStart : start.Closed := graphs_start (Graph.closed_empty 0 {})
    rw [closedStart.acyclic_run steps noReplace]
    exact and_iff_right (graphs_start (acyclic_empty 0 {}))
  refine ⟨acyclic, Iff.trans ?_ acyclic⟩
  constructor
  · intro traversable graph member
    exact (closed graph member).traversable_iff.mp (traversable graph member)
  · intro isAcyclic graph member
    exact (closed graph member).traversable_iff.mpr (isAcyclic graph member)

def storingRoot : List Step :=
  [.construct 0 (.addr ⟨"x", .float32, 0⟩) (some "a"),
    .construct 0 (.pointer (some "a")) (some "p"),
    .construct 0 (.index 7) (some "v"),
    .store 0 "root" (some "p") (some "v") none,
    .store 0 "root" (some "p") (some "root") none]

theorem storingRoot_cyclic : ∃ graph ∈ (start.run storingRoot).graphs, ¬ graph.Acyclic := by
  have edgeDown : ∃ graph, (start.run storingRoot).graphs[0]? = some graph ∧
      graph.Edge (.ref 0 3) (.ref 0 5) ∧ graph.Edge (.ref 0 5) (.ref 0 3) :=
    ⟨_, rfl, ⟨_, rfl, by decide⟩, ⟨_, rfl, by decide⟩⟩
  obtain ⟨graph, found, down, up⟩ := edgeDown
  exact ⟨graph, Array.mem_of_getElem? found, fun acyclic => acyclic _ _ down up.reaches⟩

theorem not_always_acyclic :
    ¬ ∀ steps : List Step, (∀ step ∈ steps, step.isReplace = false) →
      ∀ graph ∈ (start.run steps).graphs, graph.Acyclic ∧ graph.Traversable := by
  intro always
  obtain ⟨graph, member, cyclic⟩ := storingRoot_cyclic
  exact cyclic (always storingRoot (by decide) graph member).1

theorem storingRoot_closes_cycle :
    (∀ step ∈ storingRoot, step.isReplace = false) ∧ ¬ NoCycleClosed storingRoot := by
  refine ⟨by decide, ?_⟩
  intro harmless
  obtain ⟨graph, member, cyclic⟩ := storingRoot_cyclic
  exact cyclic ((acyclic_iff_noCycleClosed storingRoot (by decide)).1.mpr harmless graph member)

def Extends (session : Session) (index : Nat) (step : Step) (root pointer value : Handle) : Prop :=
  ∃ rootName pointerName valueName label,
    step = .store index rootName pointerName valueName label ∧ session.Succeeds step ∧
      session.resolve rootName = root ∧ root ≠ .empty ∧ session.resolve pointerName = pointer ∧
        session.resolve valueName = value

theorem closesCycle_iff {session : Session} {index : Nat} {graph : Graph} {step : Step}
    (found : session.graphs[index]? = some graph) :
    session.ClosesCycle index step ↔ ∃ root pointer value,
      session.Extends index step root pointer value ∧
        (graph.Reaches pointer root ∨ graph.Reaches value root) := by
  constructor
  · rintro ⟨root, pointer, value, label, other, isStore, isGraph, succeeds, nonempty, reaches⟩
    obtain rfl := Option.some.inj (found.symm.trans isGraph)
    exact ⟨_, _, _, ⟨root, pointer, value, label, isStore, succeeds, rfl, nonempty, rfl, rfl⟩,
      reaches⟩
  · rintro ⟨_, _, _, ⟨root, pointer, value, label, isStore, succeeds, rfl, nonempty, rfl, rfl⟩,
      reaches⟩
    exact ⟨root, pointer, value, label, graph, isStore, found, succeeds, nonempty, reaches⟩

theorem Extends.unique {session : Session} {index : Nat} {step : Step}
    {root pointer value otherRoot otherPointer otherValue : Handle}
    (first : session.Extends index step root pointer value)
    (second : session.Extends index step otherRoot otherPointer otherValue) :
    otherRoot = root ∧ otherPointer = pointer ∧ otherValue = value := by
  obtain ⟨_, _, _, _, rfl, _, rfl, _, rfl, rfl⟩ := first
  obtain ⟨_, _, _, _, same, _, rfl, _, rfl, rfl⟩ := second
  cases same
  exact ⟨rfl, rfl, rfl⟩

structure StaysAcyclic (session : Session) (index : Nat) (step : Step) (graph after : Graph) :
    Prop where
  other : (∀ root pointer value, ¬ session.Extends index step root pointer value) → after.Acyclic
  extended : ∀ root pointer value, session.Extends index step root pointer value →
    (after.Acyclic ↔ ¬ graph.Reaches pointer root ∧ ¬ graph.Reaches value root)
  copied : ∀ copy, step = .cloneGraph index →
    (session.step step).1.graphs[session.graphs.size]? = some copy → copy.Acyclic

/-- From a graph without cycles only a store under a root that is there already can lead to one with
a cycle, and it does so exactly when it stores something from which the root can be reached. -/
theorem acyclic_after_step (steps : List Step) (noReplace : ∀ step ∈ steps, step.isReplace = false)
    (step : Step) (notReplace : step.isReplace = false) (index : Nat) (graph : Graph)
    (found : (start.run steps).graphs[index]? = some graph) (acyclic : graph.Acyclic) :
    ∃ after, ((start.run steps).step step).1.graphs[index]? = some after ∧
      (start.run steps).StaysAcyclic index step graph after := by
  have closed : (start.run steps).Closed :=
    graphs_of_changes Graph.closed_empty (fun _ _ held valid => held.apply valid) steps noReplace
  have changed := acyclic_step_iff step (closed graph (Array.mem_of_getElem? found)) found
  rw [closesCycle_iff found, and_iff_right acyclic] at changed
  refine ⟨_, step_graph_kept notReplace found, ?_, ?_, ?_⟩
  · intro noStore
    apply changed.mpr
    rintro ⟨root, pointer, value, extended, _⟩
    exact noStore root pointer value extended
  · intro root pointer value extended
    rw [changed, ← not_or]
    apply not_congr
    constructor
    · rintro ⟨_, _, _, again, reaches⟩
      obtain ⟨rfl, rfl, rfl⟩ := extended.unique again
      exact reaches
    · intro reaches
      exact ⟨root, pointer, value, extended, reaches⟩
  · rintro copy rfl isCopy
    rw [graphs_clone found, Array.getElem?_push_size] at isCopy
    obtain rfl := Option.some.inj isCopy
    exact acyclic

def displacingByRoot : List Step :=
  [.construct 0 (.addr ⟨"x", .float32, 0⟩) (some "a"),
    .construct 0 (.pointer (some "a")) (some "p"),
    .construct 0 (.index 7) (some "v"),
    .store 0 "root" (some "p") (some "v") none,
    .construct 0 (.load (some "root")) (some "i"),
    .construct 0 (.pointerIndexed (some "a") (some "i")) (some "q")]

theorem displacingByRoot_graph : ∃ graph, (start.run displacingByRoot).graphs[0]? = some graph ∧
    graph.Acyclic ∧ graph.Reaches (.ref 0 6) (.ref 0 3) := by
  have edges : ∃ graph, (start.run displacingByRoot).graphs[0]? = some graph ∧
      graph.Edge (.ref 0 6) (.ref 0 5) ∧ graph.Edge (.ref 0 5) (.ref 0 3) :=
    ⟨_, rfl, ⟨_, rfl, by decide⟩, ⟨_, rfl, by decide⟩⟩
  obtain ⟨graph, found, first, second⟩ := edges
  refine ⟨graph, found, ?_, .step first second.reaches⟩
  obtain rfl := Option.some.inj found
  apply Graph.acyclic_of_falling
    (fun handle => handle.position?.elim 0 (fun position => [0, 1, 2, 4, 3, 5, 6].getD position 0))
  decide

theorem displacingByRoot_closes :
    (∀ step ∈ displacingByRoot, step.isReplace = false) ∧
      ∃ graph, (start.run displacingByRoot).graphs[0]? = some graph ∧ graph.Acyclic ∧
        ∃ after, ((start.run displacingByRoot).step
            (.store 0 "root" (some "q") (some "v") none)).1.graphs[0]? = some after ∧
          (start.run displacingByRoot).StaysAcyclic 0
            (.store 0 "root" (some "q") (some "v") none) graph after ∧ ¬ after.Acyclic := by
  obtain ⟨graph, found, acyclic, reaches⟩ := displacingByRoot_graph
  obtain ⟨after, isAfter, stays⟩ := acyclic_after_step displacingByRoot (by decide)
    (.store 0 "root" (some "q") (some "v") none) rfl 0 graph found acyclic
  refine ⟨by decide, graph, found, acyclic, after, isAfter, stays, ?_⟩
  have extended : (start.run displacingByRoot).Extends 0
      (.store 0 "root" (some "q") (some "v") none) (.ref 0 3) (.ref 0 6) (.ref 0 2) :=
    ⟨_, _, _, _, rfl, ⟨_, rfl⟩, rfl, by decide, rfl, rfl⟩
  intro isAcyclic
  exact ((stays.extended _ _ _ extended).mp isAcyclic).1 reaches

end Session

end ExprGraph
