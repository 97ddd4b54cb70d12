import ExprGraph.Proofs.Session.Evolution

/-!
Refused steps leave no trace.  A request is decided before it changes anything, so a step that is
answered with a refusal has changed no graph and no name, and has announced nothing.  This holds in
every session, however its graphs and names came about.
-/

namespace ExprGraph

def Build.Atomic (request : Build α) : Prop :=
  ∀ graph fault, (request.run graph).result = .error fault →
    request.run graph = ⟨.error fault, graph, []⟩

theorem Build.atomic_of_planned {request : Build α} (plan : Graph → Except Fault (Plan α))
    (ran : ∀ graph, request.run graph = graph.carryOut (plan graph)) : request.Atomic := by
  intro graph fault failed
  rw [ran graph] at failed ⊢
  cases decided : plan graph with
  | error other =>
      rw [decided] at failed
      rw [Except.error.inj failed]
      rfl
  | ok done =>
      rw [decided] at failed
      cases failed

theorem Build.atomic_overwrite (handle : Handle) (node : Node) :
    (Build.overwrite handle node).Atomic := by
  intro graph fault failed
  unfold Build.overwrite at failed ⊢
  rw [Build.run_update] at failed ⊢
  cases found : graph.lookup handle with
  | error other =>
      rw [found] at failed
      rw [Except.error.inj failed]
  | ok old =>
      rw [found] at failed
      cases failed

namespace Session

structure Untouched (session : Session) (outcome : Session × Reply) : Prop where
  graphs : outcome.1.graphs = session.graphs
  nextId : outcome.1.nextId = session.nextId
  names : ∀ operand, outcome.1.resolve operand = session.resolve operand
  events : outcome.2.events = []

theorem untouched_refuse (session : Session) (refusal : Refusal) :
    session.Untouched (session.refuse refusal) :=
  ⟨rfl, rfl, fun _ => rfl, rfl⟩

theorem untouched_build {session : Session} {target : Nat} {request : Build α}
    {finish : Session → Graph → α → Session × Answer} {refusal : Refusal}
    (atomic : request.Atomic)
    (refused : (session.build target request finish).2.answer = .error refusal) :
    session.Untouched (session.build target request finish) := by
  cases found : session.graphs[target]? with
  | none =>
      rw [build_missing found]
      exact untouched_refuse session _
  | some graph =>
      cases result : (request.run graph).result with
      | error fault =>
          rw [build_refused found (atomic graph fault result)]
          exact untouched_refuse session _
      | ok value =>
          simp only [build, found, settle, result] at refused
          cases refused

theorem untouched_store {session : Session} {target : Nat} {root : String}
    {pointer value : Operand} {name : Option String} {refusal : Refusal}
    (refused : (session.step (.store target root pointer value name)).2.answer = .error refusal) :
    session.Untouched (session.step (.store target root pointer value name)) := by
  cases found : session.graphs[target]? with
  | none =>
      simp only [step, found]
      exact untouched_refuse session _
  | some graph =>
      cases decided : graph.planStore (session.resolve root) (session.resolve pointer)
          (session.resolve value) with
      | error fault =>
          rw [step_store_refused found decided]
          refine ⟨graphs_bind _ _ _, nextId_bind _ _ _, ?_, rfl⟩
          intro operand
          rw [resolve_bind]
          split
          next isRoot => rw [isRoot]
          next => rfl
      | ok plan =>
          rw [step_store_done found decided] at refused
          cases refused

/-- A step that is refused, whatever is wrong with it, changes nothing that can be observed. -/
theorem refused_step_untouched (session : Session) (step : Step) (refusal : Refusal)
    (refused : (session.step step).2.answer = .error refusal) :
    session.Untouched (session.step step) := by
  cases step with
  | construct target construction name =>
      exact untouched_build (Build.atomic_of_planned _ (Construction.run_build _)) refused
  | store target root pointer value name => exact untouched_store refused
  | mutate target mutation =>
      exact untouched_build (Build.atomic_of_planned _ (Mutation.run_build _)) refused
  | replace target handle source replacement =>
      simp only [Session.step] at refused ⊢
      split at refused
      next => exact untouched_refuse session _
      next graph _ =>
        split at refused
        next => exact untouched_refuse session _
        next node _ => exact untouched_build (Build.atomic_overwrite _ node) refused
  | newGraph options => cases refused
  | cloneGraph source =>
      simp only [Session.step] at refused ⊢
      split at refused
      next => exact untouched_refuse session _
      next => cases refused
  | query target query =>
      simp only [Session.step]
      split
      next => exact untouched_refuse session _
      next => exact ⟨rfl, rfl, fun _ => rfl, rfl⟩
  | handle operand => cases refused
  | compareHandles left right => cases refused
  | distinctHandles operands => cases refused

def foreignRoot : List Step :=
  [.construct 0 (.addr ⟨"x", .float32, 0⟩) (some "a"),
    .construct 0 (.pointer (some "a")) (some "p"),
    .construct 0 (.constant (.int32 2)) (some "v"),
    .newGraph { defaultDataType := .int64 },
    .construct 1 (.create .combine []) (some "root")]

theorem foreignRoot_untouched :
    ((start.run foreignRoot).step (.store 0 "root" (some "p") (some "v") (some "root"))).2.answer =
        .error (.ofFault .unknownNode) ∧
      (start.run foreignRoot).Untouched
        ((start.run foreignRoot).step (.store 0 "root" (some "p") (some "v") (some "root"))) :=
  ⟨rfl, refused_step_untouched _ _ _ rfl⟩

end Session

end ExprGraph
