import ExprGraph.Proofs.Graph.Allocation
import ExprGraph.Proofs.Session.Evolution

/-!
Announcements: what a step tells while it allocates nodes, besides the nodes themselves.  Main
statements: `changes_caused`, by which loads come along only where operands are read and roots only
where stores are collected; `CausedBy.announced`, by which each change is announced accordingly; and
`events_eq_nil`, by which a step whose changes are silent announces nothing.
-/

namespace ExprGraph

def Construction.readsPointers : Construction ρ → Bool
  | binary _ _ _ | loadIfPointer _ | floor _ | cast _ _ => true
  | _ => false

theorem Construction.readsPointers_map (construction : Construction ρ) (resolve : ρ → τ) :
    (construction.map resolve).readsPointers = construction.readsPointers := by
  cases construction <;> rfl

namespace Step

def readsPointers : Step → Bool
  | .construct _ construction _ => construction.readsPointers
  | _ => false

def isStore : Step → Bool
  | .store _ _ _ _ _ => true
  | _ => false

end Step

def Graph.dereferences (graph : Graph) (handle : Handle) : List Event :=
  match graph.lookup handle with
  | .ok pointer => [.dereferenced pointer.id]
  | .error _ => []

def Step.lines (step : Step) (graph : Graph) (allocation : Allocation) : List Event :=
  (if step.readsPointers ∧ allocation.opcode = .load then
    allocation.children.flatMap graph.dereferences else []) ++
  allocation.event ::
  (if step.isStore ∧ allocation.opcode = .combine then [.rootCreated allocation.id] else [])

def Graph.ReadsPointer (graph : Graph) (allocation : Allocation) : Prop :=
  ∃ operand pointer, allocation.children = [operand] ∧ graph.lookup operand = .ok pointer ∧
    pointer.opcode = .pointer

/-- Why a change may be among those a step makes to a graph.  Loads come along only with steps that
read pointers, and roots with stores. -/
def Change.CausedBy (step : Step) (graph : Graph) : Change → Prop
  | .add .asked draft => ¬ (step.readsPointers ∧ draft.opcode = .load) ∧
      ¬ (step.isStore ∧ draft.opcode = .combine)
  | .add (.implied id) draft => step.readsPointers = true ∧ step.isStore = false ∧
      draft.opcode = .load ∧ ∃ operand pointer, draft.children = [operand] ∧
        graph.lookup operand = .ok pointer ∧ pointer.opcode = .pointer ∧ pointer.id = id
  | .add .collects draft => step.readsPointers = false ∧ step.isStore = true ∧
      draft.opcode = .combine
  | .edit _ _ => True
  | .restart => False

namespace Change.CausedBy

variable {step : Step} {graph : Graph} {change : Change}

theorem announced (caused : change.CausedBy step graph) (before : Graph) :
    before.announce change = (before.allocates change).flatMap (step.lines graph) := by
  cases change with
  | add cause draft =>
      cases cause with
      | asked =>
          simp only [Graph.allocates, List.flatMap_singleton, Step.lines, caused.1, caused.2,
            if_false]
          rfl
      | implied id =>
          obtain ⟨reads, notStore, isLoad, operand, pointer, child, found, _, rfl⟩ := caused
          simp [Graph.allocates, Graph.announce, Cause.announce, Step.lines, reads, notStore,
            isLoad, child, Graph.dereferences, found, Allocation.event]
      | collects =>
          obtain ⟨notReads, isStore, isCombine⟩ := caused
          simp [Graph.allocates, Graph.announce, Cause.announce, Step.lines, notReads, isStore,
            isCombine, Allocation.event]
  | edit handle edit => rfl
  | restart => exact caused.elim

theorem reads {before : Graph} {allocation : Allocation} (caused : change.CausedBy step graph)
    (member : allocation ∈ before.allocates change) (reading : step.readsPointers = true)
    (isLoad : allocation.opcode = .load) : graph.ReadsPointer allocation := by
  cases change with
  | add cause draft =>
      obtain rfl := List.mem_singleton.mp member
      cases cause with
      | asked => exact absurd ⟨reading, isLoad⟩ caused.1
      | implied id =>
          obtain ⟨_, _, _, operand, pointer, child, found, isPointer, _⟩ := caused
          exact ⟨operand, pointer, child, found, isPointer⟩
      | collects => cases caused.1.symm.trans reading
  | edit handle edit => cases member
  | restart => cases member

end Change.CausedBy

section

variable {step : Step} {graph : Graph}

theorem Graph.planLoaded_caused (between : Graph) {operand : Handle} {node : Node}
    (found : graph.lookup operand = .ok node) (reads : step.readsPointers = true)
    (notStore : step.isStore = false) :
    ∀ change ∈ (between.planLoaded operand node).changes, change.CausedBy step graph := by
  unfold planLoaded
  by_cases isPointer : node.opcode = .pointer
  · simp only [isPointer, if_true, List.mem_singleton, forall_eq]
    exact ⟨reads, notStore, rfl, operand, node, rfl, found, isPointer, rfl⟩
  · simp [isPointer]

theorem Change.CausedBy.of_asked {draft : Draft}
    (direct : step.readsPointers = false ∨ draft.opcode ≠ .load) (notStore : step.isStore = false) :
    (Change.add .asked draft).CausedBy step graph := by
  refine ⟨?_, by simp [notStore]⟩
  rintro ⟨reads, isLoad⟩
  rcases direct with notReads | notLoad
  · cases notReads.symm.trans reads
  · exact notLoad isLoad

theorem Graph.planAdd_caused {draft : Draft} {plan : Plan Handle}
    (planned : graph.planAdd draft = .ok plan) (direct : step.readsPointers = false)
    (notStore : step.isStore = false) :
    ∀ change ∈ plan.changes, change.CausedBy step graph := by
  obtain ⟨_, rfl⟩ := planAdd_cases planned
  intro change member
  rw [List.mem_singleton.mp member]
  exact .of_asked (.inl direct) notStore

theorem Graph.planUnary_caused {opcode : Opcode} {operand : Handle} {type : Node → DataType}
    {plan : Plan Handle} (planned : graph.planUnary opcode operand type = .ok plan)
    (notLoad : opcode ≠ .load) (reads : step.readsPointers = true)
    (notStore : step.isStore = false) :
    ∀ change ∈ plan.changes, change.CausedBy step graph := by
  obtain ⟨node, found, returned⟩ := ok_of_bind planned
  obtain rfl := Except.ok.inj returned
  intro change member
  rcases List.mem_append.mp member with loaded | added
  · exact planLoaded_caused graph found reads notStore change loaded
  · rw [List.mem_singleton.mp added]
    exact .of_asked (.inr notLoad) notStore

theorem Graph.planBinary_caused {op : BinaryOp} {left right : Handle} {plan : Plan Handle}
    (planned : graph.planBinary op left right = .ok plan) (reads : step.readsPointers = true)
    (notStore : step.isStore = false) :
    ∀ change ∈ plan.changes, change.CausedBy step graph := by
  obtain ⟨leftNode, foundLeft, afterLeft⟩ := ok_of_bind planned
  obtain ⟨rightNode, foundRight, afterRight⟩ := ok_of_bind afterLeft
  obtain ⟨_, _, returned⟩ := ok_of_bind afterRight
  obtain rfl := Except.ok.inj returned
  have notLoad : op.opcode ≠ .load := by cases op <;> decide
  intro change member
  rcases List.mem_append.mp member with first | later
  · exact planLoaded_caused graph foundLeft reads notStore change first
  · rcases List.mem_append.mp later with second | added
    · exact planLoaded_caused _ foundRight reads notStore change second
    · rw [List.mem_singleton.mp added]
      exact .of_asked (.inr notLoad) notStore

theorem Construction.plan_caused {construction : Construction Handle} {plan : Plan Handle}
    (planned : construction.plan graph = .ok plan)
    (reads : step.readsPointers = construction.readsPointers) (notStore : step.isStore = false) :
    ∀ change ∈ plan.changes, change.CausedBy step graph := by
  have idle : ∀ change ∈ ([] : List Change), change.CausedBy step graph := by
    intro change member
    cases member
  cases construction with
  | create opcode children =>
      obtain ⟨_, rfl⟩ := Graph.planCreate_cases planned
      intro change member
      rw [List.mem_singleton.mp member]
      exact .of_asked (.inl reads) notStore
  | binary op left right => exact Graph.planBinary_caused planned reads notStore
  | loadIfPointer operand =>
      obtain ⟨node, found, returned⟩ := ok_of_bind planned
      obtain rfl := Except.ok.inj returned
      exact Graph.planLoaded_caused graph found reads notStore
  | floor operand => exact Graph.planUnary_caused planned (by decide) reads notStore
  | cast operand dataType => exact Graph.planUnary_caused planned (by decide) reads notStore
  | pointer address =>
      obtain ⟨_, _, added⟩ := ok_of_bind planned
      exact Graph.planAdd_caused added reads notStore
  | pointerIndexed address displacement =>
      obtain ⟨_, _, added⟩ := ok_of_bind planned
      exact Graph.planAdd_caused added reads notStore
  | child parent position =>
      obtain ⟨handle, _, returned⟩ := ok_of_bind planned
      obtain rfl := Except.ok.inj returned
      exact idle
  | setName handle name =>
      obtain ⟨_, _, _, _, rfl⟩ := Graph.planEdit_cases planned
      intro change member
      rw [List.mem_singleton.mp member]
      exact trivial
  | empty =>
      obtain rfl := Except.ok.inj planned
      exact idle
  | _ => exact Graph.planAdd_caused planned reads notStore

theorem Graph.planStore_caused {root pointer value : Handle} {plan : Plan (Handle × Handle)}
    (planned : graph.planStore root pointer value = .ok plan) (direct : step.readsPointers = false)
    (isStore : step.isStore = true) : ∀ change ∈ plan.changes, change.CausedBy step graph := by
  obtain ⟨_, _, returned⟩ := ok_of_bind planned
  obtain rfl := Except.ok.inj returned
  intro change member
  rcases List.mem_append.mp member with made | written
  · cases root with
    | empty =>
        rw [List.mem_singleton.mp made]
        exact ⟨direct, isStore, rfl⟩
    | ref owner position => cases made
  · simp only [List.mem_cons, List.not_mem_nil, or_false] at written
    rcases written with rfl | rfl
    · exact ⟨by simp [direct], by simp [draft]⟩
    · exact trivial

theorem Mutation.plan_caused {mutation : Mutation Handle} {plan : Plan Unit}
    (planned : mutation.plan graph = .ok plan) (going : mutation ≠ .resetCounter) :
    ∀ change ∈ plan.changes, change.CausedBy step graph := by
  intro change member
  rcases Mutation.plan_cases planned with ⟨isReset, _⟩ | ⟨_, _, _, _, _, edited⟩
  · exact absurd isReset going
  · rw [edited] at member
    rw [List.mem_singleton.mp member]
    exact trivial

end

namespace Session

section

variable {session : Session} {index : Nat} {graph : Graph} {step : Step}

theorem changes_caused (session : Session) (graph : Graph) (directed : step.target? = some index)
    (going : step ≠ .mutate index .resetCounter) :
    ∀ change ∈ session.changes index graph step, change.CausedBy step graph := by
  apply changes_cases (P := fun changes => ∀ change ∈ changes, change.CausedBy step graph)
  · intro change member
    cases member
  · rintro construction name plan rfl planned
    exact Construction.plan_caused planned (construction.readsPointers_map _).symm rfl
  · rintro root pointer value name plan rfl planned
    exact Graph.planStore_caused planned rfl rfl
  · rintro mutation plan rfl planned
    apply Mutation.plan_caused planned
    intro isReset
    cases mutation with
    | resetCounter => exact going rfl
    | _ => cases isReset

theorem events_build (request : Build α) (finish : Session → Graph → α → Session × Answer) :
    (session.build index request finish).2.events =
      match session.graphs[index]? with
      | none => []
      | some graph => (request.run graph).events := by
  unfold build
  cases session.graphs[index]? with
  | none => rfl
  | some graph =>
      simp only [settle]
      cases (request.run graph).result <;> rfl

theorem events_overwrite (handle : Handle) (node : Node) (graph : Graph) :
    ((Build.overwrite handle node).run graph).events = [] := by
  rw [Build.overwrite, Build.run_update]
  cases graph.lookup handle <;> rfl

theorem events_undirected (undirected : step.target? = none) :
    (session.step step).2.events = [] := by
  cases step with
  | replace target handle source replacement =>
      cases isSource : session.graphs[source]? with
      | none => simp only [Session.step, isSource, refuse]
      | some copied =>
          cases found : copied.lookup (session.resolve replacement) with
          | error fault => simp only [Session.step, isSource, found, refuse]
          | ok node =>
              simp only [Session.step, isSource, found, events_build]
              cases session.graphs[target]? with
              | none => rfl
              | some graph => exact events_overwrite _ _ _
  | cloneGraph source =>
      simp only [Session.step]
      cases session.graphs[source]? <;> rfl
  | query target query =>
      simp only [Session.step]
      cases session.graphs[target]? <;> rfl
  | newGraph options => rfl
  | handle operand => rfl
  | compareHandles left right => rfl
  | distinctHandles operands => rfl
  | _ => cases undirected

theorem events_missing (directed : step.target? = some index)
    (missing : session.graphs[index]? = none) : (session.step step).2.events = [] := by
  cases step with
  | construct target construction name =>
      obtain rfl := Option.some.inj directed
      simp only [Session.step, build_missing missing]
      rfl
  | store target root pointer value name =>
      obtain rfl := Option.some.inj directed
      simp only [Session.step, missing]
      rfl
  | mutate target mutation =>
      obtain rfl := Option.some.inj directed
      simp only [Session.step, build_missing missing]
      rfl
  | _ => cases directed

theorem events_eq_nil (silent : ∀ index graph, step.target? = some index →
    session.graphs[index]? = some graph →
      graph.announceAll (session.changes index graph step) = []) :
    (session.step step).2.events = [] := by
  cases directed : step.target? with
  | none => exact events_undirected directed
  | some target =>
      cases found : session.graphs[target]? with
      | none => exact events_missing directed found
      | some graph => exact (step_carries directed found).events.trans (silent _ _ directed found)

theorem events_refused {refusal : Refusal}
    (refused : (session.step step).2.answer = .error refusal) :
    (session.step step).2.events = [] := by
  apply events_eq_nil
  intro index graph directed found
  rw [(step_carries directed found).refused refusal refused]
  rfl

theorem events_setter {mutation : Mutation Operand} (going : mutation ≠ .resetCounter) :
    (session.step (.mutate index mutation)).2.events = [] := by
  apply events_eq_nil
  rintro target graph ⟨rfl⟩ _
  simp only [changes, Step.target?, if_true]
  cases decided : (mutation.map session.resolve).plan graph with
  | error fault => rfl
  | ok plan =>
      rcases Mutation.plan_cases decided with ⟨isReset, _⟩ | ⟨_, _, _, _, _, edited⟩
      · cases mutation with
        | resetCounter => exact absurd rfl going
        | _ => cases isReset
      · rw [Plan.changesOf, edited]
        rfl

theorem events_naming (handle : Operand) (name : String) (given : Option String) :
    (session.step (.construct index (.setName handle name) given)).2.events = [] := by
  apply events_eq_nil
  rintro target graph ⟨rfl⟩ _
  simp only [changes, Step.target?, if_true]
  cases decided : ((Construction.setName handle name).map session.resolve).plan graph with
  | error fault => rfl
  | ok plan =>
      obtain ⟨_, _, _, _, rfl⟩ := Graph.planEdit_cases decided
      rfl

end

end Session

end ExprGraph
