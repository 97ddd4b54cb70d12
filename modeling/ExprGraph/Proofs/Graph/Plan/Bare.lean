import ExprGraph.Proofs.Graph.Bare
import ExprGraph.Proofs.Graph.Plan.Quiet
import ExprGraph.Proofs.Graph.Plan.Run

/-!
Bare plans: what is planned for a graph can be read off the bare graph, so that a request has the
same outcome in two graphs that are alike, but for numbers and notes.  Main statements:
`Construction.build_alike` and `store_alike`.
-/

namespace ExprGraph

def Plan.bare (plan : Plan α) : Plan α := { plan with changes := plan.changes.map Change.bare }

theorem Change.bare_bare (change : Change) : change.bare.bare = change.bare := by
  cases change with
  | add cause draft => cases cause <;> rfl
  | edit handle edit => rfl
  | restart => rfl

theorem map_bare_bare (changes : List Change) :
    (changes.map Change.bare).map Change.bare = changes.map Change.bare := by
  rw [List.map_map]
  exact List.map_congr_left (fun change _ => change.bare_bare)

theorem checkOperands_bare (opcode : Opcode) (children : List Handle) (graph : Graph) :
    Build.checkOperands opcode children graph.bare =
      Build.checkOperands opcode children graph := by
  unfold Build.checkOperands
  cases Build.immediateBuilder? opcode with
  | some builder => rfl
  | none =>
      cases Build.firstOperand? opcode with
      | none => rfl
      | some expected =>
          cases children with
          | nil => rfl
          | cons first rest => exact graph.expectOpcode_bare first expected

namespace Graph

@[simp] theorem next_bare (graph : Graph) : graph.bare.next = graph.next := by
  rw [next, next, handleAt_bare, size_bare]

section

variable {first second : Graph} (alike : first.bare = second.bare)

include alike

theorem lookup_alike (handle : Handle) :
    (first.lookup handle).map Node.bare = (second.lookup handle).map Node.bare := by
  rw [← lookup_bare, ← lookup_bare, alike]

theorem next_alike : second.next = first.next := by
  rw [← next_bare second, ← alike, next_bare]

theorem draft_alike (opcode : Opcode) (children : List Handle) :
    second.draft opcode children = first.draft opcode children := by
  have same := congrArg (fun graph => graph.options.defaultDataType) alike.symm
  simp only [options_bare] at same
  simp only [draft, same]

theorem planLoaded_alike (operand : Handle) (node : Node) :
    second.planLoaded operand node.bare = (first.planLoaded operand node).bare := by
  have isPointer : (node.bare.opcode = .pointer) = (node.opcode = .pointer) := rfl
  simp only [planLoaded, isPointer, next_alike alike, draft_alike alike]
  split <;> rfl

end

variable (graph : Graph)

theorem applyAll_alike (changes : List Change) :
    (graph.applyAll changes).bare = (graph.bare.applyAll (changes.map Change.bare)).bare :=
  (bare_applyAll graph.bare_bare.symm (map_bare_bare changes).symm).1

theorem planAdd_bare (draft : Draft) :
    graph.bare.planAdd draft = (graph.planAdd draft).map Plan.bare := by
  simp only [planAdd, checkAll_bare, next_bare]
  cases graph.checkAll draft.children <;> rfl

theorem planCreate_bare (opcode : Opcode) (children : List Handle) :
    graph.bare.planCreate opcode children = (graph.planCreate opcode children).map Plan.bare := by
  simp only [planCreate, checkOperands_bare]
  cases require (opcode.arity.accepts children.length)
      (.arityMismatch opcode opcode.arity children.length) with
  | error fault => rfl
  | ok _ =>
      cases Build.checkOperands opcode children graph with
      | error fault => rfl
      | ok _ => exact graph.planAdd_bare (graph.draft opcode children)

theorem planUnary_bare (opcode : Opcode) (operand : Handle) {type : Node → DataType}
    (untouched : ∀ node, type node.bare = type node) :
    graph.bare.planUnary opcode operand type =
      (graph.planUnary opcode operand type).map Plan.bare := by
  simp only [planUnary, lookup_bare]
  cases graph.lookup operand with
  | error fault => rfl
  | ok node =>
      have loaded := planLoaded_alike graph.bare_bare.symm operand node
      have after := next_alike (graph.applyAll_alike (graph.planLoaded operand node).changes)
      simp only [Except.map, bind, Except.bind, pure, Except.pure, loaded, untouched]
      simp only [Plan.bare, after, List.map_append]
      rfl

theorem planBinary_bare (op : BinaryOp) (left right : Handle) :
    graph.bare.planBinary op left right = (graph.planBinary op left right).map Plan.bare := by
  simp only [planBinary, lookup_bare]
  cases graph.lookup left with
  | error fault => rfl
  | ok leftNode =>
      cases graph.lookup right with
      | error fault => rfl
      | ok rightNode =>
          have sameTypes : require (leftNode.bare.dataType = rightNode.bare.dataType)
                (.typeMismatch op.opcode leftNode.bare.dataType rightNode.bare.dataType) =
              require (leftNode.dataType = rightNode.dataType)
                (.typeMismatch op.opcode leftNode.dataType rightNode.dataType) := rfl
          have loaded := planLoaded_alike graph.bare_bare.symm left leftNode
          have between := graph.applyAll_alike (graph.planLoaded left leftNode).changes
          have loadedNext := planLoaded_alike between right rightNode
          have after := fun changes =>
            next_alike (bare_applyAll between (map_bare_bare changes).symm).1
          simp only [Except.map, bind, Except.bind, pure, Except.pure, sameTypes, loaded]
          cases require (leftNode.dataType = rightNode.dataType)
              (.typeMismatch op.opcode leftNode.dataType rightNode.dataType) with
          | error fault => rfl
          | ok _ =>
              simp only [Plan.bare] at loadedNext ⊢
              simp only [loadedNext, after, List.map_append]
              rfl

theorem planPointer_bare (address : Handle) (rest : List Handle) :
    graph.bare.planPointer address rest = (graph.planPointer address rest).map Plan.bare := by
  simp only [planPointer, expectOpcode_bare]
  cases graph.expectOpcode address .addr with
  | error fault => rfl
  | ok _ => exact graph.planAdd_bare (graph.draft .pointer (address :: rest))

theorem planEdit_bare (handle : Handle) (answer : α) {edit : Node → Except Fault Edit}
    (untouched : ∀ node, edit node.bare = edit node) :
    graph.bare.planEdit handle answer edit = (graph.planEdit handle answer edit).map Plan.bare := by
  simp only [planEdit, lookup_bare]
  cases graph.lookup handle with
  | error fault => rfl
  | ok node =>
      simp only [Except.map, bind, Except.bind, untouched]
      cases edit node <;> rfl

theorem checkStore_bare (root pointer value : Handle) :
    graph.bare.checkStore root pointer value = graph.checkStore root pointer value := by
  simp only [checkStore, expectOpcode_bare]
  cases graph.expectOpcode pointer .pointer with
  | error fault => rfl
  | ok _ => exact graph.bind_lookup_bare value (fun _ => rfl)

theorem planStore_bare (root pointer value : Handle) :
    graph.bare.planStore root pointer value =
      (graph.planStore root pointer value).map Plan.bare := by
  have chosen : graph.bare.planCollector root = (graph.planCollector root).bare := by
    simp only [planCollector, next_bare]
    split <;> rfl
  have between := graph.applyAll_alike (graph.planCollector root).changes
  simp only [planStore, checkStore_bare, chosen]
  cases graph.checkStore root pointer value with
  | error fault => rfl
  | ok _ =>
      simp only [Except.map, bind, Except.bind, pure, Except.pure, Plan.bare, next_alike between,
        draft_alike between, List.map_append]
      rfl

end Graph

theorem Construction.plan_bare (construction : Construction Handle) (graph : Graph) :
    construction.plan graph.bare = (construction.plan graph).map Plan.bare := by
  cases construction with
  | create opcode children => exact graph.planCreate_bare opcode children
  | binary op left right => exact graph.planBinary_bare op left right
  | loadIfPointer operand =>
      simp only [plan, Graph.lookup_bare]
      cases graph.lookup operand with
      | error fault => rfl
      | ok node =>
          exact congrArg Except.ok (Graph.planLoaded_alike graph.bare_bare.symm operand node)
  | pointer address => exact graph.planPointer_bare address []
  | pointerIndexed address displacement => exact graph.planPointer_bare address [displacement]
  | floor operand => exact graph.planUnary_bare .floor operand (fun _ => rfl)
  | cast operand dataType => exact graph.planUnary_bare .cast operand (fun _ => rfl)
  | child parent position =>
      simp only [plan, Graph.child_bare]
      cases graph.child parent position <;> rfl
  | setName handle name => exact graph.planEdit_bare handle handle (fun _ => rfl)
  | empty => rfl
  | _ => exact graph.planAdd_bare _

def Mutation.annotates : Mutation ρ → Bool
  | setDataType _ _ => false
  | bindAddress _ _ => false
  | _ => true

def Construction.annotates : Construction ρ → Bool
  | setName _ _ => true
  | _ => false

theorem Mutation.plan_bare {mutation : Mutation Handle} (builds : mutation.annotates = false)
    (graph : Graph) : mutation.plan graph.bare = (mutation.plan graph).map Plan.bare := by
  cases mutation with
  | setDataType handle dataType => exact graph.planEdit_bare handle () (fun _ => rfl)
  | bindAddress handle address => exact graph.planEdit_bare handle () (fun _ => rfl)
  | _ => cases builds

namespace Graph

theorem put_of_lookup {graph : Graph} {handle : Handle} {node : Node}
    (found : graph.lookup handle = .ok node) : graph.put handle node = graph := by
  obtain ⟨position, rfl, stored⟩ := (lookup_eq_ok_iff _ _ _).mp found
  simp only [put, setIfInBounds_self stored]

theorem bare_note {handle : Handle} {edit : Edit}
    (notes : ∀ node, (edit.apply node).bare = node.bare) (graph : Graph) :
    (graph.apply (.edit handle edit)).bare = graph.bare := by
  simp only [apply]
  cases found : graph.lookup handle with
  | error fault => rfl
  | ok node =>
      have same : graph.bare.lookup handle = .ok node.bare := by rw [lookup_bare, found]; rfl
      simp only [bare_put, notes, put_of_lookup same]

end Graph

theorem Construction.bare_annotated {construction : Construction Handle}
    (notes : construction.annotates = true) {graph : Graph} {plan : Plan Handle}
    (planned : construction.plan graph = .ok plan) :
    (graph.applyAll plan.changes).bare = graph.bare := by
  cases construction with
  | setName handle name =>
      obtain ⟨node, chosen, _, ⟨rfl⟩, rfl⟩ := Graph.planEdit_cases planned
      exact Graph.bare_note (fun _ => rfl) graph
  | _ => cases notes

theorem Mutation.bare_annotated {mutation : Mutation Handle} (notes : mutation.annotates = true)
    {graph : Graph} {plan : Plan Unit} (planned : mutation.plan graph = .ok plan) :
    (graph.applyAll plan.changes).bare = graph.bare := by
  rcases Mutation.plan_cases planned with
    ⟨_, restarted⟩ | ⟨handle, node, edit, _, isEdit, edited⟩
  · rw [restarted]
    rfl
  · rw [edited]
    apply Graph.bare_note
    intro other
    cases mutation with
    | setDataType handle dataType => cases notes
    | bindAddress handle address => cases notes
    | _ => cases isEdit <;> rfl

def Outcome.bare (outcome : Outcome α) : Outcome α where
  result := outcome.result
  graph := outcome.graph.bare
  events := outcome.events.map Event.bare

theorem map_eq_cases {first second : Except ε α} {part : α → β}
    (same : first.map part = second.map part) :
    (∃ fault, first = .error fault ∧ second = .error fault) ∨
      ∃ value other, first = .ok value ∧ second = .ok other ∧ part value = part other := by
  cases first with
  | error fault =>
      cases second with
      | error other => exact .inl ⟨fault, rfl, congrArg Except.error (Except.error.inj same).symm⟩
      | ok value => cases same
  | ok value =>
      cases second with
      | error fault => cases same
      | ok other => exact .inr ⟨value, other, rfl, rfl, Except.ok.inj same⟩

theorem carryOut_alike {first second : Graph} (alike : first.bare = second.bare)
    {plan other : Except Fault (Plan α)} (same : plan.map Plan.bare = other.map Plan.bare) :
    (first.carryOut plan).bare = (second.carryOut other).bare := by
  rcases map_eq_cases same with ⟨fault, rfl, rfl⟩ | ⟨planned, replanned, rfl, rfl, samePlan⟩
  · simp only [Graph.carryOut, Outcome.bare, alike]
  · obtain ⟨sameAnswer, sameChanges⟩ := Plan.mk.inj samePlan
    obtain ⟨applied, announced⟩ := Graph.bare_applyAll alike sameChanges
    simp only [Graph.carryOut, Outcome.bare, sameAnswer, applied, announced]

/-- Two requests have the same outcome, but for numbers and notes, in any two graphs that are
alike. -/
def Build.Alike (request other : Build α) : Prop :=
  ∀ first second : Graph, first.bare = second.bare →
    (request.run first).bare = (other.run second).bare

theorem Build.alike_of_planned {request : Build α} {plan : Graph → Except Fault (Plan α)}
    (ran : ∀ graph, request.run graph = graph.carryOut (plan graph))
    (planned : ∀ graph, plan graph.bare = (plan graph).map Plan.bare) :
    request.Alike request := by
  intro first second alike
  rw [ran, ran]
  apply carryOut_alike alike
  rw [← planned, ← planned, alike]

theorem Construction.build_alike (construction : Construction Handle) :
    construction.build.Alike construction.build :=
  Build.alike_of_planned construction.run_build construction.plan_bare

theorem Mutation.build_alike {mutation : Mutation Handle}
    (builds : mutation.annotates = false) : mutation.build.Alike mutation.build :=
  Build.alike_of_planned mutation.run_build (Mutation.plan_bare builds)

theorem Build.overwrite_alike (handle : Handle) {node other : Node}
    (same : node.bare = other.bare) : (overwrite handle node).Alike (overwrite handle other) := by
  intro first second alike
  unfold overwrite
  rw [run_update, run_update]
  rcases map_eq_cases (Graph.lookup_alike alike handle) with
    ⟨fault, found, foundToo⟩ | ⟨_, _, found, foundToo, _⟩
  · simp only [found, foundToo, Outcome.bare, alike]
  · simp only [found, foundToo, Outcome.bare, Graph.bare_put, same, alike]

theorem store_alike (root pointer value : Handle) {first second : Graph}
    (alike : first.bare = second.bare) :
    (Build.store root pointer value first).root = (Build.store root pointer value second).root ∧
      (Build.store root pointer value first).outcome.bare =
        (Build.store root pointer value second).outcome.bare := by
  have same : (first.planStore root pointer value).map Plan.bare =
      (second.planStore root pointer value).map Plan.bare := by
    rw [← Graph.planStore_bare, ← Graph.planStore_bare, alike]
  rw [Build.run_store, Build.run_store]
  rcases map_eq_cases same with
    ⟨fault, refused, refusedToo⟩ | ⟨plan, other, planned, plannedToo, samePlan⟩
  · rw [refused, refusedToo]
    exact ⟨rfl, by simp only [Outcome.bare, alike]⟩
  · obtain ⟨sameAnswer, sameChanges⟩ := Plan.mk.inj samePlan
    obtain ⟨applied, announced⟩ := Graph.bare_applyAll alike sameChanges
    rw [planned, plannedToo]
    exact ⟨congrArg Prod.fst sameAnswer,
      by simp only [Outcome.bare, sameAnswer, applied, announced]⟩

end ExprGraph
