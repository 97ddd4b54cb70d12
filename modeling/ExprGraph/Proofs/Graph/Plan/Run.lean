import ExprGraph.Graph.Build.Lemmas
import ExprGraph.Proofs.Graph.Plan

/-!
Every request does what its plan says.  Main statements: `Construction.run_build`,
`Mutation.run_build`, and `run_store` for the one request that is given a root by reference.
-/

namespace ExprGraph

namespace Build

open ExprGraph.Graph

theorem run_bind_error {graph after : Graph} {build : Build α} {fault : Fault}
    {events : List Event} (next : α → Build β)
    (ran : build.run graph = ⟨.error fault, after, events⟩) :
    (build >>= next).run graph = ⟨.error fault, after, events⟩ := by
  rw [run_bind, ran]

theorem run_bind_ok {graph after : Graph} {build : Build α} {value : α} {events : List Event}
    (next : α → Build β) (ran : build.run graph = ⟨.ok value, after, events⟩) :
    (build >>= next).run graph =
      ⟨((next value).run after).result, ((next value).run after).graph,
        events ++ ((next value).run after).events⟩ := by
  rw [run_bind, ran]

theorem run_inspect_bind {graph : Graph} (read : Graph → Except Fault α) {next : α → Build β}
    {plan : α → Except Fault (Plan β)}
    (each : ∀ value, read graph = .ok value →
      (next value).run graph = graph.carryOut (plan value)) :
    (inspect read >>= next).run graph = graph.carryOut (read graph >>= plan) := by
  rw [run_bind, run_inspect]
  cases found : read graph with
  | error fault => rfl
  | ok value => exact each value found

theorem run_bind_plan {graph : Graph} {build : Build α} {plan : Plan α} {rest : Plan β}
    (next : α → Build β) (ran : build.run graph = graph.carryOut (.ok plan))
    (continued : (next plan.answer).run (graph.applyAll plan.changes) =
      (graph.applyAll plan.changes).carryOut (.ok rest)) :
    (build >>= next).run graph =
      graph.carryOut (.ok ⟨rest.answer, plan.changes ++ rest.changes⟩) := by
  rw [run_bind_ok next ran, continued]
  simp only [carryOut, applyAll_append, announceAll_append]

theorem run_allocate_plan (opcode : Opcode) (children : List Handle) (graph : Graph) :
    (allocate opcode children).run graph =
      graph.carryOut (graph.planAdd (graph.draft opcode children)) := by
  rw [run_allocate]
  simp only [planAdd, draft]
  cases graph.checkAll children with
  | error fault => rfl
  | ok checked => rfl

theorem put_push (graph : Graph) (node other : Node) :
    (graph.push node).put graph.next other = graph.push other := by
  have replaced : (graph.nodes.push node).setIfInBounds graph.nodes.size other =
      graph.nodes.push other := by
    apply Array.ext'
    simp
  simp only [Graph.put, Graph.push, next, handleAt, size, replaced]

/-- A node that is completed right after it was added might have been added complete. -/
theorem run_allocate_completed (graph : Graph) (opcode : Opcode) (children : List Handle)
    (change : Node → Except Fault Node) (type : DataType) (immediate : Option Immediate)
    (address : Option Address)
    (completed : ∀ id, change ((graph.draft opcode children).node id) =
      .ok (Draft.node ⟨opcode, type, children, immediate, address⟩ id)) :
    (do
      let handle ← allocate opcode children
      updateWith handle change
      return handle : Build Handle).run graph =
      graph.carryOut (graph.planAdd ⟨opcode, type, children, immediate, address⟩) := by
  have allocated := run_allocate opcode children graph
  simp only [planAdd]
  cases checked : graph.checkAll children with
  | error fault =>
      rw [checked] at allocated
      rw [run_bind_error _ allocated]
      rfl
  | ok _ =>
      rw [checked] at allocated
      have new := lookup_add_new graph (graph.draft opcode children)
      have updated : (updateWith graph.next change).run (graph.add (graph.draft opcode children)) =
          ⟨.ok (), graph.add ⟨opcode, type, children, immediate, address⟩, []⟩ := by
        rw [run_updateWith, next, new]
        simp only [completed]
        exact congrArg (Outcome.mk _ · _) (put_push _ _ _)
      rw [run_bind_ok _ allocated]
      have returned := run_bind_ok (fun _ => (pure graph.next : Build Handle)) updated
      exact congrArg (fun outcome : Outcome Handle =>
        Outcome.mk outcome.result outcome.graph (_ ++ outcome.events)) returned

theorem run_inspect_map_bind {graph : Graph} (read : Graph → Except Fault γ) {part : γ → α}
    {next : α → Build β} {plan : γ → Except Fault (Plan β)}
    (each : ∀ value, read graph = .ok value →
      (next (part value)).run graph = graph.carryOut (plan value)) :
    (inspect (fun graph => (read graph).map part) >>= next).run graph =
      graph.carryOut (read graph >>= plan) := by
  rw [run_bind, run_inspect]
  cases found : read graph with
  | error fault => rfl
  | ok value => exact each value found

theorem run_loadIfPointer_refused {graph : Graph} {operand : Handle} {fault : Fault}
    (failed : graph.lookup operand = .error fault) :
    (loadIfPointer operand).run graph = ⟨.error fault, graph, []⟩ := by
  apply run_bind_error
  rw [run_inspect, failed]

theorem run_loadIfPointer {graph : Graph} {operand : Handle} {node : Node}
    (found : graph.lookup operand = .ok node) :
    (loadIfPointer operand).run graph = graph.carryOut (.ok (graph.planLoaded operand node)) := by
  have inspected : (inspect (fun graph => graph.lookup operand)).run graph =
      ⟨.ok node, graph, []⟩ := by
    rw [run_inspect, found]
  have accepted : graph.checkAll [operand] = .ok () :=
    (checkAll_eq_ok_iff graph [operand]).mpr (by simpa using ⟨node, found⟩)
  unfold loadIfPointer planLoaded
  rw [run_bind_ok _ inspected]
  by_cases isPointer : node.opcode = .pointer
  · simp only [isPointer, if_true]
    rw [run_bind_ok _ (run_announce _ graph), load, run_allocate, accepted]
    rfl
  · simp only [isPointer, if_false]
    rfl

def allocateTyped (opcode : Opcode) (children : List Handle) (type : DataType) :
    Build Handle := do
  let handle ← allocate opcode children
  setDataType handle type
  return handle

theorem run_allocateTyped {graph : Graph} (opcode : Opcode) (children : List Handle)
    (type : DataType) (accepted : ∀ child ∈ children, graph.Accepts child) :
    (allocateTyped opcode children type).run graph = graph.carryOut (.ok ⟨graph.next,
      [.add .asked { opcode := opcode, dataType := type, children := children }]⟩) := by
  have added := run_allocate_completed graph opcode children
    (fun node => .ok { node with dataType := type }) type none none (fun _ => rfl)
  rw [planAdd_ok accepted] at added
  exact added

theorem run_unary {graph : Graph} (opcode : Opcode) {operand : Handle} {node : Node}
    (type : Node → DataType) (found : graph.lookup operand = .ok node) :
    (loadIfPointer operand >>= fun loaded => allocateTyped opcode [loaded] (type node)).run graph =
      graph.carryOut (graph.planUnary opcode operand type) := by
  have accepted := planLoaded_accepted found
  have added := run_allocateTyped opcode [(graph.planLoaded operand node).answer] (type node)
    (by simpa using accepted)
  have chained := run_bind_plan (fun loaded => allocateTyped opcode [loaded] (type node))
    (run_loadIfPointer found) added
  rw [chained, planUnary, found]
  rfl

theorem run_floor (operand : Handle) (graph : Graph) :
    (floor operand).run graph =
      graph.carryOut (graph.planUnary .floor operand Node.dataType) := by
  apply run_inspect_map_bind (fun graph => graph.lookup operand)
  intro node found
  have unary := run_unary .floor Node.dataType found
  rw [planUnary, found] at unary
  exact unary

theorem run_cast (operand : Handle) (dataType : DataType) (graph : Graph) :
    (cast operand dataType).run graph =
      graph.carryOut (graph.planUnary .cast operand (fun _ => dataType)) := by
  cases found : graph.lookup operand with
  | error fault =>
      rw [cast, run_bind_error _ (run_loadIfPointer_refused found)]
      simp only [planUnary, found]
      rfl
  | ok node => exact run_unary .cast (fun _ => dataType) found

theorem run_binary (op : BinaryOp) (left right : Handle) (graph : Graph) :
    (binary op left right).run graph = graph.carryOut (graph.planBinary op left right) := by
  apply run_inspect_map_bind (fun graph => graph.lookup left)
  intro leftNode foundLeft
  apply run_inspect_map_bind (fun graph => graph.lookup right)
  intro rightNode foundRight
  apply run_inspect_bind
    (fun _ => require (leftNode.dataType = rightNode.dataType) _)
  intro _ _
  let first := graph.planLoaded left leftNode
  let between := graph.applyAll first.changes
  let second := between.planLoaded right rightNode
  let after := between.applyAll second.changes
  have keptRight : between.lookup right = .ok rightNode := planLoaded_keeps left leftNode foundRight
  have leftAccepted : after.Accepts first.answer :=
    (planLoaded_accepted foundLeft).applyAll second.changes
  have rightAccepted : after.Accepts second.answer := planLoaded_accepted keptRight
  have added := run_allocateTyped op.opcode [first.answer, second.answer] rightNode.dataType
    (by simpa using ⟨leftAccepted, rightAccepted⟩)
  have loadedRight := run_bind_plan
    (fun second => allocateTyped op.opcode [first.answer, second] rightNode.dataType)
    (run_loadIfPointer keptRight) added
  exact run_bind_plan
    (fun first => loadIfPointer right >>= fun second =>
      allocateTyped op.opcode [first, second] rightNode.dataType)
    (run_loadIfPointer foundLeft) loadedRight

theorem run_create (opcode : Opcode) (children : List Handle) (graph : Graph) :
    (create opcode children).run graph = graph.carryOut (graph.planCreate opcode children) := by
  apply run_inspect_bind (fun _ => require (opcode.arity.accepts children.length) _)
  intro _ _
  apply run_inspect_bind _
  intro _ _
  exact run_allocate_plan opcode children graph

theorem run_pointer (address : Handle) (rest : List Handle) (graph : Graph) :
    (do
      inspect (fun graph => graph.expectOpcode address .addr)
      allocate .pointer (address :: rest) : Build Handle).run graph =
      graph.carryOut (graph.planPointer address rest) := by
  apply run_inspect_bind _
  intro _ _
  exact run_allocate_plan .pointer (address :: rest) graph

theorem run_updateWith_plan (handle : Handle) {change : Node → Except Fault Node}
    (edit : Node → Except Fault Edit)
    (same : ∀ node, change node = (edit node).map (fun chosen => chosen.apply node))
    (graph : Graph) :
    (updateWith handle change).run graph = graph.carryOut (graph.planEdit handle () edit) := by
  rw [run_updateWith]
  simp only [planEdit, same]
  cases found : graph.lookup handle with
  | error fault => rfl
  | ok node =>
      simp only [bind, Except.bind]
      cases edit node with
      | error fault => rfl
      | ok chosen =>
          have edited : graph.apply (.edit handle chosen) =
              graph.put handle (chosen.apply node) := by
            simp only [Graph.apply, found]
          simp only [Except.map, pure, Except.pure, carryOut, applyAll_cons, applyAll_nil, edited]
          rfl

theorem run_edit (handle : Handle) (answer : α) (change : Node → Except Fault Node)
    (edit : Node → Except Fault Edit)
    (same : ∀ node, change node = (edit node).map (fun chosen => chosen.apply node))
    (graph : Graph) :
    (do
      updateWith handle change
      return answer : Build α).run graph = graph.carryOut (graph.planEdit handle answer edit) := by
  rw [run_bind, run_updateWith_plan handle edit same]
  simp only [planEdit, bind, Except.bind]
  cases graph.lookup handle with
  | error fault => rfl
  | ok node =>
      simp only
      cases edit node with
      | error fault => rfl
      | ok chosen => rfl

theorem run_collect_known {graph : Graph} {collector pointer value : Handle}
    (collects : graph.Accepts collector) (pointerAccepted : graph.Accepts pointer)
    (valueAccepted : graph.Accepts value) :
    (collect false collector pointer value).run graph = graph.carryOut (.ok ⟨graph.next,
      [.add .asked (graph.draft .store [pointer, value]),
        .edit collector (.collect graph.next)]⟩) := by
  let written := graph.add (graph.draft .store [pointer, value])
  obtain ⟨node, found⟩ := collects
  have kept : written.lookup collector = .ok node := lookup_add_of_ok _ found
  have added := run_allocate_plan .store [pointer, value] graph
  rw [planAdd_ok (by simpa [draft] using ⟨pointerAccepted, valueAccepted⟩)] at added
  have appended := run_edit collector graph.next
    (fun node => .ok { node with children := node.children ++ [graph.next] })
    (fun _ => .ok (.collect graph.next)) (fun _ => rfl) written
  rw [planEdit_ok graph.next kept rfl] at appended
  exact run_bind_plan (fun handle => do
    update collector (fun node => { node with children := node.children ++ [handle] })
    return handle) added appended

theorem run_collector (root pointer value : Handle) (graph : Graph) :
    (collector root pointer value).run graph =
      match graph.checkStore root pointer value with
      | .error fault => ⟨.error fault, graph, []⟩
      | .ok _ =>
        if root.isEmpty then
          ⟨.ok graph.next, graph.add (graph.draft .combine []),
            [.allocated graph.numbering.next .combine 0]⟩
        else ⟨.ok root, graph, []⟩ := by
  unfold collector checkStore
  simp only [run_bind, run_inspect]
  cases graph.expectOpcode pointer .pointer with
  | error fault => rfl
  | ok _ =>
      cases graph.lookup value with
      | error fault => rfl
      | ok node =>
          cases isEmpty : root.isEmpty with
          | true => rfl
          | false =>
              simp only [Bool.false_eq_true, if_false, run_bind, run_inspect]
              cases graph.expectOpcode root .combine with
              | error fault => rfl
              | ok _ => rfl

theorem run_store (root pointer value : Handle) (graph : Graph) :
    store root pointer value graph =
      match graph.planStore root pointer value with
      | .error fault => ⟨root, ⟨.error fault, graph, []⟩⟩
      | .ok plan => ⟨plan.answer.1,
          ⟨.ok plan.answer.2, graph.applyAll plan.changes, graph.announceAll plan.changes⟩⟩ := by
  have collected := run_collector root pointer value graph
  simp only [planStore]
  cases checked : graph.checkStore root pointer value with
  | error fault =>
      rw [checked] at collected
      simp only [store, collected]
      rfl
  | ok _ =>
      rw [checked] at collected
      obtain ⟨isPointer, accepted, isRoot⟩ := (checkStore_eq_ok_iff _ _ _ _).mp checked
      have pointerAccepted := accepts_of_opcode isPointer
      cases root with
      | empty =>
          have found := lookup_add_new graph (graph.draft .combine [])
          have announced : (announceRoot graph.next).run (graph.add (graph.draft .combine [])) =
              ⟨.ok (), graph.add (graph.draft .combine []),
                [.rootCreated graph.numbering.next]⟩ := by
            rw [announceRoot, run_bind, run_inspect, next, found]
            rfl
          have written := run_collect_known ⟨_, found⟩
            (pointerAccepted.apply (.add .collects (graph.draft .combine [])))
            (accepted.apply (.add .collects (graph.draft .combine [])))
          have both : (collect true graph.next pointer value).run
              (graph.add (graph.draft .combine [])) = _ :=
            run_bind_ok (fun _ => collect false graph.next pointer value) announced
          rw [next, written] at both
          simp only [store, collected, Handle.isEmpty, if_true, next, both]
          rfl
      | ref owner position =>
          have rootAccepted := accepts_of_opcode (opcode_of_root isRoot)
          have written := run_collect_known rootAccepted pointerAccepted accepted
          simp only [store, collected, Handle.isEmpty, Bool.false_eq_true, if_false, written]
          rfl

end Build

theorem Construction.run_build (construction : Construction Handle) (graph : Graph) :
    construction.build.run graph = graph.carryOut (construction.plan graph) := by
  cases construction with
  | create opcode children => exact Build.run_create opcode children graph
  | binary op left right => exact Build.run_binary op left right graph
  | load operand => exact Build.run_allocate_plan .load [operand] graph
  | loadIfPointer operand =>
      simp only [build, plan]
      cases found : graph.lookup operand with
      | error fault => exact Build.run_loadIfPointer_refused found
      | ok node => exact Build.run_loadIfPointer found
  | select mask whenTrue whenFalse =>
      exact Build.run_allocate_plan .select [mask, whenTrue, whenFalse] graph
  | compare kind left right =>
      exact Build.run_allocate_completed _ _ _ _ _ (some (.cmp kind)) none (fun _ => rfl)
  | index value =>
      exact Build.run_allocate_completed _ _ _ _ .int32 (some (.int value.toInt64)) none
        (fun _ => rfl)
  | constant scalar =>
      exact Build.run_allocate_completed _ _ _ _ scalar.dataType (some scalar.immediate) none
        (fun _ => rfl)
  | placeholder => exact Build.run_allocate_plan .addr [] graph
  | addr address =>
      exact Build.run_allocate_completed _ _ _ _ _ none (some address) (fun _ => rfl)
  | pointer address => exact Build.run_pointer address [] graph
  | pointerIndexed address displacement => exact Build.run_pointer address [displacement] graph
  | floor operand => exact Build.run_floor operand graph
  | cast operand dataType => exact Build.run_cast operand dataType graph
  | child parent position =>
      simp only [build, plan, Build.run_inspect]
      cases graph.child parent position with
      | error fault => rfl
      | ok handle => rfl
  | setName handle name =>
      exact Build.run_edit handle handle _ (fun _ => .ok (.rename name)) (fun _ => rfl) graph
  | empty => rfl

theorem Mutation.run_build (mutation : Mutation Handle) (graph : Graph) :
    mutation.build.run graph = graph.carryOut (mutation.plan graph) := by
  cases mutation with
  | setDataType handle dataType =>
      exact Build.run_updateWith_plan handle (fun _ => .ok (.retype dataType)) (fun _ => rfl) graph
  | setName handle name =>
      exact Build.run_updateWith_plan handle (fun _ => .ok (.rename name)) (fun _ => rfl) graph
  | setGroupCount handle count =>
      exact Build.run_updateWith_plan handle (fun _ => .ok (.regroup count)) (fun _ => rfl) graph
  | addGroupCount handle count =>
      exact Build.run_updateWith_plan handle (fun node => .ok (.regroup (node.groupCount + count)))
        (fun _ => rfl) graph
  | setVectorized handle vectorized =>
      exact Build.run_updateWith_plan handle (fun _ => .ok (.vectorize vectorized))
        (fun _ => rfl) graph
  | setMembers group members =>
      apply Build.run_inspect_bind _
      intro _ _
      exact Build.run_updateWith_plan group (fun _ => .ok (.enroll members)) (fun _ => rfl) graph
  | pushMember group member =>
      apply Build.run_inspect_bind _
      intro _ _
      exact Build.run_updateWith_plan group
        (fun node => .ok (.enroll (node.members ++ [member]))) (fun _ => rfl) graph
  | bindAddress handle address =>
      apply Build.run_updateWith_plan
      intro node
      by_cases isAddr : node.opcode = .addr
      · rw [if_pos isAddr, if_pos isAddr]
        rfl
      · rw [if_neg isAddr, if_neg isAddr]
        rfl
  | resetCounter => rfl

end ExprGraph
