import ExprGraph.Proofs.Graph.Change
import ExprGraph.Session.Request

/-!
Plans: a request decided by reading the graph alone, as a fault or as the changes to make.  Nothing
is changed before everything is checked, and no change can fail.
-/

namespace ExprGraph

structure Plan (α : Type) where
  answer : α
  changes : List Change

def require (condition : Prop) [Decidable condition] (fault : Fault) : Except Fault Unit :=
  if condition then .ok () else .error fault

theorem require_eq_ok_iff (condition : Prop) [Decidable condition] (fault : Fault) :
    require condition fault = .ok () ↔ condition := by
  by_cases holds : condition
  · simp [require, holds]
  · simp [require, holds]

theorem ok_of_bind {read : Except Fault α} {next : α → Except Fault β} {result : β}
    (ran : read >>= next = .ok result) : ∃ value, read = .ok value ∧ next value = .ok result := by
  cases read with
  | error fault => cases ran
  | ok value => exact ⟨value, rfl, ran⟩

theorem ok_of_guard {condition : Prop} [Decidable condition] {read : Except Fault α}
    {fault : Fault} {value : α} (ran : (if condition then read else .error fault) = .ok value) :
    condition ∧ read = .ok value := by
  by_cases holds : condition
  · rw [if_pos holds] at ran
    exact ⟨holds, ran⟩
  · rw [if_neg holds] at ran
    cases ran

namespace Graph

def carryOut (graph : Graph) : Except Fault (Plan α) → Outcome α
  | .error fault => ⟨.error fault, graph, []⟩
  | .ok plan => ⟨.ok plan.answer, graph.applyAll plan.changes, graph.announceAll plan.changes⟩

theorem planned_of_ok {graph : Graph} {decided : Except Fault (Plan α)} {answer : α}
    (answered : (graph.carryOut decided).result = .ok answer) : ∃ plan, decided = .ok plan := by
  cases decided with
  | error fault => cases answered
  | ok plan => exact ⟨plan, rfl⟩

def draft (graph : Graph) (opcode : Opcode) (children : List Handle) : Draft where
  opcode := opcode
  dataType := graph.options.defaultDataType
  children := children

def next (graph : Graph) : Handle := graph.handleAt graph.size

def planAdd (graph : Graph) (draft : Draft) : Except Fault (Plan Handle) := do
  graph.checkAll draft.children
  return ⟨graph.next, [.add .asked draft]⟩

def planCreate (graph : Graph) (opcode : Opcode) (children : List Handle) :
    Except Fault (Plan Handle) := do
  require (opcode.arity.accepts children.length)
    (.arityMismatch opcode opcode.arity children.length)
  Build.checkOperands opcode children graph
  graph.planAdd (graph.draft opcode children)

def planLoaded (graph : Graph) (operand : Handle) (node : Node) : Plan Handle :=
  if node.opcode = .pointer then
    ⟨graph.next, [.add (.implied node.id) (graph.draft .load [operand])]⟩
  else ⟨operand, []⟩

def planUnary (graph : Graph) (opcode : Opcode) (operand : Handle) (type : Node → DataType) :
    Except Fault (Plan Handle) := do
  let node ← graph.lookup operand
  let loaded := graph.planLoaded operand node
  let after := graph.applyAll loaded.changes
  return ⟨after.next, loaded.changes ++
    [.add .asked { opcode := opcode, dataType := type node, children := [loaded.answer] }]⟩

def planBinary (graph : Graph) (op : BinaryOp) (left right : Handle) :
    Except Fault (Plan Handle) := do
  let leftNode ← graph.lookup left
  let rightNode ← graph.lookup right
  require (leftNode.dataType = rightNode.dataType)
    (.typeMismatch op.opcode leftNode.dataType rightNode.dataType)
  let first := graph.planLoaded left leftNode
  let between := graph.applyAll first.changes
  let second := between.planLoaded right rightNode
  let after := between.applyAll second.changes
  return ⟨after.next, first.changes ++ (second.changes ++
    [.add .asked {
      opcode := op.opcode
      dataType := rightNode.dataType
      children := [first.answer, second.answer] }])⟩

def planPointer (graph : Graph) (address : Handle) (rest : List Handle) :
    Except Fault (Plan Handle) := do
  graph.expectOpcode address .addr
  graph.planAdd (graph.draft .pointer (address :: rest))

def checkStore (graph : Graph) (root pointer value : Handle) : Except Fault Unit := do
  graph.expectOpcode pointer .pointer
  let _ ← graph.lookup value
  if root.isEmpty then .ok () else graph.expectOpcode root .combine

def planCollector (graph : Graph) (root : Handle) : Plan Handle :=
  if root.isEmpty then ⟨graph.next, [.add .collects (graph.draft .combine [])]⟩
  else ⟨root, []⟩

def planStore (graph : Graph) (root pointer value : Handle) :
    Except Fault (Plan (Handle × Handle)) := do
  graph.checkStore root pointer value
  let chosen := graph.planCollector root
  let after := graph.applyAll chosen.changes
  return ⟨(chosen.answer, after.next), chosen.changes ++
    [.add .asked (after.draft .store [pointer, value]),
      .edit chosen.answer (.collect after.next)]⟩

def planEdit (graph : Graph) (handle : Handle) (answer : α) (edit : Node → Except Fault Edit) :
    Except Fault (Plan α) := do
  let node ← graph.lookup handle
  let chosen ← edit node
  return ⟨answer, [.edit handle chosen]⟩

theorem planAdd_cases {graph : Graph} {draft : Draft} {plan : Plan Handle}
    (planned : graph.planAdd draft = .ok plan) :
    (∀ child ∈ draft.children, graph.Accepts child) ∧
      plan = ⟨graph.next, [.add .asked draft]⟩ := by
  obtain ⟨_, checked, returned⟩ := ok_of_bind planned
  exact ⟨(checkAll_eq_ok_iff graph draft.children).mp checked, (Except.ok.inj returned).symm⟩

theorem planAdd_ok {graph : Graph} {draft : Draft}
    (accepted : ∀ child ∈ draft.children, graph.Accepts child) :
    graph.planAdd draft = .ok ⟨graph.next, [.add .asked draft]⟩ := by
  have checked := (checkAll_eq_ok_iff graph draft.children).mpr accepted
  simp only [planAdd, checked]
  rfl

theorem planLoaded_accepted {graph : Graph} {operand : Handle} {node : Node}
    (found : graph.lookup operand = .ok node) :
    (graph.applyAll (graph.planLoaded operand node).changes).Accepts
      (graph.planLoaded operand node).answer := by
  unfold planLoaded
  by_cases isPointer : node.opcode = .pointer
  · simp only [isPointer, if_true]
    exact accepts_add_new graph _
  · simp only [isPointer, if_false]
    exact ⟨node, found⟩

theorem planLoaded_keeps {graph : Graph} {handle : Handle} {kept : Node} (operand : Handle)
    (node : Node) (found : graph.lookup handle = .ok kept) :
    (graph.applyAll (graph.planLoaded operand node).changes).lookup handle = .ok kept := by
  unfold planLoaded
  by_cases isPointer : node.opcode = .pointer
  · simp only [isPointer, if_true]
    exact lookup_add_of_ok _ found
  · simp only [isPointer, if_false]
    exact found

theorem planEdit_ok {graph : Graph} {handle : Handle} {node : Node} {chosen : Edit}
    {edit : Node → Except Fault Edit} (answer : α) (found : graph.lookup handle = .ok node)
    (fits : edit node = .ok chosen) :
    graph.planEdit handle answer edit = .ok ⟨answer, [.edit handle chosen]⟩ := by
  simp only [planEdit, found, bind, Except.bind, fits]
  rfl

theorem checkStore_eq_ok_iff (graph : Graph) (root pointer value : Handle) :
    graph.checkStore root pointer value = .ok () ↔
      graph.opcode pointer = .ok .pointer ∧ graph.Accepts value ∧
        (root = .empty ∨ graph.opcode root = .ok .combine) := by
  rw [← expectOpcode_eq_ok_iff, ← expectOpcode_eq_ok_iff]
  unfold checkStore Accepts
  cases graph.expectOpcode pointer .pointer with
  | error fault => simp [bind, Except.bind]
  | ok _ =>
      cases graph.lookup value with
      | error fault => simp [bind, Except.bind]
      | ok node => cases root <;> simp [bind, Except.bind, Handle.isEmpty]

theorem opcode_of_root {graph : Graph} {owner : UInt32} {position : Nat}
    (isRoot : .ref owner position = Handle.empty ∨
      graph.opcode (.ref owner position) = .ok .combine) :
    graph.opcode (.ref owner position) = .ok .combine := by
  rcases isRoot with isEmpty | isCombine
  · cases isEmpty
  · exact isCombine

end Graph

def Construction.plan (graph : Graph) : Construction Handle → Except Fault (Plan Handle)
  | create opcode children => graph.planCreate opcode children
  | binary op left right => graph.planBinary op left right
  | load operand => graph.planAdd (graph.draft .load [operand])
  | loadIfPointer operand => do
    let node ← graph.lookup operand
    return graph.planLoaded operand node
  | select mask whenTrue whenFalse =>
    graph.planAdd (graph.draft .select [mask, whenTrue, whenFalse])
  | compare kind left right =>
    graph.planAdd { graph.draft .cmp [left, right] with immediate := some (.cmp kind) }
  | index value =>
    graph.planAdd {
      opcode := .index, dataType := .int32, children := []
      immediate := some (.int value.toInt64) }
  | constant scalar =>
    graph.planAdd {
      opcode := .imm, dataType := scalar.dataType, children := []
      immediate := some scalar.immediate }
  | placeholder => graph.planAdd (graph.draft .addr [])
  | addr address => graph.planAdd { graph.draft .addr [] with address := some address }
  | pointer address => graph.planPointer address []
  | pointerIndexed address displacement => graph.planPointer address [displacement]
  | floor operand => graph.planUnary .floor operand Node.dataType
  | cast operand dataType => graph.planUnary .cast operand (fun _ => dataType)
  | child parent position => do
    let handle ← graph.child parent position
    return ⟨handle, []⟩
  | setName handle name => graph.planEdit handle handle (fun _ => .ok (.rename name))
  | empty => .ok ⟨.empty, []⟩

def Mutation.plan (graph : Graph) : Mutation Handle → Except Fault (Plan Unit)
  | setDataType handle dataType => graph.planEdit handle () (fun _ => .ok (.retype dataType))
  | setName handle name => graph.planEdit handle () (fun _ => .ok (.rename name))
  | setGroupCount handle count => graph.planEdit handle () (fun _ => .ok (.regroup count))
  | addGroupCount handle count =>
    graph.planEdit handle () (fun node => .ok (.regroup (node.groupCount + count)))
  | setVectorized handle vectorized =>
    graph.planEdit handle () (fun _ => .ok (.vectorize vectorized))
  | setMembers group members => do
    graph.checkAll members
    graph.planEdit group () (fun _ => .ok (.enroll members))
  | pushMember group member => do
    let _ ← graph.lookup member
    graph.planEdit group () (fun node => .ok (.enroll (node.members ++ [member])))
  | bindAddress handle address =>
    graph.planEdit handle () (fun node =>
      if node.opcode = .addr then .ok (.bind address)
      else .error (.opcodeMismatch [.addr] node.opcode))
  | resetCounter => .ok ⟨(), [.restart]⟩

end ExprGraph
