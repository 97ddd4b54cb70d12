import ExprGraph.Proofs.OperandTypes

/-!
Implicit loads.  An operation over a pointer reads it through a load that is added for it, and the
load has the default type, whatever the type of the pointer is.  Main statements: `binary_effect`,
what a two-operand operation makes of a graph, and `operands_typed`, the types of the children of a
node that takes its type from its operands.
-/

namespace ExprGraph

def Draft.numbered (number : UInt32) : List Draft → List Node
  | [] => []
  | draft :: rest => draft.node number :: numbered (number + 1) rest

namespace Graph

def addAll (graph : Graph) (drafts : List Draft) : Graph := drafts.foldl add graph

/-- The load an operand is read through, when it is a pointer. -/
def loads (graph : Graph) (operand : Handle) : List Draft :=
  match graph.opcode operand with
  | .ok .pointer => [graph.draft .load [operand]]
  | _ => []

/-- The handle an operand is read by, after so many other nodes are added. -/
def readBy (graph : Graph) (before : Nat) (operand : Handle) : Handle :=
  match graph.opcode operand with
  | .ok .pointer => graph.handleAt (graph.size + before)
  | _ => operand

structure Reads (graph after : Graph) (operand child : Handle) : Prop where
  direct : graph.opcode operand ≠ .ok .pointer → child = operand
  loaded : graph.opcode operand = .ok .pointer → ¬ graph.Accepts child ∧
    ∃ number, after.lookup child = .ok ((graph.draft .load [operand]).node number)

section

variable {graph : Graph} {operand : Handle} {node : Node}

theorem addAll_cons (graph : Graph) (draft : Draft) (rest : List Draft) :
    graph.addAll (draft :: rest) = (graph.add draft).addAll rest := rfl

theorem addAll_append (graph : Graph) (first second : List Draft) :
    graph.addAll (first ++ second) = (graph.addAll first).addAll second :=
  List.foldl_append

theorem applyAll_adds (graph : Graph) (cause : Cause) (drafts : List Draft) :
    graph.applyAll (drafts.map (.add cause)) = graph.addAll drafts :=
  List.foldl_map

@[simp] theorem id_addAll (graph : Graph) (drafts : List Draft) :
    (graph.addAll drafts).id = graph.id := by
  rw [← applyAll_adds graph .asked, id_applyAll]

@[simp] theorem options_addAll (graph : Graph) (drafts : List Draft) :
    (graph.addAll drafts).options = graph.options := by
  rw [← applyAll_adds graph .asked, options_applyAll]

@[simp] theorem size_addAll (graph : Graph) (drafts : List Draft) :
    (graph.addAll drafts).size = graph.size + drafts.length := by
  induction drafts generalizing graph with
  | nil => rfl
  | cons draft rest ih =>
      rw [addAll_cons, ih, size_add, List.length_cons, Nat.add_assoc, Nat.add_comm 1]

theorem nodes_addAll (graph : Graph) (drafts : List Draft) :
    (graph.addAll drafts).nodes.toList =
      graph.nodes.toList ++ Draft.numbered graph.numbering.next drafts := by
  induction drafts generalizing graph with
  | nil => exact (List.append_nil _).symm
  | cons draft rest ih =>
      have added : (graph.add draft).nodes.toList =
          graph.nodes.toList ++ [draft.node graph.numbering.next] :=
        Array.toList_push
      rw [addAll_cons, ih, added, List.append_assoc]
      rfl

theorem next_addAll (graph : Graph) (drafts : List Draft) :
    (graph.addAll drafts).numbering.next = graph.numbering.next + .ofNat drafts.length := by
  induction drafts generalizing graph with
  | nil => exact (UInt32.add_zero _).symm
  | cons draft rest ih =>
      rw [addAll_cons, ih, List.length_cons, Nat.add_comm, UInt32.ofNat_add, ← UInt32.add_assoc]
      rfl

theorem lookup_addAll_of_ok (drafts : List Draft) {handle : Handle}
    (found : graph.lookup handle = .ok node) : (graph.addAll drafts).lookup handle = .ok node := by
  induction drafts generalizing graph with
  | nil => exact found
  | cons draft rest ih => exact ih (lookup_add_of_ok draft found)

theorem lookup_addAll_last (graph : Graph) (drafts : List Draft) (last : Draft) :
    (graph.addAll (drafts ++ [last])).lookup (graph.handleAt (graph.size + drafts.length)) =
      .ok (last.node (graph.numbering.next + .ofNat drafts.length)) := by
  have new := lookup_add_new (graph.addAll drafts) last
  rw [handleAt_congr (graph.id_addAll drafts), size_addAll, next_addAll] at new
  rw [addAll_append]
  exact new

theorem loads_pointer (isPointer : graph.opcode operand = .ok .pointer) :
    graph.loads operand = [graph.draft .load [operand]] := by
  simp only [loads, isPointer]

theorem readBy_pointer (isPointer : graph.opcode operand = .ok .pointer) (before : Nat) :
    graph.readBy before operand = graph.handleAt (graph.size + before) := by
  simp only [readBy, isPointer]

theorem loads_other (notPointer : graph.opcode operand ≠ .ok .pointer) :
    graph.loads operand = [] := by
  unfold loads
  split
  next isPointer => exact absurd isPointer notPointer
  next => rfl

theorem readBy_other (notPointer : graph.opcode operand ≠ .ok .pointer) (before : Nat) :
    graph.readBy before operand = operand := by
  unfold readBy
  split
  next isPointer => exact absurd isPointer notPointer
  next => rfl

theorem planLoaded_eq (found : graph.lookup operand = .ok node) :
    graph.planLoaded operand node =
      ⟨graph.readBy 0 operand, (graph.loads operand).map (.add (.implied node.id))⟩ := by
  by_cases isPointer : node.opcode = .pointer
  · have opcode := (opcode_eq_ok_iff _ _ _).mpr ⟨node, found, isPointer⟩
    simp only [planLoaded, isPointer, if_true, readBy_pointer opcode, loads_pointer opcode]
    rfl
  · have opcode : graph.opcode operand ≠ .ok .pointer := by
      rw [opcode_of_lookup found]
      exact fun same => isPointer (Except.ok.inj same)
    simp only [planLoaded, isPointer, if_false, readBy_other opcode, loads_other opcode]
    rfl

theorem opcode_addAll (drafts : List Draft) (accepted : graph.Accepts operand) :
    (graph.addAll drafts).opcode operand = graph.opcode operand := by
  obtain ⟨node, found⟩ := accepted
  rw [opcode, opcode, found, lookup_addAll_of_ok drafts found]

theorem loads_addAll (drafts : List Draft) (accepted : graph.Accepts operand) :
    (graph.addAll drafts).loads operand = graph.loads operand := by
  simp only [loads, opcode_addAll drafts accepted, draft, options_addAll]

theorem readBy_addAll (drafts : List Draft) (before : Nat) (accepted : graph.Accepts operand) :
    (graph.addAll drafts).readBy before operand =
      graph.readBy (drafts.length + before) operand := by
  simp only [readBy, opcode_addAll drafts accepted, handleAt, id_addAll, size_addAll, Nat.add_assoc]

theorem reads_addAll (graph : Graph) (operand : Handle) (before after : List Draft) :
    graph.Reads (graph.addAll (before ++ (graph.loads operand ++ after))) operand
      (graph.readBy before.length operand) where
  direct := fun notPointer => readBy_other notPointer before.length
  loaded := by
    intro isPointer
    rw [readBy_pointer isPointer, loads_pointer isPointer]
    refine ⟨?_, (graph.addAll before).numbering.next, ?_⟩
    · rw [accepts_handleAt_iff]
      omega
    · rw [addAll_append, ← size_addAll, ← handleAt_congr (graph.id_addAll before)]
      exact lookup_addAll_of_ok after (lookup_add_new _ _)

end

def operation (graph : Graph) (op : BinaryOp) (left right : Handle) (type : DataType) : Draft where
  opcode := op.opcode
  dataType := type
  children := [graph.readBy 0 left, graph.readBy (graph.loads left).length right]

def rounding (graph : Graph) (operand : Handle) (type : DataType) : Draft where
  opcode := .floor
  dataType := type
  children := [graph.readBy 0 operand]

section

variable {graph : Graph} {left right operand : Handle} {leftNode rightNode node : Node}

theorem binary_adds (op : BinaryOp) (foundLeft : graph.lookup left = .ok leftNode)
    (foundRight : graph.lookup right = .ok rightNode)
    (same : leftNode.dataType = rightNode.dataType) :
    ((Build.binary op left right).run graph).result =
        .ok (graph.handleAt (graph.size + (graph.loads left ++ graph.loads right).length)) ∧
      ((Build.binary op left right).run graph).graph =
        graph.addAll (graph.loads left ++
          (graph.loads right ++ [graph.operation op left right rightNode.dataType])) := by
  have first := planLoaded_eq foundLeft
  -- The right operand is read after the load of the left one is added, which does not touch it.
  have second := planLoaded_eq (lookup_addAll_of_ok (graph.loads left) foundRight)
  rw [loads_addAll _ ⟨_, foundRight⟩, readBy_addAll _ _ ⟨_, foundRight⟩] at second
  rw [Build.run_binary]
  simp only [planBinary, foundLeft, foundRight, require, same, if_true, bind, Except.bind, pure,
    Except.pure, carryOut, first, second, applyAll_append, applyAll_adds]
  constructor
  · simp [next, handleAt, Nat.add_assoc]
  · rw [addAll_append, addAll_append]
    rfl

theorem operands_of_binary {op : BinaryOp} {handle : Handle}
    (answered : ((Build.binary op left right).run graph).result = .ok handle) :
    ∃ leftNode rightNode, graph.lookup left = .ok leftNode ∧ graph.lookup right = .ok rightNode ∧
      leftNode.dataType = rightNode.dataType := by
  rw [Build.run_binary] at answered
  obtain ⟨plan, planned⟩ := planned_of_ok answered
  obtain ⟨leftNode, foundLeft, checkedRight⟩ := ok_of_bind planned
  obtain ⟨rightNode, foundRight, compared⟩ := ok_of_bind checkedRight
  obtain ⟨_, required, _⟩ := ok_of_bind compared
  exact ⟨leftNode, rightNode, foundLeft, foundRight, (require_eq_ok_iff _ _).mp required⟩

theorem operand_of_floor {handle : Handle}
    (answered : ((Build.floor operand).run graph).result = .ok handle) :
    ∃ node, graph.lookup operand = .ok node := by
  rw [Build.run_floor] at answered
  obtain ⟨plan, planned⟩ := planned_of_ok answered
  obtain ⟨node, found, _⟩ := ok_of_bind planned
  exact ⟨node, found⟩

theorem floor_adds (found : graph.lookup operand = .ok node) :
    ((Build.floor operand).run graph).result =
        .ok (graph.handleAt (graph.size + (graph.loads operand).length)) ∧
      ((Build.floor operand).run graph).graph =
        graph.addAll (graph.loads operand ++ [graph.rounding operand node.dataType]) := by
  rw [Build.run_floor]
  simp only [planUnary, found, bind, Except.bind, pure, Except.pure, carryOut, planLoaded_eq found,
    applyAll_append, applyAll_adds]
  constructor
  · simp [next, handleAt]
  · rw [addAll_append]
    rfl

theorem Reads.notPointer {after : Graph} {child : Handle} (reads : graph.Reads after operand child)
    (found : graph.lookup operand = .ok node) (kept : after.lookup operand = .ok node) :
    ∃ read, after.lookup child = .ok read ∧ read.opcode ≠ .pointer := by
  by_cases isPointer : graph.opcode operand = .ok .pointer
  · obtain ⟨_, number, loaded⟩ := reads.loaded isPointer
    exact ⟨_, loaded, nofun⟩
  · rw [opcode_of_lookup found] at isPointer
    rw [reads.direct (by rwa [opcode_of_lookup found])]
    exact ⟨node, kept, fun pointer => isPointer (congrArg _ pointer)⟩

end

end Graph

structure Operates (graph : Graph) (op : BinaryOp) (left right : Handle) (type : DataType)
    (outcome : Outcome Handle) : Prop where
  size : outcome.graph.size =
    graph.size + (1 + (graph.loads left).length + (graph.loads right).length)
  nodes : outcome.graph.nodes.toList =
    graph.nodes.toList ++ Draft.numbered graph.numbering.next
      (graph.loads left ++ (graph.loads right ++ [graph.operation op left right type]))
  answered : outcome.result =
    .ok (graph.handleAt (graph.size + (graph.loads left ++ graph.loads right).length))
  made : outcome.graph.lookup
      (graph.handleAt (graph.size + (graph.loads left ++ graph.loads right).length)) =
    .ok ((graph.operation op left right type).node
      (graph.numbering.next + .ofNat (graph.loads left ++ graph.loads right).length))
  id : outcome.graph.id = graph.id
  options : outcome.graph.options = graph.options
  next : outcome.graph.numbering.next = graph.numbering.next +
    .ofNat (1 + (graph.loads left).length + (graph.loads right).length)
  kept : ∀ handle node, graph.lookup handle = .ok node → outcome.graph.lookup handle = .ok node
  leftRead : graph.Reads outcome.graph left (graph.readBy 0 left)
  rightRead : graph.Reads outcome.graph right (graph.readBy (graph.loads left).length right)
  apart : graph.opcode left = .ok .pointer → graph.opcode right = .ok .pointer →
    graph.readBy 0 left ≠ graph.readBy (graph.loads left).length right
  notPointers : ∀ child ∈ (graph.operation op left right type).children,
    ∃ node, outcome.graph.lookup child = .ok node ∧ node.opcode ≠ .pointer

structure BinaryEffect (graph : Graph) (op : BinaryOp) (left right : Handle)
    (outcome : Outcome Handle) : Prop where
  leftRefused : ¬ graph.Accepts left → outcome = ⟨.error left.fault, graph, []⟩
  rightRefused : graph.Accepts left → ¬ graph.Accepts right →
    outcome = ⟨.error right.fault, graph, []⟩
  mismatched : ∀ leftType rightType, graph.dataType left = .ok leftType →
    graph.dataType right = .ok rightType → leftType ≠ rightType →
      outcome = ⟨.error (.typeMismatch op.opcode leftType rightType), graph, []⟩
  matched : ∀ type, graph.dataType left = .ok type → graph.dataType right = .ok type →
    Operates graph op left right type outcome

section

variable {graph : Graph} {left right : Handle} {leftNode rightNode : Node}

theorem binary_operates (op : BinaryOp) (foundLeft : graph.lookup left = .ok leftNode)
    (foundRight : graph.lookup right = .ok rightNode)
    (same : leftNode.dataType = rightNode.dataType) :
    Operates graph op left right rightNode.dataType ((Build.binary op left right).run graph) := by
  obtain ⟨answered, after⟩ := Graph.binary_adds op foundLeft foundRight same
  let operation := graph.operation op left right rightNode.dataType
  let outcome := (Build.binary op left right).run graph
  have leftRead : graph.Reads outcome.graph left (graph.readBy 0 left) := by
    rw [after]
    exact graph.reads_addAll left [] (graph.loads right ++ [operation])
  have rightRead :
      graph.Reads outcome.graph right (graph.readBy (graph.loads left).length right) := by
    rw [after]
    exact graph.reads_addAll right (graph.loads left) [operation]
  have kept : ∀ handle node, graph.lookup handle = .ok node →
      outcome.graph.lookup handle = .ok node := by
    intro handle node found
    rw [after]
    exact Graph.lookup_addAll_of_ok _ found
  have made := graph.lookup_addAll_last (graph.loads left ++ graph.loads right) operation
  rw [List.append_assoc, ← after] at made
  have count : (graph.loads left ++ (graph.loads right ++ [operation])).length =
      1 + (graph.loads left).length + (graph.loads right).length := by
    simp
    omega
  constructor
  case size => rw [after, Graph.size_addAll, count]
  case nodes => rw [after, Graph.nodes_addAll]
  case answered => exact answered
  case made => exact made
  case id => rw [after, Graph.id_addAll]
  case options => rw [after, Graph.options_addAll]
  case next => rw [after, Graph.next_addAll, count]
  case kept => exact kept
  case leftRead => exact leftRead
  case rightRead => exact rightRead
  case apart =>
    intro leftPointer rightPointer equal
    rw [Graph.readBy_pointer leftPointer, Graph.readBy_pointer rightPointer,
      Graph.loads_pointer leftPointer] at equal
    simp [Graph.handleAt] at equal
  case notPointers =>
    intro child member
    rcases List.mem_cons.mp member with rfl | later
    · exact leftRead.notPointer foundLeft (kept left leftNode foundLeft)
    · obtain rfl := List.mem_singleton.mp later
      exact rightRead.notPointer foundRight (kept right rightNode foundRight)

/-- The operands are checked from the left, then their types are compared; over operands of one type
the graph grows by a load for each operand that is a pointer and by the node of the operation. -/
theorem binary_effect (graph : Graph) (op : BinaryOp) (left right : Handle) :
    BinaryEffect graph op left right ((Build.binary op left right).run graph) where
  leftRefused := by
    intro refused
    rw [Build.run_binary]
    simp only [Graph.planBinary, Graph.lookup_of_not_accepts refused]
    rfl
  rightRefused := by
    rintro ⟨leftNode, foundLeft⟩ refused
    rw [Build.run_binary]
    simp only [Graph.planBinary, foundLeft, Graph.lookup_of_not_accepts refused]
    rfl
  mismatched := by
    intro leftType rightType isLeft isRight different
    obtain ⟨leftNode, foundLeft, rfl⟩ := (Graph.dataType_eq_ok_iff _ _ _).mp isLeft
    obtain ⟨rightNode, foundRight, rfl⟩ := (Graph.dataType_eq_ok_iff _ _ _).mp isRight
    exact Graph.binary_refused op foundLeft foundRight different
  matched := by
    intro type isLeft isRight
    obtain ⟨leftNode, foundLeft, same⟩ := (Graph.dataType_eq_ok_iff _ _ _).mp isLeft
    obtain ⟨rightNode, foundRight, rfl⟩ := (Graph.dataType_eq_ok_iff _ _ _).mp isRight
    exact binary_operates op foundLeft foundRight same

end

inductive Arithmetic where
  | binary (op : BinaryOp) (left right : Handle)
  | floor (operand : Handle)

namespace Arithmetic

def operands : Arithmetic → List Handle
  | binary _ left right => [left, right]
  | floor operand => [operand]

def build : Arithmetic → Build Handle
  | binary op left right => Build.binary op left right
  | floor operand => Build.floor operand

structure Stands (graph after : Graph) (operands children : List Handle) : Prop where
  length : children.length = operands.length
  reads : ∀ pair ∈ operands.zip children, graph.Reads after pair.1 pair.2

structure Typed (graph after : Graph) (operands : List Handle) (node : Node) : Prop where
  operandTypes : ∀ operand ∈ operands, graph.dataType operand = .ok node.dataType
  stands : Stands graph after operands node.children
  direct : ∀ pair ∈ operands.zip node.children, graph.opcode pair.1 ≠ .ok .pointer →
    after.dataType pair.2 = .ok node.dataType
  loaded : ∀ pair ∈ operands.zip node.children, graph.opcode pair.1 = .ok .pointer →
    after.dataType pair.2 = .ok graph.options.defaultDataType
  agree_iff : (∀ child ∈ node.children, after.dataType child = .ok node.dataType) ↔
    ∀ operand ∈ operands, graph.opcode operand = .ok .pointer →
      node.dataType = graph.options.defaultDataType

section

variable {graph after : Graph} {operands : List Handle} {node : Node}

theorem Stands.typed (stands : Stands graph after operands node.children)
    (operandTypes : ∀ operand ∈ operands, graph.dataType operand = .ok node.dataType)
    (kept : ∀ handle old, graph.lookup handle = .ok old → after.lookup handle = .ok old) :
    Typed graph after operands node := by
  have direct : ∀ pair ∈ operands.zip node.children, graph.opcode pair.1 ≠ .ok .pointer →
      after.dataType pair.2 = .ok node.dataType := by
    intro pair member notPointer
    obtain ⟨old, found, type⟩ :=
      (Graph.dataType_eq_ok_iff _ _ _).mp (operandTypes pair.1 (List.of_mem_zip member).1)
    rw [(stands.reads pair member).direct notPointer]
    exact (Graph.dataType_eq_ok_iff _ _ _).mpr ⟨old, kept pair.1 old found, type⟩
  have loaded : ∀ pair ∈ operands.zip node.children, graph.opcode pair.1 = .ok .pointer →
      after.dataType pair.2 = .ok graph.options.defaultDataType := by
    intro pair member isPointer
    obtain ⟨_, number, found⟩ := (stands.reads pair member).loaded isPointer
    exact (Graph.dataType_eq_ok_iff _ _ _).mpr ⟨_, found, rfl⟩
  refine ⟨operandTypes, stands, direct, loaded, ?_, ?_⟩
  · intro agree operand member isPointer
    rw [← List.map_fst_zip (Nat.le_of_eq stands.length.symm)] at member
    obtain ⟨pair, isPair, rfl⟩ := List.mem_map.mp member
    have type := agree pair.2 (List.of_mem_zip isPair).2
    exact Except.ok.inj (type.symm.trans (loaded pair isPair isPointer))
  · intro agree child member
    rw [← List.map_snd_zip (Nat.le_of_eq stands.length)] at member
    obtain ⟨pair, isPair, rfl⟩ := List.mem_map.mp member
    by_cases isPointer : graph.opcode pair.1 = .ok .pointer
    · rw [loaded pair isPair isPointer, agree pair.1 (List.of_mem_zip isPair).1 isPointer]
    · exact direct pair isPair isPointer

theorem binary_typed {op : BinaryOp} {left right handle : Handle}
    (answered : ((Build.binary op left right).run graph).result = .ok handle) :
    ∃ node, ((Build.binary op left right).run graph).graph.lookup handle = .ok node ∧
      Typed graph ((Build.binary op left right).run graph).graph [left, right] node := by
  obtain ⟨leftNode, rightNode, foundLeft, foundRight, same⟩ := Graph.operands_of_binary answered
  have operates := binary_operates op foundLeft foundRight same
  obtain rfl := Except.ok.inj (operates.answered.symm.trans answered)
  have stands : Stands graph ((Build.binary op left right).run graph).graph [left, right]
      (graph.operation op left right rightNode.dataType).children := by
    refine ⟨rfl, fun pair member => ?_⟩
    rcases List.mem_cons.mp member with rfl | later
    · exact operates.leftRead
    · obtain rfl := List.mem_singleton.mp later
      exact operates.rightRead
  refine ⟨_, operates.made, stands.typed ?_ operates.kept⟩
  intro operand member
  rcases List.mem_cons.mp member with rfl | later
  · exact (Graph.dataType_eq_ok_iff _ _ _).mpr ⟨leftNode, foundLeft, same⟩
  · obtain rfl := List.mem_singleton.mp later
    exact (Graph.dataType_eq_ok_iff _ _ _).mpr ⟨rightNode, foundRight, rfl⟩

theorem floor_typed {operand handle : Handle}
    (answered : ((Build.floor operand).run graph).result = .ok handle) :
    ∃ node, ((Build.floor operand).run graph).graph.lookup handle = .ok node ∧
      Typed graph ((Build.floor operand).run graph).graph [operand] node := by
  obtain ⟨old, foundOld⟩ := Graph.operand_of_floor answered
  obtain ⟨isMade, after⟩ := Graph.floor_adds foundOld
  obtain rfl := Except.ok.inj (isMade.symm.trans answered)
  have found := graph.lookup_addAll_last (graph.loads operand)
    (graph.rounding operand old.dataType)
  have read := graph.reads_addAll operand [] [graph.rounding operand old.dataType]
  rw [after]
  have stands : Stands graph
      (graph.addAll (graph.loads operand ++ [graph.rounding operand old.dataType])) [operand]
      (graph.rounding operand old.dataType).children := by
    refine ⟨rfl, fun pair member => ?_⟩
    obtain rfl := List.mem_singleton.mp member
    exact read
  refine ⟨_, found, stands.typed ?_ (fun _ _ isOld => Graph.lookup_addAll_of_ok _ isOld)⟩
  intro other member
  obtain rfl := List.mem_singleton.mp member
  exact (Graph.dataType_eq_ok_iff _ _ _).mpr ⟨old, foundOld, rfl⟩

end

/-- A node that takes its type from its operands has children of its own type but for loads, which
have the default type. -/
theorem operands_typed (graph : Graph) (request : Arithmetic) (handle : Handle)
    (answered : (request.build.run graph).result = .ok handle) :
    ∃ node, (request.build.run graph).graph.lookup handle = .ok node ∧
      Typed graph (request.build.run graph).graph request.operands node := by
  cases request with
  | binary op left right => exact binary_typed answered
  | floor operand => exact floor_typed answered

end Arithmetic

namespace Session

def retyping : List Step :=
  [.construct 0 (.addr ⟨"x", .int32, 0⟩) (some "a"),
    .construct 0 (.pointer (some "a")) (some "p"),
    .mutate 0 (.setDataType (some "p") .int32),
    .construct 0 (.index 7) (some "i")]

def retyped : Arithmetic := .binary .add (.ref 0 1) (.ref 0 2)

theorem retyping_sum : ∃ graph, (start.run retyping).graphs[0]? = some graph ∧
    (retyped.build.run graph).result = .ok (.ref 0 4) ∧
      ∃ node, (retyped.build.run graph).graph.lookup (.ref 0 4) = .ok node ∧
        .ref 0 3 ∈ node.children ∧ node.dataType = .int32 ∧
          (retyped.build.run graph).graph.dataType (.ref 0 3) = .ok .float32 :=
  ⟨_, rfl, rfl, _, rfl, by decide, rfl, rfl⟩

theorem retyping_typed : ∃ graph ∈ (start.run retyping).graphs,
    (retyped.build.run graph).result = .ok (.ref 0 4) ∧
      ∃ node, (retyped.build.run graph).graph.lookup (.ref 0 4) = .ok node ∧
        Arithmetic.Typed graph (retyped.build.run graph).graph retyped.operands node := by
  obtain ⟨graph, found, answered, _⟩ := retyping_sum
  exact ⟨graph, Array.mem_of_getElem? found, answered,
    Arithmetic.operands_typed graph retyped (.ref 0 4) answered⟩

theorem not_always_typed :
    ¬ ∀ steps : List Step, ∀ graph ∈ (start.run steps).graphs, ∀ (request : Arithmetic)
      (handle : Handle), (request.build.run graph).result = .ok handle →
        ∃ node, (request.build.run graph).graph.lookup handle = .ok node ∧
          ∀ child ∈ node.children,
            (request.build.run graph).graph.dataType child = .ok node.dataType := by
  intro always
  obtain ⟨graph, found, answered, node, isNode, isChild, isInt, isFloat⟩ := retyping_sum
  obtain ⟨other, isOther, agree⟩ :=
    always retyping graph (Array.mem_of_getElem? found) retyped (.ref 0 4) answered
  obtain rfl := Except.ok.inj (isNode.symm.trans isOther)
  have type := agree (.ref 0 3) isChild
  rw [isFloat, isInt] at type
  exact absurd (Except.ok.inj type) (by decide)

end Session

end ExprGraph
