import ExprGraph.Proofs.Graph.Plan.Run
import ExprGraph.Session.Basic

/-!
Operand types.  A node of a two-operand operation is asked for by the operation, by the builder
named after it, or by the generic constructor.  The first two compare the types of the operands;
the generic constructor does not, and builds over any two nodes.
-/

namespace ExprGraph

def BinaryOp.builder : BinaryOp → Handle → Handle → Build Handle
  | .mul => Build.mul
  | .add => Build.add
  | .sub => Build.sub
  | .div => Build.div
  | .mod => Build.rem
  | .max => Build.max
  | .min => Build.min
  | .land => Build.land
  | .shr => Build.shr
  | .shl => Build.shl

theorem BinaryOp.builder_eq (op : BinaryOp) : op.builder = Build.binary op := by
  cases op <;> rfl

inductive Route where
  | operation | named | generic
  deriving DecidableEq

def Route.build (op : BinaryOp) (left right : Handle) : Route → Build Handle
  | operation => Build.binary op left right
  | named => op.builder left right
  | generic => Build.create op.opcode [left, right]

theorem Route.build_eq_binary {route : Route} (op : BinaryOp) (left right : Handle)
    (notGeneric : route ≠ .generic) : route.build op left right = Build.binary op left right := by
  cases route with
  | operation => rfl
  | named => exact congrFun (congrFun op.builder_eq left) right
  | generic => exact absurd rfl notGeneric

namespace Build

def Refused (request : Build α) (graph : Graph) : Prop :=
  ∃ fault, request.run graph = ⟨.error fault, graph, []⟩

def Makes (request : Build Handle) (graph : Graph) (opcode : Opcode) (type : DataType) : Prop :=
  ∃ handle node, (request.run graph).result = .ok handle ∧
    (request.run graph).graph.lookup handle = .ok node ∧
      node.opcode = opcode ∧ node.dataType = type

theorem not_refused_of_ok {request : Build α} {graph : Graph} {value : α}
    (answered : (request.run graph).result = .ok value) : ¬ request.Refused graph := by
  rintro ⟨fault, refused⟩
  rw [refused] at answered
  cases answered

end Build

namespace Graph

variable {graph : Graph} {left right : Handle} {leftNode rightNode : Node}

theorem binary_refused (op : BinaryOp) (foundLeft : graph.lookup left = .ok leftNode)
    (foundRight : graph.lookup right = .ok rightNode)
    (different : leftNode.dataType ≠ rightNode.dataType) :
    (Build.binary op left right).run graph =
      ⟨.error (.typeMismatch op.opcode leftNode.dataType rightNode.dataType), graph, []⟩ := by
  have refused : graph.planBinary op left right =
      .error (.typeMismatch op.opcode leftNode.dataType rightNode.dataType) := by
    simp only [planBinary, foundLeft, foundRight, require, different, if_false, bind, Except.bind]
  rw [Build.run_binary, refused]
  rfl

theorem binary_makes (op : BinaryOp) (foundLeft : graph.lookup left = .ok leftNode)
    (foundRight : graph.lookup right = .ok rightNode)
    (same : leftNode.dataType = rightNode.dataType) :
    (Build.binary op left right).Makes graph op.opcode rightNode.dataType := by
  unfold Build.Makes
  rw [Build.run_binary]
  simp only [planBinary, foundLeft, foundRight, require, same, if_true, bind, Except.bind, pure,
    Except.pure, carryOut, applyAll_append]
  exact ⟨_, _, rfl, lookup_add_new _ _, rfl, rfl⟩

theorem checkOperands_binary (graph : Graph) (op : BinaryOp) (operands : List Handle) :
    Build.checkOperands op.opcode operands graph = .ok () := by
  cases op <;> rfl

theorem run_create_binary (op : BinaryOp) (leftAccepted : graph.Accepts left)
    (rightAccepted : graph.Accepts right) :
    (Build.create op.opcode [left, right]).run graph =
      ⟨.ok graph.next, graph.add (graph.draft op.opcode [left, right]),
        [.allocated graph.numbering.next op.opcode 2]⟩ := by
  have accepted : ∀ child ∈ (graph.draft op.opcode [left, right]).children,
      graph.Accepts child := by
    simpa [draft] using ⟨leftAccepted, rightAccepted⟩
  have planned : graph.planCreate op.opcode [left, right] =
      .ok ⟨graph.next, [.add .asked (graph.draft op.opcode [left, right])]⟩ := by
    have arity : op.opcode.arity.accepts [left, right].length = true := by
      rw [BinaryOp.arity_opcode]
      rfl
    simp only [planCreate, require, arity, if_true, checkOperands_binary, bind, Except.bind,
      planAdd_ok accepted]
  rw [Build.run_create, planned]
  rfl

end Graph

structure ComparesTypes (graph : Graph) (op : BinaryOp) (left right : Handle)
    (leftType rightType : DataType) : Prop where
  refused_iff : ∀ route : Route,
    (route.build op left right).Refused graph ↔ leftType ≠ rightType ∧ route ≠ .generic
  mismatch : ∀ route : Route, route ≠ .generic → leftType ≠ rightType →
    (route.build op left right).run graph =
      ⟨.error (.typeMismatch op.opcode leftType rightType), graph, []⟩
  agreement : ∀ route : Route, route ≠ .generic → leftType = rightType →
    (route.build op left right).Makes graph op.opcode rightType
  unchecked : (Route.generic.build op left right).run graph =
    ⟨.ok graph.next, graph.add (graph.draft op.opcode [left, right]),
      [.allocated graph.numbering.next op.opcode 2]⟩

/-- Over operands of different types the operation and its named builder fail and leave the graph
as it was, and nothing else fails: the generic constructor builds the node, with the default type,
whatever the types of the operands are. -/
theorem operands_compared (graph : Graph) (op : BinaryOp) (left right : Handle)
    (leftType rightType : DataType) (isLeft : graph.dataType left = .ok leftType)
    (isRight : graph.dataType right = .ok rightType) :
    ComparesTypes graph op left right leftType rightType := by
  obtain ⟨leftNode, foundLeft, rfl⟩ := (Graph.dataType_eq_ok_iff _ _ _).mp isLeft
  obtain ⟨rightNode, foundRight, rfl⟩ := (Graph.dataType_eq_ok_iff _ _ _).mp isRight
  have mismatch : ∀ route : Route, route ≠ .generic → leftNode.dataType ≠ rightNode.dataType →
      (route.build op left right).run graph =
        ⟨.error (.typeMismatch op.opcode leftNode.dataType rightNode.dataType), graph, []⟩ := by
    intro route notGeneric different
    rw [Route.build_eq_binary op left right notGeneric]
    exact Graph.binary_refused op foundLeft foundRight different
  have agreement : ∀ route : Route, route ≠ .generic → leftNode.dataType = rightNode.dataType →
      (route.build op left right).Makes graph op.opcode rightNode.dataType := by
    intro route notGeneric same
    rw [Route.build_eq_binary op left right notGeneric]
    exact Graph.binary_makes op foundLeft foundRight same
  have unchecked := Graph.run_create_binary op ⟨leftNode, foundLeft⟩ ⟨rightNode, foundRight⟩
  refine ⟨?_, mismatch, agreement, unchecked⟩
  intro route
  constructor
  · intro refused
    have notGeneric : route ≠ .generic := by
      rintro rfl
      exact Build.not_refused_of_ok (congrArg Outcome.result unchecked) refused
    refine ⟨?_, notGeneric⟩
    intro same
    obtain ⟨handle, node, answered, _⟩ := agreement route notGeneric same
    exact Build.not_refused_of_ok answered refused
  · rintro ⟨different, notGeneric⟩
    exact ⟨_, mismatch route notGeneric different⟩

namespace Session

def mixing : List Step :=
  [.construct 0 (.index 1) (some "a"),
    .construct 0 (.constant (.float32 ⟨0x3f800000⟩)) (some "b")]

theorem mixing_types : ∃ graph, (start.run mixing).graphs[0]? = some graph ∧
    graph.dataType (.ref 0 0) = .ok .int32 ∧ graph.dataType (.ref 0 1) = .ok .float32 :=
  ⟨_, rfl, rfl, rfl⟩

theorem mixing_operands : ∃ graph ∈ (start.run mixing).graphs,
    graph.dataType (.ref 0 0) = .ok .int32 ∧ graph.dataType (.ref 0 1) = .ok .float32 ∧
      ComparesTypes graph .add (.ref 0 0) (.ref 0 1) .int32 .float32 := by
  obtain ⟨graph, found, isInt, isFloat⟩ := mixing_types
  exact ⟨graph, Array.mem_of_getElem? found, isInt, isFloat,
    operands_compared graph .add (.ref 0 0) (.ref 0 1) .int32 .float32 isInt isFloat⟩

theorem not_always_compared :
    ¬ ∀ steps : List Step, ∀ graph ∈ (start.run steps).graphs, ∀ (op : BinaryOp)
      (left right : Handle) (leftType rightType : DataType), graph.dataType left = .ok leftType →
        graph.dataType right = .ok rightType → leftType ≠ rightType →
          ∀ route : Route, (route.build op left right).Refused graph := by
  intro always
  obtain ⟨graph, found, isInt, isFloat⟩ := mixing_types
  have refused := always mixing graph (Array.mem_of_getElem? found) .add (.ref 0 0) (.ref 0 1)
    .int32 .float32 isInt isFloat (by decide) .generic
  obtain ⟨leftNode, foundLeft, _⟩ := (Graph.dataType_eq_ok_iff _ _ _).mp isInt
  obtain ⟨rightNode, foundRight, _⟩ := (Graph.dataType_eq_ok_iff _ _ _).mp isFloat
  have built := Graph.run_create_binary .add ⟨leftNode, foundLeft⟩ ⟨rightNode, foundRight⟩
  exact Build.not_refused_of_ok (congrArg Outcome.result built) refused

end Session

end ExprGraph
