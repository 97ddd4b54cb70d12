import ExprGraph.Address
import ExprGraph.Fault
import ExprGraph.Handle
import ExprGraph.Immediate

/-!
Nodes of the expression graph.  Operation, number and immediate are fixed when a node is built;
its type, name, address and vector group may be filled in later, and a combine node collects
children.
-/

namespace ExprGraph

structure Node where
  opcode : Opcode
  dataType : DataType
  children : List Handle
  members : List Handle := []
  immediate : Option Immediate := none
  address : Option Address := none
  id : UInt32
  groupCount : Nat := 1
  vectorized : Bool := false
  name : String := ""
  deriving DecidableEq

namespace Node

def lanes (node : Node) : Nat := node.members.length * node.groupCount

def memberIndex? (node : Node) (handle : Handle) : Option Nat :=
  node.members.findIdx? (fun member => member == handle)

def immediateFault (node : Node) (expected : String) : Fault :=
  .immediateMismatch expected (node.immediate.elim "no" Immediate.kindName)

def immediateInt (node : Node) : Except Fault Int64 :=
  match node.immediate.bind Immediate.int? with
  | some value => .ok value
  | none => .error (node.immediateFault "int")

def immediateFloat (node : Node) : Except Fault Binary64 :=
  match node.immediate.bind Immediate.float? with
  | some value => .ok value
  | none => .error (node.immediateFault "float")

def comparison (node : Node) : Except Fault Comparison :=
  match node.immediate.bind Immediate.cmp? with
  | some kind => .ok kind
  | none => .error (node.immediateFault "cmp")

def boundAddress (node : Node) : Except Fault Address :=
  if node.opcode = .addr then
    match node.address with
    | some address => .ok address
    | none => .error .unboundAddress
  else .error (.opcodeMismatch [.addr] node.opcode)

def text (node : Node) : String :=
  node.opcode.name ++ "<" ++ node.dataType.name ++ ">" ++
    node.immediate.elim "" (fun immediate => " [" ++ immediate.text ++ "]") ++
    (if node.name = "" then "" else " \"" ++ node.name ++ "\"")

end Node

end ExprGraph
