import ExprGraph.Graph.Basic

/-!
Questions about addresses: which one a memory access touches, and whether two pointers address
neighbouring elements.
-/

namespace ExprGraph.Graph

def address (graph : Graph) (handle : Handle) : Except Fault Address := do
  let node ← graph.lookup handle
  node.boundAddress

def firstOperand (node : Node) (reason : String) : Except Fault Handle :=
  match node.children with
  | first :: _ => .ok first
  | [] => .error (.brokenAddressChain reason)

def resolvedAddress (graph : Graph) (handle : Handle) : Except Fault Address := do
  let node ← graph.lookup handle
  if node.opcode.isMemoryAccess then
    let pointerHandle ← firstOperand node "memory access has no operands"
    let pointer ← graph.lookup pointerHandle
    if pointer.opcode = .pointer then
      let addrHandle ← firstOperand pointer "pointer has no operands"
      let addr ← graph.lookup addrHandle
      if addr.opcode = .addr then addr.boundAddress
      else .error (.brokenAddressChain "pointer does not point at an addr node")
    else .error (.brokenAddressChain "first operand is not a pointer")
  else .error (.opcodeMismatch [.load, .store] node.opcode)

/-- The address a pointer starts at; an index it is displaced by is not looked at. -/
def pointerAddress (graph : Graph) (pointer : Handle) : Except Fault Address := do
  graph.expectOpcode pointer .pointer
  let node ← graph.lookup pointer
  let addr ← firstOperand node "pointer has no operands"
  graph.address addr

def priorTo (graph : Graph) (first second : Handle) : Except Fault Bool := do
  let firstAddress ← graph.pointerAddress first
  let secondAddress ← graph.pointerAddress second
  return firstAddress.isPriorTo secondAddress

def memberIndex? (graph : Graph) (group handle : Handle) : Except Fault (Option Nat) :=
  (graph.lookup group).map (fun node => node.memberIndex? handle)

end ExprGraph.Graph
