import ExprGraph.Node
import ExprGraph.Numbering

/-!
The graph: an arena that only grows, the numbering of its nodes and its options.  A graph accepts
a handle when the handle carries the graph's identity and a position below its size; a copy of a
graph keeps the identity, and so goes on accepting the handles issued before.
-/

namespace ExprGraph

structure Options where
  capacity : Nat := 256
  defaultDataType : DataType := .float32
  deriving DecidableEq

structure Graph where
  id : UInt32
  nodes : Array Node := #[]
  numbering : Numbering := {}
  options : Options := {}
  deriving DecidableEq

namespace Graph

def size (graph : Graph) : Nat := graph.nodes.size

def lookup (graph : Graph) : Handle → Except Fault Node
  | .empty => .error .emptyHandle
  | .ref owner position =>
    if owner = graph.id then
      match graph.nodes[position]? with
      | some node => .ok node
      | none => .error .unknownNode
    else .error .unknownNode

def contains (graph : Graph) (handle : Handle) : Bool := (graph.lookup handle).toBool

def checkAll (graph : Graph) : List Handle → Except Fault Unit
  | [] => .ok ()
  | handle :: rest => do
    let _ ← graph.lookup handle
    graph.checkAll rest

def opcode (graph : Graph) (handle : Handle) : Except Fault Opcode :=
  (graph.lookup handle).map Node.opcode

def dataType (graph : Graph) (handle : Handle) : Except Fault DataType :=
  (graph.lookup handle).map Node.dataType

def expectOpcode (graph : Graph) (handle : Handle) (expected : Opcode) : Except Fault Unit := do
  let found ← graph.opcode handle
  if found = expected then .ok () else .error (.opcodeMismatch [expected] found)

def child (graph : Graph) (handle : Handle) (index : Nat) : Except Fault Handle := do
  let node ← graph.lookup handle
  match node.children[index]? with
  | some child => .ok child
  | none => .error (.childOutOfRange index node.children.length)

def handleAt (graph : Graph) (position : Nat) : Handle := .ref graph.id position

def entries (graph : Graph) : List (Handle × Node) :=
  graph.nodes.toList.zipIdx.map (fun (node, position) => (graph.handleAt position, node))

def push (graph : Graph) (node : Node) : Graph :=
  { graph with nodes := graph.nodes.push node }

def put (graph : Graph) (handle : Handle) (node : Node) : Graph :=
  match handle with
  | .empty => graph
  | .ref _ position => { graph with nodes := graph.nodes.setIfInBounds position node }

end Graph

end ExprGraph
