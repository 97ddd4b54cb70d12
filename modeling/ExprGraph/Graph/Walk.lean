import ExprGraph.Graph.Basic
import ExprGraph.Loop

/-!
Walking the graph from a root.  Nodes are visited once per edge and not once per node, so a node
with two parents is visited twice, each time with all that is below it.  The walk keeps a stack of
nodes with the number of the child each has to go to next.
-/

namespace ExprGraph

inductive VisitOrder where
  | parentFirst | childFirst
  deriving DecidableEq

structure Frame where
  handle : Handle
  next : Nat
  deriving DecidableEq

structure Walk where
  stack : List Frame
  /-- Visited handles, the last one first. -/
  visited : List Handle
  deriving DecidableEq

namespace Walk

def visit (walk : Walk) (handle : Handle) : Walk :=
  { walk with visited := handle :: walk.visited }

def start (order : VisitOrder) (root : Handle) : Walk :=
  let walk : Walk := { stack := [⟨root, 0⟩], visited := [] }
  match order with
  | .parentFirst => walk.visit root
  | .childFirst => walk

/-- Goes to the next child of the node on top, or leaves that node when no child is left.  A child
is visited before it is looked up when parents come first, and after all that is below it when
children do. -/
def step (graph : Graph) (order : VisitOrder) (walk : Walk) : Except Fault (Option Walk) :=
  match walk.stack with
  | [] => .ok none
  | frame :: rest => do
    let node ← graph.lookup frame.handle
    match node.children[frame.next]? with
    | some child =>
      let entered : Walk :=
        { walk with stack := ⟨child, 0⟩ :: { frame with next := frame.next + 1 } :: rest }
      return some (match order with
        | .parentFirst => entered.visit child
        | .childFirst => entered)
    | none =>
      let left : Walk := { walk with stack := rest }
      return some (match order with
        | .parentFirst => left
        | .childFirst => left.visit frame.handle)

end Walk

structure Visits where
  handles : List Handle
  interruption : Option Interruption
  deriving DecidableEq

namespace Graph

def width (graph : Graph) : Nat :=
  graph.nodes.foldl (fun most node => Nat.max most node.children.length) 0

/-- Where no cycle is reachable a path has at most as many nodes as the graph, so no more than this
many visits are made from any root. -/
def visitBound (graph : Graph) : Nat := Nat.pow (graph.width + 1) (graph.size + 1)

def accept (graph : Graph) (order : VisitOrder) (root : Handle) : Visits :=
  match graph.lookup root with
  | .error fault => ⟨[], some (.fault fault)⟩
  | .ok _ =>
    let (walk, interruption) :=
      Loop.run (Walk.step graph order) (2 * graph.visitBound + 1) (Walk.start order root)
    ⟨walk.visited.reverse, interruption⟩

end Graph

end ExprGraph
