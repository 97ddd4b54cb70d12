import ExprGraph.Graph.Walk
import ExprGraph.Text.Lines

/-!
Dumps: a graph as text for people to read, one entry per line.  The tree dump shows everything
reachable from a root, once per edge and indented by depth, with a star at a node shown before; the
sequential dump shows every node in the order of building, with its children and lanes by number.
-/

namespace ExprGraph

def Node.label (node : Node) : String :=
  let digits := toString node.id.toNat
  String.ofList (List.replicate (4 - digits.length) '0') ++ digits

structure Pending where
  handle : Handle
  depth : Nat
  deriving DecidableEq

structure TreeDump where
  pending : List Pending
  seen : List Handle
  /-- Entries written, the last one first. -/
  entries : List String

namespace TreeDump

def entry (node : Node) (depth : Nat) (repeated : Bool) : String :=
  String.ofList (List.replicate (2 * depth) ' ') ++ node.label ++ " " ++
    node.text ++
    (match node.boundAddress with
      | .ok address => " @ " ++ address.fieldText
      | .error _ => "") ++
    (if repeated then " *" else "")

def step (graph : Graph) (dump : TreeDump) : Except Fault (Option TreeDump) :=
  match dump.pending with
  | [] => .ok none
  | next :: rest => do
    let node ← graph.lookup next.handle
    let repeated := dump.seen.contains next.handle
    return some {
      pending := node.children.map (fun child => ⟨child, next.depth + 1⟩) ++ rest
      seen := if repeated then dump.seen else next.handle :: dump.seen
      entries := entry node next.depth repeated :: dump.entries }

end TreeDump

namespace Graph

def treeHeader (graph : Graph) (root : Node) : List String :=
  ["=== Graph Dump (root: #" ++ root.label ++ ") ===",
    "Total nodes: " ++ toString graph.size, ""]

def dumpTree (graph : Graph) (root : Handle) : Except Interruption String :=
  match graph.lookup root with
  | .error fault => .error (.fault fault)
  | .ok node =>
    let start : TreeDump := { pending := [⟨root, 0⟩], seen := [], entries := [] }
    match Loop.run (TreeDump.step graph) (graph.visitBound + 1) start with
    | (dump, none) => .ok (Text.unlines (graph.treeHeader node ++ dump.entries.reverse))
    | (_, some interruption) => .error interruption

def reference (graph : Graph) (handle : Handle) : String :=
  match graph.lookup handle with
  | .ok node => "#" ++ node.label
  | .error _ => "#????"

def references (graph : Graph) (handles : List Handle) : String :=
  String.intercalate ", " (handles.map graph.reference)

def sequentialEntry (graph : Graph) (node : Node) : String :=
  node.label ++ " " ++ node.text ++
    (if node.children.isEmpty then "" else " (" ++ graph.references node.children ++ ")") ++
    (if node.members.isEmpty then ""
      else " members=[" ++ graph.references node.members ++ "] x" ++ toString node.groupCount)

def dumpSequential (graph : Graph) : String :=
  Text.unlines (["=== Graph Sequential Dump ===", "Total nodes: " ++ toString graph.size, ""] ++
    graph.nodes.toList.map graph.sequentialEntry)

end Graph

end ExprGraph
