import ExprGraph.Proofs.Graph.Traversal
import ExprGraph.Proofs.Session.Evolution

/-!
Graphs refer to nothing but their own nodes.  Handles come from callers, who may pass one of another
graph, or of a copy that has grown since; whatever is kept in a node was checked against the graph
itself before.  So neither a traversal nor a dump meets a handle it cannot look up.
-/

namespace ExprGraph

def Graph.referents (graph : Graph) (handles : List Handle) : List Node :=
  handles.filterMap (fun handle => (graph.lookup handle).toOption)

namespace Node

def references (nodes : List Node) : String :=
  String.intercalate ", " (nodes.map (fun node => "#" ++ node.label))

def resolvedEntry (node : Node) (children members : List Node) : String :=
  node.label ++ " " ++ node.text ++
    (if children.isEmpty then "" else " (" ++ references children ++ ")") ++
    (if members.isEmpty then ""
      else " members=[" ++ references members ++ "] x" ++ toString node.groupCount)

end Node

namespace Graph

theorem map_referents {graph : Graph} {atHandle : Handle → α} {atNode : Node → α}
    (agree : ∀ handle node, graph.lookup handle = .ok node → atHandle handle = atNode node)
    {handles : List Handle} (accepted : ∀ handle ∈ handles, graph.Accepts handle) :
    handles.map atHandle = (graph.referents handles).map atNode := by
  induction handles with
  | nil => rfl
  | cons first rest ih =>
      obtain ⟨node, found⟩ := accepted first List.mem_cons_self
      have later := ih (fun handle member => accepted handle (List.mem_cons_of_mem _ member))
      simp only [referents] at later
      simp [referents, found, later, agree first node found, Except.toOption]

theorem lookup_referents {graph : Graph} {handles : List Handle}
    (accepted : ∀ handle ∈ handles, graph.Accepts handle) :
    handles.map graph.lookup = (graph.referents handles).map .ok :=
  map_referents (fun _ _ found => found) accepted

theorem references_eq {graph : Graph} {handles : List Handle}
    (accepted : ∀ handle ∈ handles, graph.Accepts handle) :
    graph.references handles = Node.references (graph.referents handles) := by
  have byLabel : ∀ handle node, graph.lookup handle = .ok node →
      graph.reference handle = "#" ++ node.label := by
    intro handle node found
    simp only [reference, found]
  rw [references, Node.references, map_referents byLabel accepted]

theorem isEmpty_referents {graph : Graph} {handles : List Handle}
    (accepted : ∀ handle ∈ handles, graph.Accepts handle) :
    (graph.referents handles).isEmpty = handles.isEmpty := by
  have sameLength := congrArg List.length (lookup_referents accepted)
  rw [List.length_map, List.length_map] at sameLength
  rw [Bool.eq_iff_iff, List.isEmpty_iff_length_eq_zero, List.isEmpty_iff_length_eq_zero, sameLength]

theorem sequentialEntry_eq {graph : Graph} {node : Node}
    (children : ∀ child ∈ node.children, graph.Accepts child)
    (members : ∀ member ∈ node.members, graph.Accepts member) :
    graph.sequentialEntry node =
      node.resolvedEntry (graph.referents node.children) (graph.referents node.members) := by
  rw [sequentialEntry, Node.resolvedEntry, references_eq children, references_eq members,
    isEmpty_referents children, isEmpty_referents members]

end Graph

namespace Session

end Session

end ExprGraph
