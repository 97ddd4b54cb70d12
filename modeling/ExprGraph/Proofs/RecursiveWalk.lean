import ExprGraph.Proofs.Graph.Recursion
import ExprGraph.Proofs.Session.Overwriting

/-!
Walks with a stack are recursive walks.  From a root above no cycle a walk visits what a walk would
that calls itself for each child in order; where it meets a handle that is not known to the graph,
as it may below an overwritten node, it has visited exactly what comes before.
-/

namespace ExprGraph

structure Graph.WalksRecursively (graph : Graph) (order : VisitOrder) (root : Handle)
    (visits : Handle → List Handle) : Prop where
  recursion : ∀ handle, graph.Reaches root handle →
    visits handle = order.place handle ((graph.successors handle).flatMap visits)
  paths : ∀ handle, ∃ ways : List (List Nat), ways.Nodup ∧
    (∀ path, path ∈ ways ↔ graph.follow root path = some handle) ∧
    (visits root).count handle = ways.length
  complete : (∀ handle, graph.Reaches root handle → graph.Accepts handle) →
    graph.accept order root = ⟨visits root, none⟩
  interrupted : ∀ handle, graph.Reaches root handle → ¬ graph.Accepts handle →
    ∃ before unknown after, visits root = before ++ unknown :: after ∧
      (∀ earlier ∈ before, graph.Accepts earlier) ∧ ¬ graph.Accepts unknown ∧
      graph.accept order root = ⟨order.upTo before unknown, some (.fault .unknownNode)⟩

theorem Graph.Reaches.nonempty {graph : Graph} {first last : Handle}
    (children : ∀ node ∈ graph.nodes, ∀ child ∈ node.children, child ≠ .empty)
    (reached : graph.Reaches first last) (nonempty : first ≠ .empty) : last ≠ .empty := by
  induction reached with
  | refl handle => exact nonempty
  | step edge _ ih =>
      obtain ⟨node, found, member⟩ := edge
      exact ih (children node ((mem_nodes_iff _ _).mpr ⟨_, found⟩) _ member)

namespace Session

/-- In every session, overwritten nodes or not, a root that is not accepted is refused before
anything is visited, and from every other root above no cycle the walk ends, and is the recursive
walk or what comes in it before the first handle that is not known. -/
theorem accept_recursive (steps : List Step) (graph : Graph)
    (member : graph ∈ (start.run steps).graphs) (order : VisitOrder) (root : Handle) :
    (∀ fault, graph.lookup root = .error fault →
        graph.accept order root = ⟨[], some (.fault fault)⟩) ∧
      (graph.Accepts root → graph.AcyclicFrom root →
        ∃ visits, graph.WalksRecursively order root visits) := by
  constructor
  · intro fault refused
    simp only [Graph.accept, refused]
  · intro accepted acyclic
    have shallow := acyclic.shallow (.refl root)
    refine ⟨graph.unfolding order (graph.size + 1), ?_, ?_, ?_, ?_⟩
    · exact fun handle reached => (acyclic.shallow reached).unfolding_eq order
    · exact shallow.count_unfolding
    · exact Graph.accept_eq_of_known acyclic
    · intro handle reached notAccepted
      obtain ⟨before, unknown, after, fault, split, earlier, refused, outcome⟩ :=
        Graph.accept_eq_of_unknown acyclic accepted reached notAccepted
      have below : graph.Reaches root unknown :=
        (shallow.mem_unfolding_iff order unknown).mp (by rw [split]; simp)
      have nonempty :=
        below.nonempty (Lasting.children_nonempty.run steps graph member) accepted.nonempty
      rcases (Graph.lookup_eq_error_iff graph unknown fault).mp refused with
        ⟨isEmpty, _⟩ | ⟨_, rfl, isUnknown⟩
      · exact (nonempty isEmpty).elim
      · exact ⟨before, unknown, after, split, earlier, isUnknown, outcome⟩

def grafting : List Step :=
  [.construct 0 (.index 1) (some "x"),
    .construct 0 (.binary .mul (some "x") (some "x")) (some "square"),
    .newGraph {},
    .construct 1 (.index 5) (some "a"),
    .construct 1 .placeholder (some "b"),
    .construct 1 (.select (some "a") (some "b") (some "a")) (some "root"),
    .replace 1 (some "b") 0 (some "square")]

theorem grafting_walks_recursively :
    ∃ graph ∈ (start.run grafting).graphs,
      graph.accept .parentFirst (.ref 1 2) =
          ⟨[.ref 1 2, .ref 1 0, .ref 1 1, .ref 0 0], some (.fault .unknownNode)⟩ ∧
        graph.accept .childFirst (.ref 1 2) = ⟨[.ref 1 0], some (.fault .unknownNode)⟩ ∧
        ∀ order, ∃ visits, graph.WalksRecursively order (.ref 1 2) visits := by
  have built : ∃ graph, (start.run grafting).graphs[1]? = some graph ∧
      graph.accept .parentFirst (.ref 1 2) =
          ⟨[.ref 1 2, .ref 1 0, .ref 1 1, .ref 0 0], some (.fault .unknownNode)⟩ ∧
        graph.accept .childFirst (.ref 1 2) = ⟨[.ref 1 0], some (.fault .unknownNode)⟩ ∧
        graph.Accepts (.ref 1 2) ∧ graph.Acyclic := by
    refine ⟨_, rfl, by decide +kernel, by decide +kernel, ⟨_, rfl⟩, ?_⟩
    apply Graph.acyclic_of_falling (fun handle =>
      if handle = .ref 1 2 then 2 else if handle = .ref 1 1 then 1 else 0)
    decide +kernel
  obtain ⟨graph, found, parentFirst, childFirst, accepted, acyclic⟩ := built
  have member := Array.mem_of_getElem? found
  refine ⟨graph, member, parentFirst, childFirst, fun order => ?_⟩
  exact (accept_recursive grafting graph member order (.ref 1 2)).2 accepted (acyclic.from _)

end Session

end ExprGraph
