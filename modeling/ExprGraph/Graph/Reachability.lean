import ExprGraph.Graph.Lemmas

/-!
Which handles can be reached from which over child edges, and graphs without a cycle of them.
-/

namespace ExprGraph.Graph

def Edge (graph : Graph) (parent child : Handle) : Prop :=
  ∃ node, graph.lookup parent = .ok node ∧ child ∈ node.children

inductive Reaches (graph : Graph) : Handle → Handle → Prop
  | refl (handle : Handle) : Reaches graph handle handle
  | step {first next last : Handle} : graph.Edge first next → Reaches graph next last →
      Reaches graph first last

def AcyclicFrom (graph : Graph) (root : Handle) : Prop :=
  ∀ parent child, graph.Reaches root parent → graph.Edge parent child →
    ¬ graph.Reaches child parent

def Acyclic (graph : Graph) : Prop :=
  ∀ parent child, graph.Edge parent child → ¬ graph.Reaches child parent

theorem Reaches.trans {graph : Graph} {first middle last : Handle}
    (start : graph.Reaches first middle) (rest : graph.Reaches middle last) :
    graph.Reaches first last := by
  induction start with
  | refl _ => exact rest
  | step edge _ ih => exact .step edge (ih rest)

theorem Edge.reaches {graph : Graph} {parent child : Handle} (edge : graph.Edge parent child) :
    graph.Reaches parent child :=
  .step edge (.refl child)

theorem Edge.accepts_parent {graph : Graph} {parent child : Handle}
    (edge : graph.Edge parent child) : graph.Accepts parent := by
  obtain ⟨node, found, _⟩ := edge
  exact ⟨node, found⟩

theorem Acyclic.from {graph : Graph} (acyclic : graph.Acyclic) (root : Handle) :
    graph.AcyclicFrom root :=
  fun parent child _ edge => acyclic parent child edge

theorem acyclic_of_falling {graph : Graph} (rank : Handle → Nat)
    (falls : ∀ position (bound : position < graph.size),
      ∀ child ∈ graph.nodes[position].children, rank child < rank (graph.handleAt position)) :
    graph.Acyclic := by
  have edgeFalls : ∀ {parent child}, graph.Edge parent child → rank child < rank parent := by
    rintro parent child ⟨node, found, member⟩
    obtain ⟨position, rfl, stored⟩ := (lookup_eq_ok_iff graph parent node).mp found
    obtain ⟨bound, rfl⟩ := Array.getElem?_eq_some_iff.mp stored
    exact falls position bound child member
  have pathFalls : ∀ {first last}, graph.Reaches first last → rank last ≤ rank first := by
    intro first last reached
    induction reached with
    | refl handle => exact Nat.le_refl _
    | step edge _ ih => exact Nat.le_trans ih (Nat.le_of_lt (edgeFalls edge))
  intro parent child edge back
  exact Nat.lt_irrefl _ (Nat.lt_of_le_of_lt (pathFalls back) (edgeFalls edge))

end ExprGraph.Graph
