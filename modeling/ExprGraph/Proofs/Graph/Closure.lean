import ExprGraph.Graph.Reachability
import ExprGraph.Proofs.Graph.Change

/-!
Closed graphs: every handle kept in a node is accepted.  Valid changes keep a graph closed, because
handles are checked before they are kept and no node is ever taken away.
-/

namespace ExprGraph

structure Graph.Closed (graph : Graph) : Prop where
  children : ∀ handle node, graph.lookup handle = .ok node →
    ∀ child ∈ node.children, graph.Accepts child
  members : ∀ handle node, graph.lookup handle = .ok node →
    ∀ member ∈ node.members, graph.Accepts member

namespace Edit

variable {graph : Graph} {node : Node} {edit : Edit}

theorem children_apply_cases {child : Handle} (member : child ∈ (edit.apply node).children) :
    child ∈ node.children ∨ edit = .collect child := by
  cases edit with
  | collect store =>
      rcases List.mem_append.mp member with old | new
      · exact .inl old
      · rw [List.mem_singleton.mp new]
        exact .inr rfl
  | _ => exact .inl member

theorem mem_children_apply {child : Handle} (edit : Edit) (member : child ∈ node.children) :
    child ∈ (edit.apply node).children := by
  cases edit with
  | collect store => exact List.mem_append_left _ member
  | _ => exact member

theorem accepts_children (fits : edit.Fits graph node)
    (closed : ∀ child ∈ node.children, graph.Accepts child) :
    ∀ child ∈ (edit.apply node).children, graph.Accepts child := by
  intro child member
  rcases children_apply_cases member with old | rfl
  · exact closed child old
  · exact Graph.accepts_of_opcode fits.2

theorem accepts_members (fits : edit.Fits graph node)
    (closed : ∀ member ∈ node.members, graph.Accepts member) :
    ∀ member ∈ (edit.apply node).members, graph.Accepts member := by
  cases edit with
  | enroll members =>
      intro member isMember
      rcases fits member isMember with old | accepted
      · exact closed member old
      · exact accepted
  | _ => exact closed

end Edit

namespace Graph

theorem closed_empty (id : UInt32) (options : Options) :
    Closed { id := id, options := options } := by
  have noNodes := not_accepts_empty id options
  exact ⟨fun handle node found => (noNodes handle ⟨node, found⟩).elim,
    fun handle node found => (noNodes handle ⟨node, found⟩).elim⟩

theorem Closed.apply {graph : Graph} {change : Change} (closed : graph.Closed)
    (valid : change.Valid graph) : (graph.apply change).Closed := by
  constructor
  · intro handle node found child member
    apply Accepts.apply
    rcases lookup_apply_cases found with old | added | edited
    · exact closed.children handle node old child member
    · obtain ⟨cause, draft, rfl, _, rfl⟩ := added
      exact valid.1 child member
    · obtain ⟨edit, old, rfl, before, rfl⟩ := edited
      obtain ⟨target, isTarget, fits⟩ := valid
      obtain rfl := Except.ok.inj (before.symm.trans isTarget)
      exact edit.accepts_children fits (closed.children handle old before) child member
  · intro handle node found lane member
    apply Accepts.apply
    rcases lookup_apply_cases found with old | added | edited
    · exact closed.members handle node old lane member
    · obtain ⟨cause, draft, _, _, rfl⟩ := added
      cases member
    · obtain ⟨edit, old, rfl, before, rfl⟩ := edited
      obtain ⟨target, isTarget, fits⟩ := valid
      obtain rfl := Except.ok.inj (before.symm.trans isTarget)
      exact edit.accepts_members fits (closed.members handle old before) lane member

theorem Closed.accepts_child {graph : Graph} (closed : graph.Closed) {parent child : Handle}
    (edge : graph.Edge parent child) : graph.Accepts child := by
  obtain ⟨node, found, member⟩ := edge
  exact closed.children parent node found child member

theorem Closed.accepts_reached {graph : Graph} (closed : graph.Closed) {first last : Handle}
    (accepted : graph.Accepts first) (reached : graph.Reaches first last) : graph.Accepts last := by
  induction reached with
  | refl handle => exact accepted
  | step edge _ ih => exact ih (closed.accepts_child edge)

theorem Closed.lookup_reached {graph : Graph} {root handle : Handle} (closed : graph.Closed)
    (accepted : graph.Accepts root) (reached : graph.Reaches root handle) (fault : Fault) :
    graph.lookup handle ≠ .error fault := by
  obtain ⟨node, found⟩ := closed.accepts_reached accepted reached
  simp [found]

end Graph

end ExprGraph
