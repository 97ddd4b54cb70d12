import ExprGraph.Proofs.Graph.Closure
import ExprGraph.Proofs.Session.Evolution

/-!
Sessions in which whole nodes may be overwritten.  A copy of a node keeps nothing of the graph it
came from, so it may have children its new graph does not know; but what every new node has and
every edit keeps is true of copies too.  Main statement: `Lasting.run`.
-/

namespace ExprGraph

structure Lasting (P : Node → Prop) : Prop where
  added : ∀ (graph : Graph) (draft : Draft) (id : UInt32),
    (∀ child ∈ draft.children, graph.Accepts child) → P (draft.node id)
  edited : ∀ (graph : Graph) (node : Node) (edit : Edit),
    P node → edit.Fits graph node → P (edit.apply node)

theorem Lasting.apply {P : Node → Prop} (lasting : Lasting P) {graph : Graph} {change : Change}
    (holds : ∀ node ∈ graph.nodes, P node) (valid : change.Valid graph) :
    ∀ node ∈ (graph.apply change).nodes, P node := by
  intro node member
  obtain ⟨handle, found⟩ := (Graph.mem_nodes_iff _ _).mp member
  rcases Graph.lookup_apply_cases found with old | isNew | isEdited
  · exact holds node ((Graph.mem_nodes_iff _ _).mpr ⟨handle, old⟩)
  · obtain ⟨cause, draft, rfl, _, rfl⟩ := isNew
    exact lasting.added graph draft _ valid.1
  · obtain ⟨edit, old, rfl, before, rfl⟩ := isEdited
    obtain ⟨target, isTarget, fits⟩ := valid
    obtain rfl := Except.ok.inj (before.symm.trans isTarget)
    have inGraph := holds old ((Graph.mem_nodes_iff _ _).mpr ⟨handle, before⟩)
    exact lasting.edited graph old edit inGraph fits

theorem Graph.node_put_cases {graph : Graph} {handle : Handle} {node other : Node}
    (member : other ∈ (graph.put handle node).nodes) : other ∈ graph.nodes ∨ other = node := by
  cases handle with
  | empty => exact .inl member
  | ref owner position => exact Array.mem_or_eq_of_mem_setIfInBounds member

namespace Session

theorem graphs_replace (session : Session) (target : Nat) (handle : Operand) (source : Nat)
    (replacement : Operand) :
    (session.step (.replace target handle source replacement)).1.graphs = session.graphs ∨
      ∃ graph, session.graphs[target]? = some graph ∧ ∃ copied ∈ session.graphs, ∃ node,
        copied.lookup (session.resolve replacement) = .ok node ∧
          (session.step (.replace target handle source replacement)).1.graphs =
            session.graphs.setIfInBounds target (graph.put (session.resolve handle) node) := by
  cases isSource : session.graphs[source]? with
  | none =>
      left
      simp only [step, isSource]
      rfl
  | some copied =>
      cases found : copied.lookup (session.resolve replacement) with
      | error fault =>
          left
          simp only [step, isSource, found]
          rfl
      | ok node =>
          simp only [step, isSource, found]
          cases isTarget : session.graphs[target]? with
          | none =>
              left
              rw [build_missing isTarget]
              rfl
          | some graph =>
              have ran : (Build.overwrite (session.resolve handle) node).run graph = _ :=
                Build.run_update (session.resolve handle) (fun _ => node) graph
              cases old : graph.lookup (session.resolve handle) with
              | error fault =>
                  left
                  rw [old] at ran
                  rw [build_refused isTarget ran]
                  rfl
              | ok overwritten =>
                  right
                  rw [old] at ran
                  refine ⟨graph, rfl, copied, Array.mem_of_getElem? isSource, node, found, ?_⟩
                  simp only [build, isTarget, ran, settle]
                  rfl

theorem size_elsewhere {session : Session} {index : Nat} {graph : Graph} {step : Step}
    (elsewhere : step.target? ≠ some index) (found : session.graphs[index]? = some graph) :
    ∃ after, (session.step step).1.graphs[index]? = some after ∧ after.size = graph.size := by
  cases replaces : step.isReplace with
  | false =>
      have kept := step_graph_kept replaces found
      rw [changes_other elsewhere] at kept
      exact ⟨graph, kept, rfl⟩
  | true =>
      cases step with
      | replace target handle source replacement =>
          rcases session.graphs_replace target handle source replacement with
            same | ⟨old, isTarget, _, _, node, _, overwritten⟩
          · exact ⟨graph, by rw [same, found], rfl⟩
          · rw [overwritten]
            obtain ⟨bound, _⟩ := Array.getElem?_eq_some_iff.mp found
            by_cases here : target = index
            · subst here
              obtain rfl := Option.some.inj (found.symm.trans isTarget)
              exact ⟨_, Array.getElem?_setIfInBounds_self_of_lt bound, Graph.size_put _ _ _⟩
            · exact ⟨graph, by rw [Array.getElem?_setIfInBounds_ne here, found], rfl⟩
      | _ => cases replaces

/-- What is true of all nodes stays true of them, if it does where the step makes its changes: an
overwritten node is a copy of another one. -/
theorem nodes_step {P : Node → Prop} {session : Session} {step : Step}
    (holds : ∀ graph ∈ session.graphs, ∀ node ∈ graph.nodes, P node)
    (changed : ∀ index, ∀ graph ∈ session.graphs,
      ∀ node ∈ (graph.applyAll (session.changes index graph step)).nodes, P node) :
    ∀ graph ∈ (session.step step).1.graphs, ∀ node ∈ graph.nodes, P node := by
  intro after isAfter
  cases replaces : step.isReplace with
  | false =>
      obtain ⟨index, found⟩ := Array.mem_iff_getElem?.mp isAfter
      rcases step_graph_cases replaces found with ⟨graph, before, rfl⟩ | ⟨_, new | copied⟩
      · exact changed index graph (Array.mem_of_getElem? before)
      · obtain ⟨options, _, rfl⟩ := new
        intro node member
        simp at member
      · obtain ⟨source, _, before⟩ := copied
        exact holds after (Array.mem_of_getElem? before)
  | true =>
      cases step with
      | replace target handle source replacement =>
          rcases session.graphs_replace target handle source replacement with
            same | ⟨graph, isTarget, copied, isCopied, node, found, overwritten⟩
          · exact holds after (same ▸ isAfter)
          · intro other isOther
            rw [overwritten] at isAfter
            rcases Array.mem_or_eq_of_mem_setIfInBounds isAfter with old | rfl
            · exact holds after old other isOther
            · rcases Graph.node_put_cases isOther with old | rfl
              · exact holds graph (Array.mem_of_getElem? isTarget) other old
              · exact holds copied isCopied other ((Graph.mem_nodes_iff _ _).mpr ⟨_, found⟩)
      | _ => cases replaces

end Session

namespace Lasting

variable {P : Node → Prop}

theorem step (lasting : Lasting P) {session : Session} (step : Step)
    (holds : ∀ graph ∈ session.graphs, ∀ node ∈ graph.nodes, P node) :
    ∀ graph ∈ (session.step step).1.graphs, ∀ node ∈ graph.nodes, P node := by
  refine Session.nodes_step holds (fun index graph member => ?_)
  exact Graph.applyAll_invariant (P := fun graph => ∀ node ∈ graph.nodes, P node)
    (fun _ _ held valid => lasting.apply held valid) (holds graph member) _
    (Session.changes_valid session index graph step)

theorem run (lasting : Lasting P) (steps : List Step) :
    ∀ graph ∈ (Session.start.run steps).graphs, ∀ node ∈ graph.nodes, P node := by
  have fromAny : ∀ session : Session, (∀ graph ∈ session.graphs, ∀ node ∈ graph.nodes, P node) →
      ∀ graph ∈ (session.run steps).graphs, ∀ node ∈ graph.nodes, P node := by
    induction steps with
    | nil => exact fun session holds => holds
    | cons step rest ih => exact fun session holds => ih _ (lasting.step step holds)
  apply fromAny
  apply Session.graphs_start (P := fun graph => ∀ node ∈ graph.nodes, P node)
  intro node member
  simp at member

theorem children_nonempty : Lasting (fun node => ∀ child ∈ node.children, child ≠ .empty) where
  added := fun _ _ _ accepted child member => (accepted child member).nonempty
  edited := by
    intro graph node edit holds fits child member
    rcases edit.children_apply_cases member with old | rfl
    · exact holds child old
    · exact (Graph.accepts_of_opcode fits.2).nonempty

end Lasting

end ExprGraph
