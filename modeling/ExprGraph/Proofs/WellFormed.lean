import ExprGraph.Proofs.Session.Evolution

/-!
Graphs are well formed by construction.  Every valid change keeps the shape of all nodes, because it
adds nodes of the right shape, and edits of a finished node touch neither its opcode nor its
immediate: a bound address goes to an `addr` node, a collected store to a `combine` node.
-/

namespace ExprGraph

theorem Draft.shaped_of_id {graph : Graph} {draft : Draft} {first : UInt32}
    (shaped : (draft.node first).Shaped graph) (second : UInt32) :
    (draft.node second).Shaped graph where
  arity := shaped.arity
  storeTarget := shaped.storeTarget
  pointerTarget := shaped.pointerTarget
  immediate := shaped.immediate
  cmpKind := shaped.cmpKind
  indexKind := shaped.indexKind
  immKind := shaped.immKind
  address := shaped.address

theorem Node.Shaped.of_parts {graph : Graph} {old node : Node} (shaped : old.Shaped graph)
    (opcode : node.opcode = old.opcode) (children : node.children = old.children)
    (immediate : node.immediate = old.immediate) (address : node.address = old.address) :
    node.Shaped graph where
  arity := by simpa [opcode, children] using shaped.arity
  storeTarget := by simpa [opcode, children] using shaped.storeTarget
  pointerTarget := by simpa [opcode, children] using shaped.pointerTarget
  immediate := by simpa [opcode, immediate] using shaped.immediate
  cmpKind := by simpa [opcode, immediate] using shaped.cmpKind
  indexKind := by simpa [opcode, immediate] using shaped.indexKind
  immKind := by simpa [opcode, immediate] using shaped.immKind
  address := by simpa [opcode, address] using shaped.address

theorem Edit.shaped_apply {graph : Graph} {node : Node} {edit : Edit} (shaped : node.Shaped graph)
    (fits : edit.Fits graph node) : (edit.apply node).Shaped graph := by
  cases edit with
  | bind address =>
      have isAddr : node.opcode = .addr := fits
      exact { shaped with address := fun _ => isAddr }
  | collect store =>
      have isCombine : node.opcode = .combine := fits.1
      have noImmediate : node.immediate.isSome = false := by
        have carries := shaped.immediate
        rw [isCombine] at carries
        simpa using carries
      have noAddress : node.address.isSome = false := by
        have bound := shaped.address
        rw [isCombine] at bound
        simpa using bound
      apply Node.Shaped.of_plain
      · simp [apply, isCombine, Opcode.arity, Arity.accepts]
      · simp [apply, isCombine]
      · simp [apply, isCombine]
      · simpa [apply] using noImmediate
      · simpa [apply] using noAddress
      · simp [apply, isCombine]
  | _ => exact shaped.of_parts rfl rfl rfl rfl

theorem Graph.WellFormed.apply {graph : Graph} {change : Change} (wellFormed : graph.WellFormed)
    (valid : change.Valid graph) : (graph.apply change).WellFormed := by
  intro node member
  obtain ⟨handle, found⟩ := (mem_nodes_iff _ _).mp member
  have inGraph : node.Shaped graph := by
    rcases lookup_apply_cases found with old | added | edited
    · exact wellFormed node ((mem_nodes_iff _ _).mpr ⟨handle, old⟩)
    · obtain ⟨cause, draft, rfl, _, rfl⟩ := added
      exact Draft.shaped_of_id valid.2 _
    · obtain ⟨edit, old, rfl, before, rfl⟩ := edited
      obtain ⟨target, isTarget, fits⟩ := valid
      rw [before] at isTarget
      obtain rfl := Except.ok.inj isTarget
      exact Edit.shaped_apply (wellFormed old ((mem_nodes_iff _ _).mpr ⟨handle, before⟩)) fits
  exact inGraph.of_opcodes (fun _ _ => opcode_apply_of_ok change)

/-- Every node of every graph of a session has the shape of its opcode, whatever was built, edited
and copied in whatever order, as long as no whole node was replaced. -/
theorem Session.graphs_wellFormed (steps : List Step)
    (noReplace : ∀ step ∈ steps, step.isReplace = false) :
    ∀ graph ∈ (start.run steps).graphs, graph.WellFormed := by
  apply graphs_of_changes (P := Graph.WellFormed) ?_ ?_ steps noReplace
  · intro id options node member
    simp at member
  · intro graph change wellFormed valid
    exact wellFormed.apply valid

def Session.storing : List Step :=
  [.construct 0 (.addr ⟨"x", .float32, 0⟩) (some "a"),
    .construct 0 (.pointer (some "a")) (some "p"),
    .construct 0 (.constant (.int32 2)) (some "v"),
    .construct 0 (.compare .lt (some "p") (some "v")) (some "m"),
    .store 0 "root" (some "p") (some "v") (some "s"),
    .cloneGraph 0,
    .mutate 1 (.bindAddress (some "v") ⟨"y", .int32, 1⟩),
    .store 1 "root" (some "p") (some "s") none,
    .construct 1 (.index (-3)) none]

theorem Session.storing_wellFormed :
    (∀ step ∈ storing, step.isReplace = false) ∧ (start.run storing).sizes = [6, 8] ∧
      ∀ graph ∈ (start.run storing).graphs, graph.WellFormed :=
  ⟨by decide, by decide +kernel, graphs_wellFormed storing (by decide)⟩

end ExprGraph
