import ExprGraph.Proofs.Graph.Cycles
import Mathlib.Data.List.Chain

/-!
Older and newer nodes.  A node is made over nodes that are there already, so its edges go back in
the arena; the only edge that goes forward is the one from a root to a store node it collects.
Main statements: `Layered.applyAll`, and `Layered.cycle_has_combine`, by which a cycle takes such an
edge.
-/

namespace ExprGraph

namespace Handle

def Older (first second : Handle) : Prop :=
  ∃ graph earlier later, first = .ref graph earlier ∧ second = .ref graph later ∧ earlier < later

theorem Older.trans {first second third : Handle} (early : first.Older second)
    (late : second.Older third) : first.Older third := by
  obtain ⟨graph, earliest, earlier, rfl, rfl, less⟩ := early
  obtain ⟨_, _, later, same, rfl, lessAgain⟩ := late
  obtain ⟨rfl, rfl⟩ := Handle.ref.inj same
  exact ⟨graph, earliest, later, rfl, rfl, Nat.lt_trans less lessAgain⟩

theorem Older.irrefl {handle : Handle} : ¬ handle.Older handle := by
  rintro ⟨graph, earlier, later, rfl, same, less⟩
  obtain ⟨_, rfl⟩ := Handle.ref.inj same
  exact Nat.lt_irrefl _ less

theorem Older.order {first second : Handle} (older : first.Older second) :
    first.order second = .lt := by
  obtain ⟨graph, earlier, later, rfl, rfl, less⟩ := older
  simp [Handle.order, Nat.compare_eq_lt.mpr less]

instance : Trans (flip Older) (flip Older) (flip Older) where
  trans late early := Older.trans early late

end Handle

namespace Graph

variable {graph : Graph} {collected : Handle → Handle → Prop}

theorem older_handleAt_iff (graph : Graph) (handle : Handle) (position : Nat) :
    handle.Older (graph.handleAt position) ↔ ∃ place < position, handle = graph.handleAt place := by
  constructor
  · rintro ⟨owner, place, _, rfl, same, less⟩
    obtain ⟨rfl, rfl⟩ := Handle.ref.inj same
    exact ⟨place, less, rfl⟩
  · rintro ⟨place, less, rfl⟩
    exact ⟨graph.id, place, position, rfl, rfl, less⟩

theorem handleAt_older_iff (graph : Graph) (handle : Handle) (position : Nat) :
    (graph.handleAt position).Older handle ↔ ∃ place > position, handle = graph.handleAt place := by
  constructor
  · rintro ⟨owner, _, place, same, rfl, less⟩
    obtain ⟨rfl, rfl⟩ := Handle.ref.inj same
    exact ⟨place, less, rfl⟩
  · rintro ⟨place, less, rfl⟩
    exact ⟨graph.id, position, place, rfl, rfl, less⟩

theorem Accepts.older_next {handle : Handle} (accepted : graph.Accepts handle) :
    handle.Older graph.next := by
  exact (graph.older_handleAt_iff handle graph.size).mpr ((accepts_iff _ _).mp accepted)

theorem Accepts.older_or {first second : Handle} (firstAccepted : graph.Accepts first)
    (secondAccepted : graph.Accepts second) :
    first.Older second ∨ first = second ∨ second.Older first := by
  obtain ⟨position, _, rfl⟩ := (accepts_iff _ _).mp firstAccepted
  obtain ⟨place, _, rfl⟩ := (accepts_iff _ _).mp secondAccepted
  rcases Nat.lt_trichotomy position place with less | rfl | more
  · exact .inl ((graph.older_handleAt_iff _ place).mpr ⟨position, less, rfl⟩)
  · exact .inr (.inl rfl)
  · exact .inr (.inr ((graph.older_handleAt_iff _ position).mpr ⟨place, more, rfl⟩))

/-- Every edge goes to an older node, or from a combine node to a newer store node that it has
collected. -/
def Layered (graph : Graph) (collected : Handle → Handle → Prop) : Prop :=
  ∀ parent child, graph.Edge parent child → child.Older parent ∨
    (graph.opcode parent = .ok .combine ∧ graph.opcode child = .ok .store ∧ parent.Older child ∧
      collected parent child)

theorem Layered.mono {others : Handle → Handle → Prop} (layered : graph.Layered collected)
    (more : ∀ root store, collected root store → others root store) : graph.Layered others := by
  intro parent child edge
  rcases layered parent child edge with older | ⟨isCombine, isStore, newer, isCollected⟩
  · exact .inl older
  · exact .inr ⟨isCombine, isStore, newer, more parent child isCollected⟩

theorem layered_empty (id : UInt32) (options : Options) :
    Layered { id := id, options := options } collected := by
  intro parent child edge
  exact (not_accepts_empty id options parent edge.accepts_parent).elim

theorem Layered.apply {change : Change} (layered : graph.Layered collected)
    (valid : change.Valid graph)
    (noted : ∀ root store, change = .edit root (.collect store) → collected root store) :
    (graph.apply change).Layered collected := by
  intro parent child edge
  rcases edge_apply_cases edge with old | ⟨cause, draft, rfl, rfl, member⟩ | rfl
  · rcases layered parent child old with older | ⟨isCombine, isStore, newer, isCollected⟩
    · exact .inl older
    · exact .inr ⟨opcode_apply_of_ok _ isCombine, opcode_apply_of_ok _ isStore, newer, isCollected⟩
  · exact .inl (valid.1 child member).older_next
  · obtain ⟨node, found, isCombine, isStore⟩ := valid
    have parentCombine : graph.opcode parent = .ok .combine := by
      rw [opcode_of_lookup found, isCombine]
    rcases Accepts.older_or ⟨node, found⟩ (accepts_of_opcode isStore) with newer | rfl | older
    · exact .inr ⟨opcode_apply_of_ok _ parentCombine, opcode_apply_of_ok _ isStore, newer,
        noted parent child rfl⟩
    · rw [parentCombine] at isStore
      cases isStore
    · exact .inl older

theorem Layered.applyAll {changes : List Change} (layered : graph.Layered collected)
    (valid : graph.ValidAll changes)
    (noted : ∀ root store, .edit root (.collect store) ∈ changes → collected root store) :
    (graph.applyAll changes).Layered collected := by
  induction changes generalizing graph with
  | nil => exact layered
  | cons change rest ih =>
      have first := layered.apply valid.1
        (fun root store isFirst => noted root store (isFirst ▸ List.mem_cons_self))
      exact ih first valid.2
        (fun root store member => noted root store (List.mem_cons_of_mem _ member))

/-- Away from combine nodes edges lead to ever older nodes, so no way along them comes back. -/
theorem Layered.cycle_has_combine (layered : graph.Layered collected) {first : Handle}
    {rest : List Handle} (cycle : (first :: (rest ++ [first])).IsChain graph.Edge) :
    ∃ handle ∈ first :: rest, graph.opcode handle = .ok .combine := by
  by_contra without
  have falls : (first :: (rest ++ [first])).IsChain (flip Handle.Older) := by
    refine cycle.imp_of_mem_imp ?_
    intro parent child onCycle _ edge
    rcases layered parent child edge with older | ⟨isCombine, _⟩
    · exact older
    · have among : parent ∈ first :: rest := by
        simpa [or_comm, or_assoc] using onCycle
      exact (without ⟨parent, among, isCombine⟩).elim
  have below : first.Older first := falls.rel_cons (by simp)
  exact Handle.Older.irrefl below

end Graph

end ExprGraph
