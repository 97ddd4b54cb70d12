import ExprGraph.Proofs.Graph.Plan

/-!
How a graph grows.  A graph goes on from another one when it has the same identity and all its
nodes, of which no operation, number or immediate has changed.  Main statements:
`Continues.mem_added_iff`, by which the handles of the nodes added since are those that are accepted
only now, and `added_trans`.
-/

namespace ExprGraph

structure Node.Became (node now : Node) : Prop where
  opcode : now.opcode = node.opcode
  id : now.id = node.id
  immediate : now.immediate = node.immediate

theorem Node.Became.trans {first second third : Node} (before : first.Became second)
    (after : second.Became third) : first.Became third where
  opcode := after.opcode.trans before.opcode
  id := after.id.trans before.id
  immediate := after.immediate.trans before.immediate

theorem Edit.became_apply (edit : Edit) (node : Node) : node.Became (edit.apply node) := by
  constructor
  case opcode => exact edit.opcode_apply node
  case id => cases edit <;> rfl
  case immediate => exact edit.immediate_apply node

structure Graph.Continues (before after : Graph) : Prop where
  id : after.id = before.id
  nodes : ∀ handle node, before.lookup handle = .ok node →
    ∃ now, after.lookup handle = .ok now ∧ node.Became now

namespace Graph

theorem Continues.refl (graph : Graph) : graph.Continues graph where
  id := rfl
  nodes := fun _ node found => ⟨node, found, ⟨rfl, rfl, rfl⟩⟩

theorem Continues.trans {first second third : Graph} (before : first.Continues second)
    (after : second.Continues third) : first.Continues third where
  id := after.id.trans before.id
  nodes := by
    intro handle node found
    obtain ⟨between, foundBetween, early⟩ := before.nodes handle node found
    obtain ⟨now, foundNow, late⟩ := after.nodes handle between foundBetween
    exact ⟨now, foundNow, early.trans late⟩

theorem continues_apply (graph : Graph) (change : Change) :
    graph.Continues (graph.apply change) where
  id := id_apply graph change
  nodes := by
    intro handle node found
    obtain ⟨now, foundNow, rfl | ⟨edit, _, rfl⟩⟩ := lookup_apply_of_ok change found
    · exact ⟨now, foundNow, ⟨rfl, rfl, rfl⟩⟩
    · exact ⟨_, foundNow, edit.became_apply node⟩

theorem continues_applyAll (graph : Graph) (changes : List Change) :
    graph.Continues (graph.applyAll changes) := by
  induction changes generalizing graph with
  | nil => exact .refl graph
  | cons change rest ih => exact (graph.continues_apply change).trans (ih _)

theorem accepts_next_of_size_lt {graph other : Graph} (sameId : other.id = graph.id)
    (larger : graph.size < other.size) : other.Accepts graph.next := by
  rw [next, ← handleAt_congr sameId, accepts_handleAt_iff]
  exact larger

def added (before after : Graph) : List Handle :=
  (List.range' before.size (after.size - before.size)).map before.handleAt

theorem nodup_added (before after : Graph) : (before.added after).Nodup :=
  List.Pairwise.map before.handleAt
    (fun _ _ different same => different (Handle.ref.inj same).2) List.nodup_range'

theorem Continues.position_of_new {before after : Graph} (continues : before.Continues after)
    {handle : Handle} (isNew : ¬ before.Accepts handle) (accepted : after.Accepts handle) :
    ∃ position, before.size ≤ position ∧ position < after.size ∧
      handle = before.handleAt position := by
  obtain ⟨position, bound, rfl⟩ := (accepts_iff _ _).mp accepted
  rw [continues.id] at isNew ⊢
  exact ⟨position, Nat.le_of_not_lt (mt (before.accepts_handleAt_iff position).mpr isNew), bound,
    rfl⟩

theorem Continues.mem_added_iff {before after : Graph} (continues : before.Continues after)
    (handle : Handle) :
    handle ∈ before.added after ↔ ¬ before.Accepts handle ∧ after.Accepts handle := by
  constructor
  · intro member
    obtain ⟨position, inRange, rfl⟩ := List.mem_map.mp member
    obtain ⟨above, below⟩ := List.mem_range'_1.mp inRange
    constructor
    · rw [accepts_handleAt_iff]
      exact Nat.not_lt_of_le above
    · rw [← handleAt_congr continues.id, accepts_handleAt_iff]
      omega
  · rintro ⟨isNew, accepted⟩
    obtain ⟨position, above, below, rfl⟩ := continues.position_of_new isNew accepted
    exact List.mem_map.mpr ⟨position, List.mem_range'_1.mpr ⟨above, by omega⟩, rfl⟩

theorem Continues.accepts {before after : Graph} (continues : before.Continues after)
    {handle : Handle} (accepted : before.Accepts handle) : after.Accepts handle := by
  obtain ⟨node, found⟩ := accepted
  obtain ⟨now, foundNow, _⟩ := continues.nodes handle node found
  exact ⟨now, foundNow⟩

theorem Continues.size_le {before after : Graph} (continues : before.Continues after) :
    before.size ≤ after.size := by
  cases size : before.size with
  | zero => exact Nat.zero_le _
  | succ last =>
      have accepted : after.Accepts (before.handleAt last) :=
        continues.accepts ((before.accepts_handleAt_iff last).mpr (by omega))
      rwa [← handleAt_congr continues.id, accepts_handleAt_iff] at accepted

theorem added_of_size {before after : Graph} (size : after.size = before.size) :
    before.added after = [] := by
  rw [added, size, Nat.sub_self]
  rfl

theorem added_self (graph : Graph) : graph.added graph = [] :=
  added_of_size rfl

theorem added_of_size_succ {before after : Graph} (size : after.size = before.size + 1) :
    before.added after = [before.next] := by
  rw [added, size, Nat.add_sub_cancel_left]
  rfl

theorem added_trans {first second third : Graph} (early : first.Continues second)
    (late : second.Continues third) :
    first.added third = first.added second ++ second.added third := by
  have earlyLe := early.size_le
  have lateLe := late.size_le
  have split : third.size - first.size =
      (second.size - first.size) + (third.size - second.size) := by omega
  have start : first.size + (second.size - first.size) = second.size := by omega
  rw [added, added, added, handleAt_congr early.id, ← List.map_append, split,
    ← List.range'_append_1, start]

def recent (before after : Graph) (handles : List Handle) : List Handle :=
  handles.filter (fun handle => after.contains handle && !before.contains handle)

theorem mem_recent_iff (before after : Graph) (handles : List Handle) (handle : Handle) :
    handle ∈ before.recent after handles ↔
      handle ∈ handles ∧ after.Accepts handle ∧ ¬ before.Accepts handle := by
  rw [recent, List.mem_filter, Bool.and_eq_true, Bool.not_eq_true', ← Bool.not_eq_true,
    contains_iff, contains_iff]

theorem recent_append (before after : Graph) (first second : List Handle) :
    before.recent after (first ++ second) =
      before.recent after first ++ before.recent after second :=
  List.filter_append ..

theorem recent_eq_nil {before : Graph} (after : Graph) {handles : List Handle}
    (old : ∀ handle ∈ handles, before.Accepts handle) : before.recent after handles = [] := by
  refine List.eq_nil_iff_forall_not_mem.mpr (fun handle member => ?_)
  obtain ⟨isHandle, _, isNew⟩ := (mem_recent_iff _ _ _ _).mp member
  exact isNew (old handle isHandle)

theorem recent_new {before after : Graph} {handle : Handle} (isNew : ¬ before.Accepts handle)
    (accepted : after.Accepts handle) : before.recent after [handle] = [handle] := by
  have unknown : before.contains handle = false := by
    rw [← Bool.not_eq_true, contains_iff]
    exact isNew
  simp [recent, (contains_iff _ _).mpr accepted, unknown]

theorem Continues.recent_of_size {before after : Graph} (continues : before.Continues after)
    (size : after.size = before.size) (handles : List Handle) :
    before.recent after handles = [] := by
  refine List.eq_nil_iff_forall_not_mem.mpr (fun handle member => ?_)
  obtain ⟨_, accepted, isNew⟩ := (mem_recent_iff _ _ _ _).mp member
  have grown := (continues.mem_added_iff handle).mpr ⟨isNew, accepted⟩
  rw [added_of_size size] at grown
  cases grown

end Graph

end ExprGraph
