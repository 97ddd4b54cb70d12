import ExprGraph.Graph.Basic

/-!
What a graph accepts, and how looking up changes when a node is added or replaced: a new node takes
the first free position and leaves every lookup that succeeded as it was.
-/

namespace ExprGraph

theorem setIfInBounds_self {items : Array α} {index : Nat} {item : α}
    (found : items[index]? = some item) : items.setIfInBounds index item = items := by
  obtain ⟨bound, rfl⟩ := Array.getElem?_eq_some_iff.mp found
  simp [Array.setIfInBounds, bound]

def Handle.fault : Handle → Fault
  | empty => .emptyHandle
  | ref _ _ => .unknownNode

namespace Graph

def Accepts (graph : Graph) (handle : Handle) : Prop :=
  ∃ node, graph.lookup handle = .ok node

theorem lookup_ref (graph : Graph) (position : Nat) (bound : position < graph.size) :
    graph.lookup (.ref graph.id position) = .ok graph.nodes[position] := by
  have found : graph.nodes[position]? = some graph.nodes[position] :=
    Array.getElem?_eq_getElem bound
  simp [lookup, found]

theorem lookup_eq_ok_iff (graph : Graph) (handle : Handle) (node : Node) :
    graph.lookup handle = .ok node ↔
      ∃ position, handle = .ref graph.id position ∧ graph.nodes[position]? = some node := by
  cases handle with
  | empty => simp [lookup]
  | ref owner position =>
      by_cases same : owner = graph.id
      · subst same
        cases found : graph.nodes[position]? with
        | none => simp [lookup, found]
        | some other => simp [lookup, found]
      · simp [lookup, same]

theorem accepts_iff (graph : Graph) (handle : Handle) :
    graph.Accepts handle ↔ ∃ position < graph.size, handle = .ref graph.id position := by
  constructor
  · rintro ⟨node, found⟩
    obtain ⟨position, same, stored⟩ := (lookup_eq_ok_iff graph handle node).mp found
    obtain ⟨bound, _⟩ := Array.getElem?_eq_some_iff.mp stored
    exact ⟨position, bound, same⟩
  · rintro ⟨position, bound, rfl⟩
    exact ⟨_, lookup_ref graph position bound⟩

theorem accepts_handleAt_iff (graph : Graph) (position : Nat) :
    graph.Accepts (graph.handleAt position) ↔ position < graph.size := by
  rw [accepts_iff]
  constructor
  · rintro ⟨other, bound, same⟩
    obtain ⟨_, rfl⟩ := Handle.ref.inj same
    exact bound
  · intro bound
    exact ⟨position, bound, rfl⟩

theorem handleAt_congr {graph other : Graph} (sameId : other.id = graph.id) :
    other.handleAt = graph.handleAt := by
  funext position
  rw [handleAt, handleAt, sameId]

theorem not_accepts_empty (id : UInt32) (options : Options) (handle : Handle) :
    ¬ Accepts { id := id, options := options } handle := by
  intro accepted
  obtain ⟨position, bound, _⟩ := (accepts_iff _ _).mp accepted
  simp [size] at bound

theorem Accepts.nonempty {graph : Graph} {handle : Handle} (accepted : graph.Accepts handle) :
    handle ≠ .empty := by
  rintro rfl
  obtain ⟨node, found⟩ := accepted
  cases found

theorem contains_iff (graph : Graph) (handle : Handle) :
    graph.contains handle = true ↔ graph.Accepts handle := by
  unfold contains Accepts
  cases graph.lookup handle with
  | error fault => simp [Except.toBool]
  | ok node => simp [Except.toBool]

theorem lookup_eq_error_iff (graph : Graph) (handle : Handle) (fault : Fault) :
    graph.lookup handle = .error fault ↔
      (handle = .empty ∧ fault = .emptyHandle) ∨
        (handle ≠ .empty ∧ fault = .unknownNode ∧ ¬ graph.Accepts handle) := by
  cases handle with
  | empty => simp [lookup, eq_comm]
  | ref owner position =>
      by_cases same : owner = graph.id
      · subst same
        cases found : graph.nodes[position]? with
        | none => simp [lookup, found, Accepts, eq_comm]
        | some node => simp [lookup, found, Accepts]
      · simp [lookup, same, Accepts, eq_comm]

theorem lookup_of_not_accepts {graph : Graph} {handle : Handle}
    (refused : ¬ graph.Accepts handle) : graph.lookup handle = .error handle.fault := by
  cases handle with
  | empty => rfl
  | ref owner position => exact (lookup_eq_error_iff _ _ _).mpr (.inr ⟨nofun, rfl, refused⟩)

theorem checkAll_eq_ok_iff (graph : Graph) (handles : List Handle) :
    graph.checkAll handles = .ok () ↔ ∀ handle ∈ handles, graph.Accepts handle := by
  induction handles with
  | nil => simp [checkAll]
  | cons first rest ih =>
      cases found : graph.lookup first with
      | error fault => simp [checkAll, found, bind, Except.bind, Accepts]
      | ok node => simp [checkAll, found, bind, Except.bind, ih, Accepts]

@[simp] theorem size_push (graph : Graph) (node : Node) : (graph.push node).size = graph.size + 1 :=
  Array.size_push _

theorem lookup_push_of_ok (graph : Graph) (added : Node) (handle : Handle) (node : Node)
    (found : graph.lookup handle = .ok node) : (graph.push added).lookup handle = .ok node := by
  obtain ⟨position, rfl, stored⟩ := (lookup_eq_ok_iff graph handle node).mp found
  obtain ⟨bound, _⟩ := Array.getElem?_eq_some_iff.mp stored
  refine (lookup_eq_ok_iff _ _ _).mpr ⟨position, rfl, ?_⟩
  have older : position ≠ graph.nodes.size := by omega
  simpa [push, Array.getElem?_push, older] using stored

theorem lookup_push_new (graph : Graph) (added : Node) :
    (graph.push added).lookup (graph.handleAt graph.size) = .ok added := by
  refine (lookup_eq_ok_iff _ _ _).mpr ⟨graph.size, rfl, ?_⟩
  simp [push, size]

@[simp] theorem size_put (graph : Graph) (handle : Handle) (node : Node) :
    (graph.put handle node).size = graph.size := by
  cases handle with
  | empty => rfl
  | ref owner position => simp [put, size]

@[simp] theorem id_put (graph : Graph) (handle : Handle) (node : Node) :
    (graph.put handle node).id = graph.id := by
  cases handle <;> rfl

theorem lookup_put_same (graph : Graph) (handle : Handle) (node : Node)
    (accepted : graph.Accepts handle) : (graph.put handle node).lookup handle = .ok node := by
  obtain ⟨position, bound, rfl⟩ := (accepts_iff graph handle).mp accepted
  refine (lookup_eq_ok_iff _ _ _).mpr ⟨position, by simp, ?_⟩
  have inArena : position < graph.nodes.size := bound
  simp [put, inArena]

theorem lookup_put_other (graph : Graph) (handle other : Handle) (node : Node)
    (accepted : graph.Accepts handle) (different : other ≠ handle) :
    (graph.put handle node).lookup other = graph.lookup other := by
  obtain ⟨position, _, rfl⟩ := (accepts_iff graph handle).mp accepted
  cases other with
  | empty => rfl
  | ref owner place =>
      by_cases same : owner = graph.id
      · subst same
        have apart : position ≠ place := by
          intro equal
          exact different (by rw [equal])
        simp [lookup, put, apart]
      · simp [lookup, put, same]

end Graph

end ExprGraph
