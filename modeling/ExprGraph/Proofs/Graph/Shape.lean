import ExprGraph.Graph.Lemmas

/-!
The shape of a node: how many children it has, where its operands start, and which of the optional
parts it carries.  Only the opcodes of the operands are read, so a node keeps its shape as long as
no opcode changes.
-/

namespace ExprGraph

namespace Graph

theorem opcode_eq_ok_iff (graph : Graph) (handle : Handle) (opcode : Opcode) :
    graph.opcode handle = .ok opcode ↔
      ∃ node, graph.lookup handle = .ok node ∧ node.opcode = opcode := by
  unfold Graph.opcode
  cases graph.lookup handle with
  | error fault => simp [Except.map]
  | ok node => simp [Except.map]

theorem opcode_of_lookup {graph : Graph} {handle : Handle} {node : Node}
    (found : graph.lookup handle = .ok node) : graph.opcode handle = .ok node.opcode :=
  (opcode_eq_ok_iff graph handle node.opcode).mpr ⟨node, found, rfl⟩

theorem dataType_eq_ok_iff (graph : Graph) (handle : Handle) (type : DataType) :
    graph.dataType handle = .ok type ↔
      ∃ node, graph.lookup handle = .ok node ∧ node.dataType = type := by
  unfold Graph.dataType
  cases graph.lookup handle with
  | error fault => simp [Except.map]
  | ok node => simp [Except.map]

theorem dataType_of_lookup {graph : Graph} {handle : Handle} {node : Node}
    (found : graph.lookup handle = .ok node) : graph.dataType handle = .ok node.dataType :=
  (dataType_eq_ok_iff graph handle node.dataType).mpr ⟨node, found, rfl⟩

theorem expectOpcode_eq_ok_iff (graph : Graph) (handle : Handle) (opcode : Opcode) :
    graph.expectOpcode handle opcode = .ok () ↔ graph.opcode handle = .ok opcode := by
  unfold expectOpcode
  cases found : graph.opcode handle with
  | error fault => simp [bind, Except.bind]
  | ok other =>
      by_cases same : other = opcode
      · simp [bind, Except.bind, same]
      · simp [bind, Except.bind, same]

theorem accepts_of_opcode {graph : Graph} {handle : Handle} {opcode : Opcode}
    (found : graph.opcode handle = .ok opcode) : graph.Accepts handle := by
  obtain ⟨node, isNode, _⟩ := (opcode_eq_ok_iff graph handle opcode).mp found
  exact ⟨node, isNode⟩

def StartsAt (graph : Graph) (handles : List Handle) (opcode : Opcode) : Prop :=
  ∃ first rest, handles = first :: rest ∧ graph.opcode first = .ok opcode

end Graph

structure Node.Shaped (graph : Graph) (node : Node) : Prop where
  arity : node.opcode.arity.accepts node.children.length = true
  storeTarget : node.opcode = .store → graph.StartsAt node.children .pointer
  pointerTarget : node.opcode = .pointer → graph.StartsAt node.children .addr
  immediate : node.immediate.isSome = true ↔
    node.opcode = .cmp ∨ node.opcode = .index ∨ node.opcode = .imm
  cmpKind : node.opcode = .cmp → ∃ kind, node.immediate = some (.cmp kind)
  indexKind : node.opcode = .index → ∃ value, node.immediate = some (.int value)
  immKind : node.opcode = .imm →
    (∃ value, node.immediate = some (.int value)) ∨ ∃ value, node.immediate = some (.float value)
  address : node.address.isSome = true → node.opcode = .addr

def Graph.WellFormed (graph : Graph) : Prop := ∀ node ∈ graph.nodes, node.Shaped graph

theorem Graph.mem_nodes_iff (graph : Graph) (node : Node) :
    node ∈ graph.nodes ↔ ∃ handle, graph.lookup handle = .ok node := by
  constructor
  · intro member
    obtain ⟨position, bound, rfl⟩ := Array.mem_iff_getElem.mp member
    exact ⟨_, graph.lookup_ref position bound⟩
  · rintro ⟨handle, found⟩
    obtain ⟨position, _, stored⟩ := (lookup_eq_ok_iff graph handle node).mp found
    exact Array.mem_of_getElem? stored

theorem Node.Shaped.of_opcodes {before after : Graph} {node : Node} (shaped : node.Shaped before)
    (kept : ∀ handle opcode, before.opcode handle = .ok opcode →
      after.opcode handle = .ok opcode) : node.Shaped after := by
  have starts : ∀ opcode, before.StartsAt node.children opcode →
      after.StartsAt node.children opcode := by
    rintro opcode ⟨first, rest, split, found⟩
    exact ⟨first, rest, split, kept first opcode found⟩
  exact {
    arity := shaped.arity
    storeTarget := fun isStore => starts _ (shaped.storeTarget isStore)
    pointerTarget := fun isPointer => starts _ (shaped.pointerTarget isPointer)
    immediate := shaped.immediate
    cmpKind := shaped.cmpKind
    indexKind := shaped.indexKind
    immKind := shaped.immKind
    address := shaped.address }

theorem Node.Shaped.of_plain {graph : Graph} {node : Node}
    (arity : node.opcode.arity.accepts node.children.length = true)
    (storeTarget : node.opcode = .store → graph.StartsAt node.children .pointer)
    (pointerTarget : node.opcode = .pointer → graph.StartsAt node.children .addr)
    (noImmediate : node.immediate = none) (noAddress : node.address = none)
    (needsNone : node.opcode ≠ .cmp ∧ node.opcode ≠ .index ∧ node.opcode ≠ .imm) :
    node.Shaped graph := by
  obtain ⟨notCmp, notIndex, notImm⟩ := needsNone
  exact {
    arity := arity
    storeTarget := storeTarget
    pointerTarget := pointerTarget
    immediate := by simp [noImmediate, notCmp, notIndex, notImm]
    cmpKind := fun isCmp => absurd isCmp notCmp
    indexKind := fun isIndex => absurd isIndex notIndex
    immKind := fun isImm => absurd isImm notImm
    address := by simp [noAddress] }

end ExprGraph
