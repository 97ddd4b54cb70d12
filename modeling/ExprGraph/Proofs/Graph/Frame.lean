import ExprGraph.Proofs.Graph.Plan.Quiet

/-!
Frames: what changes leave alone.  Main statements: `lookup_applyAll_of_ok`, the nodes there were
after any changes; `signatures_applyAll`, by which all other nodes stand behind them in the order
they were announced in; and `listed`, by which the listing of a graph is what it accepts.
-/

namespace ExprGraph

def Change.rewrite (handle : Handle) (node : Node) : Change → Node
  | .edit target part => if target = handle then part.apply node else node
  | _ => node

def rewriteAll (handle : Handle) (node : Node) (changes : List Change) : Node :=
  changes.foldl (Change.rewrite handle) node

theorem Change.Plain.rewrite {change : Change} (plain : change.Plain) (handle : Handle)
    (node : Node) : change.rewrite handle node = node := by
  cases change with
  | edit target edit => exact plain.elim
  | _ => rfl

theorem rewriteAll_plain {changes : List Change} (plain : ∀ change ∈ changes, change.Plain)
    (handle : Handle) (node : Node) : rewriteAll handle node changes = node := by
  induction changes with
  | nil => rfl
  | cons change rest ih =>
      have first := plain change List.mem_cons_self
      rw [rewriteAll, List.foldl_cons, first.rewrite]
      exact ih (fun later member => plain later (List.mem_cons_of_mem _ member))

def Event.allocation? : Event → Option (UInt32 × Opcode)
  | allocated id opcode _ => some (id, opcode)
  | _ => none

def allocations (events : List Event) : List (UInt32 × Opcode) :=
  events.filterMap Event.allocation?

namespace Graph

theorem lookup_apply_rewrite {graph : Graph} {handle : Handle} {node : Node} (change : Change)
    (found : graph.lookup handle = .ok node) :
    (graph.apply change).lookup handle = .ok (change.rewrite handle node) := by
  cases change with
  | add cause draft => exact lookup_add_of_ok draft found
  | edit target edit =>
      by_cases same : target = handle
      · subst same
        rw [Change.rewrite, if_pos rfl]
        exact lookup_edit_same edit found
      · rw [Change.rewrite, if_neg same, lookup_edit_other edit (Ne.symm same)]
        exact found
  | restart => exact (lookup_numbering graph _ handle).trans found

theorem lookup_applyAll_of_ok {graph : Graph} {handle : Handle} {node : Node}
    (changes : List Change) (found : graph.lookup handle = .ok node) :
    (graph.applyAll changes).lookup handle = .ok (rewriteAll handle node changes) := by
  induction changes generalizing graph node with
  | nil => exact found
  | cons change rest ih => exact ih (lookup_apply_rewrite change found)

theorem map_nodes_edit {part : Node → α} {edit : Edit}
    (untouched : ∀ node, part (edit.apply node) = part node) (graph : Graph) (handle : Handle) :
    (graph.apply (.edit handle edit)).nodes.toList.map part = graph.nodes.toList.map part := by
  cases found : graph.lookup handle with
  | error fault => simp only [apply, found]
  | ok node =>
      obtain ⟨position, rfl, isNode⟩ := (lookup_eq_ok_iff _ _ _).mp found
      have kept := congrArg Array.toList (setIfInBounds_self isNode)
      rw [Array.toList_setIfInBounds] at kept
      simp only [apply, found, put, Array.toList_setIfInBounds, List.map_set, untouched]
      rw [← List.map_set, kept]

def signatures (graph : Graph) : List (UInt32 × Opcode) :=
  graph.nodes.toList.map (fun node => (node.id, node.opcode))

theorem signatures_apply (graph : Graph) (change : Change) :
    (graph.apply change).signatures =
      graph.signatures ++ allocations (graph.announce change) := by
  cases change with
  | add cause draft =>
      have announced : allocations (graph.announce (.add cause draft)) =
          [(graph.numbering.next, draft.opcode)] := by
        cases cause <;> rfl
      rw [announced]
      simp [signatures, apply, add, push, Draft.node]
  | edit handle edit =>
      have same : ∀ node : Node,
          ((edit.apply node).id, (edit.apply node).opcode) = (node.id, node.opcode) := by
        intro node
        cases edit <;> rfl
      exact (map_nodes_edit same graph handle).trans (List.append_nil _).symm
  | restart => exact (List.append_nil _).symm

theorem signatures_applyAll (graph : Graph) (changes : List Change) :
    (graph.applyAll changes).signatures =
      graph.signatures ++ allocations (graph.announceAll changes) := by
  induction changes generalizing graph with
  | nil => exact (List.append_nil _).symm
  | cons change rest ih =>
      rw [applyAll_cons, ih, signatures_apply, announceAll, allocations, allocations, allocations,
        List.filterMap_append, List.append_assoc]

structure Listed (graph : Graph) : Prop where
  handles : graph.entries.map Prod.fst = (List.range graph.size).map (Handle.ref graph.id)
  nodes : ∀ entry ∈ graph.entries, graph.lookup entry.1 = .ok entry.2
  contains_iff : ∀ handle, graph.contains handle = true ↔
    ∃ position < graph.size, handle = .ref graph.id position
  listed_iff : ∀ handle, handle ∈ graph.entries.map Prod.fst ↔ graph.contains handle = true

theorem entries_handles (graph : Graph) :
    graph.entries.map Prod.fst = (List.range graph.size).map (Handle.ref graph.id) := by
  have positions : graph.nodes.toList.zipIdx.map Prod.snd = List.range graph.size := by
    rw [List.zipIdx_map_snd, List.range_eq_range']
    rfl
  rw [← positions, entries, List.map_map, List.map_map]
  rfl

theorem lookup_entry {graph : Graph} {entry : Handle × Node} (member : entry ∈ graph.entries) :
    graph.lookup entry.1 = .ok entry.2 := by
  obtain ⟨⟨node, position⟩, isEntry, rfl⟩ := List.mem_map.mp member
  have stored : graph.nodes.toList[position]? = some node :=
    List.mem_zipIdx_iff_getElem?.mp isEntry
  rw [Array.getElem?_toList] at stored
  exact (lookup_eq_ok_iff _ _ _).mpr ⟨position, rfl, stored⟩

theorem listed (graph : Graph) : graph.Listed where
  handles := graph.entries_handles
  nodes := fun _ member => lookup_entry member
  contains_iff := fun handle => (contains_iff graph handle).trans (accepts_iff graph handle)
  listed_iff := by
    intro handle
    rw [entries_handles, contains_iff, accepts_iff]
    simp [eq_comm]

end Graph

end ExprGraph
