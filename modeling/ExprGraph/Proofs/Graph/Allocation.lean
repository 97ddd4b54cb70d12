import ExprGraph.Proofs.Graph.Frame

/-!
Nodes as they were allocated, and what is announced of them.  Main statements: `allocated_quiet` and
`allocated_collect`, by which changes add the nodes they allocate and append the stores they hand
over; `traceEvents_announceAll`, by which each of these nodes is announced once and in order; and
`announceAll_eq_flatMap`, by which all that is announced is announced of one of them.
-/

namespace ExprGraph

structure Allocation where
  handle : Handle
  id : UInt32
  opcode : Opcode
  children : List Handle

namespace Allocation

def ofEntry (entry : Handle × Node) : Allocation where
  handle := entry.1
  id := entry.2.id
  opcode := entry.2.opcode
  children := entry.2.children

def event (allocation : Allocation) : Event :=
  .allocated allocation.id allocation.opcode allocation.children.length

/-- What has become of a node: the stores handed to it since stand behind its children. -/
def since (record : List Entry) (allocation : Allocation) : Allocation :=
  { allocation with children := allocation.children ++ stores record allocation.handle }

theorem since_eq_self {record : List Entry} {allocation : Allocation}
    (nothing : stores record allocation.handle = []) : allocation.since record = allocation := by
  rw [since, nothing, List.append_nil]

@[simp] theorem since_since (first second : List Entry) (allocation : Allocation) :
    (allocation.since first).since second = allocation.since (first ++ second) := by
  simp only [since, stores_append, List.append_assoc]

end Allocation

def traceEvents (events : List Event) : List Event :=
  events.filter (fun event => event.level = .trace)

namespace Graph

def allocated (graph : Graph) : List Allocation := graph.entries.map Allocation.ofEntry

def allocates (graph : Graph) : Change → List Allocation
  | .add _ draft => [⟨graph.next, graph.numbering.next, draft.opcode, draft.children⟩]
  | _ => []

theorem getElem?_entries (graph : Graph) (position : Nat) :
    graph.entries[position]? =
      (graph.lookup (graph.handleAt position)).toOption.map (graph.handleAt position, ·) := by
  simp only [entries, List.getElem?_map, List.getElem?_zipIdx, Array.getElem?_toList, lookup,
    handleAt, if_true, Nat.zero_add]
  cases graph.nodes[position]? <;> rfl

theorem entries_add (graph : Graph) (draft : Draft) :
    (graph.add draft).entries =
      graph.entries ++ [(graph.next, draft.node graph.numbering.next)] := by
  simp [entries, add, push, next, handleAt, size, List.zipIdx_append]

theorem allocated_add (graph : Graph) (draft : Draft) :
    (graph.add draft).allocated = graph.allocated ++
      [⟨graph.next, graph.numbering.next, draft.opcode, draft.children⟩] := by
  rw [allocated, entries_add, List.map_append]
  rfl

theorem entries_edit (graph : Graph) (handle : Handle) (edit : Edit) :
    (graph.apply (.edit handle edit)).entries = graph.entries.map (fun entry =>
      (entry.1, if entry.1 = handle then edit.apply entry.2 else entry.2)) := by
  apply List.ext_getElem?
  intro position
  have samePlace : (graph.apply (.edit handle edit)).handleAt position =
      graph.handleAt position := by
    simp only [handleAt, id_apply]
  rw [List.getElem?_map, getElem?_entries, getElem?_entries, samePlace]
  by_cases here : graph.handleAt position = handle
  · subst here
    cases found : graph.lookup (graph.handleAt position) with
    | error fault =>
        simp only [apply, found]
        rfl
    | ok node =>
        rw [lookup_edit_same edit found]
        simp [Except.toOption]
  · rw [lookup_edit_other edit here]
    cases graph.lookup (graph.handleAt position) with
    | error fault => rfl
    | ok node => simp [Except.toOption, here]

theorem allocated_edit {handle : Handle} {edit : Edit} (quiet : (Change.edit handle edit).Quiet)
    (graph : Graph) : (graph.apply (.edit handle edit)).allocated = graph.allocated := by
  have same : ∀ node : Node, (edit.apply node).id = node.id := by
    intro node
    cases edit <;> rfl
  rw [allocated, entries_edit, List.map_map]
  apply List.map_congr_left
  intro entry _
  by_cases here : entry.1 = handle
  · simp [Allocation.ofEntry, here, same, quiet.children]
  · simp [Allocation.ofEntry, here]

theorem allocated_collect (graph : Graph) (root store : Handle) :
    (graph.apply (.edit root (.collect store))).allocated =
      graph.allocated.map (Allocation.since [.stored root store]) := by
  rw [allocated, entries_edit, allocated, List.map_map, List.map_map]
  apply List.map_congr_left
  intro entry _
  by_cases here : entry.1 = root
  · simp [Allocation.ofEntry, Allocation.since, stores, Entry.store?, here, Edit.apply]
  · simp [Allocation.ofEntry, Allocation.since, stores, Entry.store?, here, Ne.symm here]

theorem allocated_apply {change : Change} (quiet : change.Quiet) (graph : Graph) :
    (graph.apply change).allocated = graph.allocated ++ graph.allocates change := by
  cases change with
  | add cause draft => exact graph.allocated_add draft
  | edit handle edit => exact (allocated_edit quiet graph).trans (List.append_nil _).symm
  | restart => exact (List.append_nil _).symm

theorem allocated_quiet {changes : List Change} (quiet : ∀ change ∈ changes, change.Quiet)
    (graph : Graph) :
    (graph.applyAll changes).allocated = graph.allocated ++ graph.gather allocates changes := by
  induction changes generalizing graph with
  | nil => exact (List.append_nil _).symm
  | cons change rest ih =>
      rw [applyAll_cons, ih (fun later member => quiet later (List.mem_cons_of_mem _ member)),
        allocated_apply (quiet change List.mem_cons_self), gather, List.append_assoc]

theorem not_accepts_allocates {graph : Graph} {changes : List Change} {allocation : Allocation}
    (member : allocation ∈ graph.gather allocates changes) : ¬ graph.Accepts allocation.handle := by
  induction changes generalizing graph with
  | nil => cases member
  | cons change rest ih =>
      rcases List.mem_append.mp member with first | later
      · cases change with
        | add cause draft =>
            rw [List.mem_singleton.mp first]
            exact graph.not_accepts_next
        | edit handle edit => cases first
        | restart => cases first
      · exact fun accepted => ih later (accepted.apply change)

theorem traceEvents_announce (graph : Graph) (change : Change) :
    traceEvents (graph.announce change) = (graph.allocates change).map Allocation.event := by
  cases change with
  | add cause draft => cases cause <;> rfl
  | edit handle edit => rfl
  | restart => rfl

theorem traceEvents_announceAll (graph : Graph) (changes : List Change) :
    traceEvents (graph.announceAll changes) =
      (graph.gather allocates changes).map Allocation.event := by
  induction changes generalizing graph with
  | nil => rfl
  | cons change rest ih =>
      rw [announceAll, gather, List.map_append, ← traceEvents_announce, ← ih]
      exact List.filter_append _ _

theorem announceAll_eq_flatMap {lines : Allocation → List Event} {changes : List Change}
    (told : ∀ change ∈ changes, ∀ graph : Graph,
      graph.announce change = (graph.allocates change).flatMap lines) (graph : Graph) :
    graph.announceAll changes = (graph.gather allocates changes).flatMap lines := by
  induction changes generalizing graph with
  | nil => rfl
  | cons change rest ih =>
      rw [announceAll, gather, List.flatMap_append, told change List.mem_cons_self,
        ih (fun later member => told later (List.mem_cons_of_mem _ member))]

end Graph

end ExprGraph
