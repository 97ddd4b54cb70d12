import ExprGraph.Proofs.Graph.Plan

/-!
Records of a graph: which combine nodes were made over which children, and which store nodes were
handed to which combine node since.  A graph agrees with its record when the children of its combine
nodes can be read off it.  Main statements: `Agrees.quiet`, `Agrees.create` and `Agrees.store`.
-/

namespace ExprGraph

inductive Entry where
  | created (collector : Handle) (children : List Handle)
  | stored (collector store : Handle)

namespace Entry

def creation? (collector : Handle) : Entry → Option (List Handle)
  | created other children => if other = collector then some children else none
  | stored _ _ => none

def store? (collector : Handle) : Entry → Option Handle
  | created _ _ => none
  | stored other store => if other = collector then some store else none

def Within (graph : Graph) : Entry → Prop
  | created collector children => graph.Accepts collector ∧ ∀ child ∈ children, graph.Accepts child
  | stored collector store => graph.Accepts collector ∧ graph.Accepts store

end Entry

def creations (record : List Entry) (collector : Handle) : List (List Handle) :=
  record.filterMap (Entry.creation? collector)

def stores (record : List Entry) (collector : Handle) : List Handle :=
  record.filterMap (Entry.store? collector)

theorem creations_append (first second : List Entry) (collector : Handle) :
    creations (first ++ second) collector =
      creations first collector ++ creations second collector :=
  List.filterMap_append

theorem stores_append (first second : List Entry) (collector : Handle) :
    stores (first ++ second) collector = stores first collector ++ stores second collector :=
  List.filterMap_append

theorem stored_mem_of_stores {record : List Entry} {collector store : Handle}
    (member : store ∈ stores record collector) : .stored collector store ∈ record := by
  obtain ⟨entry, isEntry, taken⟩ := List.mem_filterMap.mp member
  cases entry with
  | created other children => cases taken
  | stored other found =>
      simp only [Entry.store?, Option.ite_none_right_eq_some, Option.some.injEq] at taken
      obtain ⟨rfl, rfl⟩ := taken
      exact isEntry

theorem created_mem_of_creations {record : List Entry} {collector : Handle}
    {children : List Handle} (member : children ∈ creations record collector) :
    .created collector children ∈ record := by
  obtain ⟨entry, isEntry, taken⟩ := List.mem_filterMap.mp member
  cases entry with
  | created other found =>
      simp only [Entry.creation?, Option.ite_none_right_eq_some, Option.some.injEq] at taken
      obtain ⟨rfl, rfl⟩ := taken
      exact isEntry
  | stored other found => cases taken

/-- The children are those the collector was made over, once, and then the stores handed to it, each
of them once and in order. -/
structure Collected (record : List Entry) (collector : Handle) (children : List Handle) : Prop where
  split : ∃ initial, creations record collector = [initial] ∧
    children = initial ++ stores record collector ∧
    ∀ store ∈ stores record collector, store ∉ initial
  distinct : (stores record collector).Nodup

theorem Collected.of_same {first second : List Entry} {collector : Handle} {children : List Handle}
    (collected : Collected first collector children)
    (sameCreations : creations second collector = creations first collector)
    (sameStores : stores second collector = stores first collector) :
    Collected second collector children := by
  obtain ⟨initial, made, split, apart⟩ := collected.split
  refine ⟨⟨initial, sameCreations.trans made, ?_, ?_⟩, ?_⟩
  · rw [sameStores]
    exact split
  · rw [sameStores]
    exact apart
  · rw [sameStores]
    exact collected.distinct

theorem Collected.of_created {record : List Entry} {collector : Handle} (children : List Handle)
    (noCreations : creations record collector = []) (noStores : stores record collector = []) :
    Collected (record ++ [.created collector children]) collector children := by
  have storesAfter : stores (record ++ [.created collector children]) collector = [] := by
    rw [stores_append, noStores]
    rfl
  refine ⟨⟨children, ?_, ?_, ?_⟩, ?_⟩
  · rw [creations_append, noCreations]
    simp [creations, Entry.creation?]
  · rw [storesAfter, List.append_nil]
  · intro store member
    rw [storesAfter] at member
    cases member
  · rw [storesAfter]
    exact List.nodup_nil

theorem Collected.store {record : List Entry} {collector store : Handle} {children : List Handle}
    (collected : Collected record collector children)
    (notInitial : ∀ initial ∈ creations record collector, store ∉ initial)
    (notStored : store ∉ stores record collector) :
    Collected (record ++ [.stored collector store]) collector (children ++ [store]) := by
  obtain ⟨initial, made, split, apart⟩ := collected.split
  have creationsAfter : creations (record ++ [.stored collector store]) collector = [initial] := by
    rw [creations_append, made]
    rfl
  have storesAfter : stores (record ++ [.stored collector store]) collector =
      stores record collector ++ [store] := by
    rw [stores_append]
    simp [stores, Entry.store?]
  refine ⟨⟨initial, creationsAfter, ?_, ?_⟩, ?_⟩
  · rw [storesAfter, ← List.append_assoc, ← split]
  · intro other member
    rw [storesAfter] at member
    rcases List.mem_append.mp member with earlier | last
    · exact apart other earlier
    · rw [List.mem_singleton.mp last]
      exact notInitial initial (by simp [made])
  · have others : ∀ other ∈ stores record collector, other ≠ store := by
      rintro other member rfl
      exact notStored member
    rw [storesAfter]
    simpa [List.nodup_append] using ⟨collected.distinct, others⟩

theorem Collected.of_other {record : List Entry} {entry : Entry} {collector : Handle}
    {children : List Handle} (collected : Collected record collector children)
    (noCreation : entry.creation? collector = none) (noStore : entry.store? collector = none) :
    Collected (record ++ [entry]) collector children := by
  apply collected.of_same
  · rw [creations_append]
    simp [creations, noCreation]
  · rw [stores_append]
    simp [stores, noStore]

namespace Graph

def Agrees (graph : Graph) (record : List Entry) : Prop :=
  ∀ collector node, graph.lookup collector = .ok node → node.opcode = .combine →
    Collected record collector node.children

structure Keeps (graph : Graph) (record : List Entry) : Prop where
  agrees : graph.Agrees record
  within : ∀ entry ∈ record, entry.Within graph

end Graph

theorem Entry.Within.apply {graph : Graph} {entry : Entry} (within : entry.Within graph)
    (change : Change) : entry.Within (graph.apply change) := by
  cases entry with
  | created collector children =>
      exact ⟨within.1.apply change, fun child member => (within.2 child member).apply change⟩
  | stored collector store => exact ⟨within.1.apply change, within.2.apply change⟩

def Change.Quiet : Change → Prop
  | .add _ draft => draft.opcode ≠ .combine
  | .edit _ (.collect _) => False
  | _ => True

theorem Change.Quiet.children {handle : Handle} {edit : Edit}
    (quiet : (Change.edit handle edit).Quiet) (node : Node) :
    (edit.apply node).children = node.children := by
  cases edit with
  | collect store => exact quiet.elim
  | _ => rfl

namespace Graph

theorem Keeps.empty (id : UInt32) (options : Options) :
    Keeps { id := id, options := options } [] where
  agrees := by
    intro collector node found
    exact (not_accepts_empty id options collector ⟨node, found⟩).elim
  within := by
    intro entry member
    cases member

theorem Keeps.accepts_store {graph : Graph} {record : List Entry} (keeps : graph.Keeps record)
    {collector store : Handle} (member : store ∈ stores record collector) : graph.Accepts store :=
  (keeps.within _ (stored_mem_of_stores member)).2

theorem Keeps.accepts_initial {graph : Graph} {record : List Entry} (keeps : graph.Keeps record)
    {collector : Handle} {initial : List Handle} (member : initial ∈ creations record collector) :
    ∀ child ∈ initial, graph.Accepts child :=
  (keeps.within _ (created_mem_of_creations member)).2

theorem Keeps.quiet {graph : Graph} {record : List Entry} (keeps : graph.Keeps record)
    {change : Change} (quiet : change.Quiet) : (graph.apply change).Keeps record where
  agrees := by
    intro collector node found isCombine
    rcases lookup_apply_cases found with old | added | edited
    · exact keeps.agrees collector node old isCombine
    · obtain ⟨cause, draft, rfl, _, rfl⟩ := added
      exact (quiet isCombine).elim
    · obtain ⟨edit, old, rfl, before, rfl⟩ := edited
      rw [quiet.children]
      exact keeps.agrees collector old before (by simpa using isCombine)
  within := fun entry member => (keeps.within entry member).apply change

theorem Keeps.quietAll {graph : Graph} {record : List Entry} (keeps : graph.Keeps record)
    {changes : List Change} (quiet : ∀ change ∈ changes, change.Quiet) :
    (graph.applyAll changes).Keeps record := by
  induction changes generalizing graph with
  | nil => exact keeps
  | cons change rest ih =>
      have first := keeps.quiet (quiet change List.mem_cons_self)
      exact ih first (fun later member => quiet later (List.mem_cons_of_mem _ member))

theorem Keeps.creations_unknown {graph : Graph} {record : List Entry} {handle : Handle}
    (keeps : graph.Keeps record) (unknown : ¬ graph.Accepts handle) :
    creations record handle = [] := by
  apply List.eq_nil_iff_forall_not_mem.mpr
  intro children member
  exact unknown (keeps.within _ (created_mem_of_creations member)).1

theorem Keeps.stores_unknown {graph : Graph} {record : List Entry} {handle : Handle}
    (keeps : graph.Keeps record) (unknown : ¬ graph.Accepts handle) :
    stores record handle = [] := by
  apply List.eq_nil_iff_forall_not_mem.mpr
  intro store member
  exact unknown (keeps.within _ (stored_mem_of_stores member)).1

theorem Keeps.create {graph : Graph} {record : List Entry} (keeps : graph.Keeps record)
    (cause : Cause) {draft : Draft} (accepted : ∀ child ∈ draft.children, graph.Accepts child) :
    (graph.apply (.add cause draft)).Keeps (record ++ [.created graph.next draft.children]) where
  agrees := by
    intro collector node found isCombine
    rcases lookup_add_cases found with old | ⟨rfl, rfl⟩
    · have notNext : graph.next ≠ collector := by
        rintro rfl
        exact graph.not_accepts_next ⟨node, old⟩
      have before := keeps.agrees collector node old isCombine
      exact before.of_other (by simp [Entry.creation?, notNext]) rfl
    · have unknown := graph.not_accepts_next
      exact Collected.of_created draft.children (keeps.creations_unknown unknown)
        (keeps.stores_unknown unknown)
  within := by
    intro entry member
    rcases List.mem_append.mp member with old | new
    · exact (keeps.within entry old).apply _
    · obtain rfl := List.mem_singleton.mp new
      refine ⟨accepts_add_new graph draft, ?_⟩
      intro child isChild
      exact (accepted child isChild).apply (.add cause draft)

/-- A new store node is handed to a collector right after it was made, so it is not among the
children of the collector yet. -/
theorem Keeps.store {graph : Graph} {record : List Entry} (keeps : graph.Keeps record)
    (cause : Cause) {draft : Draft} {collector : Handle} (notCombine : draft.opcode ≠ .combine)
    (accepted : graph.Accepts collector) :
    (graph.applyAll [.add cause draft, .edit collector (.collect graph.next)]).Keeps
      (record ++ [.stored collector graph.next]) := by
  have quiet : (Change.add cause draft).Quiet := notCombine
  have added := keeps.quiet quiet
  simp only [applyAll_cons, applyAll_nil]
  constructor
  · intro handle node found isCombine
    by_cases same : handle = collector
    · subst same
      obtain ⟨old, before⟩ := accepted
      have edited := lookup_edit_same (.collect graph.next) (lookup_add_of_ok draft before)
      obtain rfl := Except.ok.inj (found.symm.trans edited)
      have collected := keeps.agrees handle old before isCombine
      apply collected.store
      · intro initial made member
        exact graph.not_accepts_next (keeps.accepts_initial made _ member)
      · intro member
        exact graph.not_accepts_next (keeps.accepts_store member)
    · have before := (lookup_edit_other (.collect graph.next) same).symm.trans found
      have collected := added.agrees handle node before isCombine
      exact collected.of_other rfl (by simp [Entry.store?, Ne.symm same])
  · intro entry member
    rcases List.mem_append.mp member with old | new
    · exact (added.within entry old).apply _
    · obtain rfl := List.mem_singleton.mp new
      exact ⟨(accepted.apply (.add cause draft)).apply _, (accepts_add_new graph draft).apply _⟩

end Graph

end ExprGraph
