import ExprGraph.Event
import ExprGraph.Proofs.Graph.Shape

/-!
Changes: all that can happen to a graph while it is built.  A node is added, one part of a node is
edited, or numbering starts again.  Main statements: `lookup_apply_cases`, where the nodes of a
changed graph come from, and `lookup_apply_of_ok`, what becomes of the nodes there were.
-/

namespace ExprGraph

/-- A node before it has a number. -/
structure Draft where
  opcode : Opcode
  dataType : DataType
  children : List Handle
  immediate : Option Immediate := none
  address : Option Address := none

def Draft.node (draft : Draft) (id : UInt32) : Node where
  opcode := draft.opcode
  dataType := draft.dataType
  children := draft.children
  immediate := draft.immediate
  address := draft.address
  id := id

/-- Nodes are asked for, or come along: the load of a pointer, announced before, and the root that
collects stores, announced after. -/
inductive Cause where
  | asked
  | implied (pointer : UInt32)
  | collects

def Cause.announce (cause : Cause) (id : UInt32) (draft : Draft) : List Event :=
  let allocated := Event.allocated id draft.opcode draft.children.length
  match cause with
  | asked => [allocated]
  | implied pointer => [.dereferenced pointer, allocated]
  | collects => [allocated, .rootCreated id]

inductive Edit where
  | retype (dataType : DataType)
  | rename (name : String)
  | regroup (count : Nat)
  | vectorize (vectorized : Bool)
  | enroll (members : List Handle)
  | bind (address : Address)
  | collect (store : Handle)

namespace Edit

def apply (edit : Edit) (node : Node) : Node :=
  match edit with
  | retype dataType => { node with dataType := dataType }
  | rename name => { node with name := name }
  | regroup count => { node with groupCount := count }
  | vectorize vectorized => { node with vectorized := vectorized }
  | enroll members => { node with members := members }
  | bind address => { node with address := some address }
  | collect store => { node with children := node.children ++ [store] }

@[simp] theorem opcode_apply (edit : Edit) (node : Node) :
    (edit.apply node).opcode = node.opcode := by
  cases edit <;> rfl

@[simp] theorem immediate_apply (edit : Edit) (node : Node) :
    (edit.apply node).immediate = node.immediate := by
  cases edit <;> rfl

/-- What a request has made sure of before it edits a node. -/
def Fits (graph : Graph) (node : Node) : Edit → Prop
  | enroll members => ∀ member ∈ members, member ∈ node.members ∨ graph.Accepts member
  | bind _ => node.opcode = .addr
  | collect store => node.opcode = .combine ∧ graph.opcode store = .ok .store
  | _ => True

end Edit

inductive Change where
  | add (cause : Cause) (draft : Draft)
  | edit (handle : Handle) (edit : Edit)
  | restart

namespace Graph

def add (graph : Graph) (draft : Draft) : Graph :=
  { graph with numbering := graph.numbering.draw.2 }.push (draft.node graph.numbering.next)

def apply (graph : Graph) : Change → Graph
  | .add _ draft => graph.add draft
  | .edit handle edit =>
    match graph.lookup handle with
    | .ok node => graph.put handle (edit.apply node)
    | .error _ => graph
  | .restart => { graph with numbering := graph.numbering.reset }

def announce (graph : Graph) : Change → List Event
  | .add cause draft => cause.announce graph.numbering.next draft
  | .edit _ _ => []
  | .restart => [.counterReset graph.numbering.next graph.size]

def applyAll (graph : Graph) (changes : List Change) : Graph := changes.foldl apply graph

def announceAll (graph : Graph) : List Change → List Event
  | [] => []
  | change :: rest => graph.announce change ++ (graph.apply change).announceAll rest

def gather (tell : Graph → Change → List α) (graph : Graph) : List Change → List α
  | [] => []
  | change :: rest => tell graph change ++ (graph.apply change).gather tell rest

end Graph

def Change.Valid (graph : Graph) : Change → Prop
  | .add _ draft => (∀ child ∈ draft.children, graph.Accepts child) ∧ (draft.node 0).Shaped graph
  | .edit handle part => ∃ node, graph.lookup handle = .ok node ∧ part.Fits graph node
  | .restart => True

namespace Graph

def ValidAll (graph : Graph) : List Change → Prop
  | [] => True
  | change :: rest => change.Valid graph ∧ (graph.apply change).ValidAll rest

@[simp] theorem applyAll_nil (graph : Graph) : graph.applyAll [] = graph := rfl

@[simp] theorem applyAll_cons (graph : Graph) (change : Change) (rest : List Change) :
    graph.applyAll (change :: rest) = (graph.apply change).applyAll rest := rfl

theorem applyAll_append (graph : Graph) (first second : List Change) :
    graph.applyAll (first ++ second) = (graph.applyAll first).applyAll second :=
  List.foldl_append

theorem announceAll_append (graph : Graph) (first second : List Change) :
    graph.announceAll (first ++ second) =
      graph.announceAll first ++ (graph.applyAll first).announceAll second := by
  induction first generalizing graph with
  | nil => rfl
  | cons change rest ih => simp [announceAll, ih]

theorem gather_eq_nil {tell : Graph → Change → List α} {changes : List Change}
    (silent : ∀ change ∈ changes, ∀ graph, tell graph change = []) (graph : Graph) :
    graph.gather tell changes = [] := by
  induction changes generalizing graph with
  | nil => rfl
  | cons change rest ih =>
      rw [gather, silent change List.mem_cons_self graph,
        ih (fun later member => silent later (List.mem_cons_of_mem _ member))]
      rfl

theorem mem_gather {tell : Graph → Change → List α} {item : α} {changes : List Change}
    {graph : Graph} (member : item ∈ graph.gather tell changes) :
    ∃ change ∈ changes, ∃ before, item ∈ tell before change := by
  induction changes generalizing graph with
  | nil => cases member
  | cons change rest ih =>
      rcases List.mem_append.mp member with first | later
      · exact ⟨change, List.mem_cons_self, graph, first⟩
      · obtain ⟨other, isOther, told⟩ := ih later
        exact ⟨other, List.mem_cons_of_mem _ isOther, told⟩

theorem gather_invariant {tell : Graph → Change → List α} {keeps : Graph → List α → Prop}
    (kept : ∀ graph record change, keeps graph record → change.Valid graph →
      keeps (graph.apply change) (record ++ tell graph change))
    {graph : Graph} {record : List α} (holds : keeps graph record) (changes : List Change)
    (valid : graph.ValidAll changes) :
    keeps (graph.applyAll changes) (record ++ graph.gather tell changes) := by
  induction changes generalizing graph record with
  | nil =>
      rw [gather, List.append_nil]
      exact holds
  | cons change rest ih =>
      rw [gather, ← List.append_assoc]
      exact ih (kept graph record change holds valid.1) valid.2

theorem validAll_append (graph : Graph) (first second : List Change) :
    graph.ValidAll (first ++ second) ↔
      graph.ValidAll first ∧ (graph.applyAll first).ValidAll second := by
  induction first generalizing graph with
  | nil => simp [ValidAll]
  | cons change rest ih => simp [ValidAll, ih, and_assoc]

@[simp] theorem id_apply (graph : Graph) (change : Change) :
    (graph.apply change).id = graph.id := by
  cases change with
  | add cause draft => rfl
  | edit handle edit =>
      simp only [apply]
      cases graph.lookup handle with
      | error fault => rfl
      | ok node => exact id_put graph handle _
  | restart => rfl

@[simp] theorem options_apply (graph : Graph) (change : Change) :
    (graph.apply change).options = graph.options := by
  cases change with
  | add cause draft => rfl
  | edit handle edit =>
      simp only [apply]
      cases graph.lookup handle with
      | error fault => rfl
      | ok node => cases handle <;> rfl
  | restart => rfl

@[simp] theorem id_applyAll (graph : Graph) (changes : List Change) :
    (graph.applyAll changes).id = graph.id := by
  induction changes generalizing graph with
  | nil => rfl
  | cons change rest ih => simp [ih]

@[simp] theorem options_applyAll (graph : Graph) (changes : List Change) :
    (graph.applyAll changes).options = graph.options := by
  induction changes generalizing graph with
  | nil => rfl
  | cons change rest ih => simp [ih]

@[simp] theorem size_add (graph : Graph) (draft : Draft) :
    (graph.add draft).size = graph.size + 1 :=
  size_push _ _

@[simp] theorem size_edit (graph : Graph) (handle : Handle) (edit : Edit) :
    (graph.apply (.edit handle edit)).size = graph.size := by
  simp only [apply]
  cases graph.lookup handle with
  | error fault => rfl
  | ok node => exact size_put graph handle _

theorem lookup_numbering (graph : Graph) (numbering : Numbering) (handle : Handle) :
    { graph with numbering := numbering }.lookup handle = graph.lookup handle := by
  cases handle <;> rfl

theorem lookup_add_new (graph : Graph) (draft : Draft) :
    (graph.add draft).lookup (graph.handleAt graph.size) =
      .ok (draft.node graph.numbering.next) :=
  lookup_push_new { graph with numbering := graph.numbering.draw.2 } _

theorem accepts_add_new (graph : Graph) (draft : Draft) :
    (graph.add draft).Accepts (graph.handleAt graph.size) :=
  ⟨_, lookup_add_new graph draft⟩

theorem lookup_add_of_ok {graph : Graph} {handle : Handle} {node : Node} (draft : Draft)
    (found : graph.lookup handle = .ok node) : (graph.add draft).lookup handle = .ok node := by
  apply lookup_push_of_ok
  rw [lookup_numbering]
  exact found

theorem not_accepts_next (graph : Graph) : ¬ graph.Accepts (graph.handleAt graph.size) := by
  rw [accepts_handleAt_iff]
  exact Nat.lt_irrefl graph.size

theorem lookup_add_cases {graph : Graph} {draft : Draft} {handle : Handle} {node : Node}
    (found : (graph.add draft).lookup handle = .ok node) :
    graph.lookup handle = .ok node ∨
      handle = graph.handleAt graph.size ∧ node = draft.node graph.numbering.next := by
  obtain ⟨position, bound, rfl⟩ := (accepts_iff _ _).mp ⟨node, found⟩
  rw [size_add] at bound
  by_cases last : position = graph.size
  · subst last
    have new := lookup_add_new graph draft
    rw [show graph.handleAt graph.size = .ref (graph.add draft).id graph.size from rfl, found]
      at new
    exact .inr ⟨rfl, Except.ok.inj new⟩
  · have old := graph.lookup_ref position (by omega)
    have same := lookup_add_of_ok draft old
    rw [show Handle.ref graph.id position = .ref (graph.add draft).id position from rfl, found]
      at same
    rw [Except.ok.inj same]
    exact .inl old

theorem lookup_edit_same {graph : Graph} {handle : Handle} {node : Node} (edit : Edit)
    (found : graph.lookup handle = .ok node) :
    (graph.apply (.edit handle edit)).lookup handle = .ok (edit.apply node) := by
  simp only [apply, found]
  exact lookup_put_same graph handle _ ⟨node, found⟩

theorem lookup_edit_other {graph : Graph} {handle other : Handle} (edit : Edit)
    (different : other ≠ handle) :
    (graph.apply (.edit handle edit)).lookup other = graph.lookup other := by
  cases found : graph.lookup handle with
  | error fault => simp only [apply, found]
  | ok node =>
      simp only [apply, found]
      exact lookup_put_other graph handle other _ ⟨node, found⟩ different

theorem lookup_apply_cases {graph : Graph} {change : Change} {handle : Handle} {node : Node}
    (found : (graph.apply change).lookup handle = .ok node) :
    graph.lookup handle = .ok node ∨
      (∃ cause draft, change = .add cause draft ∧ handle = graph.handleAt graph.size ∧
        node = draft.node graph.numbering.next) ∨
      ∃ edit old, change = .edit handle edit ∧ graph.lookup handle = .ok old ∧
        node = edit.apply old := by
  cases change with
  | add cause draft =>
      rcases lookup_add_cases found with old | ⟨isNew, isNode⟩
      · exact .inl old
      · exact .inr (.inl ⟨cause, draft, rfl, isNew, isNode⟩)
  | edit target edit =>
      by_cases same : handle = target
      · subst same
        cases before : graph.lookup handle with
        | error fault =>
            simp only [apply, before] at found
            cases found
        | ok old =>
            rw [lookup_edit_same edit before] at found
            exact .inr (.inr ⟨edit, old, rfl, rfl, (Except.ok.inj found).symm⟩)
      · rw [lookup_edit_other edit same] at found
        exact .inl found
  | restart => exact .inl ((lookup_numbering graph _ handle).symm.trans found)

theorem lookup_apply_of_ok {graph : Graph} {handle : Handle} {old : Node} (change : Change)
    (found : graph.lookup handle = .ok old) :
    ∃ node, (graph.apply change).lookup handle = .ok node ∧
      (node = old ∨ ∃ edit, change = .edit handle edit ∧ node = edit.apply old) := by
  cases change with
  | add cause draft => exact ⟨old, lookup_add_of_ok draft found, .inl rfl⟩
  | edit target edit =>
      by_cases same : handle = target
      · subst same
        exact ⟨_, lookup_edit_same edit found, .inr ⟨edit, rfl, rfl⟩⟩
      · exact ⟨old, (lookup_edit_other edit same).trans found, .inl rfl⟩
  | restart => exact ⟨old, (lookup_numbering graph _ handle).trans found, .inl rfl⟩

theorem Accepts.apply {graph : Graph} {handle : Handle} (accepted : graph.Accepts handle)
    (change : Change) : (graph.apply change).Accepts handle := by
  obtain ⟨old, found⟩ := accepted
  obtain ⟨node, foundAfter, _⟩ := lookup_apply_of_ok change found
  exact ⟨node, foundAfter⟩

theorem Accepts.applyAll {graph : Graph} {handle : Handle} (accepted : graph.Accepts handle)
    (changes : List Change) : (graph.applyAll changes).Accepts handle := by
  induction changes generalizing graph with
  | nil => exact accepted
  | cons change rest ih => exact ih (accepted.apply change)

theorem opcode_apply_of_ok {graph : Graph} {handle : Handle} {opcode : Opcode} (change : Change)
    (found : graph.opcode handle = .ok opcode) :
    (graph.apply change).opcode handle = .ok opcode := by
  obtain ⟨old, isOld, sameOpcode⟩ := (opcode_eq_ok_iff _ _ _).mp found
  obtain ⟨node, isNode, kept | ⟨edit, _, edited⟩⟩ := lookup_apply_of_ok change isOld
  · exact (opcode_eq_ok_iff _ _ _).mpr ⟨node, isNode, by rw [kept]; exact sameOpcode⟩
  · exact (opcode_eq_ok_iff _ _ _).mpr ⟨node, isNode, by rw [edited]; simpa using sameOpcode⟩

theorem opcode_applyAll_of_ok {graph : Graph} {handle : Handle} {opcode : Opcode}
    (changes : List Change) (found : graph.opcode handle = .ok opcode) :
    (graph.applyAll changes).opcode handle = .ok opcode := by
  induction changes generalizing graph with
  | nil => exact found
  | cons change rest ih => exact ih (opcode_apply_of_ok change found)

end Graph

end ExprGraph
