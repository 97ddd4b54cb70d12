import ExprGraph.Proofs.Graph.Change
import ExprGraph.Proofs.Graph.Traversal
import ExprGraph.Graph.Query

/-!
Bare graphs: graphs without numbers, names and groups.  What is checked, walked and answered can be
read off the bare graph, but for texts; and the bare graph after a change is the bare graph changed.
Main statements: `accept_bare`, `dumpTree_bare` and `bare_applyAll`.
-/

namespace ExprGraph

/-- A node without what is noted on it: number, name, group and the ways it is to be treated. -/
def Node.bare (node : Node) : Node where
  opcode := node.opcode
  dataType := node.dataType
  children := node.children
  immediate := node.immediate
  address := node.address
  id := 0

def Graph.bare (graph : Graph) : Graph where
  id := graph.id
  nodes := graph.nodes.map Node.bare
  options := graph.options

def Cause.bare : Cause → Cause
  | implied _ => implied 0
  | cause => cause

def Change.bare : Change → Change
  | .add cause draft => .add cause.bare draft
  | change => change

def Event.bare : Event → Event
  | allocated _ opcode childCount => allocated 0 opcode childCount
  | dereferenced _ => dereferenced 0
  | rootCreated _ => rootCreated 0
  | counterReset _ nodeCount => counterReset 0 nodeCount

theorem Node.boundAddress_bare (node : Node) : node.bare.boundAddress = node.boundAddress := rfl

theorem Draft.bare_node (draft : Draft) (id : UInt32) : (draft.node id).bare = draft.node 0 := rfl

theorem Loop.run_alike {first : σ → Except Fault (Option σ)} {second : τ → Except Fault (Option τ)}
    {R : σ → τ → Prop}
    (turn : ∀ state other, R state other →
      (∃ fault, first state = .error fault ∧ second other = .error fault) ∨
        (first state = .ok none ∧ second other = .ok none) ∨
          ∃ next after, first state = .ok (some next) ∧ second other = .ok (some after) ∧
            R next after)
    (turns : Nat) {state : σ} {other : τ} (initial : R state other) :
    (run first turns state).2 = (run second turns other).2 := by
  induction turns generalizing state other with
  | zero => rfl
  | succ turns ih =>
      rcases turn state other initial with
        ⟨fault, fails, failsToo⟩ | ⟨done, doneToo⟩ | ⟨next, after, taken, takenToo, related⟩
      · simp only [run, fails, failsToo]
      · simp only [run, done, doneToo]
      · simp only [run, taken, takenToo]
        exact ih related

namespace Graph

variable (graph : Graph) (handle : Handle)

@[simp] theorem size_bare : graph.bare.size = graph.size := Array.size_map

@[simp] theorem id_bare : graph.bare.id = graph.id := rfl

@[simp] theorem options_bare : graph.bare.options = graph.options := rfl

@[simp] theorem handleAt_bare (position : Nat) :
    graph.bare.handleAt position = graph.handleAt position := rfl

theorem lookup_bare : graph.bare.lookup handle = (graph.lookup handle).map Node.bare := by
  cases handle with
  | empty => rfl
  | ref owner position =>
      by_cases same : owner = graph.id
      · simp only [lookup, same, if_true, bare, Array.getElem?_map]
        cases graph.nodes[position]? with
        | none => rfl
        | some node => rfl
      · simp only [lookup, id_bare, same, if_false]
        rfl

theorem map_lookup_bare {part : Node → α} (untouched : ∀ node, part node.bare = part node) :
    (graph.bare.lookup handle).map part = (graph.lookup handle).map part := by
  rw [lookup_bare]
  cases graph.lookup handle with
  | error fault => rfl
  | ok node => exact congrArg Except.ok (untouched node)

theorem bind_lookup_bare {bareNext next : Node → Except Fault α}
    (agree : ∀ node, bareNext node.bare = next node) :
    (graph.bare.lookup handle >>= bareNext) = (graph.lookup handle >>= next) := by
  rw [lookup_bare]
  cases graph.lookup handle with
  | error fault => rfl
  | ok node => exact agree node

@[simp] theorem opcode_bare : graph.bare.opcode handle = graph.opcode handle :=
  graph.map_lookup_bare handle (fun _ => rfl)

@[simp] theorem dataType_bare : graph.bare.dataType handle = graph.dataType handle :=
  graph.map_lookup_bare handle (fun _ => rfl)

@[simp] theorem child_bare (index : Nat) :
    graph.bare.child handle index = graph.child handle index :=
  graph.bind_lookup_bare handle (fun _ => rfl)

@[simp] theorem expectOpcode_bare (expected : Opcode) :
    graph.bare.expectOpcode handle expected = graph.expectOpcode handle expected := by
  unfold expectOpcode
  rw [opcode_bare]

@[simp] theorem contains_bare : graph.bare.contains handle = graph.contains handle := by
  unfold contains
  rw [lookup_bare]
  cases graph.lookup handle <;> rfl

@[simp] theorem checkAll_bare (handles : List Handle) :
    graph.bare.checkAll handles = graph.checkAll handles := by
  induction handles with
  | nil => rfl
  | cons first rest ih =>
      unfold checkAll
      rw [ih]
      exact graph.bind_lookup_bare first (fun _ => rfl)

@[simp] theorem address_bare : graph.bare.address handle = graph.address handle :=
  graph.bind_lookup_bare handle Node.boundAddress_bare

@[simp] theorem resolvedAddress_bare :
    graph.bare.resolvedAddress handle = graph.resolvedAddress handle := by
  refine graph.bind_lookup_bare handle (fun node => ?_)
  refine ite_congr rfl (fun _ => ?_) (fun _ => rfl)
  refine congrArg (firstOperand node _ >>= ·) (funext fun pointerHandle => ?_)
  refine graph.bind_lookup_bare pointerHandle (fun pointer => ?_)
  refine ite_congr rfl (fun _ => ?_) (fun _ => rfl)
  refine congrArg (firstOperand pointer _ >>= ·) (funext fun addrHandle => ?_)
  exact graph.bind_lookup_bare addrHandle (fun _ => rfl)

@[simp] theorem pointerAddress_bare :
    graph.bare.pointerAddress handle = graph.pointerAddress handle := by
  unfold pointerAddress
  rw [expectOpcode_bare]
  refine congrArg (graph.expectOpcode handle .pointer >>= ·) (funext fun _ => ?_)
  refine graph.bind_lookup_bare handle (fun node => ?_)
  exact congrArg (firstOperand node _ >>= ·) (funext fun addr => graph.address_bare addr)

@[simp] theorem priorTo_bare (first second : Handle) :
    graph.bare.priorTo first second = graph.priorTo first second := by
  simp only [priorTo, pointerAddress_bare]

theorem width_bare : graph.bare.width = graph.width :=
  Array.foldl_map

theorem visitBound_bare : graph.bare.visitBound = graph.visitBound := by
  unfold visitBound
  rw [width_bare, size_bare]

theorem walkStep_bare (order : VisitOrder) :
    Walk.step graph.bare order = Walk.step graph order := by
  funext walk
  unfold Walk.step
  cases walk.stack with
  | nil => rfl
  | cons frame rest => exact graph.bind_lookup_bare frame.handle (fun _ => rfl)

@[simp] theorem accept_bare (order : VisitOrder) (root : Handle) :
    graph.bare.accept order root = graph.accept order root := by
  unfold accept
  rw [lookup_bare, walkStep_bare, visitBound_bare]
  cases graph.lookup root <;> rfl

theorem entries_bare :
    graph.bare.entries = graph.entries.map (fun entry => (entry.1, entry.2.bare)) := by
  simp only [entries, bare, Array.toList_map, List.zipIdx_map, List.map_map]
  rfl

theorem treeDump_alike (root : Handle) (turns : Nat) :
    (Loop.run (TreeDump.step graph.bare) turns (TreeDump.start root)).2 =
      (Loop.run (TreeDump.step graph) turns (TreeDump.start root)).2 := by
  apply Loop.run_alike (R := fun dump other =>
    dump.pending = other.pending ∧ dump.seen = other.seen) ?_ turns ⟨rfl, rfl⟩
  rintro ⟨pending, seen, entries⟩ ⟨_, _, others⟩ ⟨rfl, rfl⟩
  cases pending with
  | nil => exact .inr (.inl ⟨rfl, rfl⟩)
  | cons first rest =>
      cases found : graph.lookup first.handle with
      | error fault =>
          left
          refine ⟨fault, ?_, ?_⟩
          · simp only [TreeDump.step, lookup_bare, found]
            rfl
          · simp only [TreeDump.step, found]
            rfl
      | ok node =>
          let next := TreeDump.written ⟨first :: rest, seen, entries⟩ first rest node.bare
          let after := TreeDump.written ⟨first :: rest, seen, others⟩ first rest node
          refine .inr (.inr ⟨next, after, ?_, ?_, rfl, rfl⟩)
          · simp only [TreeDump.step, lookup_bare, found]
            rfl
          · simp only [TreeDump.step, found]
            rfl

theorem map_dumpTree (root : Handle) (value : α) :
    (graph.dumpTree root).map (fun _ => value) =
      match graph.lookup root with
      | .error fault => .error (.fault fault)
      | .ok _ =>
        match (Loop.run (TreeDump.step graph) (graph.visitBound + 1) (TreeDump.start root)).2 with
        | none => .ok value
        | some interruption => .error interruption := by
  cases found : graph.lookup root with
  | error fault =>
      simp only [dumpTree, found]
      rfl
  | ok node =>
      rw [dumpTree_eq found]
      rcases Loop.run (TreeDump.step graph) (graph.visitBound + 1) _ with ⟨_, _ | _⟩ <;> rfl

theorem dumpTree_bare (root : Handle) (value : α) :
    (graph.bare.dumpTree root).map (fun _ => value) =
      (graph.dumpTree root).map (fun _ => value) := by
  rw [map_dumpTree, map_dumpTree, treeDump_alike, visitBound_bare, lookup_bare]
  cases graph.lookup root <;> rfl

@[simp] theorem bare_bare : graph.bare.bare = graph.bare := by
  simp only [bare, Array.map_map]
  rfl

theorem bare_put (node : Node) :
    (graph.put handle node).bare = graph.bare.put handle node.bare := by
  cases handle with
  | empty => rfl
  | ref owner position =>
      simp only [put, bare, Array.map_setIfInBounds]

theorem bare_add (draft : Draft) : (graph.add draft).bare = (graph.bare.add draft).bare := by
  simp only [bare, add, push, Array.map_push, Draft.bare_node, Array.map_map]
  rfl

theorem bare_edit (edit : Edit) (node : Node) :
    (edit.apply node).bare = (edit.apply node.bare).bare := by
  cases edit <;> rfl

theorem bare_apply (change : Change) :
    (graph.apply change).bare = (graph.bare.apply change.bare).bare := by
  cases change with
  | add cause draft => exact graph.bare_add draft
  | edit target edit =>
      simp only [apply, Change.bare, lookup_bare]
      cases graph.lookup target with
      | error fault => exact graph.bare_bare.symm
      | ok node =>
          simp only [Except.map, bare_put, bare_bare]
          rw [bare_edit]
  | restart => exact graph.bare_bare.symm

theorem bare_announce (change : Change) :
    (graph.announce change).map Event.bare =
      (graph.bare.announce change.bare).map Event.bare := by
  cases change with
  | add cause draft => cases cause <;> rfl
  | edit target edit => rfl
  | restart => simp [announce, Change.bare, Event.bare]

variable {graph} {other : Graph}

theorem bare_applyAll {changes others : List Change} (alike : graph.bare = other.bare)
    (same : changes.map Change.bare = others.map Change.bare) :
    (graph.applyAll changes).bare = (other.applyAll others).bare ∧
      (graph.announceAll changes).map Event.bare = (other.announceAll others).map Event.bare := by
  induction changes generalizing graph other others with
  | nil =>
      obtain rfl := List.map_eq_nil_iff.mp same.symm
      exact ⟨alike, rfl⟩
  | cons change rest ih =>
      cases others with
      | nil => cases same
      | cons first later =>
          obtain ⟨sameChange, sameRest⟩ := List.cons.inj same
          have applied : (graph.apply change).bare = (other.apply first).bare := by
            rw [bare_apply graph, alike, sameChange, ← bare_apply other]
          have announced : (graph.announce change).map Event.bare =
              (other.announce first).map Event.bare := by
            rw [bare_announce graph, alike, sameChange, ← bare_announce other]
          obtain ⟨appliedAll, announcedAll⟩ := ih applied sameRest
          refine ⟨appliedAll, ?_⟩
          rw [announceAll, announceAll, List.map_append, List.map_append, announced, announcedAll]

end Graph

end ExprGraph
