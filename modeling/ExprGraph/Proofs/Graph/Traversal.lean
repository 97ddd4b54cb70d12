import ExprGraph.Graph.Dump
import ExprGraph.Proofs.Graph.Closure
import ExprGraph.Proofs.Graph.Unfolding

/-!
Traversals come to an end.  What a walk and a tree dump still have to do is measured by the
unfolding of what lies on their stacks; each turn makes it smaller.  Main statements:
`accept_completes` and `dumpTree_completes`.
-/

namespace ExprGraph

/-- A loop whose every turn keeps an invariant and makes a measure smaller ends by itself, in a
state where its step has no more to do or fails. -/
theorem Loop.run_ends {step : σ → Except Fault (Option σ)} (Inv : σ → Prop) (measure : σ → Nat)
    (turn : ∀ state next, Inv state → step state = .ok (some next) →
      Inv next ∧ measure next < measure state)
    {turns : Nat} {state : σ} (initial : Inv state) (enough : measure state < turns) :
    Inv (run step turns state).1 ∧
      (step (run step turns state).1 = .ok none ∧ (run step turns state).2 = none ∨
        ∃ fault, step (run step turns state).1 = .error fault ∧
          (run step turns state).2 = some (.fault fault)) := by
  induction turns generalizing state with
  | zero => omega
  | succ turns ih =>
      cases taken : step state with
      | error fault =>
          simp only [run, taken]
          exact ⟨initial, .inr ⟨fault, rfl, rfl⟩⟩
      | ok result =>
          cases result with
          | none =>
              simp only [run, taken]
              exact ⟨initial, .inl ⟨trivial, trivial⟩⟩
          | some next =>
              obtain ⟨kept, smaller⟩ := turn state next initial taken
              simp only [run, taken]
              exact ih kept (by omega)

theorem Loop.run_faultless {step : σ → Except Fault (Option σ)} {P : σ → Prop}
    (turn : ∀ state next, P state → step state = .ok (some next) → P next)
    (noFault : ∀ state fault, P state → step state ≠ .error fault)
    (turns : Nat) {state : σ} (initial : P state) (fault : Fault) :
    (run step turns state).2 ≠ some (.fault fault) := by
  induction turns generalizing state with
  | zero => simp [run]
  | succ turns ih =>
      cases taken : step state with
      | error other => exact (noFault state other initial taken).elim
      | ok result =>
          cases result with
          | none => simp [run, taken]
          | some next =>
              simp only [run, taken]
              exact ih (turn state next initial taken)

theorem Loop.measure_le_turns {step : σ → Except Fault (Option σ)} (measure : σ → Nat)
    (turn : ∀ state next, step state = .ok (some next) → measure state ≤ measure next + 1)
    (done : ∀ state, step state = .ok none → measure state = 0)
    {turns : Nat} {state : σ} (finished : (run step turns state).2 = none) :
    measure state ≤ turns := by
  induction turns generalizing state with
  | zero => cases finished
  | succ turns ih =>
      cases taken : step state with
      | error fault =>
          simp only [run, taken] at finished
          cases finished
      | ok result =>
          cases result with
          | none =>
              rw [done state taken]
              exact Nat.zero_le _
          | some next =>
              simp only [run, taken] at finished
              have later := ih finished
              have lost := turn state next taken
              omega

namespace Walk

def entered (walk : Walk) (order : VisitOrder) (frame : Frame) (rest : List Frame)
    (child : Handle) : Walk :=
  let moved : Walk :=
    { walk with stack := ⟨child, 0⟩ :: { frame with next := frame.next + 1 } :: rest }
  match order with
  | .parentFirst => moved.visit child
  | .childFirst => moved

def left (walk : Walk) (order : VisitOrder) (frame : Frame) (rest : List Frame) : Walk :=
  let moved : Walk := { walk with stack := rest }
  match order with
  | .parentFirst => moved
  | .childFirst => moved.visit frame.handle

@[simp] theorem stack_entered (walk : Walk) (order : VisitOrder) (frame : Frame)
    (rest : List Frame) (child : Handle) :
    (walk.entered order frame rest child).stack =
      ⟨child, 0⟩ :: { frame with next := frame.next + 1 } :: rest := by
  cases order <;> rfl

@[simp] theorem stack_left (walk : Walk) (order : VisitOrder) (frame : Frame)
    (rest : List Frame) : (walk.left order frame rest).stack = rest := by
  cases order <;> rfl

@[simp] theorem stack_start (order : VisitOrder) (root : Handle) :
    (start order root).stack = [⟨root, 0⟩] := by
  cases order <;> rfl

inductive Turn (graph : Graph) (order : VisitOrder) (walk : Walk) :
    Except Fault (Option Walk) → Prop
  | done : walk.stack = [] → Turn graph order walk (.ok none)
  | failed {frame : Frame} {rest : List Frame} {fault : Fault} : walk.stack = frame :: rest →
      graph.lookup frame.handle = .error fault → Turn graph order walk (.error fault)
  | entered {frame : Frame} {rest : List Frame} {child : Handle} : walk.stack = frame :: rest →
      (graph.successors frame.handle)[frame.next]? = some child →
      Turn graph order walk (.ok (some (walk.entered order frame rest child)))
  | left {frame : Frame} {rest : List Frame} : walk.stack = frame :: rest →
      (graph.successors frame.handle)[frame.next]? = none →
      Turn graph order walk (.ok (some (walk.left order frame rest)))

theorem turn_step (graph : Graph) (order : VisitOrder) (walk : Walk) :
    Turn graph order walk (walk.step graph order) := by
  unfold step
  split
  next isEmpty => exact .done isEmpty
  next frame rest isTop =>
    cases found : graph.lookup frame.handle with
    | error fault => exact .failed isTop found
    | ok node =>
        have children := Graph.successors_of_ok found
        simp only [bind, Except.bind]
        split
        next child isChild => exact .entered isTop (by rw [children]; exact isChild)
        next noChild => exact .left isTop (by rw [children]; exact noChild)

def ahead (graph : Graph) (depth : Nat) (frame : Frame) : List Handle :=
  ((graph.successors frame.handle).drop frame.next).flatMap (graph.unfolding .parentFirst depth)

/-- Every node that is left has been entered, so entering counts twice. -/
def measure (graph : Graph) (depth : Nat) (walk : Walk) : Nat :=
  2 * (walk.stack.flatMap (ahead graph depth)).length + walk.stack.length

def Inside (graph : Graph) (root : Handle) (walk : Walk) : Prop :=
  ∀ frame ∈ walk.stack, graph.Reaches root frame.handle

theorem ahead_child {graph : Graph} {depth : Nat} {frame : Frame} {child : Handle}
    (shallow : graph.Shallow depth child)
    (isChild : (graph.successors frame.handle)[frame.next]? = some child) :
    ahead graph depth frame =
      child :: ahead graph depth ⟨child, 0⟩ ++
        ahead graph depth { frame with next := frame.next + 1 } := by
  obtain ⟨bound, rfl⟩ := List.getElem?_eq_some_iff.mp isChild
  simp only [ahead, List.drop_eq_getElem_cons bound, List.flatMap_cons, List.drop_zero]
  rw [shallow.unfolding_eq]
  rfl

theorem ahead_done {graph : Graph} {depth : Nat} {frame : Frame}
    (noChild : (graph.successors frame.handle)[frame.next]? = none) :
    ahead graph depth frame = [] := by
  have beyond := List.getElem?_eq_none_iff.mp noChild
  simp only [ahead, List.drop_eq_nil_of_le beyond, List.flatMap_nil]

theorem inside_start (graph : Graph) (order : VisitOrder) (root : Handle) :
    (start order root).Inside graph root := by
  intro frame member
  rw [stack_start, List.mem_singleton] at member
  rw [member]
  exact .refl root

theorem Inside.step {graph : Graph} {order : VisitOrder} {root : Handle} {walk next : Walk}
    (inside : walk.Inside graph root) (taken : walk.step graph order = .ok (some next)) :
    next.Inside graph root := by
  have turn := turn_step graph order walk
  rw [taken] at turn
  intro other member
  cases turn with
  | @entered frame rest child isTop isChild =>
      have fromTop : graph.Reaches root frame.handle := inside frame (by simp [isTop])
      rw [stack_entered] at member
      rcases List.mem_cons.mp member with rfl | later
      · exact fromTop.trans ((Graph.edge_iff _ _).mpr (List.mem_of_getElem? isChild)).reaches
      · rcases List.mem_cons.mp later with rfl | below
        · exact fromTop
        · exact inside other (by simp [isTop, below])
  | @left frame rest isTop noChild =>
      rw [stack_left] at member
      exact inside other (by simp [isTop, member])

theorem measure_step {graph : Graph} {order : VisitOrder} {root : Handle} {depth : Nat}
    (shallow : ∀ handle, graph.Reaches root handle → graph.Shallow depth handle)
    {walk next : Walk} (inside : walk.Inside graph root)
    (taken : walk.step graph order = .ok (some next)) :
    next.measure graph depth < walk.measure graph depth := by
  have insideNext := inside.step taken
  have turn := turn_step graph order walk
  rw [taken] at turn
  cases turn with
  | @entered frame rest child isTop isChild =>
      have reached : graph.Reaches root child := insideNext ⟨child, 0⟩ (by simp)
      have split := ahead_child (shallow child reached) isChild
      simp only [measure, isTop, stack_entered, List.flatMap_cons, List.length_append,
        List.length_cons, split]
      omega
  | @left frame rest isTop noChild =>
      simp only [measure, isTop, stack_left, List.flatMap_cons, ahead_done noChild,
        List.nil_append, List.length_cons]
      omega

theorem ahead_start (graph : Graph) (depth : Nat) (handle : Handle) :
    (ahead graph depth ⟨handle, 0⟩).length + 1 =
      (graph.unfolding .parentFirst (depth + 1) handle).length := by
  rw [Graph.unfolding, VisitOrder.length_place]
  rfl

theorem measure_le_step {graph : Graph} {order : VisitOrder} (depth : Nat) (walk next : Walk)
    (taken : walk.step graph order = .ok (some next)) :
    walk.measure graph depth ≤ next.measure graph depth + 1 := by
  have turn := turn_step graph order walk
  rw [taken] at turn
  cases turn with
  | @entered frame rest child isTop isChild =>
      obtain ⟨bound, isAt⟩ := List.getElem?_eq_some_iff.mp isChild
      have split : ahead graph depth frame = graph.unfolding .parentFirst depth child ++
          ahead graph depth { frame with next := frame.next + 1 } := by
        simp only [ahead, List.drop_eq_getElem_cons bound, List.flatMap_cons, isAt]
      have atChild := ahead_start graph depth child
      have deeper := graph.length_unfolding_le_succ .parentFirst depth child
      simp only [measure, isTop, stack_entered, List.flatMap_cons, List.length_append,
        List.length_cons, split]
      omega
  | left isTop noChild =>
      simp only [measure, isTop, stack_left, List.flatMap_cons, ahead_done noChild,
        List.nil_append, List.length_cons]
      omega

theorem measure_done {graph : Graph} {order : VisitOrder} (depth : Nat) (walk : Walk)
    (done : walk.step graph order = .ok none) : walk.measure graph depth = 0 := by
  have turn := turn_step graph order walk
  rw [done] at turn
  cases turn with
  | done isEmpty => simp [measure, isEmpty]

/-- A walk from above a cycle finishes in no number of turns. -/
theorem endless_of_onCycle {graph : Graph} {root handle : Handle} (onCycle : graph.OnCycle handle)
    (reached : graph.Reaches root handle) (order : VisitOrder) (turns : Nat) :
    (Loop.run (step graph order) turns (start order root)).2 ≠ none := by
  intro finished
  have short := Loop.measure_le_turns (measure graph turns) (measure_le_step turns)
    (measure_done turns) finished
  have long := onCycle.depth_le .parentFirst (turns + 1) reached
  have atRoot := ahead_start graph turns root
  simp only [measure, stack_start, List.flatMap_cons, List.flatMap_nil, List.append_nil,
    List.length_singleton] at short
  omega

theorem step_error {graph : Graph} {order : VisitOrder} {walk : Walk} {fault : Fault}
    (failed : walk.step graph order = .error fault) :
    ∃ frame ∈ walk.stack, graph.lookup frame.handle = .error fault := by
  have turn := turn_step graph order walk
  rw [failed] at turn
  cases turn with
  | @failed frame rest _ isTop missing => exact ⟨frame, by simp [isTop], missing⟩

end Walk

namespace TreeDump

def start (root : Handle) : TreeDump where
  pending := [⟨root, 0⟩]
  seen := []
  entries := []

def written (dump : TreeDump) (first : Pending) (rest : List Pending) (node : Node) : TreeDump where
  pending := node.children.map (fun child => ⟨child, first.depth + 1⟩) ++ rest
  seen := if dump.seen.contains first.handle then dump.seen else first.handle :: dump.seen
  entries := entry node first.depth (dump.seen.contains first.handle) :: dump.entries

inductive Turn (graph : Graph) (dump : TreeDump) : Except Fault (Option TreeDump) → Prop
  | done : dump.pending = [] → Turn graph dump (.ok none)
  | failed {first : Pending} {rest : List Pending} {fault : Fault} : dump.pending = first :: rest →
      graph.lookup first.handle = .error fault → Turn graph dump (.error fault)
  | written {first : Pending} {rest : List Pending} {node : Node} : dump.pending = first :: rest →
      graph.lookup first.handle = .ok node →
      Turn graph dump (.ok (some (dump.written first rest node)))

theorem turn_step (graph : Graph) (dump : TreeDump) : Turn graph dump (dump.step graph) := by
  unfold step
  split
  next isEmpty => exact .done isEmpty
  next first rest isFirst =>
    cases found : graph.lookup first.handle with
    | error fault => exact .failed isFirst found
    | ok node => exact .written isFirst found

theorem step_error {graph : Graph} {dump : TreeDump} {fault : Fault}
    (failed : dump.step graph = .error fault) :
    ∃ first ∈ dump.pending, graph.lookup first.handle = .error fault := by
  have turn := turn_step graph dump
  rw [failed] at turn
  cases turn with
  | @failed first rest _ isFirst missing => exact ⟨first, by simp [isFirst], missing⟩

def measure (graph : Graph) (depth : Nat) (dump : TreeDump) : Nat :=
  (dump.pending.flatMap (fun pending =>
    graph.unfolding .parentFirst depth pending.handle)).length

def Inside (graph : Graph) (root : Handle) (dump : TreeDump) : Prop :=
  ∀ pending ∈ dump.pending, graph.Reaches root pending.handle

theorem flatMap_children (children : List Handle) (depth : Nat) (below : Handle → List Handle) :
    (children.map (fun child => Pending.mk child depth)).flatMap
      (fun pending => below pending.handle) = children.flatMap below :=
  List.flatMap_map _ _ _

theorem inside_start (graph : Graph) (root : Handle) :
    (start root).Inside graph root := by
  intro pending member
  rw [List.mem_singleton.mp member]
  exact .refl root

theorem Inside.step {graph : Graph} {root : Handle} {dump next : TreeDump}
    (inside : dump.Inside graph root) (taken : dump.step graph = .ok (some next)) :
    next.Inside graph root := by
  have turn := turn_step graph dump
  rw [taken] at turn
  cases turn with
  | @written first rest node isFirst found =>
      have reached : graph.Reaches root first.handle := inside first (by simp [isFirst])
      intro other member
      rcases List.mem_append.mp member with new | later
      · obtain ⟨child, isChild, rfl⟩ := List.mem_map.mp new
        exact reached.trans (Graph.Edge.reaches ⟨node, found, isChild⟩)
      · exact inside other (by simp [isFirst, later])

theorem measure_step {graph : Graph} {root : Handle} {depth : Nat}
    (shallow : ∀ handle, graph.Reaches root handle → graph.Shallow depth handle)
    {dump next : TreeDump} (inside : dump.Inside graph root)
    (taken : dump.step graph = .ok (some next)) :
    next.measure graph depth < dump.measure graph depth := by
  have turn := turn_step graph dump
  rw [taken] at turn
  cases turn with
  | @written first rest node isFirst found =>
      have reached : graph.Reaches root first.handle := inside first (by simp [isFirst])
      have split := (shallow first.handle reached).unfolding_eq .parentFirst
      rw [Graph.successors_of_ok found, VisitOrder.place] at split
      simp only [measure, isFirst, written, List.flatMap_cons, List.flatMap_append,
        flatMap_children, split, List.length_append, List.length_cons]
      omega

theorem measure_le_step {graph : Graph} (depth : Nat) (dump next : TreeDump)
    (taken : dump.step graph = .ok (some next)) :
    dump.measure graph depth ≤ next.measure graph depth + 1 := by
  have turn := turn_step graph dump
  rw [taken] at turn
  cases turn with
  | @written first rest node isFirst found =>
      have deeper := graph.length_unfolding_le_succ .parentFirst depth first.handle
      rw [Graph.unfolding, VisitOrder.length_place, Graph.successors_of_ok found] at deeper
      simp only [measure, isFirst, written, List.flatMap_cons, List.flatMap_append,
        flatMap_children, List.length_append]
      omega

theorem measure_done {graph : Graph} (depth : Nat) (dump : TreeDump)
    (done : dump.step graph = .ok none) : dump.measure graph depth = 0 := by
  have turn := turn_step graph dump
  rw [done] at turn
  cases turn with
  | done isEmpty => simp [measure, isEmpty]

theorem endless_of_onCycle {graph : Graph} {root handle : Handle} (onCycle : graph.OnCycle handle)
    (reached : graph.Reaches root handle) (turns : Nat) :
    (Loop.run (step graph) turns (start root)).2 ≠ none := by
  intro finished
  have short := Loop.measure_le_turns (measure graph (turns + 1)) (measure_le_step (turns + 1))
    (measure_done (turns + 1)) finished
  have long := onCycle.depth_le .parentFirst (turns + 1) reached
  simp only [measure, start, List.flatMap_cons, List.flatMap_nil, List.append_nil] at short
  omega

end TreeDump

namespace Graph

theorem Closed.walk_faultless {graph : Graph} {root : Handle} (closed : graph.Closed)
    (accepted : graph.Accepts root) (order : VisitOrder) (turns : Nat) (fault : Fault) :
    (Loop.run (Walk.step graph order) turns (Walk.start order root)).2 ≠ some (.fault fault) := by
  apply Loop.run_faultless (P := Walk.Inside graph root)
  · exact fun walk next inside taken => inside.step taken
  · intro walk other inside failed
    obtain ⟨frame, onStack, refused⟩ := Walk.step_error failed
    exact closed.lookup_reached accepted (inside frame onStack) other refused
  · exact Walk.inside_start graph order root

theorem accept_ends {graph : Graph} {root : Handle} {P : Walk → Prop}
    (acyclic : graph.AcyclicFrom root) (order : VisitOrder) (initial : P (Walk.start order root))
    (kept : ∀ walk next, walk.Inside graph root → P walk →
      walk.step graph order = .ok (some next) → P next) :
    let outcome := Loop.run (Walk.step graph order) (2 * graph.visitBound + 1)
      (Walk.start order root)
    outcome.1.Inside graph root ∧ P outcome.1 ∧
      (outcome.1.step graph order = .ok none ∧ outcome.2 = none ∨
        ∃ fault, outcome.1.step graph order = .error fault ∧ outcome.2 = some (.fault fault)) := by
  have shallow := fun handle (reached : graph.Reaches root handle) => acyclic.shallow reached
  have enough : (Walk.start order root).measure graph (graph.size + 1) <
      2 * graph.visitBound + 1 := by
    have whole := (shallow root (.refl root)).unfolding_eq .parentFirst
    have bounded : (graph.unfolding .parentFirst (graph.size + 1) root).length ≤
        graph.visitBound :=
      graph.length_unfolding_le .parentFirst _ _
    rw [whole, VisitOrder.length_place] at bounded
    simp only [Walk.measure, Walk.stack_start, List.flatMap_cons, List.flatMap_nil, List.append_nil,
      Walk.ahead, List.drop_zero, List.length_singleton]
    omega
  have ended := Loop.run_ends (fun walk => walk.Inside graph root ∧ P walk)
    (Walk.measure graph (graph.size + 1))
    (fun walk next held taken => ⟨⟨held.1.step taken, kept walk next held.1 held.2 taken⟩,
      Walk.measure_step shallow held.1 taken⟩)
    ⟨Walk.inside_start graph order root, initial⟩ enough
  exact ⟨ended.1.1, ended.1.2, ended.2⟩

theorem accept_completes {graph : Graph} {root : Handle} (closed : graph.Closed)
    (acyclic : graph.AcyclicFrom root) (accepted : graph.Accepts root) (order : VisitOrder) :
    (graph.accept order root).interruption = none := by
  obtain ⟨inside, _, finished | failed⟩ :=
    accept_ends (P := fun _ => True) acyclic order trivial (fun _ _ _ _ _ => trivial)
  · obtain ⟨node, found⟩ := accepted
    simp only [accept, found]
    exact finished.2
  · obtain ⟨fault, _, isFault⟩ := failed
    exact (closed.walk_faultless accepted order _ fault isFault).elim

theorem dumpTree_eq {graph : Graph} {root : Handle} {node : Node}
    (found : graph.lookup root = .ok node) :
    graph.dumpTree root =
      match Loop.run (TreeDump.step graph) (graph.visitBound + 1) (TreeDump.start root) with
      | (dump, none) => .ok (Text.unlines (graph.treeHeader node ++ dump.entries.reverse))
      | (_, some interruption) => .error interruption := by
  simp only [dumpTree, found]
  rfl

theorem dumpTree_ends {graph : Graph} {root : Handle} {node : Node} {P : TreeDump → Prop}
    (acyclic : graph.AcyclicFrom root) (found : graph.lookup root = .ok node)
    (initial : P (TreeDump.start root))
    (kept : ∀ dump next, dump.Inside graph root → P dump → dump.step graph = .ok (some next) →
      P next) :
    ∃ dump, dump.Inside graph root ∧ P dump ∧
      (dump.step graph = .ok none ∧ graph.dumpTree root =
          .ok (Text.unlines (graph.treeHeader node ++ dump.entries.reverse)) ∨
        ∃ fault, dump.step graph = .error fault ∧
          graph.dumpTree root = .error (.fault fault)) := by
  have shallow := fun handle (reached : graph.Reaches root handle) => acyclic.shallow reached
  have enough : (TreeDump.start root).measure graph (graph.size + 1) < graph.visitBound + 1 := by
    have bounded : (graph.unfolding .parentFirst (graph.size + 1) root).length ≤
        graph.visitBound :=
      graph.length_unfolding_le .parentFirst _ _
    simp only [TreeDump.measure, TreeDump.start, List.flatMap_cons, List.flatMap_nil,
      List.append_nil]
    omega
  obtain ⟨⟨inside, holds⟩, ended⟩ := Loop.run_ends (fun dump => dump.Inside graph root ∧ P dump)
    (TreeDump.measure graph (graph.size + 1))
    (fun dump next held taken => ⟨⟨held.1.step taken, kept dump next held.1 held.2 taken⟩,
      TreeDump.measure_step shallow held.1 taken⟩)
    ⟨TreeDump.inside_start graph root, initial⟩ enough
  refine ⟨_, inside, holds, ?_⟩
  rw [dumpTree_eq found]
  split
  next dump run =>
    rw [run] at ended ⊢
    rcases ended with ⟨done, _⟩ | ⟨fault, _, interrupted⟩
    · exact .inl ⟨done, rfl⟩
    · cases interrupted
  next dump interruption run =>
    rw [run] at ended ⊢
    rcases ended with ⟨_, finished⟩ | ⟨fault, failed, interrupted⟩
    · cases finished
    · obtain rfl := Option.some.inj interrupted
      exact .inr ⟨fault, failed, rfl⟩

theorem dumpTree_completes {graph : Graph} {root : Handle} (closed : graph.Closed)
    (acyclic : graph.AcyclicFrom root) (accepted : graph.Accepts root) :
    ∃ text, graph.dumpTree root = .ok text := by
  obtain ⟨node, found⟩ := accepted
  obtain ⟨dump, inside, _, ⟨_, finished⟩ | ⟨fault, failed, _⟩⟩ :=
    dumpTree_ends (P := fun _ => True) acyclic found trivial (fun _ _ _ _ _ => trivial)
  · exact ⟨_, finished⟩
  · obtain ⟨pending, isPending, refused⟩ := TreeDump.step_error failed
    exact (closed.lookup_reached ⟨node, found⟩ (inside pending isPending) fault refused).elim

end Graph

end ExprGraph
