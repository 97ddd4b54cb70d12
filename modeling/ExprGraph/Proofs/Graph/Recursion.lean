import ExprGraph.Proofs.Graph.Traversal

/-!
Walks as recursion.  What a walk would visit if it called itself for one child after the other is a
list that can be defined without a stack (`unfolding`), and the stack of a walk holds what is
missing from it.  Main statements: `Walk.follows_step`, which says that no turn of a walk departs
from the list, and `accept_eq_of_known` and `accept_eq_of_unknown`, which say where the walk ends.
-/

namespace ExprGraph

namespace VisitOrder

def upTo (order : VisitOrder) (before : List Handle) (unknown : Handle) : List Handle :=
  match order with
  | .parentFirst => before ++ [unknown]
  | .childFirst => before

def entry (order : VisitOrder) (item : α) : List α :=
  match order with
  | .parentFirst => [item]
  | .childFirst => []

def exit (order : VisitOrder) (item : α) : List α :=
  match order with
  | .parentFirst => []
  | .childFirst => [item]

theorem place_eq (order : VisitOrder) (item : α) (below : List α) :
    order.place item below = order.entry item ++ (below ++ order.exit item) := by
  cases order with
  | parentFirst => simp [place, entry, exit]
  | childFirst => rfl

theorem upTo_append_exit (order : VisitOrder) (before : List Handle) (unknown : Handle) :
    order.upTo before unknown ++ order.exit unknown = before ++ [unknown] := by
  cases order with
  | parentFirst => exact List.append_nil _
  | childFirst => rfl

theorem mem_place_iff (order : VisitOrder) (item other : α) (below : List α) :
    other ∈ order.place item below ↔ other = item ∨ other ∈ below := by
  cases order with
  | parentFirst => exact List.mem_cons
  | childFirst => simp [place, or_comm]

theorem map_place (order : VisitOrder) (item : α) (below : List α) (change : α → β) :
    (order.place item below).map change = order.place (change item) (below.map change) := by
  cases order with
  | parentFirst => rfl
  | childFirst => simp [place]

theorem nodup_place_iff (order : VisitOrder) (item : α) (below : List α) :
    (order.place item below).Nodup ↔ item ∉ below ∧ below.Nodup := by
  cases order with
  | parentFirst => exact List.nodup_cons
  | childFirst =>
      simp only [place, List.nodup_append, List.mem_singleton]
      constructor
      · rintro ⟨distinct, _, apart⟩
        exact ⟨fun member => apart item member item rfl rfl, distinct⟩
      · rintro ⟨isNew, distinct⟩
        refine ⟨distinct, by simp, ?_⟩
        rintro other member _ rfl rfl
        exact isNew member

end VisitOrder

namespace Graph

variable {graph : Graph} {order : VisitOrder}

def follow (graph : Graph) : Handle → List Nat → Option Handle
  | handle, [] => some handle
  | handle, position :: rest =>
    match (graph.successors handle)[position]? with
    | some child => graph.follow child rest
    | none => none

def paths (graph : Graph) (order : VisitOrder) : Nat → Handle → List (List Nat)
  | 0, _ => []
  | depth + 1, handle =>
    order.place [] ((graph.successors handle).zipIdx.flatMap (fun (child, position) =>
      (graph.paths order depth child).map (position :: ·)))

theorem Shallow.mem_unfolding_iff {depth : Nat} {handle : Handle}
    (shallow : graph.Shallow depth handle) (order : VisitOrder) (other : Handle) :
    other ∈ graph.unfolding order depth handle ↔ graph.Reaches handle other := by
  induction depth generalizing handle with
  | zero => exact shallow.elim
  | succ depth ih =>
      rw [unfolding, VisitOrder.mem_place_iff, List.mem_flatMap]
      constructor
      · rintro (rfl | ⟨child, member, below⟩)
        · exact .refl other
        · exact .step ((edge_iff handle child).mpr member) ((ih (shallow child member)).mp below)
      · intro reached
        cases reached with
        | refl => exact .inl rfl
        | @step _ child _ edge rest =>
            have member := (edge_iff handle child).mp edge
            exact .inr ⟨child, member, (ih (shallow child member)).mpr rest⟩

theorem flatMap_zipIdx {children : List α} {below : α → List β} {listed : α × Nat → List β}
    (same : ∀ child position, children[position]? = some child →
      listed (child, position) = below child) :
    children.zipIdx.flatMap listed = children.flatMap below := by
  have each : ∀ entry ∈ children.zipIdx, listed entry = below entry.1 := by
    rintro ⟨child, position⟩ member
    exact same child position (List.mk_mem_zipIdx_iff_getElem?.mp member)
  rw [List.flatMap_def, List.map_congr_left each, ← List.flatMap_def, ← List.flatMap_map,
    List.zipIdx_map_fst]

theorem map_follow_paths (depth : Nat) (handle : Handle) :
    (graph.paths order depth handle).map (graph.follow handle) =
      (graph.unfolding order depth handle).map some := by
  induction depth generalizing handle with
  | zero => rfl
  | succ depth ih =>
      simp only [paths, unfolding, VisitOrder.map_place, List.map_flatMap]
      congr 1
      apply flatMap_zipIdx
      intro child position isChild
      rw [← ih child, List.map_map]
      apply List.map_congr_left
      intro path _
      simp only [Function.comp_apply, follow, isChild]

theorem Shallow.mem_paths_iff {depth : Nat} {handle : Handle}
    (shallow : graph.Shallow depth handle) (path : List Nat) :
    path ∈ graph.paths order depth handle ↔ (graph.follow handle path).isSome = true := by
  induction depth generalizing handle path with
  | zero => exact shallow.elim
  | succ depth ih =>
      rw [paths, VisitOrder.mem_place_iff, List.mem_flatMap]
      constructor
      · rintro (rfl | ⟨⟨child, position⟩, member, below⟩)
        · rfl
        · obtain ⟨rest, isPath, rfl⟩ := List.mem_map.mp below
          have isChild := List.mk_mem_zipIdx_iff_getElem?.mp member
          simp only [follow, isChild]
          exact (ih (shallow child (List.mem_of_getElem? isChild)) rest).mp isPath
      · intro leads
        cases path with
        | nil => exact .inl rfl
        | cons position rest =>
            cases isChild : (graph.successors handle)[position]? with
            | none =>
                simp only [follow, isChild] at leads
                cases leads
            | some child =>
                simp only [follow, isChild] at leads
                have isPath := (ih (shallow child (List.mem_of_getElem? isChild)) rest).mpr leads
                exact .inr ⟨(child, position), List.mk_mem_zipIdx_iff_getElem?.mpr isChild,
                  List.mem_map.mpr ⟨rest, isPath, rfl⟩⟩

theorem pairwise_zipIdx (children : List α) (first : Nat) :
    (children.zipIdx first).Pairwise (fun earlier later => earlier.2 < later.2) := by
  induction children generalizing first with
  | nil => exact .nil
  | cons child rest ih =>
      rw [List.zipIdx_cons, List.pairwise_cons]
      exact ⟨fun later member => List.le_snd_of_mem_zipIdx member, ih (first + 1)⟩

theorem nodup_paths (depth : Nat) (handle : Handle) : (graph.paths order depth handle).Nodup := by
  induction depth generalizing handle with
  | zero => exact List.nodup_nil
  | succ depth ih =>
      rw [paths, VisitOrder.nodup_place_iff]
      constructor
      · intro member
        obtain ⟨entry, _, below⟩ := List.mem_flatMap.mp member
        obtain ⟨rest, _, impossible⟩ := List.mem_map.mp below
        cases impossible
      · rw [List.Nodup, List.pairwise_flatMap]
        constructor
        · rintro ⟨child, position⟩ _
          rw [List.pairwise_map]
          exact (ih child).imp (fun apart same => apart (List.cons.inj same).2)
        · apply (pairwise_zipIdx _ 0).imp
          rintro ⟨first, position⟩ ⟨second, later⟩ before path isFirst other isSecond rfl
          obtain ⟨_, _, rfl⟩ := List.mem_map.mp isFirst
          obtain ⟨_, _, same⟩ := List.mem_map.mp isSecond
          have samePosition : later = position := (List.cons.inj same).1
          have below : position < later := before
          omega

theorem Shallow.count_unfolding {depth : Nat} {handle : Handle}
    (shallow : graph.Shallow depth handle) (target : Handle) :
    ∃ ways : List (List Nat), ways.Nodup ∧
      (∀ path, path ∈ ways ↔ graph.follow handle path = some target) ∧
      (graph.unfolding order depth handle).count target = ways.length := by
  refine ⟨(graph.paths order depth handle).filter
    (fun path => graph.follow handle path == some target), ?_, ?_, ?_⟩
  · exact (nodup_paths depth handle).filter _
  · intro path
    rw [List.mem_filter, shallow.mem_paths_iff, beq_iff_eq]
    constructor
    · exact And.right
    · intro leads
      exact ⟨by rw [leads]; rfl, leads⟩
  · calc (graph.unfolding order depth handle).count target
        = ((graph.unfolding order depth handle).map some).countP (· == some target) := by
          rw [List.countP_map]
          rfl
      _ = ((graph.paths order depth handle).map (graph.follow handle)).countP
            (· == some target) := by
          rw [map_follow_paths]
      _ = _ := by
          rw [List.countP_map, List.countP_eq_length_filter]
          rfl

end Graph

namespace Walk

variable {graph : Graph} {order : VisitOrder} {root : Handle} {depth : Nat} {walk : Walk}

/-- What a walk has not visited yet of all that is below one node on its stack. -/
def missing (graph : Graph) (order : VisitOrder) (depth : Nat) (frame : Frame) : List Handle :=
  ((graph.successors frame.handle).drop frame.next).flatMap (graph.unfolding order depth) ++
    order.exit frame.handle

@[simp] theorem visited_start (order : VisitOrder) (root : Handle) :
    (start order root).visited = order.entry root := by
  cases order <;> rfl

@[simp] theorem visited_entered (walk : Walk) (order : VisitOrder) (frame : Frame)
    (rest : List Frame) (child : Handle) :
    (walk.entered order frame rest child).visited = order.entry child ++ walk.visited := by
  cases order <;> rfl

@[simp] theorem visited_left (walk : Walk) (order : VisitOrder) (frame : Frame)
    (rest : List Frame) :
    (walk.left order frame rest).visited = order.exit frame.handle ++ walk.visited := by
  cases order <;> rfl

theorem accepts_top {frame : Frame} {rest : List Frame} {next : Walk}
    (isTop : walk.stack = frame :: rest) (taken : walk.step graph order = .ok (some next)) :
    graph.Accepts frame.handle := by
  cases found : graph.lookup frame.handle with
  | error fault =>
      simp only [step, isTop, found] at taken
      cases taken
  | ok node => exact ⟨node, found⟩

theorem missing_child {frame : Frame} {child : Handle} (shallow : graph.Shallow depth child)
    (isChild : (graph.successors frame.handle)[frame.next]? = some child) :
    missing graph order depth frame =
      order.entry child ++ (missing graph order depth ⟨child, 0⟩ ++
        missing graph order depth { frame with next := frame.next + 1 }) := by
  obtain ⟨bound, rfl⟩ := List.getElem?_eq_some_iff.mp isChild
  simp only [missing, List.drop_eq_getElem_cons bound, List.flatMap_cons, List.drop_zero]
  rw [shallow.unfolding_eq, VisitOrder.place_eq]
  simp only [List.append_assoc]

theorem missing_done {frame : Frame}
    (noChild : (graph.successors frame.handle)[frame.next]? = none) :
    missing graph order depth frame = order.exit frame.handle := by
  have beyond := List.getElem?_eq_none_iff.mp noChild
  simp only [missing, List.drop_eq_nil_of_le beyond, List.flatMap_nil, List.nil_append]

/-- What is visited and what is missing make up the recursive walk.  What is visited has been looked
up; when parents come first, all but the handle just put on the stack. -/
structure Follows (graph : Graph) (order : VisitOrder) (depth : Nat) (root : Handle)
    (walk : Walk) : Prop where
  whole : walk.visited.reverse ++ walk.stack.flatMap (missing graph order depth) =
    graph.unfolding order depth root
  stacked : order = .parentFirst → ∀ frame ∈ walk.stack, frame.handle ∈ walk.visited
  known : (∀ handle ∈ walk.visited, graph.Accepts handle) ∨
    order = .parentFirst ∧ ∃ frame rest before, walk.stack = frame :: rest ∧
      walk.visited = frame.handle :: before ∧ ∀ handle ∈ before, graph.Accepts handle

theorem Follows.accepts {frame : Frame} {rest : List Frame}
    (follows : walk.Follows graph order depth root) (isTop : walk.stack = frame :: rest)
    (accepted : graph.Accepts frame.handle) : ∀ handle ∈ walk.visited, graph.Accepts handle := by
  rcases follows.known with all | ⟨_, top, _, before, sameTop, visited, earlier⟩
  · exact all
  · obtain ⟨rfl, _⟩ := List.cons.inj (isTop.symm.trans sameTop)
    intro handle member
    rw [visited] at member
    rcases List.mem_cons.mp member with rfl | old
    · exact accepted
    · exact earlier handle old

theorem follows_start (order : VisitOrder) (shallow : graph.Shallow depth root) :
    (start order root).Follows graph order depth root := by
  constructor
  · rw [shallow.unfolding_eq, VisitOrder.place_eq, visited_start, stack_start]
    cases order <;> simp [missing, VisitOrder.entry]
  · rintro rfl frame member
    rw [stack_start] at member
    rw [List.mem_singleton.mp member]
    exact List.mem_cons_self
  · cases order with
    | parentFirst =>
        refine .inr ⟨rfl, ⟨root, 0⟩, [], [], rfl, rfl, ?_⟩
        intro handle member
        cases member
    | childFirst =>
        left
        intro handle member
        cases member

theorem follows_step {next : Walk} (inside : next.Inside graph root)
    (shallow : ∀ handle, graph.Reaches root handle → graph.Shallow depth handle)
    (follows : walk.Follows graph order depth root)
    (taken : walk.step graph order = .ok (some next)) :
    next.Follows graph order depth root := by
  have turn := turn_step graph order walk
  rw [taken] at turn
  cases turn with
  | @entered frame rest child isTop isChild =>
      have looked := follows.accepts isTop (accepts_top isTop taken)
      have reached : graph.Reaches root child := inside ⟨child, 0⟩ (by simp)
      constructor
      · rw [← follows.whole, isTop, stack_entered, visited_entered]
        simp only [List.flatMap_cons, missing_child (shallow child reached) isChild]
        cases order <;> simp [VisitOrder.entry]
      · rintro rfl other member
        rw [stack_entered] at member
        rw [visited_entered]
        rcases List.mem_cons.mp member with rfl | later
        · exact List.mem_cons_self
        · rcases List.mem_cons.mp later with rfl | below
          · exact List.mem_append_right _ (follows.stacked rfl frame (by simp [isTop]))
          · exact List.mem_append_right _ (follows.stacked rfl other (by simp [isTop, below]))
      · cases order with
        | parentFirst =>
            exact .inr ⟨rfl, ⟨child, 0⟩, _, walk.visited, stack_entered .., rfl, looked⟩
        | childFirst => exact .inl looked
  | @left frame rest isTop noChild =>
      have accepted := accepts_top isTop taken
      have looked := follows.accepts isTop accepted
      constructor
      · rw [← follows.whole, isTop, stack_left, visited_left]
        simp only [List.flatMap_cons, missing_done noChild]
        cases order <;> simp [VisitOrder.exit]
      · rintro rfl other member
        rw [stack_left] at member
        exact follows.stacked rfl other (by simp [isTop, member])
      · left
        rw [visited_left]
        intro handle member
        rcases List.mem_append.mp member with new | old
        · cases order with
          | parentFirst => cases new
          | childFirst =>
              rw [List.mem_singleton.mp new]
              exact accepted
        · exact looked handle old

theorem Follows.finished (follows : walk.Follows graph order depth root)
    (done : walk.step graph order = .ok none) :
    walk.visited.reverse = graph.unfolding order depth root ∧
      ∀ handle ∈ graph.unfolding order depth root, graph.Accepts handle := by
  have turn := turn_step graph order walk
  rw [done] at turn
  cases turn with
  | done isEmpty =>
      have whole := follows.whole
      rw [isEmpty, List.flatMap_nil, List.append_nil] at whole
      refine ⟨whole, ?_⟩
      rcases follows.known with all | ⟨_, top, _, _, isTop, _⟩
      · intro handle member
        rw [← whole] at member
        exact all handle (List.mem_reverse.mp member)
      · rw [isEmpty] at isTop
        cases isTop

theorem Follows.visited_upTo {frame : Frame} {rest : List Frame}
    (follows : walk.Follows graph order depth root) (isTop : walk.stack = frame :: rest)
    (unknown : ¬ graph.Accepts frame.handle) :
    ∃ before, walk.visited.reverse = order.upTo before frame.handle ∧
      ∀ handle ∈ before, graph.Accepts handle := by
  rcases follows.known with all | ⟨rfl, top, _, before, sameTop, visited, earlier⟩
  · cases order with
    | parentFirst =>
        exact (unknown (all _ (follows.stacked rfl frame (by simp [isTop])))).elim
    | childFirst =>
        exact ⟨_, rfl, fun handle member => all handle (List.mem_reverse.mp member)⟩
  · obtain ⟨rfl, _⟩ := List.cons.inj (isTop.symm.trans sameTop)
    refine ⟨before.reverse, ?_, fun handle member => earlier handle (List.mem_reverse.mp member)⟩
    rw [visited, List.reverse_cons]
    rfl

theorem Follows.interrupted {fault : Fault} (follows : walk.Follows graph order depth root)
    (failed : walk.step graph order = .error fault) :
    ∃ frame ∈ walk.stack, graph.lookup frame.handle = .error fault ∧ ∃ before after,
      graph.unfolding order depth root = before ++ frame.handle :: after ∧
        (∀ handle ∈ before, graph.Accepts handle) ∧
        walk.visited.reverse = order.upTo before frame.handle := by
  have turn := turn_step graph order walk
  rw [failed] at turn
  cases turn with
  | @failed frame rest _ isTop refused =>
      have unknown : ¬ graph.Accepts frame.handle := by
        rintro ⟨node, found⟩
        rw [found] at refused
        cases refused
      have noChildren : graph.successors frame.handle = [] := by
        simp only [Graph.successors, refused]
      obtain ⟨before, visited, earlier⟩ := follows.visited_upTo isTop unknown
      have whole := follows.whole
      rw [isTop, List.flatMap_cons, visited, missing, noChildren, List.drop_nil,
        List.flatMap_nil, List.nil_append, ← List.append_assoc, VisitOrder.upTo_append_exit,
        List.append_assoc] at whole
      exact ⟨frame, by simp [isTop], refused, before, _, whole.symm, earlier, visited⟩

end Walk

namespace Graph

variable {graph : Graph} {root : Handle} {order : VisitOrder}

theorem accept_cases (acyclic : graph.AcyclicFrom root) (accepted : graph.Accepts root) :
    (∀ handle ∈ graph.unfolding order (graph.size + 1) root, graph.Accepts handle) ∧
        graph.accept order root = ⟨graph.unfolding order (graph.size + 1) root, none⟩ ∨
      ∃ before first after fault,
        graph.unfolding order (graph.size + 1) root = before ++ first :: after ∧
          (∀ handle ∈ before, graph.Accepts handle) ∧ graph.lookup first = .error fault ∧
          graph.accept order root = ⟨order.upTo before first, some (.fault fault)⟩ := by
  have shallow := fun handle (reached : graph.Reaches root handle) => acyclic.shallow reached
  obtain ⟨node, found⟩ := accepted
  obtain ⟨_, follows, ⟨done, finished⟩ | ⟨fault, failed, interrupted⟩⟩ :=
    accept_ends (P := Walk.Follows graph order (graph.size + 1) root) acyclic order
      (Walk.follows_start order (shallow root (.refl root)))
      (fun walk next inside follows taken =>
        Walk.follows_step (inside.step taken) shallow follows taken)
  · obtain ⟨visited, known⟩ := follows.finished done
    refine .inl ⟨known, ?_⟩
    simp only [accept, found]
    rw [visited, finished]
  · obtain ⟨frame, _, refused, before, after, split, known, visited⟩ := follows.interrupted failed
    refine .inr ⟨before, frame.handle, after, fault, split, known, refused, ?_⟩
    simp only [accept, found]
    rw [visited, interrupted]

theorem accept_eq_of_known (acyclic : graph.AcyclicFrom root)
    (known : ∀ handle, graph.Reaches root handle → graph.Accepts handle) :
    graph.accept order root = ⟨graph.unfolding order (graph.size + 1) root, none⟩ := by
  rcases accept_cases acyclic (known root (.refl root)) with ⟨_, complete⟩ | ⟨before, first, after,
    fault, split, _, refused, _⟩
  · exact complete
  · have reached := ((acyclic.shallow (.refl root)).mem_unfolding_iff order first).mp
      (by rw [split]; simp)
    obtain ⟨node, found⟩ := known first reached
    rw [found] at refused
    cases refused

theorem accept_eq_of_unknown {unknown : Handle} (acyclic : graph.AcyclicFrom root)
    (accepted : graph.Accepts root) (reached : graph.Reaches root unknown)
    (notAccepted : ¬ graph.Accepts unknown) :
    ∃ before first after fault,
      graph.unfolding order (graph.size + 1) root = before ++ first :: after ∧
        (∀ handle ∈ before, graph.Accepts handle) ∧ graph.lookup first = .error fault ∧
        graph.accept order root = ⟨order.upTo before first, some (.fault fault)⟩ := by
  rcases accept_cases acyclic accepted with ⟨known, _⟩ | interrupted
  · have member := ((acyclic.shallow (.refl root)).mem_unfolding_iff order unknown).mpr reached
    exact (notAccepted (known unknown member)).elim
  · exact interrupted

end Graph

end ExprGraph
