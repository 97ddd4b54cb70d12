import ExprGraph.Graph.Reachability
import ExprGraph.Graph.Walk

/-!
Unfolding: the handles below a handle, once for each path, cut off at a depth.  From a root without
cycles no path is longer than the graph, so the cut takes nothing away (`AcyclicFrom.shallow`) and
the unfolding is no longer than the bound the traversals are run with (`length_unfolding_le`).
-/

namespace ExprGraph

namespace VisitOrder

def place (order : VisitOrder) (item : α) (below : List α) : List α :=
  match order with
  | .parentFirst => item :: below
  | .childFirst => below ++ [item]

@[simp] theorem length_place (order : VisitOrder) (item : α) (below : List α) :
    (order.place item below).length = below.length + 1 := by
  cases order <;> simp [place]

end VisitOrder

namespace Graph

variable {graph : Graph}

def successors (graph : Graph) (handle : Handle) : List Handle :=
  match graph.lookup handle with
  | .ok node => node.children
  | .error _ => []

/-- Every path from the handle has at most this many handles. -/
def Shallow (graph : Graph) : Nat → Handle → Prop
  | 0, _ => False
  | depth + 1, handle => ∀ child ∈ graph.successors handle, graph.Shallow depth child

/-- The visits of a walk that calls itself for each child, cut off at a depth.  A handle the graph
does not know has nothing below it. -/
def unfolding (graph : Graph) (order : VisitOrder) : Nat → Handle → List Handle
  | 0, _ => []
  | depth + 1, handle =>
    order.place handle ((graph.successors handle).flatMap (graph.unfolding order depth))

theorem successors_of_ok {handle : Handle} {node : Node} (found : graph.lookup handle = .ok node) :
    graph.successors handle = node.children := by
  simp only [successors, found]

theorem edge_iff (parent child : Handle) :
    graph.Edge parent child ↔ child ∈ graph.successors parent := by
  unfold Edge successors
  cases found : graph.lookup parent with
  | error fault => simp
  | ok node => simp

theorem unfolding_succ {order : VisitOrder} {depth : Nat} {handle : Handle}
    (shallow : graph.Shallow depth handle) :
    graph.unfolding order (depth + 1) handle = graph.unfolding order depth handle := by
  induction depth generalizing handle with
  | zero => exact shallow.elim
  | succ depth ih =>
      have same : ∀ child ∈ graph.successors handle,
          graph.unfolding order (depth + 1) child = graph.unfolding order depth child := by
        intro child member
        exact ih (shallow child member)
      rw [unfolding, List.flatMap_def, List.map_congr_left same, ← List.flatMap_def]
      rfl

theorem Shallow.unfolding_eq {depth : Nat} {handle : Handle}
    (shallow : graph.Shallow depth handle) (order : VisitOrder) :
    graph.unfolding order depth handle =
      order.place handle ((graph.successors handle).flatMap (graph.unfolding order depth)) :=
  (unfolding_succ shallow).symm

theorem AcyclicFrom.shallow_of_path {root : Handle} (acyclic : graph.AcyclicFrom root)
    {depth : Nat} {path : List Handle} {handle : Handle} (reached : graph.Reaches root handle)
    (distinct : path.Nodup)
    (above : ∀ ancestor ∈ path, ∃ child, graph.Edge ancestor child ∧ graph.Reaches child handle)
    (long : path.length + depth = graph.size + 1) : graph.Shallow depth handle := by
  induction depth generalizing path handle with
  | zero =>
      have inside : path ⊆ (List.range graph.size).map graph.handleAt := by
        intro ancestor member
        obtain ⟨child, edge, _⟩ := above ancestor member
        obtain ⟨position, bound, rfl⟩ := (accepts_iff _ _).mp edge.accepts_parent
        exact List.mem_map.mpr ⟨position, List.mem_range.mpr bound, rfl⟩
      have short := distinct.length_le_of_subset inside
      rw [List.length_map, List.length_range] at short
      omega
  | succ depth ih =>
      intro child member
      have edge := (edge_iff handle child).mpr member
      have isNew : handle ∉ path := by
        intro repeated
        obtain ⟨next, first, back⟩ := above handle repeated
        exact acyclic handle next reached first back
      refine ih (reached.trans edge.reaches) (List.nodup_cons.mpr ⟨isNew, distinct⟩) ?_ ?_
      · intro ancestor isAncestor
        rcases List.mem_cons.mp isAncestor with rfl | earlier
        · exact ⟨child, edge, .refl child⟩
        · obtain ⟨next, first, rest⟩ := above ancestor earlier
          exact ⟨next, first, rest.trans edge.reaches⟩
      · rw [List.length_cons]
        omega

theorem AcyclicFrom.shallow {root handle : Handle} (acyclic : graph.AcyclicFrom root)
    (reached : graph.Reaches root handle) : graph.Shallow (graph.size + 1) handle := by
  apply acyclic.shallow_of_path reached List.nodup_nil
  · intro ancestor member
    cases member
  · exact Nat.zero_add _

theorem le_foldl_max (nodes : List Node) (start : Nat) :
    start ≤ nodes.foldl (fun most node => Nat.max most node.children.length) start ∧
      ∀ node ∈ nodes, node.children.length ≤
        nodes.foldl (fun most node => Nat.max most node.children.length) start := by
  induction nodes generalizing start with
  | nil => simp
  | cons first rest ih =>
      obtain ⟨fromStart, fromRest⟩ := ih (Nat.max start first.children.length)
      have startBelow := Nat.le_max_left start first.children.length
      have firstBelow := Nat.le_max_right start first.children.length
      refine ⟨Nat.le_trans startBelow fromStart, ?_⟩
      intro node member
      rcases List.mem_cons.mp member with rfl | later
      · exact Nat.le_trans firstBelow fromStart
      · exact fromRest node later

theorem length_successors_le (graph : Graph) (handle : Handle) :
    (graph.successors handle).length ≤ graph.width := by
  unfold successors
  cases found : graph.lookup handle with
  | error fault => simp
  | ok node =>
      obtain ⟨position, _, isNode⟩ := (lookup_eq_ok_iff _ _ _).mp found
      have member : node ∈ graph.nodes.toList := by
        simpa using Array.mem_of_getElem? isNode
      rw [width, ← Array.foldl_toList]
      exact (le_foldl_max graph.nodes.toList 0).2 node member

theorem length_flatMap_le (handles : List Handle) (below : Handle → List Handle) (bound : Nat)
    (each : ∀ handle ∈ handles, (below handle).length ≤ bound) :
    (handles.flatMap below).length ≤ handles.length * bound := by
  induction handles with
  | nil => simp
  | cons first rest ih =>
      have atFirst := each first List.mem_cons_self
      have atRest := ih (fun handle member => each handle (List.mem_cons_of_mem _ member))
      rw [List.flatMap_cons, List.length_append, List.length_cons, Nat.succ_mul]
      omega

theorem length_unfolding_le (graph : Graph) (order : VisitOrder) (depth : Nat) (handle : Handle) :
    (graph.unfolding order depth handle).length ≤ Nat.pow (graph.width + 1) depth := by
  induction depth generalizing handle with
  | zero => exact Nat.zero_le _
  | succ depth ih =>
      have below := length_flatMap_le (graph.successors handle) (graph.unfolding order depth) _
        (fun child _ => ih child)
      have narrow := Nat.mul_le_mul_right (Nat.pow (graph.width + 1) depth)
        (graph.length_successors_le handle)
      have positive : 0 < Nat.pow (graph.width + 1) depth := Nat.pow_pos (Nat.succ_pos _)
      have grown : Nat.pow (graph.width + 1) (depth + 1) =
          graph.width * Nat.pow (graph.width + 1) depth + Nat.pow (graph.width + 1) depth :=
        (Nat.mul_comm _ _).trans (Nat.succ_mul _ _)
      rw [unfolding, VisitOrder.length_place, grown]
      omega

theorem length_unfolding_le_succ (graph : Graph) (order : VisitOrder) (depth : Nat)
    (handle : Handle) :
    (graph.unfolding order depth handle).length ≤
      (graph.unfolding order (depth + 1) handle).length := by
  induction depth generalizing handle with
  | zero => exact Nat.zero_le _
  | succ depth ih =>
      have below : ∀ handles : List Handle,
          (handles.flatMap (graph.unfolding order depth)).length ≤
            (handles.flatMap (graph.unfolding order (depth + 1))).length := by
        intro handles
        induction handles with
        | nil => exact Nat.le_refl _
        | cons first rest restBelow =>
            have atFirst := ih first
            simp only [List.flatMap_cons, List.length_append]
            omega
      have atSuccessors := below (graph.successors handle)
      rw [unfolding, unfolding, VisitOrder.length_place, VisitOrder.length_place]
      omega

def OnCycle (graph : Graph) (handle : Handle) : Prop :=
  ∃ child, graph.Edge handle child ∧ graph.Reaches child handle

theorem OnCycle.depth_le {handle : Handle} (onCycle : graph.OnCycle handle) (order : VisitOrder)
    (depth : Nat) {root : Handle} (reached : graph.Reaches root handle) :
    depth ≤ (graph.unfolding order depth root).length := by
  induction depth generalizing root with
  | zero => exact Nat.zero_le _
  | succ depth ih =>
      have onward : ∃ child, graph.Edge root child ∧ graph.Reaches child handle := by
        cases reached with
        | refl => exact onCycle
        | step edge rest => exact ⟨_, edge, rest⟩
      obtain ⟨child, edge, rest⟩ := onward
      obtain ⟨before, after, split⟩ := List.append_of_mem ((edge_iff root child).mp edge)
      have deep := ih rest
      rw [unfolding, VisitOrder.length_place, split, List.flatMap_append, List.flatMap_cons,
        List.length_append, List.length_append]
      omega

end Graph

end ExprGraph
