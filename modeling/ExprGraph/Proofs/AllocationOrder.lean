import ExprGraph.Proofs.Acyclicity
import ExprGraph.Proofs.Graph.Layering
import ExprGraph.Proofs.Session.Lineage

/-!
The order of allocation.  In every graph of a session, whatever handles were passed to it, children
stand before their parents in the arena, but for the store nodes that a combine node has collected
since it was made.  Main statement: `nodes_ordered`.
-/

namespace ExprGraph

namespace Graph

variable {graph : Graph} {root pointer value collector store : Handle}
  {plan : Plan (Handle × Handle)}

theorem planCollector_cases (graph : Graph) (root : Handle) :
    root = (graph.planCollector root).answer ∨
      root = .empty ∧ ¬ graph.Accepts (graph.planCollector root).answer := by
  cases root with
  | empty => exact .inr ⟨rfl, graph.not_accepts_next⟩
  | ref owner position => exact .inl rfl

theorem planCollector_collects_nothing (graph : Graph) (root : Handle) :
    .edit collector (.collect store) ∉ (graph.planCollector root).changes := by
  cases root <;> simp [planCollector, Handle.isEmpty]

theorem planStore_collects (planned : graph.planStore root pointer value = .ok plan)
    (member : .edit collector (.collect store) ∈ plan.changes) :
    plan.answer = (collector, store) ∧
      (¬ graph.Accepts store ∧ (graph.applyAll plan.changes).Accepts store) ∧
      (root = collector ∨ root = .empty ∧ ¬ graph.Accepts collector ∧
        (graph.applyAll plan.changes).Accepts collector) := by
  obtain ⟨_, checked, returned⟩ := ok_of_bind planned
  obtain rfl := Except.ok.inj returned
  obtain ⟨_, _, isRoot⟩ := (checkStore_eq_ok_iff _ _ _ _).mp checked
  have isLast : collector = (graph.planCollector root).answer ∧
      store = (graph.applyAll (graph.planCollector root).changes).next := by
    simpa [planCollector_collects_nothing] using member
  obtain ⟨rfl, rfl⟩ := isLast
  refine ⟨rfl, ⟨?_, ?_⟩, ?_⟩
  · intro accepted
    exact not_accepts_next _ (accepted.applyAll _)
  · rw [applyAll_append, applyAll_cons]
    exact (accepts_add_new _ _).applyAll _
  · rcases graph.planCollector_cases root with given | ⟨isEmpty, isNew⟩
    · exact .inl given
    · have chosen := accepts_of_opcode (planCollector_valid isRoot).2
      refine .inr ⟨isEmpty, isNew, ?_⟩
      rw [applyAll_append]
      exact chosen.applyAll _

end Graph

namespace Session

structure Collects (session : Session) (call : Step) (target : Nat) (collector store : Handle) :
    Prop where
  answered : ∃ root pointer value name shown children,
    call = .store target root pointer value name ∧
      (session.step call).2.answer = .ok (.stored store shown collector children) ∧
      (session.resolve root = collector ∨
        session.resolve root = .empty ∧ collector ∈ session.issued call)
  issued : store ∈ session.issued call

/-- One of the steps is a store call that allocates the node and collects it under the collector, in
the graph at `index` or in one that it descends from. -/
def CollectedAmong (steps : List Step) (index : Nat) (collector store : Handle) : Prop :=
  ∃ before call after target, start.IssuedBy steps index store before call after target ∧
    (start.run before).Collects call target collector store

structure Ordered (steps : List Step) (index : Nat) (graph : Graph) : Prop where
  operands : ∀ (position : Nat) (node : Node), graph.nodes[position]? = some node →
    node.opcode ≠ .combine → ∀ child ∈ node.children,
      (∃ place < position, child = graph.handleAt place) ∧
        child.order (graph.handleAt position) = .lt
  collected : ∀ (position : Nat) (node : Node), graph.nodes[position]? = some node →
    node.opcode = .combine → ∀ child ∈ node.children,
      (∃ place < position, child = graph.handleAt place) ∨
        (∃ place > position, child = graph.handleAt place) ∧ graph.opcode child = .ok .store ∧
          CollectedAmong steps index (graph.handleAt position) child
  cycles : ∀ first rest, (first :: (rest ++ [first])).IsChain graph.Edge →
    ∃ handle ∈ first :: rest, graph.opcode handle = .ok .combine

theorem collects_of_change {session : Session} {step : Step} {index : Nat} {graph : Graph}
    {collector store : Handle} (found : session.graphs[index]? = some graph)
    (member : .edit collector (.collect store) ∈ session.changes index graph step) :
    session.Collects step index collector store := by
  by_cases isStore : ∃ root pointer value name, step = .store index root pointer value name
  · obtain ⟨root, pointer, value, name, rfl⟩ := isStore
    cases decided : graph.planStore (session.resolve root) (session.resolve pointer)
        (session.resolve value) with
    | error fault =>
        simp only [changes, Step.target?, if_true, decided, Plan.changesOf] at member
        cases member
    | ok plan =>
        have planned : session.changes index graph (.store index root pointer value name) =
            plan.changes := by
          simp only [changes, Step.target?, if_true, decided, Plan.changesOf]
        rw [planned] at member
        obtain ⟨isAnswer, ⟨isNew, accepted⟩, asked⟩ := Graph.planStore_collects decided member
        rw [← planned] at accepted asked
        have answered : (session.step (.store index root pointer value name)).2.answer = _ :=
          congrArg (·.2.answer) (step_store_done found decided)
        simp only [isAnswer] at answered
        refine ⟨⟨root, pointer, value, name, _, _, rfl, answered, ?_⟩,
          issued_of_new found rfl isNew accepted⟩
        rcases asked with given | ⟨isEmpty, notBefore, now⟩
        · exact .inl given
        · exact .inr ⟨isEmpty, issued_of_new found rfl notBefore now⟩
  · have noStore : ∀ root pointer value name, step ≠ .store index root pointer value name :=
      fun root pointer value name same => isStore ⟨root, pointer, value, name, same⟩
    exact (changes_collects graph noStore _ member trivial).elim

section

variable {steps : List Step} {step : Step} {index : Nat} {collector store : Handle}

theorem CollectedAmong.snoc {later : Nat} (among : CollectedAmong steps index collector store)
    (descends : (start.run steps).Descends [step] index later) :
    CollectedAmong (steps ++ [step]) later collector store := by
  obtain ⟨before, call, after, target, issued, collects⟩ := among
  exact ⟨before, call, after ++ [step], target, issued.snoc descends, collects⟩

theorem Collects.among (collects : (start.run steps).Collects step index collector store) :
    CollectedAmong (steps ++ [step]) index collector store := by
  obtain ⟨_, _, _, _, _, _, rfl, _⟩ := collects.answered
  exact ⟨steps, _, [], index, ⟨rfl, rfl, collects.issued, .here _ index⟩, collects⟩

end

theorem graphs_layered (steps : List Step) (noReplace : ∀ step ∈ steps, step.isReplace = false) :
    ∀ (index : Nat) (graph : Graph), (start.run steps).graphs[index]? = some graph →
      graph.Layered (CollectedAmong steps index) := by
  -- The last step is split off, so that what was collected before it stays on the way to it.
  induction steps using List.reverseRecOn with
  | nil =>
      intro index graph found
      exact graphs_start (P := fun graph => graph.Layered (CollectedAmong [] index))
        (Graph.layered_empty 0 {}) graph (Array.mem_of_getElem? found)
  | append_singleton steps step ih =>
      have notReplace : step.isReplace = false := noReplace step (by simp)
      have earlier := ih (fun other member => noReplace other (List.mem_append_left _ member))
      intro index graph found
      rw [run_append] at found
      rcases step_graph_cases notReplace found with ⟨old, isOld, rfl⟩ | ⟨rfl, new | copied⟩
      · have kept := (earlier index old isOld).mono
          (fun collector store among => among.snoc (.self _ [step] index))
        refine kept.applyAll (changes_valid _ index old step) ?_
        intro collector store member
        exact (collects_of_change isOld member).among
      · obtain ⟨options, _, rfl⟩ := new
        exact Graph.layered_empty _ options
      · obtain ⟨source, rfl, isSource⟩ := copied
        obtain ⟨bound, _⟩ := Array.getElem?_eq_some_iff.mp isSource
        exact (earlier source graph isSource).mono
          (fun collector store among => among.snoc (.copied bound (.here _ _)))

/-- Nodes are allocated after their children, except that a combine node comes before the stores it
collects; so every cycle goes through a combine node. -/
theorem nodes_ordered (steps : List Step) (noReplace : ∀ step ∈ steps, step.isReplace = false)
    (index : Nat) (graph : Graph) (found : (start.run steps).graphs[index]? = some graph) :
    Ordered steps index graph := by
  have layered := graphs_layered steps noReplace index graph found
  have known : ∀ (position : Nat) (node : Node), graph.nodes[position]? = some node →
      graph.lookup (graph.handleAt position) = .ok node :=
    fun position node stored => (Graph.lookup_eq_ok_iff _ _ _).mpr ⟨position, rfl, stored⟩
  refine ⟨?_, ?_, fun first rest cycle => layered.cycle_has_combine cycle⟩
  · intro position node stored notCombine child member
    have isNode := known position node stored
    have older : child.Older (graph.handleAt position) := by
      refine (layered _ child ⟨node, isNode, member⟩).resolve_right ?_
      rintro ⟨isCombine, _⟩
      rw [Graph.opcode_of_lookup isNode] at isCombine
      exact notCombine (Except.ok.inj isCombine)
    exact ⟨(graph.older_handleAt_iff child position).mp older, older.order⟩
  · intro position node stored _ child member
    rcases layered _ child ⟨node, known position node stored, member⟩ with
      older | ⟨_, isStore, newer, among⟩
    · exact .inl ((graph.older_handleAt_iff child position).mp older)
    · exact .inr ⟨(graph.handleAt_older_iff child position).mp newer, isStore, among⟩

def growingCopy : List Step :=
  [.construct 0 (.addr ⟨"x", .float32, 0⟩) (some "a"),
    .construct 0 (.pointer (some "a")) (some "p"),
    .construct 0 (.index 7) (some "v"),
    .store 0 "root" (some "p") (some "v") none,
    .cloneGraph 0,
    .construct 0 (.load (some "p")) none,
    .construct 0 (.load (some "p")) (some "far"),
    .store 1 "root" (some "p") (some "root") (some "back"),
    .construct 1 (.load (some "far")) none,
    .construct 1 (.cast (some "back") .int32) none,
    .construct 1 (.create .combine [some "far", some "back"]) none]

theorem growingCopy_ordered :
    (∀ step ∈ growingCopy, step.isReplace = false) ∧
      ∃ graph, (start.run growingCopy).graphs[1]? = some graph ∧
        (view graph (.ref 0 3)).map Node.children = some [.ref 0 4, .ref 0 5] ∧
        (view graph (.ref 0 7)).map Node.children = some [.ref 0 6, .ref 0 5] ∧
        [.ref 0 3, .ref 0 5, .ref 0 3].IsChain graph.Edge ∧ Ordered growingCopy 1 graph := by
  refine ⟨by decide, _, rfl, rfl, rfl, ?_, nodes_ordered growingCopy (by decide) 1 _ rfl⟩
  exact .cons_cons ⟨_, rfl, by decide⟩ (.cons_cons ⟨_, rfl, by decide⟩ (.singleton _))

end Session

end ExprGraph
