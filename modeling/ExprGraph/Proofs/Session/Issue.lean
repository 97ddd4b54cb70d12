import ExprGraph.Proofs.Graph.Growth
import ExprGraph.Proofs.Graph.Plan.Quiet
import ExprGraph.Proofs.Session.Evolution

/-!
The handles a step issues: those of its answer that the graph of the step accepts only since then.
A node is answered with the nodes it was built over, and a store node with its root, so that no node
is added whose handle is not issued.  Main statement: `issued_eq_added`.
-/

namespace ExprGraph

def Answer.handles : Answer → List Handle
  | .built made shown => shown.elim [] Node.children ++ [made]
  | .stored made _ root _ => [root, made]
  | _ => []

def Reply.handles (reply : Reply) : List Handle :=
  match reply.answer with
  | .ok answer => answer.handles
  | .error _ => []

/-- What a plan answers with names all nodes it adds, in the order they are added in. -/
def Plan.Issues (graph : Graph) (plan : Plan Handle) : Prop :=
  graph.recent (graph.applyAll plan.changes)
      (Answer.built plan.answer (Session.view (graph.applyAll plan.changes) plan.answer)).handles =
    graph.added (graph.applyAll plan.changes)

namespace Graph

variable {graph : Graph} {plan : Plan Handle}

theorem issues_of_size (size : (graph.applyAll plan.changes).size = graph.size) :
    plan.Issues graph := by
  rw [Plan.Issues, (graph.continues_applyAll plan.changes).recent_of_size size, added_of_size size]

theorem issues_of_last {between : Graph} {draft : Draft} (continues : graph.Continues between)
    (ends : graph.applyAll plan.changes = between.add draft) (answers : plan.answer = between.next)
    (operands : graph.recent (between.add draft) draft.children = graph.added between) :
    plan.Issues graph := by
  have shown : Session.view (between.add draft) between.next =
      some (draft.node between.numbering.next) := by
    rw [Session.view, next, lookup_add_new]
    rfl
  have isNew : ¬ graph.Accepts between.next :=
    fun accepted => not_accepts_next between (continues.accepts accepted)
  have grown : graph.added (between.add draft) =
      graph.added between ++ between.added (between.add draft) :=
    added_trans continues (between.continues_apply (.add .asked draft))
  rw [Plan.Issues, ends, answers, shown, Answer.handles, recent_append,
    recent_new isNew (accepts_add_new between draft), grown,
    added_of_size_succ (size_add between draft)]
  exact congrArg (· ++ [between.next]) operands

theorem issues_of_add (cause : Cause) {draft : Draft}
    (accepted : ∀ child ∈ draft.children, graph.Accepts child) :
    Plan.Issues graph ⟨graph.next, [.add cause draft]⟩ := by
  apply issues_of_last (.refl graph) rfl rfl
  rw [recent_eq_nil _ accepted, added_self]

theorem planAdd_issues {draft : Draft} (planned : graph.planAdd draft = .ok plan) :
    plan.Issues graph := by
  obtain ⟨accepted, rfl⟩ := planAdd_cases planned
  exact issues_of_add .asked accepted

theorem planLoaded_recent {between after : Graph} {operand : Handle} (node : Node)
    (continues : graph.Continues between) (known : graph.Accepts operand)
    (later : (between.applyAll (between.planLoaded operand node).changes).Continues after) :
    graph.recent after [(between.planLoaded operand node).answer] =
      between.added (between.applyAll (between.planLoaded operand node).changes) := by
  unfold planLoaded at later ⊢
  by_cases isPointer : node.opcode = .pointer
  · simp only [isPointer, if_true] at later ⊢
    have isNew : ¬ graph.Accepts between.next :=
      fun accepted => not_accepts_next between (continues.accepts accepted)
    rw [recent_new isNew (later.accepts (accepts_add_new between _))]
    exact (added_of_size_succ (size_add between _)).symm
  · simp only [isPointer, if_false]
    rw [recent_eq_nil after (by simpa using known), applyAll_nil, added_self]

theorem planUnary_issues {opcode : Opcode} {operand : Handle} {type : Node → DataType}
    (planned : graph.planUnary opcode operand type = .ok plan) : plan.Issues graph := by
  obtain ⟨node, found, returned⟩ := ok_of_bind planned
  obtain rfl := Except.ok.inj returned
  apply issues_of_last (graph.continues_applyAll _) (applyAll_append _ _ _) rfl
  exact planLoaded_recent node (.refl graph) ⟨node, found⟩ (continues_apply _ (.add .asked _))

theorem planBinary_issues {op : BinaryOp} {left right : Handle}
    (planned : graph.planBinary op left right = .ok plan) : plan.Issues graph := by
  obtain ⟨leftNode, foundLeft, afterLeft⟩ := ok_of_bind planned
  obtain ⟨rightNode, foundRight, afterRight⟩ := ok_of_bind afterLeft
  obtain ⟨_, _, returned⟩ := ok_of_bind afterRight
  obtain rfl := Except.ok.inj returned
  let between := graph.applyAll (graph.planLoaded left leftNode).changes
  have early : graph.Continues between := graph.continues_applyAll _
  have late := between.continues_applyAll (between.planLoaded right rightNode).changes
  have last := continues_apply (between.applyAll (between.planLoaded right rightNode).changes)
    (.add .asked {
      opcode := op.opcode
      dataType := rightNode.dataType
      children := [(graph.planLoaded left leftNode).answer,
        (between.planLoaded right rightNode).answer] })
  apply issues_of_last (early.trans late)
    ((applyAll_append _ _ _).trans (applyAll_append _ _ _)) rfl
  rw [added_trans early late]
  refine (recent_append _ _ [_] [_]).trans ?_
  congr 1
  · exact planLoaded_recent leftNode (.refl graph) ⟨leftNode, foundLeft⟩ (late.trans last)
  · exact planLoaded_recent rightNode early ⟨rightNode, foundRight⟩ last

theorem planCollector_recent {root : Handle} {after : Graph}
    (isRoot : root = .empty ∨ graph.opcode root = .ok .combine)
    (later : (graph.applyAll (graph.planCollector root).changes).Continues after) :
    graph.recent after [(graph.planCollector root).answer] =
      graph.added (graph.applyAll (graph.planCollector root).changes) := by
  cases root with
  | empty =>
      refine (recent_new graph.not_accepts_next (later.accepts ?_)).trans ?_
      · exact accepts_add_new graph (graph.draft .combine [])
      · exact (added_of_size_succ (size_add graph _)).symm
  | ref owner position =>
      have known : graph.Accepts (graph.planCollector (.ref owner position)).answer :=
        accepts_of_opcode (opcode_of_root isRoot)
      exact (recent_eq_nil after (by simpa using known)).trans (added_self graph).symm

theorem planStore_issues {root pointer value : Handle} {plan : Plan (Handle × Handle)}
    (planned : graph.planStore root pointer value = .ok plan) :
    graph.recent (graph.applyAll plan.changes) [plan.answer.1, plan.answer.2] =
      graph.added (graph.applyAll plan.changes) := by
  obtain ⟨_, checked, returned⟩ := ok_of_bind planned
  obtain rfl := Except.ok.inj returned
  obtain ⟨_, _, isRoot⟩ := (checkStore_eq_ok_iff _ _ _ _).mp checked
  let between := graph.applyAll (graph.planCollector root).changes
  let last : List Change := [.add .asked (between.draft .store [pointer, value]),
    .edit (graph.planCollector root).answer (.collect between.next)]
  have early : graph.Continues between := graph.continues_applyAll _
  have late := between.continues_applyAll last
  have isNew : ¬ graph.Accepts between.next :=
    fun accepted => not_accepts_next between (early.accepts accepted)
  have accepted : (between.applyAll last).Accepts between.next :=
    (accepts_add_new between _).applyAll [.edit _ _]
  have size : (between.applyAll last).size = between.size + 1 :=
    (size_edit _ _ _).trans (size_add between _)
  rw [applyAll_append, added_trans early late, added_of_size_succ size]
  refine (recent_append _ _ [_] [_]).trans ?_
  congr 1
  · exact planCollector_recent isRoot late
  · exact recent_new isNew accepted

end Graph

theorem Construction.plan_issues {construction : Construction Handle} {graph : Graph}
    {plan : Plan Handle} (planned : construction.plan graph = .ok plan) : plan.Issues graph := by
  cases construction with
  | create opcode children =>
      obtain ⟨accepted, rfl⟩ := Graph.planCreate_cases planned
      exact Graph.issues_of_add .asked accepted
  | binary op left right => exact Graph.planBinary_issues planned
  | loadIfPointer operand =>
      obtain ⟨node, found, returned⟩ := ok_of_bind planned
      obtain rfl := Except.ok.inj returned
      by_cases isPointer : node.opcode = .pointer
      · have accepted : ∀ child ∈ (graph.draft .load [operand]).children, graph.Accepts child := by
          simpa [Graph.draft] using ⟨node, found⟩
        simp only [Graph.planLoaded, isPointer, if_true]
        exact Graph.issues_of_add (.implied node.id) accepted
      · apply Graph.issues_of_size
        simp only [Graph.planLoaded, isPointer, if_false, Graph.applyAll_nil]
  | pointer address =>
      obtain ⟨_, _, added⟩ := ok_of_bind planned
      exact Graph.planAdd_issues added
  | pointerIndexed address displacement =>
      obtain ⟨_, _, added⟩ := ok_of_bind planned
      exact Graph.planAdd_issues added
  | floor operand => exact Graph.planUnary_issues planned
  | cast operand dataType => exact Graph.planUnary_issues planned
  | child parent position =>
      obtain ⟨handle, _, returned⟩ := ok_of_bind planned
      obtain rfl := Except.ok.inj returned
      exact Graph.issues_of_size rfl
  | setName handle name =>
      obtain ⟨node, chosen, _, _, rfl⟩ := Graph.planEdit_cases planned
      exact Graph.issues_of_size (Graph.size_edit graph handle chosen)
  | empty =>
      obtain rfl := Except.ok.inj planned
      exact Graph.issues_of_size rfl
  | _ => exact Graph.planAdd_issues planned

theorem Mutation.plan_size {mutation : Mutation Handle} {graph : Graph} {plan : Plan Unit}
    (planned : mutation.plan graph = .ok plan) :
    (graph.applyAll plan.changes).size = graph.size := by
  rcases plan_cases planned with ⟨_, restarted⟩ | ⟨handle, node, edit, _, _, edited⟩
  · rw [restarted]
    rfl
  · rw [edited]
    exact Graph.size_edit graph handle (edit node)

namespace Session

/-- The handles a step answers with that its graph accepts only since then. -/
def issued (session : Session) (step : Step) : List Handle :=
  match step.target? with
  | none => []
  | some target =>
    match session.graphs[target]?, (session.step step).1.graphs[target]? with
    | some graph, some after => graph.recent after (session.step step).2.handles
    | _, _ => []

variable {session : Session} {step : Step}

theorem not_isReplace_of_directed {target : Nat} (directed : step.target? = some target) :
    step.isReplace = false := by
  cases step with
  | replace index handle source replacement => cases directed
  | _ => rfl

theorem issued_eq_added {index : Nat} {graph : Graph} (directed : step.target? = some index)
    (found : session.graphs[index]? = some graph) :
    session.issued step = graph.added (graph.applyAll (session.changes index graph step)) := by
  simp only [issued, directed, found, step_graph_kept (not_isReplace_of_directed directed) found]
  apply changes_replied (P := fun changes =>
    graph.recent (graph.applyAll changes) (session.step step).2.handles =
      graph.added (graph.applyAll changes)) found directed
  · intro refusal _ refused
    rw [refused, Graph.applyAll_nil, Graph.added_self]
    rfl
  · intro construction name plan _ planned after done
    rw [done]
    exact Construction.plan_issues planned
  · intro root pointer value name plan _ planned after done
    rw [done]
    exact Graph.planStore_issues planned
  · intro mutation plan _ planned done
    rw [done, Graph.added_of_size (Mutation.plan_size planned)]
    rfl

theorem mem_issued_iff (handle : Handle) :
    handle ∈ session.issued step ↔
      ∃ target graph after, step.target? = some target ∧ session.graphs[target]? = some graph ∧
        (session.step step).1.graphs[target]? = some after ∧ graph.Continues after ∧
          ¬ graph.Accepts handle ∧ after.Accepts handle := by
  cases directed : step.target? with
  | none => simp [issued, directed]
  | some target =>
      cases found : session.graphs[target]? with
      | none => simp [issued, directed, found]
      | some graph =>
          have foundAfter := step_graph_kept (not_isReplace_of_directed directed) found
          have continues := graph.continues_applyAll (session.changes target graph step)
          rw [issued_eq_added directed found, continues.mem_added_iff]
          simp [found, foundAfter, continues]

theorem issued_of_new {index : Nat} {graph : Graph} {handle : Handle}
    (found : session.graphs[index]? = some graph) (directed : step.target? = some index)
    (isNew : ¬ graph.Accepts handle)
    (accepted : (graph.applyAll (session.changes index graph step)).Accepts handle) :
    handle ∈ session.issued step := by
  rw [issued_eq_added directed found, (graph.continues_applyAll _).mem_added_iff]
  exact ⟨isNew, accepted⟩

theorem nodup_issued (session : Session) (step : Step) : (session.issued step).Nodup := by
  cases directed : step.target? with
  | none => simp [issued, directed]
  | some target =>
      cases found : session.graphs[target]? with
      | none => simp [issued, directed, found]
      | some graph =>
          rw [issued_eq_added directed found]
          exact Graph.nodup_added _ _

end Session

end ExprGraph
