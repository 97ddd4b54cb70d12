import ExprGraph.Proofs.Graph.Plan

/-!
Plans are valid: whatever a request makes of a graph, each of its changes is valid in the graph the
changes before it lead to.  Main statements: `Construction.plan_valid`, `Mutation.plan_valid` and
`planStore_valid`.
-/

namespace ExprGraph

theorem checkOperands_cases {graph : Graph} {opcode : Opcode} {children : List Handle}
    (checked : Build.checkOperands opcode children graph = .ok ()) :
    Build.immediateBuilder? opcode = none ∧
      ∀ expected first rest, Build.firstOperand? opcode = some expected →
        children = first :: rest → graph.opcode first = .ok expected := by
  unfold Build.checkOperands at checked
  cases builder : Build.immediateBuilder? opcode with
  | some name =>
      rw [builder] at checked
      cases checked
  | none =>
      refine ⟨rfl, ?_⟩
      rintro expected first rest starts rfl
      simp only [builder, starts] at checked
      exact (Graph.expectOpcode_eq_ok_iff graph first expected).mp checked

theorem Draft.shaped_of_checked {graph : Graph} {opcode : Opcode} {children : List Handle}
    (type : DataType) (id : UInt32) (arity : opcode.arity.accepts children.length = true)
    (checked : Build.checkOperands opcode children graph = .ok ()) :
    (Draft.node { opcode := opcode, dataType := type, children := children } id).Shaped graph := by
  obtain ⟨noBuilder, starts⟩ := checkOperands_cases checked
  have startsAt : ∀ expected, Build.firstOperand? opcode = some expected → children ≠ [] →
      graph.StartsAt children expected := by
    intro expected needed notEmpty
    obtain ⟨first, rest, split⟩ := List.exists_cons_of_ne_nil notEmpty
    exact ⟨first, rest, split, starts expected first rest needed split⟩
  apply Node.Shaped.of_plain arity
  · rintro rfl
    refine startsAt .pointer rfl ?_
    rintro rfl
    cases arity
  · rintro rfl
    refine startsAt .addr rfl ?_
    rintro rfl
    cases arity
  · rfl
  · rfl
  · refine ⟨?_, ?_, ?_⟩
    all_goals
      rintro rfl
      cases noBuilder

namespace Graph

theorem planAdd_valid {graph : Graph} {draft : Draft} {plan : Plan Handle}
    (planned : graph.planAdd draft = .ok plan) (shaped : (draft.node 0).Shaped graph) :
    graph.ValidAll plan.changes := by
  obtain ⟨accepted, rfl⟩ := planAdd_cases planned
  exact ⟨⟨accepted, shaped⟩, trivial⟩

theorem planLoaded_valid {graph : Graph} {operand : Handle} {node : Node}
    (found : graph.lookup operand = .ok node) :
    graph.ValidAll (graph.planLoaded operand node).changes := by
  unfold planLoaded
  by_cases isPointer : node.opcode = .pointer
  · simp only [isPointer, if_true]
    refine ⟨⟨?_, Draft.shaped_of_checked _ _ rfl rfl⟩, trivial⟩
    intro child member
    rw [List.mem_singleton.mp member]
    exact ⟨node, found⟩
  · simp only [isPointer, if_false]
    exact trivial

theorem planCreate_valid {graph : Graph} {opcode : Opcode} {children : List Handle}
    {plan : Plan Handle} (planned : graph.planCreate opcode children = .ok plan) :
    graph.ValidAll plan.changes := by
  obtain ⟨_, arity, afterArity⟩ := ok_of_bind planned
  obtain ⟨_, checked, added⟩ := ok_of_bind afterArity
  exact planAdd_valid added
    (Draft.shaped_of_checked _ _ ((require_eq_ok_iff _ _).mp arity) checked)

theorem planUnary_valid {graph : Graph} {opcode : Opcode} {operand : Handle}
    {type : Node → DataType} {plan : Plan Handle} (arity : opcode.arity.accepts 1 = true)
    (checked : ∀ graph operand, Build.checkOperands opcode [operand] graph = .ok ())
    (planned : graph.planUnary opcode operand type = .ok plan) :
    graph.ValidAll plan.changes := by
  obtain ⟨node, found, returned⟩ := ok_of_bind planned
  obtain rfl := Except.ok.inj returned
  refine (validAll_append _ _ _).mpr ⟨planLoaded_valid found, ⟨?_, ?_⟩, trivial⟩
  · intro child member
    rw [List.mem_singleton.mp member]
    exact planLoaded_accepted found
  · exact Draft.shaped_of_checked _ _ arity (checked _ _)

theorem planBinary_valid {graph : Graph} {op : BinaryOp} {left right : Handle}
    {plan : Plan Handle} (planned : graph.planBinary op left right = .ok plan) :
    graph.ValidAll plan.changes := by
  obtain ⟨leftNode, foundLeft, afterLeft⟩ := ok_of_bind planned
  obtain ⟨rightNode, foundRight, afterRight⟩ := ok_of_bind afterLeft
  obtain ⟨_, _, returned⟩ := ok_of_bind afterRight
  obtain rfl := Except.ok.inj returned
  have keptRight := planLoaded_keeps left leftNode foundRight
  refine (validAll_append _ _ _).mpr ⟨planLoaded_valid foundLeft, ?_⟩
  refine (validAll_append _ _ _).mpr ⟨planLoaded_valid keptRight, ⟨?_, ?_⟩, trivial⟩
  · have leftAccepted := (planLoaded_accepted foundLeft).applyAll
      ((graph.applyAll (graph.planLoaded left leftNode).changes).planLoaded right
        rightNode).changes
    have rightAccepted := planLoaded_accepted keptRight
    simpa using ⟨leftAccepted, rightAccepted⟩
  · exact Draft.shaped_of_checked _ _ (by cases op <;> rfl) (by cases op <;> rfl)

theorem planPointer_valid {graph : Graph} {address : Handle} (rest : List Handle)
    {plan : Plan Handle} (few : rest.length ≤ 1)
    (planned : graph.planPointer address rest = .ok plan) : graph.ValidAll plan.changes := by
  obtain ⟨_, isAddr, added⟩ := ok_of_bind planned
  refine planAdd_valid added (Draft.shaped_of_checked _ _ ?_ isAddr)
  simpa [Opcode.arity, Arity.accepts] using few

theorem planCollector_valid {graph : Graph} {root : Handle}
    (isRoot : root = .empty ∨ graph.opcode root = .ok .combine) :
    graph.ValidAll (graph.planCollector root).changes ∧
      (graph.applyAll (graph.planCollector root).changes).opcode
        (graph.planCollector root).answer = .ok .combine := by
  cases root with
  | empty =>
      constructor
      · refine ⟨⟨?_, Draft.shaped_of_checked _ _ rfl rfl⟩, trivial⟩
        intro child member
        cases member
      · exact (opcode_eq_ok_iff _ _ _).mpr ⟨_, lookup_add_new graph _, rfl⟩
  | ref owner position => exact ⟨trivial, opcode_of_root isRoot⟩

theorem planStore_valid {graph : Graph} {root pointer value : Handle}
    {plan : Plan (Handle × Handle)} (planned : graph.planStore root pointer value = .ok plan) :
    graph.ValidAll plan.changes := by
  obtain ⟨_, checked, returned⟩ := ok_of_bind planned
  obtain rfl := Except.ok.inj returned
  obtain ⟨isPointer, valueAccepted, isRoot⟩ := (checkStore_eq_ok_iff _ _ _ _).mp checked
  obtain ⟨chosenValid, isCombine⟩ := planCollector_valid isRoot
  refine (validAll_append _ _ _).mpr ⟨chosenValid, ⟨?_, ?_⟩, ?_, trivial⟩
  · have pointerAccepted := accepts_of_opcode isPointer
    have bothAccepted := And.intro
      (pointerAccepted.applyAll (graph.planCollector root).changes)
      (valueAccepted.applyAll (graph.planCollector root).changes)
    simpa [draft] using bothAccepted
  · apply Draft.shaped_of_checked _ _ rfl
    exact (expectOpcode_eq_ok_iff _ _ _).mpr (opcode_applyAll_of_ok _ isPointer)
  · obtain ⟨node, found, nodeIsCombine⟩ := (opcode_eq_ok_iff _ _ _).mp isCombine
    refine ⟨node, lookup_add_of_ok _ found, nodeIsCombine, ?_⟩
    exact (opcode_eq_ok_iff _ _ _).mpr ⟨_, lookup_add_new _ _, rfl⟩

theorem planEdit_valid {graph : Graph} {handle : Handle} {answer : α}
    {edit : Node → Except Fault Edit} {plan : Plan α}
    (planned : graph.planEdit handle answer edit = .ok plan)
    (fits : ∀ node chosen, edit node = .ok chosen → chosen.Fits graph node) :
    graph.ValidAll plan.changes := by
  obtain ⟨node, found, afterRead⟩ := ok_of_bind planned
  obtain ⟨chosen, decided, returned⟩ := ok_of_bind afterRead
  obtain rfl := Except.ok.inj returned
  exact ⟨⟨node, found, fits node chosen decided⟩, trivial⟩

end Graph

theorem Construction.plan_valid {construction : Construction Handle} {graph : Graph}
    {plan : Plan Handle} (planned : construction.plan graph = .ok plan) :
    graph.ValidAll plan.changes := by
  cases construction with
  | create opcode children => exact Graph.planCreate_valid planned
  | binary op left right => exact Graph.planBinary_valid planned
  | load operand => exact Graph.planAdd_valid planned (Draft.shaped_of_checked _ _ rfl rfl)
  | loadIfPointer operand =>
      obtain ⟨node, found, returned⟩ := ok_of_bind planned
      obtain rfl := Except.ok.inj returned
      exact Graph.planLoaded_valid found
  | select mask whenTrue whenFalse =>
      exact Graph.planAdd_valid planned (Draft.shaped_of_checked _ _ rfl rfl)
  | compare kind left right =>
      apply Graph.planAdd_valid planned
      constructor <;> simp [Draft.node, Graph.draft, Opcode.arity, Arity.accepts]
  | index value =>
      apply Graph.planAdd_valid planned
      constructor <;> simp [Draft.node, Opcode.arity, Arity.accepts]
  | constant scalar =>
      apply Graph.planAdd_valid planned
      cases scalar <;> constructor <;>
        simp [Draft.node, Opcode.arity, Arity.accepts, Constant.immediate]
  | placeholder => exact Graph.planAdd_valid planned (Draft.shaped_of_checked _ _ rfl rfl)
  | addr address =>
      apply Graph.planAdd_valid planned
      constructor <;> simp [Draft.node, Graph.draft, Opcode.arity, Arity.accepts]
  | pointer address => exact Graph.planPointer_valid [] (Nat.zero_le 1) planned
  | pointerIndexed address displacement =>
      exact Graph.planPointer_valid [displacement] (Nat.le_refl 1) planned
  | floor operand => exact Graph.planUnary_valid rfl (fun _ _ => rfl) planned
  | cast operand dataType => exact Graph.planUnary_valid rfl (fun _ _ => rfl) planned
  | child parent position =>
      obtain ⟨handle, _, returned⟩ := ok_of_bind planned
      obtain rfl := Except.ok.inj returned
      exact trivial
  | setName handle name =>
      apply Graph.planEdit_valid planned
      rintro node chosen ⟨rfl⟩
      exact trivial
  | empty =>
      obtain rfl := Except.ok.inj planned
      exact trivial

theorem Mutation.plan_valid {mutation : Mutation Handle} {graph : Graph} {plan : Plan Unit}
    (planned : mutation.plan graph = .ok plan) : graph.ValidAll plan.changes := by
  cases mutation with
  | setMembers group members =>
      obtain ⟨_, checked, edited⟩ := ok_of_bind planned
      apply Graph.planEdit_valid edited
      rintro node chosen ⟨rfl⟩ member isMember
      exact .inr ((Graph.checkAll_eq_ok_iff graph members).mp checked member isMember)
  | pushMember group member =>
      obtain ⟨memberNode, found, edited⟩ := ok_of_bind planned
      apply Graph.planEdit_valid edited
      rintro node chosen ⟨rfl⟩ other isMember
      rcases List.mem_append.mp isMember with old | new
      · exact .inl old
      · rw [List.mem_singleton.mp new]
        exact .inr ⟨memberNode, found⟩
  | bindAddress handle address =>
      apply Graph.planEdit_valid planned
      intro node chosen decided
      by_cases isAddr : node.opcode = .addr
      · rw [if_pos isAddr] at decided
        obtain rfl := Except.ok.inj decided
        exact isAddr
      · rw [if_neg isAddr] at decided
        cases decided
  | resetCounter =>
      obtain rfl := Except.ok.inj planned
      exact ⟨trivial, trivial⟩
  | _ =>
      apply Graph.planEdit_valid planned
      rintro node chosen ⟨rfl⟩
      exact trivial

end ExprGraph
