import ExprGraph.Proofs.Graph.Record

/-!
What plans are made of.  A construction adds nodes and leaves those there are alone, but for the one
that names a node; a mutation edits one node or restarts numbering.  No request but the generic
constructor makes a combine node, and none but a store hands a child to one.  Main statements:
`Construction.plan_cases` and `Mutation.plan_cases`, and from them `Construction.plan_quiet` and
`Mutation.plan_quiet`.
-/

namespace ExprGraph

def Change.Plain : Change → Prop
  | .add _ draft => draft.opcode ≠ .combine
  | _ => False

def Change.AddsOne (opcodes : List Opcode) : Change → Prop
  | .add _ draft => draft.opcode ∈ opcodes ∧ draft.immediate = none ∧ draft.address = none
  | _ => False

theorem Change.AddsOne.plain {opcodes : List Opcode} {change : Change}
    (adds : change.AddsOne opcodes) (notCombine : .combine ∉ opcodes) : change.Plain := by
  cases change with
  | add cause draft =>
      intro isCombine
      exact notCombine (isCombine ▸ adds.1)
  | edit handle edit => exact adds.elim
  | restart => exact adds.elim

theorem Change.AddsOne.mono {opcodes more : List Opcode} {change : Change}
    (adds : change.AddsOne opcodes) (within : opcodes ⊆ more) : change.AddsOne more := by
  cases change with
  | add cause draft => exact ⟨within adds.1, adds.2⟩
  | edit handle edit => exact adds.elim
  | restart => exact adds.elim

theorem Change.Plain.quiet {change : Change} (plain : change.Plain) : change.Quiet := by
  cases change with
  | add cause draft => exact plain
  | edit handle edit => exact plain.elim
  | restart => exact plain.elim

def Mutation.edit? : Mutation Handle → Option (Handle × (Node → Edit))
  | setDataType handle dataType => some (handle, fun _ => .retype dataType)
  | setName handle name => some (handle, fun _ => .rename name)
  | setGroupCount handle count => some (handle, fun _ => .regroup count)
  | addGroupCount handle count => some (handle, fun node => .regroup (node.groupCount + count))
  | setVectorized handle vectorized => some (handle, fun _ => .vectorize vectorized)
  | setMembers group members => some (group, fun _ => .enroll members)
  | pushMember group member => some (group, fun node => .enroll (node.members ++ [member]))
  | bindAddress handle address => some (handle, fun _ => .bind address)
  | resetCounter => none

namespace Graph

theorem planAdd_plain {graph : Graph} {draft : Draft} {plan : Plan Handle}
    (planned : graph.planAdd draft = .ok plan) (notCombine : draft.opcode ≠ .combine) :
    ∀ change ∈ plan.changes, change.Plain := by
  obtain ⟨_, rfl⟩ := planAdd_cases planned
  intro change member
  rw [List.mem_singleton.mp member]
  exact notCombine

theorem planLoaded_adds (graph : Graph) (operand : Handle) (node : Node) :
    ∀ change ∈ (graph.planLoaded operand node).changes, change.AddsOne [.load] := by
  unfold planLoaded
  by_cases isPointer : node.opcode = .pointer
  · simp [isPointer, Change.AddsOne, draft]
  · simp [isPointer]

theorem planUnary_adds {graph : Graph} {opcode : Opcode} {operand : Handle}
    {type : Node → DataType} {plan : Plan Handle}
    (planned : graph.planUnary opcode operand type = .ok plan) :
    ∀ change ∈ plan.changes, change.AddsOne [.load, opcode] := by
  obtain ⟨node, _, returned⟩ := ok_of_bind planned
  obtain rfl := Except.ok.inj returned
  intro change member
  rcases List.mem_append.mp member with loaded | added
  · exact (graph.planLoaded_adds operand node change loaded).mono (by simp)
  · rw [List.mem_singleton.mp added]
    exact ⟨by simp, rfl, rfl⟩

theorem planBinary_adds {graph : Graph} {op : BinaryOp} {left right : Handle}
    {plan : Plan Handle} (planned : graph.planBinary op left right = .ok plan) :
    ∀ change ∈ plan.changes, change.AddsOne [.load, op.opcode] := by
  obtain ⟨leftNode, _, afterLeft⟩ := ok_of_bind planned
  obtain ⟨rightNode, _, afterRight⟩ := ok_of_bind afterLeft
  obtain ⟨_, _, returned⟩ := ok_of_bind afterRight
  obtain rfl := Except.ok.inj returned
  intro change member
  rcases List.mem_append.mp member with first | later
  · exact (graph.planLoaded_adds left leftNode change first).mono (by simp)
  · rcases List.mem_append.mp later with second | added
    · exact (Graph.planLoaded_adds _ right rightNode change second).mono (by simp)
    · rw [List.mem_singleton.mp added]
      exact ⟨by simp, rfl, rfl⟩

theorem planEdit_cases {graph : Graph} {handle : Handle} {answer : α}
    {edit : Node → Except Fault Edit} {plan : Plan α}
    (planned : graph.planEdit handle answer edit = .ok plan) :
    ∃ node chosen, graph.lookup handle = .ok node ∧ edit node = .ok chosen ∧
      plan = ⟨answer, [.edit handle chosen]⟩ := by
  obtain ⟨node, found, afterRead⟩ := ok_of_bind planned
  obtain ⟨chosen, decided, returned⟩ := ok_of_bind afterRead
  exact ⟨node, chosen, found, decided, (Except.ok.inj returned).symm⟩

theorem planCreate_cases {graph : Graph} {opcode : Opcode} {children : List Handle}
    {plan : Plan Handle} (planned : graph.planCreate opcode children = .ok plan) :
    (∀ child ∈ children, graph.Accepts child) ∧
      plan = ⟨graph.next, [.add .asked (graph.draft opcode children)]⟩ := by
  obtain ⟨_, _, afterArity⟩ := ok_of_bind planned
  obtain ⟨_, _, added⟩ := ok_of_bind afterArity
  exact planAdd_cases added

end Graph

theorem Construction.plan_cases {construction : Construction Handle} {graph : Graph}
    {plan : Plan Handle} (planned : construction.plan graph = .ok plan) :
    (∃ handle name, construction = .setName handle name ∧
        plan.changes = [.edit handle (.rename name)]) ∨
      (∃ children, construction = .create .combine children ∧
        plan.changes = [.add .asked (graph.draft .combine children)]) ∨
      ∀ change ∈ plan.changes, change.Plain := by
  have idle : ∀ change ∈ ([] : List Change), change.Plain := by
    intro change member
    cases member
  cases construction with
  | setName handle name =>
      obtain ⟨node, chosen, _, ⟨rfl⟩, rfl⟩ := Graph.planEdit_cases planned
      exact .inl ⟨handle, name, rfl, rfl⟩
  | create opcode children =>
      obtain ⟨_, rfl⟩ := Graph.planCreate_cases planned
      by_cases isCombine : opcode = .combine
      · subst isCombine
        exact .inr (.inl ⟨children, rfl, rfl⟩)
      · refine .inr (.inr ?_)
        intro change member
        rw [List.mem_singleton.mp member]
        exact isCombine
  | binary op left right =>
      refine .inr (.inr (fun change member => ?_))
      exact (Graph.planBinary_adds planned change member).plain (by cases op <;> decide)
  | loadIfPointer operand =>
      obtain ⟨node, _, returned⟩ := ok_of_bind planned
      obtain rfl := Except.ok.inj returned
      refine .inr (.inr (fun change member => ?_))
      exact (graph.planLoaded_adds operand node change member).plain (by decide)
  | pointer address =>
      obtain ⟨_, _, added⟩ := ok_of_bind planned
      exact .inr (.inr (Graph.planAdd_plain added (by simp [Graph.draft])))
  | pointerIndexed address displacement =>
      obtain ⟨_, _, added⟩ := ok_of_bind planned
      exact .inr (.inr (Graph.planAdd_plain added (by simp [Graph.draft])))
  | floor operand =>
      refine .inr (.inr (fun change member => ?_))
      exact (Graph.planUnary_adds planned change member).plain (by decide)
  | cast operand dataType =>
      refine .inr (.inr (fun change member => ?_))
      exact (Graph.planUnary_adds planned change member).plain (by decide)
  | child parent position =>
      obtain ⟨handle, _, returned⟩ := ok_of_bind planned
      obtain rfl := Except.ok.inj returned
      exact .inr (.inr idle)
  | empty =>
      obtain rfl := Except.ok.inj planned
      exact .inr (.inr idle)
  | _ => exact .inr (.inr (Graph.planAdd_plain planned (by simp [Graph.draft])))

theorem Mutation.plan_cases {mutation : Mutation Handle} {graph : Graph} {plan : Plan Unit}
    (planned : mutation.plan graph = .ok plan) :
    (mutation = .resetCounter ∧ plan.changes = [.restart]) ∨
      ∃ handle node edit, graph.lookup handle = .ok node ∧
        mutation.edit? = some (handle, edit) ∧ plan.changes = [.edit handle (edit node)] := by
  cases mutation with
  | resetCounter =>
      obtain rfl := Except.ok.inj planned
      exact .inl ⟨rfl, rfl⟩
  | setMembers group members =>
      obtain ⟨_, _, edited⟩ := ok_of_bind planned
      obtain ⟨node, chosen, found, ⟨rfl⟩, rfl⟩ := Graph.planEdit_cases edited
      exact .inr ⟨group, node, _, found, rfl, rfl⟩
  | pushMember group member =>
      obtain ⟨_, _, edited⟩ := ok_of_bind planned
      obtain ⟨node, chosen, found, ⟨rfl⟩, rfl⟩ := Graph.planEdit_cases edited
      exact .inr ⟨group, node, _, found, rfl, rfl⟩
  | bindAddress handle address =>
      obtain ⟨node, chosen, found, decided, rfl⟩ := Graph.planEdit_cases planned
      by_cases isAddr : node.opcode = .addr
      · rw [if_pos isAddr] at decided
        obtain rfl := Except.ok.inj decided
        exact .inr ⟨handle, node, _, found, rfl, rfl⟩
      · rw [if_neg isAddr] at decided
        cases decided
  | _ =>
      obtain ⟨node, chosen, found, ⟨rfl⟩, rfl⟩ := Graph.planEdit_cases planned
      exact .inr ⟨_, node, _, found, rfl, rfl⟩

theorem Construction.plan_quiet {construction : Construction Handle} {graph : Graph}
    {plan : Plan Handle} (planned : construction.plan graph = .ok plan)
    (notCombine : ∀ children, construction ≠ .create .combine children) :
    ∀ change ∈ plan.changes, change.Quiet := by
  intro change member
  rcases plan_cases planned with ⟨handle, name, _, named⟩ | ⟨children, isCombine, _⟩ | plain
  · rw [named] at member
    rw [List.mem_singleton.mp member]
    exact trivial
  · exact absurd isCombine (notCombine children)
  · exact (plain change member).quiet

theorem Mutation.plan_quiet {mutation : Mutation Handle} {graph : Graph} {plan : Plan Unit}
    (planned : mutation.plan graph = .ok plan) : ∀ change ∈ plan.changes, change.Quiet := by
  intro change member
  rcases plan_cases planned with ⟨_, restarted⟩ | ⟨handle, node, edit, _, isEdit, edited⟩
  · rw [restarted] at member
    rw [List.mem_singleton.mp member]
    exact trivial
  · rw [edited] at member
    rw [List.mem_singleton.mp member]
    cases mutation <;> cases isEdit <;> exact trivial

end ExprGraph
