import ExprGraph.Proofs.Graph.Plan.Quiet

/-!
Bindings: which node was given which address, in order.  A graph remembers of its bindings the last
one of each node.  Main statements: `Remembers.apply`, and `Construction.bindings_plan` and
`Mutation.bindings_plan`, what a request binds.
-/

namespace ExprGraph

def lastBound (record : List (Handle × Address)) (handle : Handle) : Option Address :=
  record.reverse.lookup handle

section

variable {record : List (Handle × Address)} {handle : Handle}

theorem lastBound_append (first second : List (Handle × Address)) (handle : Handle) :
    lastBound (first ++ second) handle = (lastBound second handle).or (lastBound first handle) := by
  rw [lastBound, List.reverse_append, List.lookup_append]
  rfl

theorem lastBound_single (handle : Handle) (address : Address) :
    lastBound [(handle, address)] handle = some address := by
  simp [lastBound]

theorem lastBound_eq_none_iff :
    lastBound record handle = none ↔ ∀ entry ∈ record, entry.1 ≠ handle := by
  rw [lastBound, List.lookup_eq_none_iff]
  constructor
  · intro others entry member
    exact (bne_iff_ne.mp (others entry (List.mem_reverse.mpr member))).symm
  · intro others entry member
    exact bne_iff_ne.mpr (others entry (List.mem_reverse.mp member)).symm

theorem lastBound_eq_some_iff {address : Address} :
    lastBound record handle = some address ↔
      ∃ before after, record = before ++ (handle, address) :: after ∧
        ∀ entry ∈ after, entry.1 ≠ handle := by
  rw [lastBound, List.lookup_eq_some_iff]
  constructor
  · rintro ⟨after, before, split, others⟩
    refine ⟨before.reverse, after.reverse, ?_, ?_⟩
    · rw [← List.reverse_reverse record, split]
      simp
    · intro entry member
      exact (bne_iff_ne.mp (others entry (List.mem_reverse.mp member))).symm
  · rintro ⟨before, after, rfl, others⟩
    refine ⟨after.reverse, before.reverse, by simp, ?_⟩
    intro entry member
    exact bne_iff_ne.mpr (others entry (List.mem_reverse.mp member)).symm

theorem lastBound_exists_iff :
    (∃ address, lastBound record handle = some address) ↔
      ∃ address, (handle, address) ∈ record := by
  constructor
  · rintro ⟨address, isLast⟩
    obtain ⟨before, after, rfl, _⟩ := lastBound_eq_some_iff.mp isLast
    exact ⟨address, by simp⟩
  · rintro ⟨address, member⟩
    cases last : lastBound record handle with
    | none => exact absurd rfl (lastBound_eq_none_iff.mp last _ member)
    | some other => exact ⟨other, rfl⟩

theorem lastBound_append_other {told : List (Handle × Address)}
    (others : ∀ entry ∈ told, entry.1 ≠ handle) :
    lastBound (record ++ told) handle = lastBound record handle := by
  rw [lastBound_append, lastBound_eq_none_iff.mpr others]
  rfl

end

namespace Graph

def bindings (graph : Graph) : Change → List (Handle × Address)
  | .add _ draft => draft.address.toList.map (graph.next, ·)
  | .edit handle (.bind address) => [(handle, address)]
  | _ => []

theorem bindings_eq_nil (graph : Graph) {opcodes : List Opcode} {change : Change}
    (adds : change.AddsOne opcodes) : graph.bindings change = [] := by
  cases change with
  | add cause draft =>
      obtain ⟨_, _, noAddress⟩ := adds
      rw [bindings, noAddress]
      rfl
  | edit handle edit => exact adds.elim
  | restart => exact adds.elim

structure Remembers (graph : Graph) (record : List (Handle × Address)) : Prop where
  address : ∀ handle node, graph.lookup handle = .ok node →
    node.address = lastBound record handle
  known : ∀ entry ∈ record, graph.Accepts entry.1

section

variable {graph : Graph} {record : List (Handle × Address)}

theorem remembers_empty (id : UInt32) (options : Options) :
    Remembers { id := id, options := options } [] where
  address := by
    intro handle node found
    exact (not_accepts_empty id options handle ⟨node, found⟩).elim
  known := by
    intro entry member
    cases member

theorem Remembers.add (remembers : graph.Remembers record) (cause : Cause) (draft : Draft) :
    (graph.apply (.add cause draft)).Remembers (record ++ graph.bindings (.add cause draft)) where
  address := by
    intro handle node found
    rcases lookup_add_cases found with old | ⟨isNew, rfl⟩
    · rw [lastBound_append_other]
      · exact remembers.address handle node old
      · intro entry member
        obtain ⟨address, _, rfl⟩ := List.mem_map.mp member
        rintro rfl
        exact graph.not_accepts_next ⟨node, old⟩
    · obtain rfl : handle = graph.next := isNew
      have unknown : lastBound record graph.next = none := by
        rw [lastBound_eq_none_iff]
        intro entry member isNext
        have accepted := remembers.known entry member
        rw [isNext] at accepted
        exact graph.not_accepts_next accepted
      rw [lastBound_append, unknown, Option.or_none, bindings]
      cases bound : draft.address with
      | none => exact bound
      | some address => exact bound.trans (lastBound_single graph.next address).symm
  known := by
    intro entry member
    rcases List.mem_append.mp member with old | new
    · exact (remembers.known entry old).apply _
    · obtain ⟨address, _, rfl⟩ := List.mem_map.mp new
      exact accepts_add_new graph draft

theorem Remembers.edit {target : Handle} {node : Node} (remembers : graph.Remembers record)
    (isTarget : graph.lookup target = .ok node) (edit : Edit) :
    (graph.apply (.edit target edit)).Remembers (record ++ graph.bindings (.edit target edit)) where
  address := by
    intro handle now found
    by_cases same : handle = target
    · subst same
      obtain rfl := Except.ok.inj ((lookup_edit_same edit isTarget).symm.trans found)
      rw [lastBound_append]
      cases edit with
      | bind address =>
          rw [bindings, lastBound_single]
          rfl
      | _ => exact remembers.address handle node isTarget
    · rw [lookup_edit_other edit same] at found
      rw [lastBound_append_other]
      · exact remembers.address handle now found
      · intro entry member
        cases edit with
        | bind address =>
            rw [List.mem_singleton.mp member]
            exact Ne.symm same
        | _ => cases member
  known := by
    intro entry member
    apply Accepts.apply
    rcases List.mem_append.mp member with old | new
    · exact remembers.known entry old
    · cases edit with
      | bind address =>
          rw [List.mem_singleton.mp new]
          exact ⟨node, isTarget⟩
      | _ => cases new

theorem Remembers.apply {change : Change} (remembers : graph.Remembers record)
    (valid : change.Valid graph) :
    (graph.apply change).Remembers (record ++ graph.bindings change) := by
  cases change with
  | add cause draft => exact remembers.add cause draft
  | edit target edit =>
      obtain ⟨node, isTarget, _⟩ := valid
      exact remembers.edit isTarget edit
  | restart =>
      rw [show graph.bindings .restart = [] from rfl, List.append_nil]
      refine ⟨?_, fun entry member => (remembers.known entry member).apply .restart⟩
      intro handle node found
      exact remembers.address handle node ((lookup_numbering graph _ handle).symm.trans found)

theorem planStore_unbound {root pointer value : Handle} {plan : Plan (Handle × Handle)}
    (planned : graph.planStore root pointer value = .ok plan) :
    graph.gather Graph.bindings plan.changes = [] := by
  obtain ⟨_, _, returned⟩ := ok_of_bind planned
  obtain rfl := Except.ok.inj returned
  cases root <;> rfl

end

end Graph

def Construction.bindings (handle : Handle) : Construction ρ → List (Handle × Address)
  | addr address => [(handle, address)]
  | _ => []

def Mutation.bindings : Mutation Handle → List (Handle × Address)
  | bindAddress handle address => [(handle, address)]
  | _ => []

theorem Construction.bindings_map (resolve : ρ → τ) (construction : Construction ρ)
    (handle : Handle) :
    (construction.map resolve).bindings handle = construction.bindings handle := by
  cases construction <;> rfl

theorem Construction.bindings_plan {construction : Construction Handle} {graph : Graph}
    {plan : Plan Handle} (planned : construction.plan graph = .ok plan) :
    graph.gather Graph.bindings plan.changes = construction.bindings plan.answer := by
  have added : ∀ {draft : Draft}, graph.planAdd draft = .ok plan →
      graph.gather Graph.bindings plan.changes = draft.address.toList.map (plan.answer, ·) := by
    intro draft planned
    obtain ⟨_, rfl⟩ := Graph.planAdd_cases planned
    exact List.append_nil _
  have unbound : (∃ opcodes, ∀ change ∈ plan.changes, change.AddsOne opcodes) →
      graph.gather Graph.bindings plan.changes = [] := by
    rintro ⟨opcodes, adds⟩
    exact Graph.gather_eq_nil
      (fun change member graph => graph.bindings_eq_nil (adds change member)) graph
  cases construction with
  | create opcode children =>
      obtain ⟨_, rfl⟩ := Graph.planCreate_cases planned
      rfl
  | binary op left right => exact unbound ⟨_, Graph.planBinary_adds planned⟩
  | loadIfPointer operand =>
      obtain ⟨node, _, returned⟩ := ok_of_bind planned
      obtain rfl := Except.ok.inj returned
      exact unbound ⟨_, graph.planLoaded_adds operand node⟩
  | pointer address =>
      obtain ⟨_, _, planned⟩ := ok_of_bind planned
      exact added planned
  | pointerIndexed address displacement =>
      obtain ⟨_, _, planned⟩ := ok_of_bind planned
      exact added planned
  | floor operand => exact unbound ⟨_, Graph.planUnary_adds planned⟩
  | cast operand dataType => exact unbound ⟨_, Graph.planUnary_adds planned⟩
  | child parent position =>
      obtain ⟨handle, _, returned⟩ := ok_of_bind planned
      obtain rfl := Except.ok.inj returned
      rfl
  | setName handle name =>
      obtain ⟨node, chosen, _, ⟨rfl⟩, rfl⟩ := Graph.planEdit_cases planned
      rfl
  | empty =>
      obtain rfl := Except.ok.inj planned
      rfl
  | _ => exact added planned

theorem Mutation.bindings_plan {mutation : Mutation Handle} {graph : Graph} {plan : Plan Unit}
    (planned : mutation.plan graph = .ok plan) :
    graph.gather Graph.bindings plan.changes = mutation.bindings := by
  rcases Mutation.plan_cases planned with ⟨rfl, restarted⟩ | ⟨handle, node, edit, _, isEdit, edited⟩
  · rw [restarted]
    rfl
  · rw [edited]
    cases mutation <;> cases isEdit <;> rfl

end ExprGraph
