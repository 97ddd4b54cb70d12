import ExprGraph.Proofs.Graph.Plan.Run

/-!
What the generic constructor accepts.  Everything that is wrong with a request is listed in the
order it is looked for in; the request is refused with the first fault on the list, and makes a node
when there is none.  Main statement: `create_effect`.
-/

namespace ExprGraph

def failFirst : List Fault → Except Fault Unit
  | [] => .ok ()
  | fault :: _ => .error fault

theorem failFirst_append (first second : List Fault) :
    failFirst (first ++ second) = (failFirst first >>= fun _ => failFirst second) := by
  cases first <;> rfl

theorem require_eq_failFirst (condition : Prop) [Decidable condition] (fault : Fault) :
    require condition fault = failFirst (if condition then [] else [fault]) := by
  by_cases holds : condition
  · simp only [require, holds, if_true, failFirst]
  · simp only [require, holds, if_false, failFirst]

namespace Graph

def faultsAs (graph : Graph) (expected : Opcode) (handle : Handle) : List Fault :=
  match graph.lookup handle with
  | .error _ => [handle.fault]
  | .ok node =>
    if node.opcode = expected then [] else [.opcodeMismatch [expected] node.opcode]

def targetFaults (graph : Graph) (opcode : Opcode) (children : List Handle) : List Fault :=
  match opcode, children with
  | .store, first :: _ => graph.faultsAs .pointer first
  | .pointer, first :: _ => graph.faultsAs .addr first
  | _, _ => []

def handleFaults (graph : Graph) (handles : List Handle) : List Fault :=
  (handles.filter (fun handle => !graph.contains handle)).map Handle.fault

/-- What is wrong with a request for a node, in the order it is looked for in. -/
def creationFaults (graph : Graph) (opcode : Opcode) (children : List Handle) : List Fault :=
  (if opcode.arity.accepts children.length then []
    else [.arityMismatch opcode opcode.arity children.length]) ++
  ((if opcode ∈ [.cmp, .index, .imm] then [.immediateRequired opcode opcode.name] else []) ++
  (graph.targetFaults opcode children ++ graph.handleFaults children))

structure Creatable (graph : Graph) (opcode : Opcode) (children : List Handle) : Prop where
  arity : opcode.arity.accepts children.length = true
  plain : opcode ∉ [.cmp, .index, .imm]
  storeTarget : opcode = .store → graph.StartsAt children .pointer
  pointerTarget : opcode = .pointer → graph.StartsAt children .addr
  known : ∀ child ∈ children, graph.Accepts child

section

variable {graph : Graph}

theorem fault_eq_of_lookup {handle : Handle} {fault : Fault}
    (failed : graph.lookup handle = .error fault) : fault = handle.fault := by
  have refused : ¬ graph.Accepts handle := by
    rintro ⟨node, found⟩
    cases failed.symm.trans found
  exact Except.error.inj (failed.symm.trans (lookup_of_not_accepts refused))

theorem expectOpcode_eq_failFirst (graph : Graph) (handle : Handle) (expected : Opcode) :
    graph.expectOpcode handle expected = failFirst (graph.faultsAs expected handle) := by
  unfold expectOpcode Graph.opcode faultsAs
  cases found : graph.lookup handle with
  | error fault =>
      rw [fault_eq_of_lookup found]
      rfl
  | ok node =>
      simp only [Except.map, bind, Except.bind]
      by_cases same : node.opcode = expected
      · simp only [same, if_true, failFirst]
      · simp only [same, if_false, failFirst]

theorem handleFaults_cons (graph : Graph) (first : Handle) (rest : List Handle) :
    graph.handleFaults (first :: rest) =
      (if graph.contains first then [] else [first.fault]) ++ graph.handleFaults rest := by
  cases known : graph.contains first <;> simp [handleFaults, known]

theorem lookup_eq_failFirst (graph : Graph) (handle : Handle) :
    (graph.lookup handle >>= fun _ => .ok ()) =
      failFirst (if graph.contains handle then [] else [handle.fault]) := by
  unfold contains
  cases found : graph.lookup handle with
  | error fault =>
      rw [fault_eq_of_lookup found]
      rfl
  | ok node => rfl

theorem checkAll_eq_failFirst (graph : Graph) (handles : List Handle) :
    graph.checkAll handles = failFirst (graph.handleFaults handles) := by
  induction handles with
  | nil => rfl
  | cons first rest ih =>
      rw [handleFaults_cons, failFirst_append, ← lookup_eq_failFirst, ← ih, bind_assoc]
      rfl

theorem checkOperands_eq_failFirst (graph : Graph) (opcode : Opcode) (children : List Handle) :
    Build.checkOperands opcode children graph = failFirst
      ((if opcode ∈ [.cmp, .index, .imm] then [.immediateRequired opcode opcode.name] else []) ++
        graph.targetFaults opcode children) := by
  cases opcode with
  | store =>
      cases children with
      | nil => rfl
      | cons first rest => exact graph.expectOpcode_eq_failFirst first .pointer
  | pointer =>
      cases children with
      | nil => rfl
      | cons first rest => exact graph.expectOpcode_eq_failFirst first .addr
  | _ => rfl

theorem planCreate_eq_failFirst (graph : Graph) (opcode : Opcode) (children : List Handle) :
    graph.planCreate opcode children =
      (failFirst (graph.creationFaults opcode children) >>= fun _ =>
        .ok ⟨graph.next, [.add .asked (graph.draft opcode children)]⟩) := by
  rw [creationFaults, ← List.append_assoc _ (graph.targetFaults opcode children),
    failFirst_append, failFirst_append, ← require_eq_failFirst, ← checkOperands_eq_failFirst,
    ← checkAll_eq_failFirst, bind_assoc, bind_assoc]
  rfl

theorem faultsAs_eq_nil_iff (graph : Graph) (expected : Opcode) (handle : Handle) :
    graph.faultsAs expected handle = [] ↔ graph.opcode handle = .ok expected := by
  unfold faultsAs Graph.opcode
  cases graph.lookup handle with
  | error fault => simp [Except.map]
  | ok node => simp [Except.map]

theorem handleFaults_eq_nil_iff (graph : Graph) (handles : List Handle) :
    graph.handleFaults handles = [] ↔ ∀ handle ∈ handles, graph.Accepts handle := by
  simp [handleFaults, ← contains_iff]

theorem targetFaults_eq_nil_iff (graph : Graph) (opcode : Opcode) (children : List Handle)
    (arity : opcode.arity.accepts children.length = true) :
    graph.targetFaults opcode children = [] ↔
      (opcode = .store → graph.StartsAt children .pointer) ∧
        (opcode = .pointer → graph.StartsAt children .addr) := by
  have starts : ∀ first rest expected, graph.faultsAs expected first = [] ↔
      graph.StartsAt (first :: rest) expected := by
    intro first rest expected
    rw [faultsAs_eq_nil_iff]
    simp [StartsAt]
  cases opcode with
  | store =>
      cases children with
      | nil => cases arity
      | cons first rest => simpa [targetFaults] using starts first rest .pointer
  | pointer =>
      cases children with
      | nil => cases arity
      | cons first rest => simpa [targetFaults] using starts first rest .addr
  | _ => simp [targetFaults]

theorem creationFaults_eq_nil_iff (graph : Graph) (opcode : Opcode) (children : List Handle) :
    graph.creationFaults opcode children = [] ↔ graph.Creatable opcode children := by
  unfold creationFaults
  rw [List.append_eq_nil_iff, List.append_eq_nil_iff, List.append_eq_nil_iff,
    handleFaults_eq_nil_iff]
  constructor
  · rintro ⟨counted, immediate, targets, known⟩
    have arity : opcode.arity.accepts children.length = true := by
      simpa using counted
    obtain ⟨storeTarget, pointerTarget⟩ := (targetFaults_eq_nil_iff _ _ _ arity).mp targets
    exact ⟨arity, by simpa using immediate, storeTarget, pointerTarget, known⟩
  · intro creatable
    refine ⟨if_pos creatable.arity, if_neg creatable.plain, ?_, creatable.known⟩
    exact (targetFaults_eq_nil_iff _ _ _ creatable.arity).mpr
      ⟨creatable.storeTarget, creatable.pointerTarget⟩

end

end Graph

structure CreationEffect (graph : Graph) (opcode : Opcode) (children : List Handle)
    (outcome : Outcome Handle) : Prop where
  succeeds_iff : (∃ handle, outcome.result = .ok handle) ↔ graph.Creatable opcode children
  refused : ¬ graph.Creatable opcode children →
    ∃ fault others, graph.creationFaults opcode children = fault :: others ∧
      outcome = ⟨.error fault, graph, []⟩
  made : graph.Creatable opcode children →
    outcome.result = .ok graph.next ∧
      outcome.graph.lookup graph.next = .ok {
        opcode := opcode
        dataType := graph.options.defaultDataType
        children := children
        immediate := none
        id := graph.numbering.next } ∧
      outcome.graph.size = graph.size + 1 ∧
      ∀ handle node, graph.lookup handle = .ok node → outcome.graph.lookup handle = .ok node

/-- The generic constructor makes a node of the documented shapes and of no others, and answers any
other request with the first fault it has. -/
theorem create_effect (graph : Graph) (opcode : Opcode) (children : List Handle) :
    CreationEffect graph opcode children ((Build.create opcode children).run graph) := by
  rw [Build.run_create, Graph.planCreate_eq_failFirst]
  have fulfilled := graph.creationFaults_eq_nil_iff opcode children
  cases faults : graph.creationFaults opcode children with
  | nil =>
      have creatable := fulfilled.mp faults
      refine ⟨⟨fun _ => creatable, fun _ => ⟨_, rfl⟩⟩, fun refused => absurd creatable refused, ?_⟩
      intro _
      refine ⟨rfl, Graph.lookup_add_new graph (graph.draft opcode children), ?_, ?_⟩
      · exact Graph.size_add graph (graph.draft opcode children)
      · intro handle node found
        exact Graph.lookup_add_of_ok (graph.draft opcode children) found
  | cons fault others =>
      have refused : ¬ graph.Creatable opcode children := by
        intro creatable
        cases faults.symm.trans (fulfilled.mpr creatable)
      refine ⟨⟨nofun, fun creatable => absurd creatable refused⟩, ?_, fun creatable =>
        absurd creatable refused⟩
      intro _
      exact ⟨fault, others, faults, rfl⟩

example : ((Build.create .cmp [.empty]).run { id := 0 }).result =
    .error (.arityMismatch .cmp (.exactly 2) 1) := rfl

end ExprGraph
