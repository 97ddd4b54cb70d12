import ExprGraph.Proofs.Graph.Closure
import ExprGraph.Proofs.Graph.Plan

/-!
Address chains: a memory access reads or writes through a pointer, and a pointer starts at an
address node.  Main statements: `resolvedAddress_eq_ok_iff`, by which an address is resolved down a
chain; `chain_cases`, by which in a well-formed graph only a load may have none; and
`Resolves.applyAll`, by which no change takes an address away.
-/

namespace ExprGraph.Graph

def FirstOperand (graph : Graph) (handle operand : Handle) : Prop :=
  ∃ node, graph.lookup handle = .ok node ∧ node.children.head? = some operand

structure Chain (graph : Graph) (access pointer addr : Handle) : Prop where
  isAccess : graph.opcode access = .ok .load ∨ graph.opcode access = .ok .store
  toPointer : graph.FirstOperand access pointer
  isPointer : graph.opcode pointer = .ok .pointer
  toAddr : graph.FirstOperand pointer addr
  isAddr : graph.opcode addr = .ok .addr

def Resolves (graph : Graph) (handle : Handle) : Prop :=
  ∃ address, graph.resolvedAddress handle = .ok address

section

variable {graph : Graph} {access pointer addr handle : Handle} {node : Node}

theorem firstOperand_eq_ok_iff (node : Node) (reason : String) (operand : Handle) :
    firstOperand node reason = .ok operand ↔ node.children.head? = some operand := by
  unfold firstOperand
  cases node.children with
  | nil => simp
  | cons first rest => simp

theorem isMemoryAccess_iff (opcode : Opcode) :
    opcode.isMemoryAccess = true ↔ opcode = .load ∨ opcode = .store := by
  cases opcode <;> decide

theorem boundAddress_eq_ok_iff (node : Node) (address : Address) :
    node.boundAddress = .ok address ↔ node.opcode = .addr ∧ node.address = some address := by
  unfold Node.boundAddress
  by_cases isAddr : node.opcode = .addr
  · cases node.address with
    | none => simp [isAddr]
    | some other => simp [isAddr]
  · simp [isAddr]

theorem Chain.resolvedAddress (chain : graph.Chain access pointer addr)
    (found : graph.lookup addr = .ok node) :
    graph.resolvedAddress access = node.boundAddress := by
  obtain ⟨accessNode, foundAccess, first⟩ := chain.toPointer
  obtain ⟨pointerNode, foundPointer, second⟩ := chain.toAddr
  have accesses : accessNode.opcode.isMemoryAccess = true := by
    rw [isMemoryAccess_iff]
    simpa [opcode_of_lookup foundAccess] using chain.isAccess
  have isPointer : pointerNode.opcode = .pointer :=
    Except.ok.inj ((opcode_of_lookup foundPointer).symm.trans chain.isPointer)
  have isAddr : node.opcode = .addr :=
    Except.ok.inj ((opcode_of_lookup found).symm.trans chain.isAddr)
  simp only [Graph.resolvedAddress, bind, Except.bind, foundAccess, accesses, foundPointer,
    isPointer, found, isAddr, if_true, (firstOperand_eq_ok_iff _ _ _).mpr first,
    (firstOperand_eq_ok_iff _ _ _).mpr second]

theorem resolvedAddress_eq_ok_iff (address : Address) :
    graph.resolvedAddress access = .ok address ↔
      ∃ pointer addr node, graph.Chain access pointer addr ∧ graph.lookup addr = .ok node ∧
        node.address = some address := by
  constructor
  · intro resolved
    obtain ⟨accessNode, foundAccess, resolved⟩ := ok_of_bind resolved
    obtain ⟨accesses, resolved⟩ := ok_of_guard resolved
    obtain ⟨pointer, first, resolved⟩ := ok_of_bind resolved
    obtain ⟨pointerNode, foundPointer, resolved⟩ := ok_of_bind resolved
    obtain ⟨isPointer, resolved⟩ := ok_of_guard resolved
    obtain ⟨addr, second, resolved⟩ := ok_of_bind resolved
    obtain ⟨node, found, resolved⟩ := ok_of_bind resolved
    obtain ⟨isAddr, resolved⟩ := ok_of_guard resolved
    have chain : graph.Chain access pointer addr := {
      isAccess := by simpa [opcode_of_lookup foundAccess] using (isMemoryAccess_iff _).mp accesses
      toPointer := ⟨accessNode, foundAccess, (firstOperand_eq_ok_iff _ _ _).mp first⟩
      isPointer := by rw [opcode_of_lookup foundPointer, isPointer]
      toAddr := ⟨pointerNode, foundPointer, (firstOperand_eq_ok_iff _ _ _).mp second⟩
      isAddr := by rw [opcode_of_lookup found, isAddr] }
    exact ⟨pointer, addr, node, chain, found, ((boundAddress_eq_ok_iff _ _).mp resolved).2⟩
  · rintro ⟨pointer, addr, node, chain, found, bound⟩
    rw [chain.resolvedAddress found, boundAddress_eq_ok_iff]
    exact ⟨Except.ok.inj ((opcode_of_lookup found).symm.trans chain.isAddr), bound⟩

theorem WellFormed.chain (wellFormed : graph.WellFormed)
    (isAccess : graph.opcode access = .ok .load ∨ graph.opcode access = .ok .store)
    (toPointer : graph.FirstOperand access pointer)
    (isPointer : graph.opcode pointer = .ok .pointer) :
    ∃ pointer addr, graph.Chain access pointer addr := by
  obtain ⟨node, found, opcode⟩ := (opcode_eq_ok_iff _ _ _).mp isPointer
  have shaped := wellFormed node ((mem_nodes_iff _ _).mpr ⟨pointer, found⟩)
  obtain ⟨addr, rest, children, isAddr⟩ := shaped.pointerTarget opcode
  have toAddr : graph.FirstOperand pointer addr := ⟨node, found, by rw [children]; rfl⟩
  exact ⟨pointer, addr, isAccess, toPointer, isPointer, toAddr, isAddr⟩

theorem WellFormed.load_operand (wellFormed : graph.WellFormed)
    (found : graph.lookup access = .ok node) (isLoad : node.opcode = .load) :
    ∃ operand, node.children = [operand] := by
  have arity := (wellFormed node ((mem_nodes_iff _ _).mpr ⟨access, found⟩)).arity
  rw [isLoad] at arity
  exact List.length_eq_one_iff.mp (by simpa [Opcode.arity, Arity.accepts] using arity)

/-- Where a chain is missing, a well-formed graph has something else than a memory access, or a load
of something else than a pointer. -/
theorem chain_cases (wellFormed : graph.WellFormed)
    (found : graph.lookup access = .ok node) :
    (node.opcode ≠ .load ∧ node.opcode ≠ .store) ∨
      (node.opcode = .load ∧
        ∃ operand, node.children = [operand] ∧ graph.opcode operand ≠ .ok .pointer) ∨
      ∃ pointer addr, graph.Chain access pointer addr := by
  have accesses := opcode_of_lookup found
  by_cases isLoad : node.opcode = .load
  · obtain ⟨operand, children⟩ := wellFormed.load_operand found isLoad
    by_cases isPointer : graph.opcode operand = .ok .pointer
    · refine .inr (.inr (wellFormed.chain (.inl ?_) ⟨node, found, ?_⟩ isPointer))
      · rw [accesses, isLoad]
      · rw [children]
        rfl
    · exact .inr (.inl ⟨isLoad, operand, children, isPointer⟩)
  · by_cases isStore : node.opcode = .store
    · have shaped := wellFormed node ((mem_nodes_iff _ _).mpr ⟨access, found⟩)
      obtain ⟨pointer, rest, children, isPointer⟩ := shaped.storeTarget isStore
      refine .inr (.inr (wellFormed.chain (.inr ?_) ⟨node, found, ?_⟩ isPointer))
      · rw [accesses, isStore]
      · rw [children]
        rfl
    · exact .inl ⟨isLoad, isStore⟩

theorem resolvedAddress_of_other (found : graph.lookup access = .ok node)
    (notLoad : node.opcode ≠ .load) (notStore : node.opcode ≠ .store) :
    graph.resolvedAddress access = .error (.opcodeMismatch [.load, .store] node.opcode) := by
  have noAccess : node.opcode.isMemoryAccess = false := by
    rw [← Bool.not_eq_true, isMemoryAccess_iff]
    exact not_or.mpr ⟨notLoad, notStore⟩
  simp only [Graph.resolvedAddress, found, bind, Except.bind, noAccess, Bool.false_eq_true,
    if_false]

theorem resolvedAddress_of_chainless {operand : Handle} (found : graph.lookup access = .ok node)
    (isLoad : node.opcode = .load) (children : node.children = [operand])
    (accepted : graph.Accepts operand) (notPointer : graph.opcode operand ≠ .ok .pointer) :
    graph.resolvedAddress access =
      .error (.brokenAddressChain "first operand is not a pointer") := by
  obtain ⟨operandNode, foundOperand⟩ := accepted
  have otherOpcode : operandNode.opcode ≠ .pointer := by
    intro isPointer
    exact notPointer (by rw [opcode_of_lookup foundOperand, isPointer])
  have accesses : node.opcode.isMemoryAccess = true := (isMemoryAccess_iff _).mpr (.inl isLoad)
  simp only [Graph.resolvedAddress, found, bind, Except.bind, accesses, if_true, firstOperand,
    children, foundOperand, otherOpcode, if_false]

theorem FirstOperand.apply {operand : Handle} (first : graph.FirstOperand handle operand)
    (change : Change) : (graph.apply change).FirstOperand handle operand := by
  obtain ⟨node, found, isFirst⟩ := first
  obtain ⟨later, foundLater, rfl | ⟨edit, _, rfl⟩⟩ := lookup_apply_of_ok change found
  · exact ⟨_, foundLater, isFirst⟩
  · refine ⟨_, foundLater, ?_⟩
    cases edit with
    | collect store =>
        simp only [Edit.apply, List.head?_append, isFirst]
        rfl
    | _ => exact isFirst

theorem Chain.apply (chain : graph.Chain access pointer addr) (change : Change) :
    (graph.apply change).Chain access pointer addr where
  isAccess := chain.isAccess.imp (opcode_apply_of_ok change) (opcode_apply_of_ok change)
  toPointer := chain.toPointer.apply change
  isPointer := opcode_apply_of_ok change chain.isPointer
  toAddr := chain.toAddr.apply change
  isAddr := opcode_apply_of_ok change chain.isAddr

theorem Resolves.apply (resolves : graph.Resolves handle) (change : Change) :
    (graph.apply change).Resolves handle := by
  obtain ⟨address, resolved⟩ := resolves
  obtain ⟨pointer, addr, node, chain, found, bound⟩ := (resolvedAddress_eq_ok_iff _).mp resolved
  obtain ⟨later, foundLater, kept⟩ := lookup_apply_of_ok change found
  have boundLater : ∃ now, later.address = some now := by
    rcases kept with rfl | ⟨edit, _, rfl⟩
    · exact ⟨address, bound⟩
    · cases edit with
      | bind other => exact ⟨other, rfl⟩
      | _ => exact ⟨address, bound⟩
  obtain ⟨now, isNow⟩ := boundLater
  exact ⟨now, (resolvedAddress_eq_ok_iff _).mpr
    ⟨pointer, addr, later, chain.apply change, foundLater, isNow⟩⟩

theorem Resolves.applyAll (resolves : graph.Resolves handle) (changes : List Change) :
    (graph.applyAll changes).Resolves handle := by
  induction changes generalizing graph with
  | nil => exact resolves
  | cons change rest ih => exact ih (resolves.apply change)

end

end ExprGraph.Graph
