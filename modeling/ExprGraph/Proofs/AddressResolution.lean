import ExprGraph.Proofs.Graph.AddressChain
import ExprGraph.Proofs.Graph.Binding
import ExprGraph.Proofs.Session.Chronicle
import ExprGraph.Proofs.WellFormed

/-!
Address resolution.  A memory access has the address its address node was bound to last, whether it
was bound before the access was built or after, and through whichever handle.  Main statement:
`addresses_resolved`.
-/

namespace ExprGraph

namespace Graph

structure Located (graph : Graph) (handle : Handle) : Prop where
  chain : ∃ pointer addr, graph.Chain handle pointer addr
  answer : graph.Resolves handle ∨ graph.resolvedAddress handle = .error .unboundAddress

structure Resolution (graph : Graph) (record : List (Handle × Address)) (handle : Handle)
    (node : Node) : Prop where
  mismatch_iff :
    (∃ expected found, graph.resolvedAddress handle = .error (.opcodeMismatch expected found)) ↔
      node.opcode ≠ .load ∧ node.opcode ≠ .store
  store : node.opcode = .store → graph.Located handle
  load : node.opcode = .load → ∃ operand, node.children = [operand] ∧
    (graph.opcode operand = .ok .pointer → graph.Located handle) ∧
    (graph.opcode operand ≠ .ok .pointer → graph.resolvedAddress handle =
      .error (.brokenAddressChain "first operand is not a pointer"))
  broken : ∀ reason, graph.resolvedAddress handle = .error (.brokenAddressChain reason) →
    reason = "first operand is not a pointer"
  ok_iff : ∀ address, graph.resolvedAddress handle = .ok address ↔
    ∃ pointer addr before after, graph.Chain handle pointer addr ∧
      record = before ++ (addr, address) :: after ∧ ∀ entry ∈ after, entry.1 ≠ addr
  bound_iff : ∀ pointer addr, graph.Chain handle pointer addr →
    (graph.Resolves handle ↔ ∃ address, (addr, address) ∈ record)

section

variable {graph : Graph} {record : List (Handle × Address)} {handle pointer addr : Handle}
  {node : Node}

theorem Remembers.resolvedAddress (remembers : graph.Remembers record)
    (chain : graph.Chain handle pointer addr) :
    graph.resolvedAddress handle =
      (lastBound record addr).elim (.error .unboundAddress) .ok := by
  obtain ⟨addrNode, found, isAddr⟩ := (opcode_eq_ok_iff _ _ _).mp chain.isAddr
  rw [chain.resolvedAddress found, Node.boundAddress, if_pos isAddr,
    remembers.address addr addrNode found]
  cases lastBound record addr <;> rfl

theorem Remembers.fault_of_chain (remembers : graph.Remembers record)
    (chain : graph.Chain handle pointer addr) {fault : Fault}
    (refused : graph.resolvedAddress handle = .error fault) : fault = .unboundAddress := by
  rw [remembers.resolvedAddress chain] at refused
  cases last : lastBound record addr with
  | none =>
      rw [last] at refused
      exact (Except.error.inj refused).symm
  | some address =>
      rw [last] at refused
      cases refused

theorem Remembers.located (remembers : graph.Remembers record)
    (chain : graph.Chain handle pointer addr) : graph.Located handle where
  chain := ⟨pointer, addr, chain⟩
  answer := by
    cases resolved : graph.resolvedAddress handle with
    | ok address => exact .inl ⟨address, resolved⟩
    | error fault => exact .inr (congrArg _ (remembers.fault_of_chain chain resolved))

theorem Remembers.ok_iff (remembers : graph.Remembers record) (address : Address) :
    graph.resolvedAddress handle = .ok address ↔
      ∃ pointer addr before after, graph.Chain handle pointer addr ∧
        record = before ++ (addr, address) :: after ∧ ∀ entry ∈ after, entry.1 ≠ addr := by
  constructor
  · intro resolved
    obtain ⟨pointer, addr, node, chain, found, bound⟩ := (resolvedAddress_eq_ok_iff _).mp resolved
    rw [remembers.address addr node found] at bound
    obtain ⟨before, after, split, others⟩ := lastBound_eq_some_iff.mp bound
    exact ⟨pointer, addr, before, after, chain, split, others⟩
  · rintro ⟨pointer, addr, before, after, chain, split, others⟩
    rw [remembers.resolvedAddress chain, lastBound_eq_some_iff.mpr ⟨before, after, split, others⟩]
    rfl

theorem Remembers.resolves_iff (remembers : graph.Remembers record)
    (chain : graph.Chain handle pointer addr) :
    graph.Resolves handle ↔ ∃ address, (addr, address) ∈ record := by
  rw [← lastBound_exists_iff, Resolves, remembers.resolvedAddress chain]
  cases lastBound record addr <;> simp

theorem Remembers.resolution_of_other (remembers : graph.Remembers record)
    (found : graph.lookup handle = .ok node) (notLoad : node.opcode ≠ .load)
    (notStore : node.opcode ≠ .store) : graph.Resolution record handle node := by
  have resolved := resolvedAddress_of_other found notLoad notStore
  exact {
    mismatch_iff := iff_of_true ⟨_, _, resolved⟩ ⟨notLoad, notStore⟩
    store := fun isStore => absurd isStore notStore
    load := fun isLoad => absurd isLoad notLoad
    broken := by
      intro reason isBroken
      rw [resolved] at isBroken
      cases isBroken
    ok_iff := remembers.ok_iff
    bound_iff := fun _ _ chain => remembers.resolves_iff chain }

theorem Remembers.resolution_of_chainless {operand : Handle} (remembers : graph.Remembers record)
    (found : graph.lookup handle = .ok node) (isLoad : node.opcode = .load)
    (children : node.children = [operand]) (accepted : graph.Accepts operand)
    (notPointer : graph.opcode operand ≠ .ok .pointer) : graph.Resolution record handle node := by
  have resolved := resolvedAddress_of_chainless found isLoad children accepted notPointer
  exact {
    mismatch_iff := by simp [resolved, isLoad]
    store := by simp [isLoad]
    load := fun _ => ⟨operand, children, fun isPointer => absurd isPointer notPointer,
      fun _ => resolved⟩
    broken := by
      intro reason isBroken
      rw [resolved] at isBroken
      cases isBroken
      rfl
    ok_iff := remembers.ok_iff
    bound_iff := fun _ _ chain => remembers.resolves_iff chain }

theorem Remembers.resolution_of_chain (remembers : graph.Remembers record)
    (wellFormed : graph.WellFormed) (found : graph.lookup handle = .ok node)
    (chain : graph.Chain handle pointer addr) : graph.Resolution record handle node := by
  have located := remembers.located chain
  have accesses : node.opcode = .load ∨ node.opcode = .store := by
    simpa [opcode_of_lookup found] using chain.isAccess
  exact {
    mismatch_iff := by
      refine iff_of_false ?_ (fun neither => accesses.elim neither.1 neither.2)
      rintro ⟨expected, other, isMismatch⟩
      cases remembers.fault_of_chain chain isMismatch
    store := fun _ => located
    load := by
      intro isLoad
      obtain ⟨operand, children⟩ := wellFormed.load_operand found isLoad
      obtain ⟨other, foundAgain, isFirst⟩ := chain.toPointer
      obtain rfl := Except.ok.inj (found.symm.trans foundAgain)
      rw [children] at isFirst
      obtain rfl := Option.some.inj isFirst
      exact ⟨operand, children, fun _ => located, absurd chain.isPointer⟩
    broken := by
      intro reason isBroken
      cases remembers.fault_of_chain chain isBroken
    ok_iff := remembers.ok_iff
    bound_iff := fun _ _ chain => remembers.resolves_iff chain }

theorem Remembers.resolution (remembers : graph.Remembers record) (wellFormed : graph.WellFormed)
    (closed : graph.Closed) (found : graph.lookup handle = .ok node) :
    graph.Resolution record handle node := by
  rcases chain_cases wellFormed found with
    ⟨notLoad, notStore⟩ | ⟨isLoad, operand, children, notPointer⟩ | ⟨pointer, addr, chain⟩
  · exact remembers.resolution_of_other found notLoad notStore
  · have accepted := closed.children handle node found operand (by simp [children])
    exact remembers.resolution_of_chainless found isLoad children accepted notPointer
  · exact remembers.resolution_of_chain wellFormed found chain

end

end Graph

namespace Session

def bindings (session : Session) (step : Step) : List (Handle × Address) :=
  match step, (session.step step).2.answer with
  | .construct _ construction _, .ok (.built handle _) => construction.bindings handle
  | .mutate _ mutation, .ok _ => (mutation.map session.resolve).bindings
  | _, _ => []

section

variable {session : Session} {index : Nat} {step : Step} {graph : Graph}

theorem bindings_refused {refusal : Refusal}
    (refused : (session.step step).2.answer = .error refusal) : session.bindings step = [] := by
  cases step <;> simp only [bindings, refused]

theorem bindings_changes (step : Step) (found : session.graphs[index]? = some graph) :
    graph.gather Graph.bindings (session.changes index graph step) =
      toldAt bindings session index step := by
  by_cases directed : step.target? = some index
  · rw [toldAt, if_pos directed]
    apply changes_replied (P := fun changes =>
      graph.gather Graph.bindings changes = session.bindings step) found directed
    · intro refusal _ refused
      exact (bindings_refused (congrArg Reply.answer refused)).symm
    · rintro construction name plan rfl planned after done
      have bound := Construction.bindings_plan planned
      rw [Construction.bindings_map] at bound
      simp only [bindings, done]
      exact bound
    · rintro root pointer value name plan rfl planned _ _
      exact Graph.planStore_unbound planned
    · rintro mutation plan rfl planned done
      simp only [bindings, done]
      exact Mutation.bindings_plan planned
  · rw [changes_other directed, toldAt, if_neg directed]
    rfl

end

/-- Only a load of something else than a pointer has a broken chain.  Every other memory access has
the address its address node was bound to last, as soon as it was bound at all, and has one from
then on. -/
theorem addresses_resolved (steps : List Step)
    (noReplace : ∀ step ∈ steps, step.isReplace = false) (index : Nat) (graph : Graph)
    (found : (start.run steps).graphs[index]? = some graph) :
    (∃ record, (chronicles bindings steps)[index]? = some record ∧
      ∀ handle node, graph.lookup handle = .ok node → graph.Resolution record handle node) ∧
    ∀ later, (∀ step ∈ later, step.isReplace = false) →
      ∃ after, ((start.run steps).run later).graphs[index]? = some after ∧
        ∀ handle, graph.Resolves handle → after.Resolves handle := by
  constructor
  · have recorded : Chronicled Graph.Remembers (start.run steps) (chronicles bindings steps) :=
      chronicled_of_changes Graph.remembers_empty
        (fun _ _ _ remembers valid => remembers.apply valid)
        (fun _ step _ _ isGraph => bindings_changes step isGraph) steps noReplace
    obtain ⟨record, isRecord, remembers⟩ := recorded.keeps index graph found
    have member := Array.mem_of_getElem? found
    have closed := graphs_of_changes Graph.closed_empty (fun _ _ closed valid => closed.apply valid)
      steps noReplace graph member
    have wellFormed := graphs_of_changes (P := Graph.WellFormed) (by simp [Graph.WellFormed])
      (fun _ _ wellFormed valid => wellFormed.apply valid) steps noReplace graph member
    exact ⟨record, isRecord, fun _ _ isNode => remembers.resolution wellFormed closed isNode⟩
  · intro later noReplaceLater
    obtain ⟨changes, isAfter⟩ := run_graph_kept later noReplaceLater found
    exact ⟨_, isAfter, fun _ resolves => resolves.applyAll changes⟩

def locating : List Step :=
  [.construct 0 .placeholder (some "a"),
    .construct 0 (.pointer (some "a")) (some "p"),
    .construct 0 (.load (some "p")) (some "first"),
    .mutate 0 (.bindAddress (some "a") ⟨"x", .float32, 0⟩),
    .mutate 0 (.bindAddress (some "p") ⟨"x", .float32, 1⟩),
    .construct 0 (.setName (some "a") "origin") (some "alias"),
    .cloneGraph 0,
    .mutate 1 (.bindAddress (some "alias") ⟨"x", .float32, 2⟩),
    .construct 1 (.load (some "first")) (some "broken")]

theorem locating_resolved :
    (∀ step ∈ locating, step.isReplace = false) ∧
      ∃ graph, (start.run locating).graphs[1]? = some graph ∧
        graph.resolvedAddress (.ref 0 2) = .ok ⟨"x", .float32, 2⟩ ∧
        (∃ record, (chronicles bindings locating)[1]? = some record ∧
          ∀ handle node, graph.lookup handle = .ok node → graph.Resolution record handle node) ∧
        ∀ later, (∀ step ∈ later, step.isReplace = false) →
          ∃ after, ((start.run locating).run later).graphs[1]? = some after ∧
            ∀ handle, graph.Resolves handle → after.Resolves handle :=
  ⟨by decide, _, rfl, rfl, addresses_resolved locating (by decide) 1 _ rfl⟩

end Session

end ExprGraph
