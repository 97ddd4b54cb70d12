import ExprGraph.Proofs.Graph.Frame
import ExprGraph.Proofs.Session.Chronicle

/-!
Nodes are numbered in the order they are added.  The counter and the arena advance together, in
every request and on every path through it, so that the numbers in a graph go up from zero since its
numbering was restarted last.  Main statement: `nodes_numbered`.
-/

namespace ExprGraph

/-- The size the graph had when it was restarted last, and zero when it never was. -/
def lastRestart (restarts : List Nat) : Nat := restarts.getLastD 0

theorem lastRestart_append (restarts : List Nat) (size : Nat) :
    lastRestart (restarts ++ [size]) = size :=
  List.getLastD_concat

namespace Graph

structure Numbered (graph : Graph) (restarts : List Nat) : Prop where
  restarted : lastRestart restarts ≤ graph.size
  numbers : ∀ position node, graph.lookup (graph.handleAt position) = .ok node →
    lastRestart restarts ≤ position →
      node.id.toNat = (position - lastRestart restarts) % UInt32.size
  next : graph.numbering.next.toNat = (graph.size - lastRestart restarts) % UInt32.size

def restarts (graph : Graph) : Change → List Nat
  | .restart => [graph.size]
  | _ => []

section

variable {graph : Graph} {restarts : List Nat} {changes : List Change}

theorem numbered_empty (id : UInt32) (options : Options) :
    Numbered { id := id, options := options } [] where
  restarted := Nat.le_refl 0
  numbers := by
    intro position node found
    exact (not_accepts_empty id options _ ⟨node, found⟩).elim
  next := rfl

theorem toNat_next (number : UInt32) : (number + 1).toNat = (number.toNat + 1) % UInt32.size :=
  UInt32.toNat_add number 1

theorem Numbered.add (numbered : graph.Numbered restarts) (draft : Draft) :
    (graph.add draft).Numbered restarts where
  restarted := by
    rw [size_add]
    exact Nat.le_succ_of_le numbered.restarted
  numbers := by
    intro position node found since
    rcases lookup_add_cases found with old | ⟨isNew, rfl⟩
    · exact numbered.numbers position node old since
    · obtain ⟨_, rfl⟩ := Handle.ref.inj isNew
      exact numbered.next
  next := by
    have drawn : (graph.add draft).numbering.next = graph.numbering.next + 1 := rfl
    rw [drawn, toNat_next, numbered.next, size_add, Nat.mod_add_mod,
      ← Nat.sub_add_comm numbered.restarted]

theorem numbering_edit (graph : Graph) (handle : Handle) (edit : Edit) :
    (graph.apply (.edit handle edit)).numbering = graph.numbering := by
  simp only [apply]
  cases graph.lookup handle with
  | error fault => rfl
  | ok node => cases handle <;> rfl

theorem Numbered.edit (numbered : graph.Numbered restarts) (handle : Handle) (edit : Edit) :
    (graph.apply (.edit handle edit)).Numbered restarts where
  restarted := by
    rw [size_edit]
    exact numbered.restarted
  numbers := by
    intro position node found since
    rw [handleAt, id_apply] at found
    rcases lookup_apply_cases found with old | ⟨_, _, isAdd, _⟩ | ⟨part, old, _, isOld, rfl⟩
    · exact numbered.numbers position node old since
    · cases isAdd
    · rw [← numbered.numbers position old isOld since]
      cases part <;> rfl
  next := by
    rw [numbering_edit, size_edit]
    exact numbered.next

theorem numbered_restart (graph : Graph) (restarts : List Nat) :
    (graph.apply .restart).Numbered (restarts ++ [graph.size]) where
  restarted := by
    rw [lastRestart_append]
    exact Nat.le_refl graph.size
  numbers := by
    intro position node found since
    have bound := ((graph.apply .restart).accepts_handleAt_iff position).mp ⟨node, found⟩
    rw [lastRestart_append] at since
    exact absurd bound (Nat.not_lt_of_le since)
  next := by
    rw [lastRestart_append, show (graph.apply .restart).size = graph.size from rfl, Nat.sub_self]
    rfl

theorem restarts_eq_nil (graph : Graph) {change : Change} (going : change ≠ .restart) :
    graph.restarts change = [] := by
  cases change with
  | restart => exact absurd rfl going
  | _ => rfl

theorem Numbered.apply (numbered : graph.Numbered restarts) (change : Change) :
    (graph.apply change).Numbered (restarts ++ graph.restarts change) := by
  cases change with
  | add cause draft =>
      rw [show graph.restarts (.add cause draft) = [] from rfl, List.append_nil]
      exact numbered.add draft
  | edit handle edit =>
      rw [show graph.restarts (.edit handle edit) = [] from rfl, List.append_nil]
      exact numbered.edit handle edit
  | restart => exact numbered_restart graph restarts

theorem next_applyAll (going : ∀ change ∈ changes, change ≠ .restart) :
    ∃ count, (graph.applyAll changes).size = graph.size + count ∧
      (graph.applyAll changes).numbering.next.toNat =
        (graph.numbering.next.toNat + count) % UInt32.size := by
  induction changes generalizing graph with
  | nil => exact ⟨0, rfl, (Nat.mod_eq_of_lt graph.numbering.next.toNat_lt).symm⟩
  | cons change rest ih =>
      have later := fun other member => going other (List.mem_cons_of_mem change member)
      obtain ⟨count, sized, drawn⟩ : ∃ count,
          ((graph.apply change).applyAll rest).size = (graph.apply change).size + count ∧
            ((graph.apply change).applyAll rest).numbering.next.toNat =
              ((graph.apply change).numbering.next.toNat + count) % UInt32.size :=
        ih later
      cases change with
      | restart => exact absurd rfl (going .restart List.mem_cons_self)
      | add cause draft =>
          have first : (graph.apply (.add cause draft)).numbering.next =
              graph.numbering.next + 1 := rfl
          refine ⟨count + 1, ?_, ?_⟩
          · have applied : graph.apply (.add cause draft) = graph.add draft := rfl
            rw [applyAll_cons, sized, applied, size_add]
            omega
          · rw [applyAll_cons, drawn, first, toNat_next, Nat.mod_add_mod, Nat.add_assoc,
              Nat.add_comm 1 count]
      | edit handle edit =>
          rw [size_edit] at sized
          rw [numbering_edit] at drawn
          exact ⟨count, sized, drawn⟩

end

end Graph

theorem Construction.plan_going {construction : Construction Handle} {graph : Graph}
    {plan : Plan Handle} (planned : construction.plan graph = .ok plan) :
    ∀ change ∈ plan.changes, change ≠ .restart := by
  rintro change member rfl
  rcases plan_cases planned with ⟨_, _, _, named⟩ | ⟨_, _, created⟩ | plain
  · simp [named] at member
  · simp [created] at member
  · exact plain _ member

theorem Graph.planStore_going {graph : Graph} {root pointer value : Handle}
    {plan : Plan (Handle × Handle)} (planned : graph.planStore root pointer value = .ok plan) :
    ∀ change ∈ plan.changes, change ≠ .restart := by
  rintro change member rfl
  obtain ⟨_, _, returned⟩ := ok_of_bind planned
  obtain rfl := Except.ok.inj returned
  cases root <;> simp [planCollector, Handle.isEmpty] at member

theorem Mutation.plan_going {mutation : Mutation Handle} {graph : Graph} {plan : Plan Unit}
    (planned : mutation.plan graph = .ok plan) (notReset : mutation ≠ .resetCounter) :
    ∀ change ∈ plan.changes, change ≠ .restart := by
  rintro change member rfl
  rcases plan_cases planned with ⟨isReset, _⟩ | ⟨_, _, _, _, _, edited⟩
  · exact notReset isReset
  · simp [edited] at member

namespace Session

def restarts (session : Session) : Step → List Nat
  | .mutate target .resetCounter => (session.graphs[target]?.map Graph.size).toList
  | _ => []

structure Draws (session : Session) (index : Nat) (step : Step) (graph after : Graph) : Prop where
  refused : ∀ refusal, (session.step step).2.answer = .error refusal → after = graph
  restarted : step = .mutate index .resetCounter → after = { graph with numbering := {} }
  drawn : step ≠ .mutate index .resetCounter → ∃ count, after.size = graph.size + count ∧
    after.numbering.next.toNat = (graph.numbering.next.toNat + count) % UInt32.size

section

variable {session : Session} {index : Nat} {step : Step} {graph : Graph}

theorem changes_going (notReset : step ≠ .mutate index .resetCounter) :
    ∀ change ∈ session.changes index graph step, change ≠ .restart := by
  apply changes_cases (P := fun changes => ∀ change ∈ changes, change ≠ .restart)
  · intro change member
    cases member
  · intro construction name plan _ planned
    exact Construction.plan_going planned
  · intro root pointer value name plan _ planned
    exact Graph.planStore_going planned
  · intro mutation plan isMutate planned
    apply Mutation.plan_going planned
    intro isReset
    cases mutation with
    | resetCounter => exact notReset isMutate
    | _ => cases isReset

theorem told_eq_nil (notReset : step ≠ .mutate index .resetCounter) :
    toldAt restarts session index step = [] := by
  unfold toldAt restarts
  split
  next directed =>
    split
    next target =>
      obtain rfl := Option.some.inj directed
      exact absurd rfl notReset
    next => rfl
  next => rfl

theorem restarts_changes (step : Step) (found : session.graphs[index]? = some graph) :
    graph.gather Graph.restarts (session.changes index graph step) =
      toldAt restarts session index step := by
  by_cases isReset : step = .mutate index .resetCounter
  · subst isReset
    simp only [changes, toldAt, Step.target?, restarts, found, if_true]
    rfl
  · rw [Graph.gather_eq_nil, told_eq_nil isReset]
    intro change member graph
    exact graph.restarts_eq_nil (changes_going isReset change member)

theorem changes_refused {refusal : Refusal} (found : session.graphs[index]? = some graph)
    (refused : (session.step step).2.answer = .error refusal) :
    session.changes index graph step = [] := by
  by_cases directed : step.target? = some index
  · exact (step_carries directed found).refused refusal refused
  · exact changes_other directed

theorem draws_step (found : session.graphs[index]? = some graph) :
    session.Draws index step graph (graph.applyAll (session.changes index graph step)) where
  refused := by
    intro refusal refused
    rw [changes_refused found refused, Graph.applyAll_nil]
  restarted := by
    rintro rfl
    simp only [changes, Step.target?, if_true]
    rfl
  drawn := fun notReset => Graph.next_applyAll (changes_going notReset)

theorem record_eq_nil {steps : List Step} {record : List Nat}
    (noReplace : ∀ step ∈ steps, step.isReplace = false)
    (noReset : ∀ target, .mutate target .resetCounter ∉ steps)
    (found : (start.run steps).graphs[index]? = some graph)
    (isRecord : (chronicles restarts steps)[index]? = some record) : record = [] := by
  have recorded : Chronicled (fun _ record => record = []) (start.run steps)
      (chronicles restarts steps) := by
    refine chronicled_run_of_mem steps (fun _ _ => rfl) ?_ noReplace
    rintro session step member place _ _ _ rfl
    apply told_eq_nil
    rintro rfl
    exact noReset place member
  obtain ⟨chronicle, isChronicle, rfl⟩ := recorded.keeps index graph found
  exact Option.some.inj (isRecord.symm.trans isChronicle)

end

/-- The nodes of a graph carry the numbers from zero on, in the order they were added in, since the
graph or one it was copied from later was restarted last; no other step skips a number, and without
any restart the number of a node is its position. -/
theorem nodes_numbered (steps : List Step) (noReplace : ∀ step ∈ steps, step.isReplace = false)
    (index : Nat) (graph : Graph) (found : (start.run steps).graphs[index]? = some graph) :
    (∃ record, (chronicles restarts steps)[index]? = some record ∧ graph.Numbered record) ∧
      (∀ step, step.isReplace = false →
        ∃ after, ((start.run steps).step step).1.graphs[index]? = some after ∧
          (start.run steps).Draws index step graph after) ∧
      ((∀ target, .mutate target .resetCounter ∉ steps) →
        ∀ position node, graph.nodes[position]? = some node →
          node.id.toNat = position % UInt32.size) := by
  have recorded : Chronicled Graph.Numbered (start.run steps) (chronicles restarts steps) :=
    chronicled_of_changes Graph.numbered_empty (fun _ _ change numbered _ => numbered.apply change)
      (fun _ step _ _ isGraph => restarts_changes step isGraph) steps noReplace
  obtain ⟨record, isRecord, numbered⟩ := recorded.keeps index graph found
  refine ⟨⟨record, isRecord, numbered⟩, ?_, ?_⟩
  · intro step notReplace
    exact ⟨_, step_graph_kept notReplace found, draws_step found⟩
  · intro noReset position node isNode
    obtain rfl := record_eq_nil noReplace noReset found isRecord
    have isNodeAt := (Graph.lookup_eq_ok_iff graph (graph.handleAt position) node).mpr
      ⟨position, rfl, isNode⟩
    exact numbered.numbers position node isNodeAt (Nat.zero_le position)

def renumbering : List Step :=
  [.construct 0 (.addr ⟨"x", .float32, 0⟩) (some "a"),
    .construct 0 (.pointer (some "a")) (some "p"),
    .mutate 0 .resetCounter,
    .construct 0 (.binary .add (some "p") (some "p")) (some "sum"),
    .construct 0 (.binary .add (some "p") none) none,
    .cloneGraph 0,
    .mutate 0 .resetCounter,
    .store 1 "root" (some "p") (some "sum") none]

theorem renumbering_numbered :
    (∀ step ∈ renumbering, step.isReplace = false) ∧
      ∃ graph, (start.run renumbering).graphs[1]? = some graph ∧
        graph.nodes.toList.map (fun node => node.id.toNat) = [0, 1, 0, 1, 2, 3, 4] ∧
        (∃ record, (chronicles restarts renumbering)[1]? = some record ∧
          graph.Numbered record) ∧
        (∀ step, step.isReplace = false →
          ∃ after, ((start.run renumbering).step step).1.graphs[1]? = some after ∧
            (start.run renumbering).Draws 1 step graph after) ∧
        ((∀ target, .mutate target .resetCounter ∉ renumbering) →
          ∀ position node, graph.nodes[position]? = some node →
            node.id.toNat = position % UInt32.size) :=
  ⟨by decide, _, rfl, rfl, nodes_numbered renumbering (by decide) 1 _ rfl⟩

end Session

end ExprGraph
