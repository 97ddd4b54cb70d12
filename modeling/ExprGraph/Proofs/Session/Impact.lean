import ExprGraph.Proofs.Graph.Frame
import ExprGraph.Proofs.Session.Chronicle

/-!
What a step does to combine nodes.  Every step is quiet, makes one combine node, or hands one new
store node to a collector (`Impact`), and its answer tells which (`step_impact`).
-/

namespace ExprGraph

namespace Session

def entries (session : Session) (step : Step) : List Entry :=
  match step, (session.step step).2.answer with
  | .construct _ (.create opcode children) _, .ok (.built handle _) =>
    if opcode = .combine then [.created handle (children.map session.resolve)] else []
  | .store _ root _ _ _, .ok (.stored store _ collector _) =>
    if session.resolve root = .empty then [.created collector [], .stored collector store]
    else [.stored (session.resolve root) store]
  | _, _ => []

end Session

/-- What the changes of a step are to the record, and what the step has checked before. -/
inductive Impact (graph : Graph) : List Change → List Entry → Prop
  | quiet {changes : List Change} : (∀ change ∈ changes, change.Quiet) → Impact graph changes []
  | create {children : List Handle} : (∀ child ∈ children, graph.Accepts child) →
      Impact graph [.add .asked (graph.draft .combine children)] [.created graph.next children]
  | store {root : Handle} {draft : Draft} : graph.Accepts root → draft.opcode = .store →
      Impact graph [.add .asked draft, .edit root (.collect graph.next)] [.stored root graph.next]
  | storeFirst {first second : Draft} : first.opcode = .combine → first.children = [] →
      second.opcode = .store →
      Impact graph [.add .collects first, .add .asked second,
          .edit graph.next (.collect (graph.add first).next)]
        [.created graph.next [], .stored graph.next (graph.add first).next]

theorem Impact.idle (graph : Graph) : Impact graph [] [] := by
  apply Impact.quiet
  intro change member
  cases member

theorem Graph.Keeps.impact {graph : Graph} {record entries : List Entry} {changes : List Change}
    (keeps : graph.Keeps record) (impact : Impact graph changes entries) :
    (graph.applyAll changes).Keeps (record ++ entries) := by
  cases impact with
  | quiet quiet =>
      rw [List.append_nil]
      exact keeps.quietAll quiet
  | create accepted => exact keeps.create .asked accepted
  | store accepted isStore => exact keeps.store .asked (by simp [isStore]) accepted
  | @storeFirst first second _ noChildren isStore =>
      have created : (graph.add first).Keeps (record ++ [.created graph.next first.children]) :=
        keeps.create .collects (by simp [noChildren])
      rw [noChildren] at created
      have accepted : (graph.add first).Accepts graph.next := accepts_add_new graph first
      have stored := created.store .asked (by simp [isStore] : second.opcode ≠ .combine) accepted
      rw [List.append_assoc] at stored
      exact stored

theorem Graph.children_applyAll_quiet {graph : Graph} {handle : Handle} {node : Node}
    {changes : List Change} (quiet : ∀ change ∈ changes, change.Quiet)
    (found : graph.lookup handle = .ok node) :
    ∃ after, (graph.applyAll changes).lookup handle = .ok after ∧ after.opcode = node.opcode ∧
      after.children = node.children := by
  induction changes generalizing graph node with
  | nil => exact ⟨node, found, rfl, rfl⟩
  | cons change rest ih =>
      have restQuiet : ∀ later ∈ rest, later.Quiet :=
        fun later member => quiet later (List.mem_cons_of_mem _ member)
      obtain ⟨first, isFirst, kept | ⟨edit, rfl, edited⟩⟩ := lookup_apply_of_ok change found
      · rw [kept] at isFirst
        exact ih restQuiet isFirst
      · have sameChildren := (quiet _ List.mem_cons_self).children node
        obtain ⟨after, isAfter, sameOpcode, same⟩ := ih restQuiet isFirst
        rw [edited, Edit.opcode_apply] at sameOpcode
        rw [edited, sameChildren] at same
        exact ⟨after, isAfter, sameOpcode, same⟩

theorem Graph.children_collect {graph : Graph} {root handle : Handle} {node : Node}
    (store : Handle) (found : graph.lookup handle = .ok node) :
    ∃ after, (graph.apply (.edit root (.collect store))).lookup handle = .ok after ∧
      after.opcode = node.opcode ∧
      after.children = node.children ++ stores [.stored root store] handle := by
  by_cases isRoot : handle = root
  · subst isRoot
    refine ⟨_, lookup_edit_same _ found, rfl, ?_⟩
    simp [stores, Entry.store?, Edit.apply]
  · refine ⟨node, (lookup_edit_other _ isRoot).trans found, rfl, ?_⟩
    simp [stores, Entry.store?, Ne.symm isRoot]

theorem Impact.children {graph : Graph} {entries : List Entry} {changes : List Change}
    {handle : Handle} {node : Node} (impact : Impact graph changes entries)
    (found : graph.lookup handle = .ok node) :
    ∃ after, (graph.applyAll changes).lookup handle = .ok after ∧ after.opcode = node.opcode ∧
      after.children = node.children ++ stores entries handle := by
  cases impact with
  | quiet quiet =>
      obtain ⟨after, isAfter, sameOpcode, same⟩ := Graph.children_applyAll_quiet quiet found
      exact ⟨after, isAfter, sameOpcode, same.trans (List.append_nil _).symm⟩
  | create accepted =>
      exact ⟨node, Graph.lookup_add_of_ok _ found, rfl, (List.append_nil _).symm⟩
  | @store root draft accepted isStore =>
      exact Graph.children_collect graph.next (Graph.lookup_add_of_ok draft found)
  | @storeFirst first second _ _ _ =>
      have added := Graph.lookup_add_of_ok second (Graph.lookup_add_of_ok first found)
      exact Graph.children_collect (graph.add first).next added

def Graph.opcodes (graph : Graph) : List Opcode := graph.nodes.toList.map Node.opcode

@[simp] theorem Graph.opcodes_add (graph : Graph) (draft : Draft) :
    (graph.add draft).opcodes = graph.opcodes ++ [draft.opcode] := by
  simp [opcodes, add, push, Draft.node]

@[simp] theorem Graph.opcodes_edit (graph : Graph) (handle : Handle) (edit : Edit) :
    (graph.apply (.edit handle edit)).opcodes = graph.opcodes :=
  map_nodes_edit (fun node => edit.opcode_apply node) graph handle

theorem Graph.planStore_impact {graph : Graph} {root pointer value : Handle}
    {plan : Plan (Handle × Handle)} (planned : graph.planStore root pointer value = .ok plan) :
    Impact graph plan.changes
      (if root = .empty then [.created plan.answer.1 [], .stored plan.answer.1 plan.answer.2]
        else [.stored root plan.answer.2]) := by
  obtain ⟨_, checked, returned⟩ := ok_of_bind planned
  obtain rfl := Except.ok.inj returned
  obtain ⟨_, _, isRoot⟩ := (checkStore_eq_ok_iff _ _ _ _).mp checked
  cases root with
  | empty => exact .storeFirst rfl rfl rfl
  | ref owner position => exact .store (accepts_of_opcode (opcode_of_root isRoot)) rfl

namespace Session

theorem entries_refused {session : Session} {step : Step} {refusal : Refusal}
    (refused : (session.step step).2.answer = .error refusal) : session.entries step = [] := by
  simp only [entries, refused]

theorem construct_impact {session : Session} {target : Nat} {graph : Graph}
    {construction : Construction Operand} {name : Option String} {plan : Plan Handle}
    {shown : Option Node} (planned : (construction.map session.resolve).plan graph = .ok plan)
    (answered : (session.step (.construct target construction name)).2.answer =
      .ok (.built plan.answer shown)) :
    Impact graph plan.changes (session.entries (.construct target construction name)) := by
  by_cases isCombine : ∃ operands, construction = .create .combine operands
  · obtain ⟨operands, rfl⟩ := isCombine
    obtain ⟨accepted, rfl⟩ := Graph.planCreate_cases planned
    simp only [entries, answered, if_true]
    exact .create accepted
  · have noEntries : session.entries (.construct target construction name) = [] := by
      simp only [entries, answered]
      cases construction with
      | create opcode operands =>
          have notCombine : opcode ≠ .combine := by
            rintro rfl
            exact isCombine ⟨operands, rfl⟩
          simp only [notCombine, if_false]
      | _ => rfl
    rw [noEntries]
    apply Impact.quiet
    apply Construction.plan_quiet planned
    intro children same
    cases construction with
    | create opcode operands =>
        cases same
        exact isCombine ⟨operands, rfl⟩
    | _ => cases same

theorem step_impact {session : Session} {index : Nat} {graph : Graph} (step : Step)
    (found : session.graphs[index]? = some graph) :
    Impact graph (session.changes index graph step) (toldAt entries session index step) := by
  by_cases directed : step.target? = some index
  · rw [toldAt, if_pos directed]
    apply changes_replied (P := fun changes => Impact graph changes (session.entries step)) found
      directed
    · intro refusal _ refused
      rw [entries_refused (congrArg Reply.answer refused)]
      exact .idle graph
    · rintro construction name plan rfl planned after done
      exact construct_impact planned (congrArg (·.2.answer) done)
    · rintro root pointer value name plan rfl planned after done
      simp only [entries, done]
      exact Graph.planStore_impact planned
    · rintro mutation plan rfl planned _
      simp only [entries]
      exact .quiet (Mutation.plan_quiet planned)
  · rw [changes_other directed, toldAt, if_neg directed]
    exact .idle graph

end Session

end ExprGraph
