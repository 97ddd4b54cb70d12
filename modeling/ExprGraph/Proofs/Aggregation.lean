import ExprGraph.Proofs.Session.Impact

/-!
Stores are collected without loss.  The chronicle of a session is taken from its steps and their
answers alone, and the children of every combine node can be read off it, however many roots there
are, under however many names, and whatever else is done or refused in between.
-/

namespace ExprGraph

namespace Session

structure Aggregates (session : Session) (step : Step) (index : Nat) (graph after : Graph) :
    Prop where
  children : ∀ collector node, graph.lookup collector = .ok node → node.opcode = .combine →
    ∃ later, after.lookup collector = .ok later ∧ later.opcode = .combine ∧
      later.children = node.children ++ stores (toldAt entries session index step) collector
  known : ∀ target root pointer value name, step = .store target root pointer value name →
    session.resolve root ≠ .empty →
      after.opcodes = graph.opcodes ∨ after.opcodes = graph.opcodes ++ [.store]
  first : ∀ root pointer value name store shown collector children,
    step = .store index root pointer value name → session.resolve root = .empty →
      (session.step step).2.answer = .ok (.stored store shown collector children) →
        after.opcodes = graph.opcodes ++ [.combine, .store] ∧
          collector = graph.handleAt graph.size ∧ store = graph.handleAt (graph.size + 1)

theorem opcodes_store_known {graph : Graph} {root pointer value : Handle}
    (known : root ≠ .empty) :
    let after := graph.applyAll (Plan.changesOf (graph.planStore root pointer value))
    after.opcodes = graph.opcodes ∨ after.opcodes = graph.opcodes ++ [.store] := by
  intro after
  cases decided : graph.planStore root pointer value with
  | error fault =>
      left
      simp only [after, decided]
      rfl
  | ok plan =>
      right
      obtain ⟨_, _, returned⟩ := ok_of_bind decided
      obtain rfl := Except.ok.inj returned
      cases root with
      | empty => exact (known rfl).elim
      | ref owner position =>
          simp only [after, decided]
          exact (Graph.opcodes_edit _ _ _).trans (Graph.opcodes_add graph _)

theorem opcodes_store_first {graph : Graph} {pointer value : Handle}
    {plan : Plan (Handle × Handle)} (planned : graph.planStore .empty pointer value = .ok plan) :
    (graph.applyAll plan.changes).opcodes = graph.opcodes ++ [.combine, .store] ∧
      plan.answer = (graph.handleAt graph.size, graph.handleAt (graph.size + 1)) := by
  obtain ⟨_, _, returned⟩ := ok_of_bind planned
  obtain rfl := Except.ok.inj returned
  constructor
  · have collector := Graph.opcodes_add graph (graph.draft .combine [])
    refine (Graph.opcodes_edit _ _ _).trans ((Graph.opcodes_add _ _).trans ?_)
    exact (congrArg (· ++ [.store]) collector).trans (List.append_assoc _ _ _)
  · have grown := Graph.size_add graph (graph.draft .combine [])
    exact Prod.ext rfl (congrArg graph.handleAt grown)

theorem aggregates_step {session : Session} {step : Step} {index : Nat} {graph : Graph}
    (found : session.graphs[index]? = some graph) :
    session.Aggregates step index graph
      (graph.applyAll (session.changes index graph step)) where
  children := by
    intro collector node isNode isCombine
    obtain ⟨later, isLater, sameOpcode, grown⟩ := (step_impact step found).children isNode
    exact ⟨later, isLater, sameOpcode.trans isCombine, grown⟩
  known := by
    rintro target root pointer value name rfl known
    by_cases here : target = index
    · subst here
      simp only [changes, Step.target?, if_true]
      exact opcodes_store_known known
    · left
      rw [changes_other (by simpa [Step.target?] using here)]
      rfl
  first := by
    rintro root pointer value name store shown collector children rfl isEmpty answered
    simp only [changes, Step.target?, if_true]
    cases decided : graph.planStore (session.resolve root) (session.resolve pointer)
        (session.resolve value) with
    | error fault =>
        rw [step_store_refused found decided] at answered
        cases answered
    | ok plan =>
        rw [step_store_done found decided] at answered
        rw [isEmpty] at decided
        obtain ⟨allocated, isAnswer⟩ := opcodes_store_first decided
        cases answered
        exact ⟨allocated, congrArg Prod.fst isAnswer, congrArg Prod.snd isAnswer⟩

theorem keeps_step (session : Session) (step : Step) (index : Nat) (graph : Graph)
    (record : List Entry) (found : session.graphs[index]? = some graph)
    (keeps : graph.Keeps record) :
    (graph.applyAll (session.changes index graph step)).Keeps
      (record ++ toldAt entries session index step) :=
  keeps.impact (step_impact step found)

/-- The children of every combine node are those it was made over and then the stores handed to it,
each once and in order; whatever is done next adds at most one store that succeeds. -/
theorem stores_aggregated (steps : List Step)
    (noReplace : ∀ step ∈ steps, step.isReplace = false) (index : Nat) (graph : Graph)
    (found : (start.run steps).graphs[index]? = some graph) :
    (∃ record, (chronicles entries steps)[index]? = some record ∧ graph.Agrees record) ∧
      ∀ step, step.isReplace = false →
        ∃ after, ((start.run steps).step step).1.graphs[index]? = some after ∧
          (start.run steps).Aggregates step index graph after := by
  constructor
  · have recorded := chronicled_run Graph.Keeps.empty keeps_step steps noReplace
    obtain ⟨record, isRecord, keeps⟩ := recorded.keeps index graph found
    exact ⟨record, isRecord, keeps.agrees⟩
  · intro step notReplace
    exact ⟨_, step_graph_kept notReplace found, aggregates_step found⟩

def collecting : List Step :=
  [.construct 0 (.addr ⟨"x", .float32, 0⟩) (some "a"),
    .construct 0 (.pointer (some "a")) (some "p"),
    .construct 0 (.constant (.int32 2)) (some "v"),
    .construct 0 (.create .combine [some "v"]) (some "root"),
    .store 0 "root" (some "p") (some "v") none,
    .store 0 "other" (some "p") (some "v") none,
    .construct 0 (.setName (some "root") "sum") (some "alias"),
    .store 0 "alias" (some "p") (some "p") none,
    .store 0 "root" (some "v") (some "p") none,
    .cloneGraph 0,
    .store 1 "root" (some "p") (some "v") none]

theorem collecting_aggregated :
    (∀ step ∈ collecting, step.isReplace = false) ∧
      ∃ graph, (start.run collecting).graphs[1]? = some graph ∧
        (view graph (.ref 0 3)).map Node.children =
          some [.ref 0 2, .ref 0 4, .ref 0 7, .ref 0 8] ∧
        (∃ record, (chronicles entries collecting)[1]? = some record ∧ graph.Agrees record) ∧
        ∀ step, step.isReplace = false →
          ∃ after, ((start.run collecting).step step).1.graphs[1]? = some after ∧
            (start.run collecting).Aggregates step 1 graph after :=
  ⟨by decide, _, rfl, rfl, stores_aggregated collecting (by decide) 1 _ rfl⟩

end Session

end ExprGraph
