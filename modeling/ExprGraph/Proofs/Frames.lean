import ExprGraph.Proofs.Graph.Growth
import ExprGraph.Proofs.Session.Impact

/-!
A graph only grows, and a step changes of the nodes there are just what it is about.  `rewritten` is
the node a handle refers to after a step, `Framed` says part by part what may have become of it, and
`Lasts` what is left of a node after any number of steps.
-/

namespace ExprGraph

def Mutation.rewrite (handle : Handle) (node : Node) (mutation : Mutation Handle) : Node :=
  match mutation.edit? with
  | some (subject, edit) => if subject = handle then (edit node).apply node else node
  | none => node

theorem Mutation.rewrite_cases (mutation : Mutation Handle) (handle : Handle) (node : Node) :
    mutation.rewrite handle node = node ∨
      ∃ edit, mutation.edit? = some (handle, edit) ∧
        mutation.rewrite handle node = (edit node).apply node := by
  unfold rewrite
  cases decided : mutation.edit? with
  | none => exact .inl rfl
  | some chosen =>
      obtain ⟨subject, edit⟩ := chosen
      by_cases same : subject = handle
      · subst same
        exact .inr ⟨edit, rfl, if_pos rfl⟩
      · exact .inl (if_neg same)

namespace Session

def handed (session : Session) (index : Nat) (step : Step) (root : Handle) : List Handle :=
  match step, (session.step step).2.answer with
  | .store target name _ _ _, .ok (.stored store _ _ _) =>
    if target = index ∧ session.resolve name = root then [store] else []
  | _, _ => []

def rewritten (session : Session) (index : Nat) (step : Step) (handle : Handle) (node : Node) :
    Node :=
  match step, (session.step step).2.answer with
  | _, .error _ => node
  | .construct target (.setName operand name) _, .ok _ =>
    if target = index ∧ session.resolve operand = handle then { node with name := name } else node
  | .store _ _ _ _ _, .ok _ =>
    { node with children := node.children ++ session.handed index step handle }
  | .mutate target mutation, .ok _ =>
    if target = index then (mutation.map session.resolve).rewrite handle node else node
  | _, _ => node

structure Framed (session : Session) (index : Nat) (step : Step) (handle : Handle)
    (node now : Node) : Prop where
  opcode : now.opcode = node.opcode
  id : now.id = node.id
  immediate : now.immediate = node.immediate
  children : now.children = node.children ++ session.handed index step handle
  dataType : now.dataType = node.dataType ∨
    ∃ operand, step = .mutate index (.setDataType operand now.dataType) ∧
      session.resolve operand = handle
  name : now.name = node.name ∨
    ∃ operand, session.resolve operand = handle ∧
      (step = .mutate index (.setName operand now.name) ∨
        ∃ label, step = .construct index (.setName operand now.name) label)
  address : now.address = node.address ∨
    ∃ operand address, step = .mutate index (.bindAddress operand address) ∧
      session.resolve operand = handle ∧ now.address = some address
  members : now.members = node.members ∨
    ∃ group, session.resolve group = handle ∧
      ((∃ members, step = .mutate index (.setMembers group members) ∧
          now.members = members.map session.resolve) ∨
        ∃ member, step = .mutate index (.pushMember group member) ∧
          now.members = node.members ++ [session.resolve member])
  groupCount : now.groupCount = node.groupCount ∨
    ∃ operand count, session.resolve operand = handle ∧
      (step = .mutate index (.setGroupCount operand count) ∧ now.groupCount = count ∨
        step = .mutate index (.addGroupCount operand count) ∧
          now.groupCount = node.groupCount + count)
  vectorized : now.vectorized = node.vectorized ∨
    ∃ operand, step = .mutate index (.setVectorized operand now.vectorized) ∧
      session.resolve operand = handle

structure Frames (session : Session) (index : Nat) (step : Step) (graph after : Graph) : Prop where
  id : after.id = graph.id
  elsewhere : step.target? ≠ some index → after = graph
  nodes : ∀ handle node, graph.lookup handle = .ok node →
    after.lookup handle = .ok (session.rewritten index step handle node) ∧
      session.Framed index step handle node (session.rewritten index step handle node)
  added : step.target? = some index →
    after.signatures = graph.signatures ++ allocations (session.step step).2.events
  listed : after.Listed

def handedAll (session : Session) (index : Nat) (root : Handle) : List Step → List Handle
  | [] => []
  | step :: rest =>
    session.handed index step root ++ (session.step step).1.handedAll index root rest

structure Lasts (session : Session) (index : Nat) (steps : List Step) (graph after : Graph) :
    Prop where
  id : after.id = graph.id
  handles : graph.entries.map Prod.fst <+: after.entries.map Prod.fst
  signatures : graph.signatures <+: after.signatures
  nodes : ∀ handle node, graph.lookup handle = .ok node →
    ∃ now, after.lookup handle = .ok now ∧ node.Became now ∧
      now.children = node.children ++ session.handedAll index handle steps

section

variable {session : Session} {index : Nat} {step : Step} {handle : Handle} {node : Node}

theorem Framed.unchanged (node : Node) (nothing : session.handed index step handle = []) :
    session.Framed index step handle node node where
  opcode := rfl
  id := rfl
  immediate := rfl
  children := by rw [nothing, List.append_nil]
  dataType := .inl rfl
  name := .inl rfl
  address := .inl rfl
  members := .inl rfl
  groupCount := .inl rfl
  vectorized := .inl rfl

theorem handed_refused {refusal : Refusal} (refused : (session.step step).2.answer = .error refusal)
    (handle : Handle) : session.handed index step handle = [] := by
  cases step <;> simp only [handed, refused]

theorem rewritten_refused {refusal : Refusal}
    (refused : (session.step step).2.answer = .error refusal) (handle : Handle) (node : Node) :
    session.rewritten index step handle node = node := by
  cases step <;> simp only [rewritten, refused]

theorem framed_mutation (mutation : Mutation Operand) (node : Node) :
    session.Framed index (.mutate index mutation) handle node
      ((mutation.map session.resolve).rewrite handle node) := by
  have unchanged : session.Framed index (.mutate index mutation) handle node node :=
    .unchanged node rfl
  rcases (mutation.map session.resolve).rewrite_cases handle node with same | ⟨edit, isEdit, edited⟩
  · rw [same]
    exact unchanged
  · rw [edited]
    cases mutation with
    | setDataType operand dataType =>
        cases isEdit
        exact { unchanged with dataType := .inr ⟨operand, rfl, rfl⟩ }
    | setName operand name =>
        cases isEdit
        exact { unchanged with name := .inr ⟨operand, rfl, .inl rfl⟩ }
    | setGroupCount operand count =>
        cases isEdit
        exact { unchanged with groupCount := .inr ⟨operand, count, rfl, .inl ⟨rfl, rfl⟩⟩ }
    | addGroupCount operand count =>
        cases isEdit
        exact { unchanged with groupCount := .inr ⟨operand, count, rfl, .inr ⟨rfl, rfl⟩⟩ }
    | setVectorized operand vectorized =>
        cases isEdit
        exact { unchanged with vectorized := .inr ⟨operand, rfl, rfl⟩ }
    | setMembers group members =>
        cases isEdit
        exact { unchanged with members := .inr ⟨group, rfl, .inl ⟨members, rfl, rfl⟩⟩ }
    | pushMember group member =>
        cases isEdit
        exact { unchanged with members := .inr ⟨group, rfl, .inr ⟨member, rfl, rfl⟩⟩ }
    | bindAddress operand address =>
        cases isEdit
        exact { unchanged with address := .inr ⟨operand, address, rfl, rfl, rfl⟩ }
    | resetCounter => cases isEdit

theorem framed_rewritten (session : Session) (index : Nat) (step : Step) (handle : Handle)
    (node : Node) :
    session.Framed index step handle node (session.rewritten index step handle node) := by
  cases answered : (session.step step).2.answer with
  | error refusal =>
      rw [rewritten_refused answered]
      exact .unchanged node (handed_refused answered handle)
  | ok answer =>
      cases step with
      | construct target construction label =>
          have unchanged : session.Framed index (.construct target construction label) handle node
              node := .unchanged node rfl
          cases construction with
          | setName operand name =>
              simp only [rewritten, answered]
              by_cases here : target = index ∧ session.resolve operand = handle
              · rw [if_pos here]
                obtain ⟨rfl, isSubject⟩ := here
                exact { unchanged with name := .inr ⟨operand, isSubject, .inr ⟨label, rfl⟩⟩ }
              · rw [if_neg here]
                exact unchanged
          | _ => simpa only [rewritten, answered] using unchanged
      | store target root pointer value label =>
          simp only [rewritten, answered]
          exact ⟨rfl, rfl, rfl, rfl, .inl rfl, .inl rfl, .inl rfl, .inl rfl, .inl rfl, .inl rfl⟩
      | mutate target mutation =>
          simp only [rewritten, answered]
          by_cases here : target = index
          · subst here
            rw [if_pos rfl]
            exact framed_mutation mutation node
          · rw [if_neg here]
            exact .unchanged node rfl
      | _ =>
          simp only [rewritten, answered]
          exact .unchanged node rfl

theorem rewriteAll_construction {construction : Construction Handle} {graph : Graph}
    {plan : Plan Handle} (planned : construction.plan graph = .ok plan)
    (notNamed : ∀ handle name, construction ≠ .setName handle name) (handle : Handle)
    (node : Node) : rewriteAll handle node plan.changes = node := by
  rcases Construction.plan_cases planned with ⟨named, name, isName, _⟩ | ⟨_, _, created⟩ | plain
  · exact absurd isName (notNamed named name)
  · rw [created]
    rfl
  · exact rewriteAll_plain plain handle node

theorem rewriteAll_mutation {mutation : Mutation Handle} {graph : Graph} {plan : Plan Unit}
    (planned : mutation.plan graph = .ok plan) (found : graph.lookup handle = .ok node) :
    rewriteAll handle node plan.changes = mutation.rewrite handle node := by
  rcases Mutation.plan_cases planned with
    ⟨rfl, restarted⟩ | ⟨subject, old, edit, isOld, isEdit, edited⟩
  · rw [restarted]
    rfl
  · rw [edited]
    simp only [Mutation.rewrite, isEdit]
    by_cases same : subject = handle
    · subst same
      obtain rfl := Except.ok.inj (found.symm.trans isOld)
      rw [if_pos rfl]
      exact if_pos rfl
    · rw [if_neg same]
      exact if_neg same

theorem rewriteAll_store {graph : Graph} {root pointer value : Handle}
    {plan : Plan (Handle × Handle)} (planned : graph.planStore root pointer value = .ok plan)
    (found : graph.lookup handle = .ok node) :
    rewriteAll handle node plan.changes =
      { node with
        children := node.children ++ if root = handle then [plan.answer.2] else [] } := by
  obtain ⟨_, _, returned⟩ := ok_of_bind planned
  obtain rfl := Except.ok.inj returned
  cases root with
  | empty =>
      have notNew : graph.next ≠ handle := by
        rintro rfl
        exact graph.not_accepts_next ⟨node, found⟩
      have notEmpty : Handle.empty ≠ handle := Ne.symm (Graph.Accepts.nonempty ⟨node, found⟩)
      rw [if_neg notEmpty, List.append_nil]
      exact if_neg notNew
  | ref owner position =>
      by_cases same : .ref owner position = handle
      · rw [if_pos same]
        exact if_pos same
      · rw [if_neg same, List.append_nil]
        exact if_neg same

theorem handed_elsewhere (elsewhere : step.target? ≠ some index) (handle : Handle) :
    session.handed index step handle = [] := by
  unfold handed
  split
  next target name pointer value label store node root children isStore answered =>
    exact if_neg (fun here => elsewhere (congrArg some here.1))
  next => rfl

theorem rewritten_elsewhere (elsewhere : step.target? ≠ some index) (handle : Handle)
    (node : Node) : session.rewritten index step handle node = node := by
  unfold rewritten
  split
  next => rfl
  next target operand name label answer answered =>
    exact if_neg (fun here => elsewhere (congrArg some here.1))
  next =>
    rw [handed_elsewhere elsewhere, List.append_nil]
  next target mutation answer answered =>
    exact if_neg (fun here => elsewhere (congrArg some here))
  next => rfl

theorem rewriteAll_changes {graph : Graph} (step : Step)
    (isGraph : session.graphs[index]? = some graph) (found : graph.lookup handle = .ok node) :
    rewriteAll handle node (session.changes index graph step) =
      session.rewritten index step handle node := by
  by_cases directed : step.target? = some index
  · apply changes_replied (P := fun changes =>
      rewriteAll handle node changes = session.rewritten index step handle node) isGraph directed
    · intro refusal _ refused
      exact (rewritten_refused (congrArg Reply.answer refused) handle node).symm
    · rintro construction label plan rfl planned after done
      cases construction with
      | setName operand name =>
          obtain ⟨old, chosen, _, ⟨rfl⟩, rfl⟩ := Graph.planEdit_cases planned
          simp only [rewritten, done, true_and]
          rfl
      | _ =>
          simp only [rewritten, done]
          apply rewriteAll_construction planned
          rintro _ _ ⟨⟩
    · rintro root pointer value label plan rfl planned after done
      simp only [rewritten, handed, done, true_and]
      exact rewriteAll_store planned found
    · rintro mutation plan rfl planned done
      simp only [rewritten, done, if_true]
      exact rewriteAll_mutation planned found
  · rw [changes_other directed, rewritten_elsewhere directed]
    rfl

theorem frames_step {graph : Graph} (step : Step) (isGraph : session.graphs[index]? = some graph) :
    session.Frames index step graph (graph.applyAll (session.changes index graph step)) where
  id := Graph.id_applyAll graph _
  elsewhere := by
    intro elsewhere
    rw [changes_other elsewhere]
    rfl
  nodes := by
    intro handle node found
    refine ⟨?_, framed_rewritten session index step handle node⟩
    rw [← rewriteAll_changes step isGraph found]
    exact Graph.lookup_applyAll_of_ok _ found
  added := by
    intro directed
    rw [(step_carries directed isGraph).events]
    exact Graph.signatures_applyAll graph _
  listed := Graph.listed _

theorem Frames.signatures {graph after : Graph} (frames : session.Frames index step graph after) :
    graph.signatures <+: after.signatures := by
  by_cases directed : step.target? = some index
  · rw [frames.added directed]
    exact List.prefix_append _ _
  · obtain rfl := frames.elsewhere directed
    exact List.prefix_rfl

theorem handles_of_signatures {graph after : Graph} (sameId : after.id = graph.id)
    (signatures : graph.signatures <+: after.signatures) :
    graph.entries.map Prod.fst <+: after.entries.map Prod.fst := by
  have larger : graph.size ≤ after.size := by
    simpa [Graph.signatures, Graph.size] using signatures.length_le
  obtain ⟨more, isMore⟩ := Nat.exists_eq_add_of_le larger
  rw [Graph.entries_handles, Graph.entries_handles, sameId, isMore, List.range_add, List.map_append]
  exact List.prefix_append _ _

theorem lasts_run (steps : List Step) (noReplace : ∀ step ∈ steps, step.isReplace = false)
    {graph : Graph} (isGraph : session.graphs[index]? = some graph) :
    ∃ after, (session.run steps).graphs[index]? = some after ∧
      session.Lasts index steps graph after := by
  induction steps generalizing session graph with
  | nil =>
      refine ⟨graph, isGraph, rfl, List.prefix_rfl, List.prefix_rfl, ?_⟩
      intro handle node found
      exact ⟨node, found, ⟨rfl, rfl, rfl⟩, (List.append_nil _).symm⟩
  | cons step rest ih =>
      have frames := frames_step step isGraph
      have kept := step_graph_kept (noReplace step List.mem_cons_self) isGraph
      obtain ⟨after, isAfter, lasts⟩ :=
        ih (fun later member => noReplace later (List.mem_cons_of_mem _ member)) kept
      have sameId := lasts.id.trans frames.id
      have signatures := frames.signatures.trans lasts.signatures
      refine ⟨after, isAfter, sameId, handles_of_signatures sameId signatures, signatures, ?_⟩
      intro handle node found
      obtain ⟨between, framed⟩ := frames.nodes handle node found
      obtain ⟨now, isNow, became, children⟩ := lasts.nodes handle _ between
      have first : node.Became (session.rewritten index step handle node) :=
        ⟨framed.opcode, framed.id, framed.immediate⟩
      refine ⟨now, isNow, first.trans became, ?_⟩
      rw [children, framed.children, handedAll, List.append_assoc]

end

/-- Whatever has happened before, a step changes of the nodes of a graph only what it is about, and
its new nodes stand behind the others; without replaced nodes, all that building fixes in a node
stays as it is, and its children are joined by the stores handed to it and by nothing else. -/
theorem graph_only_grows (session : Session) (index : Nat) (graph : Graph)
    (isGraph : session.graphs[index]? = some graph) :
    graph.Listed ∧
      (∀ step, step.isReplace = false →
        ∃ after, (session.step step).1.graphs[index]? = some after ∧
          session.Frames index step graph after) ∧
      ∀ steps, (∀ step ∈ steps, step.isReplace = false) →
        ∃ after, (session.run steps).graphs[index]? = some after ∧
          session.Lasts index steps graph after := by
  refine ⟨graph.listed, ?_, ?_⟩
  · intro step notReplace
    exact ⟨_, step_graph_kept notReplace isGraph, frames_step step isGraph⟩
  · intro steps noReplace
    exact lasts_run steps noReplace isGraph

def completing : List Step :=
  [.construct 0 .placeholder (some "a"),
    .construct 0 (.pointer (some "a")) (some "p"),
    .construct 0 (.index 7) (some "v"),
    .store 0 "root" (some "p") (some "v") none,
    .mutate 0 (.bindAddress (some "a") ⟨"x", .float32, 0⟩),
    .mutate 0 (.setDataType (some "a") .int8),
    .cloneGraph 0,
    .store 1 "root" (some "p") (some "v") none,
    .mutate 0 (.pushMember (some "root") (some "v"))]

theorem completing_only_grows :
    ∃ graph, (start.run completing).graphs[1]? = some graph ∧
      (view graph (.ref 0 3)).map Node.children = some [.ref 0 4, .ref 0 5] ∧
      graph.Listed ∧
      (∀ step, step.isReplace = false →
        ∃ after, ((start.run completing).step step).1.graphs[1]? = some after ∧
          (start.run completing).Frames 1 step graph after) ∧
      ∀ steps, (∀ step ∈ steps, step.isReplace = false) →
        ∃ after, ((start.run completing).run steps).graphs[1]? = some after ∧
          (start.run completing).Lasts 1 steps graph after :=
  ⟨_, rfl, rfl, graph_only_grows (start.run completing) 1 _ rfl⟩

end Session

end ExprGraph
