import ExprGraph.Proofs.Graph.Plan.Run
import ExprGraph.Proofs.Graph.Plan.Valid
import ExprGraph.Session.Basic

/-!
What a step of a session does to its graphs.  Main statements: `changes_replied`, by which the
changes of a step go with its reply; `step_graph_kept` and `step_graph_cases`, which say that every
graph of a session without replaced nodes goes on by valid changes or is new; and
`graphs_of_changes`, the induction over all such sessions.
-/

namespace ExprGraph

def Step.isReplace : Step → Bool
  | .replace _ _ _ _ => true
  | _ => false

def Plan.changesOf : Except Fault (Plan α) → List Change
  | .ok plan => plan.changes
  | .error _ => []

def Step.target? : Step → Option Nat
  | .construct target _ _ => some target
  | .store target _ _ _ _ => some target
  | .mutate target _ => some target
  | _ => none

namespace Session

def changes (session : Session) (index : Nat) (graph : Graph) (step : Step) : List Change :=
  if step.target? = some index then
    match step with
    | .construct _ construction _ =>
      Plan.changesOf ((construction.map session.resolve).plan graph)
    | .store _ root pointer value _ =>
      Plan.changesOf (graph.planStore (session.resolve root) (session.resolve pointer)
        (session.resolve value))
    | .mutate _ mutation => Plan.changesOf ((mutation.map session.resolve).plan graph)
    | _ => []
  else []

theorem changes_cases {session : Session} {index : Nat} {graph : Graph} {step : Step}
    {P : List Change → Prop} (nothing : P [])
    (constructed : ∀ construction name plan, step = .construct index construction name →
      (construction.map session.resolve).plan graph = .ok plan → P plan.changes)
    (stored : ∀ root pointer value name plan, step = .store index root pointer value name →
      graph.planStore (session.resolve root) (session.resolve pointer) (session.resolve value) =
        .ok plan → P plan.changes)
    (mutated : ∀ mutation plan, step = .mutate index mutation →
      (mutation.map session.resolve).plan graph = .ok plan → P plan.changes) :
    P (session.changes index graph step) := by
  have planned : ∀ {α : Type} (decided : Except Fault (Plan α)),
      (∀ plan, decided = .ok plan → P plan.changes) → P (Plan.changesOf decided) := by
    intro α decided each
    cases decided with
    | error fault => exact nothing
    | ok plan => exact each plan rfl
  by_cases directed : step.target? = some index
  · simp only [changes, directed, if_true]
    cases step with
    | construct target construction name =>
        obtain rfl := Option.some.inj directed
        exact planned _ (fun plan => constructed construction name plan rfl)
    | store target root pointer value name =>
        obtain rfl := Option.some.inj directed
        exact planned _ (fun plan => stored root pointer value name plan rfl)
    | mutate target mutation =>
        obtain rfl := Option.some.inj directed
        exact planned _ (fun plan => mutated mutation plan rfl)
    | _ => cases directed
  · simp only [changes, directed, if_false]
    exact nothing

theorem changes_valid (session : Session) (index : Nat) (graph : Graph) (step : Step) :
    graph.ValidAll (session.changes index graph step) := by
  apply changes_cases
  · exact trivial
  · intro construction name plan _ planned
    exact Construction.plan_valid planned
  · intro root pointer value name plan _ planned
    exact Graph.planStore_valid planned
  · intro mutation plan _ planned
    exact Mutation.plan_valid planned

theorem lookup_filter_ne (names : List (String × Handle)) {name other : String}
    (different : other ≠ name) :
    (names.filter (fun entry => entry.1 != name)).lookup other = names.lookup other := by
  induction names with
  | nil => rfl
  | cons entry rest ih =>
      obtain ⟨key, handle⟩ := entry
      by_cases removed : key = name
      · subst removed
        have apart : (other == key) = false := by simpa using different
        simp [List.lookup_cons, ih, apart]
      · simp [List.lookup_cons, removed, ih]

theorem resolve_bind (session : Session) (name : String) (handle : Handle) (operand : Operand) :
    (session.bind name handle).resolve operand =
      if operand = some name then handle else session.resolve operand := by
  cases operand with
  | none => rfl
  | some other =>
      by_cases same : other = name
      · subst same
        simp [bind, resolve]
      · have apart : (other == name) = false := by simpa using same
        simp [bind, resolve, List.lookup_cons, same, apart, lookup_filter_ne]

@[simp] theorem graphs_bind (session : Session) (name : Option String) (handle : Handle) :
    (session.bind name handle).graphs = session.graphs := by
  cases name <;> rfl

@[simp] theorem nextId_bind (session : Session) (name : Option String) (handle : Handle) :
    (session.bind name handle).nextId = session.nextId := by
  cases name <;> rfl

theorem put_same {session : Session} {target : Nat} {graph : Graph}
    (found : session.graphs[target]? = some graph) : session.put target graph = session := by
  simp only [put, setIfInBounds_self found]

theorem build_missing {session : Session} {target : Nat} {request : Build α}
    {finish : Session → Graph → α → Session × Answer} (missing : session.graphs[target]? = none) :
    session.build target request finish = session.refuse (.noGraph target) := by
  simp only [build, missing]

theorem build_refused {session : Session} {target : Nat} {graph : Graph} {request : Build α}
    {finish : Session → Graph → α → Session × Answer} {fault : Fault}
    (found : session.graphs[target]? = some graph)
    (ran : request.run graph = ⟨.error fault, graph, []⟩) :
    session.build target request finish = session.refuse (.ofFault fault) := by
  simp only [build, found, ran, settle, put_same found]
  rfl

theorem build_done {session : Session} {target : Nat} {graph : Graph} {request : Build α}
    {finish : Session → Graph → α → Session × Answer} {plan : Plan α}
    (found : session.graphs[target]? = some graph)
    (ran : request.run graph = graph.carryOut (.ok plan)) :
    session.build target request finish =
      let after := graph.applyAll plan.changes
      let concluded := finish (session.put target after) after plan.answer
      (concluded.1, ⟨.ok concluded.2, graph.announceAll plan.changes⟩) := by
  simp only [build, found, ran, Graph.carryOut, settle]

theorem step_construct_refused {session : Session} {target : Nat} {graph : Graph}
    {construction : Construction Operand} {fault : Fault} (name : Option String)
    (found : session.graphs[target]? = some graph)
    (refused : (construction.map session.resolve).plan graph = .error fault) :
    session.step (.construct target construction name) = session.refuse (.ofFault fault) := by
  have ran := (construction.map session.resolve).run_build graph
  rw [refused] at ran
  rw [step, build_refused found ran]

theorem step_construct_done {session : Session} {target : Nat} {graph : Graph}
    {construction : Construction Operand} {plan : Plan Handle} (name : Option String)
    (found : session.graphs[target]? = some graph)
    (planned : (construction.map session.resolve).plan graph = .ok plan) :
    session.step (.construct target construction name) =
      let after := graph.applyAll plan.changes
      ((session.put target after).bind name plan.answer,
        ⟨.ok (.built plan.answer (view after plan.answer)), graph.announceAll plan.changes⟩) := by
  have ran := (construction.map session.resolve).run_build graph
  rw [planned] at ran
  rw [step, build_done found ran]

theorem step_mutate_refused {session : Session} {target : Nat} {graph : Graph}
    {mutation : Mutation Operand} {fault : Fault} (found : session.graphs[target]? = some graph)
    (refused : (mutation.map session.resolve).plan graph = .error fault) :
    session.step (.mutate target mutation) = session.refuse (.ofFault fault) := by
  have ran := (mutation.map session.resolve).run_build graph
  rw [refused] at ran
  rw [step, build_refused found ran]

theorem step_mutate_done {session : Session} {target : Nat} {graph : Graph}
    {mutation : Mutation Operand} {plan : Plan Unit} (found : session.graphs[target]? = some graph)
    (planned : (mutation.map session.resolve).plan graph = .ok plan) :
    session.step (.mutate target mutation) =
      (session.put target (graph.applyAll plan.changes),
        ⟨.ok .done, graph.announceAll plan.changes⟩) := by
  have ran := (mutation.map session.resolve).run_build graph
  rw [planned] at ran
  rw [step, build_done found ran]

theorem step_store_refused {session : Session} {target : Nat} {graph : Graph} {root : String}
    {pointer value : Operand} {name : Option String} {fault : Fault}
    (found : session.graphs[target]? = some graph)
    (refused : graph.planStore (session.resolve root) (session.resolve pointer)
      (session.resolve value) = .error fault) :
    session.step (.store target root pointer value name) =
      (session.bind root (session.resolve root), ⟨.error (.ofFault fault), []⟩) := by
  simp only [step, found, Build.run_store, refused, settle, put_same found]

theorem step_store_done {session : Session} {target : Nat} {graph : Graph} {root : String}
    {pointer value : Operand} {name : Option String} {plan : Plan (Handle × Handle)}
    (found : session.graphs[target]? = some graph)
    (planned : graph.planStore (session.resolve root) (session.resolve pointer)
      (session.resolve value) = .ok plan) :
    session.step (.store target root pointer value name) =
      let after := graph.applyAll plan.changes
      (((session.put target after).bind root plan.answer.1).bind name plan.answer.2,
        ⟨.ok (.stored plan.answer.2 (view after plan.answer.2) plan.answer.1
          ((view after plan.answer.1).elim [] Node.children)),
          graph.announceAll plan.changes⟩) := by
  simp only [step, found, Build.run_store, planned, settle]

/-- What a directed step changes goes with its reply: a step that is refused changes nothing, and
one that is granted all that was planned. -/
theorem changes_replied {session : Session} {index : Nat} {graph : Graph} {step : Step}
    {P : List Change → Prop} (found : session.graphs[index]? = some graph)
    (directed : step.target? = some index)
    (refused : ∀ refusal, (session.step step).1.graphs = session.graphs →
      (session.step step).2 = ⟨.error refusal, []⟩ → P [])
    (constructed : ∀ construction name plan, step = .construct index construction name →
      (construction.map session.resolve).plan graph = .ok plan →
        let after := graph.applyAll plan.changes
        session.step step =
            ((session.put index after).bind name plan.answer,
              ⟨.ok (.built plan.answer (view after plan.answer)),
                graph.announceAll plan.changes⟩) →
          P plan.changes)
    (stored : ∀ root pointer value name plan, step = .store index root pointer value name →
      graph.planStore (session.resolve root) (session.resolve pointer) (session.resolve value) =
          .ok plan →
        let after := graph.applyAll plan.changes
        session.step step =
            (((session.put index after).bind root plan.answer.1).bind name plan.answer.2,
              ⟨.ok (.stored plan.answer.2 (view after plan.answer.2) plan.answer.1
                ((view after plan.answer.1).elim [] Node.children)),
                graph.announceAll plan.changes⟩) →
          P plan.changes)
    (mutated : ∀ mutation plan, step = .mutate index mutation →
      (mutation.map session.resolve).plan graph = .ok plan →
        session.step step =
            (session.put index (graph.applyAll plan.changes),
              ⟨.ok .done, graph.announceAll plan.changes⟩) →
          P plan.changes) :
    P (session.changes index graph step) := by
  cases step with
  | construct target construction name =>
      obtain rfl := Option.some.inj directed
      simp only [changes, Step.target?, if_true]
      cases decided : (construction.map session.resolve).plan graph with
      | error fault =>
          have refusal := step_construct_refused name found decided
          exact refused _ (by rw [refusal]; rfl) (by rw [refusal]; rfl)
      | ok plan =>
          exact constructed construction name plan rfl decided
            (step_construct_done name found decided)
  | store target root pointer value name =>
      obtain rfl := Option.some.inj directed
      simp only [changes, Step.target?, if_true]
      cases decided : graph.planStore (session.resolve root) (session.resolve pointer)
          (session.resolve value) with
      | error fault =>
          refine refused (.ofFault fault) ?_ (by rw [step_store_refused found decided])
          rw [step_store_refused found decided, graphs_bind]
      | ok plan =>
          exact stored root pointer value name plan rfl decided (step_store_done found decided)
  | mutate target mutation =>
      obtain rfl := Option.some.inj directed
      simp only [changes, Step.target?, if_true]
      cases decided : (mutation.map session.resolve).plan graph with
      | error fault =>
          have refusal := step_mutate_refused found decided
          exact refused _ (by rw [refusal]; rfl) (by rw [refusal]; rfl)
      | ok plan => exact mutated mutation plan rfl decided (step_mutate_done found decided)
  | _ => cases directed

structure Carries (session : Session) (step : Step) (target : Nat) (changes : List Change)
    (graph : Graph) : Prop where
  graphs : (session.step step).1.graphs =
    session.graphs.setIfInBounds target (graph.applyAll changes)
  events : (session.step step).2.events = graph.announceAll changes
  refused : ∀ refusal, (session.step step).2.answer = .error refusal → changes = []

theorem Carries.of_done {session after : Session} {step : Step} {target : Nat}
    {changes : List Change} {graph : Graph} {answer : Answer}
    (graphs : after.graphs = (session.put target (graph.applyAll changes)).graphs)
    (done : session.step step = (after, ⟨.ok answer, graph.announceAll changes⟩)) :
    session.Carries step target changes graph where
  graphs := by rw [done]; exact graphs
  events := by rw [done]
  refused := by
    intro refusal refused
    rw [done] at refused
    cases refused

theorem step_carries {session : Session} {step : Step} {target : Nat} {graph : Graph}
    (directed : step.target? = some target) (found : session.graphs[target]? = some graph) :
    session.Carries step target (session.changes target graph step) graph := by
  apply changes_replied (P := fun changes => session.Carries step target changes graph) found
    directed
  · intro refusal same refused
    refine ⟨?_, by rw [refused]; rfl, fun _ _ => rfl⟩
    rw [same]
    exact congrArg Session.graphs (put_same found).symm
  · intro construction name plan _ _ _ done
    exact .of_done (graphs_bind _ _ _) done
  · intro root pointer value name plan _ _ _ done
    exact .of_done ((graphs_bind _ _ _).trans (graphs_bind _ _ _)) done
  · intro mutation plan _ _ done
    exact .of_done rfl done

theorem step_graphs_missing {session : Session} {step : Step} {target : Nat}
    (directed : step.target? = some target) (missing : session.graphs[target]? = none) :
    (session.step step).1.graphs = session.graphs := by
  cases step with
  | construct index construction name =>
      obtain rfl := Option.some.inj directed
      rw [Session.step, build_missing missing]
      rfl
  | store index root pointer value name =>
      obtain rfl := Option.some.inj directed
      simp only [Session.step, missing]
      rfl
  | mutate index mutation =>
      obtain rfl := Option.some.inj directed
      rw [Session.step, build_missing missing]
      rfl
  | _ => cases directed

theorem graphs_clone {session : Session} {source : Nat} {graph : Graph}
    (found : session.graphs[source]? = some graph) :
    (session.step (.cloneGraph source)).1.graphs = session.graphs.push graph := by
  simp only [step, found, reply]

theorem graphs_clone_missing {session : Session} {source : Nat}
    (missing : session.graphs[source]? = none) :
    (session.step (.cloneGraph source)).1.graphs = session.graphs := by
  simp only [step, missing, refuse]

theorem graphs_undirected (session : Session) {step : Step} (undirected : step.target? = none)
    (notReplace : step.isReplace = false) :
    (session.step step).1.graphs = session.graphs ∨
      ∃ graph, (session.step step).1.graphs = session.graphs.push graph ∧
        ((∃ options, step = .newGraph options ∧
            graph = { id := session.nextId, options := options }) ∨
          ∃ source, step = .cloneGraph source ∧ session.graphs[source]? = some graph) := by
  cases step with
  | newGraph options => exact .inr ⟨_, rfl, .inl ⟨options, rfl, rfl⟩⟩
  | cloneGraph source =>
      cases found : session.graphs[source]? with
      | none => exact .inl (graphs_clone_missing found)
      | some graph => exact .inr ⟨graph, graphs_clone found, .inr ⟨source, rfl, found⟩⟩
  | query target query =>
      left
      simp only [Session.step]
      cases session.graphs[target]? with
      | none => rfl
      | some graph => rfl
  | handle operand => exact .inl rfl
  | compareHandles left right => exact .inl rfl
  | distinctHandles operands => exact .inl rfl
  | replace target handle source replacement => cases notReplace
  | _ => cases undirected

theorem changes_other {session : Session} {index : Nat} {graph : Graph} {step : Step}
    (elsewhere : step.target? ≠ some index) : session.changes index graph step = [] := by
  simp only [changes, elsewhere, if_false]

theorem step_graph_kept {session : Session} {step : Step} {index : Nat} {graph : Graph}
    (notReplace : step.isReplace = false) (found : session.graphs[index]? = some graph) :
    (session.step step).1.graphs[index]? =
      some (graph.applyAll (session.changes index graph step)) := by
  obtain ⟨bound, _⟩ := Array.getElem?_eq_some_iff.mp found
  cases directed : step.target? with
  | some target =>
      by_cases here : target = index
      · subst here
        rw [(step_carries directed found).graphs]
        simp [bound]
      · rw [changes_other (by rw [directed]; simpa using here), Graph.applyAll_nil]
        cases there : session.graphs[target]? with
        | none => rw [step_graphs_missing directed there, found]
        | some other =>
            rw [(step_carries directed there).graphs, Array.getElem?_setIfInBounds_ne here, found]
  | none =>
      rw [changes_other (by simp [directed]), Graph.applyAll_nil]
      rcases graphs_undirected session directed notReplace with same | ⟨new, pushed, _⟩
      · rw [same, found]
      · rw [pushed, Array.getElem?_push_lt bound]
        exact (Array.getElem?_eq_getElem bound).symm.trans found

theorem run_graph_kept {session : Session} {index : Nat} {graph : Graph} (steps : List Step)
    (noReplace : ∀ step ∈ steps, step.isReplace = false)
    (found : session.graphs[index]? = some graph) :
    ∃ changes, (session.run steps).graphs[index]? = some (graph.applyAll changes) := by
  induction steps generalizing session graph with
  | nil => exact ⟨[], found⟩
  | cons step rest ih =>
      have kept := step_graph_kept (noReplace step List.mem_cons_self) found
      obtain ⟨changes, isLater⟩ :=
        ih (fun later member => noReplace later (List.mem_cons_of_mem _ member)) kept
      refine ⟨session.changes index graph step ++ changes, ?_⟩
      rw [Graph.applyAll_append]
      exact isLater

/-- A graph after a step has gone on from where it was, or is new: empty or a copy. -/
theorem step_graph_cases {session : Session} {step : Step} {index : Nat} {after : Graph}
    (notReplace : step.isReplace = false)
    (found : (session.step step).1.graphs[index]? = some after) :
    (∃ graph, session.graphs[index]? = some graph ∧
        after = graph.applyAll (session.changes index graph step)) ∨
      index = session.graphs.size ∧
        ((∃ options, step = .newGraph options ∧
            after = { id := session.nextId, options := options }) ∨
          ∃ source, step = .cloneGraph source ∧ session.graphs[source]? = some after) := by
  cases before : session.graphs[index]? with
  | some graph =>
      rw [step_graph_kept notReplace before] at found
      exact .inl ⟨graph, rfl, (Option.some.inj found).symm⟩
  | none =>
      have beyond : session.graphs.size ≤ index := Array.getElem?_eq_none_iff.mp before
      obtain ⟨bound, isAfter⟩ := Array.getElem?_eq_some_iff.mp found
      cases directed : step.target? with
      | some target =>
          cases there : session.graphs[target]? with
          | none => rw [step_graphs_missing directed there, before] at found; cases found
          | some graph =>
              have sameSize := congrArg Array.size (step_carries directed there).graphs
              rw [Array.size_setIfInBounds] at sameSize
              omega
      | none =>
          rcases graphs_undirected session directed notReplace with
            same | ⟨new, pushed, origin⟩
          · rw [same, before] at found
            cases found
          · have grown := congrArg Array.size pushed
            rw [Array.size_push] at grown
            have atEnd : index = session.graphs.size := by omega
            subst atEnd
            rw [pushed, Array.getElem?_push_size] at found
            obtain rfl := Option.some.inj found
            exact .inr ⟨rfl, origin⟩

theorem run_invariant {P : Session → Prop} {session : Session} (initial : P session)
    (kept : ∀ session step, P session → step.isReplace = false → P (session.step step).1)
    (steps : List Step) (noReplace : ∀ step ∈ steps, step.isReplace = false) :
    P (session.run steps) := by
  induction steps generalizing session with
  | nil => exact initial
  | cons step rest ih =>
      have first := noReplace step (by simp)
      exact ih (kept session step initial first)
        (fun later member => noReplace later (List.mem_cons_of_mem _ member))

end Session

theorem Graph.applyAll_invariant {P : Graph → Prop}
    (kept : ∀ graph change, P graph → change.Valid graph → P (graph.apply change))
    {graph : Graph} (initial : P graph) (changes : List Change) (valid : graph.ValidAll changes) :
    P (graph.applyAll changes) := by
  induction changes generalizing graph with
  | nil => exact initial
  | cons change rest ih => exact ih (kept graph change initial valid.1) valid.2

namespace Session

theorem graphs_step {P : Graph → Prop} (fresh : ∀ id options, P { id := id, options := options })
    (kept : ∀ graph change, P graph → change.Valid graph → P (graph.apply change))
    {session : Session} {step : Step} (holds : ∀ graph ∈ session.graphs, P graph)
    (notReplace : step.isReplace = false) : ∀ graph ∈ (session.step step).1.graphs, P graph := by
  intro after member
  obtain ⟨index, found⟩ := Array.mem_iff_getElem?.mp member
  rcases step_graph_cases notReplace found with ⟨graph, before, rfl⟩ | ⟨_, new | copied⟩
  · have valid := changes_valid session index graph step
    exact Graph.applyAll_invariant kept (holds graph (Array.mem_of_getElem? before)) _ valid
  · obtain ⟨options, _, rfl⟩ := new
    exact fresh _ options
  · obtain ⟨source, _, before⟩ := copied
    exact holds after (Array.mem_of_getElem? before)

theorem graphs_start {P : Graph → Prop} (fresh : P { id := 0 }) :
    ∀ graph ∈ start.graphs, P graph := by
  intro graph member
  have isFirst : graph = { id := 0 } := by simpa [start] using member
  rw [isFirst]
  exact fresh

theorem graphs_of_changes {P : Graph → Prop}
    (fresh : ∀ id options, P { id := id, options := options })
    (kept : ∀ graph change, P graph → change.Valid graph → P (graph.apply change))
    (steps : List Step) (noReplace : ∀ step ∈ steps, step.isReplace = false) :
    ∀ graph ∈ (start.run steps).graphs, P graph := by
  apply run_invariant (P := fun session => ∀ graph ∈ session.graphs, P graph) ?_ ?_ steps noReplace
  · exact graphs_start (fresh 0 {})
  · intro session step holds notReplace
    exact graphs_step fresh kept holds notReplace

end Session

end ExprGraph
