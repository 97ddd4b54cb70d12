import ExprGraph.Graph.Builders
import ExprGraph.Graph.Lemmas

/-!
What each part of a request does when it is run.  Main statements: `run_allocate`, the one way in
which a graph grows, and `run_update`, the one way in which a node changes.
-/

namespace ExprGraph.Build

@[simp] theorem run_pure (value : α) (graph : Graph) :
    (pure value : Build α).run graph = ⟨.ok value, graph, []⟩ := rfl

theorem run_bind (build : Build α) (next : α → Build β) (graph : Graph) :
    (build >>= next).run graph =
      match (build.run graph).result with
      | .error fault => ⟨.error fault, (build.run graph).graph, (build.run graph).events⟩
      | .ok value =>
        let outcome := (next value).run (build.run graph).graph
        ⟨outcome.result, outcome.graph, (build.run graph).events ++ outcome.events⟩ := by
  change andThen build next graph = _
  unfold andThen run
  rcases build graph with ⟨_ | _, _, _⟩ <;> rfl

@[simp] theorem run_inspect (read : Graph → Except Fault α) (graph : Graph) :
    (inspect read).run graph = ⟨read graph, graph, []⟩ := rfl

@[simp] theorem run_announce (event : Event) (graph : Graph) :
    (announce event).run graph = ⟨.ok (), graph, [event]⟩ := rfl

@[simp] theorem run_drawNumber (graph : Graph) :
    drawNumber.run graph =
      ⟨.ok graph.numbering.draw.1, { graph with numbering := graph.numbering.draw.2 }, []⟩ := rfl

@[simp] theorem run_insert (node : Node) (graph : Graph) :
    (insert node).run graph = ⟨.ok (graph.handleAt graph.size), graph.push node, []⟩ := rfl

def grown (graph : Graph) (opcode : Opcode) (children : List Handle) : Graph :=
  { graph with numbering := graph.numbering.draw.2 }.push {
    opcode := opcode
    dataType := graph.options.defaultDataType
    children := children
    id := graph.numbering.next }

theorem run_allocate (opcode : Opcode) (children : List Handle) (graph : Graph) :
    (allocate opcode children).run graph =
      match graph.checkAll children with
      | .error fault => ⟨.error fault, graph, []⟩
      | .ok _ =>
        ⟨.ok (graph.handleAt graph.size), grown graph opcode children,
          [.allocated graph.numbering.next opcode children.length]⟩ := by
  simp only [allocate, run_bind, run_inspect, run_drawNumber, run_announce, run_insert]
  cases graph.checkAll children with
  | error fault => rfl
  | ok checked => rfl

theorem run_updateWith (handle : Handle) (change : Node → Except Fault Node) (graph : Graph) :
    (updateWith handle change).run graph =
      match graph.lookup handle with
      | .error fault => ⟨.error fault, graph, []⟩
      | .ok node =>
        match change node with
        | .error fault => ⟨.error fault, graph, []⟩
        | .ok changed => ⟨.ok (), graph.put handle changed, []⟩ := by
  unfold run updateWith
  cases graph.lookup handle with
  | error fault => rfl
  | ok node => rfl

theorem run_update (handle : Handle) (change : Node → Node) (graph : Graph) :
    (update handle change).run graph =
      match graph.lookup handle with
      | .error fault => ⟨.error fault, graph, []⟩
      | .ok node => ⟨.ok (), graph.put handle (change node), []⟩ := by
  unfold update
  rw [run_updateWith]

end ExprGraph.Build
