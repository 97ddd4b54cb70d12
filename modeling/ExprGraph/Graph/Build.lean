import ExprGraph.Event
import ExprGraph.Graph.Basic

/-!
Building: a request that reads and changes one graph, may fail, and announces what it does.  A
failure stops the request where it is; what was changed and announced until then stays, so that
"a request that fails leaves no trace" is a property to be shown of each request.
-/

namespace ExprGraph

structure Outcome (α : Type) where
  result : Except Fault α
  graph : Graph
  events : List Event

/-- An outcome and the handle a root passed by reference holds afterwards. -/
structure Rooted (α : Type) where
  root : Handle
  outcome : Outcome α

def Build (α : Type) : Type := Graph → Outcome α

namespace Build

def run (build : Build α) (graph : Graph) : Outcome α := build graph

def done (value : α) : Build α := fun graph => ⟨.ok value, graph, []⟩

def andThen (build : Build α) (next : α → Build β) : Build β := fun graph =>
  match build graph with
  | ⟨.error fault, after, events⟩ => ⟨.error fault, after, events⟩
  | ⟨.ok value, after, events⟩ =>
    let outcome := next value after
    ⟨outcome.result, outcome.graph, events ++ outcome.events⟩

instance : Monad Build where
  pure := done
  bind := andThen

def inspect (read : Graph → Except Fault α) : Build α := fun graph => ⟨read graph, graph, []⟩

def announce (event : Event) : Build Unit := fun graph => ⟨.ok (), graph, [event]⟩

def drawNumber : Build UInt32 := fun graph =>
  let (number, numbering) := graph.numbering.draw
  ⟨.ok number, { graph with numbering := numbering }, []⟩

def insert (node : Node) : Build Handle := fun graph =>
  ⟨.ok (graph.handleAt graph.size), graph.push node, []⟩

def updateWith (handle : Handle) (change : Node → Except Fault Node) : Build Unit := fun graph =>
  match graph.lookup handle with
  | .error fault => ⟨.error fault, graph, []⟩
  | .ok node =>
    match change node with
    | .error fault => ⟨.error fault, graph, []⟩
    | .ok changed => ⟨.ok (), graph.put handle changed, []⟩

def update (handle : Handle) (change : Node → Node) : Build Unit :=
  updateWith handle (fun node => .ok (change node))

/-- Builds a node over children that are all accepted, with the default type.  Every node comes
from here. -/
def allocate (opcode : Opcode) (children : List Handle) : Build Handle := do
  inspect (fun graph => graph.checkAll children)
  let defaultDataType ← inspect (fun graph => .ok graph.options.defaultDataType)
  let id ← drawNumber
  announce (.allocated id opcode children.length)
  insert { opcode := opcode, dataType := defaultDataType, children := children, id := id }

end Build

end ExprGraph
