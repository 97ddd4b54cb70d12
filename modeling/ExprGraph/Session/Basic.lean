import ExprGraph.Session.Answer

/-!
Sessions: several graphs and named handles, worked on by one step after another.  A step that is
refused leaves the names as they are, and the session goes on with the next one.
-/

namespace ExprGraph

/-- A handle by its name; no name, and a name that was never given, stand for the empty handle. -/
abbrev Operand : Type := Option String

inductive Step where
  | construct (graph : Nat) (construction : Construction Operand) (name : Option String)
  /-- The root is passed by name, and the name refers to the collecting node afterwards. -/
  | store (graph : Nat) (root : String) (pointer value : Operand) (name : Option String)
  | mutate (graph : Nat) (mutation : Mutation Operand)
  | replace (graph : Nat) (handle : Operand) (source : Nat) (replacement : Operand)
  | newGraph (options : Options)
  | cloneGraph (graph : Nat)
  | query (graph : Nat) (query : Query Operand)
  | handle (operand : Operand)
  | compareHandles (left right : Operand)
  | distinctHandles (operands : List Operand)

structure Session where
  graphs : Array Graph
  /-- The identity of the next new graph; the largest one is followed by zero again. -/
  nextId : UInt32
  names : List (String × Handle)

structure Reply where
  answer : Except Refusal Answer
  events : List Event

namespace Session

def start : Session := { graphs := #[{ id := 0 }], nextId := 1, names := [] }

def resolve (session : Session) (operand : Operand) : Handle :=
  match operand with
  | none => .empty
  | some name => (session.names.lookup name).getD .empty

def bind (session : Session) (name : Option String) (handle : Handle) : Session :=
  match name with
  | none => session
  | some name =>
    { session with names := (name, handle) :: session.names.filter (fun entry => entry.1 != name) }

def put (session : Session) (index : Nat) (graph : Graph) : Session :=
  { session with graphs := session.graphs.setIfInBounds index graph }

def view (graph : Graph) (handle : Handle) : Option Node := (graph.lookup handle).toOption

def refuse (session : Session) (refusal : Refusal) : Session × Reply :=
  (session, ⟨.error refusal, []⟩)

def reply (session : Session) (answer : Answer) : Session × Reply :=
  (session, ⟨.ok answer, []⟩)

def settle (after : Session) (outcome : Outcome α) (finish : α → Session × Answer) :
    Session × Reply :=
  match outcome.result with
  | .error fault => (after, ⟨.error (.ofFault fault), outcome.events⟩)
  | .ok value =>
    let (named, answer) := finish value
    (named, ⟨.ok answer, outcome.events⟩)

def build (session : Session) (index : Nat) (request : Build α)
    (finish : Session → Graph → α → Session × Answer) : Session × Reply :=
  match session.graphs[index]? with
  | none => session.refuse (.noGraph index)
  | some graph =>
    let outcome := request.run graph
    let after := session.put index outcome.graph
    after.settle outcome (finish after outcome.graph)

def step (session : Session) : Step → Session × Reply
  | .construct index construction name =>
    session.build index (construction.map session.resolve).build (fun after graph handle =>
      (after.bind name handle, .built handle (view graph handle)))
  | .store index root pointer value name =>
    match session.graphs[index]? with
    | none => session.refuse (.noGraph index)
    | some graph =>
      let stored := Build.store (session.resolve root) (session.resolve pointer)
        (session.resolve value) graph
      let outcome := stored.outcome
      let after := (session.put index outcome.graph).bind root stored.root
      after.settle outcome (fun handle =>
        (after.bind name handle,
          .stored handle (view outcome.graph handle) stored.root
            ((view outcome.graph stored.root).elim [] Node.children)))
  | .mutate index mutation =>
    session.build index (mutation.map session.resolve).build (fun after _ _ => (after, .done))
  | .replace index handle source replacement =>
    match session.graphs[source]? with
    | none => session.refuse (.noGraph source)
    | some graph =>
      match graph.lookup (session.resolve replacement) with
      | .error fault => session.refuse (.ofFault fault)
      | .ok node =>
        session.build index (Build.overwrite (session.resolve handle) node)
          (fun after _ _ => (after, .done))
  | .newGraph options =>
    let graph : Graph := { id := session.nextId, options := options }
    reply { session with graphs := session.graphs.push graph, nextId := session.nextId + 1 }
      (.graph session.graphs.size)
  | .cloneGraph index =>
    match session.graphs[index]? with
    | none => session.refuse (.noGraph index)
    | some graph =>
      reply { session with graphs := session.graphs.push graph } (.graph session.graphs.size)
  | .query index query =>
    match session.graphs[index]? with
    | none => session.refuse (.noGraph index)
    | some graph => (session, ⟨(query.map session.resolve).answer graph, []⟩)
  | .handle operand => session.reply (.handle (session.resolve operand))
  | .compareHandles left right =>
    session.reply (.comparison (session.resolve left) (session.resolve right))
  | .distinctHandles operands =>
    session.reply (.distinct (Handle.sortedDistinct (operands.map session.resolve)))

def run (session : Session) (steps : List Step) : Session :=
  steps.foldl (fun current step => (current.step step).1) session

theorem run_append (session : Session) (first second : List Step) :
    session.run (first ++ second) = (session.run first).run second :=
  List.foldl_append

def sizes (session : Session) : List Nat := session.graphs.toList.map Graph.size

end Session

end ExprGraph
