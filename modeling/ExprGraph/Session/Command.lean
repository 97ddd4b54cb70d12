import ExprGraph.Session.Basic

/-!
Commands: single steps and repetitions, and the transcript of a session that carries them out.  A
repetition reports only how many of its steps were refused; a repetition inside it is never
refused itself.  A transcript shows a handle with the place of the graph that issued it, where the
handle has the identity of that graph.
-/

namespace ExprGraph

inductive Command where
  | once (step : Step)
  | repeated (count : Nat) (body : List Command)

structure Progress where
  session : Session
  refused : Nat := 0
  events : Array Event := #[]

mutual

def Command.run (session : Session) : Command → Session × Reply
  | .once step => session.step step
  | .repeated count body =>
    let progress := Nat.repeat (Command.runAll body) count { session := session }
    (progress.session, ⟨.ok (.repeated progress.refused), progress.events.toList⟩)

def Command.runAll : List Command → Progress → Progress
  | [], progress => progress
  | command :: rest, progress =>
    let (session, reply) := command.run progress.session
    Command.runAll rest {
      session := session
      refused := if reply.answer.toBool then progress.refused else progress.refused + 1
      events := progress.events ++ reply.events }

end

def Handle.relabel (label : UInt32 → UInt32) : Handle → Handle
  | .empty => .empty
  | .ref graph position => .ref (label graph) position

def Node.relabel (label : UInt32 → UInt32) (node : Node) : Node :=
  { node with
    children := node.children.map (Handle.relabel label)
    members := node.members.map (Handle.relabel label) }

def Answer.relabel (label : UInt32 → UInt32) : Answer → Answer
  | .built made shown => .built (made.relabel label) (shown.map (Node.relabel label))
  | .stored made shown root rootChildren =>
    .stored (made.relabel label) (shown.map (Node.relabel label)) (root.relabel label)
      (rootChildren.map (Handle.relabel label))
  | .node shown => .node (shown.relabel label)
  | .child found => .child (found.map (Handle.relabel label))
  | .entries listed =>
    .entries (listed.map (fun entry => (entry.1.relabel label, entry.2.relabel label)))
  | .visits made => .visits { made with handles := made.handles.map (Handle.relabel label) }
  | .handle given => .handle (given.relabel label)
  | .comparison left right => .comparison (left.relabel label) (right.relabel label)
  | .distinct sorted => .distinct (sorted.map (Handle.relabel label))
  | answer => answer

namespace Session

/-- The first graph with the identity; copies come after their originals. -/
def place (session : Session) (id : UInt32) : UInt32 :=
  .ofNat (session.graphs.findIdx (fun graph => graph.id == id))

def transcript (session : Session) : List Command → List (Reply × List Nat)
  | [] => []
  | command :: rest =>
    let (after, reply) := command.run session
    let shown := { reply with answer := reply.answer.map (Answer.relabel after.place) }
    (shown, after.sizes) :: after.transcript rest

end Session

end ExprGraph
