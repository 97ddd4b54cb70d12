import ExprGraph.Session.Request

/-!
Answers: what a step of a session is answered with.
-/

namespace ExprGraph

inductive Refusal where
  | interrupted (interruption : Interruption)
  | noGraph (index : Nat)
  deriving DecidableEq

inductive Answer where
  | built (handle : Handle) (node : Option Node)
  | stored (handle : Handle) (node : Option Node) (root : Handle) (rootChildren : List Handle)
  | done
  | graph (index : Nat)
  | node (node : Node)
  | opcode (opcode : Opcode)
  | dataType (dataType : DataType)
  | flag (value : Bool)
  | child (handle : Option Handle)
  | position (index : Option Nat)
  | address (address : Address)
  | size (count : Nat)
  | options (options : Options)
  | entries (entries : List (Handle × Node))
  | visits (visits : Visits)
  | text (text : String)
  | handle (handle : Handle)
  | comparison (left right : Handle)
  | distinct (sorted : List Handle)
  /-- How many steps of a repetition were refused. -/
  | repeated (refused : Nat)

def Refusal.ofFault (fault : Fault) : Refusal := .interrupted (.fault fault)

def Query.answer (graph : Graph) : Query Handle → Except Refusal Answer
  | node handle => ((graph.lookup handle).map Answer.node).mapError Refusal.ofFault
  | opcode handle => ((graph.opcode handle).map Answer.opcode).mapError Refusal.ofFault
  | dataType handle => ((graph.dataType handle).map Answer.dataType).mapError Refusal.ofFault
  | contains handle => .ok (.flag (graph.contains handle))
  | nodeChild handle index =>
    ((graph.lookup handle).map (fun node => .child node.children[index]?)).mapError Refusal.ofFault
  | memberIndex group handle =>
    ((graph.memberIndex? group handle).map Answer.position).mapError Refusal.ofFault
  | address handle => ((graph.address handle).map Answer.address).mapError Refusal.ofFault
  | resolvedAddress handle =>
    ((graph.resolvedAddress handle).map Answer.address).mapError Refusal.ofFault
  | priorTo first second =>
    ((graph.priorTo first second).map Answer.flag).mapError Refusal.ofFault
  | size => .ok (.size graph.size)
  | options => .ok (.options graph.options)
  | entries => .ok (.entries graph.entries)
  | walk root order => .ok (.visits (graph.accept order root))
  | dumpTree root => ((graph.dumpTree root).map Answer.text).mapError Refusal.interrupted
  | dumpSequential => .ok (.text graph.dumpSequential)

end ExprGraph
