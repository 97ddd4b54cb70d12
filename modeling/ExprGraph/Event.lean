import ExprGraph.Opcode

/-!
Events: what a graph announces while it is built.
-/

namespace ExprGraph

inductive Level where
  | trace | debug
  deriving DecidableEq

def Level.name : Level → String
  | trace => "TRACE"
  | debug => "DEBUG"

inductive Event where
  | allocated (id : UInt32) (opcode : Opcode) (childCount : Nat)
  | dereferenced (id : UInt32)
  | rootCreated (id : UInt32)
  | counterReset (next : UInt32) (nodeCount : Nat)
  deriving DecidableEq

namespace Event

def level : Event → Level
  | allocated _ _ _ => .trace
  | _ => .debug

def message : Event → String
  | allocated id opcode childCount =>
    "Allocated node #" ++ toString id.toNat ++ " `" ++ opcode.name ++ "` with " ++
      toString childCount ++ " children"
  | dereferenced id => "Dereferencing pointer #" ++ toString id.toNat ++ " implicitly"
  | rootCreated id => "Created combine root #" ++ toString id.toNat
  | counterReset next nodeCount =>
    "Resetting node counter at " ++ toString next.toNat ++ " (" ++ toString nodeCount ++
      " nodes allocated)"

def text (event : Event) : String := event.level.name ++ " " ++ event.message

end Event

end ExprGraph
