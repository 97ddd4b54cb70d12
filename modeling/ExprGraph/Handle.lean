/-!
Handles: a reference to a node by the identity of the graph that issued it and the node's position
there, or the empty handle.  Two handles are equal only when they refer to the same position under
the same identity, whatever the nodes there contain.
-/

namespace ExprGraph

inductive Handle where
  | empty
  | ref (graph : UInt32) (position : Nat)
  deriving DecidableEq

namespace Handle

def isEmpty : Handle → Bool
  | empty => true
  | ref _ _ => false

def graph? : Handle → Option UInt32
  | empty => none
  | ref graph _ => some graph

def position? : Handle → Option Nat
  | empty => none
  | ref _ position => some position

/-- The empty handle comes first; the others go by graph, then by position. -/
def order : Handle → Handle → Ordering
  | empty, empty => .eq
  | empty, ref _ _ => .lt
  | ref _ _, empty => .gt
  | ref leftGraph leftPosition, ref rightGraph rightPosition =>
    (compare leftGraph rightGraph).then (compare leftPosition rightPosition)

def sortedDistinct (handles : List Handle) : List Handle :=
  handles.eraseDups.mergeSort (fun left right => (left.order right).isLE)

end Handle

end ExprGraph
