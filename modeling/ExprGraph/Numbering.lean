/-!
Numbering: the counter that labels nodes in the order they are built.  It starts at zero, can be
restarted, and after the largest 32-bit number goes on from zero.
-/

namespace ExprGraph

structure Numbering where
  next : UInt32 := 0
  deriving DecidableEq

namespace Numbering

def draw (numbering : Numbering) : UInt32 × Numbering :=
  (numbering.next, { next := numbering.next + 1 })

def reset (_ : Numbering) : Numbering := { next := 0 }

inductive Request where
  | draw
  | peek
  | reset
  | drawFromCopy
  | drawMany (count : Nat)
  deriving DecidableEq

def drawMany : Nat → Option UInt32 → Numbering → Option UInt32 × Numbering
  | 0, last, numbering => (last, numbering)
  | count + 1, _, numbering =>
    let (number, rest) := numbering.draw
    drawMany count (some number) rest

def perform (numbering : Numbering) : Request → Option UInt32 × Numbering
  | .draw => (some numbering.draw.1, numbering.draw.2)
  | .peek => (some numbering.next, numbering)
  | .reset => (none, numbering.reset)
  | .drawFromCopy => (some numbering.draw.1, numbering)
  | .drawMany count => drawMany count none numbering

def performAll (numbering : Numbering) : List Request → List (Option UInt32)
  | [] => []
  | request :: rest =>
    let (answer, after) := numbering.perform request
    answer :: performAll after rest

end Numbering

end ExprGraph
