import ExprGraph.Fault

/-!
Loops: a step taken again and again until it finishes or fails, or until no more turns are allowed.
-/

namespace ExprGraph

inductive Interruption where
  | fault (fault : Fault)
  | endless
  deriving DecidableEq

namespace Loop

/-- A step returns the next state, or nothing when there is no more to do.  The last state is
returned in every case. -/
def run (step : σ → Except Fault (Option σ)) : Nat → σ → σ × Option Interruption
  | 0, state => (state, some .endless)
  | turns + 1, state =>
    match step state with
    | .error fault => (state, some (.fault fault))
    | .ok none => (state, none)
    | .ok (some next) => run step turns next

end Loop

end ExprGraph
