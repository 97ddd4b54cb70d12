import ExprGraph.Binary64.Basic

/-!
The shortest decimal that reads back as a given binary magnitude.

A decimal reads back as the magnitude `n` when it lies between the midpoints to the neighbours
`n - 1` and `n + 1`; a midpoint itself belongs to the even neighbour.  `shortest` returns the
decimal with the fewest digits that reads back, and of two with that many digits the nearer one; a
value exactly half way goes up.
-/

namespace ExprGraph

structure Decimal where
  digits : Nat
  exponent : Int
  deriving DecidableEq

namespace Decimal

def numerator (decimal : Decimal) : Nat := decimal.digits * Nat.pow 10 decimal.exponent.toNat

def denominator (decimal : Decimal) : Nat := Nat.pow 10 (-decimal.exponent).toNat

def readsAs (decimal : Decimal) (magnitude : Nat) : Bool :=
  -- Both sides are doubled, so that midpoints are whole numbers of units.
  let value := Binary64.units magnitude
  let low := (Binary64.units (magnitude - 1) + value) * decimal.denominator
  let high := (value + Binary64.units (magnitude + 1)) * decimal.denominator
  let point := decimal.numerator <<< (Binary64.scale + 1)
  if magnitude % 2 = 0 then decide (low ≤ point) && decide (point ≤ high)
  else decide (low < point) && decide (point < high)

def leadingExponent (numerator denominator : Nat) : Int :=
  if denominator ≤ numerator then
    ((Nat.toDigits 10 (numerator / denominator)).length : Int) - 1
  else
    -((Nat.toDigits 10 ((denominator - 1) / numerator)).length : Int)

/-- Of the two decimals with `count` digits around the magnitude, the nearer that reads back. -/
def nearest? (magnitude count : Nat) : Option Decimal :=
  let value := Binary64.units magnitude
  let unit := leadingExponent value (1 <<< Binary64.scale) + 1 - (count : Int)
  let numerator := value * Nat.pow 10 (-unit).toNat
  let denominator := Nat.pow 10 unit.toNat <<< Binary64.scale
  let below : Decimal := ⟨numerator / denominator, unit⟩
  let above : Decimal := ⟨numerator / denominator + 1, unit⟩
  if below.readsAs magnitude then
    if above.readsAs magnitude && decide (denominator ≤ 2 * (numerator % denominator)) then
      some above
    else some below
  else if above.readsAs magnitude then some above
  else none

def exact (magnitude : Nat) : Decimal :=
  ⟨Binary64.units magnitude * Nat.pow 5 Binary64.scale, -(Binary64.scale : Int)⟩

/-- Seventeen digits are always enough, so the exact form is never needed. -/
def shortest (magnitude : Nat) : Decimal :=
  ((List.range 17).findSome? (fun count => nearest? magnitude (count + 1))).getD (exact magnitude)

end Decimal

end ExprGraph
