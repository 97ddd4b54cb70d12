import ExprGraph.Decimal.Shortest

/-!
How a positive decimal is written: positionally, with at least one digit after the point, from
`0.0001` up to but not including `10 ^ 16`, and with an exponent outside that range.
-/

namespace ExprGraph.Decimal

def significantDigits (decimal : Decimal) : List Char :=
  ((Nat.toDigits 10 decimal.digits).reverse.dropWhile (· == '0')).reverse

/-- The number lies in `[10 ^ (p - 1), 10 ^ p)` for this `p`: the point stands before digit `p`. -/
def pointPosition (decimal : Decimal) : Int :=
  ((Nat.toDigits 10 decimal.digits).length : Int) + decimal.exponent

def isPositional (point : Int) : Bool := decide (-3 ≤ point) && decide (point ≤ 16)

def positional (digits : List Char) (point : Int) : List Char :=
  if point ≤ 0 then
    '0' :: '.' :: (List.replicate (-point).toNat '0' ++ digits)
  else
    let whole := point.toNat
    let fraction := digits.drop whole
    digits.take whole ++ List.replicate (whole - digits.length) '0' ++
      '.' :: (if fraction.isEmpty then ['0'] else fraction)

def scientific (digits : List Char) (point : Int) : List Char :=
  let fraction := digits.drop 1
  digits.take 1 ++ (if fraction.isEmpty then [] else '.' :: fraction) ++
    'e' :: (toString (point - 1)).toList

def layout (decimal : Decimal) : List Char :=
  let point := decimal.pointPosition
  if isPositional point then positional decimal.significantDigits point
  else scientific decimal.significantDigits point

end ExprGraph.Decimal
