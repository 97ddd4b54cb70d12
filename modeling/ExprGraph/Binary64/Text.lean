import ExprGraph.Decimal.Layout

/-!
The text of a binary word: its shortest decimal, or the words for what is no finite number.
-/

namespace ExprGraph.Binary64

def magnitudeText (magnitude : Nat) : String :=
  if magnitude = infinity then "inf"
  else if magnitude = 0 then "0.0"
  else String.ofList (Decimal.shortest magnitude).layout

/-- What is not a number shows no sign; every number does when it is negative, zero included. -/
def text (word : Binary64) : String :=
  if word.isNaN then "NaN"
  else (if word.isNegative then "-" else "") ++ magnitudeText word.magnitude

end ExprGraph.Binary64
