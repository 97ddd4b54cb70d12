/-!
Binary floating-point words, kept as bits so that two words can be told apart even where they are
numerically equal.  A finite word has the value `units n * 2 ^ (-scale)` up to sign, where `n` is
the word without its sign bit.  These values increase strictly with `n`, so that the neighbours of
a value are those of `n - 1` and `n + 1`.
-/

namespace ExprGraph

structure Binary64 where
  bits : UInt64
  deriving DecidableEq

structure Binary32 where
  bits : UInt32
  deriving DecidableEq

namespace Binary64

def signBit : Nat := 0x8000000000000000

/-- The weight of one step of the exponent in a word: the fraction has 52 bits. -/
def exponentUnit : Nat := 0x10000000000000

def magnitude (word : Binary64) : Nat := word.bits.toNat % signBit

def isNegative (word : Binary64) : Bool := decide (signBit ≤ word.bits.toNat)

def infinity : Nat := 2047 * exponentUnit

def isNaN (word : Binary64) : Bool := decide (infinity < word.magnitude)

/-- Numerical equality: the zeros are equal, and a word that is not a number equals nothing. -/
def numericallyEqual (left right : Binary64) : Bool :=
  !left.isNaN && !right.isNaN &&
    (left == right || (left.magnitude == 0 && right.magnitude == 0))

/-- Every finite value is a whole multiple of `2 ^ (-scale)`. -/
def scale : Nat := 1074

/-- The value of a finite magnitude as that multiple: the fraction alone below the first exponent,
and from there on the fraction with a leading bit, doubled once per exponent. -/
def units (magnitude : Nat) : Nat :=
  if magnitude < exponentUnit then magnitude
  else (exponentUnit + magnitude % exponentUnit) <<< (magnitude / exponentUnit - 1)

end Binary64

namespace Binary32

def signBit : Nat := 0x80000000

def exponentUnit : Nat := 0x800000

/-- The 63-bit magnitude of the same value as a 31-bit one.  A normal word moves its fraction up
by 29 places and its exponent from bias 127 to bias 1023; a subnormal one is normalised. -/
def widenMagnitude (magnitude : Nat) : Nat :=
  if magnitude = 0 then 0
  else if magnitude < exponentUnit then
    let lead := magnitude.log2
    (874 + lead) * Binary64.exponentUnit + ((magnitude - (1 <<< lead)) <<< (52 - lead))
  else if magnitude < 255 * exponentUnit then (magnitude <<< 29) + 896 * Binary64.exponentUnit
  else Binary64.infinity + ((magnitude - 255 * exponentUnit) <<< 29)

def widen (word : Binary32) : Binary64 :=
  let sign := word.bits.toNat / signBit
  let magnitude := word.bits.toNat % signBit
  ⟨UInt64.ofNat (sign * Binary64.signBit + widenMagnitude magnitude)⟩

end Binary32

end ExprGraph
