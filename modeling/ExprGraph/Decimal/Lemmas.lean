import Mathlib.Tactic.Ring
import ExprGraph.Decimal.Shortest

/-!
The shortest decimal of a magnitude reads back as that magnitude.  The values of the magnitudes
increase strictly, so each lies strictly between the midpoints to its neighbours, and the exact
form reads back; every other form is checked before it is chosen.
-/

namespace ExprGraph

theorem Binary64.units_lt_succ (magnitude : Nat) :
    Binary64.units magnitude < Binary64.units (magnitude + 1) := by
  unfold Binary64.units
  by_cases subnormal : magnitude < Binary64.exponentUnit
  · rw [if_pos subnormal]
    by_cases last : magnitude + 1 < Binary64.exponentUnit
    · rw [if_pos last]
      omega
    · have next : magnitude + 1 = Binary64.exponentUnit := by omega
      rw [next, if_neg (Nat.lt_irrefl _)]
      exact subnormal
  · have normal : ¬ magnitude + 1 < Binary64.exponentUnit := by omega
    rw [if_neg subnormal, if_neg normal]
    simp only [Nat.shiftLeft_eq, Binary64.exponentUnit] at *
    by_cases carry : magnitude % 0x10000000000000 + 1 < 0x10000000000000
    · have sameExponent :
          (magnitude + 1) / 0x10000000000000 = magnitude / 0x10000000000000 := by omega
      have nextFraction :
          (magnitude + 1) % 0x10000000000000 = magnitude % 0x10000000000000 + 1 := by omega
      rw [sameExponent, nextFraction]
      exact Nat.mul_lt_mul_of_pos_right (by omega) (Nat.two_pow_pos _)
    · have nextExponent : (magnitude + 1) / 0x10000000000000 - 1 =
          magnitude / 0x10000000000000 - 1 + 1 := by omega
      have noFraction : (magnitude + 1) % 0x10000000000000 = 0 := by omega
      rw [nextExponent, noFraction, Nat.pow_succ]
      have scale := Nat.two_pow_pos (magnitude / 0x10000000000000 - 1)
      generalize 2 ^ (magnitude / 0x10000000000000 - 1) = power at scale
      calc (0x10000000000000 + magnitude % 0x10000000000000) * power
          < (0x10000000000000 * 2) * power := Nat.mul_lt_mul_of_pos_right (by omega) scale
        _ = (0x10000000000000 + 0) * (power * 2) := by ring

namespace Decimal

theorem between_midpoints (below value above scale : Nat) (smaller : below < value)
    (larger : value < above) (positive : 0 < scale) :
    (below + value) * scale < 2 * value * scale ∧
      2 * value * scale < (value + above) * scale :=
  ⟨Nat.mul_lt_mul_of_pos_right (by omega) positive,
    Nat.mul_lt_mul_of_pos_right (by omega) positive⟩

theorem scale_five (value exponent : Nat) :
    value * Nat.pow 5 exponent * 2 ^ (exponent + 1) = 2 * value * Nat.pow 10 exponent := by
  simp only [Nat.pow_eq]
  rw [show (10 : Nat) = 5 * 2 from rfl, mul_pow]
  ring

theorem ten_pow_pos (exponent : Nat) : 0 < Nat.pow 10 exponent := Nat.pow_pos (Nat.succ_pos 9)

theorem numerator_exact (magnitude : Nat) :
    (exact magnitude).numerator <<< (Binary64.scale + 1) =
      2 * Binary64.units magnitude * Nat.pow 10 Binary64.scale := by
  have whole : (-(Binary64.scale : Int)).toNat = 0 := by omega
  simp only [numerator, exact, whole, Nat.shiftLeft_eq]
  rw [show Nat.pow 10 0 = 1 from rfl, Nat.mul_one]
  exact scale_five (Binary64.units magnitude) Binary64.scale

theorem denominator_exact (magnitude : Nat) :
    (exact magnitude).denominator = Nat.pow 10 Binary64.scale := by
  have back : (-(-(Binary64.scale : Int))).toNat = Binary64.scale := by omega
  simp only [denominator, exact, back]

theorem readsAs_exact (magnitude : Nat) (positive : 0 < magnitude) :
    (exact magnitude).readsAs magnitude = true := by
  have below := Binary64.units_lt_succ (magnitude - 1)
  rw [Nat.sub_add_cancel positive] at below
  obtain ⟨low, high⟩ := between_midpoints _ _ _ (Nat.pow 10 Binary64.scale) below
    (Binary64.units_lt_succ magnitude) (ten_pow_pos Binary64.scale)
  simp only [readsAs, numerator_exact, denominator_exact]
  split
  · simp only [Bool.and_eq_true, decide_eq_true_eq]
    exact ⟨Nat.le_of_lt low, Nat.le_of_lt high⟩
  · simp only [Bool.and_eq_true, decide_eq_true_eq]
    exact ⟨low, high⟩

theorem readsAs_of_nearest? (magnitude count : Nat) (decimal : Decimal)
    (chosen : nearest? magnitude count = some decimal) : decimal.readsAs magnitude = true := by
  simp only [nearest?] at chosen
  split at chosen
  · rename_i below
    split at chosen
    · rename_i above
      rw [← Option.some.inj chosen]
      exact (Bool.and_eq_true_iff.mp above).1
    · rw [← Option.some.inj chosen]
      exact below
  · split at chosen
    · rename_i above
      rw [← Option.some.inj chosen]
      exact above
    · cases chosen

theorem readsAs_shortest (magnitude : Nat) (positive : 0 < magnitude) :
    (shortest magnitude).readsAs magnitude = true := by
  unfold shortest
  cases found : (List.range 17).findSome? (fun count => nearest? magnitude (count + 1)) with
  | none => exact readsAs_exact magnitude positive
  | some decimal =>
      obtain ⟨count, _, chosen⟩ := List.exists_of_findSome?_eq_some found
      exact readsAs_of_nearest? magnitude (count + 1) decimal chosen

end Decimal

end ExprGraph
