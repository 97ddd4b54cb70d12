import Mathlib.Algebra.Order.Field.Rat
import Mathlib.Data.List.TakeWhile
import Mathlib.Tactic.FieldSimp
import Mathlib.Tactic.Linarith
import Mathlib.Tactic.Positivity
import ExprGraph.Binary64.Text
import ExprGraph.Decimal.Lemmas
import ExprGraph.Proofs.Text.Words

/-!
Decimal texts read back.  However a decimal is laid out, the text stands for its value, and no value
reads back as two magnitudes: the intervals around neighbours meet in their midpoint only, which
belongs to one of them.  So different magnitudes are never written alike.
-/

namespace ExprGraph.Decimal

def value (decimal : Decimal) : ℚ := decimal.digits * 10 ^ decimal.exponent

def cut (stop : Char) : List Char → List Char × List Char
  | [] => ([], [])
  | character :: rest =>
    if character = stop then ([], rest)
    else (character :: (cut stop rest).1, (cut stop rest).2)

theorem cut_of_not_mem {stop : Char} {text : List Char} (plain : stop ∉ text) :
    cut stop text = (text, []) := by
  induction text with
  | nil => rfl
  | cons character rest ih =>
      obtain ⟨notFirst, notLater⟩ := not_or.mp (mt List.mem_cons.mpr plain)
      rw [cut, if_neg (Ne.symm notFirst), ih notLater]

theorem cut_append {stop : Char} {before : List Char} (plain : stop ∉ before) (after : List Char) :
    cut stop (before ++ stop :: after) = (before, after) := by
  induction before with
  | nil => simp [cut]
  | cons character rest ih =>
      obtain ⟨notFirst, notLater⟩ := not_or.mp (mt List.mem_cons.mpr plain)
      rw [List.cons_append, cut, if_neg (Ne.symm notFirst), ih notLater]

def mantissaReading (mantissa : List Char) : ℚ :=
  let (whole, fraction) := cut '.' mantissa
  Nat.ofDigitChars 10 (whole ++ fraction) 0 * 10 ^ (-(fraction.length : ℤ))

/-- The number a text stands for: digits with or without a point, and an exponent behind an `e`. -/
def reading (text : List Char) : ℚ :=
  let (mantissa, exponent) := cut 'e' text
  mantissaReading mantissa * 10 ^ (String.ofList exponent).toInt?.getD 0

variable {whole fraction mantissa : List Char} {decimal : Decimal}

theorem mantissaReading_point (plain : '.' ∉ whole) :
    mantissaReading (whole ++ '.' :: fraction) =
      Nat.ofDigitChars 10 (whole ++ fraction) 0 * 10 ^ (-(fraction.length : ℤ)) := by
  simp only [mantissaReading, cut_append plain]

theorem mantissaReading_whole (plain : '.' ∉ whole) :
    mantissaReading whole = Nat.ofDigitChars 10 whole 0 := by
  simp [mantissaReading, cut_of_not_mem plain]

theorem reading_positional (plain : 'e' ∉ mantissa) :
    reading mantissa = mantissaReading mantissa := by
  have noExponent : "".toInt? = none := by
    simp [String.toInt?_eq_none_iff, ← Bool.not_eq_true, String.isInt_iff, String.isNat_iff]
  simp [reading, cut_of_not_mem plain, noExponent]

theorem reading_scientific (plain : 'e' ∉ mantissa) (exponent : ℤ) :
    reading (mantissa ++ 'e' :: (toString exponent).toList) =
      mantissaReading mantissa * 10 ^ exponent := by
  simp only [reading, cut_append plain, String.ofList_toList, Int.toString_eq_repr,
    Int.toInt?_repr, Option.getD_some]

def AllDigits (characters : List Char) : Prop :=
  ∀ character ∈ characters, character.isDigit = true

theorem AllDigits.not_mem (digits : AllDigits whole) {character : Char}
    (other : character.isDigit = false) : character ∉ whole := by
  intro member
  rw [digits character member] at other
  cases other

theorem AllDigits.zeros (count : Nat) : AllDigits (List.replicate count '0') := by
  intro character member
  rw [(List.mem_replicate.mp member).2]
  rfl

theorem allDigits_zero : AllDigits ['0'] := AllDigits.zeros 1

theorem allDigits_append :
    AllDigits (whole ++ fraction) ↔ AllDigits whole ∧ AllDigits fraction :=
  List.forall_mem_append

theorem digits_eq (decimal : Decimal) : ∃ zeros,
    Nat.toDigits 10 decimal.digits = decimal.significantDigits ++ List.replicate zeros '0' := by
  let reversed := (Nat.toDigits 10 decimal.digits).reverse
  have parts : reversed.takeWhile (· == '0') ++ reversed.dropWhile (· == '0') = reversed :=
    List.takeWhile_append_dropWhile
  have zeros : reversed.takeWhile (· == '0') =
      List.replicate (reversed.takeWhile (· == '0')).length '0' := by
    rw [List.eq_replicate_iff]
    refine ⟨rfl, fun digit member => ?_⟩
    simpa using List.mem_takeWhile_imp member
  refine ⟨(reversed.takeWhile (· == '0')).length, ?_⟩
  rw [← List.reverse_inj, List.reverse_append, List.reverse_replicate, ← zeros, significantDigits,
    List.reverse_reverse]
  exact parts.symm

theorem allDigits_significant (decimal : Decimal) : AllDigits decimal.significantDigits := by
  obtain ⟨zeros, digits⟩ := decimal.digits_eq
  intro digit member
  apply Nat.isDigit_of_mem_toDigits (b := 10) (n := decimal.digits) (by decide) (by decide)
  rw [digits]
  exact List.mem_append_left _ member

theorem ofDigits_append_zeros (digits : List Char) (count : Nat) :
    Nat.ofDigitChars 10 (digits ++ List.replicate count '0') 0 =
      Nat.ofDigitChars 10 digits 0 * 10 ^ count := by
  rw [Nat.ofDigitChars_append, Nat.ofDigitChars_replicate_zero, Nat.mul_comm]

theorem value_eq (decimal : Decimal) :
    decimal.value = Nat.ofDigitChars 10 decimal.significantDigits 0 *
      10 ^ (decimal.pointPosition - decimal.significantDigits.length) := by
  obtain ⟨zeros, digits⟩ := decimal.digits_eq
  have number := congrArg (Nat.ofDigitChars 10 · 0) digits
  simp only [Nat.ofDigitChars_ten_toDigits, ofDigits_append_zeros] at number
  have length := congrArg List.length digits
  rw [List.length_append, List.length_replicate] at length
  have shift : decimal.pointPosition - decimal.significantDigits.length =
      (zeros : ℤ) + decimal.exponent := by
    rw [pointPosition, length]
    push_cast
    ring
  rw [value, number, shift, zpow_add₀ (by norm_num), zpow_natCast]
  push_cast
  ring

theorem reading_point (wholeDigits : AllDigits whole) (fractionDigits : AllDigits fraction) :
    reading (whole ++ '.' :: fraction) =
      Nat.ofDigitChars 10 (whole ++ fraction) 0 * 10 ^ (-(fraction.length : ℤ)) := by
  have plain : 'e' ∉ whole ++ '.' :: fraction := by
    simp [wholeDigits.not_mem, fractionDigits.not_mem]
  rw [reading_positional plain, mantissaReading_point (wholeDigits.not_mem rfl)]

section Layout

variable {digits : List Char}

theorem reading_below_one (allDigits : AllDigits digits) {point : ℤ} (small : point ≤ 0) :
    reading (positional digits point) =
      Nat.ofDigitChars 10 digits 0 * 10 ^ (point - digits.length) := by
  have shown : positional digits point =
      ['0'] ++ '.' :: (List.replicate (-point).toNat '0' ++ digits) := by
    rw [positional, if_pos small]
    rfl
  have number : Nat.ofDigitChars 10 (['0'] ++ (List.replicate (-point).toNat '0' ++ digits)) 0 =
      Nat.ofDigitChars 10 digits 0 := by
    rw [Nat.ofDigitChars_append, Nat.ofDigitChars_append, Nat.ofDigitChars_replicate_zero]
    rfl
  have places : -((List.replicate (-point).toNat '0' ++ digits).length : ℤ) =
      point - digits.length := by
    rw [List.length_append, List.length_replicate]
    omega
  rw [shown, reading_point allDigits_zero
    (allDigits_append.mpr ⟨AllDigits.zeros _, allDigits⟩), number, places]

theorem reading_integral (allDigits : AllDigits digits) {whole : Nat} (positive : 0 < whole)
    (short : digits.length ≤ whole) :
    reading (positional digits whole) =
      Nat.ofDigitChars 10 digits 0 * 10 ^ ((whole : ℤ) - digits.length) := by
  have shown : positional digits whole =
      (digits ++ List.replicate (whole - digits.length) '0') ++ '.' :: ['0'] := by
    rw [positional, if_neg (by omega)]
    simp [List.drop_eq_nil_of_le short, List.take_of_length_le short]
  have number : Nat.ofDigitChars 10
      ((digits ++ List.replicate (whole - digits.length) '0') ++ ['0']) 0 =
      Nat.ofDigitChars 10 digits 0 * 10 ^ (whole - digits.length + 1) := by
    rw [List.append_assoc, ← List.replicate_succ', ofDigits_append_zeros]
  have places : (whole : ℤ) - digits.length = ((whole - digits.length + 1 : ℕ) : ℤ) + -1 := by
    omega
  rw [shown, reading_point (allDigits_append.mpr ⟨allDigits, AllDigits.zeros _⟩) allDigits_zero,
    number, places, zpow_add₀ (by norm_num), zpow_natCast]
  push_cast
  simp [mul_assoc]

theorem reading_fractional (allDigits : AllDigits digits) {whole : Nat} (positive : 0 < whole)
    (long : whole < digits.length) :
    reading (positional digits whole) =
      Nat.ofDigitChars 10 digits 0 * 10 ^ ((whole : ℤ) - digits.length) := by
  have shown : positional digits whole = digits.take whole ++ '.' :: digits.drop whole := by
    have noZeros : whole - digits.length = 0 := by omega
    have notAll : ¬ digits.length ≤ whole := by omega
    rw [positional, if_neg (by omega)]
    simp [noZeros, notAll]
  have places : -((digits.drop whole).length : ℤ) = whole - digits.length := by
    rw [List.length_drop]
    omega
  rw [shown, reading_point (fun digit member => allDigits digit (List.mem_of_mem_take member))
    (fun digit member => allDigits digit (List.mem_of_mem_drop member)), List.take_append_drop,
    places]

theorem reading_positional_layout (allDigits : AllDigits digits) (point : ℤ) :
    reading (positional digits point) =
      Nat.ofDigitChars 10 digits 0 * 10 ^ (point - digits.length) := by
  by_cases small : point ≤ 0
  · exact reading_below_one allDigits small
  · obtain ⟨whole, rfl⟩ := Int.eq_ofNat_of_zero_le (by omega : 0 ≤ point)
    by_cases short : digits.length ≤ whole
    · exact reading_integral allDigits (by omega) short
    · exact reading_fractional allDigits (by omega) (by omega)

theorem reading_scientific_layout (allDigits : AllDigits digits) (point : ℤ) :
    reading (scientific digits point) =
      Nat.ofDigitChars 10 digits 0 * 10 ^ (point - digits.length) := by
  match digits with
  | [] =>
      have shown : scientific [] point = [] ++ 'e' :: (toString (point - 1)).toList := rfl
      rw [shown, reading_scientific (by decide), mantissaReading_whole (by decide)]
      simp
  | [digit] =>
      have shown : scientific [digit] point = [digit] ++ 'e' :: (toString (point - 1)).toList := rfl
      rw [shown, reading_scientific (allDigits.not_mem rfl),
        mantissaReading_whole (allDigits.not_mem rfl)]
      rfl
  | first :: second :: rest =>
      have shown : scientific (first :: second :: rest) point =
          ([first] ++ '.' :: second :: rest) ++ 'e' :: (toString (point - 1)).toList := by
        simp [scientific]
      obtain ⟨wholeDigits, fractionDigits⟩ :=
        allDigits_append.mp (show AllDigits ([first] ++ second :: rest) from allDigits)
      have plain : 'e' ∉ [first] ++ '.' :: second :: rest := by
        have later : 'e' ∉ second :: rest := fractionDigits.not_mem rfl
        have before : 'e' ∉ [first] := wholeDigits.not_mem rfl
        simp_all
      have places : point - (first :: second :: rest).length =
          -((second :: rest).length : ℤ) + (point - 1) := by
        simp only [List.length_cons]
        omega
      rw [shown, reading_scientific plain, mantissaReading_point (wholeDigits.not_mem rfl), places,
        zpow_add₀ (by norm_num), mul_assoc]
      rfl

end Layout

theorem reading_layout (decimal : Decimal) : reading decimal.layout = decimal.value := by
  rw [value_eq, layout]
  split
  · exact reading_positional_layout decimal.allDigits_significant _
  · exact reading_scientific_layout decimal.allDigits_significant _

theorem value_mul_denominator (decimal : Decimal) :
    decimal.value * decimal.denominator = decimal.numerator := by
  have shift : decimal.exponent + ((-decimal.exponent).toNat : ℤ) =
      (decimal.exponent.toNat : ℤ) := by
    omega
  simp only [value, denominator, numerator, Nat.pow_eq]
  push_cast
  rw [mul_assoc, ← zpow_natCast (10 : ℚ) (-decimal.exponent).toNat, ← zpow_add₀ (by norm_num),
    shift, zpow_natCast]

def halfUnits (value : ℚ) : ℚ := value * 2 ^ (Binary64.scale + 1)

theorem halfUnits_mul_denominator (decimal : Decimal) :
    halfUnits decimal.value * decimal.denominator =
      (decimal.numerator <<< (Binary64.scale + 1) : ℕ) := by
  rw [halfUnits, Nat.shiftLeft_eq, mul_right_comm, value_mul_denominator]
  push_cast
  rfl

theorem denominator_pos (decimal : Decimal) : (0 : ℚ) < decimal.denominator := by
  exact_mod_cast ten_pow_pos _

theorem le_halfUnits_iff (decimal : Decimal) (bound : Nat) :
    bound * decimal.denominator ≤ decimal.numerator <<< (Binary64.scale + 1) ↔
      (bound : ℚ) ≤ halfUnits decimal.value := by
  rw [← mul_le_mul_iff_left₀ decimal.denominator_pos, halfUnits_mul_denominator]
  exact_mod_cast Iff.rfl

theorem halfUnits_le_iff (decimal : Decimal) (bound : Nat) :
    decimal.numerator <<< (Binary64.scale + 1) ≤ bound * decimal.denominator ↔
      halfUnits decimal.value ≤ bound := by
  rw [← mul_le_mul_iff_left₀ decimal.denominator_pos, halfUnits_mul_denominator]
  exact_mod_cast Iff.rfl

/-- The value is between the midpoints to the neighbours, and is neither if the magnitude is odd. -/
structure Near (value : ℚ) (magnitude : Nat) : Prop where
  low : ((Binary64.units (magnitude - 1) + Binary64.units magnitude : ℕ) : ℚ) ≤ halfUnits value
  high : halfUnits value ≤ ((Binary64.units magnitude + Binary64.units (magnitude + 1) : ℕ) : ℚ)
  oddLow : magnitude % 2 = 1 →
    ((Binary64.units (magnitude - 1) + Binary64.units magnitude : ℕ) : ℚ) < halfUnits value
  oddHigh : magnitude % 2 = 1 →
    halfUnits value < ((Binary64.units magnitude + Binary64.units (magnitude + 1) : ℕ) : ℚ)

theorem near_of_readsAs {magnitude : Nat} (reads : decimal.readsAs magnitude = true) :
    Near decimal.value magnitude := by
  simp only [readsAs] at reads
  split at reads
  · rename_i even
    simp only [Bool.and_eq_true, decide_eq_true_eq, le_halfUnits_iff, halfUnits_le_iff] at reads
    exact ⟨reads.1, reads.2, by omega, by omega⟩
  · simp only [Bool.and_eq_true, decide_eq_true_eq, ← Nat.not_le, le_halfUnits_iff,
      halfUnits_le_iff, not_le] at reads
    exact ⟨reads.1.le, reads.2.le, fun _ => reads.1, fun _ => reads.2⟩

theorem strictMono_units : StrictMono Binary64.units :=
  strictMono_nat_of_lt_succ Binary64.units_lt_succ

/-- The larger of two magnitudes begins at the midpoint where the smaller one ends, or above it; and
only one of two neighbours is even. -/
theorem not_near_of_lt {value : ℚ} {left right : Nat} (smaller : left < right)
    (nearLeft : Near value left) : ¬ Near value right := by
  intro nearRight
  have first : Binary64.units left ≤ Binary64.units (right - 1) :=
    strictMono_units.monotone (by omega)
  have second : Binary64.units (left + 1) ≤ Binary64.units right :=
    strictMono_units.monotone (by omega)
  have meets : ((Binary64.units left + Binary64.units (left + 1) : ℕ) : ℚ) ≤
      ((Binary64.units (right - 1) + Binary64.units right : ℕ) : ℚ) := by
    exact_mod_cast Nat.add_le_add first second
  -- Of two neighbours one is odd and leaves the midpoint between them to the other; magnitudes that
  -- are further apart have no midpoint in common.
  rcases Nat.mod_two_eq_zero_or_one left with leftEven | leftOdd
  · rcases Nat.mod_two_eq_zero_or_one right with rightEven | rightOdd
    · have apart : Binary64.units (left + 1) < Binary64.units right := strictMono_units (by omega)
      have misses : ((Binary64.units left + Binary64.units (left + 1) : ℕ) : ℚ) <
          ((Binary64.units (right - 1) + Binary64.units right : ℕ) : ℚ) := by
        exact_mod_cast Nat.add_lt_add_of_le_of_lt first apart
      linarith [nearLeft.high, nearRight.low]
    · linarith [nearLeft.high, nearRight.oddLow rightOdd]
  · linarith [nearLeft.oddHigh leftOdd, nearRight.low]

theorem magnitude_unique {value : ℚ} {left right : Nat} (nearLeft : Near value left)
    (nearRight : Near value right) : left = right := by
  rcases Nat.lt_trichotomy left right with smaller | same | larger
  · exact (not_near_of_lt smaller nearLeft nearRight).elim
  · exact same
  · exact (not_near_of_lt larger nearRight nearLeft).elim

theorem value_pos_of_near {value : ℚ} {magnitude : Nat} (positive : 0 < magnitude)
    (near : Near value magnitude) : 0 < value := by
  have above : Binary64.units 0 < Binary64.units magnitude := strictMono_units positive
  have scaled : (0 : ℚ) < halfUnits value := by
    refine lt_of_lt_of_le ?_ near.low
    exact_mod_cast Nat.lt_of_lt_of_le (Nat.zero_lt_of_lt above) (Nat.le_add_left _ _)
  exact (mul_pos_iff_of_pos_right (by positivity)).mp scaled

end ExprGraph.Decimal
