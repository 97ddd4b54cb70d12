import ExprGraph.Immediate
import ExprGraph.Proofs.Decimal.Reading

/-!
The texts of scalars are words, and every scalar has a text of its own, save that what is not a
number shows none of its bits.  An integer has digits only; behind the digits a float begins with
there is a point or an exponent.
-/

namespace ExprGraph

namespace Decimal

def Fractional (text : List Char) : Prop :=
  ∃ first whole stop rest, text = first :: (whole ++ stop :: rest) ∧
    AllDigits (first :: whole) ∧ (stop = '.' ∨ stop = 'e')

theorem Fractional.begins {text : List Char} (fractional : Fractional text) :
    ∃ first rest, text = first :: rest ∧ first.isDigit = true := by
  obtain ⟨first, whole, stop, rest, shown, digits, _⟩ := fractional
  exact ⟨first, _, shown, digits first List.mem_cons_self⟩

theorem not_fractional_inf : ¬ Fractional "inf".toList := by
  intro fractional
  obtain ⟨first, rest, shown, digit⟩ := fractional.begins
  obtain ⟨rfl, _⟩ := List.cons.inj (show 'i' :: ['n', 'f'] = first :: rest from shown)
  exact absurd digit (by decide)

theorem near_shortest {magnitude : Nat} (positive : 0 < magnitude) :
    Near (reading (shortest magnitude).layout) magnitude := by
  rw [reading_layout]
  exact near_of_readsAs (readsAs_shortest magnitude positive)

theorem significantDigits_ne_nil {decimal : Decimal} (positive : 0 < decimal.value) :
    decimal.significantDigits ≠ [] := by
  intro none
  rw [value_eq, none] at positive
  simp at positive

theorem fractional_positional {first : Char} {rest : List Char} (digits : AllDigits (first :: rest))
    (point : ℤ) : Fractional (positional (first :: rest) point) := by
  unfold positional
  split
  · exact ⟨'0', [], '.', _, rfl, allDigits_zero, .inl rfl⟩
  · rename_i large
    obtain ⟨whole, isWhole⟩ : ∃ whole, point.toNat = whole + 1 :=
      ⟨point.toNat - 1, by omega⟩
    simp only [isWhole, List.take_succ_cons, List.cons_append]
    refine ⟨first, _, '.', _, rfl, ?_, .inl rfl⟩
    rw [← List.cons_append, ← List.take_succ_cons]
    exact allDigits_append.mpr
      ⟨fun digit member => digits digit (List.mem_of_mem_take member), AllDigits.zeros _⟩

theorem fractional_scientific {first : Char} {rest : List Char} (digits : AllDigits (first :: rest))
    (point : ℤ) : Fractional (scientific (first :: rest) point) := by
  have begins : AllDigits [first] := by
    intro digit member
    obtain rfl := List.mem_singleton.mp member
    exact digits _ List.mem_cons_self
  cases rest with
  | nil => exact ⟨first, [], 'e', _, rfl, begins, .inr rfl⟩
  | cons second rest => exact ⟨first, [], '.', _, rfl, begins, .inl rfl⟩

theorem fractional_shortest {magnitude : Nat} (positive : 0 < magnitude) :
    Fractional (shortest magnitude).layout := by
  have near := near_of_readsAs (readsAs_shortest magnitude positive)
  have some := significantDigits_ne_nil (value_pos_of_near positive near)
  have digits := (shortest magnitude).allDigits_significant
  cases shown : (shortest magnitude).significantDigits with
  | nil => exact (some shown).elim
  | cons first rest =>
      rw [shown] at digits
      simp only [layout, shown]
      split
      · exact fractional_positional digits _
      · exact fractional_scientific digits _

theorem isWord_layout (decimal : Decimal) : Text.IsWord decimal.layout := by
  have digits : Text.IsWord decimal.significantDigits := fun digit member =>
    Text.isWordCharacter_of_isDigit (decimal.allDigits_significant digit member)
  have front (count : Nat) : Text.IsWord (decimal.significantDigits.take count) :=
    fun digit member => digits digit (List.mem_of_mem_take member)
  have back (count : Nat) : Text.IsWord (decimal.significantDigits.drop count) :=
    fun digit member => digits digit (List.mem_of_mem_drop member)
  have point : Text.isWordCharacter '.' = true := by decide
  have letter : Text.isWordCharacter 'e' = true := by decide
  simp only [layout]
  split
  · unfold positional
    split
    · have zero : Text.isWordCharacter '0' = true := by decide
      simp only [Text.isWord_cons, Text.isWord_append]
      exact ⟨zero, point, Text.isWord_zeros _, digits⟩
    · simp only [Text.isWord_cons, Text.isWord_append]
      refine ⟨⟨front _, Text.isWord_zeros _⟩, point, ?_⟩
      split
      · exact Text.isWord_zeros 1
      · exact back _
  · simp only [scientific, Text.isWord_cons, Text.isWord_append]
    refine ⟨⟨front 1, ?_⟩, letter, Text.isWord_integer _⟩
    split
    · exact Text.isWord_nil
    · exact Text.isWord_cons.mpr ⟨point, back 1⟩

end Decimal

namespace Binary64

theorem near_zero : Decimal.Near 0 0 where
  low := by simp [Decimal.halfUnits, units, exponentUnit]
  high := by simp [Decimal.halfUnits]; positivity
  oddLow := nofun
  oddHigh := nofun

theorem magnitudeText_cases (magnitude : Nat) :
    (magnitude = infinity ∧ magnitudeText magnitude = "inf") ∨
      (Decimal.Fractional (magnitudeText magnitude).toList ∧
        Decimal.Near (Decimal.reading (magnitudeText magnitude).toList) magnitude) := by
  unfold magnitudeText
  split
  · exact .inl ⟨‹_›, rfl⟩
  · right
    split
    · rename_i zero
      subst zero
      have shown : "0.0".toList = ['0'] ++ '.' :: ['0'] := rfl
      have reads : Decimal.reading "0.0".toList = 0 := by
        rw [shown, Decimal.reading_point Decimal.allDigits_zero Decimal.allDigits_zero]
        simp [Nat.ofDigitChars_cons]
      rw [reads]
      exact ⟨⟨'0', [], '.', ['0'], rfl, Decimal.allDigits_zero, .inl rfl⟩, near_zero⟩
    · rename_i positive
      rw [String.toList_ofList]
      exact ⟨Decimal.fractional_shortest (Nat.pos_of_ne_zero positive),
        Decimal.near_shortest (Nat.pos_of_ne_zero positive)⟩

theorem magnitudeText_injective {left right : Nat}
    (same : magnitudeText left = magnitudeText right) : left = right := by
  rcases magnitudeText_cases left with ⟨isLeft, shownLeft⟩ | ⟨fractional, nearLeft⟩
  · rcases magnitudeText_cases right with ⟨isRight, _⟩ | ⟨fractional, _⟩
    · rw [isLeft, isRight]
    · rw [← same, shownLeft] at fractional
      exact (Decimal.not_fractional_inf fractional).elim
  · rcases magnitudeText_cases right with ⟨_, shownRight⟩ | ⟨_, nearRight⟩
    · rw [same, shownRight] at fractional
      exact (Decimal.not_fractional_inf fractional).elim
    · rw [← same] at nearRight
      exact Decimal.magnitude_unique nearLeft nearRight

theorem magnitudeText_begins (magnitude : Nat) : ∃ first rest,
    (magnitudeText magnitude).toList = first :: rest ∧ (first = 'i' ∨ first.isDigit = true) := by
  rcases magnitudeText_cases magnitude with
    ⟨_, shown⟩ | ⟨fractional, _⟩
  · exact ⟨'i', ['n', 'f'], by rw [shown]; rfl, .inl rfl⟩
  · obtain ⟨first, rest, shown, digit⟩ := fractional.begins
    exact ⟨first, rest, shown, .inr digit⟩

theorem magnitudeText_ne_cons (magnitude : Nat) {first : Char} (rest : List Char)
    (notWord : first ≠ 'i') (notDigit : first.isDigit = false) :
    (magnitudeText magnitude).toList ≠ first :: rest := by
  intro shown
  obtain ⟨other, _, begins, isWord | isDigit⟩ := magnitudeText_begins magnitude
  · obtain ⟨rfl, _⟩ := List.cons.inj (shown.symm.trans begins)
    exact notWord isWord
  · obtain ⟨rfl, _⟩ := List.cons.inj (shown.symm.trans begins)
    rw [notDigit] at isDigit
    cases isDigit

def signText (word : Binary64) : List Char := if word.isNegative then ['-'] else []

theorem text_of_not_isNaN {word : Binary64} (number : word.isNaN = false) :
    word.text.toList = word.signText ++ (magnitudeText word.magnitude).toList := by
  rw [text, number, signText]
  cases word.isNegative with
  | true => exact String.toList_append
  | false => simp

theorem text_of_isNaN {word : Binary64} (notNumber : word.isNaN = true) : word.text = "NaN" := by
  rw [text, if_pos notNumber]

theorem text_begins (word : Binary64) : ∃ first rest, word.text.toList = first :: rest ∧
    (first = '-' ∨ first = 'N' ∨ first = 'i' ∨ first.isDigit = true) := by
  cases number : word.isNaN with
  | true => exact ⟨'N', ['a', 'N'], by rw [text_of_isNaN number]; rfl, .inr (.inl rfl)⟩
  | false =>
      rw [text_of_not_isNaN number, signText]
      split
      · exact ⟨'-', _, rfl, .inl rfl⟩
      · obtain ⟨first, rest, shown, begins⟩ := magnitudeText_begins word.magnitude
        exact ⟨first, rest, shown, .inr (.inr begins)⟩

theorem text_ne_of_isNaN {left right : Binary64} (notNumber : left.isNaN = true)
    (number : right.isNaN = false) : left.text ≠ right.text := by
  intro same
  have shown := congrArg String.toList same
  rw [text_of_isNaN notNumber, text_of_not_isNaN number, signText] at shown
  split at shown
  · cases shown
  · exact magnitudeText_ne_cons _ _ (by decide) (by decide) shown.symm

theorem signed_inj {left right : Binary64}
    (same : left.signText ++ (magnitudeText left.magnitude).toList =
      right.signText ++ (magnitudeText right.magnitude).toList) :
    left.isNegative = right.isNegative ∧ left.magnitude = right.magnitude := by
  have noSign (magnitude : Nat) (rest : List Char) :
      (magnitudeText magnitude).toList ≠ '-' :: rest :=
    magnitudeText_ne_cons magnitude rest (by decide) (by decide)
  unfold signText at same
  cases leftSign : left.isNegative <;> cases rightSign : right.isNegative <;>
    rw [leftSign, rightSign] at same
  case false.true => exact (noSign _ _ same).elim
  case true.false => exact (noSign _ _ same.symm).elim
  case false.false =>
    exact ⟨rfl, magnitudeText_injective (String.toList_inj.mp same)⟩
  case true.true =>
    exact ⟨rfl, magnitudeText_injective (String.toList_inj.mp (List.cons.inj same).2)⟩

theorem eq_of_magnitude {left right : Binary64} (sameSign : left.isNegative = right.isNegative)
    (sameMagnitude : left.magnitude = right.magnitude) : left = right := by
  have leftBits := left.bits.toNat_lt
  have rightBits := right.bits.toNat_lt
  have sign : signBit ≤ left.bits.toNat ↔ signBit ≤ right.bits.toNat := decide_eq_decide.mp sameSign
  simp only [magnitude, signBit] at sign sameMagnitude
  have sameBits : left.bits.toNat = right.bits.toNat := by omega
  exact congrArg Binary64.mk (UInt64.toNat_inj.mp sameBits)

/-- Two floats of one text are the same, or both are not a number. -/
theorem text_injective {left right : Binary64} (same : left.text = right.text) :
    left = right ∨ (left.isNaN = true ∧ right.isNaN = true) := by
  cases leftNumber : left.isNaN <;> cases rightNumber : right.isNaN
  case true.true => exact .inr ⟨rfl, rfl⟩
  case true.false => exact (text_ne_of_isNaN leftNumber rightNumber same).elim
  case false.true => exact (text_ne_of_isNaN rightNumber leftNumber same.symm).elim
  case false.false =>
    have shown := congrArg String.toList same
    rw [text_of_not_isNaN leftNumber, text_of_not_isNaN rightNumber] at shown
    obtain ⟨sameSign, sameMagnitude⟩ := signed_inj shown
    exact .inl (eq_of_magnitude sameSign sameMagnitude)

theorem isWord_magnitudeText (magnitude : Nat) :
    Text.IsWord (magnitudeText magnitude).toList := by
  unfold magnitudeText
  split
  · decide
  · split
    · decide
    · rw [String.toList_ofList]
      exact Decimal.isWord_layout _

theorem isWord_text (word : Binary64) : Text.IsWord word.text.toList := by
  cases number : word.isNaN with
  | true =>
      rw [text_of_isNaN number]
      decide
  | false =>
      rw [text_of_not_isNaN number, signText, Text.isWord_append]
      refine ⟨?_, isWord_magnitudeText _⟩
      split
      · decide
      · exact Text.isWord_nil

theorem text_has_mark (word : Binary64) :
    ∃ mark ∈ word.text.toList, mark ≠ '-' ∧ mark.isDigit = false := by
  cases number : word.isNaN with
  | true => exact ⟨'N', by rw [text_of_isNaN number]; decide, by decide, by decide⟩
  | false =>
      rw [text_of_not_isNaN number]
      rcases magnitudeText_cases word.magnitude with
        ⟨_, shown⟩ | ⟨⟨first, whole, stop, rest, shown, _, isMark⟩, _⟩
      · exact ⟨'i', List.mem_append_right _ (by rw [shown]; decide), by decide, by decide⟩
      · refine ⟨stop, by simp [shown], ?_⟩
        rcases isMark with rfl | rfl <;> decide

end Binary64

theorem integer_has_no_mark {number : Int} {character : Char}
    (member : character ∈ (toString number).toList) :
    character = '-' ∨ character.isDigit = true := by
  have natural {count : Nat} (digit : character ∈ (toString count).toList) :
      character.isDigit = true := by
    rw [Nat.toString_eq_ofList_toDigits, String.toList_ofList] at digit
    exact Nat.isDigit_of_mem_toDigits (by decide) (by decide) digit
  rw [Int.toString_eq_repr, Int.repr_eq_if] at member
  split at member
  · exact .inr (natural member)
  · rw [String.toList_append, List.mem_append] at member
    rcases member with sign | digit
    · exact .inl (List.mem_singleton.mp sign)
    · exact .inr (natural digit)

theorem Binary64.text_ne_integer (word : Binary64) (number : Int) :
    word.text ≠ toString number := by
  intro same
  obtain ⟨mark, member, notSign, notDigit⟩ := word.text_has_mark
  rw [same] at member
  rcases integer_has_no_mark member with sign | digit
  · exact notSign sign
  · rw [notDigit] at digit
    cases digit

namespace Comparison

theorem isWord_name (kind : Comparison) : Text.IsWord kind.name.toList := by
  cases kind <;> decide

theorem name_injective {left right : Comparison} (same : left.name = right.name) :
    left = right := by
  revert same
  cases left <;> cases right <;> decide

theorem name_begins (kind : Comparison) : ∃ first rest, kind.name.toList = first :: rest ∧
    ¬ (first = '-' ∨ first = 'N' ∨ first = 'i' ∨ first.isDigit = true) := by
  cases kind
  · exact ⟨'e', ['q'], rfl, by decide⟩
  · exact ⟨'n', ['e'], rfl, by decide⟩
  · exact ⟨'l', ['e'], rfl, by decide⟩
  · exact ⟨'l', ['t'], rfl, by decide⟩

theorem name_ne_integer (kind : Comparison) (number : Int) : kind.name ≠ toString number := by
  intro same
  obtain ⟨first, rest, shown, noNumber⟩ := kind.name_begins
  have member : first ∈ (toString number).toList := by
    rw [← same, shown]
    exact List.mem_cons_self
  rcases integer_has_no_mark member with sign | digit
  · exact noNumber (.inl sign)
  · exact noNumber (.inr (.inr (.inr digit)))

theorem name_ne_float (kind : Comparison) (word : Binary64) : kind.name ≠ word.text := by
  intro same
  obtain ⟨first, rest, shown, noNumber⟩ := kind.name_begins
  obtain ⟨other, later, begins, number⟩ := word.text_begins
  rw [same, begins] at shown
  obtain ⟨rfl, _⟩ := List.cons.inj shown
  exact noNumber number

end Comparison

namespace Immediate

/-- Equal, but for the bits of floats that are not a number. -/
def EqualUpToNaN : Immediate → Immediate → Prop
  | float left, float right => left = right ∨ (left.isNaN = true ∧ right.isNaN = true)
  | left, right => left = right

theorem isWord_text (immediate : Immediate) : Text.IsWord immediate.text.toList := by
  cases immediate with
  | int value => exact Text.isWord_integer _
  | float value => exact value.isWord_text
  | cmp kind => exact kind.isWord_name

theorem equal_of_text {left right : Immediate} (same : left.text = right.text) :
    left.EqualUpToNaN right := by
  cases left with
  | int value =>
      cases right with
      | int other => exact congrArg int (integer_inj same)
      | float other => exact (other.text_ne_integer _ same.symm).elim
      | cmp kind => exact (kind.name_ne_integer _ same.symm).elim
  | float value =>
      cases right with
      | int other => exact (value.text_ne_integer _ same).elim
      | float other => exact Binary64.text_injective same
      | cmp kind => exact (kind.name_ne_float _ same.symm).elim
  | cmp kind =>
      cases right with
      | int other => exact (kind.name_ne_integer _ same).elim
      | float other => exact (kind.name_ne_float _ same).elim
      | cmp other => exact congrArg cmp (Comparison.name_injective same)

end Immediate

end ExprGraph
