import ExprGraph.Proofs.Text.Words

/-!
Quoted texts read back, wherever they stand.  No escape begins another, so a quotation shows one
text only; and every quote in it stands right behind a backslash.  So the last quote behind a space
is the one that opens the last quotation of a text, whatever was written before.
-/

namespace ExprGraph.Text

theorem digitChar_injective {left right : Nat} (leftDigit : left < 16) (rightDigit : right < 16)
    (same : left.digitChar = right.digitChar) : left = right := by
  have distinct : ∀ first second : Fin 16,
      first.val.digitChar = second.val.digitChar → first = second := by decide
  exact congrArg Fin.val (distinct ⟨left, leftDigit⟩ ⟨right, rightDigit⟩ same)

theorem isWordCharacter_digitChar {digit : Nat} (isDigit : digit < 16) :
    isWordCharacter digit.digitChar = true := by
  have shown : ∀ digit : Fin 16, isWordCharacter digit.val.digitChar = true := by decide
  exact shown ⟨digit, isDigit⟩

theorem hexDigits_eq (number : Nat) :
    Nat.toDigits 16 number = if number < 16 then [number.digitChar]
      else Nat.toDigits 16 (number / 16) ++ [(number % 16).digitChar] :=
  Nat.toDigits_eq_if (by decide)

theorem isWord_hexDigits (number : Nat) : IsWord (Nat.toDigits 16 number) := by
  induction number using Nat.strongRecOn with
  | ind number ih =>
      rw [hexDigits_eq]
      split
      · rename_i small
        simpa using isWordCharacter_digitChar small
      · have last := isWordCharacter_digitChar (Nat.mod_lt number (by decide : 16 > 0))
        exact isWord_append.mpr ⟨ih (number / 16) (by omega), by simpa using last⟩

theorem hexDigits_injective {left right : Nat}
    (same : Nat.toDigits 16 left = Nat.toDigits 16 right) : left = right := by
  induction left using Nat.strongRecOn generalizing right with
  | ind left ih =>
      rw [hexDigits_eq left, hexDigits_eq right] at same
      split at same <;> split at same
      · exact digitChar_injective ‹_› ‹_› (List.singleton_inj.mp same)
      · simp [List.singleton_eq_append_iff] at same
      · simp [List.append_eq_singleton_iff] at same
      · obtain ⟨sameFront, sameLast⟩ := List.append_inj' same rfl
        have front := ih (left / 16) (by omega) sameFront
        have last := digitChar_injective (Nat.mod_lt _ (by decide)) (Nat.mod_lt _ (by decide))
          (List.singleton_inj.mp sameLast)
        omega

def unescapeLetter : Char → Char
  | '0' => '\x00'
  | 't' => '\t'
  | 'n' => '\n'
  | 'r' => '\r'
  | other => other

theorem escape_cases (character : Char) :
    (∃ letter, escape character = ['\\', letter] ∧ letter ≠ 'u' ∧
        unescapeLetter letter = character) ∨
      escape character = '\\' :: 'u' :: '\x7b' :: (hexCode character ++ ['\x7d']) ∨
      (escape character = [character] ∧ character ≠ '\\' ∧ character ≠ '"') := by
  unfold escape
  split
  · exact .inl ⟨'0', rfl, by decide, rfl⟩
  · exact .inl ⟨'t', rfl, by decide, rfl⟩
  · exact .inl ⟨'n', rfl, by decide, rfl⟩
  · exact .inl ⟨'r', rfl, by decide, rfl⟩
  · exact .inl ⟨'"', rfl, by decide, rfl⟩
  · exact .inl ⟨'\\', rfl, by decide, rfl⟩
  · rename_i notQuote notBackslash
    split
    · exact .inr (.inl rfl)
    · exact .inr (.inr ⟨rfl, notBackslash, notQuote⟩)

theorem escape_append_inj {left right : Char} {leftRest rightRest : List Char}
    (same : escape left ++ leftRest = escape right ++ rightRest) :
    left = right ∧ leftRest = rightRest := by
  rcases escape_cases left with
    ⟨letter, isLetter, notCode, meaning⟩ | isCode | ⟨isPlain, notEscape, _⟩
  · rcases escape_cases right with
      ⟨other, isOther, _, otherMeaning⟩ | isOther | ⟨isOther, notOtherEscape, _⟩
    · simp only [isLetter, isOther, List.cons_append, List.nil_append, List.cons.injEq,
        true_and] at same
      obtain ⟨rfl, sameRest⟩ := same
      exact ⟨meaning.symm.trans otherMeaning, sameRest⟩
    · simp [isLetter, isOther, notCode] at same
    · simp [isLetter, isOther, notOtherEscape.symm] at same
  · rcases escape_cases right with
      ⟨other, isOther, notCode, _⟩ | isOther | ⟨isOther, notOtherEscape, _⟩
    · simp [isCode, isOther, notCode.symm] at same
    · simp only [isCode, isOther, List.cons_append, List.nil_append, List.append_assoc,
        List.cons.injEq, true_and] at same
      obtain ⟨sameCode, _, sameRest⟩ :=
        (isWord_hexDigits left.toNat).append_inj (isWord_hexDigits right.toNat) rfl rfl same
      exact ⟨Char.toNat_inj.mp (hexDigits_injective sameCode), sameRest⟩
    · simp [isCode, isOther, notOtherEscape.symm] at same
  · rcases escape_cases right with ⟨other, isOther, _⟩ | isOther | ⟨isOther, _⟩
    · simp [isPlain, isOther, notEscape] at same
    · simp [isPlain, isOther, notEscape] at same
    · simpa [isPlain, isOther] using same

theorem escape_ne_nil (character : Char) : escape character ≠ [] := by
  rcases escape_cases character with ⟨letter, isLetter, _⟩ | isCode | ⟨isPlain, _⟩ <;> simp [*]

theorem escaped_injective {left right : List Char}
    (same : left.flatMap escape = right.flatMap escape) : left = right := by
  induction left generalizing right with
  | nil =>
      cases right with
      | nil => rfl
      | cons first rest => simp [escape_ne_nil] at same
  | cons character characters ih =>
      cases right with
      | nil => simp [escape_ne_nil] at same
      | cons first rest =>
          simp only [List.flatMap_cons] at same
          obtain ⟨rfl, sameRest⟩ := escape_append_inj same
          rw [ih sameRest]

/-- Every quote stands right behind a backslash, the first one where `previous` stands before. -/
def quotesGuarded (previous : Char) : List Char → Bool
  | [] => true
  | character :: rest => (character != '"' || previous == '\\') && quotesGuarded character rest

theorem quotesGuarded_of_isWord {characters : List Char} (word : IsWord characters)
    (previous : Char) (rest : List Char)
    (guarded : ∀ last, quotesGuarded last rest = true) :
    quotesGuarded previous (characters ++ rest) = true := by
  induction characters generalizing previous with
  | nil => exact guarded previous
  | cons character characters ih =>
      have notQuote : character ≠ '"' := by
        rintro rfl
        exact absurd (word _ List.mem_cons_self) (by decide)
      have later := ih (fun other member => word other (List.mem_cons_of_mem _ member)) character
      simp [quotesGuarded, notQuote, later]

theorem quotesGuarded_escaped (characters : List Char) (previous : Char) :
    quotesGuarded previous (characters.flatMap escape) = true := by
  induction characters generalizing previous with
  | nil => rfl
  | cons character characters ih =>
      rw [List.flatMap_cons]
      rcases escape_cases character with ⟨letter, isLetter, _⟩ | isCode | ⟨isPlain, _, notQuote⟩
      · simp [isLetter, quotesGuarded, ih]
      · have closed (last : Char) :
            quotesGuarded last ('\x7d' :: characters.flatMap escape) = true := by
          simp [quotesGuarded, ih]
        have code := quotesGuarded_of_isWord (isWord_hexDigits character.toNat) '\x7b' _ closed
        simp [isCode, quotesGuarded, hexCode, code]
      · simp [isPlain, quotesGuarded, notQuote, ih]

theorem not_quotesGuarded (previous : Char) (before after : List Char) :
    quotesGuarded previous (before ++ ' ' :: '"' :: after) = false := by
  induction before generalizing previous with
  | nil => simp [quotesGuarded]
  | cons character characters ih => simp [quotesGuarded, ih]

theorem eq_nil_of_guarded {previous : Char} {between left right : List Char}
    (guarded : quotesGuarded previous left = true)
    (same : ' ' :: '"' :: left = between ++ ' ' :: '"' :: right) : between = [] := by
  match between with
  | [] => rfl
  | [_] => simp at same
  | _ :: _ :: rest =>
      simp only [List.cons_append, List.cons.injEq] at same
      rw [same.2.2, not_quotesGuarded] at guarded
      cases guarded

theorem guarded_suffix {previous : Char} {left right leftBefore rightBefore : List Char}
    (leftGuarded : quotesGuarded previous left = true)
    (rightGuarded : quotesGuarded previous right = true)
    (same : leftBefore ++ ' ' :: '"' :: left = rightBefore ++ ' ' :: '"' :: right) :
    leftBefore = rightBefore ∧ left = right := by
  -- What is between the two openings is empty: otherwise the later one is a quote behind a space in
  -- the text that the earlier one opens.
  rcases List.append_eq_append_iff.mp same with
    ⟨between, isBefore, behind⟩ | ⟨between, isBefore, behind⟩
  · obtain rfl := eq_nil_of_guarded leftGuarded behind
    simpa [isBefore] using behind
  · obtain rfl := eq_nil_of_guarded rightGuarded behind
    simpa [isBefore] using behind.symm

/-- A quotation that ends a text shows where it begins and what it quotes. -/
theorem append_quoted_inj {left right : String} {leftBefore rightBefore : List Char}
    (same : leftBefore ++ ' ' :: (quoted left).toList =
      rightBefore ++ ' ' :: (quoted right).toList) :
    leftBefore = rightBefore ∧ left = right := by
  simp only [quoted, String.toList_ofList, ← List.cons_append, ← List.append_assoc] at same
  have unclosed := List.append_cancel_right same
  obtain ⟨sameBefore, sameText⟩ := guarded_suffix (quotesGuarded_escaped _ ' ')
    (quotesGuarded_escaped _ ' ') unclosed
  exact ⟨sameBefore, String.toList_inj.mp (escaped_injective sameText)⟩

end ExprGraph.Text
