import ExprGraph.Proofs.Text.Words

/-!
Addresses are told apart by their texts.  A buffer may hold anything, brackets, colons and whole
texts of addresses too, but nothing behind the last bracket belongs to it: the type name and the
offset are words, and so a text is read from its end.  Main statement: `same_text_iff`.
-/

namespace ExprGraph.Address

theorem toList_text (address : Address) : address.text.toList =
    address.buffer.toList ++ '[' :: (toString address.offset.toInt).toList ++ [']'] ++
      ':' :: address.element.name.toList := by
  unfold text
  simp [String.toList_append]

/-- Addresses of one text are the same, whatever their buffers are called, and also where there is
no name of a type. -/
theorem same_text_iff (left right : Address) :
    left.text = right.text ↔
      left.buffer = right.buffer ∧ left.element = right.element ∧ left.offset = right.offset := by
  constructor
  · intro same
    have shown := congrArg String.toList same
    rw [toList_text, toList_text] at shown
    -- The name is a word or empty, so the last colon stands right before it.
    obtain ⟨sameFront, _, sameName⟩ :=
      left.element.isWord_name.inj_append right.element.isWord_name rfl rfl shown
    have withoutBracket := List.append_cancel_right sameFront
    obtain ⟨sameBuffer, _, sameOffset⟩ := (Text.isWord_integer left.offset.toInt).inj_append
      (Text.isWord_integer right.offset.toInt) rfl rfl withoutBracket
    exact ⟨String.toList_inj.mp sameBuffer, DataType.name_injective (String.toList_inj.mp sameName),
      integer_inj (String.toList_inj.mp sameOffset)⟩
  · rintro ⟨sameBuffer, sameElement, sameOffset⟩
    rw [text, text, sameBuffer, sameElement, sameOffset]

example : text ⟨"x[7]:float32", .unknown, -1⟩ = "x[7]:float32[-1]:" := by decide

end ExprGraph.Address
