import ExprGraph.Proofs.HandleClosure
import ExprGraph.Proofs.Text.Quotation
import ExprGraph.Proofs.Text.Scalars

/-!
The parts of dump entries, as characters, and how each is told from what follows it.  The words at
the front end at the first character that is no part of a word.  Behind them the second character of
a part says which one it is, so that absent parts are noticed; and an address is read backwards,
from its end to its last opening quote.
-/

namespace ExprGraph

namespace Text

def bracketed : Option Immediate → List Char
  | none => []
  | some immediate => ' ' :: '[' :: (immediate.text.toList ++ [']'])

def named (name : String) : List Char :=
  if name = "" then [] else ' ' :: '"' :: (name.toList ++ ['"'])

variable {leftRest rightRest : List Char}

theorem bracketed_inj {left right : Option Immediate}
    (leftOther : ∀ rest, leftRest ≠ ' ' :: '[' :: rest)
    (rightOther : ∀ rest, rightRest ≠ ' ' :: '[' :: rest)
    (same : bracketed left ++ leftRest = bracketed right ++ rightRest) :
    Option.Rel Immediate.EqualUpToNaN left right ∧ leftRest = rightRest := by
  cases left with
  | none =>
      cases right with
      | none => exact ⟨.none, same⟩
      | some other => exact (leftOther _ same).elim
  | some immediate =>
      cases right with
      | none => exact (rightOther _ same.symm).elim
      | some other =>
          simp only [bracketed, List.cons_append, List.append_assoc, List.cons.injEq,
            true_and] at same
          obtain ⟨sameText, _, sameRest⟩ :=
            immediate.isWord_text.append_inj other.isWord_text rfl rfl same
          exact ⟨.some (Immediate.equal_of_text (String.toList_inj.mp sameText)), sameRest⟩

theorem named_ne_bracket {rest : List Char} (other : ∀ later, rest ≠ ' ' :: '[' :: later)
    (name : String) : ∀ later, named name ++ rest ≠ ' ' :: '[' :: later := by
  intro later
  unfold named
  split
  · exact other later
  · simp

/-- A name ends at the last quote, whatever is in it. -/
theorem named_inj {left right : String} (leftPlain : '"' ∉ leftRest) (rightPlain : '"' ∉ rightRest)
    (same : named left ++ leftRest = named right ++ rightRest) :
    left = right ∧ leftRest = rightRest := by
  unfold named at same
  by_cases leftUnnamed : left = ""
  · rw [if_pos leftUnnamed, List.nil_append] at same
    by_cases rightUnnamed : right = ""
    · rw [if_pos rightUnnamed, List.nil_append] at same
      exact ⟨leftUnnamed.trans rightUnnamed.symm, same⟩
    · rw [if_neg rightUnnamed] at same
      exact (leftPlain (by simp [same])).elim
  · rw [if_neg leftUnnamed] at same
    by_cases rightUnnamed : right = ""
    · rw [if_pos rightUnnamed, List.nil_append] at same
      exact (rightPlain (by simp [← same])).elim
    · rw [if_neg rightUnnamed] at same
      simp only [List.cons_append, List.append_assoc, List.cons.injEq, true_and,
        List.nil_append] at same
      obtain ⟨sameName, _, sameRest⟩ := cons_append_inj (· ≠ '"')
        (fun character member => ne_of_mem_of_not_mem member leftPlain)
        (fun character member => ne_of_mem_of_not_mem member rightPlain)
        (not_not_intro rfl) (not_not_intro rfl) same
      exact ⟨String.toList_inj.mp sameName, sameRest⟩

end Text

namespace Node

theorem toList_text (node : Node) : node.text.toList =
    node.opcode.name.toList ++ '<' :: (node.dataType.name.toList ++ '>' ::
      (Text.bracketed node.immediate ++ Text.named node.name)) := by
  unfold text Text.named
  cases node.immediate <;> split <;> simp [Text.bracketed, *]

/-- What entries show of a node, but for its place in a dump: floats that are not a number all look
the same. -/
structure ShownAlike (left right : Node) : Prop where
  id : left.id = right.id
  opcode : left.opcode = right.opcode
  dataType : left.dataType = right.dataType
  immediate : Option.Rel Immediate.EqualUpToNaN left.immediate right.immediate
  name : left.name = right.name

variable {left right : Node} {leftRest rightRest : List Char}

theorem front_inj
    (same : left.label.toList ++ ' ' :: (left.text.toList ++ leftRest) =
      right.label.toList ++ ' ' :: (right.text.toList ++ rightRest)) :
    left.id = right.id ∧ left.opcode = right.opcode ∧ left.dataType = right.dataType ∧
      Text.bracketed left.immediate ++ (Text.named left.name ++ leftRest) =
        Text.bracketed right.immediate ++ (Text.named right.name ++ rightRest) := by
  simp only [toList_text, List.append_assoc, List.cons_append] at same
  obtain ⟨sameLabel, _, afterLabel⟩ :=
    left.isWord_label.append_inj right.isWord_label rfl rfl same
  obtain ⟨sameOpcode, _, afterOpcode⟩ :=
    left.opcode.isWord_name.append_inj right.opcode.isWord_name rfl rfl afterLabel
  obtain ⟨sameType, _, afterType⟩ :=
    left.dataType.isWord_name.append_inj right.dataType.isWord_name rfl rfl afterOpcode
  exact ⟨label_injective (String.toList_inj.mp sameLabel),
    Opcode.name_injective (String.toList_inj.mp sameOpcode),
    DataType.name_injective (String.toList_inj.mp sameType), afterType⟩

end Node

/-- The end of an address is read backwards, up to the last opening quote there is. -/
theorem Address.fieldText_inj {left right : Address} {leftBefore rightBefore : List Char}
    (same : leftBefore ++ left.fieldText.toList = rightBefore ++ right.fieldText.toList) :
    leftBefore = rightBefore ∧ left = right := by
  -- Each part ends at the space before it when it is read backwards, so the space is split off.
  have opening : "BufferAddress \x7b buffer: ".toList =
      "BufferAddress \x7b buffer:".toList ++ [' '] := by decide
  have element : ", element: ".toList = ", element:".toList ++ [' '] := by decide
  have offset : ", offset: ".toList = ", offset:".toList ++ [' '] := by decide
  have shown (before : List Char) (address : Address) : before ++ address.fieldText.toList =
      before ++ "BufferAddress \x7b buffer:".toList ++ ' ' :: (Text.quoted address.buffer).toList ++
        ", element:".toList ++ ' ' :: address.element.tag.toList ++
        ", offset:".toList ++ ' ' :: (toString address.offset.toInt).toList ++ " \x7d".toList := by
    unfold fieldText
    simp only [String.toList_append, opening, element, offset, List.append_assoc, List.cons_append,
      List.nil_append]
  rw [shown, shown] at same
  have withoutEnd := List.append_cancel_right same
  obtain ⟨sameFront, _, sameOffset⟩ := (Text.isWord_integer left.offset.toInt).inj_append
    (Text.isWord_integer right.offset.toInt) rfl rfl withoutEnd
  have withoutOffset := List.append_cancel_right sameFront
  obtain ⟨sameMiddle, _, sameElement⟩ := left.element.isWord_tag.inj_append
    right.element.isWord_tag rfl rfl withoutOffset
  have withoutElement := List.append_cancel_right sameMiddle
  obtain ⟨sameBefore, sameText⟩ := Text.append_quoted_inj withoutElement
  refine ⟨List.append_cancel_right sameBefore, ?_⟩
  cases left
  cases right
  simp only [Address.mk.injEq]
  exact ⟨sameText, DataType.tag_injective (String.toList_inj.mp sameElement),
    integer_inj (String.toList_inj.mp sameOffset)⟩

end ExprGraph
