import Std.Data.String.ToInt
import ExprGraph.Graph.Dump

/-!
Words: the parts of a dump that are not texts of a caller.  Names of operations and types, labels
and numbers are made of letters, digits and three signs.  So a word ends at the first character that
is none of these, and equal texts with such a character behind a word agree in the word and the
rest.
-/

namespace ExprGraph

namespace Text

section Splitting

variable (inside : α → Prop) {left right leftRest rightRest : List α} {leftStop rightStop : α}

theorem append_cons_inj (leftInside : ∀ item ∈ left, inside item)
    (rightInside : ∀ item ∈ right, inside item) (leftEnds : ¬ inside leftStop)
    (rightEnds : ¬ inside rightStop)
    (same : left ++ leftStop :: leftRest = right ++ rightStop :: rightRest) :
    left = right ∧ leftStop = rightStop ∧ leftRest = rightRest := by
  induction left generalizing right with
  | nil =>
      cases right with
      | nil => simpa using same
      | cons first rest =>
          obtain ⟨rfl, _⟩ := List.cons.inj same
          exact (leftEnds (rightInside _ List.mem_cons_self)).elim
  | cons item items ih =>
      cases right with
      | nil =>
          obtain ⟨rfl, _⟩ := List.cons.inj same
          exact (rightEnds (leftInside _ List.mem_cons_self)).elim
      | cons first rest =>
          obtain ⟨rfl, later⟩ := List.cons.inj same
          obtain ⟨rfl, sameStop, sameRest⟩ := ih
            (fun other member => leftInside other (List.mem_cons_of_mem _ member))
            (fun other member => rightInside other (List.mem_cons_of_mem _ member)) later
          exact ⟨rfl, sameStop, sameRest⟩

theorem cons_append_inj (leftInside : ∀ item ∈ left, inside item)
    (rightInside : ∀ item ∈ right, inside item) (leftEnds : ¬ inside leftStop)
    (rightEnds : ¬ inside rightStop)
    (same : leftRest ++ leftStop :: left = rightRest ++ rightStop :: right) :
    leftRest = rightRest ∧ leftStop = rightStop ∧ left = right := by
  have reversed := congrArg List.reverse same
  simp only [List.reverse_append, List.reverse_cons, List.append_assoc, List.cons_append,
    List.nil_append] at reversed
  obtain ⟨sameItems, sameStop, sameRest⟩ := append_cons_inj inside
    (fun item member => leftInside item (List.mem_reverse.mp member))
    (fun item member => rightInside item (List.mem_reverse.mp member)) leftEnds rightEnds reversed
  exact ⟨List.reverse_inj.mp sameRest, sameStop, List.reverse_inj.mp sameItems⟩

end Splitting

def isWordCharacter (character : Char) : Bool :=
  character.isAlphanum || character == '_' || character == '.' || character == '-'

def IsWord (characters : List Char) : Prop :=
  ∀ character ∈ characters, isWordCharacter character = true

instance (characters : List Char) : Decidable (IsWord characters) :=
  List.decidableBAll (isWordCharacter · = true) characters

@[simp] theorem isWord_nil : IsWord [] := nofun

@[simp] theorem isWord_cons {character : Char} {characters : List Char} :
    IsWord (character :: characters) ↔ isWordCharacter character = true ∧ IsWord characters :=
  List.forall_mem_cons

@[simp] theorem isWord_append {left right : List Char} :
    IsWord (left ++ right) ↔ IsWord left ∧ IsWord right :=
  List.forall_mem_append

namespace IsWord

variable {left right leftRest rightRest : List Char} {leftStop rightStop : Char}

theorem not_mem {characters : List Char} {character : Char} (word : IsWord characters)
    (other : isWordCharacter character = false) : character ∉ characters := by
  intro member
  rw [word character member] at other
  cases other

theorem append_inj (leftWord : IsWord left) (rightWord : IsWord right)
    (leftEnds : isWordCharacter leftStop = false) (rightEnds : isWordCharacter rightStop = false)
    (same : left ++ leftStop :: leftRest = right ++ rightStop :: rightRest) :
    left = right ∧ leftStop = rightStop ∧ leftRest = rightRest :=
  append_cons_inj _ leftWord rightWord (by simp [leftEnds]) (by simp [rightEnds]) same

theorem inj_append (leftWord : IsWord left) (rightWord : IsWord right)
    (leftEnds : isWordCharacter leftStop = false) (rightEnds : isWordCharacter rightStop = false)
    (same : leftRest ++ leftStop :: left = rightRest ++ rightStop :: right) :
    leftRest = rightRest ∧ leftStop = rightStop ∧ left = right :=
  cons_append_inj _ leftWord rightWord (by simp [leftEnds]) (by simp [rightEnds]) same

end IsWord

theorem isWordCharacter_of_isDigit {character : Char} (digit : character.isDigit = true) :
    isWordCharacter character = true := by
  simp [isWordCharacter, Char.isAlphanum, digit]

theorem isWord_zeros (count : Nat) : IsWord (List.replicate count '0') := by
  intro character member
  rw [(List.mem_replicate.mp member).2]
  rfl

theorem isWord_toDigits (number : Nat) : IsWord (Nat.toDigits 10 number) := by
  intro character member
  exact isWordCharacter_of_isDigit
    (Nat.isDigit_of_mem_toDigits (by decide) (by decide) member)

theorem isWord_natural (number : Nat) : IsWord (toString number).toList := by
  rw [Nat.toString_eq_ofList_toDigits, String.toList_ofList]
  exact isWord_toDigits number

theorem isWord_integer (number : Int) : IsWord (toString number).toList := by
  rw [Int.toString_eq_repr, Int.repr_eq_if]
  split
  · exact isWord_natural _
  · rw [String.toList_append]
    exact isWord_append.mpr ⟨by decide, isWord_natural _⟩

theorem not_mem_intercalate {character : Char} {separator : String} {texts : List String}
    (notBetween : character ∉ separator.toList)
    (notInside : ∀ text ∈ texts, character ∉ text.toList) :
    character ∉ (String.intercalate separator texts).toList := by
  induction texts with
  | nil => exact List.not_mem_nil
  | cons first rest ih =>
      obtain ⟨notFirst, notLater⟩ := List.forall_mem_cons.mp notInside
      cases rest with
      | nil => rwa [String.intercalate_singleton]
      | cons second rest =>
          simp only [String.intercalate_cons_cons, String.toList_append, List.mem_append]
          rintro ((inFirst | between) | later)
          · exact notFirst inFirst
          · exact notBetween between
          · exact ih notLater later

end Text

theorem integer_inj {left right : Int64} (same : toString left.toInt = toString right.toInt) :
    left = right :=
  Int64.toInt_inj.mp (Int.repr_injective same)

namespace Node

theorem isWord_label (node : Node) : Text.IsWord node.label.toList := by
  rw [label, String.toList_append, String.toList_ofList]
  exact Text.isWord_append.mpr ⟨Text.isWord_zeros _, Text.isWord_natural _⟩

theorem label_injective {left right : Node} (same : left.label = right.label) :
    left.id = right.id := by
  have value (node : Node) : Nat.ofDigitChars 10 node.label.toList 0 = node.id.toNat := by
    rw [label, String.toList_append, String.toList_ofList, Nat.ofDigitChars_append,
      Nat.ofDigitChars_replicate_zero, Nat.toString_eq_ofList_toDigits, String.toList_ofList,
      Nat.mul_zero, Nat.ofDigitChars_ten_toDigits]
  rw [← UInt32.toNat_inj, ← value, ← value, same]

end Node

namespace Graph

variable {character : Char}

theorem not_mem_reference (graph : Graph) (handle : Handle)
    (notWord : Text.isWordCharacter character = false) (notMark : character ∉ ['#', '?']) :
    character ∉ (graph.reference handle).toList := by
  obtain ⟨notNumberSign, notQuestionMark⟩ : character ≠ '#' ∧ character ≠ '?' := by
    simpa using notMark
  unfold reference
  split
  · rename_i node _
    simp [notNumberSign, node.isWord_label.not_mem notWord]
  · simp [notNumberSign, notQuestionMark]

theorem not_mem_references (graph : Graph) (handles : List Handle)
    (notWord : Text.isWordCharacter character = false)
    (notMark : character ∉ ['#', '?', ',', ' ']) :
    character ∉ (graph.references handles).toList := by
  apply Text.not_mem_intercalate
  · intro between
    exact notMark (List.mem_append_right ['#', '?'] between)
  · intro text member
    obtain ⟨handle, _, rfl⟩ := List.mem_map.mp member
    exact graph.not_mem_reference handle notWord
      (fun mark => notMark (List.mem_append_left [',', ' '] mark))

end Graph

theorem Opcode.isWord_name (opcode : Opcode) : Text.IsWord opcode.name.toList := by
  cases opcode <;> decide

theorem Opcode.name_injective {left right : Opcode} (same : left.name = right.name) :
    left = right := by
  revert same
  cases left <;> cases right <;> decide

theorem DataType.isWord_name (dataType : DataType) : Text.IsWord dataType.name.toList := by
  cases dataType <;> decide

theorem DataType.isWord_tag (dataType : DataType) : Text.IsWord dataType.tag.toList := by
  cases dataType <;> decide

theorem DataType.tag_injective {left right : DataType} (same : left.tag = right.tag) :
    left = right := by
  revert same
  cases left <;> cases right <;> decide

end ExprGraph
