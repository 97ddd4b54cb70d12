import ExprGraph.Proofs.Text.Entries
import ExprGraph.Proofs.TreeDump

/-!
Dump entries are unambiguous.  A name is shown as it is and may look like any other part of an
entry; still an entry shows one node, one place in the dump, and one row of children and of lanes,
because nothing behind a name ends in a quote that is not escaped.  Main statement:
`entries_unambiguous`.
-/

namespace ExprGraph

namespace Node

variable {left right : Node} {leftRest rightRest : List Char}

theorem references_split (first : Node) (rest : List Node) (stop : Char) (after : List Char) :
    ∃ mark behind, (references (first :: rest)).toList ++ stop :: after =
        '#' :: (first.label.toList ++ mark :: behind) ∧
      ((rest = [] ∧ mark = stop ∧ behind = after) ∨
        (rest ≠ [] ∧ mark = ',' ∧
          behind = ' ' :: ((references rest).toList ++ stop :: after))) := by
  cases rest with
  | nil => exact ⟨stop, after, by simp [references], .inl ⟨rfl, rfl, rfl⟩⟩
  | cons second rest =>
      refine ⟨',', _, ?_, .inr ⟨List.cons_ne_nil _ _, rfl, rfl⟩⟩
      simp [references, String.intercalate_cons_cons]

theorem references_inj {left right : List Node} {stop : Char} (someLeft : left ≠ [])
    (someRight : right ≠ []) (notWord : Text.isWordCharacter stop = false) (notComma : stop ≠ ',')
    (same : (references left).toList ++ stop :: leftRest =
      (references right).toList ++ stop :: rightRest) :
    left.map Node.id = right.map Node.id ∧ leftRest = rightRest := by
  have markNotWord {mark : Char} (isMark : mark = stop ∨ mark = ',') :
      Text.isWordCharacter mark = false := by
    rcases isMark with rfl | rfl
    · exact notWord
    · decide
  induction left generalizing right with
  | nil => exact (someLeft rfl).elim
  | cons first rest ih =>
      cases right with
      | nil => exact (someRight rfl).elim
      | cons other others =>
          obtain ⟨mark, behind, leftShown, leftEnds⟩ := references_split first rest stop leftRest
          obtain ⟨otherMark, otherBehind, rightShown, rightEnds⟩ :=
            references_split other others stop rightRest
          rw [leftShown, rightShown] at same
          obtain ⟨sameLabel, sameMark, sameBehind⟩ := first.isWord_label.append_inj
            other.isWord_label (markNotWord (leftEnds.imp (·.2.1) (·.2.1)))
            (markNotWord (rightEnds.imp (·.2.1) (·.2.1))) (List.cons.inj same).2
          have sameId := label_injective (String.toList_inj.mp sameLabel)
          rcases leftEnds with ⟨rfl, rfl, rfl⟩ | ⟨someRest, rfl, rfl⟩
          · rcases rightEnds with ⟨rfl, _, rfl⟩ | ⟨_, rfl, _⟩
            · exact ⟨by rw [List.map_singleton, List.map_singleton, sameId], sameBehind⟩
            · exact (notComma sameMark).elim
          · rcases rightEnds with ⟨_, rfl, _⟩ | ⟨someOthers, _, rfl⟩
            · exact (notComma sameMark.symm).elim
            · obtain ⟨sameIds, sameRest⟩ := ih someRest someOthers (List.cons.inj sameBehind).2
              exact ⟨by rw [List.map_cons, List.map_cons, sameId, sameIds], sameRest⟩

def childrenText (children : List Node) : List Char :=
  if children = [] then [] else ' ' :: '(' :: ((references children).toList ++ [')'])

def membersText (members : List Node) (groupCount : Nat) : List Char :=
  if members = [] then [] else
    " members=[".toList ++ ((references members).toList ++
      ']' :: (" x".toList ++ (toString groupCount).toList))

theorem toList_resolvedEntry (node : Node) (children members : List Node) :
    (node.resolvedEntry children members).toList =
      node.label.toList ++ ' ' :: (node.text.toList ++
        (childrenText children ++ membersText members node.groupCount)) := by
  unfold resolvedEntry childrenText membersText
  cases children <;> cases members <;> simp

theorem not_mem_references {character : Char} (nodes : List Node)
    (notWord : Text.isWordCharacter character = false) (notMark : character ∉ ['#', ',', ' ']) :
    character ∉ (references nodes).toList := by
  apply Text.not_mem_intercalate
  · intro between
    exact notMark (List.mem_append_right ['#'] between)
  · intro text member
    obtain ⟨node, _, rfl⟩ := List.mem_map.mp member
    rw [String.toList_append, List.mem_append]
    rintro (mark | inLabel)
    · exact notMark (List.mem_append_left [',', ' '] mark)
    · exact node.isWord_label.not_mem notWord inLabel

theorem not_mem_childrenText (children : List Node) : '"' ∉ childrenText children := by
  have plain : '"' ∉ (references children).toList :=
    not_mem_references children (by decide) (by decide)
  unfold childrenText
  split <;> simp [plain]

theorem not_mem_membersText (members : List Node) (groupCount : Nat) :
    '"' ∉ membersText members groupCount := by
  have plain : '"' ∉ (references members).toList :=
    not_mem_references members (by decide) (by decide)
  have number : '"' ∉ (toString groupCount).toList :=
    (Text.isWord_natural groupCount).not_mem (by decide)
  unfold membersText
  split
  · exact List.not_mem_nil
  · simp only [List.mem_cons, List.mem_append, not_or]
    exact ⟨by decide, plain, by decide, by decide, number⟩

theorem membersText_ne (members : List Node) (groupCount : Nat) {second : Char}
    (other : second ≠ 'm') (rest : List Char) :
    membersText members groupCount ≠ ' ' :: second :: rest := by
  unfold membersText
  split
  · exact nofun
  · simp [other.symm]

theorem childrenText_ne {children : List Node} {second : Char} (other : second ≠ '(')
    (behind : ∀ rest, leftRest ≠ ' ' :: second :: rest) (rest : List Char) :
    childrenText children ++ leftRest ≠ ' ' :: second :: rest := by
  unfold childrenText
  split
  · exact behind rest
  · simp [other.symm]

theorem childrenText_inj {left right : List Node}
    (leftOther : ∀ rest, leftRest ≠ ' ' :: '(' :: rest)
    (rightOther : ∀ rest, rightRest ≠ ' ' :: '(' :: rest)
    (same : childrenText left ++ leftRest = childrenText right ++ rightRest) :
    left.map Node.id = right.map Node.id ∧ leftRest = rightRest := by
  unfold childrenText at same
  by_cases noneLeft : left = []
  · rw [if_pos noneLeft] at same
    by_cases noneRight : right = []
    · rw [if_pos noneRight] at same
      exact ⟨by rw [noneLeft, noneRight], same⟩
    · rw [if_neg noneRight] at same
      exact (leftOther _ same).elim
  · rw [if_neg noneLeft] at same
    by_cases noneRight : right = []
    · rw [if_pos noneRight] at same
      exact (rightOther _ same.symm).elim
    · rw [if_neg noneRight] at same
      simp only [List.cons_append, List.append_assoc, List.cons.injEq, true_and] at same
      exact references_inj noneLeft noneRight (by decide) (by decide) same

theorem membersText_inj {left right : List Node} {leftCount rightCount : Nat}
    (same : membersText left leftCount = membersText right rightCount) :
    left.map Node.id = right.map Node.id ∧ (left ≠ [] → leftCount = rightCount) := by
  unfold membersText at same
  by_cases noneLeft : left = []
  · rw [if_pos noneLeft] at same
    by_cases noneRight : right = []
    · exact ⟨by rw [noneLeft, noneRight], fun some => (some noneLeft).elim⟩
    · rw [if_neg noneRight] at same
      cases same
  · rw [if_neg noneLeft] at same
    by_cases noneRight : right = []
    · rw [if_pos noneRight] at same
      cases same
    · rw [if_neg noneRight] at same
      obtain ⟨sameIds, sameCount⟩ := references_inj noneLeft noneRight (by decide) (by decide)
        (List.append_cancel_left same)
      have count := List.append_cancel_left sameCount
      exact ⟨sameIds, fun _ => Nat.repr_injective (String.toList_inj.mp count)⟩

theorem resolvedEntry_inj {leftChildren leftMembers rightChildren rightMembers : List Node}
    (same : left.resolvedEntry leftChildren leftMembers =
      right.resolvedEntry rightChildren rightMembers) :
    left.ShownAlike right ∧ leftChildren.map Node.id = rightChildren.map Node.id ∧
      leftMembers.map Node.id = rightMembers.map Node.id ∧
      (leftMembers ≠ [] → left.groupCount = right.groupCount) := by
  have shown := congrArg String.toList same
  rw [toList_resolvedEntry, toList_resolvedEntry] at shown
  obtain ⟨id, opcode, dataType, behindType⟩ := front_inj shown
  -- Behind the type an immediate is known by its bracket, a name by its quote, a row of children by
  -- its parenthesis and a row of lanes by its first letter.
  have notImmediate (children members : List Node) (count : Nat) :
      ∀ rest, childrenText children ++ membersText members count ≠ ' ' :: '[' :: rest :=
    childrenText_ne (by decide) (membersText_ne members count (by decide))
  have plain (children members : List Node) (count : Nat) :
      '"' ∉ childrenText children ++ membersText members count := by
    rw [List.mem_append, not_or]
    exact ⟨not_mem_childrenText children, not_mem_membersText members count⟩
  obtain ⟨immediate, behindImmediate⟩ := Text.bracketed_inj
    (Text.named_ne_bracket (notImmediate _ _ _) left.name)
    (Text.named_ne_bracket (notImmediate _ _ _) right.name) behindType
  obtain ⟨name, behindName⟩ := Text.named_inj (plain _ _ _) (plain _ _ _) behindImmediate
  obtain ⟨sameChildren, behindChildren⟩ := childrenText_inj
    (membersText_ne leftMembers left.groupCount (by decide))
    (membersText_ne rightMembers right.groupCount (by decide)) behindName
  exact ⟨⟨id, opcode, dataType, immediate, name⟩, sameChildren, membersText_inj behindChildren⟩

def addressText (node : Node) : List Char :=
  match node.boundAddress with
  | .ok address => ' ' :: '@' :: ' ' :: address.fieldText.toList
  | .error _ => []

theorem label_begins (node : Node) :
    ∃ first rest, node.label.toList = first :: rest ∧ first ≠ ' ' := by
  cases shown : node.label.toList with
  | nil =>
      have digits : (Nat.toDigits 10 node.id.toNat) ≠ [] := Nat.toDigits_ne_nil
      simp [label, digits] at shown
  | cons first rest =>
      refine ⟨first, rest, rfl, ?_⟩
      rintro rfl
      have noSpace : ' ' ∉ node.label.toList := node.isWord_label.not_mem (by decide)
      exact noSpace (by simp [shown])

end Node

theorem Address.fieldText_ends (address : Address) :
    ∃ front, address.fieldText.toList = front ++ ['\x7d'] := by
  unfold fieldText
  rw [String.toList_append]
  exact ⟨_ ++ [' '], by rw [List.append_assoc]; rfl⟩

theorem Text.named_ne_append (name : String) (front : List Char) :
    named name ≠ front ++ ['\x7d'] := by
  unfold named
  split
  · simp
  · intro same
    rw [← List.cons_append, ← List.cons_append] at same
    exact absurd (List.append_inj' same rfl).2 (by decide)

namespace Node

variable {left right : Node}

theorem addressText_of_ok {address : Address} (bound : left.boundAddress = .ok address) :
    left.addressText = ' ' :: '@' :: ' ' :: address.fieldText.toList := by
  rw [addressText, bound]

theorem addressText_of_error {fault : Fault} (unbound : left.boundAddress = .error fault) :
    left.addressText = [] := by
  rw [addressText, unbound]

theorem addressText_ne (node : Node) (rest : List Char) :
    node.addressText ≠ ' ' :: '[' :: rest := by
  unfold addressText
  split
  · exact fun same => absurd (List.cons.inj (List.cons.inj same).2).1 (by decide)
  · exact nofun

theorem boundAddress_error {fault other : Fault} (sameOpcode : left.opcode = right.opcode)
    (leftUnbound : left.boundAddress = .error fault)
    (rightUnbound : right.boundAddress = .error other) : fault = other := by
  unfold boundAddress at leftUnbound rightUnbound
  rw [← sameOpcode] at rightUnbound
  by_cases isAddr : left.opcode = .addr
  · rw [if_pos isAddr] at leftUnbound rightUnbound
    split at leftUnbound <;> cases leftUnbound
    split at rightUnbound <;> cases rightUnbound
    rfl
  · rw [if_neg isAddr] at leftUnbound rightUnbound
    cases leftUnbound
    cases rightUnbound
    rfl

theorem bound_ne_unbound {address : Address} {fault : Fault}
    (bound : left.boundAddress = .ok address) (unbound : right.boundAddress = .error fault) :
    Text.named left.name ++ left.addressText ≠ Text.named right.name ++ right.addressText := by
  intro same
  obtain ⟨front, ends⟩ := address.fieldText_ends
  rw [addressText_of_ok bound, addressText_of_error unbound, List.append_nil, ends,
    ← List.cons_append, ← List.cons_append, ← List.cons_append, ← List.append_assoc] at same
  exact Text.named_ne_append right.name _ same.symm

theorem address_inj (sameOpcode : left.opcode = right.opcode)
    (same : Text.named left.name ++ left.addressText = Text.named right.name ++ right.addressText) :
    left.name = right.name ∧ left.boundAddress = right.boundAddress := by
  have nothing : '"' ∉ ([] : List Char) := List.not_mem_nil
  cases leftBound : left.boundAddress with
  | error fault =>
      cases rightBound : right.boundAddress with
      | error other =>
          rw [addressText_of_error leftBound, addressText_of_error rightBound] at same
          rw [boundAddress_error sameOpcode leftBound rightBound]
          exact ⟨(Text.named_inj nothing nothing same).1, rfl⟩
      | ok address => exact (bound_ne_unbound rightBound leftBound same.symm).elim
  | ok address =>
      cases rightBound : right.boundAddress with
      | error fault => exact (bound_ne_unbound leftBound rightBound same).elim
      | ok other =>
          -- An address may hold quotes too, so it is taken off from behind, before the name.
          have before (name : String) (shown : Address) :
              Text.named name ++ ' ' :: '@' :: ' ' :: shown.fieldText.toList =
                Text.named name ++ [' ', '@', ' '] ++ shown.fieldText.toList := by
            simp
          rw [addressText_of_ok leftBound, addressText_of_ok rightBound, before, before] at same
          obtain ⟨sameFront, rfl⟩ := Address.fieldText_inj same
          have sameName : Text.named left.name ++ [] = Text.named right.name ++ [] := by
            rw [List.append_cancel_right sameFront]
          exact ⟨(Text.named_inj nothing nothing sameName).1, rfl⟩

end Node

namespace TreeDump

variable {left right : Node} {leftDepth rightDepth : Nat} {leftRepeated rightRepeated : Bool}

theorem entry_repeated (node : Node) (depth : Nat) :
    entry node depth true = entry node depth false ++ " *" := by
  unfold entry
  simp

theorem toList_entry (node : Node) (depth : Nat) : (entry node depth false).toList =
    List.replicate (2 * depth) ' ' ++
      (node.label.toList ++ ' ' :: (node.text.toList ++ node.addressText)) := by
  unfold entry Node.addressText
  cases node.boundAddress <;> simp

theorem repeated_inj
    (same : entry left leftDepth leftRepeated = entry right rightDepth rightRepeated) :
    leftRepeated = rightRepeated := by
  have leftMarked := entry_marked_iff left (List.replicate leftDepth 0) leftRepeated
  have rightMarked := entry_marked_iff right (List.replicate rightDepth 0) rightRepeated
  rw [List.length_replicate] at leftMarked rightMarked
  rw [Bool.eq_iff_iff, ← leftMarked, ← rightMarked, same]

theorem depth_inj {leftRest rightRest : List Char}
    (same : List.replicate (2 * leftDepth) ' ' ++ (left.label.toList ++ leftRest) =
      List.replicate (2 * rightDepth) ' ' ++ (right.label.toList ++ rightRest)) :
    leftDepth = rightDepth := by
  obtain ⟨first, rest, leftLabel, notSpace⟩ := left.label_begins
  obtain ⟨other, others, rightLabel, otherNotSpace⟩ := right.label_begins
  rw [leftLabel, rightLabel] at same
  obtain ⟨sameSpaces, _⟩ := Text.append_cons_inj (· = ' ')
    (fun _ member => (List.mem_replicate.mp member).2)
    (fun _ member => (List.mem_replicate.mp member).2) notSpace otherNotSpace same
  have lengths := congrArg List.length sameSpaces
  rw [List.length_replicate, List.length_replicate] at lengths
  omega

theorem entry_inj
    (same : entry left leftDepth leftRepeated = entry right rightDepth rightRepeated) :
    leftDepth = rightDepth ∧ leftRepeated = rightRepeated ∧ left.ShownAlike right ∧
      left.boundAddress = right.boundAddress := by
  obtain rfl := repeated_inj same
  have unmarked : (entry left leftDepth false).toList = (entry right rightDepth false).toList := by
    cases leftRepeated with
    | false => rw [same]
    | true =>
        have shown := congrArg String.toList same
        rw [entry_repeated, entry_repeated, String.toList_append, String.toList_append] at shown
        exact List.append_cancel_right shown
  rw [toList_entry, toList_entry] at unmarked
  obtain rfl := depth_inj unmarked
  obtain ⟨id, opcode, dataType, behindType⟩ := Node.front_inj (List.append_cancel_left unmarked)
  obtain ⟨immediate, behindImmediate⟩ := Text.bracketed_inj
    (Text.named_ne_bracket left.addressText_ne left.name)
    (Text.named_ne_bracket right.addressText_ne right.name) behindType
  obtain ⟨name, boundAddress⟩ := Node.address_inj opcode behindImmediate
  exact ⟨rfl, rfl, ⟨id, opcode, dataType, immediate, name⟩, boundAddress⟩

end TreeDump

namespace Graph

def ids (graph : Graph) (handles : List Handle) : List (Except Fault UInt32) :=
  handles.map (fun handle => (graph.lookup handle).map Node.id)

structure AcceptsReferences (graph : Graph) (node : Node) : Prop where
  children : ∀ child ∈ node.children, graph.Accepts child
  members : ∀ member ∈ node.members, graph.Accepts member

theorem ids_eq {graph : Graph} {handles : List Handle}
    (accepted : ∀ handle ∈ handles, graph.Accepts handle) :
    graph.ids handles = ((graph.referents handles).map Node.id).map .ok := by
  have each : ∀ handle node, graph.lookup handle = .ok node →
      (graph.lookup handle).map Node.id = .ok node.id := by
    intro handle node found
    rw [found]
    rfl
  rw [ids, map_referents each accepted, List.map_map]
  rfl

end Graph

/-- Whatever names the nodes have and whatever buffers they are bound to, equal entries of tree
dumps are entries of nodes that agree in all that is shown, at the same depth and marked alike; and
equal entries of sequential dumps are entries of such nodes with children and lanes of the same
numbers. -/
theorem entries_unambiguous :
    (∀ (left right : Node) (leftDepth rightDepth : Nat) (leftRepeated rightRepeated : Bool),
      TreeDump.entry left leftDepth leftRepeated = TreeDump.entry right rightDepth rightRepeated →
        leftDepth = rightDepth ∧ leftRepeated = rightRepeated ∧ left.ShownAlike right ∧
          left.boundAddress = right.boundAddress) ∧
      ∀ (leftGraph rightGraph : Graph) (left right : Node),
        leftGraph.AcceptsReferences left → rightGraph.AcceptsReferences right →
        leftGraph.sequentialEntry left = rightGraph.sequentialEntry right →
          left.ShownAlike right ∧
            leftGraph.ids left.children = rightGraph.ids right.children ∧
            leftGraph.ids left.members = rightGraph.ids right.members ∧
            (left.members ≠ [] → left.groupCount = right.groupCount) := by
  constructor
  · exact fun left right _ _ _ _ same => TreeDump.entry_inj same
  · intro leftGraph rightGraph left right leftAccepts rightAccepts same
    rw [Graph.sequentialEntry_eq leftAccepts.children leftAccepts.members,
      Graph.sequentialEntry_eq rightAccepts.children rightAccepts.members] at same
    obtain ⟨shown, children, members, count⟩ := Node.resolvedEntry_inj same
    rw [Graph.ids_eq leftAccepts.children, Graph.ids_eq rightAccepts.children, children,
      Graph.ids_eq leftAccepts.members, Graph.ids_eq rightAccepts.members, members]
    refine ⟨shown, rfl, rfl, fun someMember => count ?_⟩
    intro none
    have noMember := Graph.isEmpty_referents leftAccepts.members
    rw [none] at noMember
    exact someMember (List.isEmpty_iff.mp noMember.symm)

namespace Session

def payloads : List Step :=
  [.construct 0 (.constant (.float32 ⟨0x7FC00000⟩)) (some "a"),
    .construct 0 (.setName (some "a") "x\" (#0001) *") none,
    .mutate 0 (.setMembers (some "a") [some "a", some "a"]),
    .newGraph {},
    .construct 1 (.constant (.float32 ⟨0x7FC00001⟩)) (some "b"),
    .construct 1 (.setName (some "b") "x\" (#0001) *") none,
    .mutate 1 (.setMembers (some "b") [some "b", some "b"])]

theorem payloads_entries : ∃ first second left right,
    (start.run payloads).graphs = #[first, second] ∧ first.nodes = #[left] ∧
      second.nodes = #[right] ∧ left ≠ right ∧ first.AcceptsReferences left ∧
      second.AcceptsReferences right ∧ left.members ≠ [] ∧
      TreeDump.entry left 1 true = "  0000 imm<float32> [NaN] \"x\" (#0001) *\" *" ∧
      TreeDump.entry right 1 true = "  0000 imm<float32> [NaN] \"x\" (#0001) *\" *" ∧
      first.sequentialEntry left =
        "0000 imm<float32> [NaN] \"x\" (#0001) *\" members=[#0000, #0000] x1" ∧
      second.sequentialEntry right =
        "0000 imm<float32> [NaN] \"x\" (#0001) *\" members=[#0000, #0000] x1" := by
  have twice {member only : Handle} (isMember : member ∈ [only, only]) : member = only := by
    simpa using isMember
  refine ⟨_, _, _, _, rfl, rfl, rfl, by decide +kernel, ⟨nofun, ?_⟩, ⟨nofun, ?_⟩, by decide,
    by decide +kernel, by decide +kernel, by decide +kernel, by decide +kernel⟩
  · intro member isMember
    obtain rfl : member = .ref 0 0 := twice isMember
    exact ⟨_, rfl⟩
  · intro member isMember
    obtain rfl : member = .ref 1 0 := twice isMember
    exact ⟨_, rfl⟩

theorem payloads_shown_alike : ∃ first second left right,
    (start.run payloads).graphs = #[first, second] ∧ first.nodes = #[left] ∧
      second.nodes = #[right] ∧ left ≠ right ∧ left.ShownAlike right ∧
      left.boundAddress = right.boundAddress ∧
      first.ids left.members = second.ids right.members ∧ left.groupCount = right.groupCount := by
  obtain ⟨first, second, left, right, isRun, isFirst, isSecond, different, leftAccepts,
    rightAccepts, hasMembers, leftTree, rightTree, leftEntry, rightEntry⟩ := payloads_entries
  obtain ⟨_, _, shown, address⟩ :=
    entries_unambiguous.1 left right 1 1 true true (leftTree.trans rightTree.symm)
  obtain ⟨_, _, members, count⟩ := entries_unambiguous.2 first second left right leftAccepts
    rightAccepts (leftEntry.trans rightEntry.symm)
  exact ⟨first, second, left, right, isRun, isFirst, isSecond, different, shown, address, members,
    count hasMembers⟩

end Session

end ExprGraph
