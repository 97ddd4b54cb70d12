import ExprGraph.Proofs.Graph.Plan.Quiet
import ExprGraph.Proofs.Session.Overwriting
import ExprGraph.Proofs.Text.Scalars

/-!
The lines of the sequential dump.  A name is shown as it is, so one with a line break in it breaks
the line of its node; nothing else does.  So there is one line for each node, its entry, as long as
no node has such a name, and names come from nowhere but the requests that set them.  Main
statement: `dumps_lined`.
-/

namespace ExprGraph

namespace Text

def breaks (text : String) : Nat := text.toList.count '\n'

def pieces (text : String) : List String := (text.toList.splitOn '\n').map String.ofList

theorem breaks_append (first second : String) :
    breaks (first ++ second) = breaks first + breaks second := by
  rw [breaks, String.toList_append, List.count_append]
  rfl

theorem breaks_of_isWord {text : String} (word : IsWord text.toList) : breaks text = 0 :=
  List.count_eq_zero.mpr (word.not_mem (by decide))

theorem length_splitOn (text : List Char) :
    (text.splitOn '\n').length = text.count '\n' + 1 := by
  induction text with
  | nil => rfl
  | cons character rest ih =>
      rw [List.splitOn_cons_eq_if_modifyHead]
      by_cases isBreak : character = '\n'
      · simp [isBreak, ih]
      · simp [isBreak, ih]

theorem length_pieces (text : String) : (pieces text).length = breaks text + 1 := by
  rw [pieces, List.length_map, length_splitOn, breaks]

theorem pieces_unbroken {text : String} (unbroken : breaks text = 0) : pieces text = [text] := by
  rw [pieces, List.splitOn_eq_singleton (List.count_eq_zero.mp unbroken)]
  simp

theorem pieces_append_break (before after : String) :
    pieces (before ++ "\n" ++ after) = pieces before ++ pieces after := by
  have shown : (before ++ "\n" ++ after).toList = before.toList ++ '\n' :: after.toList := by
    simp
  rw [pieces, shown, List.splitOn_append_cons_self, List.map_append]
  rfl

theorem pieces_unlines (lines : List String) :
    pieces (unlines lines) = lines.flatMap pieces ++ [""] := by
  induction lines with
  | nil => rfl
  | cons first rest ih =>
      have shown : unlines (first :: rest) = first ++ "\n" ++ unlines rest := by
        simp [unlines]
      rw [shown, pieces_append_break, ih, List.flatMap_cons, List.append_assoc]

theorem length_flatMap_pieces (lines : List String) :
    (lines.flatMap pieces).length = lines.length + (lines.map breaks).sum := by
  induction lines with
  | nil => rfl
  | cons first rest ih =>
      rw [List.flatMap_cons, List.length_append, length_pieces, ih, List.length_cons, List.map_cons,
        List.sum_cons]
      omega

theorem flatMap_pieces_eq_iff (lines : List String) :
    lines.flatMap pieces = lines ↔ ∀ line ∈ lines, breaks line = 0 := by
  constructor
  · intro same
    have lengths := congrArg List.length same
    rw [length_flatMap_pieces] at lengths
    have none : (lines.map breaks).sum = 0 := by omega
    intro line member
    exact List.sum_eq_zero_iff_forall_eq_nat.mp none _ (List.mem_map_of_mem member)
  · intro unbroken
    induction lines with
    | nil => rfl
    | cons first rest ih =>
        obtain ⟨firstUnbroken, restUnbroken⟩ := List.forall_mem_cons.mp unbroken
        rw [List.flatMap_cons, pieces_unbroken firstUnbroken, ih restUnbroken]
        rfl

end Text

theorem Graph.breaks_references (graph : Graph) (handles : List Handle) :
    Text.breaks (graph.references handles) = 0 :=
  List.count_eq_zero.mpr (graph.not_mem_references handles (by decide) (by decide))

theorem Node.breaks_text (node : Node) : Text.breaks node.text = Text.breaks node.name := by
  have immediate : Text.breaks
      (node.immediate.elim "" (fun immediate => " [" ++ immediate.text ++ "]")) = 0 := by
    cases node.immediate with
    | none => rfl
    | some immediate =>
        simp only [Option.elim_some, Text.breaks_append,
          Text.breaks_of_isWord immediate.isWord_text]
        rfl
  have name : Text.breaks (if node.name = "" then "" else " \"" ++ node.name ++ "\"") =
      Text.breaks node.name := by
    split
    · rename_i unnamed
      rw [unnamed]
    · simp only [Text.breaks_append]
      exact Nat.zero_add _
  simp only [text, Text.breaks_append, Text.breaks_of_isWord node.opcode.isWord_name,
    Text.breaks_of_isWord node.dataType.isWord_name, immediate, name]
  exact Nat.zero_add _

namespace Graph

theorem breaks_sequentialEntry (graph : Graph) (node : Node) :
    Text.breaks (graph.sequentialEntry node) = Text.breaks node.name := by
  have children : Text.breaks (if node.children.isEmpty then ""
      else " (" ++ graph.references node.children ++ ")") = 0 := by
    split
    · rfl
    · simp only [Text.breaks_append, breaks_references]
      rfl
  have members : Text.breaks (if node.members.isEmpty then ""
      else " members=[" ++ graph.references node.members ++ "] x" ++ toString node.groupCount) =
        0 := by
    split
    · rfl
    · simp only [Text.breaks_append, breaks_references,
        Text.breaks_of_isWord (Text.isWord_natural node.groupCount)]
      rfl
  simp only [sequentialEntry, Text.breaks_append, Text.breaks_of_isWord node.isWord_label,
    node.breaks_text, children, members]
  exact Nat.zero_add _

def sequentialHeader (graph : Graph) : List String :=
  ["=== Graph Sequential Dump ===", "Total nodes: " ++ toString graph.size, ""]

theorem sequentialHeader_unbroken (graph : Graph) :
    ∀ line ∈ graph.sequentialHeader, Text.breaks line = 0 := by
  have total : Text.breaks ("Total nodes: " ++ toString graph.size) = 0 := by
    rw [Text.breaks_append, Text.breaks_of_isWord (Text.isWord_natural graph.size)]
    rfl
  intro line member
  simp only [sequentialHeader, List.mem_cons, List.not_mem_nil, or_false] at member
  rcases member with rfl | rfl | rfl
  · rfl
  · exact total
  · rfl

structure DumpsLines (graph : Graph) : Prop where
  pieces : Text.pieces graph.dumpSequential = graph.sequentialHeader ++
    graph.nodes.toList.flatMap (fun node => Text.pieces (graph.sequentialEntry node)) ++ [""]
  entryPieces : ∀ node ∈ graph.nodes,
    (Text.pieces (graph.sequentialEntry node)).length = node.name.toList.count '\n' + 1
  oneEach : Text.pieces graph.dumpSequential = graph.sequentialHeader ++
      graph.nodes.toList.map graph.sequentialEntry ++ [""] ↔
    ∀ node ∈ graph.nodes, '\n' ∉ node.name.toList

theorem dumpsLines (graph : Graph) : graph.DumpsLines := by
  have header := (Text.flatMap_pieces_eq_iff _).mpr graph.sequentialHeader_unbroken
  have pieces : Text.pieces graph.dumpSequential = graph.sequentialHeader ++
      (graph.nodes.toList.map graph.sequentialEntry).flatMap Text.pieces ++ [""] := by
    rw [dumpSequential, Text.pieces_unlines, List.flatMap_append]
    rw [← sequentialHeader, header]
  constructor
  case pieces => rw [pieces, List.flatMap_map]
  case entryPieces =>
    intro node _
    rw [Text.length_pieces, breaks_sequentialEntry, Text.breaks]
  case oneEach =>
    rw [pieces, List.append_left_inj, List.append_right_inj, Text.flatMap_pieces_eq_iff,
      List.forall_mem_map]
    simp only [breaks_sequentialEntry, Array.mem_toList_iff]
    simp only [Text.breaks, List.count_eq_zero]

end Graph

def Step.givenName? : Step → Option String
  | .construct _ (.setName _ name) _ => some name
  | .mutate _ (.setName _ name) => some name
  | _ => none

def Change.NamedBy (step : Step) : Change → Prop
  | .edit _ (.rename name) => step.givenName? = some name
  | _ => True

theorem Change.Plain.namedBy {change : Change} (plain : change.Plain) (step : Step) :
    change.NamedBy step := by
  cases change with
  | edit handle edit => exact plain.elim
  | _ => exact trivial

section

variable {allowed : String → Prop} {step : Step} {graph : Graph}

theorem Graph.allowed_apply (unnamed : allowed "")
    (given : ∀ name ∈ step.givenName?, allowed name)
    (holds : ∀ node ∈ graph.nodes, allowed node.name) {change : Change}
    (named : change.NamedBy step) : ∀ node ∈ (graph.apply change).nodes, allowed node.name := by
  intro node member
  obtain ⟨handle, found⟩ := (Graph.mem_nodes_iff _ _).mp member
  rcases Graph.lookup_apply_cases found with old | isNew | isEdited
  · exact holds node ((Graph.mem_nodes_iff _ _).mpr ⟨handle, old⟩)
  · obtain ⟨cause, draft, rfl, _, rfl⟩ := isNew
    exact unnamed
  · obtain ⟨edit, old, rfl, before, rfl⟩ := isEdited
    cases edit with
    | rename name => exact given name named
    | _ => exact holds old ((Graph.mem_nodes_iff _ _).mpr ⟨handle, before⟩)

theorem Graph.allowed_applyAll (unnamed : allowed "")
    (given : ∀ name ∈ step.givenName?, allowed name) (changes : List Change)
    (holds : ∀ node ∈ graph.nodes, allowed node.name)
    (named : ∀ change ∈ changes, change.NamedBy step) :
    ∀ node ∈ (graph.applyAll changes).nodes, allowed node.name := by
  induction changes generalizing graph with
  | nil => exact holds
  | cons change rest ih =>
      obtain ⟨first, later⟩ := List.forall_mem_cons.mp named
      exact ih (allowed_apply unnamed given holds first) later

end

namespace Session

theorem changes_named (session : Session) (index : Nat) (graph : Graph) (step : Step) :
    ∀ change ∈ session.changes index graph step, change.NamedBy step := by
  apply changes_cases (P := fun changes => ∀ change ∈ changes, change.NamedBy step)
  · intro change member
    cases member
  · rintro construction name plan rfl planned
    rcases Construction.plan_cases planned with
      ⟨handle, given, isName, named⟩ | ⟨_, _, created⟩ | plain
    · cases construction with
      | setName operand text =>
          cases isName
          simp [named, Change.NamedBy, Step.givenName?]
      | _ => cases isName
    · simp [created, Change.NamedBy]
    · exact fun change member => (plain change member).namedBy _
  · rintro root pointer value name plan rfl planned
    obtain ⟨_, _, returned⟩ := ok_of_bind planned
    obtain rfl := Except.ok.inj returned
    cases session.resolve root <;> simp [Graph.planCollector, Handle.isEmpty, Change.NamedBy]
  · rintro mutation plan rfl planned
    rcases Mutation.plan_cases planned with
      ⟨_, restarted⟩ | ⟨handle, node, edit, _, isEdit, edited⟩
    · simp [restarted, Change.NamedBy]
    · rw [edited]
      cases mutation <;> cases isEdit <;> simp [Change.NamedBy, Step.givenName?]

theorem nodes_named (allowed : String → Prop) (unnamed : allowed "") (steps : List Step)
    (given : ∀ step ∈ steps, ∀ name ∈ step.givenName?, allowed name) :
    ∀ graph ∈ (start.run steps).graphs, ∀ node ∈ graph.nodes, allowed node.name := by
  -- By induction on the steps, for any session, as the rest of a run starts where one step leads.
  have fromAny : ∀ session : Session,
      (∀ graph ∈ session.graphs, ∀ node ∈ graph.nodes, allowed node.name) →
      ∀ graph ∈ (session.run steps).graphs, ∀ node ∈ graph.nodes, allowed node.name := by
    induction steps with
    | nil => exact fun session holds => holds
    | cons step rest ih =>
        obtain ⟨first, later⟩ := List.forall_mem_cons.mp given
        intro session holds
        apply ih later
        apply nodes_step (P := fun node => allowed node.name) holds
        intro index graph member
        exact Graph.allowed_applyAll unnamed first _ (holds graph member)
          (session.changes_named index graph step)
  apply fromAny
  apply graphs_start (P := fun graph => ∀ node ∈ graph.nodes, allowed node.name)
  intro node member
  simp at member

/-- In every session the sequential dump of a graph has a header and one line for each node, its
entry, exactly when no node has a name with a line break in it; so it does in every session that
gives no such name. -/
theorem dumps_lined (steps : List Step) : ∀ graph ∈ (start.run steps).graphs, graph.DumpsLines ∧
    ((∀ step ∈ steps, ∀ name ∈ step.givenName?, '\n' ∉ name.toList) →
      Text.pieces graph.dumpSequential = graph.sequentialHeader ++
        graph.nodes.toList.map graph.sequentialEntry ++ [""]) := by
  intro graph member
  refine ⟨graph.dumpsLines, fun given => graph.dumpsLines.oneEach.mpr ?_⟩
  exact nodes_named (fun name => '\n' ∉ name.toList) (by decide) steps given graph member

def misleading : List Step :=
  [.construct 0 (.addr ⟨"a\nb", .float32, 0⟩) (some "a"),
    .construct 0 (.pointer (some "a")) (some "p"),
    .construct 0 (.setName (some "p") "x\" (#0001)") none,
    .mutate 0 (.setMembers (some "a") [some "p", some "a"])]

theorem misleading_lined :
    (∀ step ∈ misleading, ∀ name ∈ step.givenName?, '\n' ∉ name.toList) ∧
      ∃ graph, (start.run misleading).graphs[0]? = some graph ∧ graph.DumpsLines ∧
        Text.pieces graph.dumpSequential = graph.sequentialHeader ++
          graph.nodes.toList.map graph.sequentialEntry ++ [""] ∧
        graph.sequentialHeader ++ graph.nodes.toList.map graph.sequentialEntry =
          ["=== Graph Sequential Dump ===", "Total nodes: 2", "",
            "0000 addr<float32> members=[#0001, #0000] x1",
            "0001 pointer<float32> \"x\" (#0001)\" (#0000)"] := by
  have given : ∀ step ∈ misleading, ∀ name ∈ step.givenName?, '\n' ∉ name.toList := by decide
  obtain ⟨graph, found⟩ : ∃ graph, (start.run misleading).graphs[0]? = some graph := ⟨_, rfl⟩
  obtain ⟨lines, oneEach⟩ := dumps_lined misleading graph (Array.mem_of_getElem? found)
  refine ⟨given, graph, found, lines, oneEach given, ?_⟩
  obtain rfl := Option.some.inj found
  decide +kernel

def breaking : List Step :=
  [.construct 0 (.index 7) (some "a"), .mutate 0 (.setName (some "a") "x\ny")]

theorem breaking_dumped : ∃ graph, (start.run breaking).graphs[0]? = some graph ∧
    graph.size = 1 ∧ Text.pieces graph.dumpSequential = graph.sequentialHeader ++
      ["0000 index<int32> [7] \"x", "y\"", ""] :=
  ⟨_, rfl, rfl, by decide +kernel⟩

theorem not_always_lined : ¬ ∀ steps : List Step, (∀ step ∈ steps, step.isReplace = false) →
    ∀ graph ∈ (start.run steps).graphs,
      Text.pieces graph.dumpSequential = graph.sequentialHeader ++
        graph.nodes.toList.map graph.sequentialEntry ++ [""] := by
  intro always
  obtain ⟨graph, found, oneNode, broken⟩ := breaking_dumped
  have lined := always breaking (by decide) graph (Array.mem_of_getElem? found)
  rw [broken, List.append_assoc] at lined
  have lengths := congrArg List.length (List.append_cancel_left lined)
  have nodes : graph.nodes.toList.length = 1 := oneNode
  rw [List.length_append, List.length_map, nodes] at lengths
  exact absurd lengths (by decide)

end Session

end ExprGraph
