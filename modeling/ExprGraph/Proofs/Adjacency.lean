import ExprGraph.Graph.Query
import ExprGraph.Proofs.WellFormed

/-!
Neighbouring pointers.  Whether a pointer is prior to another is decided by the addresses both start
at; an index that displaces a pointer is not looked at.  So the answer is right about the elements
the pointers lead to as long as both are displaced alike, and may be wrong when they are not.
-/

namespace ExprGraph

namespace Address

theorem toInt_next {offset : Int64} (notLast : offset ≠ Int64.maxValue) :
    (offset + 1).toInt = offset.toInt + 1 := by
  have below := offset.toInt_lt
  have above := offset.le_toInt
  have different : offset.toInt ≠ Int64.maxValue.toInt :=
    fun same => notLast (Int64.toInt_inj.mp same)
  rw [Int64.toInt_maxValue] at different
  rw [Int64.toInt_add, Int64.toInt_one, Int.bmod_eq_of_le]
  · omega
  · omega

theorem nextOffset?_eq_some_iff (first second : Int64) :
    nextOffset? first = some second ↔ second.toInt = first.toInt + 1 := by
  unfold nextOffset?
  by_cases last : first = Int64.maxValue
  · subst last
    have below := second.toInt_lt
    simp only [if_true, reduceCtorEq, Int64.toInt_maxValue, false_iff]
    omega
  · rw [if_neg last, Option.some.injEq, ← Int64.toInt_inj, toInt_next last, eq_comm]

theorem isPriorTo_iff (first second : Address) :
    first.isPriorTo second = true ↔
      first.sameStorage second = true ∧ second.offset.toInt = first.offset.toInt + 1 := by
  rw [isPriorTo, Bool.and_eq_true, beq_iff_eq, nextOffset?_eq_some_iff]

end Address

structure Place where
  base : Address
  displacement : Int

namespace Place

def position (place : Place) : Int := place.base.offset.toInt + place.displacement

def Precedes (first second : Place) : Prop :=
  first.base.sameStorage second.base = true ∧ second.position = first.position + 1

instance (first second : Place) : Decidable (first.Precedes second) :=
  inferInstanceAs (Decidable (_ ∧ _))

def start (place : Place) : Place := { place with displacement := 0 }

theorem start_precedes_iff (first second : Place) :
    first.start.Precedes second.start ↔ first.base.isPriorTo second.base = true := by
  simp only [Address.isPriorTo_iff, Precedes, position, start, Int.add_zero]

theorem precedes_iff_start {first second : Place}
    (same : first.displacement = second.displacement) :
    first.Precedes second ↔ first.start.Precedes second.start := by
  simp only [Precedes, position, start, same]
  apply and_congr_right
  omega

theorem displacement_eq_of_precedes {first second : Place} (precedes : first.Precedes second)
    (starts : first.start.Precedes second.start) : first.displacement = second.displacement := by
  have further := precedes.2
  have next := starts.2
  simp only [position, start] at further next
  omega

end Place

namespace Graph

/-- What the operands after the address displace a pointer by: nothing, or a literal index. -/
inductive Displaces (graph : Graph) : List Handle → Int → Prop
  | nothing : Displaces graph [] 0
  | index {index : Handle} {node : Node} {value : Int64} : graph.lookup index = .ok node →
      node.opcode = .index → node.immediate = some (.int value) →
      Displaces graph [index] value.toInt

inductive PointsTo (graph : Graph) (pointer : Handle) (place : Place) : Prop
  | intro {node : Node} {addr : Handle} {rest : List Handle} :
      graph.lookup pointer = .ok node → node.opcode = .pointer → node.children = addr :: rest →
      graph.address addr = .ok place.base → graph.Displaces rest place.displacement →
      PointsTo graph pointer place

theorem Displaces.unique {graph : Graph} {operands : List Handle} {first second : Int}
    (one : graph.Displaces operands first) (other : graph.Displaces operands second) :
    first = second := by
  cases one with
  | nothing =>
      cases other with
      | nothing => rfl
  | index found _ isValue =>
      cases other with
      | index foundAgain _ isOther =>
          obtain rfl := Except.ok.inj (found.symm.trans foundAgain)
          rw [isValue] at isOther
          cases isOther
          rfl

theorem PointsTo.unique {graph : Graph} {pointer : Handle} {first second : Place}
    (one : graph.PointsTo pointer first) (other : graph.PointsTo pointer second) :
    first = second := by
  obtain ⟨found, _, split, bound, displaces⟩ := one
  obtain ⟨foundAgain, _, splitAgain, boundAgain, displacesAgain⟩ := other
  obtain rfl := Except.ok.inj (found.symm.trans foundAgain)
  obtain ⟨rfl, rfl⟩ := List.cons.inj (split.symm.trans splitAgain)
  have sameBase := Except.ok.inj (bound.symm.trans boundAgain)
  have sameDisplacement := displaces.unique displacesAgain
  cases first
  cases second
  cases sameBase
  cases sameDisplacement
  rfl

theorem WellFormed.pointsTo {graph : Graph} (wellFormed : graph.WellFormed) {pointer addr : Handle}
    {node : Node} {rest : List Handle} {base : Address} (found : graph.lookup pointer = .ok node)
    (isPointer : node.opcode = .pointer) (split : node.children = addr :: rest)
    (bound : graph.address addr = .ok base)
    (literal : ∀ index ∈ rest, graph.opcode index = .ok .index) :
    ∃ displacement, graph.PointsTo pointer ⟨base, displacement⟩ := by
  have arity := (wellFormed node ((mem_nodes_iff _ _).mpr ⟨pointer, found⟩)).arity
  rw [isPointer, split] at arity
  cases rest with
  | nil => exact ⟨0, .intro found isPointer split bound .nothing⟩
  | cons index more =>
      cases more with
      | cons _ _ => simp [Opcode.arity, Arity.accepts] at arity
      | nil =>
          obtain ⟨operand, isOperand, isIndex⟩ :=
            (opcode_eq_ok_iff _ _ _).mp (literal index List.mem_cons_self)
          have shaped := wellFormed operand ((mem_nodes_iff _ _).mpr ⟨index, isOperand⟩)
          obtain ⟨value, isValue⟩ := shaped.indexKind isIndex
          exact ⟨value.toInt,
            .intro found isPointer split bound (.index isOperand isIndex isValue)⟩

theorem PointsTo.pointerAddress {graph : Graph} {pointer : Handle} {place : Place}
    (leads : graph.PointsTo pointer place) : graph.pointerAddress pointer = .ok place.base := by
  obtain ⟨found, isPointer, split, bound, _⟩ := leads
  have expected : graph.expectOpcode pointer .pointer = .ok () :=
    (expectOpcode_eq_ok_iff _ _ _).mpr ((opcode_eq_ok_iff _ _ _).mpr ⟨_, found, isPointer⟩)
  simp only [Graph.pointerAddress, expected, found, firstOperand, split, bind, Except.bind, bound]

theorem priorTo_eq {graph : Graph} {first second : Handle} {before after : Place}
    (leadsFirst : graph.PointsTo first before) (leadsSecond : graph.PointsTo second after) :
    graph.priorTo first second = .ok (decide (before.start.Precedes after.start)) := by
  have answer : before.base.isPriorTo after.base = decide (before.start.Precedes after.start) := by
    rw [Bool.eq_iff_iff, decide_eq_true_iff, Place.start_precedes_iff]
  simp only [priorTo, leadsFirst.pointerAddress, leadsSecond.pointerAddress, bind, Except.bind]
  rw [answer]
  rfl

theorem priorTo_right_iff {graph : Graph} {first second : Handle} {before after : Place}
    (leadsFirst : graph.PointsTo first before) (leadsSecond : graph.PointsTo second after) :
    graph.priorTo first second = .ok (decide (before.Precedes after)) ↔
      before.displacement = after.displacement ∨
        ¬ before.start.Precedes after.start ∧ ¬ before.Precedes after := by
  rw [priorTo_eq leadsFirst leadsSecond, Except.ok.injEq, decide_eq_decide]
  constructor
  · intro agree
    by_cases starts : before.start.Precedes after.start
    · exact .inl (Place.displacement_eq_of_precedes (agree.mp starts) starts)
    · exact .inr ⟨starts, fun precedes => starts (agree.mpr precedes)⟩
  · rintro (same | ⟨notStarts, notPrecedes⟩)
    · exact (Place.precedes_iff_start same).symm
    · exact iff_of_false notStarts notPrecedes

structure ComparesStarts (graph : Graph) : Prop where
  leads : ∀ pointer node addr rest base, graph.lookup pointer = .ok node →
    node.opcode = .pointer → node.children = addr :: rest → graph.address addr = .ok base →
      (∀ index ∈ rest, graph.opcode index = .ok .index) →
        ∃ displacement, graph.PointsTo pointer ⟨base, displacement⟩
  unique : ∀ pointer place other, graph.PointsTo pointer place → graph.PointsTo pointer other →
    place = other
  answer : ∀ first second before after, graph.PointsTo first before →
    graph.PointsTo second after →
      graph.priorTo first second = .ok (decide (before.start.Precedes after.start))
  right_iff : ∀ first second before after, graph.PointsTo first before →
    graph.PointsTo second after →
      (graph.priorTo first second = .ok (decide (before.Precedes after)) ↔
        before.displacement = after.displacement ∨
          ¬ before.start.Precedes after.start ∧ ¬ before.Precedes after)

theorem WellFormed.comparesStarts {graph : Graph} (wellFormed : graph.WellFormed) :
    graph.ComparesStarts where
  leads := fun _ _ _ _ _ found isPointer split bound literal =>
    wellFormed.pointsTo found isPointer split bound literal
  unique := fun _ _ _ one other => one.unique other
  answer := fun _ _ _ _ leadsFirst leadsSecond => priorTo_eq leadsFirst leadsSecond
  right_iff := fun _ _ _ _ leadsFirst leadsSecond => priorTo_right_iff leadsFirst leadsSecond

end Graph

namespace Session

/-- In a session without replaced nodes `priorTo` compares the addresses two pointers start at.  Of
the elements they lead to, displaced by literals or not at all, that is the right answer exactly
when both are displaced alike, or when neither the starts nor the elements are neighbours. -/
theorem graphs_compareStarts (steps : List Step)
    (noReplace : ∀ step ∈ steps, step.isReplace = false) :
    ∀ graph ∈ (start.run steps).graphs, graph.ComparesStarts := by
  intro graph member
  have wellFormed := graphs_of_changes (P := Graph.WellFormed) (by simp [Graph.WellFormed])
    (fun _ _ held valid => held.apply valid) steps noReplace graph member
  exact wellFormed.comparesStarts

def displacing : List Step :=
  [.construct 0 (.addr ⟨"x", .float32, 0⟩) (some "a"),
    .construct 0 (.index 5) (some "i"),
    .construct 0 (.pointerIndexed (some "a") (some "i")) (some "p"),
    .construct 0 (.addr ⟨"x", .float32, 1⟩) (some "b"),
    .construct 0 (.pointer (some "b")) (some "q")]

theorem displacing_pointsTo :
    ∃ graph ∈ (start.run displacing).graphs,
      graph.PointsTo (.ref 0 2) ⟨⟨"x", .float32, 0⟩, 5⟩ ∧
        graph.PointsTo (.ref 0 4) ⟨⟨"x", .float32, 1⟩, 0⟩ ∧
          graph.priorTo (.ref 0 2) (.ref 0 4) = .ok true := by
  have built : ∃ graph, (start.run displacing).graphs[0]? = some graph ∧
      graph.PointsTo (.ref 0 2) ⟨⟨"x", .float32, 0⟩, 5⟩ ∧
        graph.PointsTo (.ref 0 4) ⟨⟨"x", .float32, 1⟩, 0⟩ ∧
          graph.priorTo (.ref 0 2) (.ref 0 4) = .ok true :=
    ⟨_, rfl, .intro rfl rfl rfl rfl (@Graph.Displaces.index _ _ _ 5 rfl rfl rfl),
      .intro rfl rfl rfl rfl .nothing, rfl⟩
  obtain ⟨graph, found, leads⟩ := built
  exact ⟨graph, Array.mem_of_getElem? found, leads⟩

theorem not_always_adjacent :
    ¬ ∀ steps : List Step, (∀ step ∈ steps, step.isReplace = false) →
      ∀ graph ∈ (start.run steps).graphs, ∀ first second before after,
        graph.PointsTo first before → graph.PointsTo second after →
          graph.priorTo first second = .ok (decide (before.Precedes after)) := by
  intro always
  obtain ⟨graph, member, leadsFirst, leadsSecond, answered⟩ := displacing_pointsTo
  have adjacent := always displacing (by decide) graph member _ _ _ _ leadsFirst leadsSecond
  rw [answered] at adjacent
  exact absurd (Except.ok.inj adjacent) (by decide)

theorem displacing_compareStarts :
    (∀ step ∈ displacing, step.isReplace = false) ∧
      ∃ graph ∈ (start.run displacing).graphs, graph.ComparesStarts ∧
        graph.PointsTo (.ref 0 2) ⟨⟨"x", .float32, 0⟩, 5⟩ ∧
          graph.PointsTo (.ref 0 4) ⟨⟨"x", .float32, 1⟩, 0⟩ := by
  obtain ⟨graph, member, leadsFirst, leadsSecond, _⟩ := displacing_pointsTo
  exact ⟨by decide, graph, member, graphs_compareStarts displacing (by decide) graph member,
    leadsFirst, leadsSecond⟩

end Session

end ExprGraph
