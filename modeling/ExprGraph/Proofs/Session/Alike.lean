import ExprGraph.Proofs.Graph.Plan.Bare
import ExprGraph.Proofs.Session.Evolution

/-!
Sessions that are alike: their graphs have the same bare graphs, and names that are not hidden stand
for the same handles.  Main statement: `step_alike`, by which a step that reads no hidden name is
answered alike in such sessions and leaves them alike.
-/

namespace ExprGraph

namespace Construction

def references : Construction ρ → List ρ
  | create _ children => children
  | binary _ left right => [left, right]
  | load operand => [operand]
  | loadIfPointer operand => [operand]
  | select mask whenTrue whenFalse => [mask, whenTrue, whenFalse]
  | compare _ left right => [left, right]
  | pointer address => [address]
  | pointerIndexed address displacement => [address, displacement]
  | floor operand => [operand]
  | cast operand _ => [operand]
  | child parent _ => [parent]
  | setName handle _ => [handle]
  | index _ | constant _ | placeholder | addr _ | empty => []

theorem map_congr {construction : Construction ρ} {first second : ρ → τ}
    (agree : ∀ reference ∈ construction.references, first reference = second reference) :
    construction.map first = construction.map second := by
  cases construction with
  | create opcode children => exact congrArg (create opcode) (List.map_congr_left agree)
  | _ => simp_all [references, map]

theorem annotates_map (construction : Construction ρ) (resolve : ρ → τ) :
    (construction.map resolve).annotates = construction.annotates := by
  cases construction <;> rfl

end Construction

namespace Mutation

def references : Mutation ρ → List ρ
  | setDataType handle _ => [handle]
  | setName handle _ => [handle]
  | setGroupCount handle _ => [handle]
  | addGroupCount handle _ => [handle]
  | setVectorized handle _ => [handle]
  | setMembers group members => group :: members
  | pushMember group member => [group, member]
  | bindAddress handle _ => [handle]
  | resetCounter => []

theorem map_congr {mutation : Mutation ρ} {first second : ρ → τ}
    (agree : ∀ reference ∈ mutation.references, first reference = second reference) :
    mutation.map first = mutation.map second := by
  cases mutation with
  | setMembers group members =>
      obtain ⟨sameGroup, sameMembers⟩ := List.forall_mem_cons.mp agree
      simp only [map, sameGroup, List.map_congr_left sameMembers]
  | _ => simp_all [references, map]

theorem annotates_map (mutation : Mutation ρ) (resolve : ρ → τ) :
    (mutation.map resolve).annotates = mutation.annotates := by
  cases mutation <;> rfl

end Mutation

namespace Query

def references : Query ρ → List ρ
  | node handle => [handle]
  | opcode handle => [handle]
  | dataType handle => [handle]
  | contains handle => [handle]
  | nodeChild handle _ => [handle]
  | memberIndex group handle => [group, handle]
  | address handle => [handle]
  | resolvedAddress handle => [handle]
  | priorTo first second => [first, second]
  | walk root _ => [root]
  | dumpTree root => [root]
  | size | options | entries | dumpSequential => []

theorem map_congr {query : Query ρ} {first second : ρ → τ}
    (agree : ∀ reference ∈ query.references, first reference = second reference) :
    query.map first = query.map second := by
  cases query <;> simp_all [references, map]

end Query

/-- An answer without the numbers and notes, and without what is told from them: texts, and
positions among members. -/
def Answer.bare : Answer → Answer
  | .built made found => .built made (found.map Node.bare)
  | .stored made found root collected => .stored made (found.map Node.bare) root collected
  | .node found => .node found.bare
  | .position _ => .position none
  | .entries listed => .entries (listed.map (fun entry => (entry.1, entry.2.bare)))
  | .text _ => .text ""
  | answer => answer

def Reply.bare (reply : Reply) : Reply where
  answer := reply.answer.map Answer.bare
  events := reply.events.map Event.bare

theorem lookup_answered (graph : Graph) (handle : Handle) {answer : Node → Answer}
    (untouched : ∀ node, (answer node.bare).bare = (answer node).bare) :
    (((graph.bare.lookup handle).map answer).mapError Refusal.ofFault).map Answer.bare =
      (((graph.lookup handle).map answer).mapError Refusal.ofFault).map Answer.bare := by
  rw [Graph.lookup_bare]
  cases graph.lookup handle with
  | error fault => rfl
  | ok node => exact congrArg Except.ok (untouched node)

theorem Query.answer_bare (query : Query Handle) (graph : Graph) :
    (query.answer graph.bare).map Answer.bare = (query.answer graph).map Answer.bare := by
  cases query with
  | node handle => exact lookup_answered graph handle (fun _ => rfl)
  | nodeChild handle index => exact lookup_answered graph handle (fun _ => rfl)
  | memberIndex group handle =>
      simp only [answer, Graph.memberIndex?, Graph.lookup_bare]
      cases graph.lookup group <;> rfl
  | entries =>
      simp only [answer, Except.map, Answer.bare, Graph.entries_bare, List.map_map]
      rfl
  | dumpTree root =>
      have told : ∀ other : Graph, (answer other (.dumpTree root)).map Answer.bare =
          ((other.dumpTree root).map (fun _ => Answer.text "")).mapError .interrupted := by
        intro other
        simp only [answer]
        cases other.dumpTree root <;> rfl
      rw [told, told, Graph.dumpTree_bare]
  | dumpSequential => simp only [answer, Except.map, Answer.bare]
  | _ => simp only [answer, Graph.opcode_bare, Graph.dataType_bare, Graph.contains_bare,
      Graph.address_bare, Graph.resolvedAddress_bare, Graph.priorTo_bare, Graph.size_bare,
      Graph.options_bare, Graph.accept_bare]

def Step.binds : Step → List String
  | .construct _ _ name => name.toList
  | .store _ root _ _ name => root :: name.toList
  | _ => []

def Step.operands : Step → List Operand
  | .construct _ construction _ => construction.references
  | .store _ root pointer value _ => [some root, pointer, value]
  | .mutate _ mutation => mutation.references
  | .replace _ overwritten _ replacement => [overwritten, replacement]
  | .newGraph _ | .cloneGraph _ => []
  | .query _ question => question.references
  | .handle operand => [operand]
  | .compareHandles left right => [left, right]
  | .distinctHandles operands => operands

def Step.annotates : Step → Bool
  | .construct _ construction _ => construction.annotates
  | .mutate _ mutation => mutation.annotates
  | _ => false

namespace Session

/-- Sessions with the same bare graphs, whose names, but for hidden ones, stand for the same
handles. -/
structure Alike (hidden : String → Prop) (first second : Session) : Prop where
  graphs : first.graphs.map Graph.bare = second.graphs.map Graph.bare
  nextId : first.nextId = second.nextId
  names : ∀ name, ¬ hidden name → first.resolve (some name) = second.resolve (some name)

structure Agree (hidden : String → Prop) (first second : Session × Reply) : Prop where
  sessions : Alike hidden first.1 second.1
  replies : first.2.bare = second.2.bare

namespace Alike

variable {hidden : String → Prop} {first second : Session}

theorem refl (session : Session) : Alike hidden session session := ⟨rfl, rfl, fun _ _ => rfl⟩

theorem symm (alike : Alike hidden first second) : Alike hidden second first where
  graphs := alike.graphs.symm
  nextId := alike.nextId.symm
  names := fun name shown => (alike.names name shown).symm

theorem trans {third : Session} (alike : Alike hidden first second)
    (next : Alike hidden second third) : Alike hidden first third where
  graphs := alike.graphs.trans next.graphs
  nextId := alike.nextId.trans next.nextId
  names := fun name shown => (alike.names name shown).trans (next.names name shown)

theorem resolve (alike : Alike hidden first second) {operand : Operand}
    (shown : ∀ name, operand = some name → ¬ hidden name) :
    first.resolve operand = second.resolve operand := by
  cases operand with
  | none => rfl
  | some name => exact alike.names name (shown name rfl)

theorem size (alike : Alike hidden first second) : first.graphs.size = second.graphs.size := by
  have same := congrArg Array.size alike.graphs
  rwa [Array.size_map, Array.size_map] at same

theorem graph_cases (alike : Alike hidden first second) (index : Nat) :
    (first.graphs[index]? = none ∧ second.graphs[index]? = none) ∨
      ∃ graph other, first.graphs[index]? = some graph ∧ second.graphs[index]? = some other ∧
        graph.bare = other.bare := by
  have same := congrArg (fun graphs => graphs[index]?) alike.graphs
  simp only [Array.getElem?_map] at same
  cases found : first.graphs[index]? with
  | none =>
      rw [found] at same
      exact .inl ⟨rfl, Option.map_eq_none_iff.mp same.symm⟩
  | some graph =>
      rw [found] at same
      obtain ⟨other, isOther, sameBare⟩ := Option.map_eq_some_iff.mp same.symm
      exact .inr ⟨graph, other, rfl, isOther, sameBare.symm⟩

theorem put {graph other : Graph} (alike : Alike hidden first second) (index : Nat)
    (same : graph.bare = other.bare) :
    Alike hidden (first.put index graph) (second.put index other) where
  graphs := by simp only [Session.put, Array.map_setIfInBounds, alike.graphs, same]
  nextId := alike.nextId
  names := alike.names

theorem push {graph other : Graph} (alike : Alike hidden first second)
    (same : graph.bare = other.bare) :
    Alike hidden { first with graphs := first.graphs.push graph }
      { second with graphs := second.graphs.push other } where
  graphs := by simp only [Array.map_push, alike.graphs, same]
  nextId := alike.nextId
  names := alike.names

theorem found (alike : Alike hidden first second) (options : Options) :
    Alike hidden (first.step (.newGraph options)).1 (second.step (.newGraph options)).1 where
  graphs := by simp only [step, reply, Array.map_push, alike.graphs, alike.nextId]
  nextId := by simp only [step, reply, alike.nextId]
  names := alike.names

theorem bind (alike : Alike hidden first second) (name : Option String) (handle : Handle) :
    Alike hidden (first.bind name handle) (second.bind name handle) where
  graphs := by rw [graphs_bind, graphs_bind, alike.graphs]
  nextId := by rw [nextId_bind, nextId_bind, alike.nextId]
  names := by
    intro other shown
    cases name with
    | none => exact alike.names other shown
    | some name => rw [resolve_bind, resolve_bind, alike.names other shown]

end Alike

variable {hidden : String → Prop} {first second : Session}

theorem Agree.of_sessions (alike : Alike hidden first second) (reply : Reply) :
    Agree hidden (first, reply) (second, reply) := ⟨alike, rfl⟩

theorem settle_alike (alike : Alike hidden first second) {outcome other : Outcome α}
    (same : outcome.bare = other.bare) {finish finishToo : α → Session × Answer}
    (finished : ∀ value, Alike hidden (finish value).1 (finishToo value).1 ∧
      (finish value).2.bare = (finishToo value).2.bare) :
    Agree hidden (first.settle outcome finish) (second.settle other finishToo) := by
  obtain ⟨result, graph, events⟩ := outcome
  obtain ⟨resultToo, graphToo, eventsToo⟩ := other
  obtain ⟨rfl, sameGraph, sameEvents⟩ := Outcome.mk.inj same
  cases result with
  | error fault => exact ⟨alike, by simp only [settle, Reply.bare, sameEvents]⟩
  | ok value =>
      obtain ⟨sessions, answers⟩ := finished value
      exact ⟨sessions, by simp only [settle, Reply.bare, Except.map, sameEvents, answers]⟩

theorem build_alike (alike : Alike hidden first second) (index : Nat) {request other : Build α}
    (same : request.Alike other) {finish : Session → Graph → α → Session × Answer}
    (finished : ∀ {first second : Session} {graph other : Graph} (value : α),
      Alike hidden first second → graph.bare = other.bare →
        Alike hidden (finish first graph value).1 (finish second other value).1 ∧
          (finish first graph value).2.bare = (finish second other value).2.bare) :
    Agree hidden (first.build index request finish) (second.build index other finish) := by
  rcases alike.graph_cases index with ⟨missing, missingToo⟩ | ⟨graph, copy, found, foundToo, equal⟩
  · rw [build_missing missing, build_missing missingToo]
    exact .of_sessions alike _
  · have ran := same graph copy equal
    have grown := alike.put index (congrArg Outcome.graph ran)
    simp only [build, found, foundToo]
    exact settle_alike grown ran (fun value => finished value grown (congrArg Outcome.graph ran))

theorem view_alike {graph other : Graph} (same : graph.bare = other.bare) (handle : Handle) :
    (view graph handle).map Node.bare = (view other handle).map Node.bare := by
  unfold view
  rcases map_eq_cases (Graph.lookup_alike same handle) with
    ⟨_, found, foundToo⟩ | ⟨_, _, found, foundToo, sameNode⟩
  · rw [found, foundToo]
  · rw [found, foundToo]
    exact congrArg some sameNode

theorem children_view_alike {graph other : Graph} (same : graph.bare = other.bare)
    (handle : Handle) :
    (view graph handle).elim [] Node.children = (view other handle).elim [] Node.children := by
  have untouched : ∀ found : Option Node,
      (found.map Node.bare).elim [] Node.children = found.elim [] Node.children := by
    intro found
    cases found <;> rfl
  rw [← untouched, view_alike same, untouched]

theorem store_step_alike (alike : Alike hidden first second) (index : Nat) {root : String}
    {pointer value : Operand} (name : Option String)
    (sameRoot : first.resolve (some root) = second.resolve (some root))
    (samePointer : first.resolve pointer = second.resolve pointer)
    (sameValue : first.resolve value = second.resolve value) :
    Agree hidden (first.step (.store index root pointer value name))
      (second.step (.store index root pointer value name)) := by
  rcases alike.graph_cases index with ⟨missing, missingToo⟩ | ⟨graph, other, found, foundToo, equal⟩
  · simp only [step, missing, missingToo]
    exact .of_sessions alike _
  · simp only [step, found, foundToo, sameRoot, samePointer, sameValue]
    obtain ⟨roots, outcomes⟩ := store_alike (second.resolve root) (second.resolve pointer)
      (second.resolve value) equal
    have graphs := congrArg Outcome.graph outcomes
    rw [roots]
    have rooted := (alike.put index graphs).bind root
    apply settle_alike (rooted _) outcomes
    intro handle
    refine ⟨(rooted _).bind name handle, ?_⟩
    simp only [Answer.bare, view_alike graphs, children_view_alike graphs]

theorem replace_step_alike (alike : Alike hidden first second) (index source : Nat)
    {target replacement : Operand} (sameTarget : first.resolve target = second.resolve target)
    (sameReplacement : first.resolve replacement = second.resolve replacement) :
    Agree hidden (first.step (.replace index target source replacement))
      (second.step (.replace index target source replacement)) := by
  rcases alike.graph_cases source with
    ⟨missing, missingToo⟩ | ⟨graph, other, found, foundToo, equal⟩
  · simp only [step, missing, missingToo]
    exact .of_sessions alike _
  · simp only [step, found, foundToo, sameTarget, sameReplacement]
    rcases map_eq_cases (Graph.lookup_alike equal (second.resolve replacement)) with
      ⟨fault, refused, refusedToo⟩ | ⟨node, copy, looked, lookedToo, sameNode⟩
    · rw [refused, refusedToo]
      exact .of_sessions alike _
    · rw [looked, lookedToo]
      apply build_alike alike index (Build.overwrite_alike _ sameNode)
      intro after afterToo graph other value grown _
      exact ⟨grown, rfl⟩

theorem clone_step_alike (alike : Alike hidden first second) (source : Nat) :
    Agree hidden (first.step (.cloneGraph source)) (second.step (.cloneGraph source)) := by
  rcases alike.graph_cases source with
    ⟨missing, missingToo⟩ | ⟨graph, other, found, foundToo, equal⟩
  · simp only [step, missing, missingToo]
    exact .of_sessions alike _
  · simp only [step, found, foundToo, alike.size]
    exact .of_sessions (alike.push equal) _

theorem query_step_alike (alike : Alike hidden first second) (index : Nat)
    {question : Query Operand} (same : question.map first.resolve = question.map second.resolve) :
    Agree hidden (first.step (.query index question)) (second.step (.query index question)) := by
  rcases alike.graph_cases index with ⟨missing, missingToo⟩ | ⟨graph, other, found, foundToo, equal⟩
  · simp only [step, missing, missingToo]
    exact .of_sessions alike _
  · simp only [step, found, foundToo, same]
    have answered : ((question.map second.resolve).answer graph).map Answer.bare =
        ((question.map second.resolve).answer other).map Answer.bare := by
      rw [← Query.answer_bare, equal, Query.answer_bare]
    exact ⟨alike, by simp only [Reply.bare, answered]⟩

theorem step_alike (alike : Alike hidden first second) {step : Step}
    (builds : step.annotates = false)
    (shown : ∀ name, some name ∈ step.operands → ¬ hidden name) :
    Agree hidden (first.step step) (second.step step) := by
  have agree : ∀ operand ∈ step.operands, first.resolve operand = second.resolve operand := by
    intro operand member
    apply alike.resolve
    rintro name rfl
    exact shown name member
  cases step with
  | construct index construction name =>
      have same : construction.map first.resolve = construction.map second.resolve :=
        Construction.map_congr agree
      simp only [step, same]
      apply build_alike alike index (Construction.build_alike _)
      intro after afterToo graph other handle grown equal
      exact ⟨grown.bind name handle, by simp only [Answer.bare, view_alike equal]⟩
  | store index root pointer value name =>
      exact store_step_alike alike index name (agree _ (by simp [Step.operands]))
        (agree _ (by simp [Step.operands])) (agree _ (by simp [Step.operands]))
  | mutate index mutation =>
      have same : mutation.map first.resolve = mutation.map second.resolve :=
        Mutation.map_congr agree
      simp only [step, same]
      apply build_alike alike index
      · exact Mutation.build_alike ((mutation.annotates_map _).trans builds)
      · intro after afterToo graph other handle grown equal
        exact ⟨grown, rfl⟩
  | replace index target source replacement =>
      exact replace_step_alike alike index source (agree _ (by simp [Step.operands]))
        (agree _ (by simp [Step.operands]))
  | newGraph options =>
      refine ⟨alike.found options, ?_⟩
      simp only [step, reply, alike.size]
  | cloneGraph source => exact clone_step_alike alike source
  | query index question => exact query_step_alike alike index (Query.map_congr agree)
  | handle operand =>
      rw [step, step, agree operand List.mem_cons_self]
      exact .of_sessions alike _
  | compareHandles left right =>
      rw [step, step, agree left (by simp [Step.operands]), agree right (by simp [Step.operands])]
      exact .of_sessions alike _
  | distinctHandles operands =>
      have same : operands.map first.resolve = operands.map second.resolve :=
        List.map_congr_left agree
      rw [step, step, same]
      exact .of_sessions alike _

end Session

end ExprGraph
