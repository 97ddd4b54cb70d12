import ExprGraph.Proofs.Graph.Plan.Run
import ExprGraph.Session.Basic

/-!
Builders against the generic constructor.  A builder whose node carries no immediate is a request to
the generic constructor, with a load put in before it where an operand is read, and a type given
afterwards where the builder gives one; a store is two or three such requests, when all of them can
be met.  Main statement: `builders_agree`.
-/

namespace ExprGraph

structure Outcome.SameEffect (first second : Outcome α) : Prop where
  result : first.result = second.result
  graph : first.graph = second.graph

namespace Build

def createLoad (operand : Handle) : Build Handle := do
  let opcode ← inspect (fun graph => graph.opcode operand)
  if opcode = .pointer then create .load [operand] else return operand

def setTyped (handle : Handle) (dataType : DataType) : Build Handle := do
  setDataType handle dataType
  return handle

def createUnary (opcode : Opcode) (operand : Handle) (type : Graph → Except Fault DataType) :
    Build Handle := do
  let loaded ← loadIfPointer operand
  let handle ← create opcode [loaded]
  let dataType ← inspect type
  setTyped handle dataType

def createInto (pointer value collector : Handle) : Build (Handle × Handle) := do
  let store ← create .store [pointer, value]
  update collector (fun node => { node with children := node.children ++ [store] })
  return (collector, store)

def createStore (root pointer value : Handle) : Build (Handle × Handle) := do
  let collector ← if root.isEmpty then create .combine [] else pure root
  createInto pointer value collector

end Build

/-- What a builder comes to by the generic constructor. -/
def Construction.byCreation? : Construction Handle → Option (Build Handle)
  | load operand => some (Build.create .load [operand])
  | loadIfPointer operand => some (Build.createLoad operand)
  | select mask whenTrue whenFalse => some (Build.create .select [mask, whenTrue, whenFalse])
  | placeholder => some (Build.create .addr [])
  | pointer address => some (Build.create .pointer [address])
  | pointerIndexed address displacement => some (Build.create .pointer [address, displacement])
  | floor operand => some (Build.createUnary .floor operand (fun graph => graph.dataType operand))
  | cast operand dataType => some (Build.createUnary .cast operand (fun _ => .ok dataType))
  | _ => none

structure StoresByCreation (graph : Graph) (root pointer value : Handle) (stored : Rooted Handle) :
    Prop where
  refused : ∀ fault, ((Build.create .store [pointer, value]).run graph).result = .error fault →
    stored = ⟨root, ⟨.error fault, graph, []⟩⟩
  unknownRoot : ∀ store, ((Build.create .store [pointer, value]).run graph).result = .ok store →
    root ≠ .empty → ¬ graph.Accepts root → stored = ⟨root, ⟨.error root.fault, graph, []⟩⟩
  otherRoot : ∀ store found,
    ((Build.create .store [pointer, value]).run graph).result = .ok store →
      graph.opcode root = .ok found → found ≠ .combine →
        stored = ⟨root, ⟨.error (.opcodeMismatch [.combine] found), graph, []⟩⟩
  granted : ∀ store, ((Build.create .store [pointer, value]).run graph).result = .ok store →
    root = .empty ∨ graph.opcode root = .ok .combine →
      ∃ written, stored.outcome.result = .ok written ∧
        ((Build.createStore root pointer value).run graph).result = .ok (stored.root, written) ∧
        ((Build.createStore root pointer value).run graph).graph = stored.outcome.graph

namespace Build

open ExprGraph.Graph

variable {graph : Graph}

theorem run_bind_congr {build : Build α} {first second : α → Build β}
    (same : ∀ value, (build.run graph).result = .ok value →
      (first value).run (build.run graph).graph = (second value).run (build.run graph).graph) :
    (build >>= first).run graph = (build >>= second).run graph := by
  rw [run_bind, run_bind]
  cases found : (build.run graph).result with
  | error fault => rfl
  | ok value => simp only [same value found]

theorem run_inspect_ok (read : Graph → Except Fault α) {value : α} (next : α → Build β)
    (found : read graph = .ok value) :
    (inspect read >>= next).run graph = (next value).run graph := by
  rw [run_bind, run_inspect, found]
  rfl

theorem run_inspect_error {read : Graph → Except Fault α} {fault : Fault} (next : α → Build β)
    (failed : read graph = .error fault) :
    (inspect read >>= next).run graph = ⟨.error fault, graph, []⟩ := by
  rw [run_bind, run_inspect, failed]

theorem loadIfPointer_alike (operand : Handle) (graph : Graph) :
    ((loadIfPointer operand).run graph).SameEffect ((createLoad operand).run graph) := by
  unfold loadIfPointer createLoad
  cases found : graph.lookup operand with
  | error fault =>
      have failed : graph.opcode operand = .error fault := by
        rw [Graph.opcode, found]
        rfl
      rw [run_inspect_error _ found, run_inspect_error _ failed]
      exact ⟨rfl, rfl⟩
  | ok node =>
      rw [run_inspect_ok _ _ found, run_inspect_ok _ _ (opcode_of_lookup found)]
      by_cases isPointer : node.opcode = .pointer
      · simp only [isPointer, if_true]
        rw [run_bind_ok _ (run_announce _ graph)]
        exact ⟨rfl, rfl⟩
      · simp only [isPointer, if_false]
        exact ⟨rfl, rfl⟩

theorem lookup_loadIfPointer {operand : Handle} {node : Node}
    (found : graph.lookup operand = .ok node) :
    ((loadIfPointer operand).run graph).graph.lookup operand = .ok node := by
  rw [run_loadIfPointer found]
  exact planLoaded_keeps operand node found

theorem lookup_allocate {handle : Handle} {node : Node} (opcode : Opcode) (children : List Handle)
    (found : graph.lookup handle = .ok node) :
    ((allocate opcode children).run graph).graph.lookup handle = .ok node := by
  rw [run_allocate]
  cases graph.checkAll children with
  | error fault => exact found
  | ok _ => exact lookup_add_of_ok (graph.draft opcode children) found

theorem floor_eq (operand : Handle) (graph : Graph) :
    (floor operand).run graph =
      (createUnary .floor operand (fun graph => graph.dataType operand)).run graph := by
  unfold floor createUnary
  cases found : graph.lookup operand with
  | error fault =>
      have failed : graph.dataType operand = .error fault := by
        rw [Graph.dataType, found]
        rfl
      rw [run_inspect_error _ failed, run_bind_error _ (run_loadIfPointer_refused found)]
  | ok node =>
      rw [run_inspect_ok _ _ (dataType_of_lookup found)]
      apply run_bind_congr
      intro loaded _
      apply run_bind_congr
      intro handle _
      have kept := lookup_allocate .floor [loaded] (lookup_loadIfPointer found)
      have typed := run_inspect_ok (fun graph => graph.dataType operand) (setTyped handle)
        (dataType_of_lookup kept)
      exact typed.symm

theorem cast_eq (operand : Handle) (dataType : DataType) (graph : Graph) :
    (cast operand dataType).run graph =
      (createUnary .cast operand (fun _ => .ok dataType)).run graph := by
  apply run_bind_congr
  intro loaded _
  apply run_bind_congr
  intro handle _
  exact (run_inspect_ok (fun _ => .ok dataType) (setTyped handle) rfl).symm

theorem planCreate_store (graph : Graph) (pointer value : Handle) :
    graph.planCreate .store [pointer, value] = (do
      graph.expectOpcode pointer .pointer
      let _ ← graph.lookup value
      return ⟨graph.next, [.add .asked (graph.draft .store [pointer, value])]⟩) := by
  have counted : graph.planCreate .store [pointer, value] = (do
      graph.expectOpcode pointer .pointer
      graph.planAdd (graph.draft .store [pointer, value])) := rfl
  rw [counted]
  cases expected : graph.expectOpcode pointer .pointer with
  | error fault => rfl
  | ok _ =>
      obtain ⟨node, found⟩ := accepts_of_opcode ((expectOpcode_eq_ok_iff _ _ _).mp expected)
      simp only [planAdd, draft, checkAll, found, bind, Except.bind]
      cases graph.lookup value with
      | error fault => rfl
      | ok node => rfl

theorem checkStore_eq (graph : Graph) (root pointer value : Handle) :
    graph.checkStore root pointer value = (do
      let _ ← graph.planCreate .store [pointer, value]
      if root.isEmpty then .ok () else graph.expectOpcode root .combine) := by
  rw [planCreate_store, checkStore]
  cases graph.expectOpcode pointer .pointer with
  | error fault => rfl
  | ok _ =>
      cases graph.lookup value with
      | error fault => rfl
      | ok node => rfl

theorem planCreate_store_ok {pointer value : Handle}
    (isPointer : graph.opcode pointer = .ok .pointer) (accepted : graph.Accepts value) :
    graph.planCreate .store [pointer, value] =
      .ok ⟨graph.next, [.add .asked (graph.draft .store [pointer, value])]⟩ := by
  obtain ⟨node, found⟩ := accepted
  rw [planCreate_store, (expectOpcode_eq_ok_iff _ _ _).mpr isPointer, found]
  rfl

theorem run_createInto {pointer value collector : Handle}
    (isPointer : graph.opcode pointer = .ok .pointer) (accepted : graph.Accepts value)
    (collects : graph.Accepts collector) :
    (createInto pointer value collector).run graph = graph.carryOut (.ok ⟨(collector, graph.next),
      [.add .asked (graph.draft .store [pointer, value]),
        .edit collector (.collect graph.next)]⟩) := by
  obtain ⟨node, found⟩ := collects
  have added := run_create .store [pointer, value] graph
  rw [planCreate_store_ok isPointer accepted] at added
  have kept := lookup_add_of_ok (graph.draft .store [pointer, value]) found
  have appended := run_edit collector (collector, graph.next)
    (fun node => .ok { node with children := node.children ++ [graph.next] })
    (fun _ => .ok (.collect graph.next)) (fun _ => rfl)
    (graph.add (graph.draft .store [pointer, value]))
  rw [planEdit_ok (collector, graph.next) kept rfl] at appended
  exact run_bind_plan (fun store => do
    update collector (fun node => { node with children := node.children ++ [store] })
    return (collector, store)) added appended

theorem store_refused {root pointer value : Handle} {fault : Fault}
    (refused : graph.checkStore root pointer value = .error fault) :
    store root pointer value graph = ⟨root, ⟨.error fault, graph, []⟩⟩ := by
  rw [run_store, planStore, refused]
  rfl

theorem createStore_granted {root pointer value : Handle}
    (checked : graph.checkStore root pointer value = .ok ()) :
    ∃ written, (store root pointer value graph).outcome.result = .ok written ∧
      ((createStore root pointer value).run graph).result =
        .ok ((store root pointer value graph).root, written) ∧
      ((createStore root pointer value).run graph).graph =
        (store root pointer value graph).outcome.graph := by
  obtain ⟨isPointer, accepted, isRoot⟩ := (checkStore_eq_ok_iff _ _ _ _).mp checked
  rw [run_store, planStore, checked]
  cases root with
  | empty =>
      let added := Change.add .asked (graph.draft .combine [])
      have made : (create .combine []).run graph =
          graph.carryOut (.ok ⟨graph.next, [added]⟩) := run_create .combine [] graph
      have into := run_createInto (opcode_apply_of_ok added isPointer) (accepted.apply added)
        (accepts_add_new graph (graph.draft .combine []))
      have both := run_bind_plan (createInto pointer value) made into
      exact ⟨_, rfl, congrArg Outcome.result both, congrArg Outcome.graph both⟩
  | ref owner position =>
      have isCombine := opcode_of_root isRoot
      have into := run_createInto isPointer accepted (accepts_of_opcode isCombine)
      have both := run_bind_ok (createInto pointer value) (run_pure (.ref owner position) graph)
      rw [into] at both
      exact ⟨_, rfl, congrArg Outcome.result both, congrArg Outcome.graph both⟩

theorem checkStore_of_create_ok {root pointer value store : Handle}
    (made : ((create .store [pointer, value]).run graph).result = .ok store) :
    graph.checkStore root pointer value =
      if root.isEmpty then .ok () else graph.expectOpcode root .combine := by
  rw [run_create] at made
  obtain ⟨plan, planned⟩ := planned_of_ok made
  rw [checkStore_eq, planned]
  rfl

theorem checkStore_of_create_error {root pointer value : Handle} {fault : Fault}
    (failed : ((create .store [pointer, value]).run graph).result = .error fault) :
    graph.checkStore root pointer value = .error fault := by
  rw [run_create] at failed
  rw [checkStore_eq]
  cases decided : graph.planCreate .store [pointer, value] with
  | error other =>
      rw [decided] at failed
      obtain rfl := Except.error.inj failed
      rfl
  | ok plan =>
      rw [decided] at failed
      cases failed

theorem store_by_creation (graph : Graph) (root pointer value : Handle) :
    StoresByCreation graph root pointer value (store root pointer value graph) where
  refused := fun _ failed => store_refused (checkStore_of_create_error failed)
  unknownRoot := by
    intro _ made nonempty unknown
    apply store_refused
    rw [checkStore_of_create_ok made]
    cases root with
    | empty => exact absurd rfl nonempty
    | ref owner position =>
        simp only [Handle.isEmpty, expectOpcode, Graph.opcode, lookup_of_not_accepts unknown]
        rfl
  otherRoot := by
    intro _ found made isOther notCombine
    apply store_refused
    rw [checkStore_of_create_ok made]
    cases root with
    | empty => cases isOther
    | ref owner position =>
        simp only [Handle.isEmpty, expectOpcode, isOther, bind, Except.bind, notCombine]
        rfl
  granted := by
    intro _ made isRoot
    apply createStore_granted
    rw [checkStore_of_create_ok made]
    cases root with
    | empty => rfl
    | ref owner position =>
        exact (expectOpcode_eq_ok_iff _ _ _).mpr (opcode_of_root isRoot)

end Build

theorem Construction.build_by_creation {construction : Construction Handle}
    {request : Build Handle} (requested : construction.byCreation? = some request)
    (graph : Graph) : (construction.build.run graph).SameEffect (request.run graph) := by
  cases construction with
  | loadIfPointer operand =>
      obtain rfl := Option.some.inj requested
      exact Build.loadIfPointer_alike operand graph
  | floor operand =>
      obtain rfl := Option.some.inj requested
      simp only [build, Build.floor_eq]
      exact ⟨rfl, rfl⟩
  | cast operand dataType =>
      obtain rfl := Option.some.inj requested
      simp only [build, Build.cast_eq]
      exact ⟨rfl, rfl⟩
  | _ => cases requested <;> exact ⟨rfl, rfl⟩

/-- In every graph, a builder and the requests it stands for have the same effect, whichever of
their arguments are wrong. -/
theorem builders_agree (graph : Graph) :
    (∀ construction request, Construction.byCreation? construction = some request →
      (construction.build.run graph).SameEffect (request.run graph)) ∧
      ∀ root pointer value,
        StoresByCreation graph root pointer value (Build.store root pointer value graph) :=
  ⟨fun _ _ requested => Construction.build_by_creation requested graph,
    Build.store_by_creation graph⟩

def misplacedRoot : List Step :=
  [.construct 0 (.addr ⟨"x", .float32, 0⟩) (some "a"),
    .construct 0 (.pointer (some "a")) (some "p"),
    .construct 0 (.constant (.int32 2)) (some "v"),
    .construct 0 (.create .combine [some "v"]) (some "root"),
    .replace 0 (some "v") 0 (some "root")]

theorem builders_agree_misplacedRoot :
    ∃ graph, (Session.start.run misplacedRoot).graphs[0]? = some graph ∧
      ((Build.floor (.ref 0 1)).run graph).SameEffect ((Build.createUnary .floor (.ref 0 1)
        (fun graph => graph.dataType (.ref 0 1))).run graph) ∧
      ((Build.create .store [.ref 0 1, .ref 0 3]).run graph).result = .ok (.ref 0 4) ∧
      graph.opcode (.ref 0 2) = .ok .combine ∧
      ∃ written, (Build.store (.ref 0 2) (.ref 0 1) (.ref 0 3) graph).outcome.result = .ok written ∧
        ((Build.createStore (.ref 0 2) (.ref 0 1) (.ref 0 3)).run graph).result =
          .ok ((Build.store (.ref 0 2) (.ref 0 1) (.ref 0 3) graph).root, written) ∧
        ((Build.createStore (.ref 0 2) (.ref 0 1) (.ref 0 3)).run graph).graph =
          (Build.store (.ref 0 2) (.ref 0 1) (.ref 0 3) graph).outcome.graph :=
  ⟨_, rfl, (builders_agree _).1 (.floor (.ref 0 1)) _ rfl, rfl, rfl,
    ((builders_agree _).2 (.ref 0 2) (.ref 0 1) (.ref 0 3)).granted (.ref 0 4) rfl (.inr rfl)⟩

end ExprGraph
