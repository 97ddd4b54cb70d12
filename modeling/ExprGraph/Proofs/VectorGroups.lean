import ExprGraph.Graph.Query
import ExprGraph.Proofs.Graph.Closure
import ExprGraph.Proofs.Graph.Plan.Quiet
import ExprGraph.Proofs.Session.Chronicle
import Mathlib.Data.List.Nodup

/-!
Vector groups.  The lanes of a node are those it was given last and then those added to it since,
and a handle is looked up by the first lane that holds it; handles the graph does not accept are
lanes of no group.  Main statement: `groups_looked_up`.
-/

namespace ExprGraph

inductive Enrolment where
  | given (group : Handle) (lanes : List Handle)
  | added (group lane : Handle)

namespace Enrolment

def group : Enrolment → Handle
  | given group _ => group
  | added group _ => group

def GivesTo (handle : Handle) : Enrolment → Prop
  | given group _ => group = handle
  | added _ _ => False

def lane? (handle : Handle) : Enrolment → Option Handle
  | given _ _ => none
  | added group lane => if group = handle then some lane else none

def enroll (handle : Handle) (lanes : List Handle) : Enrolment → List Handle
  | given group others => if group = handle then others else lanes
  | added group lane => if group = handle then lanes ++ [lane] else lanes

theorem enroll_other {enrolment : Enrolment} {handle : Handle} (other : enrolment.group ≠ handle)
    (lanes : List Handle) : enrolment.enroll handle lanes = lanes := by
  cases enrolment with
  | given group others => exact if_neg other
  | added group lane => exact if_neg other

theorem enroll_of_not_gives {enrolment : Enrolment} {handle : Handle}
    (notGiven : ¬ enrolment.GivesTo handle) (lanes : List Handle) :
    enrolment.enroll handle lanes = lanes ++ (enrolment.lane? handle).toList := by
  cases enrolment with
  | given group others =>
      have other : ¬ group = handle := notGiven
      rw [enroll, if_neg other]
      exact (List.append_nil lanes).symm
  | added group lane =>
      by_cases same : group = handle
      · simp [enroll, lane?, same]
      · simp [enroll, lane?, same]

end Enrolment

def lanesAfter (record : List Enrolment) (handle : Handle) (lanes : List Handle) : List Handle :=
  record.foldl (fun lanes enrolment => enrolment.enroll handle lanes) lanes

def lanesAdded (record : List Enrolment) (handle : Handle) : List Handle :=
  record.filterMap (Enrolment.lane? handle)

theorem lanesAfter_of_not_given {record : List Enrolment} {handle : Handle}
    (notGiven : ∀ enrolment ∈ record, ¬ enrolment.GivesTo handle) (lanes : List Handle) :
    lanesAfter record handle lanes = lanes ++ lanesAdded record handle := by
  induction record generalizing lanes with
  | nil => exact (List.append_nil lanes).symm
  | cons enrolment rest ih =>
      have first := Enrolment.enroll_of_not_gives (notGiven enrolment List.mem_cons_self) lanes
      rw [lanesAfter, List.foldl_cons, first, ← lanesAfter,
        ih (fun later member => notGiven later (List.mem_cons_of_mem _ member))]
      cases isLane : enrolment.lane? handle with
      | none => simp [lanesAdded, isLane]
      | some lane => simp [lanesAdded, isLane]

theorem lanesAfter_given (before after : List Enrolment) (handle : Handle)
    (lanes given : List Handle) :
    lanesAfter (before ++ .given handle given :: after) handle lanes =
      lanesAfter after handle given := by
  rw [lanesAfter, List.foldl_append, List.foldl_cons, Enrolment.enroll, if_pos rfl]
  rfl

theorem lanesAfter_unknown {record : List Enrolment} {handle : Handle}
    (others : ∀ enrolment ∈ record, enrolment.group ≠ handle) (lanes : List Handle) :
    lanesAfter record handle lanes = lanes := by
  induction record generalizing lanes with
  | nil => rfl
  | cons enrolment rest ih =>
      rw [lanesAfter, List.foldl_cons, Enrolment.enroll_other (others enrolment List.mem_cons_self)]
      exact ih (fun later member => others later (List.mem_cons_of_mem _ member)) lanes

theorem lanesAfter_concat (record : List Enrolment) (enrolment : Enrolment) (handle : Handle)
    (lanes : List Handle) :
    lanesAfter (record ++ [enrolment]) handle lanes =
      enrolment.enroll handle (lanesAfter record handle lanes) := by
  rw [lanesAfter, List.foldl_append]
  rfl

def Change.KeepsLanes : Change → Prop
  | .edit _ (.enroll _) => False
  | _ => True

theorem Change.Plain.keepsLanes {change : Change} (plain : change.Plain) : change.KeepsLanes := by
  cases change with
  | add cause draft => exact trivial
  | edit handle edit => exact plain.elim
  | restart => exact trivial

namespace Graph

structure Enrolls (graph : Graph) (record : List Enrolment) : Prop where
  members : ∀ handle node, graph.lookup handle = .ok node →
    node.members = lanesAfter record handle []
  known : ∀ enrolment ∈ record, graph.Accepts enrolment.group

section

variable {graph : Graph} {record : List Enrolment}

theorem enrolls_empty (id : UInt32) (options : Options) :
    Enrolls { id := id, options := options } [] where
  members := by
    intro handle node found
    exact (not_accepts_empty id options handle ⟨node, found⟩).elim
  known := by
    intro enrolment member
    cases member

theorem Enrolls.keep {change : Change} (enrolls : graph.Enrolls record)
    (keeps : change.KeepsLanes) : (graph.apply change).Enrolls record where
  members := by
    intro handle node found
    rcases lookup_apply_cases found with old | isNew | isEdited
    · exact enrolls.members handle node old
    · obtain ⟨cause, draft, rfl, rfl, rfl⟩ := isNew
      refine (lanesAfter_unknown ?_ []).symm
      intro enrolment member isNew
      have accepted := enrolls.known enrolment member
      rw [isNew] at accepted
      exact graph.not_accepts_next accepted
    · obtain ⟨edit, old, rfl, before, rfl⟩ := isEdited
      have same : (edit.apply old).members = old.members := by
        cases edit with
        | enroll lanes => exact keeps.elim
        | _ => rfl
      rw [same]
      exact enrolls.members handle old before
  known := fun enrolment member => (enrolls.known enrolment member).apply change

theorem Enrolls.keepAll (enrolls : graph.Enrolls record) {changes : List Change}
    (keeps : ∀ change ∈ changes, change.KeepsLanes) :
    (graph.applyAll changes).Enrolls record := by
  induction changes generalizing graph with
  | nil => exact enrolls
  | cons change rest ih =>
      exact ih (enrolls.keep (keeps change List.mem_cons_self))
        (fun later member => keeps later (List.mem_cons_of_mem _ member))

theorem Enrolls.enroll {target : Handle} {node : Node} {lanes : List Handle}
    (enrolls : graph.Enrolls record) (enrolment : Enrolment)
    (found : graph.lookup target = .ok node) (about : enrolment.group = target)
    (enrolled : enrolment.enroll target node.members = lanes) :
    (graph.apply (.edit target (.enroll lanes))).Enrolls (record ++ [enrolment]) where
  members := by
    intro handle now foundNow
    rw [lanesAfter_concat]
    by_cases same : handle = target
    · subst same
      obtain rfl := Except.ok.inj ((lookup_edit_same _ found).symm.trans foundNow)
      rw [← enrolls.members _ node found, enrolled]
      rfl
    · rw [lookup_edit_other _ same] at foundNow
      rw [Enrolment.enroll_other (by rw [about]; exact Ne.symm same)]
      exact enrolls.members handle now foundNow
  known := by
    intro other member
    apply Accepts.apply
    rcases List.mem_append.mp member with old | new
    · exact enrolls.known other old
    · rw [List.mem_singleton.mp new, about]
      exact ⟨node, found⟩

theorem planStore_keepsLanes {root pointer value : Handle} {plan : Plan (Handle × Handle)}
    (planned : graph.planStore root pointer value = .ok plan) :
    ∀ change ∈ plan.changes, change.KeepsLanes := by
  obtain ⟨_, _, returned⟩ := ok_of_bind planned
  obtain rfl := Except.ok.inj returned
  cases root <;> simp [planCollector, Handle.isEmpty, Change.KeepsLanes]

end

end Graph

theorem Construction.plan_keepsLanes {construction : Construction Handle} {graph : Graph}
    {plan : Plan Handle} (planned : construction.plan graph = .ok plan) :
    ∀ change ∈ plan.changes, change.KeepsLanes := by
  rcases plan_cases planned with ⟨_, _, _, named⟩ | ⟨_, _, created⟩ | plain
  · simp [named, Change.KeepsLanes]
  · simp [created, Change.KeepsLanes]
  · exact fun change member => (plain change member).keepsLanes

def Mutation.enrolments : Mutation Handle → List Enrolment
  | setMembers group members => [.given group members]
  | pushMember group member => [.added group member]
  | _ => []

theorem Graph.Enrolls.mutate {graph : Graph} {record : List Enrolment} {plan : Plan Unit}
    {mutation : Mutation Handle} (enrolls : graph.Enrolls record)
    (planned : mutation.plan graph = .ok plan) :
    (graph.applyAll plan.changes).Enrolls (record ++ mutation.enrolments) := by
  rcases Mutation.plan_cases planned with
    ⟨rfl, restarted⟩ | ⟨handle, node, edit, found, isEdit, edited⟩
  · rw [restarted, show Mutation.enrolments .resetCounter = [] from rfl, List.append_nil]
    exact enrolls.keepAll (by simp [Change.KeepsLanes])
  · rw [edited]
    cases mutation with
    | setMembers group members =>
        cases isEdit
        exact enrolls.enroll (.given handle members) found rfl (if_pos rfl)
    | pushMember group member =>
        cases isEdit
        exact enrolls.enroll (.added handle member) found rfl (if_pos rfl)
    | resetCounter => cases isEdit
    | _ =>
        cases isEdit
        simp only [Mutation.enrolments, List.append_nil]
        exact enrolls.keepAll (by simp [Change.KeepsLanes])

namespace Node

theorem memberIndex?_eq_some_iff (node : Node) (handle : Handle) (lane : Nat) :
    node.memberIndex? handle = some lane ↔
      node.members[lane]? = some handle ∧
        ∀ earlier < lane, node.members[earlier]? ≠ some handle := by
  rw [memberIndex?, List.findIdx?_eq_some_iff_getElem]
  constructor
  · rintro ⟨bound, isHandle, others⟩
    rw [List.getElem?_eq_getElem bound, eq_of_beq isHandle]
    refine ⟨rfl, ?_⟩
    intro earlier before same
    obtain ⟨_, isEarlier⟩ := List.getElem?_eq_some_iff.mp same
    exact others earlier before (by rw [isEarlier, beq_self_eq_true])
  · rintro ⟨isHandle, others⟩
    obtain ⟨bound, isLane⟩ := List.getElem?_eq_some_iff.mp isHandle
    refine ⟨bound, by rw [isLane, beq_self_eq_true], ?_⟩
    intro earlier before same
    refine others earlier before ?_
    rw [List.getElem?_eq_getElem (Nat.lt_trans before bound), eq_of_beq same]

theorem memberIndex?_eq_none_iff (node : Node) (handle : Handle) :
    node.memberIndex? handle = none ↔ handle ∉ node.members := by
  rw [memberIndex?, List.findIdx?_eq_none_iff]
  constructor
  · intro others member
    have other := others handle member
    rw [beq_self_eq_true] at other
    cases other
  · rintro absent lane member
    rw [beq_eq_false_iff_ne]
    rintro rfl
    exact absent member

theorem memberIndex?_of_nodup {node : Node} (distinct : node.members.Nodup) (handle : Handle)
    (lane : Nat) : node.memberIndex? handle = some lane ↔ node.members[lane]? = some handle := by
  rw [memberIndex?_eq_some_iff]
  constructor
  · exact And.left
  · intro isHandle
    refine ⟨isHandle, ?_⟩
    intro earlier before same
    obtain ⟨bound, _⟩ := List.getElem?_eq_some_iff.mp isHandle
    exact List.nodup_iff_getElem?_ne_getElem?.mp distinct earlier lane before bound
      (same.trans isHandle.symm)

end Node

structure Graph.LooksUp (graph : Graph) (record : List Enrolment) (group : Handle) (node : Node) :
    Prop where
  given : ∀ before lanes after, record = before ++ .given group lanes :: after →
    (∀ enrolment ∈ after, ¬ enrolment.GivesTo group) →
      node.members = lanes ++ lanesAdded after group
  neverGiven : (∀ enrolment ∈ record, ¬ enrolment.GivesTo group) →
    node.members = lanesAdded record group
  found_iff : ∀ handle lane, graph.memberIndex? group handle = .ok (some lane) ↔
    node.members[lane]? = some handle ∧ ∀ earlier < lane, node.members[earlier]? ≠ some handle
  missing_iff : ∀ handle, graph.memberIndex? group handle = .ok none ↔ handle ∉ node.members
  unknown : ∀ handle, ¬ graph.Accepts handle → graph.memberIndex? group handle = .ok none
  inverse : node.members.Nodup → ∀ handle lane,
    graph.memberIndex? group handle = .ok (some lane) ↔ node.members[lane]? = some handle
  lanes : node.lanes = node.members.length * node.groupCount

theorem Graph.Enrolls.looksUp {graph : Graph} {record : List Enrolment} {group : Handle}
    {node : Node} (enrolls : graph.Enrolls record) (closed : graph.Closed)
    (found : graph.lookup group = .ok node) : graph.LooksUp record group node := by
  have answer : ∀ handle, graph.memberIndex? group handle = .ok (node.memberIndex? handle) := by
    intro handle
    simp only [Graph.memberIndex?, found, Except.map]
  have members := enrolls.members group node found
  constructor
  case given =>
    rintro before lanes after rfl notGiven
    rw [members, lanesAfter_given, lanesAfter_of_not_given notGiven]
  case neverGiven =>
    intro notGiven
    rw [members, lanesAfter_of_not_given notGiven]
    rfl
  case found_iff =>
    intro handle lane
    rw [answer, Except.ok.injEq, Node.memberIndex?_eq_some_iff]
  case missing_iff =>
    intro handle
    rw [answer, Except.ok.injEq, Node.memberIndex?_eq_none_iff]
  case unknown =>
    intro handle refused
    rw [answer, Except.ok.injEq, Node.memberIndex?_eq_none_iff]
    exact fun member => refused (closed.members group node found handle member)
  case inverse =>
    intro distinct handle lane
    rw [answer, Except.ok.injEq, Node.memberIndex?_of_nodup distinct]
  case lanes => rfl

namespace Session

def enrolments (session : Session) (step : Step) : List Enrolment :=
  match step, (session.step step).2.answer with
  | .mutate _ mutation, .ok _ => (mutation.map session.resolve).enrolments
  | _, _ => []

theorem enrolments_refused {session : Session} {step : Step} {refusal : Refusal}
    (refused : (session.step step).2.answer = .error refusal) : session.enrolments step = [] := by
  cases step <;> simp only [enrolments, refused]

theorem enrolls_step (session : Session) (step : Step) (index : Nat) (graph : Graph)
    (record : List Enrolment) (found : session.graphs[index]? = some graph)
    (enrolls : graph.Enrolls record) :
    (graph.applyAll (session.changes index graph step)).Enrolls
      (record ++ toldAt enrolments session index step) := by
  by_cases directed : step.target? = some index
  · rw [toldAt, if_pos directed]
    apply changes_replied (P := fun changes =>
      (graph.applyAll changes).Enrolls (record ++ session.enrolments step)) found directed
    · intro refusal _ refused
      rw [enrolments_refused (congrArg Reply.answer refused), List.append_nil]
      exact enrolls
    · rintro construction name plan rfl planned _ _
      simp only [enrolments, List.append_nil]
      exact enrolls.keepAll (Construction.plan_keepsLanes planned)
    · rintro root pointer value name plan rfl planned _ _
      simp only [enrolments, List.append_nil]
      exact enrolls.keepAll (Graph.planStore_keepsLanes planned)
    · rintro mutation plan rfl planned done
      simp only [enrolments, done]
      exact enrolls.mutate planned
  · rw [changes_other directed, toldAt, if_neg directed, List.append_nil]
    exact enrolls

/-- In a session without replaced nodes the lanes of every node can be read off the requests that
succeeded, and a handle is looked up by its first lane. -/
theorem groups_looked_up (steps : List Step)
    (noReplace : ∀ step ∈ steps, step.isReplace = false) (index : Nat) (graph : Graph)
    (found : (start.run steps).graphs[index]? = some graph) :
    ∃ record, (chronicles enrolments steps)[index]? = some record ∧
      ∀ group node, graph.lookup group = .ok node → graph.LooksUp record group node := by
  have recorded := chronicled_run Graph.enrolls_empty enrolls_step steps noReplace
  obtain ⟨record, isRecord, enrolls⟩ := recorded.keeps index graph found
  have closed := graphs_of_changes Graph.closed_empty (fun _ _ closed valid => closed.apply valid)
    steps noReplace graph (Array.mem_of_getElem? found)
  exact ⟨record, isRecord, fun _ _ isNode => enrolls.looksUp closed isNode⟩

def grouping : List Step :=
  [.construct 0 (.index 0) (some "a"),
    .construct 0 (.index 0) (some "b"),
    .mutate 0 (.setMembers (some "a") [some "b"]),
    .mutate 0 (.setMembers (some "a") [some "b", some "a"]),
    .mutate 0 (.setMembers (some "a") [some "a", none]),
    .mutate 0 (.pushMember (some "a") (some "b")),
    .cloneGraph 0,
    .construct 0 (.index 0) (some "late"),
    .mutate 1 (.pushMember (some "a") (some "late")),
    .mutate 1 (.pushMember (some "b") (some "b")),
    .mutate 1 (.setGroupCount (some "a") 4)]

theorem grouping_looked_up :
    (∀ step ∈ grouping, step.isReplace = false) ∧
      ∃ graph, (start.run grouping).graphs[1]? = some graph ∧
        (view graph (.ref 0 0)).map Node.members = some [.ref 0 1, .ref 0 0, .ref 0 1] ∧
        ∃ record, (chronicles enrolments grouping)[1]? = some record ∧
          ∀ group node, graph.lookup group = .ok node → graph.LooksUp record group node :=
  ⟨by decide, _, rfl, rfl, groups_looked_up grouping (by decide) 1 _ rfl⟩

end Session

end ExprGraph
