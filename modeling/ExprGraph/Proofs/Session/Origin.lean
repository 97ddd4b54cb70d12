import ExprGraph.Proofs.Session.Lineage
import Mathlib.Data.List.Induction

/-!
Which graphs have the same identity.  A new graph gets the next identity, and a copy that of its
original; identities repeat after the last of them.  Main statements: `nextId_run`, and
`sameId_iff`, by which graphs of one identity are copies as long as no identity has repeated.
-/

namespace ExprGraph

def Step.founds : Step → Bool
  | .newGraph _ => true
  | _ => false

namespace Session

section

variable {session : Session} {step : Step}

theorem nextId_settle {after : Session} {outcome : Outcome α} {finish : α → Session × Answer}
    (kept : ∀ value, (finish value).1.nextId = after.nextId) :
    (after.settle outcome finish).1.nextId = after.nextId := by
  cases result : outcome.result with
  | error fault => simp only [settle, result]
  | ok value => simp only [settle, result, kept]

theorem nextId_build {index : Nat} {request : Build α}
    {finish : Session → Graph → α → Session × Answer}
    (kept : ∀ after graph value, (finish after graph value).1.nextId = after.nextId) :
    (session.build index request finish).1.nextId = session.nextId := by
  cases found : session.graphs[index]? with
  | none =>
      rw [build_missing found]
      rfl
  | some graph =>
      simp only [build, found]
      exact nextId_settle (kept _ _)

theorem nextId_kept (session : Session) (notNew : step.founds = false) :
    (session.step step).1.nextId = session.nextId := by
  cases step with
  | construct index construction name => exact nextId_build (fun after _ => nextId_bind after name)
  | store index root pointer value name =>
      simp only [Session.step]
      split
      · rfl
      · exact (nextId_settle (fun _ => nextId_bind _ _ _)).trans (nextId_bind _ _ _)
  | mutate index mutation => exact nextId_build (fun _ _ _ => rfl)
  | replace index handle source replacement =>
      simp only [Session.step]
      split
      · rfl
      · split
        · rfl
        · exact nextId_build (fun _ _ _ => rfl)
  | newGraph options => cases notNew
  | cloneGraph source =>
      simp only [Session.step]
      split <;> rfl
  | query index query =>
      simp only [Session.step]
      split <;> rfl
  | handle operand => rfl
  | compareHandles left right => rfl
  | distinctHandles operands => rfl

theorem nextId_run (session : Session) (steps : List Step) :
    (session.run steps).nextId = session.nextId + .ofNat (steps.countP Step.founds) := by
  induction steps generalizing session with
  | nil => exact (UInt32.add_zero _).symm
  | cons step rest ih =>
      refine (ih (session.step step).1).trans ?_
      cases isNew : step.founds with
      | false => rw [nextId_kept session isNew, List.countP_cons_of_neg (by simp [isNew])]
      | true =>
          cases step with
          | newGraph options =>
              rw [List.countP_cons_of_pos rfl, Nat.add_comm, UInt32.ofNat_add, ← UInt32.add_assoc]
              rfl
          | _ => cases isNew

end

variable {steps : List Step}

/-- The graph that is at `origin` after the steps is the one a session starts with, or the last step
has made it. -/
def Founds (steps : List Step) (origin : Nat) : Prop :=
  (steps = [] ∧ origin = 0) ∨
    ∃ before options, steps = before ++ [.newGraph options] ∧
      origin = (start.run before).graphs.size

structure StemsFrom (steps : List Step) (index : Nat) (before after : List Step) (origin : Nat) :
    Prop where
  among : steps = before ++ after
  founded : Founds before origin
  descends : (start.run before).Descends after origin index

theorem StemsFrom.snoc {before after : List Step} {step : Step} {index later origin : Nat}
    (stems : StemsFrom steps index before after origin)
    (descends : (start.run steps).Descends [step] index later) :
    StemsFrom (steps ++ [step]) later before (after ++ [step]) origin where
  among := by rw [stems.among, List.append_assoc]
  founded := stems.founded
  descends := by
    rw [stems.among, run_append] at descends
    exact stems.descends.trans descends

theorem stemsFrom (noReplace : ∀ step ∈ steps, step.isReplace = false) :
    ∀ (index : Nat) (graph : Graph), (start.run steps).graphs[index]? = some graph →
      ∃ before after origin, StemsFrom steps index before after origin ∧
        graph.id = .ofNat (before.countP Step.founds) := by
  induction steps using List.reverseRecOn with
  | nil =>
      intro index graph found
      obtain ⟨bound, rfl⟩ := Array.getElem?_eq_some_iff.mp found
      obtain rfl : index = 0 := Nat.lt_one_iff.mp bound
      exact ⟨[], [], 0, ⟨rfl, .inl ⟨rfl, rfl⟩, .here _ 0⟩, rfl⟩
  | append_singleton steps step ih =>
      have earlier := ih (fun other member => noReplace other (List.mem_append_left _ member))
      intro index graph found
      rw [run_append] at found
      rcases step_graph_cases (noReplace step (by simp)) found with
        ⟨old, isOld, rfl⟩ | ⟨rfl, ⟨options, rfl, rfl⟩ | ⟨source, rfl, isSource⟩⟩
      · obtain ⟨before, after, origin, stems, isId⟩ := earlier index old isOld
        exact ⟨before, after ++ [step], origin, stems.snoc (.self _ [step] index),
          (Graph.id_applyAll _ _).trans isId⟩
      · refine ⟨steps ++ [.newGraph options], [], _,
          ⟨(List.append_nil _).symm, .inr ⟨steps, options, rfl, rfl⟩, .here _ _⟩, ?_⟩
        rw [nextId_run, List.countP_append, Nat.add_comm, UInt32.ofNat_add]
        rfl
      · obtain ⟨before, after, origin, stems, isId⟩ := earlier source graph isSource
        obtain ⟨bound, _⟩ := Array.getElem?_eq_some_iff.mp isSource
        exact ⟨before, _, origin, stems.snoc (.copied bound (.here _ _)), isId⟩

theorem Founds.eq_nil {first more : List Step} {origin : Nat}
    (founds : Founds (first ++ more) origin) (quiet : more.countP Step.founds = 0) : more = [] := by
  rcases founds with ⟨isEmpty, _⟩ | ⟨before, options, ends, _⟩
  · exact (List.append_eq_nil_iff.mp isEmpty).2
  · rcases more.eq_nil_or_concat with isEmpty | ⟨init, last, rfl⟩
    · exact isEmpty
    · rw [List.concat_eq_append, ← List.append_assoc] at ends
      obtain ⟨_, isLast⟩ := List.append_inj' ends rfl
      obtain rfl := List.singleton_inj.mp isLast
      simp [Step.founds] at quiet

theorem Founds.origin_eq {origin other : Nat} (founds : Founds steps origin)
    (again : Founds steps other) : origin = other := by
  rcases founds with ⟨rfl, rfl⟩ | ⟨before, options, rfl, rfl⟩
  · rcases again with ⟨_, rfl⟩ | ⟨_, _, ends, _⟩
    · rfl
    · simp at ends
  · rcases again with ⟨isEmpty, _⟩ | ⟨_, _, ends, rfl⟩
    · simp at isEmpty
    · rw [(List.append_inj' ends rfl).1]

theorem Founds.graph {origin : Nat} (founds : Founds steps origin) :
    ∃ graph, (start.run steps).graphs[origin]? = some graph := by
  rcases founds with ⟨rfl, rfl⟩ | ⟨before, options, rfl, rfl⟩
  · exact ⟨_, rfl⟩
  · rw [run_append]
    exact ⟨_, Array.getElem?_push_size⟩

theorem StemsFrom.eq_of_countP {index other origin otherOrigin : Nat}
    {before after otherBefore otherAfter : List Step}
    (stems : StemsFrom steps index before after origin)
    (stemsToo : StemsFrom steps other otherBefore otherAfter otherOrigin)
    (same : before.countP Step.founds = otherBefore.countP Step.founds) :
    before = otherBefore ∧ after = otherAfter ∧ origin = otherOrigin := by
  obtain rfl : before = otherBefore := by
    rcases List.append_eq_append_iff.mp (stems.among.symm.trans stemsToo.among) with
      ⟨more, rfl, _⟩ | ⟨more, rfl, _⟩
    · rw [List.countP_append] at same
      rw [stemsToo.founded.eq_nil (by omega), List.append_nil]
    · rw [List.countP_append] at same
      rw [stems.founded.eq_nil (by omega), List.append_nil]
  obtain rfl := stems.founded.origin_eq stemsToo.founded
  exact ⟨rfl, List.append_cancel_left (stems.among.symm.trans stemsToo.among), rfl⟩

/-- Graphs have the same identity exactly when they go back to the same graph, as long as the
identities last. -/
theorem sameId_iff (noReplace : ∀ step ∈ steps, step.isReplace = false)
    (few : steps.countP Step.founds < UInt32.size) {index other : Nat} {graph copy : Graph}
    (found : (start.run steps).graphs[index]? = some graph)
    (foundCopy : (start.run steps).graphs[other]? = some copy) :
    graph.id = copy.id ↔ ∃ before after origin,
      StemsFrom steps index before after origin ∧ StemsFrom steps other before after origin := by
  constructor
  · intro sameId
    obtain ⟨before, after, origin, stems, isId⟩ := stemsFrom noReplace index graph found
    obtain ⟨_, _, _, stemsToo, isCopyId⟩ := stemsFrom noReplace other copy foundCopy
    have bounded : ∀ {first rest : List Step}, steps = first ++ rest →
        first.countP Step.founds < UInt32.size := by
      rintro first rest rfl
      rw [List.countP_append] at few
      omega
    have sameNumber := congrArg UInt32.toNat (isId.symm.trans (sameId.trans isCopyId))
    rw [UInt32.toNat_ofNat_of_lt' (bounded stems.among),
      UInt32.toNat_ofNat_of_lt' (bounded stemsToo.among)] at sameNumber
    obtain ⟨rfl, rfl, rfl⟩ := stems.eq_of_countP stemsToo sameNumber
    exact ⟨before, after, origin, stems, stemsToo⟩
  · rintro ⟨before, after, origin, stems, stemsToo⟩
    obtain ⟨founder, isFounder⟩ := stems.founded.graph
    have notLater : ∀ step ∈ after, step.isReplace = false := by
      intro step member
      exact noReplace step (by rw [stems.among]; exact List.mem_append_right _ member)
    obtain ⟨later, isLater, continues⟩ := stems.descends.continues notLater isFounder
    obtain ⟨laterCopy, isLaterCopy, continuesToo⟩ := stemsToo.descends.continues notLater isFounder
    rw [stems.among, run_append] at found foundCopy
    obtain rfl := Option.some.inj (found.symm.trans isLater)
    obtain rfl := Option.some.inj (foundCopy.symm.trans isLaterCopy)
    rw [continues.id, continuesToo.id]

theorem Descends.eq_of_no_copies {session : Session} {ancestor index : Nat}
    (descends : session.Descends steps ancestor index)
    (noCopies : ∀ source, .cloneGraph source ∉ steps) : index = ancestor := by
  induction descends with
  | here session index => rfl
  | stays _ ih => exact ih (fun source member => noCopies source (List.mem_cons_of_mem _ member))
  | @copied _ _ ancestor _ _ _ _ => exact absurd List.mem_cons_self (noCopies ancestor)

end Session

end ExprGraph
