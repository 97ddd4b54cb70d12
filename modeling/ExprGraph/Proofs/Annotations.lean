import ExprGraph.Proofs.Session.Alike

/-!
Annotations: names, groups, flags and restarts of the numbering make no difference to anything else.
Main statement: `annotations_inert`, for two lists of steps that have all but their annotations in
common.
-/

namespace ExprGraph.Session

def plain (steps : List Step) : List Step := steps.filter (fun step => !step.annotates)

def noted (steps : List Step) : List String :=
  (steps.filter Step.annotates).flatMap Step.binds

def remaining (session : Session) : List Step → List Reply
  | [] => []
  | step :: rest =>
    let (after, reply) := session.step step
    if step.annotates then after.remaining rest else reply :: after.remaining rest

theorem Alike.of_bare_put {hidden : String → Prop} {session : Session} {index : Nat}
    {graph after : Graph} (found : session.graphs[index]? = some graph)
    (same : after.bare = graph.bare) : Alike hidden (session.put index after) session := by
  have replaced := (Alike.refl session : Alike hidden session session).put index same
  rwa [put_same found] at replaced

theorem Alike.of_hidden_bind {hidden : String → Prop} {name : Option String}
    (isHidden : ∀ chosen ∈ name.toList, hidden chosen) (session : Session) (handle : Handle) :
    Alike hidden (session.bind name handle) session where
  graphs := by rw [graphs_bind]
  nextId := nextId_bind session name handle
  names := by
    intro other shown
    cases name with
    | none => rfl
    | some name =>
        have different : some other ≠ some name := by
          rintro ⟨rfl⟩
          exact shown (isHidden other (by simp))
        rw [resolve_bind, if_neg different]

theorem annotation_alike {hidden : String → Prop} {session : Session} {step : Step}
    (annotates : step.annotates = true) (isHidden : ∀ name ∈ step.binds, hidden name) :
    Alike hidden (session.step step).1 session := by
  cases step with
  | construct index construction name =>
      have isNote := (construction.annotates_map session.resolve).trans annotates
      cases found : session.graphs[index]? with
      | none =>
          rw [step, build_missing found]
          exact .refl session
      | some graph =>
          cases planned : (construction.map session.resolve).plan graph with
          | error fault =>
              rw [step_construct_refused name found planned]
              exact .refl session
          | ok plan =>
              rw [step_construct_done name found planned]
              exact (Alike.of_hidden_bind isHidden _ _).trans
                (.of_bare_put found (Construction.bare_annotated isNote planned))
  | mutate index mutation =>
      have isNote := (mutation.annotates_map session.resolve).trans annotates
      cases found : session.graphs[index]? with
      | none =>
          rw [step, build_missing found]
          exact .refl session
      | some graph =>
          cases planned : (mutation.map session.resolve).plan graph with
          | error fault =>
              rw [step_mutate_refused found planned]
              exact .refl session
          | ok plan =>
              rw [step_mutate_done found planned]
              exact .of_bare_put found (Mutation.bare_annotated isNote planned)
  | _ => cases annotates

theorem remaining_alike {hidden : String → Prop} {session other : Session} {steps : List Step}
    (alike : Alike hidden session other) (isHidden : ∀ name ∈ noted steps, hidden name)
    (shown : ∀ step ∈ plain steps, ∀ name, some name ∈ step.operands → ¬ hidden name) :
    (session.remaining steps).map Reply.bare = (other.remaining (plain steps)).map Reply.bare ∧
      Alike hidden (session.run steps) (other.run (plain steps)) := by
  induction steps generalizing session other with
  | nil => exact ⟨rfl, alike⟩
  | cons step rest ih =>
      cases annotates : step.annotates with
      | true =>
          have skipped : plain (step :: rest) = plain rest := by simp [plain, annotates]
          have given : noted (step :: rest) = step.binds ++ noted rest := by
            simp [noted, annotates]
          rw [given] at isHidden
          rw [skipped] at shown ⊢
          have unchanged : Alike hidden (session.step step).1 session :=
            annotation_alike annotates
              (fun name member => isHidden name (List.mem_append_left _ member))
          obtain ⟨laterReplies, laterSessions⟩ := ih (unchanged.trans alike)
            (fun name member => isHidden name (List.mem_append_right _ member)) shown
          refine ⟨?_, laterSessions⟩
          simp only [remaining, annotates, if_true, laterReplies]
      | false =>
          have kept : plain (step :: rest) = step :: plain rest := by simp [plain, annotates]
          have given : noted (step :: rest) = noted rest := by simp [noted, annotates]
          rw [given] at isHidden
          rw [kept] at shown ⊢
          obtain ⟨firstShown, restShown⟩ := List.forall_mem_cons.mp shown
          obtain ⟨sessions, replies⟩ := step_alike alike annotates firstShown
          obtain ⟨laterReplies, laterSessions⟩ := ih sessions isHidden restShown
          refine ⟨?_, laterSessions⟩
          simp only [remaining, annotates, Bool.false_eq_true, if_false, List.map_cons, replies,
            laterReplies]

/-- Where two lists of steps differ by annotations only, and no other step reads a name that an
annotation gives, all other steps are answered alike and lead to sessions that are. -/
theorem annotations_inert (session : Session) {first second : List Step}
    (same : plain first = plain second)
    (unread : ∀ name ∈ noted first ++ noted second, ∀ step ∈ plain first,
      some name ∉ step.operands) :
    (session.remaining first).map Reply.bare = (session.remaining second).map Reply.bare ∧
      Alike (· ∈ noted first ++ noted second) (session.run first) (session.run second) := by
  have shown : ∀ step ∈ plain first, ∀ name, some name ∈ step.operands →
      ¬ name ∈ noted first ++ noted second := by
    intro step member name reads isNoted
    exact unread name isNoted step member reads
  obtain ⟨firstReplies, firstSessions⟩ := remaining_alike (.refl session)
    (fun _ member => List.mem_append_left _ member) shown
  rw [same] at shown firstReplies firstSessions
  obtain ⟨secondReplies, secondSessions⟩ := remaining_alike (.refl session)
    (fun _ member => List.mem_append_right _ member) shown
  exact ⟨firstReplies.trans secondReplies.symm, firstSessions.trans secondSessions.symm⟩

def summing : List Step :=
  [ .construct 0 (.index 1) (some "one"), .construct 0 (.index 2) (some "two"),
    .construct 0 (.binary .add (some "one") (some "two")) (some "sum"),
    .construct 0 .placeholder (some "place"),
    .construct 0 (.pointer (some "place")) (some "target"),
    .store 0 "root" (some "target") (some "sum") (some "stored"),
    .query 0 (.walk (some "root") .parentFirst) ]

def summingNoted : List Step :=
  [ .construct 0 (.index 1) (some "one"),
    .construct 0 (.setName (some "one") "left") (some "label"),
    .mutate 0 .resetCounter, .construct 0 (.index 2) (some "two"),
    .mutate 0 (.setGroupCount (some "missing") 3),
    .mutate 0 (.pushMember (some "one") (some "two")),
    .construct 0 (.binary .add (some "one") (some "two")) (some "sum"),
    .construct 0 .placeholder (some "place"),
    .construct 0 (.pointer (some "place")) (some "target"),
    .mutate 0 (.setVectorized (some "label") true),
    .store 0 "root" (some "target") (some "sum") (some "stored"),
    .query 0 (.walk (some "root") .parentFirst) ]

theorem summingNoted_inert :
    plain summing = plain summingNoted ∧
      (∀ name ∈ noted summing ++ noted summingNoted, ∀ step ∈ plain summing,
        some name ∉ step.operands) ∧
      (start.remaining summing).map Reply.bare = (start.remaining summingNoted).map Reply.bare ∧
      Alike (· ∈ noted summing ++ noted summingNoted) (start.run summing)
        (start.run summingNoted) ∧
      (start.run summing).graphs.map (fun graph => graph.nodes.map Node.id) ≠
        (start.run summingNoted).graphs.map (fun graph => graph.nodes.map Node.id) := by
  have same : plain summing = plain summingNoted := rfl
  have unread : ∀ name ∈ noted summing ++ noted summingNoted, ∀ step ∈ plain summing,
      some name ∉ step.operands := by decide
  obtain ⟨replies, sessions⟩ := annotations_inert start same unread
  exact ⟨same, unread, replies, sessions, by decide +kernel⟩

end ExprGraph.Session
