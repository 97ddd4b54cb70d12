import ExprGraph.Proofs.Session.Issue

/-!
Where the nodes of a graph come from.  A graph descends from the graph it has grown out of, itself
or by copying, and each of its nodes from the step that has issued the handle of the node.  Main
statements: `accepted_cases`, by which every handle that is accepted was issued to a graph this one
descends from, and `Descends.continues`, by which a graph has all nodes of those it descends from.
-/

namespace ExprGraph

namespace Session

def issuedAll (session : Session) : List Step → List Handle
  | [] => []
  | step :: rest => session.issued step ++ (session.step step).1.issuedAll rest

/-- The graph at `index` after the steps is the one that was at `ancestor` before them, or was
copied from it on the way, directly or from another copy. -/
inductive Descends : Session → List Step → Nat → Nat → Prop
  | here (session : Session) (index : Nat) : Descends session [] index index
  | stays {session : Session} {step : Step} {rest : List Step} {ancestor index : Nat} :
      Descends (session.step step).1 rest ancestor index →
      Descends session (step :: rest) ancestor index
  | copied {session : Session} {rest : List Step} {ancestor index : Nat} :
      ancestor < session.graphs.size →
      Descends (session.step (.cloneGraph ancestor)).1 rest session.graphs.size index →
      Descends session (.cloneGraph ancestor :: rest) ancestor index

structure IssuedBy (session : Session) (steps : List Step) (index : Nat) (handle : Handle)
    (before : List Step) (step : Step) (after : List Step) (target : Nat) : Prop where
  among : steps = before ++ step :: after
  directed : step.target? = some target
  issued : handle ∈ (session.run before).issued step
  descends : ((session.run before).step step).1.Descends after target index

section

variable {session : Session} {step : Step}

theorem size_graphs_le (session : Session) (notReplace : step.isReplace = false) :
    session.graphs.size ≤ (session.step step).1.graphs.size := by
  apply Nat.le_of_not_lt
  intro fewer
  have kept := step_graph_kept notReplace (Array.getElem?_eq_getElem fewer)
  simp at kept

theorem Descends.self (session : Session) (steps : List Step) (index : Nat) :
    session.Descends steps index index := by
  induction steps generalizing session with
  | nil => exact .here session index
  | cons step rest ih => exact .stays (ih _)

theorem Descends.eq_or_le {steps : List Step} {ancestor index : Nat}
    (descends : session.Descends steps ancestor index)
    (noReplace : ∀ step ∈ steps, step.isReplace = false) :
    index = ancestor ∨ session.graphs.size ≤ index := by
  induction descends with
  | here session index => exact .inl rfl
  | @stays session step rest ancestor index _ ih =>
      have grown := session.size_graphs_le (noReplace step List.mem_cons_self)
      rcases ih (fun later member => noReplace later (List.mem_cons_of_mem _ member)) with
        same | above
      · exact .inl same
      · exact .inr (Nat.le_trans grown above)
  | @copied session rest ancestor index bound _ ih =>
      have grown := session.size_graphs_le (noReplace _ List.mem_cons_self)
      rcases ih (fun later member => noReplace later (List.mem_cons_of_mem _ member)) with
        same | above
      · exact .inr (Nat.le_of_eq same.symm)
      · exact .inr (Nat.le_trans grown above)

theorem Descends.continues {steps : List Step} {ancestor index : Nat} {graph : Graph}
    (descends : session.Descends steps ancestor index)
    (noReplace : ∀ step ∈ steps, step.isReplace = false)
    (found : session.graphs[ancestor]? = some graph) :
    ∃ later, (session.run steps).graphs[index]? = some later ∧ graph.Continues later := by
  induction descends generalizing graph with
  | here session index => exact ⟨graph, found, .refl graph⟩
  | @stays session step rest ancestor index _ ih =>
      have kept := step_graph_kept (noReplace step List.mem_cons_self) found
      obtain ⟨later, foundLater, continues⟩ :=
        ih (fun later member => noReplace later (List.mem_cons_of_mem _ member)) kept
      exact ⟨later, foundLater, (graph.continues_applyAll _).trans continues⟩
  | @copied session rest ancestor index bound _ ih =>
      apply ih (fun later member => noReplace later (List.mem_cons_of_mem _ member))
      rw [graphs_clone found, Array.getElem?_push_size]

theorem Descends.trans {first second : List Step} {ancestor middle index : Nat}
    (early : session.Descends first ancestor middle)
    (late : (session.run first).Descends second middle index) :
    session.Descends (first ++ second) ancestor index := by
  induction early with
  | here session index => exact late
  | stays _ ih => exact .stays (ih late)
  | copied bound _ ih => exact .copied bound (ih late)

theorem IssuedBy.cons {steps before after : List Step} {issuing : Step} {index target : Nat}
    {handle : Handle} (first : Step)
    (issued : (session.step first).1.IssuedBy steps index handle before issuing after target) :
    session.IssuedBy (first :: steps) index handle (first :: before) issuing after target where
  among := by rw [issued.among, List.cons_append]
  directed := issued.directed
  issued := issued.issued
  descends := issued.descends

theorem IssuedBy.snoc {steps before after : List Step} {issuing last : Step}
    {index later target : Nat} {handle : Handle}
    (issued : session.IssuedBy steps index handle before issuing after target)
    (descends : (session.run steps).Descends [last] index later) :
    session.IssuedBy (steps ++ [last]) later handle before issuing (after ++ [last]) target where
  among := by rw [issued.among, List.append_assoc, List.cons_append]
  directed := issued.directed
  issued := issued.issued
  descends := by
    rw [issued.among, run_append] at descends
    exact issued.descends.trans descends

/-- A handle accepted in the end was accepted in the beginning by a graph this one descends from, or
was issued to such a graph on the way. -/
theorem accepted_cases {steps : List Step} (noReplace : ∀ step ∈ steps, step.isReplace = false)
    {index : Nat} {graph : Graph} {handle : Handle}
    (found : (session.run steps).graphs[index]? = some graph) (accepted : graph.Accepts handle) :
    (∃ ancestor early, session.graphs[ancestor]? = some early ∧ early.Accepts handle ∧
        session.Descends steps ancestor index) ∨
      ∃ before step after target,
        session.IssuedBy steps index handle before step after target := by
  induction steps generalizing session with
  | nil => exact .inl ⟨index, graph, found, accepted, .here session index⟩
  | cons first rest ih =>
      have notReplace := noReplace first List.mem_cons_self
      rcases ih (fun later member => noReplace later (List.mem_cons_of_mem _ member)) found with
        ⟨ancestor, early, isEarly, knows, descends⟩ | ⟨before, step, after, target, issued⟩
      · rcases step_graph_cases notReplace isEarly with
          ⟨old, isOld, rfl⟩ | ⟨rfl, ⟨options, _, rfl⟩ | ⟨source, rfl, isSource⟩⟩
        · by_cases known : old.Accepts handle
          · exact .inl ⟨ancestor, old, isOld, known, .stays descends⟩
          · have directed : first.target? = some ancestor := by
              refine Decidable.byContradiction (fun elsewhere => known ?_)
              rwa [changes_other elsewhere, Graph.applyAll_nil] at knows
            exact .inr ⟨[], first, rest, ancestor, rfl, directed,
              issued_of_new isOld directed known knows, descends⟩
        · exact (Graph.not_accepts_empty _ options handle knows).elim
        · obtain ⟨bound, _⟩ := Array.getElem?_eq_some_iff.mp isSource
          exact .inl ⟨source, early, isSource, knows, .copied bound descends⟩
      · exact .inr ⟨first :: before, step, after, target, issued.cons first⟩

theorem mem_issuedAll_iff {steps : List Step} (handle : Handle) :
    handle ∈ session.issuedAll steps ↔
      ∃ before step after, steps = before ++ step :: after ∧
        handle ∈ (session.run before).issued step := by
  induction steps generalizing session with
  | nil => simp [issuedAll]
  | cons first rest ih =>
      rw [issuedAll, List.mem_append, ih]
      constructor
      · rintro (now | ⟨before, step, after, rfl, later⟩)
        · exact ⟨[], first, rest, rfl, now⟩
        · exact ⟨first :: before, step, after, rfl, later⟩
      · rintro ⟨before, step, after, split, issued⟩
        cases before with
        | nil =>
            cases split
            exact .inl issued
        | cons _ before =>
            cases split
            exact .inr ⟨before, step, after, rfl, issued⟩

theorem issuedAll_append (first second : List Step) :
    session.issuedAll (first ++ second) =
      session.issuedAll first ++ (session.run first).issuedAll second := by
  induction first generalizing session with
  | nil => rfl
  | cons step rest ih => simp [issuedAll, ih, run]

theorem nodup_issuedAll {steps : List Step}
    (apart : ∀ before step after, steps = before ++ step :: after →
      ∀ handle ∈ (session.run before).issued step, handle ∉ session.issuedAll before) :
    (session.issuedAll steps).Nodup := by
  induction steps generalizing session with
  | nil => exact .nil
  | cons first rest ih =>
      refine List.nodup_append.mpr ⟨session.nodup_issued first, ?_, ?_⟩
      · apply ih
        intro before step after split handle issued earlier
        exact apart (first :: before) step after (by rw [split]; rfl) handle issued
          (List.mem_append_right _ earlier)
      · rintro handle now _ later rfl
        obtain ⟨before, step, after, split, issued⟩ := (mem_issuedAll_iff handle).mp later
        exact apart (first :: before) step after (by rw [split]; rfl) handle issued
          (List.mem_append_left _ now)

end

end Session

end ExprGraph
