import ExprGraph.Proofs.Session.Evolution

/-!
Chronicles: what the steps of a session and their answers tell about each of its graphs, in order.
A copy of a graph starts with a copy of its chronicle.  Main statements: `chronicled_run`, the
induction for everything that can be read off a chronicle, and `chronicled_of_changes`, for what
single changes keep.
-/

namespace ExprGraph.Session

variable {tell : Session → Step → List α}

def toldAt (tell : Session → Step → List α) (session : Session) (index : Nat) (step : Step) :
    List α :=
  if step.target? = some index then tell session step else []

def note (tell : Session → Step → List α) (session : Session) (chronicles : Array (List α)) :
    Step → Array (List α)
  | .newGraph _ => chronicles.push []
  | .cloneGraph source =>
    match chronicles[source]? with
    | none => chronicles
    | some chronicle => chronicles.push chronicle
  | step =>
    match step.target? with
    | none => chronicles
    | some target => chronicles.modify target (· ++ tell session step)

def chroniclesFrom (tell : Session → Step → List α) (session : Session)
    (chronicles : Array (List α)) : List Step → Array (List α)
  | [] => chronicles
  | step :: rest =>
    (session.step step).1.chroniclesFrom tell (note tell session chronicles step) rest

def chronicles (tell : Session → Step → List α) (steps : List Step) : Array (List α) :=
  start.chroniclesFrom tell #[[]] steps

theorem size_graphs_directed {session : Session} {step : Step} {target : Nat}
    (directed : step.target? = some target) :
    (session.step step).1.graphs.size = session.graphs.size := by
  cases found : session.graphs[target]? with
  | none => rw [step_graphs_missing directed found]
  | some graph => rw [(step_carries directed found).graphs, Array.size_setIfInBounds]

theorem note_directed {session : Session} {chronicles : Array (List α)} {step : Step}
    {target : Nat} (directed : step.target? = some target) :
    note tell session chronicles step = chronicles.modify target (· ++ tell session step) := by
  cases step with
  | newGraph options => cases directed
  | cloneGraph source => cases directed
  | _ => simp only [note, directed]

/-- There is a chronicle for each graph, and it stands in the given relation to it. -/
structure Chronicled (keeps : Graph → List α → Prop) (session : Session)
    (chronicles : Array (List α)) : Prop where
  size : chronicles.size = session.graphs.size
  keeps : ∀ (index : Nat) (graph : Graph), session.graphs[index]? = some graph →
    ∃ chronicle, chronicles[index]? = some chronicle ∧ keeps graph chronicle

section

variable {keeps : Graph → List α → Prop} {session : Session} {chronicles : Array (List α)}

theorem Chronicled.size_note {step : Step} (chronicled : Chronicled keeps session chronicles)
    (notReplace : step.isReplace = false) :
    (note tell session chronicles step).size = (session.step step).1.graphs.size := by
  have same := chronicled.size
  cases directed : step.target? with
  | some target =>
      rw [note_directed directed, Array.size_modify, size_graphs_directed directed]
      exact same
  | none =>
      cases step with
      | newGraph options => simp [note, Session.step, reply, same]
      | cloneGraph source =>
          cases found : session.graphs[source]? with
          | none =>
              have noChronicle : chronicles[source]? = none := by
                rw [Array.getElem?_eq_none_iff] at found ⊢
                omega
              simp only [note, noChronicle, graphs_clone_missing found, same]
          | some graph =>
              obtain ⟨chronicle, isChronicle, _⟩ := chronicled.keeps source graph found
              simp only [note, isChronicle, graphs_clone found, Array.size_push, same]
      | query target query =>
          rcases graphs_undirected session directed notReplace with kept | ⟨_, _, new | copied⟩
          · rw [kept]
            exact same
          · obtain ⟨_, isNew, _⟩ := new
            cases isNew
          · obtain ⟨_, isClone, _⟩ := copied
            cases isClone
      | replace target handle source replacement => cases notReplace
      | handle operand => exact same
      | compareHandles left right => exact same
      | distinctHandles operands => exact same
      | _ => cases directed

theorem note_kept {index : Nat} {chronicle : List α} (step : Step)
    (found : chronicles[index]? = some chronicle) :
    (note tell session chronicles step)[index]? =
      some (chronicle ++ toldAt tell session index step) := by
  obtain ⟨bound, _⟩ := Array.getElem?_eq_some_iff.mp found
  cases directed : step.target? with
  | some target =>
      rw [note_directed directed, Array.getElem?_modify, found]
      by_cases here : target = index
      · simp [toldAt, directed, here]
      · simp [toldAt, directed, here]
  | none =>
      have silent : toldAt tell session index step = [] := by simp [toldAt, directed]
      have pushed : ∀ new, (chronicles.push new)[index]? = some chronicle := by
        intro new
        rw [Array.getElem?_push_lt bound]
        exact (Array.getElem?_eq_getElem bound).symm.trans found
      rw [silent, List.append_nil]
      cases step with
      | newGraph options => exact pushed []
      | cloneGraph source =>
          simp only [note]
          split
          · exact found
          · exact pushed _
      | _ => simpa only [note, directed] using found

theorem Chronicled.step {step : Step}
    (fresh : ∀ id options, keeps { id := id, options := options } [])
    (kept : ∀ index graph chronicle, session.graphs[index]? = some graph → keeps graph chronicle →
      keeps (graph.applyAll (session.changes index graph step))
        (chronicle ++ toldAt tell session index step))
    (chronicled : Chronicled keeps session chronicles) (notReplace : step.isReplace = false) :
    Chronicled keeps (session.step step).1 (note tell session chronicles step) where
  size := chronicled.size_note notReplace
  keeps := by
    intro index after found
    rcases step_graph_cases notReplace found with ⟨graph, before, rfl⟩ | ⟨rfl, new | copied⟩
    · obtain ⟨chronicle, isChronicle, holds⟩ := chronicled.keeps index graph before
      exact ⟨_, note_kept step isChronicle, kept index graph chronicle before holds⟩
    · obtain ⟨options, rfl, rfl⟩ := new
      refine ⟨[], ?_, fresh _ _⟩
      simp [note, ← chronicled.size]
    · obtain ⟨source, rfl, before⟩ := copied
      obtain ⟨chronicle, isChronicle, holds⟩ := chronicled.keeps source after before
      refine ⟨chronicle, ?_, holds⟩
      simp [note, isChronicle, ← chronicled.size]

end

theorem chronicled_start {keeps : Graph → List α → Prop} (fresh : keeps { id := 0 } []) :
    Chronicled keeps start #[[]] where
  size := rfl
  keeps := by
    intro index graph found
    obtain ⟨bound, rfl⟩ := Array.getElem?_eq_some_iff.mp found
    have isFirst : index = 0 := by simpa [start] using bound
    subst isFirst
    exact ⟨[], rfl, fresh⟩

theorem chronicled_run_of_mem {keeps : Graph → List α → Prop} (steps : List Step)
    (fresh : ∀ id options, keeps { id := id, options := options } [])
    (kept : ∀ session, ∀ step ∈ steps, ∀ index graph chronicle,
      session.graphs[index]? = some graph → keeps graph chronicle →
        keeps (graph.applyAll (session.changes index graph step))
          (chronicle ++ toldAt tell session index step))
    (noReplace : ∀ step ∈ steps, step.isReplace = false) :
    Chronicled keeps (start.run steps) (chronicles tell steps) := by
  have run : ∀ (session : Session) (noted : Array (List α)), Chronicled keeps session noted →
      Chronicled keeps (session.run steps) (session.chroniclesFrom tell noted steps) := by
    induction steps with
    | nil => exact fun session noted chronicled => chronicled
    | cons step rest ih =>
        intro session noted chronicled
        have first := chronicled.step fresh (kept session step List.mem_cons_self)
          (noReplace step List.mem_cons_self)
        exact ih (fun session later member => kept session later (List.mem_cons_of_mem _ member))
          (fun later member => noReplace later (List.mem_cons_of_mem _ member)) _ _ first
  exact run start #[[]] (chronicled_start (fresh 0 {}))

/-- What is kept by every step holds of all graphs of all sessions in which no node is replaced. -/
theorem chronicled_run {keeps : Graph → List α → Prop}
    (fresh : ∀ id options, keeps { id := id, options := options } [])
    (kept : ∀ session step index graph chronicle, session.graphs[index]? = some graph →
      keeps graph chronicle → keeps (graph.applyAll (session.changes index graph step))
        (chronicle ++ toldAt tell session index step))
    (steps : List Step) (noReplace : ∀ step ∈ steps, step.isReplace = false) :
    Chronicled keeps (start.run steps) (chronicles tell steps) :=
  chronicled_run_of_mem steps fresh (fun session step _ => kept session step) noReplace

theorem chronicled_of_changes {keeps : Graph → List α → Prop} {told : Graph → Change → List α}
    (fresh : ∀ id options, keeps { id := id, options := options } [])
    (kept : ∀ graph record change, keeps graph record → change.Valid graph →
      keeps (graph.apply change) (record ++ told graph change))
    (agree : ∀ session step index graph, session.graphs[index]? = some graph →
      graph.gather told (session.changes index graph step) = toldAt tell session index step)
    (steps : List Step) (noReplace : ∀ step ∈ steps, step.isReplace = false) :
    Chronicled keeps (start.run steps) (chronicles tell steps) := by
  refine chronicled_run fresh ?_ steps noReplace
  intro session step index graph record found holds
  rw [← agree session step index graph found]
  exact Graph.gather_invariant kept holds _ (changes_valid session index graph step)

section

variable (part : α → List β)

theorem note_flatMap (session : Session) (noted : Array (List α)) (step : Step) :
    note (fun session step => (tell session step).flatMap part) session
        (noted.map (List.flatMap part)) step =
      (note tell session noted step).map (List.flatMap part) := by
  cases directed : step.target? with
  | some target =>
      rw [note_directed directed, note_directed directed]
      apply Array.ext_getElem?
      intro index
      simp only [Array.getElem?_modify, Array.getElem?_map]
      by_cases here : target = index
      · subst here
        cases noted[target]? with
        | none => simp
        | some chronicle => simp [List.flatMap_append]
      · simp [here]
  | none =>
      cases step with
      | newGraph options => simp [note]
      | cloneGraph source =>
          simp only [note, Array.getElem?_map]
          cases noted[source]? with
          | none => rfl
          | some chronicle => simp
      | _ => simp only [note, directed]

theorem chronicles_flatMap (steps : List Step) :
    chronicles (fun session step => (tell session step).flatMap part) steps =
      (chronicles tell steps).map (List.flatMap part) := by
  have run : ∀ (session : Session) (noted : Array (List α)),
      session.chroniclesFrom (fun session step => (tell session step).flatMap part)
          (noted.map (List.flatMap part)) steps =
        (session.chroniclesFrom tell noted steps).map (List.flatMap part) := by
    induction steps with
    | nil => exact fun session noted => rfl
    | cons step rest ih =>
        intro session noted
        rw [chroniclesFrom, note_flatMap, ih, chroniclesFrom]
  rw [chronicles, chronicles, ← run, List.map_toArray]
  rfl

end

end ExprGraph.Session
