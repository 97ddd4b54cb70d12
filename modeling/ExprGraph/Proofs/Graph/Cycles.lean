import ExprGraph.Proofs.Graph.Closure
import ExprGraph.Proofs.Graph.Plan

/-!
Cycles under changes.  A new node has no parents, so no cycle goes through it, and of the edits only
a collected store adds an edge.  Main statement: `acyclic_store_iff`, which says when a store leaves
a graph without cycles.
-/

namespace ExprGraph

def Change.Collects : Change → Prop
  | .edit _ (.collect _) => True
  | _ => False

namespace Graph

variable {graph : Graph}

theorem Edge.apply {parent child : Handle} (edge : graph.Edge parent child) (change : Change) :
    (graph.apply change).Edge parent child := by
  obtain ⟨old, found, member⟩ := edge
  obtain ⟨node, foundAfter, kept | ⟨edit, _, edited⟩⟩ := lookup_apply_of_ok change found
  · rw [kept] at foundAfter
    exact ⟨old, foundAfter, member⟩
  · rw [edited] at foundAfter
    exact ⟨_, foundAfter, edit.mem_children_apply member⟩

theorem Reaches.apply {first last : Handle} (reached : graph.Reaches first last)
    (change : Change) : (graph.apply change).Reaches first last := by
  induction reached with
  | refl handle => exact .refl handle
  | step edge _ ih => exact .step (edge.apply change) ih

theorem Acyclic.of_apply {change : Change} (acyclic : (graph.apply change).Acyclic) :
    graph.Acyclic := by
  intro parent child edge back
  exact acyclic parent child (edge.apply change) (back.apply change)

theorem edge_apply_cases {change : Change} {parent child : Handle}
    (edge : (graph.apply change).Edge parent child) :
    graph.Edge parent child ∨
      (∃ cause draft, change = .add cause draft ∧ parent = graph.next ∧
        child ∈ draft.children) ∨
      change = .edit parent (.collect child) := by
  obtain ⟨node, found, member⟩ := edge
  rcases lookup_apply_cases found with old | added | edited
  · exact .inl ⟨node, old, member⟩
  · obtain ⟨cause, draft, rfl, isNext, rfl⟩ := added
    exact .inr (.inl ⟨cause, draft, rfl, isNext, member⟩)
  · obtain ⟨edit, old, rfl, before, rfl⟩ := edited
    rcases edit.children_apply_cases member with kept | rfl
    · exact .inl ⟨old, before, kept⟩
    · exact .inr (.inr rfl)

theorem Closed.reaches_of_add (closed : graph.Closed) {cause : Cause} {draft : Draft}
    {first last : Handle} (accepted : graph.Accepts first)
    (reached : (graph.apply (.add cause draft)).Reaches first last) : graph.Reaches first last := by
  induction reached with
  | refl handle => exact .refl handle
  | step edge _ ih =>
      rcases edge_apply_cases edge with old | ⟨_, _, _, rfl, _⟩ | isEdit
      · exact .step old (ih (closed.accepts_child old))
      · exact (graph.not_accepts_next accepted).elim
      · cases isEdit

theorem Closed.not_reaches_next (closed : graph.Closed) {cause : Cause} {draft : Draft}
    {first : Handle} (accepted : graph.Accepts first) :
    ¬ (graph.apply (.add cause draft)).Reaches first graph.next := by
  intro reached
  have before := closed.reaches_of_add accepted reached
  exact graph.not_accepts_next (closed.accepts_reached accepted before)

theorem Closed.acyclic_add (closed : graph.Closed) {cause : Cause} {draft : Draft}
    (accepted : ∀ child ∈ draft.children, graph.Accepts child) (acyclic : graph.Acyclic) :
    (graph.apply (.add cause draft)).Acyclic := by
  intro parent child edge back
  rcases edge_apply_cases edge with old | ⟨_, _, isAdd, rfl, member⟩ | isEdit
  · exact acyclic parent child old (closed.reaches_of_add (closed.accepts_child old) back)
  · cases isAdd
    exact closed.not_reaches_next (accepted child member) back
  · cases isEdit

/-- A path after a store was collected is an old one, or goes from its start to the root and from
the store to its end. -/
theorem reaches_collect_cases {root store first last : Handle}
    (reached : (graph.apply (.edit root (.collect store))).Reaches first last) :
    graph.Reaches first last ∨ graph.Reaches first root ∧ graph.Reaches store last := by
  induction reached with
  | refl handle => exact .inl (.refl handle)
  | step edge _ ih =>
      rcases edge_apply_cases edge with old | ⟨_, _, isAdd, _, _⟩ | isEdit
      · rcases ih with direct | ⟨toRoot, fromStore⟩
        · exact .inl (.step old direct)
        · exact .inr ⟨.step old toRoot, fromStore⟩
      · cases isAdd
      · cases isEdit
        rcases ih with direct | ⟨_, fromStore⟩
        · exact .inr ⟨.refl root, direct⟩
        · exact .inr ⟨.refl root, fromStore⟩

theorem acyclic_collect_iff {root : Handle} (store : Handle) (accepted : graph.Accepts root) :
    (graph.apply (.edit root (.collect store))).Acyclic ↔
      graph.Acyclic ∧ ¬ graph.Reaches store root := by
  constructor
  · intro acyclic
    refine ⟨acyclic.of_apply, ?_⟩
    intro reached
    obtain ⟨node, found⟩ := accepted
    have isLast : store ∈ ((Edit.collect store).apply node).children := by
      simp [Edit.apply]
    exact acyclic root store ⟨_, lookup_edit_same _ found, isLast⟩ (reached.apply _)
  · rintro ⟨acyclic, apart⟩ parent child edge back
    -- The edge and the path back are each an old one, or go over the new edge.
    have closing : graph.Edge parent child ∨
        graph.Reaches parent root ∧ graph.Reaches store child := by
      rcases edge_apply_cases edge with old | ⟨_, _, isAdd, _, _⟩ | isEdit
      · exact .inl old
      · cases isAdd
      · cases isEdit
        exact .inr ⟨.refl root, .refl store⟩
    rcases closing with old | ⟨toRoot, fromStore⟩
    · rcases reaches_collect_cases back with direct | ⟨toRoot, fromStore⟩
      · exact acyclic parent child old direct
      · exact apart (fromStore.trans (.step old toRoot))
    · rcases reaches_collect_cases back with direct | ⟨again, _⟩
      · exact apart (fromStore.trans (direct.trans toRoot))
      · exact apart (fromStore.trans again)

theorem acyclic_edit {handle : Handle} {edit : Edit}
    (noEdge : ¬ (Change.edit handle edit).Collects) (acyclic : graph.Acyclic) :
    (graph.apply (.edit handle edit)).Acyclic := by
  have sameEdge : ∀ {parent child}, (graph.apply (.edit handle edit)).Edge parent child →
      graph.Edge parent child := by
    intro parent child edge
    rcases edge_apply_cases edge with old | ⟨_, _, isAdd, _, _⟩ | isEdit
    · exact old
    · cases isAdd
    · cases isEdit
      exact (noEdge trivial).elim
  intro parent child edge back
  refine acyclic parent child (sameEdge edge) ?_
  clear edge
  induction back with
  | refl handle => exact .refl handle
  | step edge _ ih => exact .step (sameEdge edge) ih

theorem Closed.acyclic_apply_iff (closed : graph.Closed) {change : Change}
    (valid : change.Valid graph) (noEdge : ¬ change.Collects) :
    (graph.apply change).Acyclic ↔ graph.Acyclic := by
  constructor
  · exact Acyclic.of_apply
  · intro acyclic
    cases change with
    | add cause draft => exact closed.acyclic_add valid.1 acyclic
    | edit handle edit => exact acyclic_edit noEdge acyclic
    | restart =>
        have sameLookup : ∀ handle, (graph.apply .restart).lookup handle = graph.lookup handle :=
          graph.lookup_numbering _
        intro parent child edge back
        refine acyclic parent child (by simpa only [Edge, sameLookup] using edge) ?_
        clear edge
        induction back with
        | refl handle => exact .refl handle
        | step edge _ ih => exact .step (by simpa only [Edge, sameLookup] using edge) ih

theorem Closed.acyclic_applyAll_iff (closed : graph.Closed) {changes : List Change}
    (valid : graph.ValidAll changes) (noEdge : ∀ change ∈ changes, ¬ change.Collects) :
    (graph.applyAll changes).Acyclic ↔ graph.Acyclic := by
  induction changes generalizing graph with
  | nil => exact Iff.rfl
  | cons change rest ih =>
      have first := closed.acyclic_apply_iff valid.1 (noEdge change List.mem_cons_self)
      have later := ih (closed.apply valid.1) valid.2
        (fun other member => noEdge other (List.mem_cons_of_mem _ member))
      exact later.trans first

theorem Closed.next_reaches_iff (closed : graph.Closed) {cause : Cause} {draft : Draft}
    {last : Handle} (accepted : ∀ child ∈ draft.children, graph.Accepts child)
    (known : graph.Accepts last) :
    (graph.apply (.add cause draft)).Reaches graph.next last ↔
      ∃ child ∈ draft.children, graph.Reaches child last := by
  constructor
  · intro reached
    cases reached with
    | refl => exact (graph.not_accepts_next known).elim
    | step edge rest =>
        rcases edge_apply_cases edge with old | ⟨_, _, isAdd, _, member⟩ | isEdit
        · exact (graph.not_accepts_next old.accepts_parent).elim
        · cases isAdd
          exact ⟨_, member, closed.reaches_of_add (accepted _ member) rest⟩
        · cases isEdit
  · rintro ⟨child, member, reached⟩
    exact .step ⟨_, lookup_add_new graph draft, member⟩ (reached.apply _)

/-- A store leaves a graph without cycles exactly when nothing stored reaches the root. -/
theorem Closed.acyclic_store_iff (closed : graph.Closed) (cause : Cause) {draft : Draft}
    {root : Handle} (accepted : ∀ child ∈ draft.children, graph.Accepts child)
    (known : graph.Accepts root) :
    (graph.applyAll [.add cause draft, .edit root (.collect graph.next)]).Acyclic ↔
      graph.Acyclic ∧ ∀ child ∈ draft.children, ¬ graph.Reaches child root := by
  have collected := acyclic_collect_iff graph.next (known.apply (.add cause draft))
  rw [closed.next_reaches_iff accepted known] at collected
  constructor
  · intro acyclic
    obtain ⟨before, apart⟩ := collected.mp acyclic
    exact ⟨before.of_apply, fun child member reached => apart ⟨child, member, reached⟩⟩
  · rintro ⟨acyclic, apart⟩
    apply collected.mpr
    refine ⟨closed.acyclic_add accepted acyclic, ?_⟩
    rintro ⟨child, member, reached⟩
    exact apart child member reached

theorem Closed.acyclic_storeFirst_iff (closed : graph.Closed) {made written : Cause}
    {first second : Draft} (valid : (Change.add made first).Valid graph)
    (accepted : ∀ child ∈ second.children, graph.Accepts child) :
    (graph.applyAll [.add made first, .add written second,
      .edit graph.next (.collect (graph.add first).next)]).Acyclic ↔ graph.Acyclic := by
  have known : (graph.apply (.add made first)).Accepts graph.next := accepts_add_new graph first
  have acceptedAfter : ∀ child ∈ second.children, (graph.apply (.add made first)).Accepts child :=
    fun child member => (accepted child member).apply _
  have apart : ∀ child ∈ second.children,
      ¬ (graph.apply (.add made first)).Reaches child graph.next :=
    fun child member => closed.not_reaches_next (accepted child member)
  have added := closed.acyclic_apply_iff valid (fun isEdit => isEdit)
  have stored := (closed.apply valid).acyclic_store_iff written acceptedAfter known
  constructor
  · intro acyclic
    exact added.mp (stored.mp acyclic).1
  · intro acyclic
    exact stored.mpr ⟨added.mpr acyclic, apart⟩

end Graph

end ExprGraph
