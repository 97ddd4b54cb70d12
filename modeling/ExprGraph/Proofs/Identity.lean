import ExprGraph.Proofs.Session.Origin

/-!
When handles identify nodes.  A copy keeps the identity of its original, so that it goes on
accepting the handles issued before; if both get nodes of their own afterwards, the same handles are
issued again for others.  So they are once the identities of new graphs repeat.  Main statements:
`identified_iff_undiverged`, and `undiverged_of_no_copies`.
-/

namespace ExprGraph.Session

/-- The step adds nodes to a graph while another one of its identity has more nodes: the original, a
copy, or a graph made since all identities were given out. -/
def Diverges (session : Session) (step : Step) : Prop :=
  session.issued step ≠ [] ∧
    ∃ target graph, step.target? = some target ∧ session.graphs[target]? = some graph ∧
      ∃ other ∈ session.graphs, other.id = graph.id ∧ graph.size < other.size

def Undiverged (steps : List Step) : Prop :=
  ∀ before step after, steps = before ++ step :: after → ¬ (start.run before).Diverges step

def Resolves (session : Session) (index : Nat) (handle : Handle) (node : Node) : Prop :=
  ∃ graph, session.graphs[index]? = some graph ∧ graph.lookup handle = .ok node

/-- The node is what has become of the one the step added when it issued the handle, in the graph it
was added to or in one that descends from it. -/
structure AddedBy (steps : List Step) (index : Nat) (handle : Handle) (node : Node)
    (before : List Step) (step : Step) (after : List Step) (target : Nat) : Prop where
  issuedBy : start.IssuedBy steps index handle before step after target
  became : ∃ added, ((start.run before).step step).1.Resolves target handle added ∧
    added.Became node

def Traced (steps : List Step) : Prop :=
  ∀ index handle node, (start.run steps).Resolves index handle node →
    ∃ before step after target, AddedBy steps index handle node before step after target

def Identified (steps : List Step) : Prop :=
  ∀ index handle node, (start.run steps).Resolves index handle node →
    ∀ before step after target, steps = before ++ step :: after → step.target? = some target →
      handle ∈ (start.run before).issued step →
        AddedBy steps index handle node before step after target

theorem diverges_iff (session : Session) (step : Step) :
    session.Diverges step ↔
      ∃ handle ∈ session.issued step, ∃ other ∈ session.graphs, other.Accepts handle := by
  constructor
  · rintro ⟨issues, target, graph, directed, found, other, member, sameId, larger⟩
    obtain ⟨handle, issued⟩ := List.exists_mem_of_ne_nil _ issues
    obtain ⟨_, _, after, directedAgain, foundAgain, foundAfter, continues, isNew, accepted⟩ :=
      (mem_issued_iff handle).mp issued
    obtain rfl := Option.some.inj (directed.symm.trans directedAgain)
    obtain rfl := Option.some.inj (found.symm.trans foundAgain)
    obtain ⟨position, above, below, _⟩ := continues.position_of_new isNew accepted
    -- The first handle issued is one the larger graph has got already.
    have nextAccepted := Graph.accepts_next_of_size_lt continues.id (by omega)
    exact ⟨graph.next, (mem_issued_iff _).mpr ⟨target, graph, after, directed, found, foundAfter,
      continues, graph.not_accepts_next, nextAccepted⟩, other, member,
      Graph.accepts_next_of_size_lt sameId larger⟩
  · rintro ⟨handle, issued, other, member, known⟩
    obtain ⟨target, graph, after, directed, found, _, continues, isNew, accepted⟩ :=
      (mem_issued_iff handle).mp issued
    obtain ⟨position, above, _, rfl⟩ := continues.position_of_new isNew accepted
    obtain ⟨place, bound, same⟩ := (Graph.accepts_iff _ _).mp known
    obtain ⟨sameId, rfl⟩ := Handle.ref.inj same
    exact ⟨List.ne_nil_of_mem issued, target, graph, directed, found, other, member, sameId.symm,
      by omega⟩

section

variable {steps before after : List Step} {step : Step} {handle : Handle}

theorem noReplace_of_split (noReplace : ∀ step ∈ steps, step.isReplace = false)
    (split : steps = before ++ step :: after) :
    (∀ step ∈ before, step.isReplace = false) ∧ step.isReplace = false ∧
      ∀ step ∈ after, step.isReplace = false := by
  subst split
  simpa [or_imp, forall_and] using noReplace

theorem issuedBy_of_accepted (noReplace : ∀ step ∈ steps, step.isReplace = false) {index : Nat}
    {graph : Graph} (found : (start.run steps).graphs[index]? = some graph)
    (accepted : graph.Accepts handle) :
    ∃ before step after target, start.IssuedBy steps index handle before step after target := by
  rcases accepted_cases noReplace found accepted with ⟨ancestor, early, isEarly, known, _⟩ | issued
  · have nothing : ¬ early.Accepts handle :=
      graphs_start (P := fun graph => ¬ graph.Accepts handle)
        (Graph.not_accepts_empty 0 {} handle) early (Array.mem_of_getElem? isEarly)
    exact (nothing known).elim
  · exact issued

theorem mem_issuedAll_start_iff (noReplace : ∀ step ∈ steps, step.isReplace = false) :
    handle ∈ start.issuedAll steps ↔ ∃ graph ∈ (start.run steps).graphs, graph.Accepts handle := by
  constructor
  · intro issued
    obtain ⟨before, step, after, split, isIssued⟩ := (mem_issuedAll_iff handle).mp issued
    obtain ⟨target, graph, grown, _, _, foundAfter, _, _, accepted⟩ :=
      (mem_issued_iff handle).mp isIssued
    obtain ⟨_, _, notLater⟩ := noReplace_of_split noReplace split
    obtain ⟨later, foundLater, continues⟩ :=
      (Descends.self _ after target).continues notLater foundAfter
    rw [split, run_append]
    exact ⟨later, Array.mem_of_getElem? foundLater, continues.accepts accepted⟩
  · rintro ⟨graph, member, accepted⟩
    obtain ⟨index, found⟩ := Array.mem_iff_getElem?.mp member
    obtain ⟨before, step, after, target, issued⟩ := issuedBy_of_accepted noReplace found accepted
    exact (mem_issuedAll_iff handle).mpr ⟨before, step, after, issued.among, issued.issued⟩

theorem traced (noReplace : ∀ step ∈ steps, step.isReplace = false) : Traced steps := by
  rintro index handle node ⟨graph, found, isNode⟩
  obtain ⟨before, step, after, target, issuedBy⟩ :=
    issuedBy_of_accepted noReplace found ⟨node, isNode⟩
  obtain ⟨_, _, issuer, directed, _, isIssuer, _, _, added, isAdded⟩ :=
    (mem_issued_iff handle).mp issuedBy.issued
  obtain rfl := Option.some.inj (directed.symm.trans issuedBy.directed)
  obtain ⟨_, _, notLater⟩ := noReplace_of_split noReplace issuedBy.among
  obtain ⟨later, foundLater, continues⟩ := issuedBy.descends.continues notLater isIssuer
  rw [issuedBy.among, run_append] at found
  obtain rfl := Option.some.inj (found.symm.trans foundLater)
  obtain ⟨now, isNow, became⟩ := continues.nodes handle added isAdded
  obtain rfl := Except.ok.inj (isNode.symm.trans isNow)
  exact ⟨before, step, after, _, issuedBy, added, ⟨issuer, isIssuer, isAdded⟩, became⟩

theorem undiverged_iff (noReplace : ∀ step ∈ steps, step.isReplace = false) :
    Undiverged steps ↔ ∀ before step after, steps = before ++ step :: after →
      ∀ handle ∈ (start.run before).issued step, handle ∉ start.issuedAll before := by
  have stepwise : ∀ before step after, steps = before ++ step :: after →
      (¬ (start.run before).Diverges step ↔
        ∀ handle ∈ (start.run before).issued step, handle ∉ start.issuedAll before) := by
    intro before step after split
    obtain ⟨notBefore, _⟩ := noReplace_of_split noReplace split
    simp [diverges_iff, mem_issuedAll_start_iff notBefore]
  constructor
  · intro undiverged before step after split
    exact (stepwise before step after split).mp (undiverged before step after split)
  · intro apart before step after split
    exact (stepwise before step after split).mpr (apart before step after split)

/-- Without copies, and before identities repeat, every graph has an identity of its own. -/
theorem undiverged_of_no_copies (noReplace : ∀ step ∈ steps, step.isReplace = false)
    (noCopies : ∀ source, .cloneGraph source ∉ steps)
    (few : steps.countP Step.founds < UInt32.size) : Undiverged steps := by
  rintro before step after rfl ⟨_, target, graph, _, found, other, member, sameId, larger⟩
  obtain ⟨index, isOther⟩ := Array.mem_iff_getElem?.mp member
  obtain ⟨notBefore, _⟩ := noReplace_of_split noReplace rfl
  rw [List.countP_append] at few
  obtain ⟨first, rest, origin, stems, stemsToo⟩ :=
    (sameId_iff notBefore (by omega) isOther found).mp sameId
  have noneLater : ∀ source, .cloneGraph source ∉ rest := by
    intro source isCopy
    refine noCopies source (List.mem_append_left _ ?_)
    rw [stems.among]
    exact List.mem_append_right _ isCopy
  have sameIndex := (stems.descends.eq_of_no_copies noneLater).trans
    (stemsToo.descends.eq_of_no_copies noneLater).symm
  rw [sameIndex, found] at isOther
  obtain rfl := Option.some.inj isOther
  exact Nat.lt_irrefl _ larger

theorem nodup_issuedAll_iff (noReplace : ∀ step ∈ steps, step.isReplace = false) :
    (start.issuedAll steps).Nodup ↔ Undiverged steps := by
  rw [undiverged_iff noReplace]
  constructor
  · intro nodup before step after split handle issued earlier
    rw [split, issuedAll_append, issuedAll] at nodup
    exact (List.nodup_append.mp nodup).2.2 handle earlier handle (List.mem_append_left _ issued) rfl
  · exact nodup_issuedAll

theorem Undiverged.not_issued_again {between : List Step} {other : Step}
    (undiverged : Undiverged steps) (noReplace : ∀ step ∈ steps, step.isReplace = false)
    (split : steps = (before ++ step :: between) ++ other :: after)
    (issued : handle ∈ (start.run before).issued step) :
    handle ∉ (start.run (before ++ step :: between)).issued other := by
  intro again
  have earlier : handle ∈ start.issuedAll (before ++ step :: between) :=
    (mem_issuedAll_iff handle).mpr ⟨before, step, between, rfl, issued⟩
  exact (undiverged_iff noReplace).mp undiverged _ other after split handle again earlier

theorem Undiverged.issued_once {otherBefore otherAfter : List Step} {other : Step}
    (undiverged : Undiverged steps) (noReplace : ∀ step ∈ steps, step.isReplace = false)
    (split : steps = before ++ step :: after)
    (otherSplit : steps = otherBefore ++ other :: otherAfter)
    (issued : handle ∈ (start.run before).issued step)
    (otherIssued : handle ∈ (start.run otherBefore).issued other) :
    before = otherBefore ∧ step = other ∧ after = otherAfter := by
  rcases List.append_eq_append_iff.mp (split.symm.trans otherSplit) with
    ⟨between, rfl, rest⟩ | ⟨between, rfl, rest⟩
  · cases between with
    | nil =>
        obtain ⟨rfl, rfl⟩ := List.cons.inj rest
        exact ⟨(List.append_nil _).symm, rfl, rfl⟩
    | cons first between =>
        obtain ⟨rfl, _⟩ := List.cons.inj rest
        exact (undiverged.not_issued_again noReplace otherSplit issued otherIssued).elim
  · cases between with
    | nil =>
        obtain ⟨rfl, rfl⟩ := List.cons.inj rest
        exact ⟨List.append_nil _, rfl, rfl⟩
    | cons first between =>
        obtain ⟨rfl, _⟩ := List.cons.inj rest
        exact (undiverged.not_issued_again noReplace split otherIssued issued).elim

theorem identified_iff (noReplace : ∀ step ∈ steps, step.isReplace = false) :
    Identified steps ↔ Undiverged steps := by
  constructor
  · intro identified before step after split diverges
    obtain ⟨notBefore, notReplace, notLater⟩ := noReplace_of_split noReplace split
    obtain ⟨handle, issued, other, member, known⟩ := (diverges_iff _ _).mp diverges
    obtain ⟨target, graph, _, directed, found, _, _, isNew, _⟩ := (mem_issued_iff handle).mp issued
    obtain ⟨index, isOther⟩ := Array.mem_iff_getElem?.mp member
    obtain ⟨later, foundLater, continues⟩ :=
      (Descends.self (start.run before) (step :: after) index).continues
        (by simpa [notReplace] using notLater) isOther
    obtain ⟨node, isNode⟩ := continues.accepts known
    have resolves : (start.run steps).Resolves index handle node := by
      rw [split, run_append]
      exact ⟨later, foundLater, isNode⟩
    have descends := (identified index handle node resolves before step after target split directed
      issued).issuedBy.descends
    rcases descends.eq_or_le notLater with rfl | above
    · obtain rfl := Option.some.inj (found.symm.trans isOther)
      exact isNew known
    · obtain ⟨bound, _⟩ := Array.getElem?_eq_some_iff.mp isOther
      have grown := (start.run before).size_graphs_le notReplace
      omega
  · intro undiverged index handle node resolves before step after target split directed issued
    obtain ⟨_, _, _, _, addedBy⟩ := traced noReplace index handle node resolves
    obtain ⟨rfl, rfl, rfl⟩ := undiverged.issued_once noReplace split addedBy.issuedBy.among issued
      addedBy.issuedBy.issued
    obtain rfl := Option.some.inj (directed.symm.trans addedBy.issuedBy.directed)
    exact addedBy

end

/-- In a session without replaced nodes every node a handle resolves to goes back to a step that
issued the handle; handles are issued only once, and say which step it was, exactly when no graph
gets nodes while another one of its identity has more. -/
theorem identified_iff_undiverged (steps : List Step)
    (noReplace : ∀ step ∈ steps, step.isReplace = false) :
    Traced steps ∧ ((start.issuedAll steps).Nodup ↔ Undiverged steps) ∧
      (Identified steps ↔ Undiverged steps) :=
  ⟨traced noReplace, nodup_issuedAll_iff noReplace, identified_iff noReplace⟩

def divergingCopies : List Step :=
  [.construct 0 (.addr ⟨"x", .float32, 0⟩) (some "a"),
    .cloneGraph 0,
    .construct 0 (.index 7) (some "i"),
    .construct 1 (.constant (.int32 3)) (some "c")]

theorem divergingCopies_confused :
    start.issuedAll divergingCopies = [.ref 0 0, .ref 0 1, .ref 0 1] ∧
      (start.run divergingCopies).graphs.toList.map (fun graph => graph.opcode (.ref 0 1)) =
        [.ok .index, .ok .imm] :=
  ⟨by decide +kernel, rfl⟩

theorem not_always_identified :
    ¬ ∀ steps : List Step, (∀ step ∈ steps, step.isReplace = false) →
      (start.issuedAll steps).Nodup ∧ Identified steps := by
  intro always
  have nodup := (always divergingCopies (by decide)).1
  rw [divergingCopies_confused.1] at nodup
  simp at nodup

theorem divergingCopies_not_identified :
    (∀ step ∈ divergingCopies, step.isReplace = false) ∧ Traced divergingCopies ∧
      ¬ Undiverged divergingCopies ∧ ¬ Identified divergingCopies := by
  obtain ⟨isTraced, nodup, identified⟩ := identified_iff_undiverged divergingCopies (by decide)
  have diverged : ¬ Undiverged divergingCopies := by
    rw [← nodup, divergingCopies_confused.1]
    simp
  exact ⟨by decide, isTraced, diverged, fun isIdentified => diverged (identified.mp isIdentified)⟩

def recycling (count : Nat) : List Step :=
  .construct 0 (.index 7) none :: (List.replicate count (.newGraph {}) ++
    [.construct count (.constant (.int32 3)) none])

theorem run_founding (session : Session) (options : Options) (count : Nat) :
    (session.run (List.replicate count (.newGraph options))).graphs.size =
      session.graphs.size + count := by
  induction count generalizing session with
  | zero => rfl
  | succ count ih =>
      refine (ih (session.step (.newGraph options)).1).trans ?_
      simp only [step, reply, Array.size_push]
      omega

theorem founding_last (session : Session) (options : Options) (count : Nat) :
    (session.run (List.replicate (count + 1) (.newGraph options))).graphs[
        session.graphs.size + count]? =
      some { id := session.nextId + .ofNat count, options := options } := by
  rw [List.replicate_succ', run_append, ← run_founding session options count]
  refine Array.getElem?_push_size.trans ?_
  rw [nextId_run, List.countP_replicate]
  rfl

/-- Once the identities are used up, a new graph issues the handles of the first one again. -/
theorem recycling_reissues (count : Nat) (usedUp : count + 1 = UInt32.size) :
    ¬ (start.issuedAll (recycling (count + 1))).Nodup := by
  have noReplace : ∀ step ∈ recycling (count + 1), step.isReplace = false := by
    simp [recycling, Step.isReplace, or_imp, forall_and]
  let named := (start.step (.construct 0 (.index 7) none)).1
  let founding : List Step := List.replicate (count + 1) (.newGraph {})
  have isLast : (named.run founding).graphs[count + 1]? = some { id := 0 } := by
    have last := founding_last named {} count
    have wrapped : (1 : UInt32) + .ofNat count = 0 := by
      refine (UInt32.ofNat_add 1 count).symm.trans ?_
      rw [Nat.add_comm, usedUp]
      rfl
    rwa [show named.graphs.size = 1 from rfl, show named.nextId = 1 from rfl, wrapped,
      Nat.add_comm 1] at last
  rw [nodup_issuedAll_iff noReplace]
  intro undiverged
  refine undiverged (.construct 0 (.index 7) none :: founding) _ [] rfl
    ((diverges_iff _ _).mpr ⟨.ref 0 0, ?_, ?_⟩)
  · apply issued_of_new isLast rfl (Graph.not_accepts_empty 0 {} _)
    simp only [changes, Step.target?, if_true]
    exact Graph.accepts_add_new { id := 0 } _
  · have known : ∃ first, named.graphs[0]? = some first ∧ first.Accepts (.ref 0 0) :=
      ⟨_, rfl, _, rfl⟩
    obtain ⟨first, isFirst, accepted⟩ := known
    obtain ⟨later, isLater, continues⟩ := (Descends.self named founding 0).continues
      (by simp [founding, Step.isReplace]) isFirst
    exact ⟨later, Array.mem_of_getElem? isLater, continues.accepts accepted⟩

end ExprGraph.Session
