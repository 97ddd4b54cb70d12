import ExprGraph.DataType
import ExprGraph.Opcode

/-!
Faults: the ways in which a request to a graph can be wrong, with their wording and their codes.
-/

namespace ExprGraph

inductive Fault where
  | typeMismatch (opcode : Opcode) (left right : DataType)
  | opcodeMismatch (expected : List Opcode) (found : Opcode)
  | arityMismatch (opcode : Opcode) (arity : Arity) (found : Nat)
  | childOutOfRange (index size : Nat)
  | emptyHandle
  | unknownNode
  | brokenAddressChain (reason : String)
  | unboundAddress
  | immediateRequired (opcode : Opcode) (builder : String)
  | immediateMismatch (expected found : String)
  deriving DecidableEq

namespace Fault

def message : Fault → String
  | typeMismatch opcode left right =>
    "Type mismatch in `" ++ opcode.name ++ "`: left operand is " ++ left.name ++
      ", right operand is " ++ right.name
  | opcodeMismatch expected found =>
    "Expected a `" ++ String.intercalate "` or `" (expected.map Opcode.name) ++
      "` node, found `" ++ found.name ++ "`"
  | arityMismatch opcode arity found =>
    "`" ++ opcode.name ++ "` takes " ++ arity.text ++ " children, got " ++ toString found
  | childOutOfRange index size =>
    "Child index " ++ toString index ++ " is out of range for a node with " ++ toString size ++
      " children"
  | emptyHandle => "Expression does not reference a node"
  | unknownNode => "Expression references a node that is not part of this graph"
  | brokenAddressChain reason => "Broken pointer chain: " ++ reason
  | unboundAddress => "Address node has not been bound to a location"
  | immediateRequired opcode builder =>
    "`" ++ opcode.name ++ "` nodes carry an immediate and are built with `Graph::" ++ builder ++ "`"
  | immediateMismatch expected found =>
    "Expected a " ++ expected ++ " immediate, found " ++ found

def code : Fault → String
  | typeMismatch _ _ _ => "tlang_ir::type_mismatch"
  | opcodeMismatch _ _ => "tlang_ir::opcode_mismatch"
  | arityMismatch _ _ _ => "tlang_ir::arity_mismatch"
  | childOutOfRange _ _ => "tlang_ir::child_out_of_range"
  | emptyHandle => "tlang_ir::empty_expr"
  | unknownNode => "tlang_ir::unknown_node"
  | brokenAddressChain _ => "tlang_ir::broken_address_chain"
  | unboundAddress => "tlang_ir::unbound_address"
  | immediateRequired _ _ => "tlang_ir::immediate_required"
  | immediateMismatch _ _ => "tlang_ir::immediate_mismatch"

end Fault

end ExprGraph
