import ExprGraph.Binary64.Text
import ExprGraph.DataType
import ExprGraph.Opcode

/-!
Immediates: the scalar an `imm`, `index` or `cmp` node carries.  Constants come as 32-bit integers
or floats and are held in 64 bits, which represent every one of them exactly.
-/

namespace ExprGraph

inductive Immediate where
  | int (value : Int64)
  | float (value : Binary64)
  | cmp (kind : Comparison)
  deriving DecidableEq

namespace Immediate

def kindName : Immediate → String
  | int _ => "int"
  | float _ => "float"
  | cmp _ => "cmp"

def int? : Immediate → Option Int64
  | int value => some value
  | _ => none

def float? : Immediate → Option Binary64
  | float value => some value
  | _ => none

def cmp? : Immediate → Option Comparison
  | cmp kind => some kind
  | _ => none

def numericallyEqual : Immediate → Immediate → Bool
  | int left, int right => left == right
  | float left, float right => left.numericallyEqual right
  | cmp left, cmp right => left == right
  | _, _ => false

def text : Immediate → String
  | int value => toString value.toInt
  | float value => value.text
  | cmp kind => kind.name

end Immediate

inductive Constant where
  | int32 (value : Int32)
  | float32 (value : Binary32)
  deriving DecidableEq

namespace Constant

def dataType : Constant → DataType
  | int32 _ => .int32
  | float32 _ => .float32

def immediate : Constant → Immediate
  | int32 value => .int value.toInt64
  | float32 value => .float value.widen

end Constant

end ExprGraph
