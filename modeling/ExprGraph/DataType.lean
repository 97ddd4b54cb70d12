/-!
Element types: the scalar kinds a node or a buffer element can have, in their fixed order.
`unknown` is the one type without a name, so looking a name up never returns it.
-/

namespace ExprGraph

inductive DataType where
  | float16 | float32 | float64
  | int8 | int16 | int32 | int64
  | uint8 | uint16 | uint32 | uint64
  | unknown
  deriving DecidableEq, Ord

namespace DataType

def all : List DataType :=
  [float16, float32, float64, int8, int16, int32, int64, uint8, uint16, uint32, uint64, unknown]

def name : DataType → String
  | float16 => "float16"
  | float32 => "float32"
  | float64 => "float64"
  | int8 => "int8"
  | int16 => "int16"
  | int32 => "int32"
  | int64 => "int64"
  | uint8 => "uint8"
  | uint16 => "uint16"
  | uint32 => "uint32"
  | uint64 => "uint64"
  | unknown => ""

def tag : DataType → String
  | float16 => "F16"
  | float32 => "F32"
  | float64 => "F64"
  | int8 => "I8"
  | int16 => "I16"
  | int32 => "I32"
  | int64 => "I64"
  | uint8 => "U8"
  | uint16 => "U16"
  | uint32 => "U32"
  | uint64 => "U64"
  | unknown => "Unknown"

def ofName? (text : String) : Option DataType :=
  if text = "" then none else all.find? (fun dataType => dataType.name == text)

theorem name_injective {left right : DataType} (same : left.name = right.name) :
    left = right := by
  revert same
  cases left <;> cases right <;> decide

end DataType

end ExprGraph
