/-!
The closed set of operations, the number of children each is built with, and the two families of
sub-kinds: comparisons, and the two-operand operations that share one typing rule.
-/

namespace ExprGraph

inductive Arity where
  | exactly (count : Nat)
  | between (least most : Nat)
  | any
  deriving DecidableEq

namespace Arity

def accepts : Arity → Nat → Bool
  | exactly count, size => size == count
  | between least most, size => decide (least ≤ size) && decide (size ≤ most)
  | any, _ => true

def text : Arity → String
  | exactly count => toString count
  | between least most => toString least ++ "..=" ++ toString most
  | any => "any number of"

end Arity

inductive Opcode where
  | mul | add | sub | div | mod
  | load | store | pointer | combine | index | addr
  | adapterStore | adapterLoad
  | imm | floor | max | min | cast | land | shr | shl | cmp | select
  deriving DecidableEq, Ord

namespace Opcode

def all : List Opcode :=
  [mul, add, sub, div, mod, load, store, pointer, combine, index, addr, adapterStore, adapterLoad,
    imm, floor, max, min, cast, land, shr, shl, cmp, select]

def name : Opcode → String
  | mul => "mul"
  | add => "add"
  | sub => "sub"
  | div => "div"
  | mod => "mod"
  | load => "load"
  | store => "store"
  | pointer => "pointer"
  | combine => "combine"
  | index => "index"
  | addr => "addr"
  | adapterStore => "adapter_store"
  | adapterLoad => "adapter_load"
  | imm => "imm"
  | floor => "floor"
  | max => "max"
  | min => "min"
  | cast => "cast"
  | land => "land"
  | shr => "shr"
  | shl => "shl"
  | cmp => "cmp"
  | select => "select"

def tag : Opcode → String
  | mul => "Mul"
  | add => "Add"
  | sub => "Sub"
  | div => "Div"
  | mod => "Mod"
  | load => "Load"
  | store => "Store"
  | pointer => "Pointer"
  | combine => "Combine"
  | index => "Index"
  | addr => "Addr"
  | adapterStore => "AdapterStore"
  | adapterLoad => "AdapterLoad"
  | imm => "Imm"
  | floor => "Floor"
  | max => "Max"
  | min => "Min"
  | cast => "Cast"
  | land => "Land"
  | shr => "Shr"
  | shl => "Shl"
  | cmp => "Cmp"
  | select => "Select"

def ofName? (text : String) : Option Opcode :=
  all.find? (fun opcode => opcode.name == text)

def arity : Opcode → Arity
  | index | addr | imm => .exactly 0
  | load | floor | cast => .exactly 1
  | mul | add | sub | div | mod | max | min | land | shr | shl | store | cmp => .exactly 2
  | select => .exactly 3
  | pointer => .between 1 2
  | adapterStore | adapterLoad => .between 0 4
  | combine => .any

def isMemoryAccess : Opcode → Bool
  | load | store => true
  | _ => false

end Opcode

inductive Comparison where
  | eq | ne | le | lt
  deriving DecidableEq

namespace Comparison

def all : List Comparison := [eq, ne, le, lt]

def name : Comparison → String
  | eq => "eq"
  | ne => "ne"
  | le => "le"
  | lt => "lt"

def tag : Comparison → String
  | eq => "Eq"
  | ne => "Ne"
  | le => "Le"
  | lt => "Lt"

def ofName? (text : String) : Option Comparison :=
  all.find? (fun comparison => comparison.name == text)

end Comparison

inductive BinaryOp where
  | mul | add | sub | div | mod | max | min | land | shr | shl
  deriving DecidableEq

namespace BinaryOp

def all : List BinaryOp := [mul, add, sub, div, mod, max, min, land, shr, shl]

def opcode : BinaryOp → Opcode
  | mul => .mul
  | add => .add
  | sub => .sub
  | div => .div
  | mod => .mod
  | max => .max
  | min => .min
  | land => .land
  | shr => .shr
  | shl => .shl

def ofName? (text : String) : Option BinaryOp :=
  all.find? (fun op => op.opcode.name == text)

theorem arity_opcode (op : BinaryOp) : op.opcode.arity = .exactly 2 := by
  cases op <;> rfl

end BinaryOp

end ExprGraph
