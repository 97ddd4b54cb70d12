import ExprGraph.DataType
import ExprGraph.Text.Quoted

/-!
Addresses: one element of a named, flat buffer.  An address is prior to another when the other is
the next element of the same buffer; the last offset there is has no next one, so following next
elements never comes back to where it started.
-/

namespace ExprGraph

structure Address where
  buffer : String
  element : DataType
  offset : Int64
  deriving DecidableEq

namespace Address

def sameStorage (left right : Address) : Bool :=
  left.buffer == right.buffer && left.element == right.element

def withOffset (address : Address) (offset : Int64) : Address :=
  { address with offset := offset }

def nextOffset? (offset : Int64) : Option Int64 :=
  if offset = Int64.maxValue then none else some (offset + 1)

def isPriorTo (first second : Address) : Bool :=
  first.sameStorage second && nextOffset? first.offset == some second.offset

def text (address : Address) : String :=
  address.buffer ++ "[" ++ toString address.offset.toInt ++ "]:" ++ address.element.name

def fieldText (address : Address) : String :=
  "BufferAddress \x7b buffer: " ++ Text.quoted address.buffer ++ ", element: " ++
    address.element.tag ++ ", offset: " ++ toString address.offset.toInt ++ " \x7d"

end Address

end ExprGraph
