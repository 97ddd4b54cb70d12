import ExprGraph.Graph.Builders
import ExprGraph.Graph.Dump
import ExprGraph.Graph.Query

/-!
Requests to one graph, as data over a type of references: names while they are written down,
handles when they are carried out.
-/

namespace ExprGraph

inductive Construction (ρ : Type) where
  | create (opcode : Opcode) (children : List ρ)
  | binary (op : BinaryOp) (left right : ρ)
  | load (operand : ρ)
  | loadIfPointer (operand : ρ)
  | select (mask whenTrue whenFalse : ρ)
  | compare (kind : Comparison) (left right : ρ)
  | index (value : Int32)
  | constant (scalar : Constant)
  | placeholder
  | addr (address : Address)
  | pointer (address : ρ)
  | pointerIndexed (address displacement : ρ)
  | floor (operand : ρ)
  | cast (operand : ρ) (dataType : DataType)
  | child (parent : ρ) (position : Nat)
  | setName (handle : ρ) (name : String)
  | empty

namespace Construction

def map (resolve : ρ → τ) : Construction ρ → Construction τ
  | create opcode children => create opcode (children.map resolve)
  | binary op left right => binary op (resolve left) (resolve right)
  | load operand => load (resolve operand)
  | loadIfPointer operand => loadIfPointer (resolve operand)
  | select mask whenTrue whenFalse => select (resolve mask) (resolve whenTrue) (resolve whenFalse)
  | compare kind left right => compare kind (resolve left) (resolve right)
  | index value => index value
  | constant scalar => constant scalar
  | placeholder => placeholder
  | addr address => addr address
  | pointer address => pointer (resolve address)
  | pointerIndexed address displacement =>
    pointerIndexed (resolve address) (resolve displacement)
  | floor operand => floor (resolve operand)
  | cast operand dataType => cast (resolve operand) dataType
  | child parent position => child (resolve parent) position
  | setName handle name => setName (resolve handle) name
  | empty => empty

def build : Construction Handle → Build Handle
  | create opcode children => Build.create opcode children
  | binary op left right => Build.binary op left right
  | load operand => Build.load operand
  | loadIfPointer operand => Build.loadIfPointer operand
  | select mask whenTrue whenFalse => Build.select mask whenTrue whenFalse
  | compare kind left right => Build.compare kind left right
  | index value => Build.index value
  | constant scalar => Build.constant scalar
  | placeholder => Build.placeholder
  | addr address => Build.addr address
  | pointer address => Build.pointer address
  | pointerIndexed address displacement => Build.pointerIndexed address displacement
  | floor operand => Build.floor operand
  | cast operand dataType => Build.cast operand dataType
  | child parent position => Build.inspect (fun graph => graph.child parent position)
  | setName handle name => do
    Build.setName handle name
    return handle
  | empty => return .empty

end Construction

inductive Mutation (ρ : Type) where
  | setDataType (handle : ρ) (dataType : DataType)
  | setName (handle : ρ) (name : String)
  | setGroupCount (handle : ρ) (count : Nat)
  | addGroupCount (handle : ρ) (count : Nat)
  | setVectorized (handle : ρ) (vectorized : Bool)
  | setMembers (group : ρ) (members : List ρ)
  | pushMember (group member : ρ)
  | bindAddress (handle : ρ) (address : Address)
  | resetCounter

namespace Mutation

def map (resolve : ρ → τ) : Mutation ρ → Mutation τ
  | setDataType handle dataType => setDataType (resolve handle) dataType
  | setName handle name => setName (resolve handle) name
  | setGroupCount handle count => setGroupCount (resolve handle) count
  | addGroupCount handle count => addGroupCount (resolve handle) count
  | setVectorized handle vectorized => setVectorized (resolve handle) vectorized
  | setMembers group members => setMembers (resolve group) (members.map resolve)
  | pushMember group member => pushMember (resolve group) (resolve member)
  | bindAddress handle address => bindAddress (resolve handle) address
  | resetCounter => resetCounter

def build : Mutation Handle → Build Unit
  | setDataType handle dataType => Build.setDataType handle dataType
  | setName handle name => Build.setName handle name
  | setGroupCount handle count => Build.setGroupCount handle count
  | addGroupCount handle count => Build.addGroupCount handle count
  | setVectorized handle vectorized => Build.setVectorized handle vectorized
  | setMembers group members => Build.setMembers group members
  | pushMember group member => Build.pushMember group member
  | bindAddress handle address => Build.bindAddress handle address
  | resetCounter => Build.resetCounter

end Mutation

inductive Query (ρ : Type) where
  | node (handle : ρ)
  | opcode (handle : ρ)
  | dataType (handle : ρ)
  | contains (handle : ρ)
  | nodeChild (handle : ρ) (index : Nat)
  | memberIndex (group handle : ρ)
  | address (handle : ρ)
  | resolvedAddress (handle : ρ)
  | priorTo (first second : ρ)
  | size
  | options
  | entries
  | walk (root : ρ) (order : VisitOrder)
  | dumpTree (root : ρ)
  | dumpSequential

def Query.map (resolve : ρ → τ) : Query ρ → Query τ
  | node handle => node (resolve handle)
  | opcode handle => opcode (resolve handle)
  | dataType handle => dataType (resolve handle)
  | contains handle => contains (resolve handle)
  | nodeChild handle index => nodeChild (resolve handle) index
  | memberIndex group handle => memberIndex (resolve group) (resolve handle)
  | address handle => address (resolve handle)
  | resolvedAddress handle => resolvedAddress (resolve handle)
  | priorTo first second => priorTo (resolve first) (resolve second)
  | size => size
  | options => options
  | entries => entries
  | walk root order => walk (resolve root) order
  | dumpTree root => dumpTree (resolve root)
  | dumpSequential => dumpSequential

end ExprGraph
