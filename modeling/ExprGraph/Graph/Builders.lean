import ExprGraph.Graph.Build

/-!
The builders: how nodes of each operation are made, and how existing nodes are changed.  Each one
checks everything that can be wrong before it builds its first node.
-/

namespace ExprGraph.Build

def immediateBuilder? : Opcode → Option String
  | .cmp => some "cmp"
  | .index => some "index"
  | .imm => some "imm"
  | _ => none

def firstOperand? : Opcode → Option Opcode
  | .store => some .pointer
  | .pointer => some .addr
  | _ => none

def checkOperands (opcode : Opcode) (children : List Handle) (graph : Graph) :
    Except Fault Unit :=
  match immediateBuilder? opcode with
  | some builder => .error (.immediateRequired opcode builder)
  | none =>
    match firstOperand? opcode, children with
    | some expected, first :: _ => graph.expectOpcode first expected
    | _, _ => .ok ()

def create (opcode : Opcode) (children : List Handle) : Build Handle := do
  inspect (fun _ =>
    if opcode.arity.accepts children.length then .ok ()
    else .error (.arityMismatch opcode opcode.arity children.length))
  inspect (checkOperands opcode children)
  allocate opcode children

def load (operand : Handle) : Build Handle := allocate .load [operand]

def loadIfPointer (operand : Handle) : Build Handle := do
  let node ← inspect (fun graph => graph.lookup operand)
  if node.opcode = .pointer then
    announce (.dereferenced node.id)
    load operand
  else
    return operand

def setDataType (handle : Handle) (dataType : DataType) : Build Unit :=
  update handle (fun node => { node with dataType := dataType })

def binary (op : BinaryOp) (left right : Handle) : Build Handle := do
  let leftType ← inspect (fun graph => graph.dataType left)
  let rightType ← inspect (fun graph => graph.dataType right)
  inspect (fun _ =>
    if leftType = rightType then .ok ()
    else .error (.typeMismatch op.opcode leftType rightType))
  let leftOperand ← loadIfPointer left
  let rightOperand ← loadIfPointer right
  let handle ← allocate op.opcode [leftOperand, rightOperand]
  setDataType handle rightType
  return handle

def mul : Handle → Handle → Build Handle := binary .mul

def add : Handle → Handle → Build Handle := binary .add

def sub : Handle → Handle → Build Handle := binary .sub

def div : Handle → Handle → Build Handle := binary .div

def rem : Handle → Handle → Build Handle := binary .mod

def max : Handle → Handle → Build Handle := binary .max

def min : Handle → Handle → Build Handle := binary .min

def land : Handle → Handle → Build Handle := binary .land

def shr : Handle → Handle → Build Handle := binary .shr

def shl : Handle → Handle → Build Handle := binary .shl

def collector (root pointer value : Handle) : Build Handle := do
  inspect (fun graph => graph.expectOpcode pointer .pointer)
  let _ ← inspect (fun graph => graph.lookup value)
  if root.isEmpty then
    allocate .combine []
  else do
    inspect (fun graph => graph.expectOpcode root .combine)
    return root

def announceRoot (root : Handle) : Build Unit := do
  let node ← inspect (fun graph => graph.lookup root)
  announce (.rootCreated node.id)

def collect (created : Bool) (collector pointer value : Handle) : Build Handle := do
  if created then announceRoot collector
  let handle ← allocate .store [pointer, value]
  update collector (fun node => { node with children := node.children ++ [handle] })
  return handle

/-- Writes a value through a pointer and appends the write to the root, which is passed by
reference: it refers to its combine node as soon as there is one, whatever happens next. -/
def store (root pointer value : Handle) (graph : Graph) : Rooted Handle :=
  let chosen := (collector root pointer value).run graph
  match chosen.result with
  | .error fault => ⟨root, ⟨.error fault, chosen.graph, chosen.events⟩⟩
  | .ok collector =>
    let written := (collect root.isEmpty collector pointer value).run chosen.graph
    ⟨collector, ⟨written.result, written.graph, chosen.events ++ written.events⟩⟩

def select (mask whenTrue whenFalse : Handle) : Build Handle :=
  allocate .select [mask, whenTrue, whenFalse]

def compare (kind : Comparison) (left right : Handle) : Build Handle := do
  let handle ← allocate .cmp [left, right]
  update handle (fun node => { node with immediate := some (.cmp kind) })
  return handle

def index (value : Int32) : Build Handle := do
  let handle ← allocate .index []
  update handle (fun node =>
    { node with immediate := some (.int value.toInt64), dataType := .int32 })
  return handle

def constant (scalar : Constant) : Build Handle := do
  let handle ← allocate .imm []
  update handle (fun node =>
    { node with immediate := some scalar.immediate, dataType := scalar.dataType })
  return handle

def placeholder : Build Handle := allocate .addr []

def bindAddress (handle : Handle) (address : Address) : Build Unit :=
  updateWith handle (fun node =>
    if node.opcode = .addr then .ok { node with address := some address }
    else .error (.opcodeMismatch [.addr] node.opcode))

def addr (address : Address) : Build Handle := do
  let handle ← placeholder
  bindAddress handle address
  return handle

def pointer (address : Handle) : Build Handle := do
  inspect (fun graph => graph.expectOpcode address .addr)
  allocate .pointer [address]

def pointerIndexed (address index : Handle) : Build Handle := do
  inspect (fun graph => graph.expectOpcode address .addr)
  allocate .pointer [address, index]

/-- The result has the type of the operand as it was given, pointer or not. -/
def floor (operand : Handle) : Build Handle := do
  let dataType ← inspect (fun graph => graph.dataType operand)
  let loaded ← loadIfPointer operand
  let handle ← allocate .floor [loaded]
  setDataType handle dataType
  return handle

def cast (operand : Handle) (dataType : DataType) : Build Handle := do
  let loaded ← loadIfPointer operand
  let handle ← allocate .cast [loaded]
  setDataType handle dataType
  return handle

def setName (handle : Handle) (name : String) : Build Unit :=
  update handle (fun node => { node with name := name })

def setGroupCount (handle : Handle) (count : Nat) : Build Unit :=
  update handle (fun node => { node with groupCount := count })

def addGroupCount (handle : Handle) (count : Nat) : Build Unit :=
  update handle (fun node => { node with groupCount := node.groupCount + count })

def setVectorized (handle : Handle) (vectorized : Bool) : Build Unit :=
  update handle (fun node => { node with vectorized := vectorized })

/-- Replaces the lanes of a group; the lanes are checked in order, then the group. -/
def setMembers (group : Handle) (members : List Handle) : Build Unit := do
  inspect (fun graph => graph.checkAll members)
  update group (fun node => { node with members := members })

def pushMember (group member : Handle) : Build Unit := do
  let _ ← inspect (fun graph => graph.lookup member)
  update group (fun node => { node with members := node.members ++ [member] })

def resetCounter : Build Unit := fun graph =>
  ⟨.ok (), { graph with numbering := graph.numbering.reset },
    [.counterReset graph.numbering.next graph.size]⟩

def overwrite (handle : Handle) (node : Node) : Build Unit := update handle (fun _ => node)

end ExprGraph.Build
