import TensorScan.Client
import TensorScan.Features
import TensorScan.Scan.Walk

set_option autoImplicit false

/-! # Evaluating graphs

`ScanGraph.accept` compares tensors with the inputs they are to stand for: as many, of the same
element types, with the same numbers of elements. Shapes may differ, so a tensor of any rank can
stand for a tensor of four dimensions.

`ScanGraph.evaluate` computes the nodes in order, those that nothing asks for included. The
value of an input is the tensor that stands for it, in the four sizes of the descriptor; a scan
reads the value of its source. The values of the returned nodes are the answer.
-/

namespace TensorScan

/-! ## Inputs -/

/-- Can the tensor stand for an input with this descriptor? -/
def Descriptor.accept (desc : Descriptor) (t : Tensor) : Except Error Unit :=
  if t.dtype ≠ desc.dtype then .error (.dtypeMismatch desc.dtype t.dtype)
  else if t.count ≠ desc.count then .error (.shapeMismatch desc.sizes t.shape)
  else .ok ()

def acceptAll : List Descriptor → List Tensor → Except Error Unit
  | desc :: descs, t :: ts => do
      desc.accept t
      acceptAll descs ts
  | _, _ => .ok ()

/-- Can the tensors stand for the inputs of the graph? -/
def ScanGraph.accept (g : ScanGraph) (tensors : List Tensor) : Except Error Unit :=
  if tensors.length ≠ g.inputs.length then
    .error (.invalidGraph (.inputCount g.inputs.length tensors.length))
  else acceptAll g.inputs tensors

/-! ## Nodes -/

/-- The scan of a tensor with the sizes of `desc` along one of its axes. -/
def Descriptor.scan (desc : Descriptor) (features : Features) (source : Tensor) (axis : Fin 4)
    (mode : ScanMode) : Except Error Tensor := do
  features.require desc.dtype
  let words ← source.words desc.dtype
  let scanned := mode.scan desc.dtype (Extent.along desc.sizes axis) words
  Tensor.ofBytes desc.sizes desc.dtype (bytesOfWords desc.dtype scanned)

/-- The value of a node, given the tensors and the values of the nodes before it. -/
def GraphNode.evaluate (node : GraphNode) (features : Features) (tensors values : List Tensor) :
    Except Error Tensor :=
  match node.op with
  | .input index =>
      match tensors[index]? with
      | some t => t.reshape node.desc.sizes
      | none => .error (.invalidGraph (.unboundInput index))
  | .scan source axis mode =>
      match values[source]? with
      | some t => node.desc.scan features t axis mode
      | none => .error (.invalidGraph (.notYetComputed source))

/-- The values of all nodes, once those in `values` are known. -/
def evaluateNodes (features : Features) (tensors : List Tensor) :
    List GraphNode → List Tensor → Logged (List Tensor)
  | [], values => pure values
  | node :: rest, values => do
      Logged.note .trace
        s!"{Device.cpu.name}: node {values.length} {node.op.describe} -> {node.desc.render}"
      let value ← node.evaluate features tensors values
      evaluateNodes features tensors rest (values ++ [value])

def valueOf (values : List Tensor) (id : Nat) : Except Error Tensor :=
  match values[id]? with
  | some t => .ok t
  | none => .error (.invalidGraph (.unknownOutput id))

/-- Runs a graph on the host. -/
def ScanGraph.evaluate (features : Features) : Client := fun g tensors => do
  g.accept tensors
  let values ← evaluateNodes features tensors g.nodes []
  Logged.ofExcept (g.outputs.mapM (valueOf values))

end TensorScan
