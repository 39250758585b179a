import TensorScan.Scan.Extent

set_option autoImplicit false

/-! # Graphs of scans

A graph describes a computation on tensors of four dimensions. Its nodes are numbered from zero;
each is an input or a scan of another node, and carries the descriptor of its value. A graph
also lists the descriptors of its inputs and the nodes whose values it returns; a node may be
returned more than once, and inputs may be returned too.

Nodes refer to nodes by number. Drafts of graphs (`GraphDraft`) hand out numbers in such a way
that a node only refers to earlier ones, so the order of the list is an order of evaluation.
-/

namespace TensorScan

/-- The element type and the four sizes of a tensor in a graph. -/
structure Descriptor where
  dtype : DType
  n : Nat
  c : Nat
  h : Nat
  w : Nat
  deriving DecidableEq

namespace Descriptor

def sizes (desc : Descriptor) : List Nat := [desc.n, desc.c, desc.h, desc.w]

/-- The descriptor of a buffer seen from one of its dimensions. -/
def ofExtent (d : DType) (e : Extent) : Descriptor := ⟨d, 1, e.outer, e.scan, e.inner⟩

/-- The number of elements, cut off at the largest size. -/
def count (desc : Descriptor) : Nat := saturatingProduct desc.sizes

/-- The descriptor in a trace line: `f32[1,2,3,4]`. -/
def render (desc : Descriptor) : String := desc.dtype.shortName ++ compactSizes desc.sizes

@[simp] theorem sizes_ofExtent (d : DType) (e : Extent) : (ofExtent d e).sizes = e.dims := rfl

end Descriptor

inductive NodeOp
  /-- The tensor that stands for the input with this number. -/
  | input (index : Nat)
  /-- The value of `source`, scanned along one of the four axes. -/
  | scan (source : Nat) (axis : Fin 4) (mode : ScanMode)
  deriving DecidableEq

/-- The operation field by field, as trace lines show it. -/
def NodeOp.describe : NodeOp → String
  | .input index => "Input \x7b index: " ++ toString index ++ " \x7d"
  | .scan source axis mode =>
      "Scan \x7b input: NodeId(" ++ toString source ++ "), axis: " ++ toString axis.val ++
        ", direction: " ++ mode.direction.tag ++ ", exclusive: " ++ toString mode.exclusive ++
        ", op: " ++ mode.op.tag ++ " \x7d"

structure GraphNode where
  op : NodeOp
  desc : Descriptor
  deriving DecidableEq

/-- A graph that can be run. -/
structure ScanGraph where
  nodes : List GraphNode
  inputs : List Descriptor
  /-- The nodes whose values are returned. -/
  outputs : List Nat
  deriving DecidableEq

namespace ScanGraph

def desc? (g : ScanGraph) (id : Nat) : Option Descriptor := g.nodes[id]?.map (·.desc)

def outputDescriptors (g : ScanGraph) : List Descriptor := g.outputs.filterMap g.desc?

/-- May the one returned value be written over the one input? It may if their descriptors
agree. -/
def canOverwriteInput (g : ScanGraph) : Bool :=
  match g.inputs, g.outputs with
  | [input], [output] => g.desc? output == some input
  | _, _ => false

end ScanGraph

end TensorScan
