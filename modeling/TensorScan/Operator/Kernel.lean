import TensorScan.Client
import TensorScan.DType.Set
import TensorScan.Graph.Draft
import TensorScan.Operator.Invocation
import TensorScan.Scan.Plan

set_option autoImplicit false

/-! # Scan kernels

A scan kernel performs one operator, a running sum or product, for one element type and one type
of axes. It takes an operand and an axis, brings the operand into four dimensions and drafts a
graph with a single scan; that is what it asks of a client (`ScanKernel.request`). What the
client answers gets the shape of the operand (`ScanRequest.submit`).
-/

namespace TensorScan

/-- The two flags of an invocation; a flag that is not set is off. -/
def Invocation.scanFlags (call : Invocation) : Except Error ScanFlags := do
  let reverse ← call.bool? reverseAttribute
  let exclusive ← call.bool? exclusiveAttribute
  pure ⟨reverse.getD false, exclusive.getD false⟩

/-- What a kernel asks of a client. -/
structure ScanRequest where
  graph : ScanGraph
  /-- The tensor that stands for its input; its shape is the shape of the answers. -/
  operand : Tensor
  deriving DecidableEq

/-- Asks a client, and gives its answers the shape of the operand. -/
def ScanRequest.submit (r : ScanRequest) (client : Client) : Logged (List Tensor) := do
  let answers ← client r.graph [r.operand]
  Logged.ofExcept (answers.mapM (·.reshape r.operand.shape))

/-- The kernel of a running sum or product. -/
structure ScanKernel where
  op : Accumulation
  dtype : DType
  index : IndexType
  flags : ScanFlags
  deriving DecidableEq

namespace ScanKernel

/-- The kernel that performs `op` for an invocation, whose axis type must be `index`. -/
def ofInvocation (index : IndexType) (op : Accumulation) (call : Invocation) :
    Except Error ScanKernel := do
  let dtype ← call.dtype operandTypeAttribute
  if DTypeSet.scannable.contains dtype then
    let given ← call.dtype indexTypeAttribute
    if given = index.dtype then
      let flags ← call.scanFlags
      pure ⟨op, dtype, index, flags⟩
    else throw (.dtypeMismatch index.dtype given)
  else throw (.unsupportedDType dtype op.name)

def name (k : ScanKernel) : String := k.op.name

/-- The shapes of the results, given the shapes of the inputs: the operand's. -/
def resultShapes (_k : ScanKernel) (shapes : List Shape) : Except Error (List Shape) :=
  match shapes with
  | [] => .error (.invalidArgument "inputs" .noOperand)
  | operand :: _ => .ok [operand]

/-- The plan of a scan of `operand` along the axis that the tensor `axis` names. -/
def plan (k : ScanKernel) (operand axis : Tensor) : Logged ScanPlan := do
  let position ← axis.axisPosition k.index operand.rank
  ScanPlan.along operand.shape position k.flags k.op

/-- The graph of a planned scan: an input, and the scan of it. -/
def graph (k : ScanKernel) (plan : ScanPlan) : Logged ScanGraph := do
  let (draft, input) := GraphDraft.empty.input (.ofExtent k.dtype plan.extent)
  let (draft, result) ← draft.scan input plan.axis plan.mode
  draft.finish [result]

/-- What the kernel asks of a client, if it is given an operand and an axis that it can use. -/
def request (k : ScanKernel) (inputs : List Tensor) : Logged ScanRequest :=
  match inputs with
  | [operand, axis] =>
      if operand.dtype ≠ k.dtype then Logged.fail (.dtypeMismatch k.dtype operand.dtype)
      else do
        let plan ← k.plan operand axis
        let graph ← k.graph plan
        pure ⟨graph, operand⟩
  | _ => Logged.fail (.invalidArgument "inputs" (.inputCount k.name inputs.length))

def run (k : ScanKernel) (client : Client) (inputs : List Tensor) : Logged (List Tensor) := do
  let r ← k.request inputs
  r.submit client

end ScanKernel

end TensorScan
