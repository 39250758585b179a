import TensorScan.Operator.Attribute
import TensorScan.Operator.Signature
import TensorScan.Sizes

set_option autoImplicit false

/-! # Errors

Everything that can go wrong while a scan is planned, built or run is a value of `Error`; its
constructors are the causes, and `Error.message` holds the wording. Two causes come with a
reason of their own: an argument that cannot be used (`ArgumentFault`) and a graph that makes
no sense (`GraphFault`).

`Error.isInvalidArgument` singles out the mistakes of the caller in describing an operator: a
bad argument, an axis out of range, a missing attribute. No retry can mend those.
-/

namespace TensorScan

/-- Why an argument cannot be used. -/
inductive ArgumentFault
  | axisNotScalar (shape : List Nat)
  | inputCount (op : String) (count : Nat)
  | noOperand
  | notBool (value : AttributeValue)
  | notDType (value : AttributeValue)
  /-- A reason in the reporter's own words. -/
  | stated (text : String)
  deriving DecidableEq

/-- What is wrong with a graph, or with the way it is run. -/
inductive GraphFault
  | unknownNode (id : Nat)
  | axisOutOfRange (axis : Nat)
  | noOutputs
  | inputCount (expected got : Nat)
  | unboundInput (index : Nat)
  | notYetComputed (id : Nat)
  | unknownOutput (id : Nat)
  /-- A reason in the reporter's own words. -/
  | stated (text : String)
  deriving DecidableEq

/-- What went wrong. -/
inductive Error
  | invalidArgument (argument : String) (fault : ArgumentFault)
  | axisOutOfRange (axis : Int) (rank : Nat)
  | shapeMismatch (expected got : List Nat)
  | shapeOverflow (shape : List Nat)
  | unsupportedDType (dtype : DType) (operation : String)
  | dtypeMismatch (expected got : DType)
  | featureRequired (dtype : DType) (feature : String)
  | missingAttribute (name : String)
  | kernelNotFound (signature : Signature)
  | duplicateKernel (signature : Signature)
  | invalidGraph (fault : GraphFault)
  deriving DecidableEq

/-- The reason in words. -/
def ArgumentFault.reason : ArgumentFault → String
  | .axisNotScalar shape => s!"ScanOp: axis must be a scalar, not {compactSizes shape}"
  | .inputCount op count => s!"{op} expects 2 inputs, got {count}"
  | .noOperand => "scan needs an operand"
  | .notBool value => s!"expected a bool attribute, got {value.render}"
  | .notDType value => s!"expected a type attribute, got {value.render}"
  | .stated text => text

/-- The reason in words. -/
def GraphFault.reason : GraphFault → String
  | .unknownNode id => s!"unknown node {id}"
  | .axisOutOfRange axis => s!"scan axis {axis} out of range for 4-D tensor"
  | .noOutputs => "graph has no outputs"
  | .inputCount expected got => s!"graph expects {expected} input(s), got {got}"
  | .unboundInput index => s!"no execution input bound to index {index}"
  | .notYetComputed id => s!"node {id} used before it is computed"
  | .unknownOutput id => s!"unknown output node {id}"
  | .stated text => text

namespace Error

def message : Error → String
  | .invalidArgument argument fault => s!"Invalid argument '{argument}': {fault.reason}"
  | .axisOutOfRange axis rank =>
      s!"ScanOp: expected scan axis in the range [-{rank}, {rank}), but got {axis}"
  | .shapeMismatch expected got =>
      s!"Shape mismatch: expected {spacedSizes expected}, got {spacedSizes got}"
  | .shapeOverflow shape => s!"Element count of shape {spacedSizes shape} overflows usize"
  | .unsupportedDType dtype operation =>
      s!"Unsupported dtype {dtype.tag} for operation '{operation}'"
  | .dtypeMismatch expected got => s!"DType mismatch: {expected.tag} vs {got.tag}"
  | .featureRequired dtype feature => s!"DType {dtype.tag} requires the '{feature}' feature"
  | .missingAttribute name => s!"Missing attribute '{name}'"
  | .kernelNotFound sig =>
      s!"No kernel registered for op '{sig.op}' with T={sig.dtype.tag}, Tidx={sig.index.tag}"
  | .duplicateKernel sig =>
      s!"Kernel for op '{sig.op}' with T={sig.dtype.tag}, Tidx={sig.index.tag} " ++
        "is already registered"
  | .invalidGraph fault => s!"Invalid graph: {fault.reason}"

/-- Is the operator described wrongly? -/
def isInvalidArgument : Error → Bool
  | .invalidArgument .. | .axisOutOfRange .. | .missingAttribute .. => true
  | _ => false

end Error

/-- The index type of an axis with elements of type `d`; `operation` is who asks. -/
def DType.indexType (d : DType) (operation : String) : Except Error IndexType :=
  match d.indexType? with
  | some index => .ok index
  | none => .error (.unsupportedDType d operation)

/-- Two steps succeed if the first does, and then the second with what the first gave. -/
theorem bind_eq_ok {α β : Type} {x : Except Error α} {f : α → Except Error β} {b : β} :
    (x >>= f) = .ok b ↔ ∃ a, x = .ok a ∧ f a = .ok b := by
  cases x with
  | error e => simp [bind, Except.bind]
  | ok a => simp [bind, Except.bind]

end TensorScan
