import TensorScan.Tensor

set_option autoImplicit false

/-! # The axis of a scan

An axis is given as a signed number: from zero up it counts dimensions from the first, and
below zero from the last, so among `rank` dimensions the numbers from `-rank` up to `rank - 1`
have a meaning. `axisPosition` turns such a number into the position of a dimension.
`Tensor.axisPosition` reads it from a tensor, which must have no dimensions whatever it holds.
-/

namespace TensorScan

/-- The position of the dimension that a signed axis names among `rank` dimensions. -/
def axisPosition (rank : Nat) (axis : Int) : Except Error Nat :=
  let position := if axis < 0 then rank + axis else axis
  if rank ≤ maxAxis ∧ 0 ≤ position ∧ position < rank then .ok position.toNat
  else .error (.axisOutOfRange axis rank)

def IndexType.value (index : IndexType) (w : Word index.dtype) : Int := w.toInt

/-- The position of the dimension that the tensor names among `rank` dimensions. -/
def Tensor.axisPosition (axis : Tensor) (index : IndexType) (rank : Nat) : Except Error Nat :=
  if axis.isScalar then do
    let w ← axis.item index.dtype
    TensorScan.axisPosition rank (index.value w)
  else .error (.invalidArgument "axis" (.axisNotScalar axis.shape))

end TensorScan
