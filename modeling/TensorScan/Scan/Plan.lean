import TensorScan.Axis
import TensorScan.Logged
import TensorScan.Scan.Extent

set_option autoImplicit false

/-! # Plans

A scan along any dimension of a tensor of any rank is a scan along dimension 2 of a tensor of
four dimensions with the same elements in the same order. A plan holds the extent that says
which four dimensions these are, and the mode of the scan. Making a plan leaves a line in the
log.
-/

namespace TensorScan

/-- A scan brought into four dimensions. -/
structure ScanPlan where
  extent : Extent
  axis : Nat
  mode : ScanMode
  deriving DecidableEq

namespace ScanPlan

def logText (shape : Shape) (axis : Nat) (e : Extent) (flags : ScanFlags)
    (op : Accumulation) : String :=
  s!"{op.name}: planned {spacedSizes shape} axis {axis} as {e.render} " ++
    s!"(reverse={flags.reverse}, exclusive={flags.exclusive})"

def along (shape : Shape) (position : Nat) (flags : ScanFlags) (op : Accumulation) :
    Logged ScanPlan := do
  let e ← shape.extent position
  Logged.note .debug (logText shape position e flags op)
  pure ⟨e, 2, flags.mode op⟩

/-- Plans a scan along the dimension that a signed axis names. -/
def alongSigned (shape : Shape) (axis : Int) (flags : ScanFlags) (op : Accumulation) :
    Logged ScanPlan := do
  let position ← axisPosition shape.rank axis
  along shape position flags op

end ScanPlan

end TensorScan
