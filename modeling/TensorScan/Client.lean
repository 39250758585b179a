import TensorScan.Graph.Basic
import TensorScan.Logged
import TensorScan.Tensor

set_option autoImplicit false

/-! # Clients and devices

A client runs graphs. It gets a graph and the tensors that stand for its inputs, in order, and
answers with tensors or with an error. Nothing else is known of it: kernels work with any
client. `ScanGraph.evaluate` is the client of the host.

A client belongs to a runtime, which has a name, and works on a device.
-/

namespace TensorScan

abbrev Client : Type := ScanGraph → List Tensor → Logged (List Tensor)

/-- Where a client computes. -/
structure Device where
  /-- The number among the devices of one runtime. -/
  id : Nat
  name : String
  deriving DecidableEq

namespace Device

/-- A device known by its number only. -/
def numbered (id : Nat) : Device := ⟨id, s!"device:{id}"⟩

def cpu : Device := ⟨0, "cpu"⟩

end Device

def cpuRuntime : String := "cpu"

end TensorScan
