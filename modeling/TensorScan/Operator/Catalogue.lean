import TensorScan.Features
import TensorScan.Operator.Kernel
import TensorScan.Operator.Registry

set_option autoImplicit false

/-! # The kernels of the library

There is a scan kernel for every accumulation, every element type that is supported and every
type of axes. `scanEntries` lists them: sums before products, and the types by their numbers, so
64-bit axes come before 32-bit ones. They are registered in this order. A kernel is made for one
member of `IndexType`, and every type that axes can have is one of these
(`DTypeSet.contains_index`).
-/

namespace TensorScan

/-- The signatures and factories of all scan kernels. -/
def scanEntries (features : Features) : List (Signature × Factory ScanKernel) :=
  [Accumulation.sum, Accumulation.product].flatMap fun op =>
    (DTypeSet.scannable.members.filter features.supports).flatMap fun d =>
      DTypeSet.index.members.filterMap fun axes =>
        axes.indexType?.map fun index => (⟨op.name, d, axes⟩, ScanKernel.ofInvocation index op)

/-- Registers all scan kernels, up to the first whose signature is taken. -/
def Registry.registerScans (r : Registry ScanKernel) (features : Features) :
    Registry ScanKernel × Logged Unit :=
  r.registerAll (scanEntries features)

def scanRegistry (features : Features) (runtime : String) : Logged (Registry ScanKernel) := do
  let (r, done) := (Registry.empty runtime).registerScans features
  done
  pure r

end TensorScan
