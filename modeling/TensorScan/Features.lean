import TensorScan.Error

set_option autoImplicit false

/-! # Optional features

Half-precision elements are optional. Without them half-precision tensors still have a shape
and bytes, but nothing is computed with their elements.
-/

namespace TensorScan

/-- What a build of the library supports. -/
structure Features where
  half : Bool
  deriving DecidableEq

namespace Features

/-- Can elements of type `d` be computed with? -/
def supports (features : Features) (d : DType) : Bool := d != .f16 || features.half

/-- Refuses element types that need a feature which is off. -/
def require (features : Features) (d : DType) : Except Error Unit :=
  if features.supports d then .ok () else .error (.featureRequired d "f16")

end Features

end TensorScan
