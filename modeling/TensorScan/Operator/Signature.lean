import TensorScan.DType

set_option autoImplicit false

/-! # Signatures

A kernel is found by its signature: the name of the operator, the element type `T` of the
operand and the type `Tidx` of the axis. Signatures are ordered by name, character by character
in the order of code points, then by the numbers of the two types. The axis type may be any
element type: a signature can be asked for, and registered, that no kernel of this library
answers.
-/

namespace TensorScan

/-- What a kernel is found by. -/
structure Signature where
  op : String
  dtype : DType
  index : DType
  deriving DecidableEq

namespace Signature

/-- Does `a` come strictly before `b`? -/
def before (a b : Signature) : Bool :=
  a.op < b.op ||
    (a.op == b.op &&
      (a.dtype.code < b.dtype.code ||
        (a.dtype.code == b.dtype.code && a.index.code < b.index.code)))

/-- The form of a signature in log lines: `Cumsum<T=f32, Tidx=i32>`. -/
def render (s : Signature) : String :=
  s.op ++ "<T=" ++ s.dtype.shortName ++ ", Tidx=" ++ s.index.shortName ++ ">"

theorem not_before_self (s : Signature) : s.before s = false := by
  simp [before]

end Signature

end TensorScan
