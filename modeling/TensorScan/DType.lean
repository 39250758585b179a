set_option autoImplicit false

/-! # Element types

A tensor holds elements of one of four types: single-precision and half-precision floats,
and signed 64-bit and 32-bit integers. Each type has a number (`DType.code`) that is part
of stored data and never changes: floats have the numbers below ten, integers the numbers
from ten on. The list `DType.all` is in the order of these numbers, and that is also the
order in which types are compared.

Two of the four types may carry the axis of a scan. They form the type `IndexType`.
-/

namespace TensorScan

/-- The type of the elements of a tensor. -/
inductive DType
  | f32
  | f16
  | i64
  | i32
  deriving DecidableEq, Inhabited

/-- The integer types an axis may have. -/
inductive IndexType
  | i32
  | i64
  deriving DecidableEq, Inhabited

namespace DType

/-- All element types, in the order of their numbers. -/
def all : List DType := [.f32, .f16, .i64, .i32]

/-- The number of a type in stored data. -/
def code : DType → Nat
  | .f32 => 1
  | .f16 => 2
  | .i64 => 10
  | .i32 => 11

def byteSize : DType → Nat
  | .f32 => 4
  | .f16 => 2
  | .i64 => 8
  | .i32 => 4

def bitWidth (d : DType) : Nat := 8 * d.byteSize

def isFloat : DType → Bool
  | .f32 | .f16 => true
  | .i64 | .i32 => false

def isInteger : DType → Bool
  | .f32 | .f16 => false
  | .i64 | .i32 => true

/-- The name of a type in signatures and descriptors. -/
def shortName : DType → String
  | .f32 => "f32"
  | .f16 => "f16"
  | .i64 => "i64"
  | .i32 => "i32"

def tag : DType → String
  | .f32 => "F32"
  | .f16 => "F16"
  | .i64 => "I64"
  | .i32 => "I32"

/-- The index type with these elements, if there is one. -/
def indexType? : DType → Option IndexType
  | .i32 => some .i32
  | .i64 => some .i64
  | .f32 | .f16 => none

theorem mem_all (d : DType) : d ∈ all := by
  cases d <;> decide

theorem byteSize_pos (d : DType) : 0 < d.byteSize := by
  cases d <;> decide

/-- Different types have different numbers. -/
theorem code_injective {d e : DType} (h : d.code = e.code) : d = e := by
  revert h
  cases d <;> cases e <;> decide

end DType

namespace IndexType

/-- The element type of the tensors that carry axes of this type. -/
def dtype : IndexType → DType
  | .i32 => .i32
  | .i64 => .i64

theorem indexType?_dtype (index : IndexType) : index.dtype.indexType? = some index := by
  cases index <;> rfl

theorem dtype_of_indexType? {d : DType} {index : IndexType} (h : d.indexType? = some index) :
    index.dtype = d := by
  cases d <;> simp [DType.indexType?] at h <;> subst h <;> rfl

end IndexType

end TensorScan
