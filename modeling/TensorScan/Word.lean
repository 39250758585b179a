import TensorScan.DType
import TensorScan.Floating.Arithmetic

set_option autoImplicit false

/-! # Elements

An element of type `d` is a `Word d`: its bit pattern. Two elements are equal when their bits
are, so `+0` and `-0` differ and a NaN equals itself.

Integers are added and multiplied modulo the power of two of their width. Floats are added and
multiplied by the rules of `Format`; half-precision operands are widened to single precision
first, and every single result is rounded back.
-/

namespace TensorScan

/-- The bit pattern of an element of type `d`. -/
abbrev Word (d : DType) : Type := BitVec d.bitWidth

namespace Word

def zero (d : DType) : Word d := 0

def one : (d : DType) → Word d
  | .f32 => Format.one (f := .single)
  | .f16 => Format.one (f := .half)
  | .i64 => 1
  | .i32 => 1

/-- A half-precision operation that is done in single precision. -/
def viaSingle (op : BitVec Format.single.width → BitVec Format.single.width →
    BitVec Format.single.width) (x y : BitVec Format.half.width) : BitVec Format.half.width :=
  Format.convert .half (op (Format.convert .single x) (Format.convert .single y))

def add : (d : DType) → Word d → Word d → Word d
  | .f32, x, y => Format.add (f := .single) x y
  | .f16, x, y => viaSingle Format.add x y
  | .i64, x, y => x + y
  | .i32, x, y => x + y

def mul : (d : DType) → Word d → Word d → Word d
  | .f32, x, y => Format.mul (f := .single) x y
  | .f16, x, y => viaSingle Format.mul x y
  | .i64, x, y => x * y
  | .i32, x, y => x * y

def isNaN : (d : DType) → Word d → Bool
  | .f32, x => Format.isNaN (f := .single) x
  | .f16, x => Format.isNaN (f := .half) x
  | .i64, _ => false
  | .i32, _ => false

end Word

end TensorScan
