set_option autoImplicit false

/-! # Binary floating-point formats

A format is given by the widths of its exponent and fraction fields. A number of the format is
a word with, from the top, a sign bit, the exponent field and the fraction field. The word
without its sign bit, read as a natural number, is the *code* of the number. Codes are ordered
as magnitudes are: zero and the subnormals come first, then the normal numbers, then infinity
(`Format.infinity`), then the NaNs.

Finite magnitudes are natural numbers here: the unit is the least subnormal of the format, and
`Format.magnitude` counts how many units the number with a given code is worth. One is
`2 ^ Format.scale` units. So sums of finite numbers are exact in integers, and only the step
back to a code rounds.
-/

namespace TensorScan

/-- A binary format: the widths of its two fields below the sign bit. -/
structure Format where
  exponentBits : Nat
  fractionBits : Nat

namespace Format

def single : Format := ⟨8, 23⟩

def half : Format := ⟨5, 10⟩

variable (f : Format)

def codeWidth : Nat := f.exponentBits + f.fractionBits

def width : Nat := f.codeWidth + 1

/-- The code of infinity; greater codes are NaNs. -/
def infinity : Nat := 1 <<< f.codeWidth - 1 <<< f.fractionBits

/-- The bit of a NaN that says that it is quiet: the top bit of the fraction. -/
def quietBit : Nat := 1 <<< (f.fractionBits - 1)

/-- The exponent of one in units: one is `2 ^ scale` least subnormals. -/
def scale : Nat := 1 <<< (f.exponentBits - 1) + f.fractionBits - 2

def oneCode : Nat := (1 <<< (f.exponentBits - 1) - 1) <<< f.fractionBits

/-- By how many places the significand of a code is moved up: the exponent field less one,
and zero for subnormals. -/
def shift (code : Nat) : Nat := code >>> f.fractionBits - 1

/-- The significand of a code: the fraction, and the leading one of a normal number. -/
def significand (code : Nat) : Nat := code - f.shift code <<< f.fractionBits

/-- The worth of a finite code in units. -/
def magnitude (code : Nat) : Nat := f.significand code <<< f.shift code

variable {f}

def encode (negative : Bool) (code : Nat) : BitVec f.width :=
  BitVec.ofNat f.width (code + if negative then 1 <<< f.codeWidth else 0)

def isNegative (x : BitVec f.width) : Bool := x.msb

/-- The word without its sign bit. -/
def code (x : BitVec f.width) : Nat := x.toNat % 1 <<< f.codeWidth

def isNaN (x : BitVec f.width) : Bool := f.infinity < code x

def isInfinite (x : BitVec f.width) : Bool := code x == f.infinity

/-- A finite number in units, with its sign. -/
def units (x : BitVec f.width) : Int :=
  if isNegative x then -(f.magnitude (code x) : Int) else f.magnitude (code x)

def one : BitVec f.width := encode false f.oneCode

end Format

end TensorScan
