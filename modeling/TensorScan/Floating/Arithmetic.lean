import TensorScan.Floating.Rounding

set_option autoImplicit false

/-! # Floating-point arithmetic

Addition, multiplication and conversion between formats on words. Each operation first deals
with NaNs and infinities and otherwise rounds the exact result once.

An operation without a meaningful result, such as the sum of opposite infinities, gives the
default NaN, whose sign bit is set. A NaN operand is passed on, quieted, the left one if both
are NaNs. An exact sum of zero is `+0` unless both operands are `-0`.
-/

namespace TensorScan.Format

variable {f : Format}

/-- The result of an operation that has none. -/
def defaultNaN : BitVec f.width := encode true (f.infinity + f.quietBit)

/-- A NaN with its quiet bit set. -/
def quiet (x : BitVec f.width) : BitVec f.width := x ||| BitVec.ofNat f.width f.quietBit

def addFinite (x y : BitVec f.width) : BitVec f.width :=
  let sum := units x + units y
  if sum = 0 then encode (isNegative x && isNegative y) 0
  else encode (decide (sum < 0)) (f.nearest sum.natAbs 0)

def mulFinite (x y : BitVec f.width) : BitVec f.width :=
  encode (isNegative x ^^ isNegative y)
    (f.nearest (f.magnitude (code x) * f.magnitude (code y)) f.scale)

def add (x y : BitVec f.width) : BitVec f.width :=
  if isNaN x then quiet x
  else if isNaN y then quiet y
  else if isInfinite x then
    if isInfinite y && isNegative x != isNegative y then defaultNaN else x
  else if isInfinite y then y
  else addFinite x y

def mul (x y : BitVec f.width) : BitVec f.width :=
  if isNaN x then quiet x
  else if isNaN y then quiet y
  else if isInfinite x || isInfinite y then
    if code x == 0 || code y == 0 then defaultNaN
    else encode (isNegative x ^^ isNegative y) f.infinity
  else mulFinite x y

/-- The fraction field of a NaN, aligned at the top bit with the fraction field of `g`. -/
def payload (g : Format) (x : BitVec f.width) : Nat :=
  (code x % 1 <<< f.fractionBits) <<< g.fractionBits >>> f.fractionBits

/-- The number of format `g` nearest to `x`. A NaN keeps its sign and what fits of its
fraction, and becomes quiet. -/
def convert (g : Format) (x : BitVec f.width) : BitVec g.width :=
  if isNaN x then quiet (encode (isNegative x) (g.infinity + payload g x))
  else if isInfinite x then encode (isNegative x) g.infinity
  else encode (isNegative x) (g.nearest (f.magnitude (code x) <<< g.scale) f.scale)

end TensorScan.Format
