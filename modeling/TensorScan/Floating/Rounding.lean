import TensorScan.Floating.Format

set_option autoImplicit false

/-! # Rounding to nearest, ties to even

`roundHalfEven` rounds a quotient of natural numbers, and `Format.nearest` finds the code
nearest to a magnitude that is given exactly, as a number of units over a power of two. What
is at least half a step beyond the largest finite number becomes infinity.
-/

namespace TensorScan

/-- The natural number nearest to `num / den`; of two equally near ones the even one. -/
def roundHalfEven (num den : Nat) : Nat :=
  if 2 * (num % den) < den then num / den
  else if den < 2 * (num % den) then num / den + 1
  else num / den + num / den % 2

theorem roundHalfEven_mul (q den : Nat) (h : 0 < den) : roundHalfEven (q * den) den = q := by
  simp [roundHalfEven, h]

namespace Format

variable (f : Format)

/-- The number of places by which a magnitude of `num / 2 ^ k` units is moved down, so that what
is left of it fits the significand. -/
def placesDown (num k : Nat) : Nat := num.log2 - k - f.fractionBits

/-- The code of the finite number, or of infinity, nearest to `num / 2 ^ k` units. A carry out
of the rounded significand is a carry into the exponent field. -/
def nearest (num k : Nat) : Nat :=
  min (f.placesDown num k <<< f.fractionBits +
    roundHalfEven num (1 <<< (f.placesDown num k + k))) f.infinity

end Format

end TensorScan
