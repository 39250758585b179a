import Mathlib
import TensorScan.Floating.Rounding

set_option autoImplicit false

/-! # Rounding of what a format can hold

The law that ties rounding to the meaning of codes is `Format.nearest_magnitude`: a magnitude
that the format can hold is rounded to its own code. It rests on `Format.placesDown_magnitude`:
the places by which rounding moves a magnitude down are those by which its code says that the
significand was moved up.

The definitions move numbers by places; here this is multiplication by powers of two.
-/

namespace TensorScan.Format

variable (f : Format)

theorem shift_eq (code : Nat) : f.shift code = code / 2 ^ f.fractionBits - 1 := by
  rw [shift, Nat.shiftRight_eq_div_pow]

theorem significand_eq (code : Nat) :
    f.significand code = code - f.shift code * 2 ^ f.fractionBits := by
  rw [significand, Nat.shiftLeft_eq]

theorem magnitude_eq (code : Nat) :
    f.magnitude code = f.significand code * 2 ^ f.shift code := by
  rw [magnitude, Nat.shiftLeft_eq]

theorem nearest_eq (num k : Nat) :
    f.nearest num k = min (f.placesDown num k * 2 ^ f.fractionBits +
      roundHalfEven num (2 ^ (f.placesDown num k + k))) f.infinity := by
  rw [nearest, Nat.shiftLeft_eq, Nat.one_shiftLeft]

theorem shift_mul_add_significand (code : Nat) :
    f.shift code * 2 ^ f.fractionBits + f.significand code = code := by
  have hshift : f.shift code ≤ code / 2 ^ f.fractionBits := by
    rw [shift_eq]
    exact Nat.sub_le _ _
  have hle : f.shift code * 2 ^ f.fractionBits ≤ code := by
    calc f.shift code * 2 ^ f.fractionBits
        ≤ code / 2 ^ f.fractionBits * 2 ^ f.fractionBits :=
          Nat.mul_le_mul_right _ hshift
      _ ≤ code := Nat.div_mul_le_self _ _
  rw [significand_eq]
  omega

theorem significand_lt (code : Nat) : f.significand code < 2 ^ (f.fractionBits + 1) := by
  have hpos : 0 < 2 ^ f.fractionBits := Nat.two_pow_pos _
  have hsum := f.shift_mul_add_significand code
  have hdiv : code < code / 2 ^ f.fractionBits * 2 ^ f.fractionBits + 2 ^ f.fractionBits :=
    Nat.lt_div_mul_add hpos
  have hshift : code / 2 ^ f.fractionBits ≤ f.shift code + 1 := by
    rw [shift_eq]
    omega
  have hmul : code / 2 ^ f.fractionBits * 2 ^ f.fractionBits ≤
      f.shift code * 2 ^ f.fractionBits + 2 ^ f.fractionBits := by
    calc code / 2 ^ f.fractionBits * 2 ^ f.fractionBits
        ≤ (f.shift code + 1) * 2 ^ f.fractionBits := Nat.mul_le_mul_right _ hshift
      _ = f.shift code * 2 ^ f.fractionBits + 2 ^ f.fractionBits := by
          rw [Nat.add_mul, Nat.one_mul]
  rw [Nat.pow_succ]
  omega

/-- The significand of a number that was moved up has its leading one. -/
theorem le_significand {code : Nat} (h : 0 < f.shift code) :
    2 ^ f.fractionBits ≤ f.significand code := by
  have hsum := f.shift_mul_add_significand code
  have hdiv : code / 2 ^ f.fractionBits = f.shift code + 1 := by
    rw [shift_eq] at h ⊢
    omega
  have hle := Nat.div_mul_le_self code (2 ^ f.fractionBits)
  rw [hdiv, Nat.add_mul, Nat.one_mul] at hle
  omega

/-- A magnitude is moved down by as many places as its significand was moved up. -/
theorem placesDown_magnitude (code k : Nat) :
    f.placesDown (f.magnitude code * 2 ^ k) k = f.shift code := by
  have hlt := f.significand_lt code
  have hmag : f.magnitude code * 2 ^ k = f.significand code * 2 ^ (f.shift code + k) := by
    rw [magnitude_eq, Nat.pow_add, ← Nat.mul_assoc]
  unfold placesDown
  rw [hmag]
  by_cases hzero : f.significand code = 0
  · have hshift : f.shift code = 0 := by
      cases hs : f.shift code with
      | zero => rfl
      | succ n =>
          have hmoved : 0 < f.shift code := by omega
          have hge := f.le_significand hmoved
          have hpos : 0 < 2 ^ f.fractionBits := Nat.two_pow_pos _
          omega
    simp [hzero, hshift]
  · have hlog : (f.significand code * 2 ^ (f.shift code + k)).log2 =
        (f.significand code).log2 + (f.shift code + k) := by
      have hne : f.significand code * 2 ^ (f.shift code + k) ≠ 0 := by
        have hpos : 0 < 2 ^ (f.shift code + k) := Nat.two_pow_pos _
        exact Nat.mul_ne_zero hzero (by omega)
      rw [Nat.log2_eq_iff hne]
      constructor
      · rw [Nat.pow_add]
        exact Nat.mul_le_mul_right _ (Nat.log2_self_le hzero)
      · rw [Nat.add_right_comm, Nat.pow_add 2 ((f.significand code).log2 + 1)]
        exact Nat.mul_lt_mul_of_pos_right Nat.lt_log2_self (Nat.two_pow_pos _)
    rw [hlog]
    have hup : (f.significand code).log2 < f.fractionBits + 1 := (Nat.log2_lt hzero).2 hlt
    by_cases hs : f.shift code = 0
    · omega
    · have hmoved : 0 < f.shift code := by omega
      have hge := f.le_significand hmoved
      have hlow : f.fractionBits ≤ (f.significand code).log2 := (Nat.le_log2 hzero).2 hge
      omega

/-- A magnitude that the format can hold is rounded to its own code. -/
theorem nearest_magnitude {code : Nat} (h : code ≤ f.infinity) (k : Nat) :
    f.nearest (f.magnitude code * 2 ^ k) k = code := by
  have hmag : f.magnitude code * 2 ^ k = f.significand code * 2 ^ (f.shift code + k) := by
    rw [magnitude_eq, Nat.pow_add, ← Nat.mul_assoc]
  rw [nearest_eq, placesDown_magnitude, hmag, roundHalfEven_mul _ _ (Nat.two_pow_pos _),
    shift_mul_add_significand]
  exact Nat.min_eq_left h

end TensorScan.Format
