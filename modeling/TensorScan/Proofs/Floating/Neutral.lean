import Mathlib
import TensorScan.Proofs.Floating.Rounding
import TensorScan.Word

set_option autoImplicit false

/-! # Zeros, ones and NaNs in floating-point arithmetic

What happens when zero is added to a number, or a number is multiplied by one. Nothing is rounded
then, so a number that is not zero comes back bit for bit, and so does any multiple of one. The
exception are the zeros: `+0` and `-0` add up to `+0`, so `+0` is not neutral (`add_encode_zero`).
A NaN does not come back unchanged, but what comes back is a NaN again.

Half precision goes through single precision. This is exact on the way there
(`Format.exists_single_magnitude`), so on the way back every number is met again
(`Format.exists_convert_single`), and the same laws hold.
-/

namespace TensorScan

namespace Format

variable {f : Format}

/-! ## Sign and code -/

theorem infinity_eq (f : Format) : f.infinity = 2 ^ f.codeWidth - 2 ^ f.fractionBits := by
  rw [infinity, Nat.one_shiftLeft, Nat.one_shiftLeft]

theorem infinity_lt (f : Format) : f.infinity < 2 ^ f.codeWidth := by
  have hpos : 0 < 2 ^ f.fractionBits := Nat.two_pow_pos _
  have hle : 2 ^ f.fractionBits ≤ 2 ^ f.codeWidth := by
    apply Nat.pow_le_pow_right (by decide)
    unfold codeWidth
    omega
  rw [infinity_eq]
  omega

theorem code_eq (x : BitVec f.width) : code x = x.toNat % 2 ^ f.codeWidth := by
  rw [code, Nat.one_shiftLeft]

theorem code_lt (x : BitVec f.width) : code x < 2 ^ f.codeWidth := by
  rw [code_eq]
  exact Nat.mod_lt _ (Nat.two_pow_pos _)

theorem toNat_encode {c : Nat} (hc : c < 2 ^ f.codeWidth) (negative : Bool) :
    (encode negative c : BitVec f.width).toNat = c + if negative then 2 ^ f.codeWidth else 0 := by
  have hwidth : 2 ^ f.width = 2 ^ f.codeWidth * 2 := Nat.pow_succ 2 f.codeWidth
  rw [encode, BitVec.toNat_ofNat, Nat.one_shiftLeft]
  apply Nat.mod_eq_of_lt
  split <;> omega

theorem code_encode {c : Nat} (hc : c < 2 ^ f.codeWidth) (negative : Bool) :
    code (encode negative c : BitVec f.width) = c := by
  rw [code_eq, toNat_encode hc]
  cases negative with
  | false => exact Nat.mod_eq_of_lt hc
  | true =>
      show (c + 2 ^ f.codeWidth) % 2 ^ f.codeWidth = c
      rw [Nat.add_mod_right]
      exact Nat.mod_eq_of_lt hc

theorem isNegative_eq (x : BitVec f.width) : isNegative x = decide (2 ^ f.codeWidth ≤ x.toNat) :=
  BitVec.msb_eq_decide x

theorem isNegative_encode {c : Nat} (hc : c < 2 ^ f.codeWidth) (negative : Bool) :
    isNegative (encode negative c : BitVec f.width) = negative := by
  rw [isNegative_eq, toNat_encode hc]
  cases negative with
  | false => simpa using hc
  | true => simp

/-- A word is made up of its sign and its code. -/
theorem encode_code (x : BitVec f.width) : encode (isNegative x) (code x) = x := by
  apply BitVec.eq_of_toNat_eq
  have hx : x.toNat < 2 ^ f.codeWidth * 2 := Nat.pow_succ 2 f.codeWidth ▸ x.isLt
  rw [toNat_encode (code_lt x), isNegative_eq, code_eq]
  by_cases hsign : 2 ^ f.codeWidth ≤ x.toNat
  · have hmod : x.toNat % 2 ^ f.codeWidth = x.toNat - 2 ^ f.codeWidth := by
      rw [Nat.mod_eq_sub_mod hsign]
      exact Nat.mod_eq_of_lt (by omega)
    simp only [hsign, decide_true, if_true]
    omega
  · simp only [hsign, decide_false, Bool.false_eq_true, if_false, Nat.add_zero]
    exact Nat.mod_eq_of_lt (by omega)

/-- Up to the sign there is one zero. -/
theorem encode_isNegative_zero {x : BitVec f.width} (h : code x = 0) :
    encode (isNegative x) 0 = x := by
  have hsplit := encode_code x
  rwa [h] at hsplit

/-! ## NaNs stay NaNs -/

theorem isNaN_iff {x : BitVec f.width} : isNaN x = true ↔ f.infinity < code x := by
  simp [isNaN]

theorem isInfinite_iff {x : BitVec f.width} : isInfinite x = true ↔ code x = f.infinity := by
  simp [isInfinite]

theorem isNaN_encode_false {c : Nat} (hc : c ≤ f.infinity) (negative : Bool) :
    isNaN (encode negative c : BitVec f.width) = false := by
  have hlt := f.infinity_lt
  rw [← Bool.not_eq_true, isNaN_iff, code_encode (by omega)]
  omega

/-- The code of infinity ends in as many zeros as the fraction has bits. -/
theorem infinity_eq_shiftLeft (f : Format) :
    f.infinity = (2 ^ f.exponentBits - 1) <<< f.fractionBits := by
  rw [infinity_eq, codeWidth, Nat.pow_add, Nat.shiftLeft_eq, Nat.sub_mul, Nat.one_mul]

theorem quietBit_eq (f : Format) : f.quietBit = 2 ^ (f.fractionBits - 1) := by
  rw [quietBit, Nat.one_shiftLeft]

theorem code_quiet (x : BitVec f.width) :
    code (quiet x) = code x ||| f.quietBit % 2 ^ f.codeWidth := by
  have hwidth : f.codeWidth ≤ f.width := Nat.le_succ _
  rw [code_eq, code_eq, quiet, BitVec.toNat_or, BitVec.toNat_ofNat, Nat.or_mod_two_pow,
    Nat.mod_mod_of_dvd _ (Nat.pow_dvd_pow 2 hwidth)]

theorem isNaN_quiet {x : BitVec f.width} (h : isNaN x = true) : isNaN (quiet x) = true := by
  rw [isNaN_iff] at h ⊢
  rw [code_quiet]
  exact h.trans_le Nat.left_le_or

/-- What has the code of infinity and some fraction is a NaN once its quiet bit is set. -/
theorem isNaN_quiet_encode (hbits : 0 < f.fractionBits) {fraction : Nat}
    (hfraction : fraction < 2 ^ f.fractionBits) (negative : Bool) :
    isNaN (quiet (encode negative (f.infinity + fraction) : BitVec f.width)) = true := by
  have hquiet : f.quietBit < 2 ^ f.fractionBits := by
    rw [quietBit_eq]
    exact Nat.pow_lt_pow_right (by decide) (by omega)
  have hpos : 0 < f.quietBit := by
    rw [quietBit_eq]
    exact Nat.two_pow_pos _
  have hle : 2 ^ f.fractionBits ≤ 2 ^ f.codeWidth := by
    apply Nat.pow_le_pow_right (by decide)
    unfold codeWidth
    omega
  have hcode : f.infinity + fraction < 2 ^ f.codeWidth := by
    rw [infinity_eq]
    omega
  rw [isNaN_iff, code_quiet, code_encode hcode, Nat.mod_eq_of_lt (by omega)]
  -- the quiet bit is a bit of the fraction, so setting it leaves the exponent field alone
  have hsplit : (f.infinity + fraction) ||| f.quietBit =
      f.infinity + (fraction ||| f.quietBit) := by
    rw [infinity_eq_shiftLeft, Nat.shiftLeft_add_eq_or_of_lt hfraction, Nat.or_assoc,
      Nat.shiftLeft_add_eq_or_of_lt (Nat.or_lt_two_pow hfraction hquiet)]
  have hor : f.quietBit ≤ fraction ||| f.quietBit := Nat.right_le_or
  rw [hsplit]
  omega

theorem isNaN_add_left {x : BitVec f.width} (h : isNaN x = true) (y : BitVec f.width) :
    isNaN (add x y) = true := by
  rw [add, if_pos h]
  exact isNaN_quiet h

theorem isNaN_add_right {x y : BitVec f.width} (hx : isNaN x = false) (hy : isNaN y = true) :
    isNaN (add x y) = true := by
  rw [add, if_neg (by simp [hx]), if_pos hy]
  exact isNaN_quiet hy

theorem isNaN_mul_left {x : BitVec f.width} (h : isNaN x = true) (y : BitVec f.width) :
    isNaN (mul x y) = true := by
  rw [mul, if_pos h]
  exact isNaN_quiet h

theorem isNaN_mul_right {x y : BitVec f.width} (hx : isNaN x = false) (hy : isNaN y = true) :
    isNaN (mul x y) = true := by
  rw [mul, if_neg (by simp [hx]), if_pos hy]
  exact isNaN_quiet hy

theorem payload_lt (g : Format) (x : BitVec f.width) : payload g x < 2 ^ g.fractionBits := by
  have hrest : code x % 2 ^ f.fractionBits < 2 ^ f.fractionBits :=
    Nat.mod_lt _ (Nat.two_pow_pos _)
  rw [payload, Nat.one_shiftLeft, Nat.shiftLeft_eq, Nat.shiftRight_eq_div_pow]
  apply Nat.div_lt_of_lt_mul
  exact Nat.mul_lt_mul_of_pos_right hrest (Nat.two_pow_pos _)

theorem isNaN_convert (g : Format) (hbits : 0 < g.fractionBits) {x : BitVec f.width}
    (h : isNaN x = true) : isNaN (convert g x) = true := by
  rw [convert, if_pos h]
  exact isNaN_quiet_encode hbits (payload_lt g x) _

/-! ## Adding zero -/

@[simp] theorem magnitude_zero (f : Format) : f.magnitude 0 = 0 := by
  simp [magnitude, significand]

/-- Only the zeros are worth nothing. -/
theorem magnitude_eq_zero {c : Nat} (hc : c ≤ f.infinity) : f.magnitude c = 0 ↔ c = 0 := by
  constructor
  · intro h
    have hzero := f.nearest_magnitude (Nat.zero_le f.infinity) 0
    have hcode := f.nearest_magnitude hc 0
    rw [h] at hcode
    rw [magnitude_zero] at hzero
    exact hcode.symm.trans hzero
  · rintro rfl
    exact f.magnitude_zero

/-- A finite number that is not zero is rounded to itself. -/
theorem encode_nearest_units {y : BitVec f.width} (hcode : code y ≤ f.infinity)
    (hunits : units y ≠ 0) :
    encode (decide (units y < 0)) (f.nearest (units y).natAbs 0) = y := by
  have hnearest := f.nearest_magnitude hcode 0
  rw [Nat.pow_zero, Nat.mul_one] at hnearest
  have habs : (units y).natAbs = f.magnitude (code y) := by
    unfold units
    split <;> simp
  have hsign : decide (units y < 0) = isNegative y := by
    unfold units at hunits ⊢
    cases hnegative : isNegative y with
    | false => simp
    | true =>
        simp only [hnegative, if_true] at hunits ⊢
        simp only [decide_eq_true_eq]
        omega
  rw [habs, hsign, hnearest, encode_code]

theorem units_eq_zero {y : BitVec f.width} (hcode : code y ≤ f.infinity) :
    units y = 0 ↔ code y = 0 := by
  rw [← magnitude_eq_zero hcode]
  unfold units
  split <;> omega

/-- **Adding a zero** gives the other number back, unless this is a zero too: the sum of two zeros
is negative only if both are. -/
theorem add_encode_zero (hfinite : 0 < f.infinity) (negative : Bool) {y : BitVec f.width}
    (hy : isNaN y = false) :
    add (encode negative 0) y = if code y = 0 then encode (negative && isNegative y) 0 else y := by
  have hzero : code (encode negative 0 : BitVec f.width) = 0 :=
    code_encode (Nat.two_pow_pos _) negative
  have hsign : isNegative (encode negative 0 : BitVec f.width) = negative :=
    isNegative_encode (Nat.two_pow_pos _) negative
  have hnumber : ¬ isInfinite (encode negative 0 : BitVec f.width) = true := by
    rw [isInfinite_iff, hzero]
    omega
  have hcode : code y ≤ f.infinity := by
    rw [← Bool.not_eq_true, isNaN_iff] at hy
    omega
  rw [add, isNaN_encode_false (Nat.zero_le _), if_neg Bool.false_ne_true, hy,
    if_neg Bool.false_ne_true, if_neg hnumber]
  by_cases hinfinite : isInfinite y = true
  · have hne : code y ≠ 0 := by
      rw [isInfinite_iff.1 hinfinite]
      omega
    rw [if_pos hinfinite, if_neg hne]
  · have hunits : units (encode negative 0 : BitVec f.width) = 0 :=
      (units_eq_zero (by omega)).2 hzero
    simp only [if_neg hinfinite, addFinite, hunits, Int.zero_add, hsign, units_eq_zero hcode]
    split
    · rfl
    · rename_i hne
      exact encode_nearest_units hcode fun hsum => hne ((units_eq_zero hcode).1 hsum)

/-! ## Multiplying by one -/

theorem oneCode_single : single.oneCode < single.infinity := by decide

/-- One is as many units as its scale says. -/
theorem magnitude_oneCode_single : single.magnitude single.oneCode = 2 ^ single.scale := by decide

/-- **Multiplying by one** gives the other number back. -/
theorem mul_one_left {y : BitVec single.width} (hy : isNaN y = false) : mul one y = y := by
  have hlt := oneCode_single
  have hcode_one : code (one : BitVec single.width) = single.oneCode :=
    code_encode (hlt.trans single.infinity_lt) false
  have hsign : isNegative (one : BitVec single.width) = false :=
    isNegative_encode (hlt.trans single.infinity_lt) false
  have hone : isNaN (one : BitVec single.width) = false := isNaN_encode_false (by omega) false
  have hnumber : ¬ isInfinite (one : BitVec single.width) = true := by
    rw [isInfinite_iff, hcode_one]
    omega
  have hcode : code y ≤ single.infinity := by
    rw [← Bool.not_eq_true, isNaN_iff] at hy
    omega
  rw [mul, hone, if_neg Bool.false_ne_true, hy, if_neg Bool.false_ne_true]
  by_cases hinfinite : isInfinite y = true
  · have hcode_y := isInfinite_iff.1 hinfinite
    have hone_ne : single.oneCode ≠ 0 := by decide
    have hinfinity_ne : single.infinity ≠ 0 := by omega
    simp only [hinfinite, Bool.or_true, if_true, hcode_one, hcode_y, beq_iff_eq, Bool.or_eq_true,
      hone_ne, hinfinity_ne, or_self, if_false, hsign, Bool.false_xor]
    rw [← hcode_y, encode_code]
  · have hnearest := single.nearest_magnitude hcode single.scale
    rw [Nat.mul_comm, ← magnitude_oneCode_single] at hnearest
    simp only [hnumber, hinfinite, Bool.or_eq_true, or_self, mulFinite, hsign, Bool.false_xor,
      hcode_one, hnearest, encode_code, Bool.false_eq_true, if_false]

/-! ## Half precision through single precision -/

/-- Every product of a short number and a power of two is the worth of a code, which is not large
if the power is not. -/
theorem exists_magnitude (f : Format) {s : Nat} (hs : s < 2 ^ (f.fractionBits + 1)) (e : Nat) :
    ∃ c, f.magnitude c = s * 2 ^ e ∧ c < (e + 2) * 2 ^ f.fractionBits := by
  have hpos : 0 < 2 ^ f.fractionBits := Nat.two_pow_pos _
  rw [Nat.pow_succ] at hs
  induction e generalizing s with
  | zero =>
      have hshift : f.shift s = 0 := by
        have hdiv : s / 2 ^ f.fractionBits < 2 := by
          apply Nat.div_lt_of_lt_mul
          omega
        rw [shift_eq]
        omega
      refine ⟨s, ?_, by omega⟩
      simp [magnitude, significand, hshift]
  | succ e ih =>
      have htwo : (e + 2) * 2 ^ f.fractionBits =
          (e + 1) * 2 ^ f.fractionBits + 2 ^ f.fractionBits := Nat.succ_mul _ _
      have hthree : (e + 1 + 2) * 2 ^ f.fractionBits =
          (e + 2) * 2 ^ f.fractionBits + 2 ^ f.fractionBits := Nat.succ_mul _ _
      by_cases hleading : 2 ^ f.fractionBits ≤ s
      · -- the number has its leading one, and the power is the exponent
        have hdiv : ((e + 1) * 2 ^ f.fractionBits + s) / 2 ^ f.fractionBits = e + 2 := by
          rw [Nat.add_comm, Nat.add_mul_div_right _ _ hpos]
          have hone : s / 2 ^ f.fractionBits = 1 :=
            Nat.div_eq_of_lt_le (by omega) (by omega)
          omega
        have hshift : f.shift ((e + 1) * 2 ^ f.fractionBits + s) = e + 1 := by
          rw [shift_eq, hdiv]
          rfl
        refine ⟨(e + 1) * 2 ^ f.fractionBits + s, ?_, ?_⟩
        · rw [magnitude_eq, significand_eq, hshift, Nat.add_sub_cancel_left]
        · omega
      · obtain ⟨c, hmagnitude, hc⟩ := ih (s := s * 2) (by omega)
        refine ⟨c, ?_, by omega⟩
        rw [hmagnitude, Nat.pow_succ]
        ring

/-- The least subnormal of half precision is `2 ^ 125` times that of single precision. -/
theorem exists_single_magnitude {c : Nat} (hc : c < half.infinity) :
    ∃ c', single.magnitude c' = half.magnitude c * 2 ^ 125 ∧ c' < single.infinity := by
  have hshort : half.significand c < 2 ^ (single.fractionBits + 1) := by
    calc half.significand c < 2 ^ (half.fractionBits + 1) := half.significand_lt c
      _ ≤ 2 ^ (single.fractionBits + 1) := by decide
  have hshift : half.shift c ≤ 29 := by
    have hlarge : c < 31744 := hc
    have hdiv : c / 2 ^ half.fractionBits < 31 := Nat.div_lt_of_lt_mul hlarge
    rw [shift_eq]
    omega
  obtain ⟨c', hmagnitude, hlt⟩ := exists_magnitude single hshort (half.shift c + 125)
  refine ⟨c', ?_, ?_⟩
  · rw [hmagnitude, half.magnitude_eq, Nat.pow_add, Nat.mul_assoc]
  · calc c' < (half.shift c + 125 + 2) * 2 ^ single.fractionBits := hlt
      _ ≤ 156 * 2 ^ single.fractionBits := Nat.mul_le_mul_right _ (by omega)
      _ ≤ single.infinity := by decide

/-- **There and back.** A number of half precision has a code in single precision from which it is
read back, with whatever sign. -/
theorem exists_convert_single {x : BitVec half.width} (hx : isNaN x = false) :
    ∃ c ≤ single.infinity, convert single x = encode (isNegative x) c ∧ (c = 0 ↔ code x = 0) ∧
      ∀ negative, convert half (encode negative c : BitVec single.width) =
        encode negative (code x) := by
  have hlt := single.infinity_lt
  by_cases hinfinite : isInfinite x = true
  · have hcode := isInfinite_iff.1 hinfinite
    refine ⟨single.infinity, Nat.le_refl _, ?_, ?_, ?_⟩
    · rw [convert, hx, if_neg Bool.false_ne_true, if_pos hinfinite]
    · rw [hcode]
      decide
    · intro negative
      have hback : isInfinite (encode negative single.infinity : BitVec single.width) = true := by
        rw [isInfinite_iff, code_encode hlt]
      rw [convert, isNaN_encode_false (Nat.le_refl _), if_neg Bool.false_ne_true, if_pos hback,
        isNegative_encode hlt, hcode]
  · have hfinite : code x < half.infinity := by
      rw [← Bool.not_eq_true, isNaN_iff] at hx
      rw [isInfinite_iff] at hinfinite
      omega
    obtain ⟨c, hmagnitude, hc⟩ := exists_single_magnitude hfinite
    have hscale : single.scale = 125 + half.scale := by decide
    -- in units of either format the number is the same
    have hthere : half.magnitude (code x) <<< single.scale =
        single.magnitude c * 2 ^ half.scale := by
      rw [Nat.shiftLeft_eq, hmagnitude, hscale, Nat.pow_add, Nat.mul_assoc]
    have hback : single.magnitude c <<< half.scale =
        half.magnitude (code x) * 2 ^ single.scale := by
      rw [Nat.shiftLeft_eq, ← hthere, Nat.shiftLeft_eq]
    refine ⟨c, Nat.le_of_lt hc, ?_, ?_, ?_⟩
    · rw [convert, hx, if_neg Bool.false_ne_true, if_neg hinfinite, hthere,
        single.nearest_magnitude (Nat.le_of_lt hc)]
    · rw [← magnitude_eq_zero (Nat.le_of_lt hc), hmagnitude,
        ← magnitude_eq_zero (Nat.le_of_lt hfinite)]
      simp
    · intro negative
      have hcode : code (encode negative c : BitVec single.width) = c :=
        code_encode (hc.trans hlt) negative
      have hnumber : ¬ isInfinite (encode negative c : BitVec single.width) = true := by
        rw [isInfinite_iff, hcode]
        omega
      rw [convert, isNaN_encode_false (Nat.le_of_lt hc), if_neg Bool.false_ne_true,
        if_neg hnumber, isNegative_encode (hc.trans hlt), hcode, hback,
        half.nearest_magnitude (Nat.le_of_lt hfinite)]

/-- Adding a zero in half precision is what it is in single precision. -/
theorem viaSingle_add_zero (negative : Bool) {y : BitVec half.width} (hy : isNaN y = false) :
    Word.viaSingle add (encode negative 0) y =
      if code y = 0 then encode (negative && isNegative y) 0 else y := by
  obtain ⟨c, hc, hthere, hzero, hback⟩ := exists_convert_single hy
  have hlt : c < 2 ^ single.codeWidth := hc.trans_lt single.infinity_lt
  have hconvert : convert single (encode negative 0 : BitVec half.width) = encode negative 0 := by
    cases negative <;> decide +kernel
  have hconvert_back (sign : Bool) :
      convert half (encode sign 0 : BitVec single.width) = encode sign 0 := by
    cases sign <;> decide +kernel
  rw [Word.viaSingle, hconvert, hthere, add_encode_zero (by decide) _ (isNaN_encode_false hc _),
    code_encode hlt, isNegative_encode hlt]
  by_cases hcode : code y = 0
  · rw [if_pos (hzero.2 hcode), if_pos hcode, hconvert_back]
  · rw [if_neg (mt hzero.1 hcode), if_neg hcode, hback, encode_code]

theorem viaSingle_mul_one {y : BitVec half.width} (hy : isNaN y = false) :
    Word.viaSingle mul one y = y := by
  obtain ⟨c, hc, hthere, _, hback⟩ := exists_convert_single hy
  have hone : convert single (one : BitVec half.width) = one := by decide +kernel
  rw [Word.viaSingle, hone, hthere, mul_one_left (isNaN_encode_false hc _), hback, encode_code]

end Format

end TensorScan
