import Mathlib
import TensorScan.Proofs.Floating.Neutral
import TensorScan.Scan.Mode

set_option autoImplicit false

/-! # Accumulating one element

Is what an accumulation starts from neutral? Elements are compared as numbers here: two words are
the same number when their bits agree or when both are NaNs (`Word.Same`). Then one is neutral in
products of every element type, and zero is neutral in sums of integers. In sums of floats it is
neutral for every element but one, the negative zero, which it turns into the positive one
(`Accumulation.same_identity_combine`, `Word.add_zero_negZero`). The number that is neutral in sums
of floats is the negative zero itself (`Word.same_add_negZero`).
-/

namespace TensorScan

namespace Word

/-- The same bits, or two NaNs. -/
def Same (d : DType) (x y : Word d) : Prop := x = y ∨ isNaN d x = true ∧ isNaN d y = true

instance (d : DType) (x y : Word d) : Decidable (Same d x y) :=
  inferInstanceAs (Decidable (_ ∨ _))

theorem Same.refl (d : DType) (x : Word d) : Same d x x := Or.inl rfl

/-- Two words that are the same as a third are the same. -/
theorem Same.of_common {d : DType} {x y z : Word d} (hx : Same d x z) (hy : Same d y z) :
    Same d x y := by
  rcases hx with rfl | ⟨hx, hz⟩
  · rcases hy with rfl | ⟨hy, hx⟩
    · exact Same.refl d _
    · exact Or.inr ⟨hx, hy⟩
  · rcases hy with rfl | ⟨hy, _⟩
    · exact Or.inr ⟨hx, hz⟩
    · exact Or.inr ⟨hx, hy⟩

/-- Zero with its sign bit set, where there is one. -/
def negZero : (d : DType) → Word d
  | .f32 => Format.encode (f := .single) true 0
  | .f16 => Format.encode (f := .half) true 0
  | .i64 => 0
  | .i32 => 0

end Word

/-! ## Formats with a sum -/

namespace Format

/-- What is known of the sum of two numbers of a format when one of them is zero or a NaN. -/
structure Sums {f : Format} (op : BitVec f.width → BitVec f.width → BitVec f.width) : Prop where
  /-- A zero leaves every other number as it is. -/
  zero_left (negative : Bool) {y : BitVec f.width} (hy : isNaN y = false) :
    op (encode negative 0) y = if code y = 0 then encode (negative && isNegative y) 0 else y
  nan_right (x : BitVec f.width) {y : BitVec f.width} (hy : isNaN y = true) :
    isNaN (op x y) = true

theorem sums_single : Sums (f := .single) add where
  zero_left negative _ hy := add_encode_zero (by decide) negative hy
  nan_right x _ hy := by
    cases hx : isNaN x with
    | true => exact isNaN_add_left hx _
    | false => exact isNaN_add_right hx hy

theorem sums_half : Sums (f := .half) (Word.viaSingle add) where
  zero_left negative _ hy := viaSingle_add_zero negative hy
  nan_right x y hy := by
    have hbits : 0 < single.fractionBits := by decide
    exact isNaN_convert half (by decide)
      (sums_single.nan_right _ (isNaN_convert single hbits hy))

namespace Sums

variable {f : Format} {op : BitVec f.width → BitVec f.width → BitVec f.width}

theorem posZero_left (h : Sums op) {y : BitVec f.width} (hy : y ≠ encode true 0) :
    op (encode false 0) y = y ∨ isNaN (op (encode false 0) y) = true ∧ isNaN y = true := by
  cases hnan : isNaN y with
  | true => exact Or.inr ⟨h.nan_right _ hnan, rfl⟩
  | false =>
      left
      rw [h.zero_left false hnan]
      split
      · -- the other number is a zero, and not the negative one
        rename_i hcode
        have hzero := encode_isNegative_zero hcode
        cases hsign : isNegative y with
        | true =>
            rw [hsign] at hzero
            exact absurd hzero.symm hy
        | false =>
            rw [hsign] at hzero
            exact hzero
      · rfl

theorem negZero_left (h : Sums op) (y : BitVec f.width) :
    op (encode true 0) y = y ∨ isNaN (op (encode true 0) y) = true ∧ isNaN y = true := by
  cases hnan : isNaN y with
  | true => exact Or.inr ⟨h.nan_right _ hnan, rfl⟩
  | false =>
      left
      rw [h.zero_left true hnan]
      split
      · rename_i hcode
        exact encode_isNegative_zero hcode
      · rfl

end Sums

end Format

/-! ## Neutral elements -/

namespace Word

variable {d : DType}

theorem same_add_zero (hd : d.isFloat = true) {x : Word d} (hx : x ≠ negZero d) :
    Same d (add d (zero d) x) x := by
  cases d with
  | f32 => exact Format.sums_single.posZero_left hx
  | f16 => exact Format.sums_half.posZero_left hx
  | i64 => contradiction
  | i32 => contradiction

theorem same_add_negZero (hd : d.isFloat = true) (x : Word d) :
    Same d (add d (negZero d) x) x := by
  cases d with
  | f32 => exact Format.sums_single.negZero_left x
  | f16 => exact Format.sums_half.negZero_left x
  | i64 => contradiction
  | i32 => contradiction

theorem add_zero_negZero (hd : d.isFloat = true) : add d (zero d) (negZero d) = zero d := by
  cases d with
  | f32 => decide +kernel
  | f16 => decide +kernel
  | i64 => contradiction
  | i32 => contradiction

theorem add_negZero_negZero (d : DType) : add d (negZero d) (negZero d) = negZero d := by
  cases d <;> decide +kernel

theorem same_mul_one (d : DType) (x : Word d) : Same d (mul d (one d) x) x := by
  cases d with
  | f32 =>
      cases hnan : isNaN .f32 x with
      | true => exact Or.inr ⟨Format.isNaN_mul_right (by decide +kernel) hnan, hnan⟩
      | false => exact Or.inl (Format.mul_one_left hnan)
  | f16 =>
      cases hnan : isNaN .f16 x with
      | true =>
          have hwide := Format.isNaN_convert .single (by decide) hnan
          refine Or.inr ⟨Format.isNaN_convert .half (by decide) ?_, hnan⟩
          exact Format.isNaN_mul_right (by decide +kernel) hwide
      | false => exact Or.inl (Format.viaSingle_mul_one hnan)
  | i64 => exact Or.inl (BitVec.one_mul x)
  | i32 => exact Or.inl (BitVec.one_mul x)

end Word

namespace Accumulation

variable (op : Accumulation) {d : DType}

/-- **The first element.** Taken in first, an element is what it was, unless it is a negative zero
that a sum takes in. -/
theorem same_identity_combine {x : Word d}
    (h : ¬ (op = .sum ∧ d.isFloat = true ∧ x = Word.negZero d)) :
    Word.Same d (op.combine d (op.identity d) x) x := by
  cases op with
  | sum =>
      cases hfloat : d.isFloat with
      | true => exact Word.same_add_zero hfloat fun hx => h ⟨rfl, hfloat, hx⟩
      | false =>
          cases d with
          | f32 => contradiction
          | f16 => contradiction
          | i64 => exact Or.inl (BitVec.zero_add x)
          | i32 => exact Or.inl (BitVec.zero_add x)
  | product => exact Word.same_mul_one d x

/-- Once a NaN is accumulated, all that follows is a NaN. -/
theorem isNaN_combine {acc : Word d} (h : Word.isNaN d acc = true) (x : Word d) :
    Word.isNaN d (op.combine d acc x) = true := by
  cases d with
  | f32 =>
      cases op with
      | sum => exact Format.isNaN_add_left h x
      | product => exact Format.isNaN_mul_left h x
  | f16 =>
      have hwide := Format.isNaN_convert .single (by decide) h
      cases op with
      | sum => exact Format.isNaN_convert .half (by decide) (Format.isNaN_add_left hwide _)
      | product => exact Format.isNaN_convert .half (by decide) (Format.isNaN_mul_left hwide _)
  | i64 => contradiction
  | i32 => contradiction

/-- What is the same before an element is taken in is the same after it. -/
theorem same_combine {acc acc' : Word d} (h : Word.Same d acc acc') (x : Word d) :
    Word.Same d (op.combine d acc x) (op.combine d acc' x) := by
  rcases h with rfl | ⟨hacc, hacc'⟩
  · exact Word.Same.refl d _
  · exact Or.inr ⟨op.isNaN_combine hacc x, op.isNaN_combine hacc' x⟩

end Accumulation

end TensorScan
