import Mathlib
import TensorScan.Proofs.Operator.Kernel
import TensorScan.Proofs.Scan.Steps
import TensorScan.Proofs.Word

set_option autoImplicit false

/-! # Inclusive scans without an identity

An inclusive scan can be described without the identity of its operation: at the first step of a
line stands the element itself, and at every later step what stood at the step before, combined with
the element of this step. `Accumulation.fromFirst` is this recurrence.

The walk of a line starts from the identity all the same and takes in the first element like any
other. The two descriptions agree when the identity is neutral for the first element, and afterwards
they stay together. They disagree for sums of floats on a line that starts with negative zeros:
as long as nothing else is visited, the walk has the positive zero where the recurrence has the
negative one (`Accumulation.OnlyNegZeros`). The next element of another value brings them together
again. This is the only difference (`ScanKernel.run_inclusive`).
-/

namespace TensorScan

namespace Accumulation

variable (op : Accumulation) {d : DType} (element : Nat → Word d)

/-- What is accumulated at a step when the first element is where the accumulation starts. -/
def fromFirst (op : Accumulation) (d : DType) (element : Nat → Word d) (step : Nat) : Word d :=
  ((List.range step).map fun j => element (j + 1)).foldl (op.combine d) (element 0)

/-- Are negative zeros added up, and nothing else until this step? -/
def OnlyNegZeros (op : Accumulation) (d : DType) (element : Nat → Word d) (step : Nat) : Prop :=
  op = .sum ∧ d.isFloat = true ∧ ∀ j ≤ step, element j = Word.negZero d

@[simp] theorem fromFirst_zero : op.fromFirst d element 0 = element 0 := rfl

theorem fromFirst_succ (step : Nat) :
    op.fromFirst d element (step + 1) =
      op.combine d (op.fromFirst d element step) (element (step + 1)) := by
  rw [fromFirst, List.range_succ, List.map_append, List.foldl_append]
  rfl

/-- While negative zeros are added up, the walk keeps the zero that it starts from. -/
theorem OnlyNegZeros.total_eq {op : Accumulation} {element : Nat → Word d} {step : Nat}
    (h : op.OnlyNegZeros d element step) :
    op.total d ((List.range (step + 1)).map element) = Word.zero d ∧
      op.fromFirst d element step = Word.negZero d := by
  obtain ⟨rfl, hfloat, hall⟩ := h
  induction step with
  | zero =>
      have hfirst := hall 0 (Nat.le_refl 0)
      rw [total_range_succ, fromFirst_zero, hfirst]
      exact ⟨Word.add_zero_negZero hfloat, rfl⟩
  | succ step ih =>
      obtain ⟨htotal, hfrom⟩ := ih fun j hj => hall j (Nat.le_succ_of_le hj)
      have hlast := hall (step + 1) (Nat.le_refl _)
      rw [total_range_succ, fromFirst_succ, htotal, hfrom, hlast]
      exact ⟨Word.add_zero_negZero hfloat, Word.add_negZero_negZero d⟩

/-- Otherwise the walk and the recurrence have the same number at every step. -/
theorem same_total_fromFirst {step : Nat} (h : ¬ op.OnlyNegZeros d element step) :
    Word.Same d (op.total d ((List.range (step + 1)).map element))
      (op.fromFirst d element step) := by
  induction step with
  | zero =>
      refine op.same_identity_combine fun hlost => h ?_
      obtain ⟨hop, hfloat, hfirst⟩ := hlost
      refine ⟨hop, hfloat, fun j hj => ?_⟩
      rw [Nat.le_zero.1 hj, hfirst]
  | succ step ih =>
      rw [total_range_succ, fromFirst_succ]
      by_cases hzeros : op.OnlyNegZeros d element step
      · -- up to here there were zeros only, and both signs of zero give way to this element
        obtain ⟨htotal, hfrom⟩ := hzeros.total_eq
        obtain ⟨rfl, hfloat, hall⟩ := hzeros
        have hlast : element (step + 1) ≠ Word.negZero d := by
          intro hlast
          refine h ⟨rfl, hfloat, fun j hj => ?_⟩
          rcases Nat.le_succ_iff.1 hj with hle | rfl
          · exact hall j hle
          · exact hlast
        rw [htotal, hfrom]
        exact Word.Same.of_common (Word.same_add_zero hfloat hlast)
          (Word.same_add_negZero hfloat _)
      · exact op.same_combine (ih hzeros) _

end Accumulation

/-- **An inclusive scan, without the identity.** A run of a kernel that is not exclusive gives one
tensor of the shape and the type of the operand. At each step of the walk of each line it holds
what the recurrence that starts with the first element gives. The only exception are negative
zeros that are added up: until something else is visited, the result is the positive zero, and the
recurrence gives the negative one. -/
theorem ScanKernel.run_inclusive {k : ScanKernel} (hinclusive : k.flags.exclusive = false)
    {features : Features} {x axis : Tensor} (hx : x.Built) {results : List Tensor}
    (hrun : (k.run (ScanGraph.evaluate features) [x, axis]).outcome = .ok results) :
    ∃ position result, axis.axisPosition k.index x.rank = .ok position ∧ results = [result] ∧
      result.shape = x.shape ∧ result.dtype = k.dtype ∧
      ∀ p, x.shape.HasIndex p → ∃ element : Nat → Word k.dtype,
        ∀ step < x.shape.getD position 0,
          x.element? k.dtype (x.shape.atStep position k.flags.direction p step) =
            some (element step) ∧
          ∃ y, result.element? k.dtype (x.shape.atStep position k.flags.direction p step) =
              some y ∧
            (¬ k.op.OnlyNegZeros k.dtype element step →
              Word.Same k.dtype y (k.op.fromFirst k.dtype element step)) ∧
            (k.op.OnlyNegZeros k.dtype element step →
              y = Word.zero k.dtype ∧
                k.op.fromFirst k.dtype element step = Word.negZero k.dtype) := by
  have hwell := hx.wellFormed
  obtain ⟨hdtype, position, hlt, hposition, rfl, hholds⟩ := ScanKernel.run_holds hwell hrun
  refine ⟨position, _, hposition, rfl, rfl, hdtype, fun p hp => ?_⟩
  set element : Nat → Word k.dtype := fun j =>
    x.grid k.dtype (x.shape.atStep position k.flags.direction p j)
  refine ⟨element, fun step hstep => ?_⟩
  have hindex := hp.atStep k.flags.direction hstep
  refine ⟨hwell.holds_grid hdtype _ hindex, ?_⟩
  have hlen : position < p.length := by
    rw [hp.length_eq]
    exact hlt
  have hvalue : (k.flags.mode k.op).scanGrid k.dtype x.shape position (x.grid k.dtype)
      (x.shape.atStep position k.flags.direction p step) =
      k.op.total k.dtype ((List.range (step + 1)).map element) := by
    have hsteps := (k.flags.mode k.op).scanGrid_atStep (x.grid k.dtype) hlen hstep
    have hupTo : (k.flags.mode k.op).upTo step = List.range (step + 1) := by
      simp [ScanMode.upTo, ScanFlags.mode, hinclusive]
    rw [hupTo] at hsteps
    exact hsteps
  refine ⟨_, hholds _ hindex, ?_, ?_⟩
  · intro hzeros
    rw [hvalue]
    exact k.op.same_total_fromFirst element hzeros
  · intro hzeros
    rw [hvalue]
    exact hzeros.total_eq

/-- Two negative zeros, one and a half, and a signalling NaN. -/
def signedZeros : Tensor :=
  ⟨[4], .f32, bytesOfWords .f32 [0x80000000, 0x80000000, 0x3FC00000, 0x7F800001]⟩

theorem signedZeros_built : signedZeros.Built :=
  Tensor.Built.of_words (by decide) (by decide)

/-- What a running sum makes of them. -/
def signedZerosSummed : Tensor :=
  ⟨[4], .f32, bytesOfWords .f32 [0, 0, 0x3FC00000, 0x7FC00001]⟩

/-- At the third step the running sum is that of the recurrence, whatever it was before. -/
theorem ScanKernel.run_signedZeros :
    (run ⟨.sum, .f32, .i32, ⟨false, false⟩⟩ (ScanGraph.evaluate ⟨true⟩)
        [signedZeros, Tensor.ofWord .i32 0]).outcome = .ok [signedZerosSummed] ∧
      ∃ (element : Nat → Word .f32) (y : Word .f32), element 2 = 0x3FC00000 ∧
        signedZerosSummed.element? .f32 [2] = some y ∧
        Word.Same .f32 y (Accumulation.sum.fromFirst .f32 element 2) := by
  have hrun : (run ⟨.sum, .f32, .i32, ⟨false, false⟩⟩ (ScanGraph.evaluate ⟨true⟩)
      [signedZeros, Tensor.ofWord .i32 0]).outcome = .ok [signedZerosSummed] := by
    decide +kernel
  have haxis : (Tensor.ofWord .i32 0).axisPosition .i32 signedZeros.rank = .ok 0 := by
    decide +kernel
  obtain ⟨position, result, hposition, hresult, _, _, hlines⟩ :=
    run_inclusive rfl signedZeros_built hrun
  obtain rfl : position = 0 := Except.ok.inj (hposition.symm.trans haxis)
  obtain rfl := (List.singleton_inj.1 hresult).symm
  have hindex : Shape.HasIndex [4] [0] := List.Forall₂.cons (by decide) List.Forall₂.nil
  obtain ⟨element, hsteps⟩ := hlines [0] hindex
  obtain ⟨helement, y, hy, hsame, _⟩ := hsteps 2 (by decide)
  have hthird : signedZeros.element? .f32 [2] = some 0x3FC00000 := by decide +kernel
  have hvalue : element 2 = 0x3FC00000 := Option.some.inj (helement.symm.trans hthird)
  refine ⟨hrun, element, y, hvalue, hy, hsame ?_⟩
  rintro ⟨_, _, hall⟩
  have hzero := (hall 2 (Nat.le_refl 2)).symm.trans hvalue
  exact absurd hzero (by decide +kernel)

/-- The running sum of a single negative zero is the positive zero: at the first step of its line
the result is not the element that stands there. -/
theorem ScanKernel.run_negZero :
    (run ⟨.sum, .f32, .i32, ⟨false, false⟩⟩ (ScanGraph.evaluate ⟨true⟩)
        [⟨[1], .f32, bytesOfWords .f32 [0x80000000]⟩, Tensor.ofWord .i32 0]).outcome =
        .ok [⟨[1], .f32, bytesOfWords .f32 [0]⟩] ∧
      Tensor.element? ⟨[1], .f32, bytesOfWords .f32 [0x80000000]⟩ .f32 [0] = some 0x80000000 ∧
      Tensor.element? ⟨[1], .f32, bytesOfWords .f32 [0]⟩ .f32 [0] = some 0 ∧
      ¬ Word.Same .f32 0 0x80000000 := by
  decide +kernel

end TensorScan
