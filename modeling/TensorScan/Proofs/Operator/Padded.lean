import Mathlib
import TensorScan.Proofs.Operator.Kernel

set_option autoImplicit false

/-! # Two ways into four dimensions

An operand of at most four dimensions needs no kernel to be scanned. Ones in front of its shape make
it a shape of four dimensions with the same elements in the same order, and a graph of one scan can
be drafted for that shape and the shifted axis. A kernel goes another way: it multiplies the
dimensions on either side of the axis, and always scans dimension 2.

The two graphs have different sizes and, in general, different axes. But a scan looks at a buffer
only through its extent, and ones in front change neither the products on either side of an axis nor
whether they overflow. So both ways walk the same lines of the same buffer, and give the same
elements bit for bit (`ScanKernel.run_eq_padded`).
-/

namespace TensorScan

/-! ## Ones in front -/

theorem overflows_cons_one {sizes : List Nat} : Overflows (1 :: sizes) ↔ Overflows sizes := by
  constructor
  · rintro ⟨m, hm⟩
    cases m with
    | zero => exact ⟨0, hm⟩
    | succ m => exact ⟨m, by simpa using hm⟩
  · rintro ⟨m, hm⟩
    exact ⟨m + 1, by simpa using hm⟩

/-- Ones in front do not make sizes overflow. -/
theorem overflows_replicate_one_append (m : Nat) (sizes : List Nat) :
    Overflows (List.replicate m 1 ++ sizes) ↔ Overflows sizes := by
  induction m with
  | zero => rfl
  | succ m ih =>
      rw [List.replicate_succ, List.cons_append, overflows_cons_one]
      exact ih

namespace Extent

theorem along_cons_one (dims : List Nat) (axis : Nat) :
    along (1 :: dims) (axis + 1) = along dims axis := by
  simp [along]

/-- Seen from the same dimension, a shape with ones in front is what it is without them. -/
theorem along_replicate_one_append (m : Nat) (dims : List Nat) (axis : Nat) :
    along (List.replicate m 1 ++ dims) (m + axis) = along dims axis := by
  induction m with
  | zero => rw [List.replicate_zero, List.nil_append, Nat.zero_add]
  | succ m ih =>
      rw [List.replicate_succ, List.cons_append, Nat.add_right_comm, along_cons_one]
      exact ih

end Extent

/-- The descriptor of a shape of at most four dimensions, with ones in front. -/
def Descriptor.padded (d : DType) : Shape → Descriptor
  | [] => ⟨d, 1, 1, 1, 1⟩
  | [w] => ⟨d, 1, 1, 1, w⟩
  | [h, w] => ⟨d, 1, 1, h, w⟩
  | [c, h, w] => ⟨d, 1, c, h, w⟩
  | n :: c :: h :: w :: _ => ⟨d, n, c, h, w⟩

theorem Descriptor.sizes_padded (d : DType) {shape : Shape} (h : shape.rank ≤ 4) :
    (padded d shape).sizes = List.replicate (4 - shape.rank) 1 ++ shape := by
  match shape, h with
  | [], _ => rfl
  | [_], _ => rfl
  | [_, _], _ => rfl
  | [_, _, _], _ => rfl
  | [_, _, _, _], _ => rfl
  | _ :: _ :: _ :: _ :: _ :: _, h =>
      simp only [Shape.rank, List.length_cons] at h
      omega

@[simp] theorem Descriptor.dtype_padded (d : DType) (shape : Shape) :
    (padded d shape).dtype = d := by
  unfold padded
  split <;> rfl

section Padded

variable {shape : Shape} (d : DType) (h : shape.rank ≤ 4)

include h

theorem Descriptor.not_overflows_padded (hfits : ¬ Overflows shape) :
    ¬ Overflows (padded d shape).sizes := by
  rw [sizes_padded d h, overflows_replicate_one_append]
  exact hfits

theorem Descriptor.prod_padded : List.prod (padded d shape).sizes = List.prod shape := by
  rw [sizes_padded d h, List.prod_append, List.prod_replicate, Nat.one_pow, Nat.one_mul]

theorem Extent.along_padded (position : Nat) :
    along (Descriptor.padded d shape).sizes (4 - shape.rank + position) = along shape position := by
  rw [Descriptor.sizes_padded d h, along_replicate_one_append]

end Padded

/-! ## Both ways -/

/-- The way by hand: whatever the shape of a tensor with the elements of the operand, the graph
scans them along the dimension of the operand. -/
theorem ScanGraph.evaluate_padded {operand input : Tensor} (hoperand : operand.WellFormed)
    (hinput : input.WellFormed) (hdtype : input.dtype = operand.dtype)
    (hbytes : input.bytes = operand.bytes) (hrank : operand.rank ≤ 4) {position : Nat}
    (haxis : 4 - operand.rank + position < 4) {features : Features}
    (hsupported : features.supports operand.dtype = true) (mode : ScanMode) :
    (evaluate features
        (oneScan (.padded operand.dtype operand.shape) ⟨4 - operand.rank + position, haxis⟩ mode)
        [input]).outcome =
      .ok [{ operand.scanned position mode with
        shape := (Descriptor.padded operand.dtype operand.shape).sizes }] := by
  set desc : Descriptor := .padded operand.dtype operand.shape
  have hfits : ¬ Overflows desc.sizes :=
    Descriptor.not_overflows_padded operand.dtype hrank hoperand.not_overflows
  have hprod : List.prod desc.sizes = List.prod operand.shape :=
    Descriptor.prod_padded operand.dtype hrank
  have hcount : List.prod input.shape = List.prod operand.shape := by
    rw [← hinput.count_eq, ← hoperand.count_eq, Tensor.count, Tensor.count, hdtype, hbytes]
  have hdesc : input.dtype = desc.dtype := by
    rw [hdtype, Descriptor.dtype_padded]
  -- in the sizes of the graph the tensor and the operand are the same
  have hsame : ({ input with shape := desc.sizes } : Tensor) =
      { operand with shape := desc.sizes } := by
    rw [hdtype, hbytes]
  have hextent : Extent.along desc.sizes (4 - operand.rank + position) =
      Extent.along operand.shape position :=
    Extent.along_padded operand.dtype hrank position
  rw [evaluate_oneScan hinput hdesc hfits (hprod.trans hcount.symm), hsame, hdtype,
    if_neg (Features.supports_iff.1 hsupported), ← Tensor.scanned_eq_of_along hextent]

/-- Each of at most four dimensions is named by a tensor. -/
theorem Tensor.exists_axisPosition (index : IndexType) {rank position : Nat} (hrank : rank ≤ 4)
    (h : position < rank) :
    ∃ axis : Tensor, axis.Built ∧ axis.axisPosition index rank = .ok position := by
  have hsmall : position < 4 := by omega
  have hvalue : index.value (BitVec.ofNat _ position) = position := by
    interval_cases position <;> cases index <;> rfl
  have hresolved : TensorScan.axisPosition rank (index.value (BitVec.ofNat _ position)) =
      .ok position := by
    rw [axisPosition_eq_ok, hvalue]
    refine ⟨hrank.trans (by decide), h, ?_⟩
    rw [if_neg (by omega)]
  refine ⟨Tensor.ofWord index.dtype (BitVec.ofNat _ position), Built.ofWord _ _, ?_⟩
  rw [axisPosition_of_scalar rfl, item_ofWord]
  exact hresolved

/-- **The graph with ones in front and the kernel agree.** Let an operand with elements of a
supported type have at most four dimensions, and let the sizes after one of them not overflow; those
before it never do. Then the graph of a scan along this dimension can be drafted by hand, and it
runs on every tensor with the elements of the operand, whatever its shape. The kernel runs on the
operand and every axis that names the dimension, and there are such axes. Both runs return one
tensor, and the two tensors have the same elements. -/
theorem ScanKernel.run_eq_padded (k : ScanKernel) (features : Features) {operand : Tensor}
    (hoperand : operand.Built) (hdtype : operand.dtype = k.dtype)
    (hsupported : features.supports operand.dtype = true) (hrank : operand.rank ≤ 4)
    {position : Nat} (hposition : position < operand.rank)
    (hafter : ¬ Overflows (operand.shape.drop (position + 1))) :
    ∃ g direct collapsed,
      ((GraphDraft.build [.input (.padded operand.dtype operand.shape),
        .scan 0 (4 - operand.rank + position) (k.flags.mode k.op)]).finish [1]).outcome = .ok g ∧
      (∀ input : Tensor, input.Built → input.dtype = operand.dtype →
        input.bytes = operand.bytes →
        (ScanGraph.evaluate features g [input]).outcome = .ok [direct]) ∧
      (∃ axis : Tensor, axis.Built ∧ axis.axisPosition k.index operand.rank = .ok position) ∧
      (∀ axis : Tensor, axis.axisPosition k.index operand.rank = .ok position →
        (k.run (ScanGraph.evaluate features) [operand, axis]).outcome = .ok [collapsed]) ∧
      direct.dtype = collapsed.dtype ∧ direct.bytes = collapsed.bytes := by
  have hwell := hoperand.wellFormed
  have haxis : 4 - operand.rank + position < 4 := by omega
  set desc : Descriptor := .padded operand.dtype operand.shape
  refine ⟨_, { operand.scanned position (k.flags.mode k.op) with shape := desc.sizes },
    operand.scanned position (k.flags.mode k.op),
    ScanGraph.outcome_finish_oneScan desc haxis _, ?_,
    Tensor.exists_axisPosition k.index hrank hposition, ?_, rfl, rfl⟩
  · intro input hinput hsame hbytes
    exact ScanGraph.evaluate_padded hwell hinput.wellFormed hsame hbytes hrank haxis hsupported _
  · intro axis hnamed
    rw [k.outcome_run features hwell, if_neg (not_not_intro hdtype), hnamed]
    rw [hdtype] at hsupported
    simp only [bind, Except.bind, if_neg hafter, if_neg (Features.supports_iff.1 hsupported)]

/-- Two rows of half-precision numbers; the last column holds a NaN and a negative zero. -/
def halfRows : Tensor :=
  ⟨[2, 3], .f16, bytesOfWords .f16 [0x3C00, 0x4000, 0x7E00, 0xBC00, 0x3800, 0x8000]⟩

theorem halfRows_built : halfRows.Built := Tensor.Built.of_words (by decide) (by decide)

/-- Products from the last row up: dimension 2 of four by hand, the axis `-2` for the kernel. -/
theorem run_halfRows_padded :
    ∃ g direct collapsed,
      ((GraphDraft.build [.input (.padded .f16 [2, 3]),
        .scan 0 2 ⟨.product, .decreasing, false⟩]).finish [1]).outcome = .ok g ∧
      (ScanGraph.evaluate ⟨true⟩ g [halfRows]).outcome = .ok [direct] ∧
      (ScanKernel.run ⟨.product, .f16, .i64, ⟨true, false⟩⟩ (ScanGraph.evaluate ⟨true⟩)
        [halfRows, Tensor.ofWord .i64 (-2)]).outcome = .ok [collapsed] ∧
      direct.bytes = collapsed.bytes ∧
      collapsed.bytes = bytesOfWords .f16 [0xBC00, 0x3C00, 0x7E00, 0xBC00, 0x3800, 0x8000] := by
  have hafter : ¬ Overflows (halfRows.shape.drop 1) := by decide +kernel
  obtain ⟨g, direct, collapsed, hg, hdirect, _, hcollapsed, _, hbytes⟩ :=
    ScanKernel.run_eq_padded ⟨.product, .f16, .i64, ⟨true, false⟩⟩ ⟨true⟩ halfRows_built rfl rfl
      (show 2 ≤ 4 by decide) (show 0 < 2 by decide) hafter
  have haxis : (Tensor.ofWord .i64 (-2)).axisPosition .i64 2 = .ok 0 := by decide +kernel
  have hrun := hcollapsed _ haxis
  have hresult : (ScanKernel.run ⟨.product, .f16, .i64, ⟨true, false⟩⟩ (ScanGraph.evaluate ⟨true⟩)
      [halfRows, Tensor.ofWord .i64 (-2)]).outcome =
      .ok [⟨[2, 3], .f16,
        bytesOfWords .f16 [0xBC00, 0x3C00, 0x7E00, 0xBC00, 0x3800, 0x8000]⟩] := by
    decide +kernel
  have hsame := List.singleton_inj.1 (Except.ok.inj (hrun.symm.trans hresult))
  exact ⟨g, direct, collapsed, hg, hdirect _ halfRows_built rfl rfl, hrun, hbytes,
    congrArg Tensor.bytes hsame⟩

end TensorScan
