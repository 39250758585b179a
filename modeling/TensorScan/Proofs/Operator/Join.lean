import Mathlib
import TensorScan.Proofs.Operator.Kernel
import TensorScan.Proofs.Scan.Parts

set_option autoImplicit false

/-! # Scans of joined tensors

Two tensors that differ in the size of one dimension only can be joined along this dimension
(`Tensor.IsJoin`). Scanned along it, the part of the joined tensor that is walked first is the scan
of the one tensor alone. For integers the other part is the scan of the other tensor alone, but
carried on: each of its elements is taken in after the total of a line through the first part
(`Tensor.IsCarried`).

`ScanKernel.run_join` says this of three runs of a kernel.
-/

namespace TensorScan

/-! ## Parts of tensors -/

namespace Tensor

/-- The tensor `part` is what `whole` has from `offset` on along `axis`. -/
structure IsPart (part whole : Tensor) (axis offset : Nat) : Prop where
  dtype : part.dtype = whole.dtype
  /-- Only the dimension of the axis may differ. -/
  shape : part.shape = whole.shape.set axis (part.shape.getD axis 0)
  fits : offset + part.shape.getD axis 0 ≤ whole.shape.getD axis 0
  element? {p : List Nat} (hp : part.shape.HasIndex p) :
    whole.element? whole.dtype (Shape.moved axis offset p) = part.element? whole.dtype p

/-- The tensor `whole` is `first`, and then `second`, along `axis`. -/
structure IsJoin (whole first second : Tensor) (axis : Nat) : Prop where
  firstPart : first.IsPart whole axis 0
  secondPart : second.IsPart whole axis (first.shape.getD axis 0)
  size : whole.shape.getD axis 0 = first.shape.getD axis 0 + second.shape.getD axis 0

/-- From `offset` on along `axis` the tensor `whole` has the elements of `part`, each of them taken
in after what `carry` has there. -/
def IsCarried (part whole : Tensor) (axis offset : Nat) (op : Accumulation) {d : DType}
    (carry : Grid d) : Prop :=
  ∀ p, part.shape.HasIndex p → ∃ y, part.element? d p = some y ∧
    whole.element? d (Shape.moved axis offset p) = some (op.combine d (carry p) y)

section Parts

variable {whole part near far : Tensor} {axis offset : Nat} {d : DType} {f : Grid d}

theorem IsPart.hasIndex (h : part.IsPart whole axis offset) (haxis : axis < whole.shape.length)
    {p : List Nat} (hp : part.shape.HasIndex p) :
    whole.shape.HasIndex (Shape.moved axis offset p) := by
  rw [h.shape] at hp
  exact hp.moved haxis h.fits

theorem IsPart.length_eq (h : part.IsPart whole axis offset) :
    part.shape.length = whole.shape.length := by
  rw [h.shape, List.length_set]

/-- A part holds its part of the array. -/
theorem IsPart.holds (h : part.IsPart whole axis offset) (haxis : axis < whole.shape.length)
    (hd : whole.dtype = d) (hf : whole.Holds f) :
    part.Holds (f.partFrom axis offset) := by
  subst hd
  intro p hp
  rw [← h.element? hp]
  exact hf _ (h.hasIndex haxis hp)

section Scanned

variable (mode : ScanMode) (hwhole : whole.WellFormed) (haxis : axis < whole.shape.length)

include hwhole haxis

/-- What the scanned whole and the scanned part have at the same element. -/
theorem IsPart.element?_scanned (h : part.IsPart whole axis offset) (hpart : part.WellFormed)
    (hd : whole.dtype = d) (hf : whole.Holds f) {p : List Nat} (hp : part.shape.HasIndex p) :
    (whole.scanned axis mode).element? d (Shape.moved axis offset p) =
        some (mode.scanGrid d whole.shape axis f (Shape.moved axis offset p)) ∧
      (part.scanned axis mode).element? d p =
        some (mode.scanGrid d part.shape axis (f.partFrom axis offset) p) := by
  have haxis' : axis < part.shape.length := h.length_eq ▸ haxis
  exact ⟨hf.scanned hd hwhole haxis mode _ (h.hasIndex haxis hp),
    (h.holds haxis hd hf).scanned (h.dtype.trans hd) hpart haxis' mode p hp⟩

variable (hsize : whole.shape.getD axis 0 = near.shape.getD axis 0 + far.shape.getD axis 0)
  (hnear : near.IsPart whole axis (mode.direction.nearOffset (far.shape.getD axis 0)))

include hsize hnear

/-- Scanned, the near part is the near part of the scanned whole. -/
theorem IsPart.scanned (hwell : near.WellFormed) :
    (near.scanned axis mode).IsPart (whole.scanned axis mode) axis
      (mode.direction.nearOffset (far.shape.getD axis 0)) where
  dtype := hnear.dtype
  shape := hnear.shape
  fits := hnear.fits
  element? {p} hp := by
    obtain ⟨hread, hreadPart⟩ :=
      hnear.element?_scanned mode hwhole haxis hwell rfl (hwhole.holds_grid rfl) hp
    have hindex : Shape.HasIndex (whole.shape.set axis (near.shape.getD axis 0)) p :=
      hnear.shape ▸ hp
    rw [mode.scanGrid_near _ haxis hsize hindex, ← hnear.shape] at hread
    exact hread.trans hreadPart.symm

/-- Scanned, the far part is the far part of the scanned whole, once the totals of the near part are
taken in before. -/
theorem IsPart.scanned_carried (hwell : far.WellFormed)
    (hfar : far.IsPart whole axis (mode.direction.farOffset (near.shape.getD axis 0)))
    (hd : whole.dtype = d) (hinteger : d.isInteger = true) (hf : whole.Holds f) :
    (far.scanned axis mode).IsCarried (whole.scanned axis mode) axis
      (mode.direction.farOffset (near.shape.getD axis 0)) mode.op
      (mode.op.lineTotal near.shape axis
        (f.partFrom axis (mode.direction.nearOffset (far.shape.getD axis 0)))) := by
  intro p hp
  obtain ⟨hread, hreadPart⟩ := hfar.element?_scanned mode hwhole haxis hwell hd hf hp
  have hindex : Shape.HasIndex (whole.shape.set axis (far.shape.getD axis 0)) p :=
    hfar.shape ▸ hp
  rw [mode.scanGrid_far f haxis hsize hinteger hindex, ← hnear.shape, ← hfar.shape] at hread
  exact ⟨_, hreadPart, hread⟩

end Scanned

end Parts

end Tensor

/-! ## Kernels -/

/-- **Three runs of a kernel**, on two tensors and on what they are when they are joined along the
dimension that is scanned. Walking forwards, the result on the first part is that of the first
tensor alone, and walking backwards the result on the second part is that of the second tensor
alone. For integers the result on the other part is that of the other tensor alone, with the total
of the line through the one taken in before. -/
theorem ScanKernel.run_join {k : ScanKernel} {features : Features} {x x₁ x₂ axis : Tensor}
    (hx : x.Built) (hx₁ : x₁.Built) (hx₂ : x₂.Built) {position : Nat}
    (hposition : axis.axisPosition k.index x.rank = .ok position)
    (hjoin : x.IsJoin x₁ x₂ position) {results results₁ results₂ : List Tensor}
    (hrun : (k.run (ScanGraph.evaluate features) [x, axis]).outcome = .ok results)
    (hrun₁ : (k.run (ScanGraph.evaluate features) [x₁, axis]).outcome = .ok results₁)
    (hrun₂ : (k.run (ScanGraph.evaluate features) [x₂, axis]).outcome = .ok results₂) :
    ∃ (r r₁ r₂ : Tensor) (elements₁ elements₂ : Grid k.dtype),
      results = [r] ∧ results₁ = [r₁] ∧ results₂ = [r₂] ∧
      r.shape = x.shape ∧ r₁.shape = x₁.shape ∧ r₂.shape = x₂.shape ∧
      x₁.Holds elements₁ ∧ x₂.Holds elements₂ ∧
      (k.flags.reverse = false →
        r₁.IsPart r position 0 ∧
        (k.dtype.isInteger = true → r₂.IsCarried r position (x₁.shape.getD position 0) k.op
          (k.op.lineTotal x₁.shape position elements₁))) ∧
      (k.flags.reverse = true →
        r₂.IsPart r position (x₁.shape.getD position 0) ∧
        (k.dtype.isInteger = true → r₁.IsCarried r position 0 k.op
          (k.op.lineTotal x₂.shape position elements₂))) := by
  have hwell := hx.wellFormed
  have hwell₁ := hx₁.wellFormed
  have hwell₂ := hx₂.wellFormed
  obtain ⟨hd, here, hlt, hhere, rfl, _⟩ := run_holds hwell hrun
  obtain ⟨_, here₁, _, hhere₁, rfl, _⟩ := run_holds hwell₁ hrun₁
  obtain ⟨_, here₂, _, hhere₂, rfl, _⟩ := run_holds hwell₂ hrun₂
  -- all three have as many dimensions, so the axis names the same one
  obtain rfl : here = position := Except.ok.inj (hhere.symm.trans hposition)
  have hrank₁ : x₁.rank = x.rank := hjoin.firstPart.length_eq
  have hrank₂ : x₂.rank = x.rank := hjoin.secondPart.length_eq
  rw [hrank₁] at hhere₁
  rw [hrank₂] at hhere₂
  obtain rfl : here₁ = here := Except.ok.inj (hhere₁.symm.trans hhere)
  obtain rfl : here₂ = here₁ := Except.ok.inj (hhere₂.symm.trans hhere₁)
  have hf := hwell.holds_grid hd
  obtain ⟨op, d, index, reverse, exclusive⟩ := k
  refine ⟨_, _, _, _, _, rfl, rfl, rfl, rfl, rfl, rfl, hjoin.firstPart.holds hlt hd hf,
    hjoin.secondPart.holds hlt hd hf, ?_, ?_⟩
  · intro hforward
    obtain rfl : reverse = false := hforward
    set mode := ScanFlags.mode ⟨false, exclusive⟩ op
    have hsize := hjoin.size
    exact ⟨hjoin.firstPart.scanned mode hwell hlt hsize hwell₁, fun hinteger =>
      hjoin.firstPart.scanned_carried mode hwell hlt hsize hwell₂ hjoin.secondPart hd hinteger hf⟩
  · intro hbackward
    obtain rfl : reverse = true := hbackward
    set mode := ScanFlags.mode ⟨true, exclusive⟩ op
    have hsize := hjoin.size.trans (Nat.add_comm _ _)
    exact ⟨hjoin.secondPart.scanned mode hwell hlt hsize hwell₂, fun hinteger =>
      hjoin.secondPart.scanned_carried mode hwell hlt hsize hwell₁ hjoin.firstPart hd hinteger hf⟩

/-- Two rows, cut into a column and the two columns after it. -/
def seam : Tensor := ⟨[2, 3], .i32, bytesOfWords .i32 [0x7FFFFFFF, 1, 2, 3, 4, 5]⟩

def seamLeft : Tensor := ⟨[2, 1], .i32, bytesOfWords .i32 [0x7FFFFFFF, 3]⟩

def seamRight : Tensor := ⟨[2, 2], .i32, bytesOfWords .i32 [1, 2, 4, 5]⟩

theorem seam_built : seam.Built ∧ seamLeft.Built ∧ seamRight.Built :=
  ⟨Tensor.Built.of_words (by decide) (by decide), Tensor.Built.of_words (by decide) (by decide),
    Tensor.Built.of_words (by decide) (by decide)⟩

theorem seam_isJoin : seam.IsJoin seamLeft seamRight 1 := by
  have hpair : ∀ {n m : Nat} {p : List Nat}, Shape.HasIndex [n, m] p →
      ∃ i < n, ∃ j < m, p = [i, j] := by
    intro n m p hp
    rcases hp with _ | ⟨hi, hrest⟩
    rcases hrest with _ | ⟨hj, hnil⟩
    cases hnil
    exact ⟨_, hi, _, hj, rfl⟩
  refine ⟨⟨rfl, rfl, by decide, ?_⟩, ⟨rfl, rfl, by decide, ?_⟩, rfl⟩
  · intro p hp
    obtain ⟨i, hi, j, hj, rfl⟩ := hpair hp
    clear hp
    revert i j
    decide +kernel
  · intro p hp
    obtain ⟨i, hi, j, hj, rfl⟩ := hpair hp
    clear hp
    revert i j
    decide +kernel

/-- The sum before the last element of the first row wraps around when the first column is taken in
before those of the other columns. -/
theorem ScanKernel.run_seam :
    (run ⟨.sum, .i32, .i32, ⟨false, true⟩⟩ (ScanGraph.evaluate ⟨false⟩)
        [seam, Tensor.ofWord .i32 1]).outcome =
        .ok [⟨[2, 3], .i32, bytesOfWords .i32 [0, 0x7FFFFFFF, 0x80000000, 0, 3, 7]⟩] ∧
      ∃ r₂ y, (run ⟨.sum, .i32, .i32, ⟨false, true⟩⟩ (ScanGraph.evaluate ⟨false⟩)
          [seamRight, Tensor.ofWord .i32 1]).outcome = .ok [r₂] ∧
        r₂.element? .i32 [0, 1] = some y ∧ Word.add .i32 0x7FFFFFFF y = 0x80000000 := by
  have hrun : (run ⟨.sum, .i32, .i32, ⟨false, true⟩⟩ (ScanGraph.evaluate ⟨false⟩)
      [seam, Tensor.ofWord .i32 1]).outcome =
      .ok [⟨[2, 3], .i32, bytesOfWords .i32 [0, 0x7FFFFFFF, 0x80000000, 0, 3, 7]⟩] := by
    decide +kernel
  have hrun₁ : (run ⟨.sum, .i32, .i32, ⟨false, true⟩⟩ (ScanGraph.evaluate ⟨false⟩)
      [seamLeft, Tensor.ofWord .i32 1]).outcome =
      .ok [⟨[2, 1], .i32, bytesOfWords .i32 [0, 0]⟩] := by
    decide +kernel
  have hrun₂ : (run ⟨.sum, .i32, .i32, ⟨false, true⟩⟩ (ScanGraph.evaluate ⟨false⟩)
      [seamRight, Tensor.ofWord .i32 1]).outcome =
      .ok [⟨[2, 2], .i32, bytesOfWords .i32 [0, 1, 0, 4]⟩] := by
    decide +kernel
  have haxis : (Tensor.ofWord .i32 1).axisPosition .i32 seam.rank = .ok 1 := by
    decide +kernel
  obtain ⟨hbuilt, hbuilt₁, hbuilt₂⟩ := seam_built
  obtain ⟨r, r₁, r₂, elements₁, _, hr, _, hr₂, _, _, hshape₂, helements₁, _, hforward, _⟩ :=
    run_join hbuilt hbuilt₁ hbuilt₂ haxis seam_isJoin hrun hrun₁ hrun₂
  obtain ⟨_, hcarried⟩ := hforward rfl
  have hindex : seamRight.shape.HasIndex [0, 1] :=
    List.Forall₂.cons (by decide) (List.Forall₂.cons (by decide) List.Forall₂.nil)
  have hindex₁ : seamLeft.shape.HasIndex [0, 0] :=
    List.Forall₂.cons (by decide) (List.Forall₂.cons (by decide) List.Forall₂.nil)
  obtain ⟨y, hy, hwhole⟩ := hcarried rfl [0, 1] (hshape₂ ▸ hindex)
  -- the line of the left part has one element only
  have hfirst : elements₁ [0, 0] = 0x7FFFFFFF :=
    Option.some.inj ((helements₁ _ hindex₁).symm.trans (by decide +kernel))
  have hcarry : Accumulation.sum.lineTotal seamLeft.shape 1 elements₁ [0, 1] = 0x7FFFFFFF := by
    show Accumulation.sum.total .i32 [elements₁ [0, 0]] = _
    rw [hfirst]
    decide +kernel
  have hlast : r.element? .i32 [0, 2] = some 0x80000000 := by
    rw [← List.singleton_inj.1 hr]
    decide +kernel
  rw [hcarry] at hwhole
  refine ⟨hrun, r₂, y, hr₂ ▸ hrun₂, hy, ?_⟩
  exact Option.some.inj (hwhole.symm.trans hlast)

end TensorScan
