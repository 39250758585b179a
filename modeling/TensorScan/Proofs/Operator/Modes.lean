import Mathlib
import TensorScan.Proofs.Operator.Kernel
import TensorScan.Proofs.Scan.Steps

set_option autoImplicit false

/-! # The four modes of a scan

The two flags of a scan make four scans of one array along one axis with one operation. Walked in
the same direction, the exclusive scan and the inclusive one are the same running value, looked at
before and after an element is taken in. For integers the two directions fit together as well: a
walk from the start up to an element and a walk from the end back to it make up the whole line, if
exactly one of them takes the element in. `ModesFit` collects these laws.

`ScanKernel.run_modes` says that the laws hold of what the four kernels return that differ in their
flags only.
-/

namespace TensorScan

/-- How the values of the four scans of an array `x` fit together. -/
structure ModesFit (op : Accumulation) (d : DType) (shape : Shape) (axis : Nat) (x : Grid d)
    (value : ScanFlags → Grid d) : Prop where
  /-- The inclusive value is the exclusive one with the element taken in. -/
  inclusive (reverse : Bool) {p : List Nat} (hp : shape.HasIndex p) :
    value ⟨reverse, false⟩ p = op.combine d (value ⟨reverse, true⟩ p) (x p)
  /-- The exclusive value is the identity where the walk of a line starts. -/
  first (reverse : Bool) {p : List Nat} (hp : shape.HasIndex p) :
    value ⟨reverse, true⟩ (shape.atStep axis (ScanFlags.direction ⟨reverse, true⟩) p 0) =
      op.identity d
  /-- At every later step it is the inclusive value of the step before. -/
  next (reverse : Bool) {p : List Nat} (hp : shape.HasIndex p) {step : Nat}
    (hstep : step + 1 < shape.getD axis 0) :
    value ⟨reverse, true⟩ (shape.atStep axis (ScanFlags.direction ⟨reverse, true⟩) p (step + 1)) =
      value ⟨reverse, false⟩ (shape.atStep axis (ScanFlags.direction ⟨reverse, false⟩) p step)
  /-- Integers: up to an element from the start, and after it from the end. -/
  total_after (hd : d.isInteger = true) {p : List Nat} (hp : shape.HasIndex p) :
    op.combine d (value ⟨false, false⟩ p) (value ⟨true, true⟩ p) = op.lineTotal shape axis x p
  /-- Integers: before an element from the start, and back to it from the end. -/
  total_before (hd : d.isInteger = true) {p : List Nat} (hp : shape.HasIndex p) :
    op.combine d (value ⟨false, true⟩ p) (value ⟨true, false⟩ p) = op.lineTotal shape axis x p

/-! ## Scanned arrays -/

namespace ScanMode

/-- What is visited from the start and what is visited from the end is a whole line, if exactly one
of the two walks takes the element in from which they are seen. -/
theorem visited_append_perm (op : Accumulation) {size s : Nat} (h : s < size) (exclusive : Bool) :
    (visited ⟨op, .increasing, exclusive⟩ size s ++
      visited ⟨op, .decreasing, !exclusive⟩ size s).Perm (List.range size) := by
  have hsplit : ∀ m ≤ size, List.range m ++ List.range' m (size - m) = List.range size := by
    intro m hm
    have happend := @List.range'_append_1 0 m (size - m)
    rwa [Nat.zero_add, Nat.add_sub_of_le hm, ← List.range_eq_range', ← List.range_eq_range']
      at happend
  cases exclusive with
  | false =>
      show (List.range (s + 1) ++ (List.range' (s + 1) (size - (s + 1))).reverse).Perm _
      rw [← hsplit (s + 1) h]
      exact (List.reverse_perm _).append_left _
  | true =>
      show (List.range s ++ (List.range' s (size - s)).reverse).Perm _
      rw [← hsplit s (Nat.le_of_lt h)]
      exact (List.reverse_perm _).append_left _

section Scanned

variable (op : Accumulation) {d : DType} {shape : Shape} {axis : Nat} (x : Grid d) {p : List Nat}

/-- The two walks make up the total of the line. -/
theorem combine_scanGrid (hd : d.isInteger = true) (hp : p.getD axis 0 < shape.getD axis 0)
    (exclusive : Bool) :
    op.combine d (scanGrid ⟨op, .increasing, exclusive⟩ d shape axis x p)
      (scanGrid ⟨op, .decreasing, !exclusive⟩ d shape axis x p) =
      op.lineTotal shape axis x p := by
  have hperm := visited_append_perm op hp exclusive
  calc op.combine d (scanGrid ⟨op, .increasing, exclusive⟩ d shape axis x p)
        (scanGrid ⟨op, .decreasing, !exclusive⟩ d shape axis x p)
      = op.total d ((visited ⟨op, .increasing, exclusive⟩ (shape.getD axis 0) (p.getD axis 0) ++
          visited ⟨op, .decreasing, !exclusive⟩ (shape.getD axis 0) (p.getD axis 0)).map fun j =>
            x (p.set axis j)) := by
        rw [List.map_append, op.total_append hd]
        rfl
    _ = op.lineTotal shape axis x p := op.total_perm hd (hperm.map _)

/-- **The four scans of an array** fit together. -/
theorem modesFit (haxis : axis < shape.length) :
    ModesFit op d shape axis x fun flags => (flags.mode op).scanGrid d shape axis x where
  inclusive reverse p hp := by
    set direction := ScanFlags.direction ⟨reverse, false⟩
    obtain ⟨step, hstep, hvisit⟩ := hp.exists_step haxis direction
    have hlen : axis < p.length := hp.length_eq ▸ haxis
    have hincl := (ScanMode.mk op direction false).scanGrid_atStep x hlen hstep
    have hexcl := (ScanMode.mk op direction true).scanGrid_atStep x hlen hstep
    -- the last of the elements that are taken in is the one that is visited
    have hlast : op.total d ((List.range (step + 1)).map fun j =>
        x (shape.atStep axis direction p j)) =
        op.combine d (op.total d ((List.range step).map fun j =>
          x (shape.atStep axis direction p j))) (x p) := by
      rw [op.total_range_succ, hvisit]
    rw [hvisit] at hincl hexcl
    exact hincl.trans (hlast.trans (congrArg (op.combine d · (x p)) hexcl.symm))
  first reverse p hp := by
    have hlen : axis < p.length := hp.length_eq ▸ haxis
    have hpos : 0 < shape.getD axis 0 := Nat.zero_lt_of_lt (hp.getD_lt haxis)
    exact (ScanFlags.mode ⟨reverse, true⟩ op).scanGrid_atStep x hlen hpos
  next reverse p hp step hstep := by
    have hlen : axis < p.length := hp.length_eq ▸ haxis
    have hexcl := (ScanFlags.mode ⟨reverse, true⟩ op).scanGrid_atStep x hlen hstep
    have hincl := (ScanFlags.mode ⟨reverse, false⟩ op).scanGrid_atStep x hlen
      (Nat.lt_of_succ_lt hstep)
    exact hexcl.trans hincl.symm
  total_after hd _ hp := combine_scanGrid op x hd (hp.getD_lt haxis) false
  total_before hd _ hp := combine_scanGrid op x hd (hp.getD_lt haxis) true

end Scanned

end ScanMode

/-! ## Kernels -/

/-- Whether a run succeeds does not depend on the flags. -/
theorem ScanKernel.run_withFlags {k : ScanKernel} {features : Features} {operand axis : Tensor}
    (ho : operand.WellFormed) {results : List Tensor}
    (h : (k.run (ScanGraph.evaluate features) [operand, axis]).outcome = .ok results)
    (flags : ScanFlags) : ∃ results', (run { k with flags := flags } (ScanGraph.evaluate features)
      [operand, axis]).outcome = .ok results' := by
  rw [k.outcome_run features ho] at h
  rw [outcome_run _ features ho]
  split at h
  · contradiction
  · rename_i hdtype
    obtain ⟨position, hposition, h⟩ := bind_eq_ok.1 h
    rw [if_neg hdtype, hposition]
    -- what is checked after the axis is the same for all flags
    split at h
    · contradiction
    · rename_i hover
      split at h
      · contradiction
      · rename_i hhalf
        simp only [bind, Except.bind, if_neg hover, if_neg hhalf]
        exact ⟨_, rfl⟩

/-- **The four modes of a kernel.** If a run succeeds, then so does a run of each kernel that
differs in its flags only. Each gives one tensor of the shape and the type of the operand, and the
values of the four tensors fit together. For integers the total of a line is that of natural
numbers, modulo the power of two of the width. -/
theorem ScanKernel.run_modes {k : ScanKernel} {features : Features} {x axis : Tensor}
    (hx : x.Built) {results : List Tensor}
    (hrun : (k.run (ScanGraph.evaluate features) [x, axis]).outcome = .ok results) :
    ∃ position, axis.axisPosition k.index x.rank = .ok position ∧
      ∃ (elements : Grid k.dtype) (scans : ScanFlags → Tensor) (values : ScanFlags → Grid k.dtype),
        x.Holds elements ∧
        (∀ flags, (run { k with flags := flags } (ScanGraph.evaluate features)
              [x, axis]).outcome = .ok [scans flags] ∧
            (scans flags).shape = x.shape ∧ (scans flags).dtype = k.dtype ∧
            (scans flags).Holds (values flags)) ∧
        ModesFit k.op k.dtype x.shape position elements values ∧
        (k.dtype.isInteger = true → ∀ p, k.op.lineTotal x.shape position elements p =
          BitVec.ofNat k.dtype.bitWidth (k.op.unwrapped
            ((List.range (x.shape.getD position 0)).map fun j =>
              (elements (p.set position j)).toNat))) := by
  have hwell := hx.wellFormed
  obtain ⟨hdtype, position, hlt, hposition, _⟩ := run_holds hwell hrun
  refine ⟨position, hposition, x.grid k.dtype,
    fun flags => x.scanned position (flags.mode k.op),
    fun flags => (flags.mode k.op).scanGrid k.dtype x.shape position (x.grid k.dtype),
    hwell.holds_grid hdtype, ?_, ScanMode.modesFit k.op _ hlt, ?_⟩
  · intro flags
    obtain ⟨results', hrun'⟩ := run_withFlags hwell hrun flags
    obtain ⟨_, position', _, hposition', rfl, hholds⟩ := run_holds hwell hrun'
    obtain rfl : position' = position := Except.ok.inj (hposition'.symm.trans hposition)
    exact ⟨hrun', rfl, hdtype, hholds⟩
  · intro hinteger p
    rw [Accumulation.lineTotal, k.op.total_eq_ofNat hinteger, List.map_map]
    rfl

/-- Three factors, the first two of which have a product that does not fit. -/
def wideFactors : Tensor := ⟨[1, 3], .i32, bytesOfWords .i32 [0x10000, 0x10001, 3]⟩

theorem wideFactors_built : wideFactors.Built := Tensor.Built.of_words (by decide) (by decide)

/-- Although it has wrapped around, the product up to the second factor and the product of what
comes after it make up the product of all three. -/
theorem ScanKernel.run_wideFactors :
    (run ⟨.product, .i32, .i32, ⟨false, false⟩⟩ (ScanGraph.evaluate ⟨false⟩)
        [wideFactors, Tensor.ofWord .i32 1]).outcome =
        .ok [⟨[1, 3], .i32, bytesOfWords .i32 [0x10000, 0x10000, 0x30000]⟩] ∧
      ∃ (after : Tensor) (y : Word .i32),
        (run ⟨.product, .i32, .i32, ⟨true, true⟩⟩ (ScanGraph.evaluate ⟨false⟩)
          [wideFactors, Tensor.ofWord .i32 1]).outcome = .ok [after] ∧
        after.element? .i32 [0, 1] = some y ∧
        Accumulation.product.combine .i32 0x10000 y = 0x30000 := by
  have hrun : (run ⟨.product, .i32, .i32, ⟨false, false⟩⟩ (ScanGraph.evaluate ⟨false⟩)
      [wideFactors, Tensor.ofWord .i32 1]).outcome =
      .ok [⟨[1, 3], .i32, bytesOfWords .i32 [0x10000, 0x10000, 0x30000]⟩] := by
    decide +kernel
  have haxis : (Tensor.ofWord .i32 1).axisPosition .i32 wideFactors.rank = .ok 1 := by
    decide +kernel
  obtain ⟨position, hposition, elements, scans, values, helements, hscans, hfit, _⟩ :=
    run_modes wideFactors_built hrun
  obtain rfl : position = 1 := Except.ok.inj (hposition.symm.trans haxis)
  obtain ⟨hforward, hshape, _, hupTo⟩ := hscans ⟨false, false⟩
  obtain ⟨hbackward, hshape', _, hafter⟩ := hscans ⟨true, true⟩
  have hindex : ∀ j < 3, wideFactors.shape.HasIndex [0, j] := fun j hj =>
    List.Forall₂.cons (by decide) (List.Forall₂.cons hj List.Forall₂.nil)
  have htotal := hfit.total_after rfl (hindex 1 (by decide))
  -- the value up to the second factor, and the total of the line
  have hvalue : values ⟨false, false⟩ [0, 1] = 0x10000 := by
    have hfirst := List.singleton_inj.1 (Except.ok.inj (hforward.symm.trans hrun))
    have hread := hupTo [0, 1] (hshape ▸ hindex 1 (by decide))
    rw [hfirst] at hread
    exact Option.some.inj (hread.symm.trans (by decide +kernel))
  have hline : Accumulation.product.lineTotal wideFactors.shape 1 elements [0, 1] = 0x30000 := by
    have hread : ∀ j (hj : j < 3), elements [0, j] = [0x10000, 0x10001, 3][j] := by
      intro j hj
      refine Option.some.inj ((helements _ (hindex j hj)).symm.trans ?_)
      revert j
      decide +kernel
    show Accumulation.product.total .i32 [elements [0, 0], elements [0, 1], elements [0, 2]] = _
    rw [hread 0 (by decide), hread 1 (by decide), hread 2 (by decide)]
    decide +kernel
  rw [hvalue, hline] at htotal
  exact ⟨hrun, scans ⟨true, true⟩, values ⟨true, true⟩ [0, 1], hbackward,
    hafter _ (hshape' ▸ hindex 1 (by decide)), htotal⟩

end TensorScan
