import Mathlib
import TensorScan.Proofs.Operator.Kernel

set_option autoImplicit false

/-! # How an axis is written

The axis of a scan is a number, and there is more than one way to write it down. It can be stored in
32 bits or in 64 bits. It can count the dimensions from the first or, below zero, from the last. And
a plan can be made of a tensor that holds the number (`ScanKernel.plan`) or of the number itself
(`ScanPlan.alongSigned`).

None of this makes a difference to a scan. A number that fits an index type is held by exactly one
tensor of this type (`Tensor.isAxis_iff`), and such a tensor is good for nothing but its number. Two
numbers that name the same dimension give the same plan (`axisPosition_add_rank`). What follows from
the plan does not look at the axis again, so kernels that make the same plan draft the same graph
and end in the same way with every client (`ScanKernel.AgreeOn.of_plan`). Agreement is meant in
full: the same result or the same error, and the same lines in the log.
-/

namespace TensorScan

/-! ## Tensors that hold a number -/

/-- Does the number fit the index type, in two's complement? -/
def IndexType.Fits : IndexType → Int → Prop
  | .i32, v => -2 ^ 31 ≤ v ∧ v < 2 ^ 31
  | .i64, v => -2 ^ 63 ≤ v ∧ v < 2 ^ 63

/-- The tensor has no dimensions, and its one element is the number `v`. -/
def Tensor.IsAxis (axis : Tensor) (index : IndexType) (v : Int) : Prop :=
  ∃ w, axis.item index.dtype = .ok w ∧ index.value w = v

namespace IndexType

/-- What is read from an element fits. -/
theorem fits_value (index : IndexType) (w : Word index.dtype) : index.Fits (index.value w) := by
  cases index with
  | i32 => exact ⟨BitVec.le_toInt w, BitVec.toInt_lt⟩
  | i64 => exact ⟨BitVec.le_toInt w, BitVec.toInt_lt⟩

/-- A number that fits is read from the element that it is written into. -/
theorem value_ofInt {index : IndexType} {v : Int} (h : index.Fits v) :
    index.value (BitVec.ofInt _ v) = v := by
  cases index with
  | i32 =>
      obtain ⟨hlo, hhi⟩ := h
      exact BitVec.toInt_ofInt_eq_self (by decide) hlo hhi
  | i64 =>
      obtain ⟨hlo, hhi⟩ := h
      exact BitVec.toInt_ofInt_eq_self (by decide) hlo hhi

/-- The element is the only one with this number. -/
theorem ofInt_value (index : IndexType) (w : Word index.dtype) :
    BitVec.ofInt _ (index.value w) = w :=
  BitVec.ofInt_toInt

end IndexType

/-- A number is held by one tensor if it fits, and else by none. -/
theorem Tensor.isAxis_iff {axis : Tensor} {index : IndexType} {v : Int} :
    axis.IsAxis index v ↔ index.Fits v ∧ axis = ofWord index.dtype (BitVec.ofInt _ v) := by
  constructor
  · rintro ⟨w, hitem, rfl⟩
    refine ⟨index.fits_value w, ?_⟩
    rw [index.ofInt_value w]
    exact item_eq_ok.1 hitem
  · rintro ⟨hfits, rfl⟩
    exact ⟨_, item_ofWord _ _, IndexType.value_ofInt hfits⟩

/-! ## Numbers that name the same dimension -/

/-- A tensor names the dimension that its number names. -/
theorem Tensor.IsAxis.axisPosition_eq {axis : Tensor} {index : IndexType} {v : Int}
    (h : axis.IsAxis index v) (rank : Nat) :
    axis.axisPosition index rank = TensorScan.axisPosition rank v := by
  obtain ⟨w, hitem, rfl⟩ := h
  have hshape : axis.shape = [] := by
    rw [item_eq_ok.1 hitem]
    rfl
  rw [axisPosition_of_scalar hshape, hitem]
  rfl

/-- A dimension that is counted from the last can be counted from the first. -/
theorem axisPosition_add_rank {rank : Nat} (hrank : rank ≤ maxAxis) {v : Int}
    (hlo : -(rank : Int) ≤ v) (hneg : v < 0) :
    axisPosition rank (v + rank) = axisPosition rank v := by
  have hsame : resolvedAxis rank (v + rank) = resolvedAxis rank v := by
    unfold resolvedAxis
    rw [if_pos hneg, if_neg (by omega), Int.add_comm]
  rw [axisPosition_eq hrank, axisPosition_eq hrank, hsame, if_pos (by omega), if_pos (by omega)]

/-! ## Plans, graphs and runs -/

/-- A plan depends on the number only through the dimension that it names. -/
theorem ScanPlan.alongSigned_congr {shape : Shape} {v v' : Int}
    (h : axisPosition shape.rank v = axisPosition shape.rank v') (flags : ScanFlags)
    (op : Accumulation) : alongSigned shape v flags op = alongSigned shape v' flags op := by
  unfold alongSigned
  rw [h]

namespace ScanKernel

/-- A plan that is made of a tensor is the plan that is made of its number. -/
theorem plan_eq_alongSigned {k : ScanKernel} {axis : Tensor} {v : Int}
    (h : axis.IsAxis k.index v) (operand : Tensor) :
    k.plan operand axis = ScanPlan.alongSigned operand.shape v k.flags k.op := by
  unfold plan ScanPlan.alongSigned
  rw [h.axisPosition_eq]
  rfl

/-- The kernel of the same scan that takes axes of another type. -/
def withIndex (k : ScanKernel) (index : IndexType) : ScanKernel := { k with index := index }

/-- With an operand and their axes the two kernels do the same: they make the same plan, draft the
same graph, and their runs end alike, whatever the client. -/
structure AgreeOn (k k' : ScanKernel) (operand axis axis' : Tensor) : Prop where
  plan : k.plan operand axis = k'.plan operand axis'
  graph : (k.plan operand axis >>= k.graph) = (k'.plan operand axis' >>= k'.graph)
  run (client : Client) : k.run client [operand, axis] = k'.run client [operand, axis']

/-- Kernels of the same scan agree as soon as they make the same plan. -/
theorem AgreeOn.of_plan {k : ScanKernel} {index index' : IndexType} {operand axis axis' : Tensor}
    (h : (k.withIndex index).plan operand axis = (k.withIndex index').plan operand axis') :
    AgreeOn (k.withIndex index) (k.withIndex index') operand axis axis' := by
  -- neither the check of the operand nor the graph of a plan looks at the type of axes
  have hrequest : (k.withIndex index).request [operand, axis] =
      (k.withIndex index').request [operand, axis'] := by
    simp only [request, h]
    rfl
  refine ⟨h, ?_, fun client => ?_⟩
  · rw [h]
    rfl
  · rw [ScanKernel.run, ScanKernel.run, hrequest]

/-- Kernels of the same scan agree on axes that name the same dimension. -/
theorem AgreeOn.of_axisPosition {k : ScanKernel} {index index' : IndexType} {axis axis' : Tensor}
    {v v' : Int} (h : axis.IsAxis index v) (h' : axis'.IsAxis index' v') {operand : Tensor}
    (hsame : axisPosition operand.rank v = axisPosition operand.rank v') :
    AgreeOn (k.withIndex index) (k.withIndex index') operand axis axis' := by
  apply AgreeOn.of_plan
  calc (k.withIndex index).plan operand axis
      = ScanPlan.alongSigned operand.shape v k.flags k.op :=
        plan_eq_alongSigned (k := k.withIndex index) h operand
    _ = ScanPlan.alongSigned operand.shape v' k.flags k.op :=
        ScanPlan.alongSigned_congr hsame k.flags k.op
    _ = (k.withIndex index').plan operand axis' :=
        (plan_eq_alongSigned (k := k.withIndex index') h' operand).symm

/-- **How an axis is written makes no difference.** Every number of an index type is held by a
tensor, and the plan that is made of the tensor is the plan that is made of the number. A number
that fits 32 bits may be stored in these or in 64 bits. An operand has no more dimensions than an
axis can count, and a dimension that is counted from its last may as well be counted from its first,
again in any of the two types and also without a tensor. -/
theorem plan_axis (k : ScanKernel) (operand : Tensor) :
    (∀ index v, (∃ axis : Tensor, axis.IsAxis index v) ↔ index.Fits v) ∧
      (∀ index v axis, axis.IsAxis index v →
        (k.withIndex index).plan operand axis =
          ScanPlan.alongSigned operand.shape v k.flags k.op) ∧
      (∀ v axis axis', axis.IsAxis .i32 v → axis'.IsAxis .i64 v →
        AgreeOn (k.withIndex .i32) (k.withIndex .i64) operand axis axis') ∧
      (operand.rank ≤ maxAxis → ∀ v : Int, -(operand.rank : Int) ≤ v → v < 0 →
        ScanPlan.alongSigned operand.shape v k.flags k.op =
            ScanPlan.alongSigned operand.shape (v + operand.rank) k.flags k.op ∧
          ∀ index index' axis axis', axis.IsAxis index v →
            axis'.IsAxis index' (v + operand.rank) →
            AgreeOn (k.withIndex index) (k.withIndex index') operand axis axis') := by
  refine ⟨fun index v => ?_, fun index v axis h => ?_, fun v axis axis' h h' => ?_,
    fun hrank v hlo hneg => ?_⟩
  · constructor
    · rintro ⟨axis, h⟩
      exact (Tensor.isAxis_iff.1 h).1
    · intro hfits
      exact ⟨_, Tensor.isAxis_iff.2 ⟨hfits, rfl⟩⟩
  · exact plan_eq_alongSigned (k := k.withIndex index) h operand
  · exact AgreeOn.of_axisPosition h h' rfl
  · have hsame := axisPosition_add_rank hrank hlo hneg
    exact ⟨ScanPlan.alongSigned_congr hsame.symm k.flags k.op,
      fun index index' axis axis' h h' => AgreeOn.of_axisPosition h h' hsame.symm⟩

/-- The axes of an operand without elements. Its second dimension, which is scanned, is the one
before the last, in 32 bits as in 64. Its first one is refused, counted from the first or from the
last. -/
theorem plan_emptyOperand_axes :
    let k : ScanKernel := ⟨.sum, .f32, .i32, ⟨false, false⟩⟩
    let operand : Tensor := ⟨[0, 2 ^ 63, 4], .f32, []⟩
    (k.plan operand (Tensor.ofWord .i32 (-2))).outcome =
        .ok ⟨⟨0, 2 ^ 63, 4⟩, 2, ⟨.sum, .increasing, false⟩⟩ ∧
      AgreeOn k (k.withIndex .i64) operand (Tensor.ofWord .i32 (-2)) (Tensor.ofWord .i64 (-2)) ∧
      AgreeOn k (k.withIndex .i64) operand (Tensor.ofWord .i32 (-3)) (Tensor.ofWord .i64 0) ∧
      ((k.withIndex .i64).plan operand (Tensor.ofWord .i64 0)).outcome =
        .error (.shapeOverflow [0, 2 ^ 63, 4]) := by
  intro k operand
  have hshort : (Tensor.ofWord .i32 (-2)).IsAxis .i32 (-2) :=
    ⟨-2, Tensor.item_ofWord .i32 (-2), by decide⟩
  have hlong : (Tensor.ofWord .i64 (-2)).IsAxis .i64 (-2) :=
    ⟨-2, Tensor.item_ofWord .i64 (-2), by decide⟩
  have hlast : (Tensor.ofWord .i32 (-3)).IsAxis .i32 (-3) :=
    ⟨-3, Tensor.item_ofWord .i32 (-3), by decide⟩
  have hfirst : (Tensor.ofWord .i64 0).IsAxis .i64 (-3 + operand.rank) :=
    ⟨0, Tensor.item_ofWord .i64 0, by decide⟩
  have hrank : operand.rank ≤ maxAxis := by decide
  obtain ⟨_, hplan, hwidth, hcounted⟩ := k.plan_axis operand
  obtain ⟨_, hagree⟩ := hcounted hrank (-3) (by decide) (by decide)
  refine ⟨?_, hwidth _ _ _ hshort hlong, hagree _ _ _ _ hlast hfirst, ?_⟩
  · have hnumber := hplan _ _ _ hshort
    show ((k.withIndex .i32).plan operand _).outcome = _
    rw [hnumber]
    decide +kernel
  · rw [hplan _ _ _ hfirst]
    decide +kernel

end ScanKernel

end TensorScan
