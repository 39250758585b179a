import Mathlib
import TensorScan.Operator.Kernel
import TensorScan.Proofs.Axis
import TensorScan.Proofs.Graph.OneScan

set_option autoImplicit false

/-! # What a scan kernel gives

A kernel asks the client for a graph of two nodes, an input and a scan of it. On the host every
step of this can be told: the plan is refused if the sizes after the axis overflow, the graph can
always be drafted, it accepts the operand, and its scan fails only if the elements cannot be
computed with. What comes back has as many elements as the operand, so it takes the operand's shape
again. `ScanKernel.outcome_run` sums this up: apart from the axis, three things can go wrong, and
if none does then the result is the operand, scanned along the dimension that the axis names.
-/

namespace TensorScan

/-! ## The axis -/

/-- A tensor with dimensions names none, whatever it holds. -/
theorem Tensor.axisPosition_of_shape {axis : Tensor} (h : axis.shape ≠ []) (index : IndexType)
    (rank : Nat) : axis.axisPosition index rank =
      .error (.invalidArgument "axis" (.axisNotScalar axis.shape)) := by
  have hscalar : ¬ axis.isScalar = true := by simpa [isScalar, Shape.isScalar] using h
  rw [Tensor.axisPosition, if_neg hscalar]

/-- A tensor without dimensions names the dimension that its element names. -/
theorem Tensor.axisPosition_of_scalar {axis : Tensor} (h : axis.shape = []) (index : IndexType)
    (rank : Nat) : axis.axisPosition index rank =
      axis.item index.dtype >>= fun w => TensorScan.axisPosition rank (index.value w) := by
  have hscalar : axis.isScalar = true := by simp [isScalar, Shape.isScalar, h]
  rw [Tensor.axisPosition, if_pos hscalar]

/-- A tensor that names a dimension holds one element, whose value names it. -/
theorem Tensor.exists_item_of_axisPosition {axis : Tensor} {index : IndexType}
    {rank position : Nat} (h : axis.axisPosition index rank = .ok position) :
    ∃ w, axis.item index.dtype = .ok w ∧
      TensorScan.axisPosition rank (index.value w) = .ok position := by
  by_cases hshape : axis.shape = []
  · rw [axisPosition_of_scalar hshape] at h
    exact bind_eq_ok.1 h
  · rw [axisPosition_of_shape hshape] at h
    contradiction

/-- The signed number in the bytes of a tensor. -/
def Tensor.axisValue (axis : Tensor) (index : IndexType) : Int :=
  index.value (Word.ofBytes index.dtype axis.bytes)

/-- A tensor that names an axis is looked at in three steps: its shape, its element type, its
value. -/
theorem Tensor.axisPosition_eq {axis : Tensor} (h : axis.WellFormed) (index : IndexType)
    {rank : Nat} (hrank : rank ≤ maxAxis) :
    axis.axisPosition index rank =
      if axis.shape ≠ [] then .error (.invalidArgument "axis" (.axisNotScalar axis.shape))
      else if axis.dtype ≠ index.dtype then .error (.dtypeMismatch index.dtype axis.dtype)
      else if -(rank : Int) ≤ axis.axisValue index ∧ axis.axisValue index < rank then
        .ok (resolvedAxis rank (axis.axisValue index))
      else .error (.axisOutOfRange (axis.axisValue index) rank) := by
  by_cases hshape : axis.shape = []
  · rw [axisPosition_of_scalar hshape, if_neg (not_not_intro hshape)]
    by_cases hdtype : axis.dtype = index.dtype
    · rw [h.item_eq hshape hdtype, if_neg (not_not_intro hdtype)]
      exact TensorScan.axisPosition_eq hrank (axis.axisValue index)
    · rw [item_of_ne hshape hdtype, if_pos hdtype]
      rfl
  · rw [axisPosition_of_shape hshape, if_pos hshape]

/-! ## The plan and the graph -/

/-- The dimension of the four of an extent that is scanned along. -/
def Extent.scanAxis : Fin 4 := ⟨2, by decide⟩

/-- The graph of a scan seen as one of four dimensions: an input, and the scan of it. -/
def ScanGraph.single (d : DType) (e : Extent) (mode : ScanMode) : ScanGraph where
  nodes := [⟨.input 0, .ofExtent d e⟩, ⟨.scan 0 Extent.scanAxis mode, .ofExtent d e⟩]
  inputs := [.ofExtent d e]
  outputs := [1]

theorem ScanKernel.outcome_graph (k : ScanKernel) (e : Extent) (mode : ScanMode) :
    (k.graph ⟨e, 2, mode⟩).outcome = .ok (.single k.dtype e mode) := rfl

/-- A kernel that has an operand of its type and an axis asks for a scan of the operand, seen from
the dimension that the axis names. -/
theorem ScanKernel.outcome_request (k : ScanKernel) (operand axis : Tensor) :
    (k.request [operand, axis]).outcome =
      if operand.dtype ≠ k.dtype then .error (.dtypeMismatch k.dtype operand.dtype)
      else axis.axisPosition k.index operand.rank >>= fun position =>
        operand.shape.extent position >>= fun e =>
          .ok ⟨.single k.dtype e (k.flags.mode k.op), operand⟩ := by
  by_cases hdtype : operand.dtype = k.dtype
  · simp only [request, plan, ScanPlan.along, hdtype, ne_eq, not_true_eq_false, if_false,
      Logged.outcome_bind, Logged.outcome_liftM, Logged.outcome_note, Logged.outcome_pure]
    cases axis.axisPosition k.index operand.rank with
    | error e => rfl
    | ok position =>
        cases hextent : operand.shape.extent position with
        | error e => simp [bind, Except.bind, hextent]
        | ok e => simp only [bind, Except.bind, hextent, outcome_graph]
  · simp only [request, hdtype, ne_eq, not_false_eq_true, if_true, Logged.outcome_fail]

section Single

variable {t : Tensor} {axis : Nat}

/-- The four sizes have as many elements as the shape that they stand for. -/
theorem prod_dims_along {shape : Shape} (haxis : axis < shape.length) :
    List.prod (Extent.along shape axis).dims = List.prod shape := by
  rw [← Extent.count_along haxis]
  simp [Extent.dims, Extent.count, Nat.mul_assoc]

/-- A run of the graph of one scan fails only if the elements cannot be computed with. -/
theorem ScanGraph.evaluate_single (ht : t.WellFormed) (haxis : axis < t.shape.length)
    (features : Features) (mode : ScanMode) :
    (evaluate features (single t.dtype (Extent.along t.shape axis) mode) [t]).outcome =
      if t.dtype = .f16 ∧ features.half = false then .error (.featureRequired .f16 "f16")
      else .ok [{ t.scanned axis mode with shape := (Extent.along t.shape axis).dims }] := by
  set desc : Descriptor := .ofExtent t.dtype (Extent.along t.shape axis)
  have hfits : ¬ Overflows desc.sizes := not_overflows_dims_along ht.not_overflows haxis
  have hcount : List.prod desc.sizes = List.prod t.shape := prod_dims_along haxis
  -- in its four sizes the tensor is scanned along dimension 2 as it is along the axis
  have hextent : Extent.along (Extent.along t.shape axis).dims Extent.scanAxis =
      Extent.along t.shape axis :=
    Extent.along_dims _
  rw [← Tensor.scanned_eq_of_along hextent mode]
  exact evaluate_oneScan ht rfl hfits hcount features Extent.scanAxis mode

/-- What a client of the host answers to the request of one scan takes the shape of the operand. -/
theorem ScanRequest.outcome_submit (ht : t.WellFormed) (haxis : axis < t.shape.length)
    (features : Features) (mode : ScanMode) :
    (submit ⟨.single t.dtype (Extent.along t.shape axis) mode, t⟩
        (ScanGraph.evaluate features)).outcome =
      if t.dtype = .f16 ∧ features.half = false then .error (.featureRequired .f16 "f16")
      else .ok [t.scanned axis mode] := by
  -- the answer has as many elements as the operand
  have hback : ({ t.scanned axis mode with shape := (Extent.along t.shape axis).dims } :
      Tensor).reshape t.shape = .ok (t.scanned axis mode) := by
    rw [Tensor.reshape_eq_ok]
    exact ⟨checkedProduct_eq_some.2 ⟨(ht.scanned axis mode).count_eq.symm, ht.not_overflows⟩, rfl⟩
  simp only [submit, Logged.outcome_bind, Logged.outcome_ofExcept,
    ScanGraph.evaluate_single ht haxis]
  by_cases hhalf : t.dtype = .f16 ∧ features.half = false
  · rw [if_pos hhalf, if_pos hhalf]
    rfl
  · rw [if_neg hhalf, if_neg hhalf]
    exact mapM_eq_ok.2 (List.Forall₂.cons hback List.Forall₂.nil)

end Single

/-! ## The run -/

/-- **A run of a kernel** on an operand and an axis. Once the axis is known, only the sizes after
it and the element type can be in the way, and the result is the scanned operand. -/
theorem ScanKernel.outcome_run (k : ScanKernel) (features : Features) {operand : Tensor}
    (ho : operand.WellFormed) (axis : Tensor) :
    (k.run (ScanGraph.evaluate features) [operand, axis]).outcome =
      if operand.dtype ≠ k.dtype then .error (.dtypeMismatch k.dtype operand.dtype)
      else axis.axisPosition k.index operand.rank >>= fun position =>
        if Overflows (operand.shape.drop (position + 1)) then .error (.shapeOverflow operand.shape)
        else if k.dtype = .f16 ∧ features.half = false then .error (.featureRequired .f16 "f16")
        else .ok [operand.scanned position (k.flags.mode k.op)] := by
  rw [run, Logged.outcome_bind, k.outcome_request]
  by_cases hdtype : operand.dtype = k.dtype
  · simp only [hdtype, ne_eq, not_true_eq_false, if_false]
    cases hposition : axis.axisPosition k.index operand.rank with
    | error e => rfl
    | ok position =>
        obtain ⟨_, _, hw⟩ := Tensor.exists_item_of_axisPosition hposition
        have hlt : position < operand.shape.length := (axisPosition_eq_ok.1 hw).2.1
        have hextent := Shape.extent_eq ho.not_overflows hlt
        have hsubmit := ScanRequest.outcome_submit ho hlt features (k.flags.mode k.op)
        rw [hdtype] at hsubmit
        by_cases hover : Overflows (operand.shape.drop (position + 1))
        · simp [bind, Except.bind, hextent, hover]
        · simp [bind, Except.bind, hextent, hover, hsubmit]
  · simp only [hdtype, ne_eq, not_false_eq_true, if_true]
    rfl

/-- A run that succeeds gives the operand, scanned along the dimension that the axis names. -/
theorem ScanKernel.run_eq_ok {k : ScanKernel} {features : Features} {operand axis : Tensor}
    (ho : operand.WellFormed) {results : List Tensor}
    (h : (k.run (ScanGraph.evaluate features) [operand, axis]).outcome = .ok results) :
    operand.dtype = k.dtype ∧ ∃ position, axis.axisPosition k.index operand.rank = .ok position ∧
      results = [operand.scanned position (k.flags.mode k.op)] := by
  rw [k.outcome_run features ho] at h
  by_cases hdtype : operand.dtype = k.dtype
  · rw [if_neg (not_not_intro hdtype)] at h
    obtain ⟨position, hposition, h⟩ := bind_eq_ok.1 h
    split at h
    · contradiction
    · split at h
      · contradiction
      · exact ⟨hdtype, position, hposition, (Except.ok.inj h).symm⟩
  · rw [if_pos hdtype] at h
    contradiction

/-- The dimension that a tensor names is one of those there are. -/
theorem Tensor.lt_of_axisPosition {axis : Tensor} {index : IndexType} {rank position : Nat}
    (h : axis.axisPosition index rank = .ok position) : position < rank := by
  obtain ⟨_, _, hw⟩ := exists_item_of_axisPosition h
  exact (axisPosition_eq_ok.1 hw).2.1

/-- A run that succeeds holds the scanned array of the operand. -/
theorem ScanKernel.run_holds {k : ScanKernel} {features : Features} {operand axis : Tensor}
    (ho : operand.WellFormed) {results : List Tensor}
    (h : (k.run (ScanGraph.evaluate features) [operand, axis]).outcome = .ok results) :
    operand.dtype = k.dtype ∧ ∃ position < operand.shape.length,
      axis.axisPosition k.index operand.rank = .ok position ∧
      results = [operand.scanned position (k.flags.mode k.op)] ∧
      (operand.scanned position (k.flags.mode k.op)).Holds
        ((k.flags.mode k.op).scanGrid k.dtype operand.shape position (operand.grid k.dtype)) := by
  obtain ⟨hdtype, position, hposition, hresults⟩ := run_eq_ok ho h
  have hlt := Tensor.lt_of_axisPosition hposition
  exact ⟨hdtype, position, hlt, hposition, hresults,
    (ho.holds_grid hdtype).scanned hdtype ho hlt (k.flags.mode k.op)⟩

/-! ## How a run ends -/

/-- What is wrong with the inputs of a kernel, in the order in which they are looked at: their
number, the element type of the operand, the shape of the axis, its element type, its value, the
sizes after the dimension that it names, and last whether the elements can be computed with. -/
def ScanKernel.fault (k : ScanKernel) (features : Features) (inputs : List Tensor) :
    Option Error :=
  match inputs with
  | [operand, axis] =>
      let v := axis.axisValue k.index
      if operand.dtype ≠ k.dtype then some (.dtypeMismatch k.dtype operand.dtype)
      else if axis.shape ≠ [] then some (.invalidArgument "axis" (.axisNotScalar axis.shape))
      else if axis.dtype ≠ k.index.dtype then some (.dtypeMismatch k.index.dtype axis.dtype)
      else if ¬ (-(operand.rank : Int) ≤ v ∧ v < operand.rank) then
        some (.axisOutOfRange v operand.rank)
      else if Overflows (operand.shape.drop (resolvedAxis operand.rank v + 1)) then
        some (.shapeOverflow operand.shape)
      else if k.dtype = .f16 ∧ features.half = false then some (.featureRequired .f16 "f16")
      else none
  | _ => some (.invalidArgument "inputs" (.inputCount k.name inputs.length))

/-- Of two well-formed tensors a run tells the fault, or scans the operand. -/
theorem ScanKernel.outcome_run_pair (k : ScanKernel) (features : Features) {operand axis : Tensor}
    (ho : operand.WellFormed) (ha : axis.WellFormed) (hrank : operand.rank ≤ maxAxis) :
    (k.run (ScanGraph.evaluate features) [operand, axis]).outcome =
      match k.fault features [operand, axis] with
      | some e => .error e
      | none => .ok [operand.scanned (resolvedAxis operand.rank (axis.axisValue k.index))
          (k.flags.mode k.op)] := by
  rw [k.outcome_run features ho, Tensor.axisPosition_eq ha k.index hrank]
  simp only [fault]
  -- one check after the other, in the order of the run
  by_cases hdtype : operand.dtype = k.dtype
  · by_cases hshape : axis.shape = []
    · by_cases hindex : axis.dtype = k.index.dtype
      · by_cases hrange : -(operand.rank : Int) ≤ axis.axisValue k.index ∧
            axis.axisValue k.index < operand.rank
        · simp only [hdtype, hshape, hindex, hrange, ne_eq, not_true_eq_false, if_false, if_true,
            and_self, bind, Except.bind]
          split
          · rfl
          · split <;> rfl
        · simp [hdtype, hshape, hindex, hrange, bind, Except.bind]
      · simp [hdtype, hshape, hindex, bind, Except.bind]
    · simp [hdtype, hshape, bind, Except.bind]
  · simp [hdtype]

/-- **How a run of a kernel ends.** It fails with the first fault of its inputs, and succeeds if
they have none; no other error is possible. -/
theorem ScanKernel.run_outcome_eq (k : ScanKernel) (features : Features) {inputs : List Tensor}
    (hinputs : ∀ t ∈ inputs, t.Built) (hranks : ∀ t ∈ inputs, t.rank ≤ maxAxis) :
    (∀ e, k.fault features inputs = some e →
        (k.run (ScanGraph.evaluate features) inputs).outcome = .error e) ∧
      (k.fault features inputs = none →
        ∃ results, (k.run (ScanGraph.evaluate features) inputs).outcome = .ok results) := by
  match inputs with
  | [] => exact ⟨fun e he => congrArg Except.error (Option.some.inj he), fun h => nomatch h⟩
  | [_] => exact ⟨fun e he => congrArg Except.error (Option.some.inj he), fun h => nomatch h⟩
  | _ :: _ :: _ :: _ =>
      exact ⟨fun e he => congrArg Except.error (Option.some.inj he), fun h => nomatch h⟩
  | [operand, axis] =>
      have hrun := k.outcome_run_pair features (hinputs operand (by simp)).wellFormed
        (hinputs axis (by simp)).wellFormed (hranks operand (by simp))
      constructor
      · intro e he
        rw [hrun, he]
      · intro hnone
        rw [hrun, hnone]
        exact ⟨_, rfl⟩

/-- An operand without elements, and an axis. -/
def emptyOperandInputs (axis : Word .i32) : List Tensor :=
  [⟨[0, 2 ^ 63, 4], .f32, []⟩, Tensor.ofWord .i32 axis]

theorem emptyOperandInputs_built (axis : Word .i32) :
    (∀ t ∈ emptyOperandInputs axis, t.Built) ∧
      ∀ t ∈ emptyOperandInputs axis, t.rank ≤ maxAxis := by
  have hzeros : Tensor.zeros [0, 2 ^ 63, 4] .f32 = .ok ⟨[0, 2 ^ 63, 4], .f32, []⟩ := by
    decide +kernel
  constructor
  · intro t ht
    simp only [emptyOperandInputs, List.mem_cons, List.not_mem_nil, or_false] at ht
    rcases ht with rfl | rfl
    · exact Tensor.Built.zeros hzeros
    · exact Tensor.Built.ofWord .i32 axis
  · intro t ht
    simp only [emptyOperandInputs, List.mem_cons, List.not_mem_nil, or_false] at ht
    rcases ht with rfl | rfl
    · show 3 ≤ maxAxis
      decide
    · show 0 ≤ maxAxis
      decide

/-- Whether an operand without elements can be scanned depends on the axis: the sizes after the
first dimension overflow, those after the second, here counted from the last, do not. -/
theorem ScanKernel.run_emptyOperand :
    (run ⟨.sum, .f32, .i32, ⟨false, false⟩⟩ (ScanGraph.evaluate ⟨true⟩)
        (emptyOperandInputs 0)).outcome = .error (.shapeOverflow [0, 2 ^ 63, 4]) ∧
      ∃ results, (run ⟨.sum, .f32, .i32, ⟨false, false⟩⟩ (ScanGraph.evaluate ⟨true⟩)
        (emptyOperandInputs (-2))).outcome = .ok results := by
  have hfault : fault ⟨.sum, .f32, .i32, ⟨false, false⟩⟩ ⟨true⟩ (emptyOperandInputs 0) =
      some (.shapeOverflow [0, 2 ^ 63, 4]) := by
    decide +kernel
  have hnone : fault ⟨.sum, .f32, .i32, ⟨false, false⟩⟩ ⟨true⟩ (emptyOperandInputs (-2)) =
      none := by
    decide +kernel
  obtain ⟨hbuilt, hranks⟩ := emptyOperandInputs_built 0
  obtain ⟨hbuilt', hranks'⟩ := emptyOperandInputs_built (-2)
  exact ⟨(run_outcome_eq _ ⟨true⟩ hbuilt hranks).1 _ hfault,
    (run_outcome_eq _ ⟨true⟩ hbuilt' hranks').2 hnone⟩

end TensorScan
