import Mathlib
import TensorScan.Proofs.Graph.Evaluation

set_option autoImplicit false

/-! # Graphs of one scan

The smallest graph that computes something has two nodes, an input and a scan of it along one of
the four axes. It accepts every tensor of its element type that has as many elements as its sizes
ask for, whatever the rank of the tensor, and returns the tensor in these sizes, scanned along the
axis (`ScanGraph.evaluate_oneScan`).

The same tensor can be given to many such graphs. What they return depends on the sizes only
through the extent that they have when they are seen from the axis.
-/

namespace TensorScan

namespace ScanGraph

/-- An input, and the scan of it. -/
def oneScan (desc : Descriptor) (axis : Fin 4) (mode : ScanMode) : ScanGraph where
  nodes := [⟨.input 0, desc⟩, ⟨.scan 0 axis mode, desc⟩]
  inputs := [desc]
  outputs := [1]

/-- The graph is what two calls draft. -/
theorem outcome_finish_oneScan (desc : Descriptor) {axis : Nat} (haxis : axis < 4)
    (mode : ScanMode) :
    ((GraphDraft.build [.input desc, .scan 0 axis mode]).finish [1]).outcome =
      .ok (oneScan desc ⟨axis, haxis⟩ mode) := by
  have hscan : (GraphDraft.mk [⟨.input 0, desc⟩] [desc]).addScan 0 axis mode =
      (⟨(oneScan desc ⟨axis, haxis⟩ mode).nodes, [desc]⟩, .ok 1) := dif_pos haxis
  have hbuild : GraphDraft.build [.input desc, .scan 0 axis mode] =
      ⟨(oneScan desc ⟨axis, haxis⟩ mode).nodes, [desc]⟩ := by
    show ((GraphDraft.mk [⟨.input 0, desc⟩] [desc]).addScan 0 axis mode).1 = _
    rw [hscan]
  rw [hbuild, GraphDraft.finish_eq_ok]
  refine ⟨by simp, ?_, rfl⟩
  intro id hid
  rw [List.mem_singleton.1 hid]
  simp [oneScan]

section Evaluate

variable {t : Tensor} {desc : Descriptor}

/-- The graph accepts a tensor that has as many elements as its sizes. -/
theorem accept_oneScan (ht : t.WellFormed) (hdtype : t.dtype = desc.dtype)
    (hfits : ¬ Overflows desc.sizes) (hcount : List.prod desc.sizes = List.prod t.shape)
    (axis : Fin 4) (mode : ScanMode) : (oneScan desc axis mode).accept [t] = .ok () := by
  have hdesc : t.count = desc.count := by
    rw [Descriptor.count, saturatingProduct_eq hfits, hcount, ht.count_eq]
  have haccept := Descriptor.accept_eq_ok.2 ⟨hdtype, hdesc⟩
  simp [accept, oneScan, acceptAll, haccept, bind, Except.bind]

/-- **A run of a graph of one scan** fails only if the elements cannot be computed with. -/
theorem evaluate_oneScan (ht : t.WellFormed) (hdtype : t.dtype = desc.dtype)
    (hfits : ¬ Overflows desc.sizes) (hcount : List.prod desc.sizes = List.prod t.shape)
    (features : Features) (axis : Fin 4) (mode : ScanMode) :
    (evaluate features (oneScan desc axis mode) [t]).outcome =
      if t.dtype = .f16 ∧ features.half = false then .error (.featureRequired .f16 "f16")
      else .ok [({ t with shape := desc.sizes } : Tensor).scanned axis mode] := by
  set input : Tensor := { t with shape := desc.sizes }
  have hinput : input.HasDescriptor desc := ⟨ht.withShape hfits hcount, rfl, hdtype⟩
  have hfirst : GraphNode.evaluate ⟨.input 0, desc⟩ features [t] [] = .ok input := by
    show t.reshape desc.sizes = .ok input
    rw [ht.reshape_eq, if_neg hfits, if_pos hcount]
  have hsecond : GraphNode.evaluate ⟨.scan 0 axis mode, desc⟩ features [t] [input] =
      if t.dtype = .f16 ∧ features.half = false then .error (.featureRequired .f16 "f16")
      else .ok (input.scanned axis mode) := by
    rw [hdtype]
    exact Descriptor.scan_eq hinput features axis mode
  rw [outcome_evaluate, accept_oneScan ht hdtype hfits hcount]
  simp only [oneScan, outcome_evaluateNodes_cons, hfirst]
  by_cases hhalf : t.dtype = .f16 ∧ features.half = false
  · rw [if_pos hhalf] at hsecond ⊢
    simp [bind, Except.bind, hsecond]
  · rw [if_neg hhalf] at hsecond ⊢
    simp [bind, Except.bind, pure, Except.pure, hsecond, evaluateNodes, valueOf]

end Evaluate

end ScanGraph

end TensorScan
