import Mathlib
import TensorScan.Proofs.Operator.Kernel

set_option autoImplicit false

/-! # How tensors are represented

A tensor keeps its shape and its bytes apart, and nothing in its type ties the one to the other:
the number of elements is read off the bytes, and reshaping looks at the shape. That they never
drift apart is an invariant of everything that gives a tensor. `Tensor.Obtainable` lists what does:
the constructors, reshaping, runs of graphs on the host, and runs of kernels on the host.

Every obtainable tensor is well-formed (`Tensor.Obtainable.wellFormed`). So reading it loses no
byte, and a tensor that was reshaped, however often, can be brought back
(`Tensor.Obtainable.represented`).
-/

namespace TensorScan

/-- The tensors that can be had. Nothing is assumed of the graph that is run: it may even be one
that cannot be drafted. -/
inductive Tensor.Obtainable : Tensor → Prop
  | built {t : Tensor} (h : t.Built) : Obtainable t
  | reshape {t r : Tensor} {shape : Shape} (ht : Obtainable t) (h : t.reshape shape = .ok r) :
      Obtainable r
  | evaluated {features : Features} {g : ScanGraph} {tensors results : List Tensor} {t : Tensor}
      (htensors : ∀ s ∈ tensors, Obtainable s)
      (h : (g.evaluate features tensors).outcome = .ok results) (ht : t ∈ results) : Obtainable t
  | computed {features : Features} {k : ScanKernel} {inputs results : List Tensor} {t : Tensor}
      (hinputs : ∀ s ∈ inputs, Obtainable s)
      (h : (k.run (ScanGraph.evaluate features) inputs).outcome = .ok results)
      (ht : t ∈ results) : Obtainable t

/-! ## What a run gives is well-formed -/

theorem Descriptor.wellFormed_of_scan {desc : Descriptor} {features : Features}
    {source t : Tensor} {axis : Fin 4} {mode : ScanMode}
    (h : desc.scan features source axis mode = .ok t) : t.WellFormed := by
  obtain ⟨_, _, h⟩ := bind_eq_ok.1 h
  obtain ⟨_, _, h⟩ := bind_eq_ok.1 h
  exact Tensor.wellFormed_of_ofBytes h

/-- The value of an input is a reshaped tensor, and that of a scan is put together from bytes. -/
theorem GraphNode.wellFormed_of_evaluate {node : GraphNode} {features : Features}
    {tensors values : List Tensor} {t : Tensor} (htensors : ∀ s ∈ tensors, s.WellFormed)
    (h : node.evaluate features tensors values = .ok t) : t.WellFormed := by
  obtain ⟨op, desc⟩ := node
  cases op with
  | input index =>
      cases htensor : tensors[index]? with
      | none => simp [evaluate, htensor] at h
      | some s =>
          simp only [evaluate, htensor] at h
          exact (htensors s (List.mem_of_getElem? htensor)).of_reshape h
  | scan source axis mode =>
      cases hvalue : values[source]? with
      | none => simp [evaluate, hvalue] at h
      | some s =>
          simp only [evaluate, hvalue] at h
          exact Descriptor.wellFormed_of_scan h

theorem wellFormed_of_evaluateNodes {features : Features} {tensors : List Tensor}
    (htensors : ∀ s ∈ tensors, s.WellFormed) {nodes : List GraphNode} {values all : List Tensor}
    (hvalues : ∀ s ∈ values, s.WellFormed)
    (h : (evaluateNodes features tensors nodes values).outcome = .ok all) :
    ∀ t ∈ all, t.WellFormed := by
  induction nodes generalizing values with
  | nil =>
      obtain rfl : values = all := Except.ok.inj h
      exact hvalues
  | cons node rest ih =>
      rw [outcome_evaluateNodes_cons] at h
      obtain ⟨value, hvalue, hrest⟩ := bind_eq_ok.1 h
      have hextended : ∀ s ∈ values ++ [value], s.WellFormed := by
        intro s hs
        rcases List.mem_append.1 hs with hold | hnew
        · exact hvalues s hold
        · rw [List.mem_singleton.1 hnew]
          exact GraphNode.wellFormed_of_evaluate htensors hvalue
      exact ih hextended hrest

/-- What is returned is the value of a node. -/
theorem mem_of_forall₂_valueOf {values results : List Tensor} {outputs : List Nat}
    (h : List.Forall₂ (fun id t => valueOf values id = .ok t) outputs results) {t : Tensor}
    (ht : t ∈ results) : t ∈ values := by
  induction h with
  | nil => contradiction
  | cons hfirst _ ih =>
      rcases List.mem_cons.1 ht with rfl | hrest
      · exact List.mem_of_getElem? (valueOf_eq_ok.1 hfirst)
      · exact ih hrest

/-- Whatever graph is run, what it returns is well-formed. -/
theorem ScanGraph.wellFormed_of_evaluate {g : ScanGraph} {features : Features}
    {tensors results : List Tensor} (htensors : ∀ s ∈ tensors, s.WellFormed)
    (h : (g.evaluate features tensors).outcome = .ok results) : ∀ t ∈ results, t.WellFormed := by
  obtain ⟨_, values, hvalues, hresults⟩ := evaluate_eq_ok.1 h
  have hall : ∀ s ∈ values, s.WellFormed :=
    wellFormed_of_evaluateNodes htensors (by simp) hvalues
  intro t ht
  exact hall t (mem_of_forall₂_valueOf hresults ht)

/-- Whatever kernel is run on the host, what it returns is well-formed. -/
theorem ScanKernel.wellFormed_of_run {k : ScanKernel} {features : Features}
    {inputs results : List Tensor} (hinputs : ∀ s ∈ inputs, s.WellFormed)
    (h : (k.run (ScanGraph.evaluate features) inputs).outcome = .ok results) :
    ∀ t ∈ results, t.WellFormed := by
  match inputs with
  | [] => contradiction
  | [_] => contradiction
  | _ :: _ :: _ :: _ => contradiction
  | [operand, axis] =>
      have hoperand := hinputs operand (by simp)
      obtain ⟨_, position, _, rfl⟩ := ScanKernel.run_eq_ok hoperand h
      intro t ht
      rw [List.mem_singleton.1 ht]
      exact hoperand.scanned position _

namespace Tensor

variable {t r : Tensor}

theorem Obtainable.wellFormed (h : t.Obtainable) : t.WellFormed := by
  induction h with
  | built h => exact h.wellFormed
  | reshape _ h ih => exact ih.of_reshape h
  | evaluated _ h ht ih => exact ScanGraph.wellFormed_of_evaluate ih h _ ht
  | computed _ h ht ih => exact ScanKernel.wellFormed_of_run ih h _ ht

/-! ## Reading -/

/-- Reading the elements loses no byte, and writing them again gives the same bytes. -/
theorem WellFormed.exists_words (h : t.WellFormed) :
    ∃ words, t.words t.dtype = .ok words ∧ words.length = List.prod t.shape ∧
      bytesOfWords t.dtype words = t.bytes := by
  obtain ⟨_, hlen, _⟩ := wellFormed_iff.1 h
  exact ⟨_, t.words_eq, h.length_words, bytesOfWords_wordsOfBytes hlen⟩

/-- The element of a tensor without dimensions can be read. -/
theorem WellFormed.exists_item (h : t.WellFormed) (hshape : t.shape = []) :
    ∃ w, t.item t.dtype = .ok w :=
  ⟨_, h.item_eq hshape rfl⟩

/-! ## Reshaping -/

/-- Can the one tensor be reshaped to the other? -/
def ReshapesTo (t r : Tensor) : Prop := ∃ shape, t.reshape shape = .ok r

/-- Reshaping, however often, changes nothing but the shape. -/
theorem WellFormed.of_reshapesTo (h : t.WellFormed)
    (hr : Relation.ReflTransGen ReshapesTo t r) :
    r.WellFormed ∧ r = { t with shape := r.shape } := by
  induction hr with
  | refl => exact ⟨h, rfl⟩
  | tail _ hstep ih =>
      obtain ⟨hwell, hsame⟩ := ih
      obtain ⟨shape, hshape⟩ := hstep
      refine ⟨hwell.of_reshape hshape, ?_⟩
      obtain ⟨_, rfl⟩ := reshape_eq_ok.1 hshape
      rw [hsame]

/-- What was reshaped can be brought back. -/
theorem WellFormed.reshape_back (h : t.WellFormed)
    (hr : Relation.ReflTransGen ReshapesTo t r) : r.reshape t.shape = .ok t := by
  obtain ⟨_, hsame⟩ := h.of_reshapesTo hr
  have hcount : r.count = t.count := by
    rw [hsame]
    rfl
  rw [reshape_eq_ok, hcount]
  refine ⟨checkedProduct_eq_some.2 ⟨h.count_eq.symm, h.not_overflows⟩, ?_⟩
  rw [hsame]

/-! ## Every obtainable tensor -/

/-- **How an obtainable tensor is represented.** Its shape has an element count, as many elements of
its type fit into a size, and they take up exactly the bytes. Therefore the number of elements that
is read off the bytes is the product of the dimensions, reading the elements loses no byte, the
element of a tensor without dimensions can always be read, and the tensor takes its own shape, also
after it was reshaped any number of times. -/
theorem Obtainable.represented (h : t.Obtainable) :
    ∃ n, t.shape.elementCount = .ok n ∧ n * t.dtype.byteSize ≤ maxSize ∧
      t.bytes.length = n * t.dtype.byteSize ∧
      t.count = List.prod t.shape ∧
      (∃ words, t.words t.dtype = .ok words ∧ words.length = n ∧
        bytesOfWords t.dtype words = t.bytes) ∧
      (t.shape = [] → ∃ w, t.item t.dtype = .ok w) ∧
      t.reshape t.shape = .ok t ∧
      ∀ r, Relation.ReflTransGen ReshapesTo t r → r.reshape t.shape = .ok t := by
  have hwell := h.wellFormed
  obtain ⟨hfits, hlen, hroom⟩ := wellFormed_iff.1 hwell
  have hcount : t.shape.elementCount = .ok (List.prod t.shape) :=
    Shape.elementCount_eq_ok.2 (checkedProduct_eq_some.2 ⟨rfl, hfits⟩)
  refine ⟨List.prod t.shape, hcount, hroom, hlen, hwell.count_eq, hwell.exists_words, ?_, ?_, ?_⟩
  · exact hwell.exists_item
  · exact hwell.reshape_back Relation.ReflTransGen.refl
  · intro r hr
    exact hwell.reshape_back hr

/-- The running totals of the rows of a tensor. -/
def runningTotals : Tensor := ⟨[2, 2], .i64, bytesOfWords .i64 [1, 3, 3, 7]⟩

theorem runningTotals_obtainable : runningTotals.Obtainable := by
  have hinputs : ∀ s ∈ [⟨[2, 2], .i64, bytesOfWords .i64 [1, 2, 3, 4]⟩, ofWord .i32 1],
      s.Obtainable := by
    intro s hs
    simp only [List.mem_cons, List.not_mem_nil, or_false] at hs
    rcases hs with rfl | rfl
    · exact Obtainable.built (Built.of_words (by decide) (by decide))
    · exact Obtainable.built (Built.ofWord .i32 1)
  have hrun : (ScanKernel.run ⟨.sum, .i64, .i32, ⟨false, false⟩⟩ (ScanGraph.evaluate ⟨false⟩)
      [⟨[2, 2], .i64, bytesOfWords .i64 [1, 2, 3, 4]⟩, ofWord .i32 1]).outcome =
      .ok [runningTotals] := by
    decide +kernel
  exact Obtainable.computed hinputs hrun List.mem_cons_self

/-- What a run gave has the elements that its shape asks for, and comes back from a column. -/
theorem runningTotals_represented :
    runningTotals.count = 4 ∧ runningTotals.bytes.length = 4 * 8 ∧
      reshape { runningTotals with shape := [4, 1] } [2, 2] = .ok runningTotals := by
  obtain ⟨n, hn, _, hlen, hcount, _, _, _, hback⟩ := runningTotals_obtainable.represented
  obtain rfl : n = 4 := (Except.ok.inj hn).symm
  refine ⟨hcount, hlen, hback _ ?_⟩
  have hcolumn : ReshapesTo runningTotals { runningTotals with shape := [4, 1] } :=
    ⟨[4, 1], by decide +kernel⟩
  exact Relation.ReflTransGen.single hcolumn

end Tensor

end TensorScan
