import Mathlib
import TensorScan.Proofs.Graph.Evaluation
import TensorScan.Proofs.Scan.Guarded

set_option autoImplicit false

/-! # What a run of a graph gives

This file puts together what is known of graphs that can be drafted, run on tensors that can be
made. Nothing else is assumed of the tensors: a run looks at them before it computes anything.

A run that succeeds returns what the returned nodes stand for (`evaluate_denote`). Whether it
succeeds can be told beforehand, from the tensors and from the faults of the nodes
(`evaluate_outcome_eq`). On the way every scan stays inside its buffers: it could be made with every
operation guarded and would give the same. The sizes on both sides of its axis must fit for this:
they are multiplied without a check, since the buffers have the length that the descriptor gives to
them.
-/

namespace TensorScan

/-! ## Scans inside their buffers -/

/-- If the node is a scan, do the sizes before its axis fit, and those after it? -/
def GraphNode.SidesFit (node : GraphNode) : Prop :=
  match node.op with
  | .input _ => True
  | .scan _ axis _ =>
      ¬ Overflows (node.desc.sizes.take axis) ∧ ¬ Overflows (node.desc.sizes.drop (axis.val + 1))

instance (node : GraphNode) : Decidable node.SidesFit :=
  match node with
  | ⟨.input _, _⟩ => isTrue trivial
  | ⟨.scan _ _ _, _⟩ => inferInstanceAs (Decidable (_ ∧ _))

/-- If the node is a scan, then its source has a value, the numbers of its extent are products of
sizes that fit, and every place of every line is inside the buffer of the source. The buffer that
is written has the same length and holds zeros at first. No guard of the scan fails: with every
operation guarded it leaves the same elements, and it has been to every place once. -/
def GraphNode.ScansInside (node : GraphNode) (values : List Tensor) : Prop :=
  match node.op with
  | .input _ => True
  | .scan source axis mode =>
      let d := node.desc.dtype
      let e := Extent.along node.desc.sizes axis
      ∃ t words visits, values[source]? = some t ∧ t.words d = .ok words ∧
        words.length ≤ maxSize ∧
        checkedProduct (node.desc.sizes.take axis) = some e.outer ∧
        checkedProduct (node.desc.sizes.drop (axis.val + 1)) = some e.inner ∧
        (∀ places ∈ e.lines mode.direction, ∀ k ∈ places, k < words.length) ∧
        visits.Perm (List.range words.length) ∧
        e.guardedScan mode.direction mode.exclusive (mode.op.combine d) (mode.op.identity d)
            words.toArray (Array.replicate words.length (Word.zero d)) =
          some ⟨(mode.scan d e words).toArray, visits⟩

/-- A tensor with a descriptor has as many elements, of its type, as the sizes ask for. -/
theorem Tensor.HasDescriptor.words {t : Tensor} {desc : Descriptor} (h : t.HasDescriptor desc) :
    ∃ words, t.words desc.dtype = .ok words ∧ words.length = List.prod desc.sizes := by
  obtain ⟨hwell, hshape, hdtype⟩ := h
  rw [← hshape, ← hdtype]
  exact ⟨_, t.words_eq, hwell.length_words⟩

/-- A scan is inside its buffers once the nodes before it are computed. -/
theorem ScanGraph.Ready.scansInside {g : ScanGraph} {tensors values : List Tensor}
    (hready : g.Ready tensors) (hvalues : g.Computed tensors values) {node : GraphNode}
    (hnode : g.nodes[values.length]? = some node) (hsides : node.SidesFit) :
    node.ScansInside values := by
  obtain ⟨op, desc⟩ := node
  cases op with
  | input index => exact trivial
  | scan source axis mode =>
      obtain ⟨hbefore, hafter⟩ := hsides
      obtain ⟨_, t, hvalue, ht, _⟩ := hready.source hvalues (Nat.le_refl _) hnode
      obtain ⟨words, hwords, hlen⟩ := ht.words
      have hcount : (Extent.along desc.sizes axis).count = words.length :=
        (Extent.count_along axis.isLt).trans hlen.symm
      have hroom : words.length ≤ maxSize := by
        rw [hlen, ← ht.shape]
        exact prod_le_maxSize ht.wellFormed.not_overflows
      have hperm := (Extent.along desc.sizes axis).flatten_lines_perm mode.direction
      rw [hcount] at hperm
      refine ⟨t, words, _, hvalue, hwords, hroom, checkedProduct_eq_some.2 ⟨rfl, hbefore⟩,
        checkedProduct_eq_some.2 ⟨rfl, hafter⟩, ?_, hperm,
        mode.guardedScan_eq hcount.symm (hcount ▸ hroom)⟩
      intro places hplaces k hk
      exact List.mem_range.1 (hperm.mem_iff.1 (List.mem_flatten.2 ⟨places, hplaces, hk⟩))

/-! ## Faults -/

/-- A node can only have two faults. -/
theorem GraphNode.fault_cases {features : Features} {node : GraphNode} {e : Error}
    (h : node.fault features = some e) :
    (∃ sizes, e = .shapeOverflow sizes) ∨ e = .featureRequired .f16 "f16" := by
  unfold fault at h
  split at h
  · split at h
    · exact Or.inl ⟨_, (Option.some.inj h).symm⟩
    · contradiction
  · split at h
    · exact Or.inr (Option.some.inj h).symm
    · contradiction

namespace ScanGraph

variable {g : ScanGraph} {tensors : List Tensor}

/-- Values of the nodes that were computed first, however a run goes on. -/
theorem Ready.computed_of_evaluateNodes (hready : g.Ready tensors) {features : Features}
    {before later : List GraphNode} (hnodes : g.nodes = before ++ later) {values : List Tensor}
    (h : (evaluateNodes features tensors before []).outcome = .ok values) :
    values.length = before.length ∧ g.Computed tensors values := by
  obtain ⟨herror, hok⟩ := hready.evaluateNodes_outcome features (g.computed_nil tensors)
    ⟨later, hnodes.symm⟩
  cases hfault : before.findSome? (·.fault features) with
  | some e =>
      rw [herror e hfault] at h
      contradiction
  | none =>
      obtain ⟨all, hall, hlen, hcomputed⟩ := hok hfault
      obtain rfl : all = values := Except.ok.inj (hall.symm.trans h)
      exact ⟨by simpa using hlen, hcomputed⟩

theorem Drafted.ready (hg : g.Drafted) (htensors : ∀ t ∈ tensors, t.Built)
    (haccept : g.accept tensors = .ok ()) : g.Ready tensors :=
  ⟨hg.linked, haccept, fun t ht => (htensors t ht).wellFormed⟩

/-- All nodes have a value once they are computed. -/
theorem Computed.exists_value {values : List Tensor} (h : g.Computed tensors values)
    (hlen : values.length = g.nodes.length) {id : Nat} {desc : Descriptor}
    (hdesc : g.desc? id = some desc) :
    ∃ t, values[id]? = some t ∧ t.HasDescriptor desc ∧
      t.Holds (g.denote tensors desc.dtype id) := by
  obtain ⟨node, hnode, rfl⟩ := Option.map_eq_some_iff.1 hdesc
  have hlt : id < values.length := hlen ▸ (List.getElem?_eq_some_iff.1 hnode).1
  have hvalue := List.getElem?_eq_getElem hlt
  obtain ⟨node', hnode', ht, hholds⟩ := h id _ hvalue
  obtain rfl : node' = node := Option.some.inj (hnode'.symm.trans hnode)
  exact ⟨_, hvalue, ht, hholds⟩

/-- **What a graph returns.** A run that succeeds returns one tensor for every returned node, in
order. It has the descriptor of the node and holds the array that the node stands for, whatever
other nodes there are. -/
theorem Drafted.evaluate_denote (hg : g.Drafted) (htensors : ∀ t ∈ tensors, t.Built)
    {features : Features} {results : List Tensor}
    (hrun : (evaluate features g tensors).outcome = .ok results) :
    List.Forall₂ (g.IsValue tensors) g.outputs results := by
  -- a run that succeeds has accepted its tensors
  have haccept : g.accept tensors = .ok () := by
    rw [outcome_evaluate] at hrun
    cases haccept : g.accept tensors with
    | error e => simp [haccept, bind, Except.bind] at hrun
    | ok u => rfl
  obtain ⟨herror, hok⟩ := (hg.ready htensors haccept).evaluate_outcome hg.output_lt features
  cases hfault : g.nodes.findSome? (·.fault features) with
  | some e =>
      rw [herror e hfault] at hrun
      contradiction
  | none =>
      obtain ⟨all, hall, hvalues⟩ := hok hfault
      obtain rfl : all = results := Except.ok.inj (hall.symm.trans hrun)
      exact hvalues

/-- A running sum, a reversed exclusive running product of it, and an input that nothing reads. -/
def chainedScans : ScanGraph where
  nodes := [⟨.input 0, ⟨.i32, 1, 1, 2, 2⟩⟩,
    ⟨.scan 0 3 ⟨.sum, .increasing, false⟩, ⟨.i32, 1, 1, 2, 2⟩⟩,
    ⟨.input 1, ⟨.f32, 1, 1, 1, 1⟩⟩,
    ⟨.scan 1 2 ⟨.product, .decreasing, true⟩, ⟨.i32, 1, 1, 2, 2⟩⟩]
  inputs := [⟨.i32, 1, 1, 2, 2⟩, ⟨.f32, 1, 1, 1, 1⟩]
  outputs := [3, 0, 3]

theorem chainedScans_drafted : chainedScans.Drafted :=
  ⟨[.input ⟨.i32, 1, 1, 2, 2⟩, .runningSum 0 3 .increasing false, .input ⟨.f32, 1, 1, 1, 1⟩,
    .runningProduct 1 2 .decreasing true], [3, 0, 3], rfl⟩

/-- Tensors for `chainedScans`. -/
def chainedOperands : List Tensor :=
  [⟨[2, 2], .i32, bytesOfWords .i32 [1, 2, 3, 4]⟩, Tensor.ofWord .f32 0]

theorem chainedOperands_built : ∀ t ∈ chainedOperands, t.Built := by
  intro t ht
  simp only [chainedOperands, List.mem_cons, List.not_mem_nil, or_false] at ht
  rcases ht with rfl | rfl
  · exact Tensor.Built.of_words (by decide) (by decide)
  · exact Tensor.Built.ofWord .f32 0

/-- What `chainedScans` returns: the last node, an input, and the last node again. -/
def chainedResults : List Tensor :=
  [⟨[1, 1, 2, 2], .i32, bytesOfWords .i32 [3, 7, 1, 1]⟩,
    ⟨[1, 1, 2, 2], .i32, bytesOfWords .i32 [1, 2, 3, 4]⟩,
    ⟨[1, 1, 2, 2], .i32, bytesOfWords .i32 [3, 7, 1, 1]⟩]

theorem chainedScans_denote :
    (evaluate ⟨false⟩ chainedScans chainedOperands).outcome = .ok chainedResults ∧
      List.Forall₂ (chainedScans.IsValue chainedOperands) [3, 0, 3] chainedResults := by
  have hrun : (evaluate ⟨false⟩ chainedScans chainedOperands).outcome = .ok chainedResults := by
    decide +kernel
  exact ⟨hrun, chainedScans_drafted.evaluate_denote chainedOperands_built hrun⟩

/-- **How a run ends.** The tensors are looked at first, and the error of this passes through.
After that a run fails with the first fault of a node, in the order of the nodes and whether or
not the node is asked for, and succeeds if there is none. All the while no scan leaves its
buffers, and none would fail if its operations were guarded. -/
theorem Drafted.evaluate_outcome_eq (hg : g.Drafted) (htensors : ∀ t ∈ tensors, t.Built)
    (hsides : ∀ node ∈ g.nodes, node.SidesFit) (features : Features) :
    (∀ e, g.accept tensors = .error e → (evaluate features g tensors).outcome = .error e) ∧
      (g.accept tensors = .ok () →
        (∀ e, g.nodes.findSome? (·.fault features) = some e →
          (evaluate features g tensors).outcome = .error e) ∧
        (g.nodes.findSome? (·.fault features) = none →
          ∃ results, (evaluate features g tensors).outcome = .ok results) ∧
        (∀ e, (evaluate features g tensors).outcome = .error e →
          (∃ sizes, e = .shapeOverflow sizes) ∨ e = .featureRequired .f16 "f16") ∧
        ∀ before node after values, g.nodes = before ++ node :: after →
          (evaluateNodes features tensors before []).outcome = .ok values →
          node.ScansInside values) := by
  constructor
  · intro e he
    rw [outcome_evaluate, he]
    rfl
  · intro haccept
    have hready := hg.ready htensors haccept
    obtain ⟨herror, hok⟩ := hready.evaluate_outcome hg.output_lt features
    refine ⟨herror, fun hnone => ?_, fun e he => ?_, ?_⟩
    · obtain ⟨results, hresults, _⟩ := hok hnone
      exact ⟨results, hresults⟩
    · -- an error is the fault of some node
      cases hfault : g.nodes.findSome? (·.fault features) with
      | none =>
          obtain ⟨results, hresults, _⟩ := hok hfault
          rw [hresults] at he
          contradiction
      | some fault =>
          obtain ⟨node, _, hnode⟩ := List.exists_of_findSome?_eq_some hfault
          obtain rfl : fault = e := Except.error.inj ((herror fault hfault).symm.trans he)
          exact GraphNode.fault_cases hnode
    · intro before node after values hnodes hvalues
      obtain ⟨hlen, hcomputed⟩ := hready.computed_of_evaluateNodes hnodes hvalues
      have hnode : g.nodes[values.length]? = some node := by simp [hnodes, hlen]
      exact hready.scansInside hcomputed hnode (hsides node (List.mem_of_getElem? hnode))

/-- A scan of half-precision elements that nothing asks for. -/
def unusedHalfScan : ScanGraph where
  nodes := [⟨.input 0, ⟨.f16, 1, 1, 1, 1⟩⟩,
    ⟨.scan 0 3 ⟨.sum, .increasing, false⟩, ⟨.f16, 1, 1, 1, 1⟩⟩]
  inputs := [⟨.f16, 1, 1, 1, 1⟩]
  outputs := [0]

theorem unusedHalfScan_drafted : unusedHalfScan.Drafted :=
  ⟨[.input ⟨.f16, 1, 1, 1, 1⟩, .runningSum 0 3 .increasing false], [0], rfl⟩

/-- Without half-precision elements the graph fails although it returns its input. -/
theorem unusedHalfScan_fails :
    (∀ node ∈ unusedHalfScan.nodes, node.SidesFit) ∧
      (evaluate ⟨false⟩ unusedHalfScan [Tensor.ofWord .f16 0]).outcome =
        .error (.featureRequired .f16 "f16") := by
  have hsides : ∀ node ∈ unusedHalfScan.nodes, node.SidesFit := by decide
  have hbuilt : ∀ t ∈ [Tensor.ofWord .f16 0], t.Built := by
    intro t ht
    rw [List.mem_singleton.1 ht]
    exact Tensor.Built.ofWord .f16 0
  obtain ⟨_, hrun⟩ := unusedHalfScan_drafted.evaluate_outcome_eq hbuilt hsides ⟨false⟩
  exact ⟨hsides, (hrun (by decide)).1 _ (by decide)⟩

end ScanGraph

end TensorScan
