import Mathlib
import TensorScan.Proofs.Graph.Outcome

set_option autoImplicit false

/-! # Where the values of a graph come from

A scan has the descriptor of what it scans. So going from a node to its source, and from there to
the source of the source, one keeps meeting the same descriptor, until an input node is reached:
this is the *root* of the node (`ScanGraph.HasRoot`). In a graph that can be drafted every node has
exactly one root, since sources come before the nodes that read them.

The descriptor of a node is therefore one that was declared for an input. This makes the question
whether the returned value may be written over the input one of counting: if there is one of each,
the descriptors agree by themselves, however many scans lie between the two and whatever else the
graph computes (`ScanGraph.Drafted.root_descriptors`).
-/

namespace TensorScan

namespace ScanGraph

/-- `root` is the input node that one comes to from node `id` by going from scans to their
sources. -/
inductive HasRoot (g : ScanGraph) : Nat → Nat → Prop
  | input {id index : Nat} {desc : Descriptor}
      (h : g.nodes[id]? = some ⟨.input index, desc⟩) : HasRoot g id id
  | scan {id source root : Nat} {axis : Fin 4} {mode : ScanMode} {desc : Descriptor}
      (h : g.nodes[id]? = some ⟨.scan source axis mode, desc⟩) (hroot : HasRoot g source root) :
      HasRoot g id root

variable {g : ScanGraph}

/-! ## Roots -/

/-- A node has no more than one root. -/
theorem HasRoot.unique {id root other : Nat} (h : g.HasRoot id root) (h' : g.HasRoot id other) :
    other = root := by
  induction h with
  | input hnode =>
      cases h' with
      | input _ => rfl
      | scan hnode' _ =>
          rw [hnode] at hnode'
          cases hnode'
  | scan hnode _ ih =>
      cases h' with
      | input hnode' =>
          rw [hnode] at hnode'
          cases hnode'
      | scan hnode' hroot =>
          rw [hnode] at hnode'
          cases hnode'
          exact ih hroot

/-- In linked nodes every node has a root, and shares the descriptor that is declared for it. -/
theorem exists_root (h : LinkedNodes g.inputs g.nodes) {id : Nat} {op : NodeOp}
    {desc : Descriptor} (hnode : g.nodes[id]? = some ⟨op, desc⟩) :
    ∃ root index, g.HasRoot id root ∧ g.nodes[root]? = some ⟨.input index, desc⟩ ∧
      g.inputs[index]? = some desc := by
  -- the source of a scan has a smaller number
  induction id using Nat.strong_induction_on generalizing op with
  | _ id ih =>
      cases op with
      | input index => exact ⟨id, index, HasRoot.input hnode, hnode, h.input hnode⟩
      | scan source axis mode =>
          obtain ⟨hlt, op, hsource⟩ := h.scan hnode
          obtain ⟨root, index, hroot, hinput, hdeclared⟩ := ih source hlt hsource
          exact ⟨root, index, HasRoot.scan hnode hroot, hinput, hdeclared⟩

/-! ## Descriptors of the returned values -/

theorem desc?_eq_of_lt {id : Nat} (h : id < g.nodes.length) :
    g.desc? id = some g.nodes[id].desc := by
  rw [desc?, List.getElem?_eq_getElem h]
  rfl

/-- The descriptors of the returned values are those of the returned nodes, one for each. -/
theorem forall₂_outputDescriptors (houtputs : ∀ id ∈ g.outputs, id < g.nodes.length) :
    List.Forall₂ (fun id desc => g.desc? id = some desc) g.outputs g.outputDescriptors := by
  have key : ∀ outputs : List Nat, (∀ id ∈ outputs, id < g.nodes.length) →
      List.Forall₂ (fun id desc => g.desc? id = some desc) outputs (outputs.filterMap g.desc?) := by
    intro outputs
    induction outputs with
    | nil => intro _; exact List.Forall₂.nil
    | cons id rest ih =>
        intro hall
        have hdesc := desc?_eq_of_lt (hall id List.mem_cons_self)
        rw [List.filterMap_cons, hdesc]
        exact List.Forall₂.cons hdesc (ih fun j hj => hall j (List.mem_cons_of_mem _ hj))
  exact key g.outputs houtputs

/-- In linked nodes the descriptor of a node is declared. -/
theorem mem_inputs_of_desc? (h : LinkedNodes g.inputs g.nodes) {id : Nat} {desc : Descriptor}
    (hdesc : g.desc? id = some desc) : desc ∈ g.inputs := by
  obtain ⟨⟨op, own⟩, hnode, rfl⟩ := Option.map_eq_some_iff.1 hdesc
  obtain ⟨_, _, _, _, hdeclared⟩ := exists_root h hnode
  exact List.mem_of_getElem? hdeclared

/-- One returned value may be written over one input. -/
theorem Drafted.canOverwriteInput_iff (hg : g.Drafted) :
    g.canOverwriteInput = true ↔ g.inputs.length = 1 ∧ g.outputs.length = 1 := by
  unfold canOverwriteInput
  constructor
  · intro h
    split at h
    · rename_i hinputs houtputs
      rw [hinputs, houtputs]
      exact ⟨rfl, rfl⟩
    · contradiction
  · rintro ⟨hinputs, houtputs⟩
    obtain ⟨input, hinput⟩ := List.length_eq_one_iff.1 hinputs
    obtain ⟨output, houtput⟩ := List.length_eq_one_iff.1 houtputs
    have hdesc := desc?_eq_of_lt (hg.output_lt output (by simp [houtput]))
    have hmem := mem_inputs_of_desc? hg.linked hdesc
    rw [hinput, List.mem_singleton] at hmem
    simp only [hinput, houtput, hdesc, hmem, beq_self_eq_true]

/-- A run that succeeds returns tensors with the descriptors that were told beforehand. -/
theorem Drafted.forall₂_results (hg : g.Drafted) {tensors results : List Tensor}
    (htensors : ∀ t ∈ tensors, t.Built) {features : Features}
    (hrun : (evaluate features g tensors).outcome = .ok results) :
    List.Forall₂ (fun desc t => t.shape = desc.sizes ∧ t.dtype = desc.dtype) g.outputDescriptors
      results := by
  obtain ⟨haccept, values, hvalues, hresults⟩ := evaluate_eq_ok.1 hrun
  obtain ⟨hlen, hcomputed⟩ :=
    (hg.ready htensors haccept).computed_of_evaluateNodes (List.append_nil _).symm hvalues
  have hdescs := forall₂_outputDescriptors hg.output_lt
  clear hrun
  generalize g.outputDescriptors = descs at hdescs ⊢
  generalize g.outputs = outputs at hdescs hresults
  induction hresults generalizing descs with
  | nil =>
      cases hdescs
      exact List.Forall₂.nil
  | cons hread _ ih =>
      cases hdescs with
      | cons hdesc hrest =>
          obtain ⟨t, hvalue, ht, _⟩ := hcomputed.exists_value hlen hdesc
          rw [valueOf_eq_ok, hvalue] at hread
          cases hread
          exact List.Forall₂.cons ⟨ht.shape, ht.dtype⟩ (ih _ hrest)

/-- **Descriptors of a graph that can be drafted.** From every node one comes to exactly one input
node, which has the descriptor of the node, and for which this descriptor was declared. So every
returned value has a declared descriptor, and it may be written over the input as soon as there is
one of each. The tensors that a run returns have the descriptors that were told for them, in
order. -/
theorem Drafted.root_descriptors (hg : g.Drafted) :
    (∀ id < g.nodes.length, ∃ root index desc, g.HasRoot id root ∧
      (∀ other, g.HasRoot id other → other = root) ∧ g.desc? id = some desc ∧
      g.nodes[root]? = some ⟨.input index, desc⟩ ∧ g.inputs[index]? = some desc) ∧
    List.Forall₂ (fun id desc => g.desc? id = some desc ∧ desc ∈ g.inputs) g.outputs
      g.outputDescriptors ∧
    (g.canOverwriteInput = true ↔ g.inputs.length = 1 ∧ g.outputs.length = 1) ∧
    ∀ features tensors results, (∀ t ∈ tensors, t.Built) →
      (evaluate features g tensors).outcome = .ok results →
      List.Forall₂ (fun desc t => t.shape = desc.sizes ∧ t.dtype = desc.dtype) g.outputDescriptors
        results := by
  refine ⟨?_, ?_, hg.canOverwriteInput_iff, ?_⟩
  · intro id hid
    have hnode := List.getElem?_eq_getElem hid
    obtain ⟨root, index, hroot, hinput, hdeclared⟩ := exists_root hg.linked hnode
    exact ⟨root, index, _, hroot, fun _ hother => hroot.unique hother, desc?_eq_of_lt hid, hinput,
      hdeclared⟩
  · apply (forall₂_outputDescriptors hg.output_lt).imp
    intro id desc hdesc
    exact ⟨hdesc, mem_inputs_of_desc? hg.linked hdesc⟩
  · intro features tensors results htensors hrun
    exact hg.forall₂_results htensors hrun

/-- The last of the chained scans comes from the first input. Two values are returned from it, so
none is written over it; a scan that nobody asks for is no obstacle to this. -/
theorem chainedScans_root :
    (∃ index, chainedScans.nodes[0]? = some ⟨.input index, ⟨.i32, 1, 1, 2, 2⟩⟩ ∧
      chainedScans.desc? 3 = some ⟨.i32, 1, 1, 2, 2⟩) ∧
      chainedScans.canOverwriteInput = false ∧
      List.Forall₂ (fun desc t => t.shape = desc.sizes ∧ t.dtype = desc.dtype)
        chainedScans.outputDescriptors chainedResults ∧
      unusedHalfScan.canOverwriteInput = true := by
  obtain ⟨hroots, _, hoverwrite, hresults⟩ := chainedScans_drafted.root_descriptors
  obtain ⟨_, _, hoverwrite', _⟩ := unusedHalfScan_drafted.root_descriptors
  obtain ⟨root, index, desc, _, hunique, hdesc, hinput, _⟩ := hroots 3 (by decide)
  have hroot : chainedScans.HasRoot 3 0 :=
    HasRoot.scan rfl (HasRoot.scan rfl (HasRoot.input rfl))
  obtain rfl := hunique 0 hroot
  obtain rfl : desc = ⟨.i32, 1, 1, 2, 2⟩ := Option.some.inj hdesc.symm
  refine ⟨⟨index, hinput, hdesc⟩, ?_, ?_, hoverwrite'.2 ⟨rfl, rfl⟩⟩
  · rw [Bool.eq_false_iff, ne_eq, hoverwrite]
    decide
  · exact hresults ⟨false⟩ chainedOperands chainedResults chainedOperands_built (by decide +kernel)

end ScanGraph

end TensorScan
