import Mathlib
import TensorScan.Graph.Evaluation
import TensorScan.Proofs.Graph.Draft
import TensorScan.Proofs.Tensor

set_option autoImplicit false

/-! # Running the nodes of a graph

Two things are said here of a graph without running it. `ScanGraph.denote` is the array that a
node stands for: an input node the data of its tensor, a scan node the scanned array of its
source. `GraphNode.fault` is the error that a node is bound to cause, if any; it depends on the
node alone.

Running the nodes one by one keeps a list of values. The invariant is `ScanGraph.Computed`: every
value has the descriptor of its node and holds the array that the node stands for. One node either
causes its fault or extends the list (`evaluate_node`), so a run of nodes either stops at the first
fault or computes all of them (`evaluateNodes_outcome`).
-/

namespace TensorScan

/-! ## Accepted tensors -/

theorem Descriptor.accept_eq_ok {desc : Descriptor} {t : Tensor} :
    desc.accept t = .ok () ↔ t.dtype = desc.dtype ∧ t.count = desc.count := by
  unfold accept
  by_cases hdtype : t.dtype = desc.dtype
  · by_cases hcount : t.count = desc.count <;> simp [hdtype, hcount]
  · simp [hdtype]

private theorem acceptAll_eq_ok {descs : List Descriptor} {ts : List Tensor}
    (hlen : ts.length = descs.length) (h : acceptAll descs ts = .ok ()) :
    List.Forall₂ (fun desc t => desc.accept t = .ok ()) descs ts := by
  induction descs generalizing ts with
  | nil =>
      rw [List.eq_nil_of_length_eq_zero hlen]
      exact List.Forall₂.nil
  | cons desc descs ih =>
      cases ts with
      | nil => contradiction
      | cons t ts =>
          obtain ⟨_, hfirst, hrest⟩ := bind_eq_ok.1 h
          exact List.Forall₂.cons hfirst (ih (by simpa using hlen) hrest)

/-- For every declared input of a graph there is an accepted tensor. -/
theorem ScanGraph.accept_input {g : ScanGraph} {tensors : List Tensor}
    (h : g.accept tensors = .ok ()) {index : Nat} {desc : Descriptor}
    (hindex : g.inputs[index]? = some desc) :
    ∃ t, tensors[index]? = some t ∧ t.dtype = desc.dtype ∧ t.count = desc.count := by
  unfold accept at h
  split at h
  · contradiction
  · rename_i hcount
    have hall := acceptAll_eq_ok (by simpa using hcount) h
    obtain ⟨hlt, rfl⟩ := List.getElem?_eq_some_iff.1 hindex
    have hlt' : index < tensors.length := hall.length_eq ▸ hlt
    have haccept := List.forall₂_iff_get.1 hall |>.2 index hlt hlt'
    exact ⟨tensors[index], List.getElem?_eq_getElem hlt', Descriptor.accept_eq_ok.1 haccept⟩

/-! ## What a node stands for -/

/-- The array that a node stands for, given the tensors for the inputs. -/
def ScanGraph.denote (g : ScanGraph) (tensors : List Tensor) (d : DType) (id : Nat) : Grid d :=
  match g.nodes[id]? with
  | some ⟨.input index, desc⟩ =>
      match tensors[index]? with
      | some t => ({ t with shape := desc.sizes } : Tensor).grid d
      | none => fun _ => Word.zero d
  | some ⟨.scan source axis mode, desc⟩ =>
      if source < id then mode.scanGrid d desc.sizes axis (g.denote tensors d source)
      else fun _ => Word.zero d
  | none => fun _ => Word.zero d
termination_by id

section Denote

variable {g : ScanGraph} {tensors : List Tensor} {id : Nat} {desc : Descriptor}

/-- An input node stands for the elements of its tensor, in the sizes of the descriptor. -/
theorem ScanGraph.denote_input {index : Nat} (hnode : g.nodes[id]? = some ⟨.input index, desc⟩)
    {t : Tensor} (ht : tensors[index]? = some t) (d : DType) :
    g.denote tensors d id = ({ t with shape := desc.sizes } : Tensor).grid d := by
  rw [denote, hnode]
  simp only [ht]

/-- A scan node stands for the scanned array of its source. -/
theorem ScanGraph.denote_scan {source : Nat} {axis : Fin 4} {mode : ScanMode}
    (hnode : g.nodes[id]? = some ⟨.scan source axis mode, desc⟩) (h : source < id) (d : DType) :
    g.denote tensors d id = mode.scanGrid d desc.sizes axis (g.denote tensors d source) := by
  rw [denote, hnode]
  simp only [h, if_true]

end Denote

/-- The error that a node causes when it is computed. The sizes of an input may overflow although
the tensor has as many elements as the cut-off product of the sizes. -/
def GraphNode.fault (features : Features) (node : GraphNode) : Option Error :=
  match node.op with
  | .input _ =>
      if Overflows node.desc.sizes then some (.shapeOverflow node.desc.sizes) else none
  | .scan _ _ _ =>
      if node.desc.dtype = .f16 ∧ features.half = false then some (.featureRequired .f16 "f16")
      else none

/-- The tensor is as the descriptor says. -/
structure Tensor.HasDescriptor (t : Tensor) (desc : Descriptor) : Prop where
  wellFormed : t.WellFormed
  shape : t.shape = desc.sizes
  dtype : t.dtype = desc.dtype

/-- The tensor has the descriptor of a node and holds the array that the node stands for. -/
def ScanGraph.IsValue (g : ScanGraph) (tensors : List Tensor) (id : Nat) (t : Tensor) : Prop :=
  ∃ node, g.nodes[id]? = some node ∧ t.HasDescriptor node.desc ∧
    t.Holds (g.denote tensors node.desc.dtype id)

/-- The values are those of the first nodes of the graph. -/
def ScanGraph.Computed (g : ScanGraph) (tensors values : List Tensor) : Prop :=
  ∀ id t, values[id]? = some t → g.IsValue tensors id t

/-! ## One node -/

theorem Descriptor.prod_sizes (desc : Descriptor) {t : Tensor} (ht : t.WellFormed)
    (hcount : t.count = desc.count) (hfits : ¬ Overflows desc.sizes) :
    List.prod desc.sizes = List.prod t.shape := by
  rw [← saturatingProduct_eq hfits, ← ht.count_eq, hcount]
  rfl

/-- Elements can be computed with unless they are of half precision and this is off. -/
theorem Features.supports_iff {features : Features} {d : DType} :
    features.supports d = true ↔ ¬ (d = .f16 ∧ features.half = false) := by
  simp [supports, Decidable.or_iff_not_imp_left]

theorem Features.require_eq (features : Features) (d : DType) :
    features.require d =
      if d = .f16 ∧ features.half = false then .error (.featureRequired .f16 "f16")
      else .ok () := by
  obtain ⟨half⟩ := features
  cases d <;> cases half <;> rfl

/-- A tensor with the number of elements that a descriptor shows takes its sizes, unless they
overflow. -/
theorem Descriptor.reshape_eq {desc : Descriptor} {t : Tensor} (ht : t.WellFormed)
    (hcount : t.count = desc.count) :
    t.reshape desc.sizes =
      if Overflows desc.sizes then .error (.shapeOverflow desc.sizes)
      else .ok { t with shape := desc.sizes } := by
  rw [ht.reshape_eq]
  by_cases hover : Overflows desc.sizes
  · rw [if_pos hover, if_pos hover]
  · rw [if_neg hover, if_neg hover, if_pos (desc.prod_sizes ht hcount hover)]

/-- A value with the descriptor of a scan node can be scanned, along every axis, if its elements
can be computed with. -/
theorem Descriptor.scan_eq {desc : Descriptor} {source : Tensor}
    (h : source.HasDescriptor desc) (features : Features) (axis : Fin 4) (mode : ScanMode) :
    desc.scan features source axis mode =
      if desc.dtype = .f16 ∧ features.half = false then .error (.featureRequired .f16 "f16")
      else .ok (source.scanned axis mode) := by
  obtain ⟨hwell, hshape, hdtype⟩ := h
  rw [Descriptor.scan, features.require_eq]
  split
  · rfl
  · rw [← hshape, ← hdtype, Tensor.words_eq]
    exact Tensor.ofBytes_eq_of_wellFormed (hwell.scanned axis mode)

theorem Tensor.HasDescriptor.scanned {t : Tensor} {desc : Descriptor} (h : t.HasDescriptor desc)
    (axis : Nat) (mode : ScanMode) : (t.scanned axis mode).HasDescriptor desc :=
  ⟨h.wellFormed.scanned axis mode, h.shape, h.dtype⟩

/-! ## All nodes -/

/-- The nodes of the graph are linked, and it accepts the tensors, which are well-formed. -/
structure ScanGraph.Ready (g : ScanGraph) (tensors : List Tensor) : Prop where
  linked : LinkedNodes g.inputs g.nodes
  accepted : g.accept tensors = .ok ()
  wellFormed : ∀ t ∈ tensors, t.WellFormed

namespace ScanGraph

variable {g : ScanGraph} {tensors values : List Tensor}

theorem computed_nil (g : ScanGraph) (tensors : List Tensor) : g.Computed tensors [] := by
  intro id t h
  simp at h

/-- The value of the next node may be appended. -/
theorem Computed.concat (h : g.Computed tensors values) {node : GraphNode}
    (hnode : g.nodes[values.length]? = some node) {t : Tensor} (ht : t.HasDescriptor node.desc)
    (hholds : t.Holds (g.denote tensors node.desc.dtype values.length)) :
    g.Computed tensors (values ++ [t]) := by
  intro id s hs
  rcases Nat.lt_or_ge id values.length with hlt | hge
  · rw [List.getElem?_append_left hlt] at hs
    exact h id s hs
  · rw [List.getElem?_append_right hge] at hs
    obtain ⟨hzero, rfl⟩ := List.getElem?_eq_some_iff.1 hs
    have hid : id = values.length := by
      simp only [List.length_singleton] at hzero
      omega
    subst hid
    simp only [List.getElem_singleton]
    exact ⟨node, hnode, ht, hholds⟩

/-- The source of a scan node has a value, with the descriptor of the node. -/
theorem Ready.source (hready : g.Ready tensors) (hvalues : g.Computed tensors values) {id : Nat}
    (hid : id ≤ values.length) {source : Nat} {axis : Fin 4} {mode : ScanMode} {desc : Descriptor}
    (hnode : g.nodes[id]? = some ⟨.scan source axis mode, desc⟩) :
    source < id ∧ ∃ t, values[source]? = some t ∧ t.HasDescriptor desc ∧
      t.Holds (g.denote tensors desc.dtype source) := by
  obtain ⟨hlt, op, hsource⟩ := hready.linked.scan hnode
  have hsource_lt : source < values.length := Nat.lt_of_lt_of_le hlt hid
  have hvalue := List.getElem?_eq_getElem hsource_lt
  obtain ⟨node, hnode', ht, hholds⟩ := hvalues source _ hvalue
  obtain rfl : node = ⟨op, desc⟩ := Option.some.inj (hnode'.symm.trans hsource)
  exact ⟨hlt, _, hvalue, ht, hholds⟩

/-- **One node.** It causes its fault, or its value extends the values computed so far. -/
theorem Ready.evaluate_node (hready : g.Ready tensors) (hvalues : g.Computed tensors values)
    (features : Features) {node : GraphNode} (hnode : g.nodes[values.length]? = some node) :
    (∀ e, node.fault features = some e → node.evaluate features tensors values = .error e) ∧
      (node.fault features = none → ∃ t, node.evaluate features tensors values = .ok t ∧
        g.Computed tensors (values ++ [t])) := by
  obtain ⟨op, desc⟩ := node
  cases op with
  | input index =>
      -- the tensor was accepted, so only the sizes of the node can be in the way
      obtain ⟨t, htensor, hdtype, hcount⟩ :=
        accept_input hready.accepted (hready.linked.input hnode)
      have hwell := hready.wellFormed t (List.mem_of_getElem? htensor)
      simp only [GraphNode.evaluate, GraphNode.fault, htensor, Descriptor.reshape_eq hwell hcount]
      by_cases hover : Overflows desc.sizes
      · simp [hover]
      · simp only [hover, if_false, reduceCtorEq, false_implies, implies_true, true_and,
          forall_const, Except.ok.injEq]
        have hvalue := hwell.withShape hover (desc.prod_sizes hwell hcount hover)
        refine ⟨_, rfl, hvalues.concat hnode ⟨hvalue, rfl, hdtype⟩ ?_⟩
        rw [denote_input hnode htensor]
        exact hvalue.holds_grid hdtype
  | scan source axis mode =>
      -- the source has a value with the same descriptor, so only its elements can be in the way
      obtain ⟨hlt, t, hvalue, ht, hholds⟩ := hready.source hvalues (Nat.le_refl _) hnode
      simp only [GraphNode.evaluate, GraphNode.fault, hvalue, Descriptor.scan_eq ht]
      by_cases hhalf : desc.dtype = .f16 ∧ features.half = false
      · simp [hhalf]
      · simp only [hhalf, if_false, reduceCtorEq, false_implies, implies_true, true_and,
          forall_const, Except.ok.injEq]
        refine ⟨_, rfl, hvalues.concat hnode (ht.scanned axis mode) ?_⟩
        have haxis : axis.val < t.rank := by
          rw [Tensor.rank, Shape.rank, ht.shape]
          exact axis.isLt
        rw [denote_scan hnode hlt, ← ht.shape]
        exact hholds.scanned ht.dtype ht.wellFormed haxis mode

end ScanGraph

theorem outcome_evaluateNodes_cons (features : Features) (tensors : List Tensor)
    (node : GraphNode) (rest : List GraphNode) (values : List Tensor) :
    (evaluateNodes features tensors (node :: rest) values).outcome =
      node.evaluate features tensors values >>= fun value =>
        (evaluateNodes features tensors rest (values ++ [value])).outcome := by
  simp only [evaluateNodes, Logged.outcome_bind, Logged.outcome_note, Logged.outcome_liftM]
  rfl

/-- **A run of nodes** stops at the first fault or computes all of them. -/
theorem ScanGraph.Ready.evaluateNodes_outcome {g : ScanGraph} {tensors : List Tensor}
    (hready : g.Ready tensors) (features : Features) {nodes : List GraphNode}
    {values : List Tensor} (hvalues : g.Computed tensors values)
    (hnodes : nodes <+: g.nodes.drop values.length) :
    (∀ e, nodes.findSome? (·.fault features) = some e →
        (evaluateNodes features tensors nodes values).outcome = .error e) ∧
      (nodes.findSome? (·.fault features) = none →
        ∃ all, (evaluateNodes features tensors nodes values).outcome = .ok all ∧
          all.length = values.length + nodes.length ∧ g.Computed tensors all) := by
  induction nodes generalizing values with
  | nil => exact ⟨by simp, fun _ => ⟨values, rfl, rfl, hvalues⟩⟩
  | cons node rest ih =>
      -- the values are those of the nodes before this one
      obtain ⟨later, hlater⟩ := hnodes
      have hnode : g.nodes[values.length]? = some node := by
        have hfirst := congrArg (·[0]?) hlater
        simpa using hfirst.symm
      obtain ⟨hfault, hvalue⟩ := hready.evaluate_node hvalues features hnode
      rw [outcome_evaluateNodes_cons, List.findSome?_cons]
      cases hnode_fault : node.fault features with
      | some e =>
          rw [hfault e hnode_fault]
          simp [bind, Except.bind]
      | none =>
          obtain ⟨t, ht, hcomputed⟩ := hvalue hnode_fault
          have hrest : rest <+: g.nodes.drop (values ++ [t]).length := by
            refine ⟨later, ?_⟩
            have htail := congrArg List.tail hlater
            simpa using htail
          obtain ⟨herror, hok⟩ := ih hcomputed hrest
          rw [ht]
          refine ⟨herror, fun hnone => ?_⟩
          obtain ⟨all, hall, hlen, hall_computed⟩ := hok hnone
          refine ⟨all, hall, ?_, hall_computed⟩
          simp only [List.length_append, List.length_cons, List.length_nil] at hlen ⊢
          omega

/-! ## The whole graph -/

/-- A list is mapped without an error when each of its members is. -/
theorem mapM_eq_ok {α β : Type} {f : α → Except Error β} {l : List α} {results : List β} :
    l.mapM f = .ok results ↔ List.Forall₂ (fun a b => f a = .ok b) l results := by
  induction l generalizing results with
  | nil => cases results <;> simp [pure, Except.pure]
  | cons a rest ih =>
      rw [List.mapM_cons]
      cases ha : f a with
      | error e => cases results <;> simp [bind, Except.bind, ha]
      | ok b =>
          cases hrest : rest.mapM f with
          | error e => cases results <;> simp [bind, Except.bind, ← ih, ha, hrest]
          | ok bs =>
              cases results <;>
                simp [bind, Except.bind, pure, Except.pure, ← ih, ha, hrest]

theorem valueOf_eq_ok {values : List Tensor} {id : Nat} {t : Tensor} :
    valueOf values id = .ok t ↔ values[id]? = some t := by
  rw [valueOf]
  cases values[id]? <;> simp

namespace ScanGraph

variable {g : ScanGraph} {tensors : List Tensor}

theorem outcome_evaluate (features : Features) (g : ScanGraph) (tensors : List Tensor) :
    (evaluate features g tensors).outcome = g.accept tensors >>= fun _ =>
      (evaluateNodes features tensors g.nodes []).outcome >>= fun values =>
        g.outputs.mapM (valueOf values) := by
  simp only [evaluate, Logged.outcome_bind, Logged.outcome_liftM, Logged.outcome_ofExcept]

/-- A run succeeds if the tensors are accepted, all nodes get a value, and the returned ones are
among them. -/
theorem evaluate_eq_ok {features : Features} {results : List Tensor} :
    (evaluate features g tensors).outcome = .ok results ↔
      g.accept tensors = .ok () ∧ ∃ values,
        (evaluateNodes features tensors g.nodes []).outcome = .ok values ∧
          List.Forall₂ (fun id t => valueOf values id = .ok t) g.outputs results := by
  simp only [outcome_evaluate, bind_eq_ok, mapM_eq_ok]
  constructor
  · rintro ⟨_, haccept, values, hvalues, hresults⟩
    exact ⟨haccept, values, hvalues, hresults⟩
  · rintro ⟨haccept, values, hvalues, hresults⟩
    exact ⟨(), haccept, values, hvalues, hresults⟩

/-- The values of the returned nodes can be looked up once all nodes are computed. -/
theorem Computed.mapM_valueOf {values : List Tensor} (h : g.Computed tensors values)
    {outputs : List Nat} (houtputs : ∀ id ∈ outputs, id < values.length) :
    ∃ results, outputs.mapM (valueOf values) = .ok results ∧
      List.Forall₂ (g.IsValue tensors) outputs results := by
  induction outputs with
  | nil => exact ⟨[], mapM_eq_ok.2 List.Forall₂.nil, List.Forall₂.nil⟩
  | cons id rest ih =>
      have hlt := houtputs id List.mem_cons_self
      have hvalue := List.getElem?_eq_getElem hlt
      have hfirst := valueOf_eq_ok.2 hvalue
      obtain ⟨results, hresults, hall⟩ := ih fun j hj => houtputs j (List.mem_cons_of_mem _ hj)
      exact ⟨values[id] :: results, mapM_eq_ok.2 (List.Forall₂.cons hfirst (mapM_eq_ok.1 hresults)),
        List.Forall₂.cons (h id _ hvalue) hall⟩

/-- **A run of a graph** on tensors that it accepts stops at the first fault of a node or returns
what the nodes stand for. -/
theorem Ready.evaluate_outcome (hready : g.Ready tensors)
    (houtputs : ∀ id ∈ g.outputs, id < g.nodes.length) (features : Features) :
    (∀ e, g.nodes.findSome? (·.fault features) = some e →
        (evaluate features g tensors).outcome = .error e) ∧
      (g.nodes.findSome? (·.fault features) = none →
        ∃ results, (evaluate features g tensors).outcome = .ok results ∧
          List.Forall₂ (g.IsValue tensors) g.outputs results) := by
  obtain ⟨herror, hok⟩ := hready.evaluateNodes_outcome features (g.computed_nil tensors)
    (List.prefix_refl g.nodes)
  rw [outcome_evaluate, hready.accepted]
  constructor
  · intro e he
    rw [herror e he]
    rfl
  · intro hnone
    obtain ⟨values, hvalues, hlen, hcomputed⟩ := hok hnone
    have hall : ∀ id ∈ g.outputs, id < values.length := by
      intro id hid
      rw [hlen, List.length_nil, Nat.zero_add]
      exact houtputs id hid
    rw [hvalues]
    exact hcomputed.mapM_valueOf hall

end ScanGraph

end TensorScan
