import Mathlib
import TensorScan.Graph.Draft

set_option autoImplicit false

/-! # Graphs that can be drafted

A graph is drafted by a sequence of calls, some of which may fail; at the end the draft is finished
with a list of nodes to return. `GraphDraft.build` runs such a sequence, every call on the draft
that the one before it has left, and `ScanGraph.Drafted` says of a graph that it came about in this
way.

`GraphDraft.perform_cases` says everything a call can do: it fails and leaves the draft as it was,
or it appends one node. A call is told beforehand whether it will fail: `DraftCall.fault` looks at
nothing but the number of nodes that there are. A scan fails if its source is no node, and only then
if its axis is none of the four.

From this follows that the nodes of every draft are *linked* (`LinkedNodes`): an input node has the
descriptor that was declared for it, and a scan node reads an earlier node with the same descriptor.
The evaluation of graphs rests on this alone.
-/

namespace TensorScan

namespace GraphDraft

/-- The draft after a call. -/
def after (draft : GraphDraft) (call : DraftCall) : GraphDraft := (draft.perform call).1

/-- The draft after a sequence of calls. -/
def build (calls : List DraftCall) : GraphDraft := calls.foldl after empty

end GraphDraft

/-- Can the graph be drafted? -/
def ScanGraph.Drafted (g : ScanGraph) : Prop :=
  ∃ (calls : List DraftCall) (outputs : List Nat),
    ((GraphDraft.build calls).finish outputs).outcome = .ok g

/-! ## What a call asks for -/

/-- Is the node a scan of `source` along `axis`, with the descriptor of `source`? -/
def GraphDraft.IsScan (draft : GraphDraft) (source axis : Nat) (mode : ScanMode)
    (node : GraphNode) : Prop :=
  ∃ (scanned : GraphNode) (h : axis < 4), draft.nodes[source]? = some scanned ∧
    node = ⟨.scan source ⟨axis, h⟩ mode, scanned.desc⟩

/-- What is wrong with a scan of `source` along `axis` when there are `count` nodes. -/
def scanFault (count source axis : Nat) : Option Error :=
  if count ≤ source then some (.invalidGraph (.unknownNode source))
  else if 4 ≤ axis then some (.invalidGraph (.axisOutOfRange axis))
  else none

namespace DraftCall

/-- The descriptor that a call declares for an input. -/
def declared? : DraftCall → Option Descriptor
  | .input desc => some desc
  | .scan .. | .runningSum .. | .runningProduct .. => none

/-- The node that a call adds to a draft: the next input, or the scan that the call asks for. -/
def Adds (draft : GraphDraft) (node : GraphNode) : DraftCall → Prop
  | .input desc => node = ⟨.input draft.inputs.length, desc⟩
  | .scan source axis mode => draft.IsScan source axis mode node
  | .runningSum source axis direction exclusive =>
      draft.IsScan source axis ⟨.sum, direction, exclusive⟩ node
  | .runningProduct source axis direction exclusive =>
      draft.IsScan source axis ⟨.product, direction, exclusive⟩ node

/-- What is wrong with a call when there are `count` nodes. An input can always be declared. -/
def fault (count : Nat) : DraftCall → Option Error
  | .input _ => none
  | .scan source axis _ => scanFault count source axis
  | .runningSum source axis _ _ => scanFault count source axis
  | .runningProduct source axis _ _ => scanFault count source axis

/-- A call declares an input or is a scan of some kind. -/
theorem input_or_scan (call : DraftCall) :
    (∃ desc, call = .input desc) ∨
      ∃ source axis mode, call.declared? = none ∧
        (∀ draft : GraphDraft, draft.perform call = draft.addScan source axis mode) ∧
        (∀ draft node, call.Adds draft node ↔ draft.IsScan source axis mode node) ∧
        ∀ count, call.fault count = scanFault count source axis := by
  cases call with
  | input desc => exact Or.inl ⟨desc, rfl⟩
  | scan source axis mode =>
      exact Or.inr ⟨source, axis, mode, rfl, fun _ => rfl, fun _ _ => Iff.rfl, fun _ => rfl⟩
  | runningSum source axis direction exclusive =>
      exact Or.inr ⟨source, axis, _, rfl, fun _ => rfl, fun _ _ => Iff.rfl, fun _ => rfl⟩
  | runningProduct source axis direction exclusive =>
      exact Or.inr ⟨source, axis, _, rfl, fun _ => rfl, fun _ _ => Iff.rfl, fun _ => rfl⟩

/-- A call that fails is no declaration. -/
theorem declared?_of_fault {call : DraftCall} {count : Nat} {e : Error}
    (h : call.fault count = some e) : call.declared? = none := by
  cases call with
  | input desc => contradiction
  | scan | runningSum | runningProduct => rfl

end DraftCall

/-! ## What a call does -/

namespace GraphDraft

/-- A scan is refused and the draft stays as it was, or one node is appended. -/
theorem addScan_cases (draft : GraphDraft) (source axis : Nat) (mode : ScanMode) :
    (∃ e, scanFault draft.nodes.length source axis = some e ∧
        draft.addScan source axis mode = (draft, .error e)) ∨
      ∃ node, scanFault draft.nodes.length source axis = none ∧
        draft.IsScan source axis mode node ∧ draft.addScan source axis mode =
          (⟨draft.nodes ++ [node], draft.inputs⟩, .ok draft.nodes.length) := by
  unfold addScan desc scanFault
  cases hnode : draft.nodes[source]? with
  | none =>
      have hunknown : draft.nodes.length ≤ source := List.getElem?_eq_none_iff.1 hnode
      exact Or.inl ⟨_, if_pos hunknown, rfl⟩
  | some scanned =>
      have hknown : ¬ draft.nodes.length ≤ source := by
        have hlt := (List.getElem?_eq_some_iff.1 hnode).1
        omega
      rw [if_neg hknown]
      by_cases haxis : axis < 4
      · have hin : ¬ 4 ≤ axis := by omega
        exact Or.inr ⟨_, if_neg hin, ⟨scanned, haxis, hnode, rfl⟩, dif_pos haxis⟩
      · have hout : 4 ≤ axis := by omega
        exact Or.inl ⟨_, if_pos hout, dif_neg haxis⟩

/-- **What a call does.** It fails with its fault and leaves the draft as it was, or it has no
fault, appends the node that it asks for and gives the number of this node. -/
theorem perform_cases (draft : GraphDraft) (call : DraftCall) :
    (∃ e, call.fault draft.nodes.length = some e ∧ draft.perform call = (draft, .error e)) ∨
      ∃ node, call.fault draft.nodes.length = none ∧ call.Adds draft node ∧
        draft.perform call =
          (⟨draft.nodes ++ [node], draft.inputs ++ call.declared?.toList⟩,
            .ok draft.nodes.length) := by
  rcases call.input_or_scan with
    ⟨desc, rfl⟩ | ⟨source, axis, mode, hdeclared, hperform, hadds, hfault⟩
  · exact Or.inr ⟨_, rfl, rfl, rfl⟩
  · simp only [hdeclared, hperform, hadds, hfault, Option.toList_none, List.append_nil]
    exact draft.addScan_cases source axis mode

end GraphDraft

/-! ## Linked nodes -/

/-- Every input node has the descriptor declared for the tensor it stands for, and every scan node
reads an earlier node with its own descriptor. -/
structure LinkedNodes (inputs : List Descriptor) (nodes : List GraphNode) : Prop where
  /-- The descriptor of an input node is declared. -/
  input {id index : Nat} {desc : Descriptor} (h : nodes[id]? = some ⟨.input index, desc⟩) :
    inputs[index]? = some desc
  /-- The source of a scan node comes before it and has the same descriptor. -/
  scan {id source : Nat} {axis : Fin 4} {mode : ScanMode} {desc : Descriptor}
    (h : nodes[id]? = some ⟨.scan source axis mode, desc⟩) :
    source < id ∧ ∃ op, nodes[source]? = some ⟨op, desc⟩

namespace LinkedNodes

variable {inputs : List Descriptor} {nodes : List GraphNode}

theorem nil (inputs : List Descriptor) : LinkedNodes inputs [] where
  input h := by simp at h
  scan h := by simp at h

/-- Nodes that are there stay where they are when one is appended. -/
private theorem getElem?_concat {id : Nat} {node last : GraphNode}
    (h : nodes[id]? = some node) : (nodes ++ [last])[id]? = some node := by
  rw [List.getElem?_append_left (List.getElem?_eq_some_iff.1 h).1, h]

/-- A node of a longer list is the last one or was there before. -/
private theorem getElem?_concat_cases {id : Nat} {node last : GraphNode}
    (h : (nodes ++ [last])[id]? = some node) :
    nodes[id]? = some node ∨ id = nodes.length ∧ last = node := by
  rcases Nat.lt_or_ge id nodes.length with hlt | hge
  · rw [List.getElem?_append_left hlt] at h
    exact Or.inl h
  · rw [List.getElem?_append_right hge] at h
    obtain ⟨hzero, rfl⟩ := List.getElem?_eq_some_iff.1 h
    have hid : id = nodes.length := by
      simp only [List.length_singleton] at hzero
      omega
    exact Or.inr ⟨hid, by simp⟩

theorem concat_input (h : LinkedNodes inputs nodes) (desc : Descriptor) :
    LinkedNodes (inputs ++ [desc]) (nodes ++ [⟨.input inputs.length, desc⟩]) where
  input hnode := by
    rcases getElem?_concat_cases hnode with hold | ⟨_, hlast⟩
    · have hdeclared := h.input hold
      rw [List.getElem?_append_left (List.getElem?_eq_some_iff.1 hdeclared).1, hdeclared]
    · cases hlast
      simp
  scan hnode := by
    rcases getElem?_concat_cases hnode with hold | ⟨_, hlast⟩
    · obtain ⟨hlt, op, hsource⟩ := h.scan hold
      exact ⟨hlt, op, getElem?_concat hsource⟩
    · cases hlast

theorem concat_scan (h : LinkedNodes inputs nodes) {source : Nat} {node : GraphNode}
    (hsource : nodes[source]? = some node) (axis : Fin 4) (mode : ScanMode) :
    LinkedNodes inputs (nodes ++ [⟨.scan source axis mode, node.desc⟩]) where
  input hnode := by
    rcases getElem?_concat_cases hnode with hold | ⟨_, hlast⟩
    · exact h.input hold
    · cases hlast
  scan hnode := by
    rcases getElem?_concat_cases hnode with hold | ⟨rfl, hlast⟩
    · obtain ⟨hlt, op, hold⟩ := h.scan hold
      exact ⟨hlt, op, getElem?_concat hold⟩
    · cases hlast
      exact ⟨(List.getElem?_eq_some_iff.1 hsource).1, node.op, getElem?_concat hsource⟩

end LinkedNodes

/-- The node that a call adds is linked to those that are there. -/
theorem LinkedNodes.concat {draft : GraphDraft} (h : LinkedNodes draft.inputs draft.nodes)
    {call : DraftCall} {node : GraphNode} (hadds : call.Adds draft node) :
    LinkedNodes (draft.inputs ++ call.declared?.toList) (draft.nodes ++ [node]) := by
  rcases call.input_or_scan with ⟨desc, rfl⟩ | ⟨source, axis, mode, hdeclared, _, hscan, _⟩
  · rw [show node = _ from hadds]
    exact h.concat_input desc
  · obtain ⟨scanned, haxis, hsource, rfl⟩ := (hscan draft node).1 hadds
    rw [hdeclared, Option.toList_none, List.append_nil]
    exact h.concat_scan hsource ⟨axis, haxis⟩ mode

namespace GraphDraft

/-- A call keeps the nodes of a draft linked. -/
theorem linked_after {draft : GraphDraft} (h : LinkedNodes draft.inputs draft.nodes)
    (call : DraftCall) :
    LinkedNodes (draft.after call).inputs (draft.after call).nodes := by
  unfold after
  rcases draft.perform_cases call with ⟨e, _, hperform⟩ | ⟨node, _, hadds, hperform⟩
  · rwa [hperform]
  · rw [hperform]
    exact h.concat hadds

/-- What the empty draft has and every call keeps, every draft has. -/
theorem build_invariant {P : GraphDraft → Prop} (hempty : P empty)
    (hafter : ∀ draft call, P draft → P (draft.after call)) (calls : List DraftCall) :
    P (build calls) :=
  List.foldlRecOn calls after hempty fun draft hdraft call _ => hafter draft call hdraft

/-- The nodes of every draft are linked. -/
theorem linked_build (calls : List DraftCall) :
    LinkedNodes (build calls).inputs (build calls).nodes :=
  build_invariant (P := fun draft => LinkedNodes draft.inputs draft.nodes) (LinkedNodes.nil [])
    (fun _ call h => linked_after h call) calls

end GraphDraft

namespace ScanGraph.Drafted

variable {g : ScanGraph}

theorem linked (h : g.Drafted) : LinkedNodes g.inputs g.nodes := by
  obtain ⟨calls, outputs, hfinish⟩ := h
  obtain ⟨_, _, rfl⟩ := GraphDraft.finish_eq_ok.1 hfinish
  exact GraphDraft.linked_build calls

/-- A graph that can be drafted returns nodes that it has. -/
theorem output_lt (h : g.Drafted) : ∀ id ∈ g.outputs, id < g.nodes.length := by
  obtain ⟨calls, outputs, hfinish⟩ := h
  obtain ⟨_, houtputs, rfl⟩ := GraphDraft.finish_eq_ok.1 hfinish
  exact houtputs

end ScanGraph.Drafted

end TensorScan
