import Mathlib
import TensorScan.Proofs.Graph.Draft

set_option autoImplicit false

/-! # Numbers of nodes and of inputs

A draft gives numbers away: to nodes, in the order of the calls that succeed, and to inputs, in the
order of their declaration. Whoever drafts a graph refers to nodes by the first, and whoever runs it
gives tensors in the order of the second. Both count from zero without a gap, whatever calls are
made and whichever of them fail.

`GraphDraft.build_wellFormed` sums up what is known of a draft after any sequence of calls, of the
next call, and of the graphs that the draft can be finished to.
-/

namespace TensorScan

namespace GraphDraft

/-! ## Numbers of nodes -/

/-- The numbers that calls give, in the order of the calls. A call that fails gives none. -/
def numbers (draft : GraphDraft) : List DraftCall → List Nat
  | [] => []
  | call :: rest =>
      match draft.perform call with
      | (next, .ok id) => id :: next.numbers rest
      | (next, .error _) => next.numbers rest

/-- The numbers of the nodes that are there, and then those that calls give, are the numbers of the
nodes that are there after the calls. -/
theorem range_append_numbers (draft : GraphDraft) (calls : List DraftCall) :
    List.range draft.nodes.length ++ draft.numbers calls =
      List.range (calls.foldl after draft).nodes.length := by
  induction calls generalizing draft with
  | nil => exact List.append_nil _
  | cons call rest ih =>
      rw [List.foldl_cons, numbers, after]
      rcases draft.perform_cases call with ⟨e, _, hperform⟩ | ⟨node, _, _, hperform⟩
      · rw [hperform]
        exact ih draft
      · -- one node more, and its number is the next
        have hrange : List.range (draft.nodes ++ [node]).length =
            List.range draft.nodes.length ++ [draft.nodes.length] := by
          rw [List.length_append, List.length_singleton, List.range_succ]
        rw [hperform, ← ih, hrange, List.append_assoc]
        rfl

/-! ## Numbers of inputs -/

/-- Calls declare inputs one after another. -/
theorem inputs_foldl_after (draft : GraphDraft) (calls : List DraftCall) :
    (calls.foldl after draft).inputs = draft.inputs ++ calls.filterMap DraftCall.declared? := by
  induction calls generalizing draft with
  | nil => exact (List.append_nil _).symm
  | cons call rest ih =>
      have hinputs : (draft.after call).inputs = draft.inputs ++ call.declared?.toList := by
        unfold after
        rcases draft.perform_cases call with ⟨e, hfault, hperform⟩ | ⟨node, _, _, hperform⟩
        · -- a call that fails is no declaration
          rw [hperform, DraftCall.declared?_of_fault hfault, Option.toList_none, List.append_nil]
        · rw [hperform]
      rw [List.foldl_cons, ih, hinputs, List.append_assoc, List.filterMap_cons]
      cases call.declared? <;> rfl

end GraphDraft

/-- The number of the input that a node is, if it is one. -/
def GraphNode.input? (node : GraphNode) : Option Nat :=
  match node.op with
  | .input index => some index
  | .scan .. => none

namespace GraphDraft

/-- The input nodes of every draft are numbered in order. -/
theorem filterMap_input?_build (calls : List DraftCall) :
    (build calls).nodes.filterMap GraphNode.input? = List.range (build calls).inputs.length := by
  refine build_invariant
    (P := fun draft => draft.nodes.filterMap GraphNode.input? = List.range draft.inputs.length)
    rfl ?_ calls
  intro draft call h
  unfold after
  rcases draft.perform_cases call with ⟨e, _, hperform⟩ | ⟨node, _, hadds, hperform⟩
  · rwa [hperform]
  · rw [hperform]
    show List.filterMap _ (draft.nodes ++ [node]) =
      List.range (draft.inputs ++ call.declared?.toList).length
    rw [List.filterMap_append, h, List.length_append]
    rcases call.input_or_scan with ⟨desc, rfl⟩ | ⟨source, axis, mode, hdeclared, _, hscan, _⟩
    · rw [show node = _ from hadds]
      exact List.range_succ.symm
    · obtain ⟨scanned, haxis, _, rfl⟩ := (hscan draft node).1 hadds
      rw [hdeclared]
      exact List.append_nil _

/-! ## Every draft -/

/-- **After any sequence of calls**, failed ones among them, nodes and inputs are numbered from zero
in the order in which they came, an input node has the descriptor that is declared for its input,
and a scan node reads an earlier node, with the same descriptor, along one of the four axes. The
next call has a fault and leaves the draft as it is, or it appends the node that it asks for and the
descriptor that it declares, and gives the next number; and only then a draft is handed on. The
draft can be finished exactly with outputs that it has, at least one, and nothing is lost or added
by it. -/
theorem build_wellFormed (calls : List DraftCall) :
    empty.numbers calls = List.range (build calls).nodes.length ∧
      (build calls).inputs = calls.filterMap DraftCall.declared? ∧
      (build calls).nodes.filterMap GraphNode.input? =
        List.range (build calls).inputs.length ∧
      (∀ (id index : Nat) (desc : Descriptor),
        (build calls).nodes[id]? = some ⟨.input index, desc⟩ →
        (build calls).inputs[index]? = some desc) ∧
      (∀ (id source : Nat) (axis : Fin 4) (mode : ScanMode) (desc : Descriptor),
        (build calls).nodes[id]? = some ⟨.scan source axis mode, desc⟩ →
        source < id ∧ axis.val < 4 ∧ ∃ op, (build calls).nodes[source]? = some ⟨op, desc⟩) ∧
      (∀ call e, call.fault (build calls).nodes.length = some e →
        (build calls).perform call = (build calls, .error e) ∧
          (build calls).extend call = .error e) ∧
      (∀ call, call.fault (build calls).nodes.length = none →
        ∃ node next, call.Adds (build calls) node ∧
          next = ⟨(build calls).nodes ++ [node], (build calls).inputs ++ call.declared?.toList⟩ ∧
          (build calls).perform call = (next, .ok (build calls).nodes.length) ∧
          (build calls).extend call = .ok (next, (build calls).nodes.length)) ∧
      ∀ outputs g, ((build calls).finish outputs).outcome = .ok g ↔
        outputs ≠ [] ∧ (∀ id ∈ outputs, id < (build calls).nodes.length) ∧
          g = ⟨(build calls).nodes, (build calls).inputs, outputs⟩ := by
  have hlinked := linked_build calls
  refine ⟨range_append_numbers empty calls, inputs_foldl_after empty calls,
    filterMap_input?_build calls, ?_, ?_, ?_, ?_, ?_⟩
  · intro id index desc hnode
    exact hlinked.input hnode
  · intro id source axis mode desc hnode
    obtain ⟨hlt, hsource⟩ := hlinked.scan hnode
    exact ⟨hlt, axis.isLt, hsource⟩
  · intro call e he
    rcases (build calls).perform_cases call with ⟨e', he', hperform⟩ | ⟨_, hnone, _⟩
    · obtain rfl : e' = e := Option.some.inj (he'.symm.trans he)
      exact ⟨hperform, extend_of_error hperform⟩
    · rw [hnone] at he
      contradiction
  · intro call hnone
    rcases (build calls).perform_cases call with ⟨e, he, _⟩ | ⟨node, _, hadds, hperform⟩
    · rw [he] at hnone
      contradiction
    · exact ⟨node, _, hadds, rfl, hperform, extend_of_ok hperform⟩
  · intro outputs g
    exact finish_eq_ok

end GraphDraft

end TensorScan
