import TensorScan.Graph.Basic
import TensorScan.Logged

set_option autoImplicit false

/-! # Drafts of graphs

A graph is drafted node by node. A call that adds a node ends with the number of that node, which is
the number of nodes there were before, or with an error, and in both cases it leaves a draft to go
on with (`GraphDraft.perform`). Whoever gives up at an error has no use for that draft:
`GraphDraft.extend` and its special cases hand it on only together with a new node.
`GraphDraft.finish` chooses the nodes to return.
-/

namespace TensorScan

/-- A graph under construction. -/
structure GraphDraft where
  nodes : List GraphNode
  inputs : List Descriptor
  deriving DecidableEq

/-- A call that adds a node to a draft. -/
inductive DraftCall
  | input (desc : Descriptor)
  | scan (source axis : Nat) (mode : ScanMode)
  | runningSum (source axis : Nat) (direction : Direction) (exclusive : Bool)
  | runningProduct (source axis : Nat) (direction : Direction) (exclusive : Bool)

namespace GraphDraft

def empty : GraphDraft := ⟨[], []⟩

def desc (draft : GraphDraft) (id : Nat) : Except Error Descriptor :=
  match draft.nodes[id]? with
  | some node => .ok node.desc
  | none => .error (.invalidGraph (.unknownNode id))

def push (draft : GraphDraft) (node : GraphNode) : GraphDraft × Nat :=
  ({ draft with nodes := draft.nodes ++ [node] }, draft.nodes.length)

/-- Declares the next input. Inputs stand for tensors in the order of their declaration. -/
def input (draft : GraphDraft) (desc : Descriptor) : GraphDraft × Nat :=
  { draft with inputs := draft.inputs ++ [desc] }.push ⟨.input draft.inputs.length, desc⟩

/-- Adds a scan of `source`, whose descriptor the result shares. The draft comes back also if the
scan cannot be added. -/
def addScan (draft : GraphDraft) (source axis : Nat) (mode : ScanMode) :
    GraphDraft × Except Error Nat :=
  match draft.desc source with
  | .error e => (draft, .error e)
  | .ok desc =>
      if h : axis < 4 then
        let (next, id) := draft.push ⟨.scan source ⟨axis, h⟩ mode, desc⟩
        (next, .ok id)
      else (draft, .error (.invalidGraph (.axisOutOfRange axis)))

/-- The draft that a call leaves, and the number of the node that it has added. -/
def perform (draft : GraphDraft) : DraftCall → GraphDraft × Except Error Nat
  | .input desc =>
      let (next, id) := draft.input desc
      (next, .ok id)
  | .scan source axis mode => draft.addScan source axis mode
  | .runningSum source axis direction exclusive =>
      draft.addScan source axis ⟨.sum, direction, exclusive⟩
  | .runningProduct source axis direction exclusive =>
      draft.addScan source axis ⟨.product, direction, exclusive⟩

/-- The draft with one more node and the number of the node, or else no draft at all. -/
def extend (draft : GraphDraft) (call : DraftCall) : Except Error (GraphDraft × Nat) :=
  let (next, result) := draft.perform call
  result.map fun id => (next, id)

def scan (draft : GraphDraft) (source : Nat) (axis : Nat) (mode : ScanMode) :
    Except Error (GraphDraft × Nat) :=
  draft.extend (.scan source axis mode)

def runningSum (draft : GraphDraft) (source : Nat) (axis : Nat) (direction : Direction)
    (exclusive : Bool) : Except Error (GraphDraft × Nat) :=
  draft.extend (.runningSum source axis direction exclusive)

def runningProduct (draft : GraphDraft) (source : Nat) (axis : Nat) (direction : Direction)
    (exclusive : Bool) : Except Error (GraphDraft × Nat) :=
  draft.extend (.runningProduct source axis direction exclusive)

/-- Finishes the graph, which returns the values of `outputs`. There must be at least one, and
all must be nodes. -/
def finish (draft : GraphDraft) (outputs : List Nat) : Logged ScanGraph := do
  if outputs.isEmpty then Logged.fail (.invalidGraph .noOutputs)
  else match outputs.find? (draft.nodes.length ≤ ·) with
    | some id => Logged.fail (.invalidGraph (.unknownNode id))
    | none =>
        Logged.note .debug (s!"compiled graph: {draft.nodes.length} node(s), " ++
          s!"{draft.inputs.length} input(s), {outputs.length} output(s)")
        pure ⟨draft.nodes, draft.inputs, outputs⟩

theorem extend_of_ok {draft next : GraphDraft} {call : DraftCall} {id : Nat}
    (h : draft.perform call = (next, .ok id)) : draft.extend call = .ok (next, id) := by
  rw [extend, h]
  rfl

theorem extend_of_error {draft next : GraphDraft} {call : DraftCall} {e : Error}
    (h : draft.perform call = (next, .error e)) : draft.extend call = .error e := by
  rw [extend, h]
  rfl

/-- A graph can be finished exactly when it returns something and returns only nodes. -/
theorem finish_eq_ok {draft : GraphDraft} {outputs : List Nat} {g : ScanGraph} :
    (draft.finish outputs).outcome = .ok g ↔
      outputs ≠ [] ∧ (∀ id ∈ outputs, id < draft.nodes.length) ∧
        g = ⟨draft.nodes, draft.inputs, outputs⟩ := by
  unfold finish
  cases outputs with
  | nil => simp
  | cons first rest =>
      cases hfind : (first :: rest).find? (draft.nodes.length ≤ ·) with
      | some id =>
          have hmem := List.mem_of_find?_eq_some hfind
          have hle : draft.nodes.length ≤ id := by simpa using List.find?_some hfind
          simp only [List.isEmpty_cons, Bool.false_eq_true, if_false, Logged.outcome_fail]
          constructor
          · intro h
            contradiction
          · rintro ⟨_, hall, _⟩
            have hlt := hall id hmem
            omega
      | none =>
          have hall : ∀ id ∈ first :: rest, id < draft.nodes.length := by
            intro id hid
            have hnot := List.find?_eq_none.1 hfind id hid
            simpa using hnot
          simp only [List.isEmpty_cons, Bool.false_eq_true, if_false, Logged.outcome_bind,
            Logged.outcome_note, Logged.outcome_pure]
          constructor
          · intro h
            exact ⟨by simp, hall, (Except.ok.inj h).symm⟩
          · rintro ⟨_, _, rfl⟩
            rfl

end GraphDraft

end TensorScan
