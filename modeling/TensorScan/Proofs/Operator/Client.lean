import Mathlib
import TensorScan.Proofs.Operator.Kernel

set_option autoImplicit false

/-! # Kernels and their clients

Nothing is known of the client of a kernel but what it answers: it may fail, give too few tensors
or too many, of any shape and of any element type. This file says what passes between a kernel and
its client, for every client.

Before a kernel asks, it looks at its inputs (`ScanKernel.Refuses`). If it refuses them, its run is
over and there is no client in it. Otherwise the run is that of a single question, the graph of one
scan and the operand just as it came, followed by what the kernel does with the answers: they take
the shape of the operand one after another, up to the first that has another number of elements.

A client may write what it likes to the log each time it is asked. So the log of a run tells how
often the client was asked, and what: its lines are those of the kernel, then those of one answer to
one question (`ScanKernel.run_question`).
-/

namespace TensorScan

/-! ## One step after another -/

namespace Logged

variable {α β : Type}

theorem bind_of_error {x : Logged α} {e : Error} (h : x.outcome = .error e)
    (f : α → Logged β) : x >>= f = ⟨.error e, x.log⟩ := by
  show Logged.bind x f = _
  rw [Logged.bind, h]

theorem bind_of_ok {x : Logged α} {a : α} (h : x.outcome = .ok a) (f : α → Logged β) :
    x >>= f = ⟨(f a).outcome, x.log ++ (f a).log⟩ := by
  show Logged.bind x f = _
  rw [Logged.bind, h]

end Logged

/-- If the members of a list are mapped unless they have a fault, then the list is mapped unless a
member has a fault, and the error is that of the first member with one. -/
theorem mapM_eq_match_find? {α β : Type} {f : α → Except Error β} {faulty : α → Bool}
    {fault : α → Error} {result : α → β}
    (h : ∀ a, f a = if faulty a then .error (fault a) else .ok (result a)) (l : List α) :
    l.mapM f = match l.find? faulty with
      | some a => .error (fault a)
      | none => .ok (l.map result) := by
  induction l with
  | nil => rfl
  | cons a rest ih =>
      rw [List.mapM_cons, h a, ih, List.find?_cons]
      cases faulty a with
      | true => rfl
      | false =>
          cases rest.find? faulty with
          | some b => rfl
          | none => rfl

/-! ## What the kernel refuses -/

/-- The kernel cannot use the inputs. They are looked at in this order: their number, the element
type of the operand, the shape of the axis, its element, whether the element names a dimension,
and whether the operand can be seen from this dimension. -/
inductive ScanKernel.Refuses (k : ScanKernel) : List Tensor → Error → Prop
  | inputCount {inputs : List Tensor} (h : inputs.length ≠ 2) :
      k.Refuses inputs (.invalidArgument "inputs" (.inputCount k.name inputs.length))
  | operandType {operand axis : Tensor} (h : operand.dtype ≠ k.dtype) :
      k.Refuses [operand, axis] (.dtypeMismatch k.dtype operand.dtype)
  | axisShape {operand axis : Tensor} (hoperand : operand.dtype = k.dtype)
      (h : axis.shape ≠ []) :
      k.Refuses [operand, axis] (.invalidArgument "axis" (.axisNotScalar axis.shape))
  | axisElement {operand axis : Tensor} {e : Error} (hoperand : operand.dtype = k.dtype)
      (hscalar : axis.shape = []) (h : axis.item k.index.dtype = .error e) :
      k.Refuses [operand, axis] e
  | axisRange {operand axis : Tensor} {w : Word k.index.dtype} {e : Error}
      (hoperand : operand.dtype = k.dtype) (hscalar : axis.shape = [])
      (hitem : axis.item k.index.dtype = .ok w)
      (h : axisPosition operand.rank (k.index.value w) = .error e) :
      k.Refuses [operand, axis] e
  | extent {operand axis : Tensor} {position : Nat} {e : Error}
      (hoperand : operand.dtype = k.dtype)
      (haxis : axis.axisPosition k.index operand.rank = .ok position)
      (h : operand.shape.extent position = .error e) :
      k.Refuses [operand, axis] e

namespace ScanKernel

variable {k : ScanKernel} {inputs : List Tensor}

/-- Whatever an axis is refused for, it is refused by the kernel. -/
theorem refuses_of_axisPosition {operand axis : Tensor} {e : Error}
    (hoperand : operand.dtype = k.dtype)
    (h : axis.axisPosition k.index operand.rank = .error e) : k.Refuses [operand, axis] e := by
  by_cases hscalar : axis.shape = []
  · rw [Tensor.axisPosition_of_scalar hscalar] at h
    cases hitem : axis.item k.index.dtype with
    | error e' =>
        rw [hitem] at h
        obtain rfl : e' = e := Except.error.inj h
        exact Refuses.axisElement hoperand hscalar hitem
    | ok w =>
        rw [hitem] at h
        exact Refuses.axisRange hoperand hscalar hitem h
  · rw [Tensor.axisPosition_of_shape hscalar] at h
    obtain rfl := Except.error.inj h
    exact Refuses.axisShape hoperand hscalar

/-- Of inputs that are refused nothing becomes a question. -/
theorem Refuses.outcome_request {e : Error} (h : k.Refuses inputs e) :
    (k.request inputs).outcome = .error e := by
  cases h with
  | inputCount h =>
      match inputs with
      | [] => rfl
      | [_] => rfl
      | [_, _] => exact absurd rfl h
      | _ :: _ :: _ :: _ => rfl
  | operandType h =>
      rw [k.outcome_request, if_pos h]
  | axisShape hoperand h =>
      rw [k.outcome_request, if_neg (not_not_intro hoperand), Tensor.axisPosition_of_shape h]
      rfl
  | axisElement hoperand hscalar h =>
      rw [k.outcome_request, if_neg (not_not_intro hoperand),
        Tensor.axisPosition_of_scalar hscalar, h]
      rfl
  | axisRange hoperand hscalar hitem h =>
      rw [k.outcome_request, if_neg (not_not_intro hoperand),
        Tensor.axisPosition_of_scalar hscalar, hitem]
      show (axisPosition _ _ >>= _ : Except Error _) = _
      rw [h]
      rfl
  | extent hoperand haxis h =>
      rw [k.outcome_request, if_neg (not_not_intro hoperand), haxis]
      show (Shape.extent _ _ >>= _ : Except Error _) = _
      rw [h]
      rfl

/-- Inputs that are not refused become a question: the graph of one scan of the operand, seen from
the dimension that the axis names. -/
theorem exists_request (h : ∀ e, ¬ k.Refuses inputs e) :
    ∃ operand axis position, inputs = [operand, axis] ∧ operand.dtype = k.dtype ∧
      axis.axisPosition k.index operand.rank = .ok position ∧ position < operand.rank ∧
      (k.request inputs).outcome =
        .ok ⟨.single k.dtype (.along operand.shape position) (k.flags.mode k.op), operand⟩ := by
  match inputs, h with
  | [], h => exact absurd (Refuses.inputCount (by simp)) (h _)
  | [_], h => exact absurd (Refuses.inputCount (by simp)) (h _)
  | _ :: _ :: _ :: _, h => exact absurd (Refuses.inputCount (by simp)) (h _)
  | [operand, axis], h =>
      have hdtype : operand.dtype = k.dtype := by
        by_contra hne
        exact h _ (Refuses.operandType hne)
      cases haxis : axis.axisPosition k.index operand.rank with
      | error e => exact absurd (refuses_of_axisPosition hdtype haxis) (h e)
      | ok position =>
          cases hextent : operand.shape.extent position with
          | error e => exact absurd (Refuses.extent hdtype haxis hextent) (h e)
          | ok e =>
              obtain ⟨hlt, rfl⟩ := Shape.eq_along_of_extent hextent
              refine ⟨operand, axis, position, rfl, hdtype, haxis, hlt, ?_⟩
              rw [k.outcome_request, if_neg (not_not_intro hdtype), haxis]
              show (Shape.extent _ _ >>= _ : Except Error _) = _
              rw [hextent]
              rfl

end ScanKernel

/-! ## What becomes of the answers -/

/-- A client is asked once, and nothing else is written to the log. -/
theorem ScanRequest.log_submit (r : ScanRequest) (client : Client) :
    (r.submit client).log = (client r.graph [r.operand]).log := by
  unfold submit
  cases hanswers : (client r.graph [r.operand]).outcome with
  | error e => rw [Logged.log_bind_error hanswers]
  | ok answers => rw [Logged.log_bind_ok hanswers, Logged.log_ofExcept, List.append_nil]

/-- An error of a client passes through; its answers take the shape of the operand. -/
theorem ScanRequest.outcome_submit_bind (r : ScanRequest) (client : Client) :
    (r.submit client).outcome = (client r.graph [r.operand]).outcome >>= fun answers =>
      answers.mapM (·.reshape r.operand.shape) := by
  simp only [submit, Logged.outcome_bind, Logged.outcome_ofExcept]

/-- Answers take the shape of an operand in order, up to the first that has another number of
elements. -/
theorem mapM_reshape {operand : Tensor} (h : operand.WellFormed) (answers : List Tensor) :
    answers.mapM (·.reshape operand.shape) =
      match answers.find? (fun t => t.count != operand.count) with
      | some t => .error (.shapeMismatch t.shape operand.shape)
      | none => .ok (answers.map fun t => { t with shape := operand.shape }) := by
  have hreshape : ∀ t : Tensor, t.reshape operand.shape =
      if t.count != operand.count then .error (.shapeMismatch t.shape operand.shape)
      else .ok { t with shape := operand.shape } := by
    intro t
    rw [t.reshape_eq, if_neg h.not_overflows, ← h.count_eq]
    by_cases hcount : operand.count = t.count
    · simp [hcount]
    · simp [hcount, Ne.symm hcount]
  rw [mapM_eq_match_find? hreshape]
  cases answers.find? fun t => t.count != operand.count <;> rfl

/-! ## The whole run -/

/-- **A kernel and any client.** If the kernel refuses its inputs, then the run is the same whatever
the client. Otherwise the client is asked exactly once, with the operand as it is and with the graph
of one scan along the dimension that the axis names, an input that may be overwritten. An error of
the client is the error of the run. Answers are returned as many as they are and in order, with
their own elements and element types and in the shape of the operand, unless the first that has
another number of elements stands in the way. -/
theorem ScanKernel.run_question (k : ScanKernel) {inputs : List Tensor}
    (hinputs : ∀ t ∈ inputs, t.Built) :
    (∀ e, k.Refuses inputs e →
        ∀ client, k.run client inputs = ⟨.error e, (k.request inputs).log⟩) ∧
      ((∀ e, ¬ k.Refuses inputs e) → ∃ operand axis position graph,
        inputs = [operand, axis] ∧ operand.dtype = k.dtype ∧
        axis.axisPosition k.index operand.rank = .ok position ∧ position < operand.rank ∧
        graph = ScanGraph.single k.dtype (.along operand.shape position) (k.flags.mode k.op) ∧
        graph.canOverwriteInput = true ∧
        ∀ client : Client,
          (k.run client inputs).log = (k.request inputs).log ++ (client graph [operand]).log ∧
          (∀ e, (client graph [operand]).outcome = .error e →
            (k.run client inputs).outcome = .error e) ∧
          ∀ answers, (client graph [operand]).outcome = .ok answers →
            (k.run client inputs).outcome =
              match answers.find? (fun t => t.count != operand.count) with
              | some t => .error (.shapeMismatch t.shape operand.shape)
              | none => .ok (answers.map fun t => { t with shape := operand.shape })) := by
  constructor
  · intro e he client
    exact Logged.bind_of_error he.outcome_request _
  · intro hnone
    obtain ⟨operand, axis, position, rfl, hdtype, haxis, hlt, hrequest⟩ := exists_request hnone
    have hwell : operand.WellFormed := (hinputs operand (by simp)).wellFormed
    refine ⟨operand, axis, position, _, rfl, hdtype, haxis, hlt, rfl, ?_, fun client => ?_⟩
    · simp [ScanGraph.canOverwriteInput, ScanGraph.single, ScanGraph.desc?]
    · have hrun := Logged.bind_of_ok hrequest (fun r => r.submit client)
      refine ⟨?_, fun e he => ?_, fun answers hanswers => ?_⟩
      · rw [run, hrun, ScanRequest.log_submit]
      · rw [run, hrun, ScanRequest.outcome_submit_bind, he]
        rfl
      · rw [run, hrun, ScanRequest.outcome_submit_bind, hanswers]
        exact mapM_reshape hwell answers

/-- A client that notes that it is asked, and answers with tensors of its own. -/
def Client.answering (answers : List Tensor) : Client :=
  fun _ _ => ⟨.ok answers, [⟨.trace, "asked"⟩]⟩

/-- An operand without elements is refused along its first dimension, and nothing is asked. Along
the second the client is asked once, and the second of its answers has an element too many. -/
theorem ScanKernel.run_emptyOperand_answering :
    ((run ⟨.sum, .f32, .i32, ⟨true, false⟩⟩ (Client.answering []) (emptyOperandInputs 0)).outcome =
        .error (.shapeOverflow [0, 2 ^ 63, 4]) ∧
      (run ⟨.sum, .f32, .i32, ⟨true, false⟩⟩ (Client.answering []) (emptyOperandInputs 0)).log =
        (request ⟨.sum, .f32, .i32, ⟨true, false⟩⟩ (emptyOperandInputs 0)).log) ∧
      (run ⟨.sum, .f32, .i32, ⟨true, false⟩⟩
          (Client.answering [⟨[0], .i64, []⟩, Tensor.ofWord .f32 0, Tensor.ofWord .i64 0])
          (emptyOperandInputs (-2))).outcome = .error (.shapeMismatch [] [0, 2 ^ 63, 4]) ∧
      (run ⟨.sum, .f32, .i32, ⟨true, false⟩⟩
          (Client.answering [⟨[0], .i64, []⟩, Tensor.ofWord .f32 0, Tensor.ofWord .i64 0])
          (emptyOperandInputs (-2))).log =
        (request ⟨.sum, .f32, .i32, ⟨true, false⟩⟩ (emptyOperandInputs (-2))).log ++
          [⟨.trace, "asked"⟩] := by
  set k : ScanKernel := ⟨.sum, .f32, .i32, ⟨true, false⟩⟩
  constructor
  · have haxis : (Tensor.ofWord .i32 0).axisPosition k.index 3 = .ok 0 := by decide +kernel
    have hextent : Shape.extent [0, 2 ^ 63, 4] 0 = .error (.shapeOverflow [0, 2 ^ 63, 4]) := by
      decide +kernel
    have hrefused : k.Refuses (emptyOperandInputs 0) (.shapeOverflow [0, 2 ^ 63, 4]) :=
      Refuses.extent rfl haxis hextent
    have hrun := (k.run_question (emptyOperandInputs_built 0).1).1 _ hrefused (Client.answering [])
    rw [hrun]
    exact ⟨rfl, rfl⟩
  · obtain ⟨hrefused, hasked⟩ := k.run_question (emptyOperandInputs_built (-2)).1
    -- a run with a client that gives no tensors succeeds, so nothing is refused
    have hnone : ∀ e, ¬ k.Refuses (emptyOperandInputs (-2)) e := by
      intro e he
      have hrun := congrArg Logged.outcome (hrefused e he (Client.answering []))
      have hempty : (k.run (Client.answering []) (emptyOperandInputs (-2))).outcome = .ok [] := by
        decide +kernel
      rw [hempty] at hrun
      contradiction
    obtain ⟨operand, axis, position, graph, hinputs, _, _, _, _, _, hclient⟩ := hasked hnone
    obtain ⟨rfl, _⟩ := List.cons.inj hinputs
    obtain ⟨hlog, _, hanswers⟩ := hclient (Client.answering _)
    exact ⟨hanswers _ rfl, hlog⟩

end TensorScan
