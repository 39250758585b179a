import Mathlib
import TensorScan.Operator.Catalogue
import TensorScan.Proofs.Operator.Kernel
import TensorScan.Proofs.Operator.Registrations

set_option autoImplicit false

/-! # Scans from end to end

The registry of all scan kernels makes a kernel for an invocation, and on the host the kernel
returns one tensor. This file says which: the operand, scanned along the dimension that the axis
names, in the order and with the exclusiveness that the flags of the invocation ask for.
-/

namespace TensorScan

/-! ## The kernel of an invocation -/

theorem IndexType.dtype_injective {a b : IndexType} (h : a.dtype = b.dtype) : a = b := by
  revert h
  cases a <;> cases b <;> decide

theorem IndexType.dtype_mem_members (index : IndexType) : index.dtype ∈ DTypeSet.index.members := by
  rw [DTypeSet.mem_members, DTypeSet.contains_index, indexType?_dtype]
  rfl

/-- A factory takes its operator and its type of axes, and the rest from the invocation. -/
theorem ScanKernel.ofInvocation_eq_ok {index : IndexType} {op : Accumulation} {call : Invocation}
    {k : ScanKernel} :
    ofInvocation index op call = .ok k ↔ k.op = op ∧ k.index = index ∧
      call.dtype operandTypeAttribute = .ok k.dtype ∧
      call.dtype indexTypeAttribute = .ok index.dtype ∧ call.scanFlags = .ok k.flags := by
  obtain ⟨op', d, index', flags⟩ := k
  unfold ofInvocation
  cases call.dtype operandTypeAttribute with
  | error e => simp [bind, Except.bind]
  | ok dtype =>
      cases call.dtype indexTypeAttribute with
      | error e => simp [bind, Except.bind]
      | ok given =>
          by_cases hgiven : given = index.dtype
          · cases call.scanFlags with
            | error e => simp [bind, Except.bind, hgiven]
            | ok given_flags =>
                simp only [bind, Except.bind, DTypeSet.contains_scannable, hgiven, if_true, pure,
                  Except.pure, Except.ok.injEq, ScanKernel.mk.injEq]
                tauto
          · simp [bind, Except.bind, throw, throwThe, MonadExceptOf.throw, hgiven]

/-- The catalogue has an entry for every operator, every element type that is supported and every
type of axes. -/
theorem mem_scanEntries {features : Features} {sig : Signature} {factory : Factory ScanKernel} :
    (sig, factory) ∈ scanEntries features ↔
      ∃ op d index, features.supports d = true ∧ sig = ⟨op.name, d, IndexType.dtype index⟩ ∧
        factory = ScanKernel.ofInvocation index op := by
  simp only [scanEntries, List.mem_flatMap, List.mem_filterMap, Option.map_eq_some_iff,
    Prod.mk.injEq]
  constructor
  · rintro ⟨op, _, d, hd, axes, _, index, hindex, rfl, rfl⟩
    obtain rfl : index.dtype = axes := IndexType.dtype_of_indexType? hindex
    exact ⟨op, d, index, (List.mem_filter.1 hd).2, rfl, rfl⟩
  · rintro ⟨op, d, index, hd, rfl, rfl⟩
    have hmem : d ∈ DTypeSet.scannable.members.filter features.supports :=
      List.mem_filter.2 ⟨(DTypeSet.mem_members _ d).2 (DTypeSet.contains_scannable d), hd⟩
    exact ⟨op, by cases op <;> decide, d, hmem, index.dtype, index.dtype_mem_members, index,
      index.indexType?_dtype, rfl, rfl⟩

/-- The kernel that the registry of all scan kernels makes for an invocation has the operator, the
types and the flags of the invocation. -/
theorem eq_of_instantiate_scanRegistry {features : Features} {runtime : String}
    {registry : Registry ScanKernel}
    (hregistry : (scanRegistry features runtime).outcome = .ok registry) {call : Invocation}
    {k : ScanKernel} (hkernel : (registry.instantiate call).outcome = .ok k) :
    call.op = k.op.name ∧ call.dtype operandTypeAttribute = .ok k.dtype ∧
      call.dtype indexTypeAttribute = .ok k.index.dtype ∧ call.scanFlags = .ok k.flags := by
  obtain ⟨sig, factory, hsig, hfactory, hmade⟩ := Registry.instantiate_eq_ok.1 hkernel
  rw [Registry.outcome_scanRegistry] at hregistry
  obtain rfl := Except.ok.inj hregistry
  obtain ⟨op, d, index, _, rfl, rfl⟩ :=
    mem_scanEntries.1 (Registry.mem_scanEntries_of_factory? hfactory)
  obtain ⟨rfl, rfl, hdtype, hindex, hflags⟩ := ScanKernel.ofInvocation_eq_ok.1 hmade
  exact ⟨(Invocation.signature_eq_ok.1 hsig).1.symm, hdtype, hindex, hflags⟩

/-! ## Integer accumulation -/

/-- One step of an accumulation, on numbers. -/
def Accumulation.onNat (op : Accumulation) (a b : Nat) : Nat :=
  match op with
  | .sum => a + b
  | .product => a * b

/-- Integers are accumulated modulo the power of two of their width. -/
theorem Accumulation.toNat_combine (op : Accumulation) {d : DType} (h : d.isInteger = true)
    (acc y : Word d) :
    (op.combine d acc y).toNat = op.onNat acc.toNat y.toNat % 2 ^ d.bitWidth := by
  cases d with
  | f32 => contradiction
  | f16 => contradiction
  | i64 =>
      cases op with
      | sum => exact BitVec.toNat_add acc y
      | product => exact BitVec.toNat_mul acc y
  | i32 =>
      cases op with
      | sum => exact BitVec.toNat_add acc y
      | product => exact BitVec.toNat_mul acc y

/-! ## The whole way -/

/-- **A scan from end to end.** Whenever the kernel that the registry of all scan kernels makes for
an invocation succeeds on the host, it returns one tensor, with the shape and the element type of
the operand. At every multi-index this tensor holds the fold of the operand along the dimension
that the axis names, in the order and with the exclusiveness that the flags ask for. -/
theorem run_instantiate_holds {features : Features} {runtime : String}
    {registry : Registry ScanKernel}
    (hregistry : (scanRegistry features runtime).outcome = .ok registry) {call : Invocation}
    {kernel : ScanKernel} (hkernel : (registry.instantiate call).outcome = .ok kernel)
    {op : Accumulation} (hop : call.op = op.name) {d : DType}
    (hd : call.dtype operandTypeAttribute = .ok d) {index : IndexType}
    (hindex : call.dtype indexTypeAttribute = .ok index.dtype) {flags : ScanFlags}
    (hflags : call.scanFlags = .ok flags) {x axis : Tensor} (hx : x.Built) {w : Word index.dtype}
    (haxis : axis.item index.dtype = .ok w) {results : List Tensor}
    (hrun : (kernel.run (ScanGraph.evaluate features) [x, axis]).outcome = .ok results) :
    x.dtype = d ∧
      (∃ k result, k < x.rank ∧
        (k : Int) = (if index.value w < 0 then x.rank + index.value w else index.value w) ∧
        results = [result] ∧ result.WellFormed ∧ result.shape = x.shape ∧ result.dtype = d ∧
        ∀ p, x.shape.HasIndex p →
          result.element? d p = some ((flags.mode op).scanGrid d x.shape k (x.grid d) p)) ∧
      (d.isInteger = true → ∀ acc y : Word d,
        (op.combine d acc y).toNat = op.onNat acc.toNat y.toNat % 2 ^ d.bitWidth) := by
  -- the invocation determines the kernel
  obtain ⟨hname, hdtype, hindex', hflags'⟩ := eq_of_instantiate_scanRegistry hregistry hkernel
  obtain ⟨op', d', index', flags'⟩ := kernel
  obtain rfl : op' = op := Accumulation.name_injective (hname.symm.trans hop)
  obtain rfl : d' = d := Except.ok.inj (hdtype.symm.trans hd)
  obtain rfl : index' = index :=
    IndexType.dtype_injective (Except.ok.inj (hindex'.symm.trans hindex))
  obtain rfl : flags' = flags := Except.ok.inj (hflags'.symm.trans hflags)
  have hwell := hx.wellFormed
  obtain ⟨hsame, k, hk, rfl⟩ := ScanKernel.run_eq_ok hwell hrun
  obtain ⟨w', hitem, hposition⟩ := Tensor.exists_item_of_axisPosition hk
  obtain rfl : w' = w := Except.ok.inj (hitem.symm.trans haxis)
  obtain ⟨_, hlt, hvalue⟩ := axisPosition_eq_ok.1 hposition
  refine ⟨hsame, ⟨k, _, hlt, hvalue, rfl, hwell.scanned k _, rfl, hsame, ?_⟩, ?_⟩
  · exact (hwell.holds_grid hsame).scanned hsame hwell hlt (flags'.mode op')
  · exact fun h => op'.toNat_combine h

/-- The registry of all scan kernels of the host. -/
def hostScans : Registry ScanKernel := ((Registry.empty cpuRuntime).registerScans ⟨true⟩).1

/-- A running sum of 32-bit integers from the end, each without itself. -/
def laterSums : Invocation :=
  ((((Invocation.named "Cumsum").set operandTypeAttribute (.dtype .i32)).set indexTypeAttribute
    (.dtype .i64)).set reverseAttribute (.bool true)).set exclusiveAttribute (.bool true)

/-- The numbers from 1 to 12 in two blocks of three rows. -/
def laterSumsOperand : Tensor :=
  ⟨[2, 3, 2], .i32, bytesOfWords .i32 [1, 2, 3, 4, 5, 6, 7, 8, 9, 10, 11, 12]⟩

theorem laterSumsOperand_built : laterSumsOperand.Built :=
  Tensor.Built.of_words (by decide) (by decide)

/-- The sums of the later rows of each block: the axis `-2` is dimension 1. -/
theorem run_laterSums :
    (ScanKernel.run ⟨.sum, .i32, .i64, ⟨true, true⟩⟩ (ScanGraph.evaluate ⟨true⟩)
        [laterSumsOperand, Tensor.ofWord .i64 (-2)]).outcome =
        .ok [⟨[2, 3, 2], .i32, bytesOfWords .i32 [8, 10, 5, 6, 0, 0, 20, 22, 11, 12, 0, 0]⟩] ∧
      ∀ p, Shape.HasIndex [2, 3, 2] p →
        (⟨[2, 3, 2], .i32, bytesOfWords .i32 [8, 10, 5, 6, 0, 0, 20, 22, 11, 12, 0, 0]⟩ :
            Tensor).element? .i32 p =
          some (ScanMode.scanGrid ⟨.sum, .decreasing, true⟩ .i32 [2, 3, 2] 1
            (laterSumsOperand.grid .i32) p) := by
  have hregistry : (scanRegistry ⟨true⟩ cpuRuntime).outcome = .ok hostScans := rfl
  have hkernel : (hostScans.instantiate laterSums).outcome =
      .ok ⟨.sum, .i32, .i64, ⟨true, true⟩⟩ := by
    decide +kernel
  have hrun : (ScanKernel.run ⟨.sum, .i32, .i64, ⟨true, true⟩⟩ (ScanGraph.evaluate ⟨true⟩)
      [laterSumsOperand, Tensor.ofWord .i64 (-2)]).outcome =
      .ok [⟨[2, 3, 2], .i32, bytesOfWords .i32 [8, 10, 5, 6, 0, 0, 20, 22, 11, 12, 0, 0]⟩] := by
    decide +kernel
  have hindex : laterSums.dtype indexTypeAttribute = .ok IndexType.i64.dtype := rfl
  have hflags : laterSums.scanFlags = .ok ⟨true, true⟩ := rfl
  have hitem : (Tensor.ofWord .i64 (-2)).item IndexType.i64.dtype =
      .ok (-2 : Word IndexType.i64.dtype) := Tensor.item_ofWord .i64 (-2)
  obtain ⟨_, ⟨k, result, _, hk, hresult, _, _, _, helements⟩, _⟩ :=
    run_instantiate_holds hregistry hkernel (show laterSums.op = Accumulation.sum.name from rfl)
      rfl hindex hflags laterSumsOperand_built hitem hrun
  obtain rfl : k = 1 := by
    have hvalue : IndexType.i64.value (-2) = -2 := by decide
    rw [hvalue] at hk
    simpa [laterSumsOperand, Tensor.rank, Shape.rank] using hk
  obtain rfl := (List.singleton_inj.1 hresult).symm
  exact ⟨hrun, helements⟩

end TensorScan
