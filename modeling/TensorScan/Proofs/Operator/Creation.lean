import Mathlib
import TensorScan.Proofs.Operator.Catalogue
import TensorScan.Proofs.Operator.Registrations

set_option autoImplicit false

/-! # Creating scan kernels

What the registry of all scan kernels makes of an invocation depends on the operator and on four
attributes: the two types and the two flags. The types are read first and must name a signature that
the catalogue offers (`Signature.Offered`); then the flags are read. The factories check the types
once more, and these checks always pass: the factory that is found under a signature is made for the
operator and the type of axes in it (`Registry.factory?_scans`).

Attributes are set one after another, in any number. Of several values for one name the last counts
(`Invocation.get?_build`).
-/

namespace TensorScan

/-! ## Attributes that are set one after another -/

/-- An operator with attributes that are set in order. -/
def Invocation.build (op : String) (settings : List (String × AttributeValue)) : Invocation :=
  settings.foldl (fun call setting => call.set setting.1 setting.2) (named op)

/-- The value that is set last under a name. -/
def lastSet (settings : List (String × AttributeValue)) (name : String) : Option AttributeValue :=
  settings.reverse.lookup name

namespace Invocation

theorem build_concat (op : String) (settings : List (String × AttributeValue))
    (setting : String × AttributeValue) :
    build op (settings ++ [setting]) = (build op settings).set setting.1 setting.2 := by
  rw [build, List.foldl_append]
  rfl

@[simp] theorem op_build (op : String) (settings : List (String × AttributeValue)) :
    (build op settings).op = op := by
  induction settings using List.reverseRecOn with
  | nil => rfl
  | append_singleton settings setting ih => rw [build_concat, op_set, ih]

@[simp] theorem get?_build (op : String) (settings : List (String × AttributeValue))
    (name : String) : (build op settings).get? name = lastSet settings name := by
  induction settings using List.reverseRecOn with
  | nil => rfl
  | append_singleton settings setting ih =>
      rw [build_concat, get?_set, ih, lastSet, lastSet, List.reverse_append,
        List.reverse_singleton, List.singleton_append]
      exact (lookup_cons_eq_ite name setting.1 setting.2 settings.reverse).symm

/-! ## Reading attributes -/

section

variable {call : Invocation} {name : String}

theorem dtype_of_none (h : call.get? name = none) :
    call.dtype name = .error (.missingAttribute name) := by
  rw [dtype, h]

theorem dtype_of_bool {b : Bool} (h : call.get? name = some (.bool b)) :
    call.dtype name = .error (.invalidArgument name (.notDType (.bool b))) := by
  rw [dtype, h]

theorem dtype_of_dtype {d : DType} (h : call.get? name = some (.dtype d)) :
    call.dtype name = .ok d := by
  rw [dtype, h]

end

/-- To ask for a type in vain is a mistake of the caller. -/
theorem isInvalidArgument_of_dtype {call : Invocation} {name : String} {e : Error}
    (h : call.dtype name = .error e) : e.isInvalidArgument = true := by
  cases hvalue : call.get? name with
  | none =>
      rw [dtype_of_none hvalue] at h
      exact Except.error.inj h ▸ rfl
  | some value =>
      cases value with
      | bool b =>
          rw [dtype_of_bool hvalue] at h
          exact Except.error.inj h ▸ rfl
      | dtype d =>
          rw [dtype_of_dtype hvalue] at h
          contradiction

/-- The value of a flag. A flag that is not set is off. -/
def flag (call : Invocation) (name : String) : AttributeValue :=
  (call.get? name).getD (.bool false)

/-- The truth value that a flag `name` must have. -/
def flagOf (name : String) : AttributeValue → Except Error Bool
  | .bool b => .ok b
  | .dtype d => .error (.invalidArgument name (.notBool (.dtype d)))

theorem map_bool? (call : Invocation) (name : String) :
    (fun set => set.getD false) <$> call.bool? name = flagOf name (call.flag name) := by
  unfold bool? flag
  cases call.get? name with
  | none => rfl
  | some value => cases value <;> rfl

theorem scanFlags_eq (call : Invocation) :
    call.scanFlags = (do
      let reverse ← flagOf reverseAttribute (call.flag reverseAttribute)
      let exclusive ← flagOf exclusiveAttribute (call.flag exclusiveAttribute)
      pure ⟨reverse, exclusive⟩) := by
  rw [← map_bool?, ← map_bool?]
  simp only [scanFlags, bind_map_left]

section

variable {call : Invocation} {reverse exclusive : Bool} {d : DType}

theorem scanFlags_of_reverseFault (h : call.flag reverseAttribute = .dtype d) :
    call.scanFlags = .error (.invalidArgument reverseAttribute (.notBool (.dtype d))) := by
  rw [scanFlags_eq, h]
  rfl

theorem scanFlags_of_exclusiveFault (hreverse : call.flag reverseAttribute = .bool reverse)
    (h : call.flag exclusiveAttribute = .dtype d) :
    call.scanFlags = .error (.invalidArgument exclusiveAttribute (.notBool (.dtype d))) := by
  rw [scanFlags_eq, hreverse, h]
  rfl

theorem scanFlags_of_bool (hreverse : call.flag reverseAttribute = .bool reverse)
    (hexclusive : call.flag exclusiveAttribute = .bool exclusive) :
    call.scanFlags = .ok ⟨reverse, exclusive⟩ := by
  rw [scanFlags_eq, hreverse, hexclusive]
  rfl

end

/-- So is a flag that holds a type. -/
theorem isInvalidArgument_of_scanFlags {call : Invocation} {e : Error}
    (h : call.scanFlags = .error e) : e.isInvalidArgument = true := by
  cases hreverse : call.flag reverseAttribute with
  | dtype d =>
      rw [scanFlags_of_reverseFault hreverse] at h
      exact Except.error.inj h ▸ rfl
  | bool reverse =>
      cases hexclusive : call.flag exclusiveAttribute with
      | dtype d =>
          rw [scanFlags_of_exclusiveFault hreverse hexclusive] at h
          exact Except.error.inj h ▸ rfl
      | bool exclusive =>
          rw [scanFlags_of_bool hreverse hexclusive] at h
          contradiction

end Invocation

/-! ## What the catalogue offers -/

/-- Is there a scan kernel with this signature? -/
def Signature.Offered (features : Features) (sig : Signature) : Prop :=
  (sig.op = "Cumsum" ∨ sig.op = "Cumprod") ∧ DTypeSet.scannable.contains sig.dtype = true ∧
    (sig.dtype = .f16 → features.half = true) ∧ (sig.index = .i32 ∨ sig.index = .i64)

/-- An offered signature belongs to an operator and a type of axes. -/
theorem Signature.offered_iff {features : Features} {sig : Signature} :
    sig.Offered features ↔ ∃ op d index, features.supports d = true ∧
      sig = ⟨Accumulation.name op, d, IndexType.dtype index⟩ := by
  obtain ⟨name, d, i⟩ := sig
  constructor
  · rintro ⟨hop, -, hd, hi⟩
    obtain ⟨op, rfl⟩ : ∃ op, name = Accumulation.name op := by
      rcases hop with h | h
      · exact ⟨.sum, h⟩
      · exact ⟨.product, h⟩
    obtain ⟨index, rfl⟩ : ∃ index, i = IndexType.dtype index := by
      rcases hi with h | h
      · exact ⟨.i32, h⟩
      · exact ⟨.i64, h⟩
    exact ⟨op, d, index, by simpa [Features.supports_iff] using hd, rfl⟩
  · rintro ⟨op, d', index, hd, heq⟩
    obtain ⟨rfl, rfl, rfl⟩ := Signature.mk.inj heq
    refine ⟨?_, DTypeSet.contains_scannable d, by simpa [Features.supports_iff] using hd, ?_⟩
    · cases op with
      | sum => exact Or.inl rfl
      | product => exact Or.inr rfl
    · cases index with
      | i32 => exact Or.inl rfl
      | i64 => exact Or.inr rfl

/-- The registry of all scan kernels. -/
def Registry.scans (features : Features) (runtime : String) : Registry ScanKernel :=
  build runtime [.registerAll (scanEntries features)]

namespace Registry

variable {features : Features} {runtime : String} {sig : Signature}

theorem contains_scans : (scans features runtime).contains sig = true ↔ sig.Offered features := by
  rw [scans, contains_scanEntries, Signature.offered_iff, List.mem_map]
  constructor
  · rintro ⟨⟨sig, factory⟩, hentry, rfl⟩
    obtain ⟨op, d, index, hd, rfl, -⟩ := mem_scanEntries.1 hentry
    exact ⟨op, d, index, hd, rfl⟩
  · rintro ⟨op, d, index, hd, rfl⟩
    exact ⟨_, mem_scanEntries.2 ⟨op, d, index, hd, rfl, rfl⟩, rfl⟩

/-- A factory is registered under its own operator and its own type of axes. -/
theorem factory?_scans {op : Accumulation} {d : DType} {index : IndexType}
    (h : Signature.Offered features ⟨op.name, d, index.dtype⟩) :
    (scans features runtime).factory? ⟨op.name, d, index.dtype⟩ =
      some (ScanKernel.ofInvocation index op) := by
  obtain ⟨factory, hfactory⟩ := Option.isSome_iff_exists.1 (contains_scans.2 h)
  obtain ⟨op', d', index', -, heq, rfl⟩ := mem_scanEntries.1 (mem_scanEntries_of_factory? hfactory)
  obtain ⟨hop, -, hindex⟩ := Signature.mk.inj heq
  rw [hfactory, Accumulation.name_injective hop, IndexType.dtype_injective hindex]

end Registry

/-! ## The outcome -/

/-- A factory does not refuse the types that its signature has. -/
theorem ScanKernel.ofInvocation_of_dtype {call : Invocation} {d : DType} {index : IndexType}
    (hd : call.dtype operandTypeAttribute = .ok d)
    (hindex : call.dtype indexTypeAttribute = .ok index.dtype) (op : Accumulation) :
    ofInvocation index op call = (fun flags => ⟨op, d, index, flags⟩) <$> call.scanFlags := by
  simp only [ofInvocation, hd, hindex, bind, Except.bind, DTypeSet.contains_scannable, if_true]
  cases call.scanFlags <;> rfl

namespace Registry

variable {features : Features} {runtime : String} {call call' : Invocation} {d i : DType}
  {e : Error}

theorem outcome_of_operandFault {K : Type} {r : Registry K}
    (h : call.dtype operandTypeAttribute = .error e) : (r.instantiate call).outcome = .error e := by
  rw [outcome_instantiate, Invocation.signature, h]
  rfl

theorem outcome_of_indexFault {K : Type} {r : Registry K}
    (hd : call.dtype operandTypeAttribute = .ok d) (h : call.dtype indexTypeAttribute = .error e) :
    (r.instantiate call).outcome = .error e := by
  rw [outcome_instantiate, Invocation.signature, hd, h]
  rfl

theorem outcome_of_not_offered (runtime : String) (hd : call.dtype operandTypeAttribute = .ok d)
    (hi : call.dtype indexTypeAttribute = .ok i)
    (h : ¬ Signature.Offered features ⟨call.op, d, i⟩) :
    ((scans features runtime).instantiate call).outcome =
      .error (.kernelNotFound ⟨call.op, d, i⟩) := by
  have hsig : call.signature = .ok ⟨call.op, d, i⟩ := Invocation.signature_eq_ok.2 ⟨rfl, hd, hi⟩
  have hnone : (scans features runtime).factory? ⟨call.op, d, i⟩ = none := by
    rw [← @contains_scans features runtime, Registry.contains] at h
    simpa using h
  rw [outcome_instantiate, hsig]
  simp only [bind, Except.bind, hnone]

/-- Of an offered signature only the flags can be wrong. -/
theorem outcome_of_offered (runtime : String) (hd : call.dtype operandTypeAttribute = .ok d)
    (hi : call.dtype indexTypeAttribute = .ok i)
    (h : Signature.Offered features ⟨call.op, d, i⟩) :
    ∃ op index, call.op = Accumulation.name op ∧ i = IndexType.dtype index ∧
      ((scans features runtime).instantiate call).outcome =
        (fun flags => ⟨op, d, index, flags⟩) <$> call.scanFlags := by
  obtain ⟨op, d', index, -, heq⟩ := Signature.offered_iff.1 h
  obtain ⟨hop, rfl, rfl⟩ := Signature.mk.inj heq
  refine ⟨op, index, hop, rfl, ?_⟩
  have hsig : call.signature = .ok ⟨op.name, d, index.dtype⟩ :=
    Invocation.signature_eq_ok.2 ⟨hop.symm, hd, hi⟩
  rw [hop] at h
  rw [outcome_instantiate, hsig, ← ScanKernel.ofInvocation_of_dtype hd hi op]
  simp only [bind, Except.bind, factory?_scans h]

theorem outcome_of_flagsFault (hd : call.dtype operandTypeAttribute = .ok d)
    (hi : call.dtype indexTypeAttribute = .ok i)
    (h : Signature.Offered features ⟨call.op, d, i⟩) (hflags : call.scanFlags = .error e) :
    ((scans features runtime).instantiate call).outcome = .error e := by
  obtain ⟨op, index, -, -, houtcome⟩ := outcome_of_offered runtime hd hi h
  rw [houtcome, hflags]
  rfl

theorem outcome_of_flags {flags : ScanFlags} (runtime : String)
    (hd : call.dtype operandTypeAttribute = .ok d)
    (hi : call.dtype indexTypeAttribute = .ok i)
    (h : Signature.Offered features ⟨call.op, d, i⟩) (hflags : call.scanFlags = .ok flags) :
    ∃ k, ((scans features runtime).instantiate call).outcome = .ok k ∧ k.name = call.op ∧
      k.dtype = d ∧ k.index.dtype = i ∧ k.flags = flags := by
  obtain ⟨op, index, hop, rfl, houtcome⟩ := outcome_of_offered runtime hd hi h
  refine ⟨⟨op, d, index, flags⟩, ?_, hop.symm, rfl, rfl, rfl⟩
  rw [houtcome, hflags]
  rfl

/-- An invocation is refused for an attribute or for its signature, never by the checks that a
factory makes of the types. -/
theorem error_of_instantiate_scans
    (h : ((scans features runtime).instantiate call).outcome = .error e) :
    e.isInvalidArgument = true ∨ ∃ sig, e = .kernelNotFound sig := by
  cases hd : call.dtype operandTypeAttribute with
  | error fault =>
      rw [outcome_of_operandFault hd] at h
      obtain rfl := Except.error.inj h
      exact Or.inl (Invocation.isInvalidArgument_of_dtype hd)
  | ok d =>
      cases hi : call.dtype indexTypeAttribute with
      | error fault =>
          rw [outcome_of_indexFault hd hi] at h
          obtain rfl := Except.error.inj h
          exact Or.inl (Invocation.isInvalidArgument_of_dtype hi)
      | ok i =>
          by_cases hoffered : Signature.Offered features ⟨call.op, d, i⟩
          · cases hflags : call.scanFlags with
            | error fault =>
                rw [outcome_of_flagsFault hd hi hoffered hflags] at h
                obtain rfl := Except.error.inj h
                exact Or.inl (Invocation.isInvalidArgument_of_scanFlags hflags)
            | ok flags =>
                obtain ⟨k, hk, -⟩ := outcome_of_flags runtime hd hi hoffered hflags
                rw [hk] at h
                contradiction
          · rw [outcome_of_not_offered runtime hd hi hoffered] at h
            exact Or.inr ⟨_, (Except.error.inj h).symm⟩

/-- Two invocations that agree on the operator, the types and the flags are treated alike. -/
theorem instantiate_scans_congr (hop : call.op = call'.op)
    (hd : call.dtype operandTypeAttribute = call'.dtype operandTypeAttribute)
    (hi : call.dtype indexTypeAttribute = call'.dtype indexTypeAttribute)
    (hflags : call.scanFlags = call'.scanFlags) :
    (scans features runtime).instantiate call = (scans features runtime).instantiate call' := by
  have hsig : call.signature = call'.signature := by
    simp only [Invocation.signature, hop, hd, hi]
  unfold instantiate
  rw [hsig]
  congr 1
  funext sig
  cases hfactory : (scans features runtime).factory? sig with
  | none => rfl
  | some factory =>
      -- a factory reads nothing but these attributes
      obtain ⟨op, d, index, -, -, rfl⟩ := mem_scanEntries.1 (mem_scanEntries_of_factory? hfactory)
      have hmade :
          ScanKernel.ofInvocation index op call = ScanKernel.ofInvocation index op call' := by
        simp only [ScanKernel.ofInvocation, hd, hi, hflags]
      simp only [hmade]

/-- Of all settings only the last of each type and of each flag matter. -/
theorem instantiate_scans_build_congr (op : String)
    {settings settings' : List (String × AttributeValue)}
    (hT : lastSet settings operandTypeAttribute = lastSet settings' operandTypeAttribute)
    (hTidx : lastSet settings indexTypeAttribute = lastSet settings' indexTypeAttribute)
    (hreverse : (lastSet settings reverseAttribute).getD (.bool false) =
      (lastSet settings' reverseAttribute).getD (.bool false))
    (hexclusive : (lastSet settings exclusiveAttribute).getD (.bool false) =
      (lastSet settings' exclusiveAttribute).getD (.bool false)) :
    (scans features runtime).instantiate (.build op settings) =
      (scans features runtime).instantiate (.build op settings') := by
  apply instantiate_scans_congr
  · rw [Invocation.op_build, Invocation.op_build]
  · simp only [Invocation.dtype, Invocation.get?_build, hT]
  · simp only [Invocation.dtype, Invocation.get?_build, hTidx]
  · simp only [Invocation.scanFlags_eq, Invocation.flag, Invocation.get?_build, hreverse,
      hexclusive]

end Registry

/-- **Creation of scan kernels.** The registry of all scan kernels can be made, and what it makes of
an operator with attributes is the first of these that applies: the operand type is missing or is no
type, so is the type of the axis, the signature is not offered, a flag is no truth value; else it is
the kernel with this name, these types and these flags. It depends on the operator, on the last
values of the two types and on the flags, where a flag that is not set counts as off. -/
theorem instantiate_build_holds (features : Features) (runtime : String) :
    ∃ registry, (scanRegistry features runtime).outcome = .ok registry ∧
      (∀ (op : String) (settings : List (String × AttributeValue)),
        let value := lastSet settings
        let outcome := (registry.instantiate (Invocation.build op settings)).outcome
        (value "T" = none → outcome = .error (.missingAttribute "T")) ∧
        (∀ b, value "T" = some (.bool b) →
          outcome = .error (.invalidArgument "T" (.notDType (.bool b)))) ∧
        (∀ d, value "T" = some (.dtype d) →
          (value "Tidx" = none → outcome = .error (.missingAttribute "Tidx")) ∧
          (∀ b, value "Tidx" = some (.bool b) →
            outcome = .error (.invalidArgument "Tidx" (.notDType (.bool b)))) ∧
          ∀ i, value "Tidx" = some (.dtype i) →
            (¬ Signature.Offered features ⟨op, d, i⟩ →
              outcome = .error (.kernelNotFound ⟨op, d, i⟩)) ∧
            (Signature.Offered features ⟨op, d, i⟩ →
              (∀ d', value "reverse" = some (.dtype d') →
                outcome = .error (.invalidArgument "reverse" (.notBool (.dtype d')))) ∧
              ∀ reverse, (value "reverse").getD (.bool false) = .bool reverse →
                (∀ d', value "exclusive" = some (.dtype d') →
                  outcome = .error (.invalidArgument "exclusive" (.notBool (.dtype d')))) ∧
                ∀ exclusive, (value "exclusive").getD (.bool false) = .bool exclusive →
                  ∃ k, outcome = .ok k ∧ k.name = op ∧ k.dtype = d ∧ k.index.dtype = i ∧
                    k.flags = ⟨reverse, exclusive⟩)) ∧
        ∀ e, outcome = .error e → (∀ d operation, e ≠ .unsupportedDType d operation) ∧
          ∀ expected got, e ≠ .dtypeMismatch expected got) ∧
      ∀ (op : String) (settings settings' : List (String × AttributeValue)),
        lastSet settings "T" = lastSet settings' "T" →
        lastSet settings "Tidx" = lastSet settings' "Tidx" →
        (lastSet settings "reverse").getD (.bool false) =
          (lastSet settings' "reverse").getD (.bool false) →
        (lastSet settings "exclusive").getD (.bool false) =
          (lastSet settings' "exclusive").getD (.bool false) →
        registry.instantiate (Invocation.build op settings) =
            registry.instantiate (Invocation.build op settings') ∧
          ∀ k k', (registry.instantiate (Invocation.build op settings)).outcome = .ok k →
            (registry.instantiate (Invocation.build op settings')).outcome = .ok k' →
              ∀ client inputs, k.run client inputs = k'.run client inputs := by
  refine ⟨Registry.scans features runtime, Registry.outcome_scanRegistry features runtime, ?table,
    ?same⟩
  case table =>
    intro op settings value outcome
    have hop : (Invocation.build op settings).op = op := Invocation.op_build op settings
    have hvalue (name : String) : (Invocation.build op settings).get? name = value name :=
      Invocation.get?_build op settings name
    have hflag (name : String) : (Invocation.build op settings).flag name =
        (value name).getD (.bool false) := by
      rw [Invocation.flag, hvalue]
    refine ⟨?missing, ?untyped, ?typed, ?refused⟩
    case missing =>
      intro hT
      exact Registry.outcome_of_operandFault (Invocation.dtype_of_none ((hvalue "T").trans hT))
    case untyped =>
      intro b hT
      exact Registry.outcome_of_operandFault (Invocation.dtype_of_bool ((hvalue "T").trans hT))
    case typed =>
      intro d hT
      have hd := Invocation.dtype_of_dtype ((hvalue "T").trans hT)
      refine ⟨fun hTidx => ?_, fun b hTidx => ?_, fun i hTidx => ?_⟩
      · exact Registry.outcome_of_indexFault hd
          (Invocation.dtype_of_none ((hvalue "Tidx").trans hTidx))
      · exact Registry.outcome_of_indexFault hd
          (Invocation.dtype_of_bool ((hvalue "Tidx").trans hTidx))
      · have hi := Invocation.dtype_of_dtype ((hvalue "Tidx").trans hTidx)
        -- the signature that is asked for has the name of the operator
        rw [← hop]
        refine ⟨Registry.outcome_of_not_offered runtime hd hi, fun hoffered => ?_⟩
        refine ⟨fun d' hreverse => ?_, fun reverse hreverse =>
          ⟨fun d' hexclusive => ?_, fun exclusive hexclusive => ?_⟩⟩
        · have hreverse' := (hflag "reverse").trans (by rw [hreverse, Option.getD_some])
          exact Registry.outcome_of_flagsFault hd hi hoffered
            (Invocation.scanFlags_of_reverseFault hreverse')
        · have hexclusive' := (hflag "exclusive").trans (by rw [hexclusive, Option.getD_some])
          exact Registry.outcome_of_flagsFault hd hi hoffered
            (Invocation.scanFlags_of_exclusiveFault ((hflag "reverse").trans hreverse) hexclusive')
        · exact Registry.outcome_of_flags runtime hd hi hoffered
            (Invocation.scanFlags_of_bool ((hflag "reverse").trans hreverse)
              ((hflag "exclusive").trans hexclusive))
    case refused =>
      intro e he
      rcases Registry.error_of_instantiate_scans he with hargument | ⟨sig, rfl⟩
      · refine ⟨?_, ?_⟩
        all_goals
          rintro _ _ rfl
          contradiction
      · exact ⟨nofun, nofun⟩
  case same =>
    intro op settings settings' hT hTidx hreverse hexclusive
    have hsame : (Registry.scans features runtime).instantiate (.build op settings) =
        (Registry.scans features runtime).instantiate (.build op settings') :=
      Registry.instantiate_scans_build_congr op hT hTidx hreverse hexclusive
    refine ⟨hsame, fun k k' hk hk' client inputs => ?_⟩
    rw [hsame, hk'] at hk
    rw [Except.ok.inj hk]

end TensorScan
