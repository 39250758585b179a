import Mathlib
import TensorScan.Operator.Catalogue
import TensorScan.Proofs.Operator.Registry
import TensorScan.Proofs.Operator.Signature

set_option autoImplicit false

/-! # Runs of registrations

A registry is filled by calls, of which some register a single factory and others a list of
factories. A call that meets a signature which is taken ends there: what it registered before stays,
and nothing that is registered is ever replaced or removed. `Registry.build` makes a sequence of
such calls to the empty registry, every call to the registry that the one before it has left; the
registry of all scan kernels is what a single call makes of it (`Registry.outcome_scanRegistry`).

All that a call does is to append entries that the registry admits (`Registry.perform_cases`), so
what this keeps is kept by every run (`Registry.foldl_after_invariant`). Two things follow. No
signature is registered twice: the size of a registry is the number of signatures that it contains,
and their list is strictly sorted. And the factory under a signature is the one that came with the
first call which had it (`Registry.exists_first_of_factory?`).
-/

namespace TensorScan

/-- A call that registers one factory, or several in order up to the first whose signature is
taken. -/
inductive RegistryCall (K : Type)
  | register (sig : Signature) (factory : Factory K)
  | registerAll (entries : List (Signature × Factory K))

/-- What a call has to register, in order. -/
def RegistryCall.entries {K : Type} : RegistryCall K → List (Signature × Factory K)
  | .register sig factory => [(sig, factory)]
  | .registerAll entries => entries

namespace Registry

variable {K : Type} {r : Registry K} {sig : Signature} {factory : Factory K}

/-- The registry that a call leaves, and how the call ends. -/
def perform (r : Registry K) : RegistryCall K → Registry K × Logged Unit
  | .register sig factory => r.add sig factory
  | .registerAll entries => r.registerAll entries

/-- The registry after a call. -/
def after (r : Registry K) (call : RegistryCall K) : Registry K := (r.perform call).1

/-- The registry after a sequence of calls. -/
def build (runtime : String) (calls : List (RegistryCall K)) : Registry K :=
  calls.foldl after (empty runtime)

/-! ## What a call does -/

theorem perform_eq (r : Registry K) (call : RegistryCall K) :
    r.perform call = r.registerAll call.entries := by
  cases call with
  | register sig factory => exact (r.registerAll_singleton sig factory).symm
  | registerAll entries => rfl

/-- **What a call does.** It appends its entries up to the first whose signature is taken by then,
and fails if there is such an entry. -/
theorem perform_cases (r : Registry K) (call : RegistryCall K) :
    ∃ added rest, call.entries = added ++ rest ∧ r.Admits added ∧ r.after call = r.append added ∧
      (rest = [] ∧ (r.perform call).2.outcome = .ok () ∨
        ∃ entry later, rest = entry :: later ∧ (r.append added).contains entry.1 = true ∧
          (r.perform call).2.outcome = .error (.duplicateKernel entry.1)) := by
  rw [after, perform_eq]
  exact r.registerAll_cases call.entries

/-- What is kept when entries are appended that the registry admits, calls keep. -/
theorem foldl_after_invariant {P : Registry K → Prop}
    (hstep : ∀ {r : Registry K} {entries}, r.Admits entries → P r → P (r.append entries)) (hr : P r)
    (calls : List (RegistryCall K)) : P (calls.foldl after r) := by
  refine List.foldlRecOn calls after hr fun r hr call _ => ?_
  obtain ⟨added, _, _, hadmits, hafter, _⟩ := r.perform_cases call
  rw [hafter]
  exact hstep hadmits hr

/-! ## No signature is registered twice -/

/-- The signatures of a registry are different from each other. -/
def Distinct (r : Registry K) : Prop := (r.entries.map Prod.fst).Nodup

theorem Distinct.append (h : r.Distinct) {entries : List (Signature × Factory K)}
    (hadmits : r.Admits entries) : (r.append entries).Distinct := by
  show ((r.entries ++ entries).map Prod.fst).Nodup
  rw [List.map_append, List.nodup_append]
  refine ⟨h, hadmits.nodup, fun sig hsig other hother => ?_⟩
  rintro rfl
  have htaken := contains_iff.2 hsig
  rw [hadmits.free hother] at htaken
  contradiction

theorem distinct_empty (runtime : String) : (empty runtime : Registry K).Distinct :=
  List.nodup_nil

theorem distinct_build (runtime : String) (calls : List (RegistryCall K)) :
    (build runtime calls).Distinct :=
  foldl_after_invariant (P := Distinct) (fun hadmits h => h.append hadmits) (distinct_empty runtime)
    calls

/-- The size of a registry is the number of signatures that it contains. -/
theorem Distinct.encard_contains (h : r.Distinct) :
    Set.encard {sig | r.contains sig = true} = r.size := by
  have hset : {sig | r.contains sig = true} =
      ((r.entries.map Prod.fst).toFinset : Set Signature) := by
    ext sig
    simp only [Set.mem_ofPred_eq, contains_iff, List.coe_toFinset]
  rw [hset, Set.encard_coe_eq_coe_finsetCard, List.toFinset_card_of_nodup h, List.length_map, size]

theorem isEmpty_iff_size : r.isEmpty = true ↔ r.size = 0 := by
  rw [isEmpty, size, List.isEmpty_iff, List.length_eq_zero_iff]

/-- The list of a registry has exactly the signatures that the registry contains. -/
theorem mem_signatures : sig ∈ r.signatures ↔ r.contains sig = true := by
  rw [signatures, List.mem_mergeSort, contains_iff]

/-- The list of a registry is strictly increasing. -/
theorem Distinct.increasing_signatures (h : r.Distinct) :
    r.signatures.Pairwise fun a b => a.before b = true :=
  Signature.increasing_mergeSort h

/-! ## The first registration counts -/

/-- A factory that is registered stays. -/
theorem factory?_foldl_after (h : r.factory? sig = some factory) (calls : List (RegistryCall K)) :
    (calls.foldl after r).factory? sig = some factory :=
  foldl_after_invariant (P := fun r => r.factory? sig = some factory)
    (fun hadmits hr => hadmits.gains.kept hr) h calls

/-- What a call registers is the first entry of the call with this signature. -/
theorem lookup_of_factory?_after {call : RegistryCall K} (hfree : r.factory? sig = none)
    (h : (r.after call).factory? sig = some factory) : call.entries.lookup sig = some factory := by
  obtain ⟨added, rest, hentries, _, hafter, _⟩ := r.perform_cases call
  rw [hafter, factory?_append, hfree, Option.none_or] at h
  rw [hentries, List.lookup_append, h, Option.some_or]

/-- **The first registration counts.** If a run ends with a factory under a signature that was free,
then one of its calls came when the signature was still free and registered this factory, and the
later calls kept it. -/
theorem exists_first_of_factory? {calls : List (RegistryCall K)} (hfree : r.factory? sig = none)
    (h : (calls.foldl after r).factory? sig = some factory) :
    ∃ earlier call later, calls = earlier ++ call :: later ∧
      (earlier.foldl after r).factory? sig = none ∧
      call.entries.lookup sig = some factory ∧
      ((earlier.foldl after r).after call).factory? sig = some factory := by
  induction calls generalizing r with
  | nil =>
      rw [List.foldl_nil, hfree] at h
      contradiction
  | cons call rest ih =>
      rw [List.foldl_cons] at h
      cases hcall : (r.after call).factory? sig with
      | none =>
          obtain ⟨earlier, found, later, rfl, hbefore, hlookup, hafter⟩ := ih hcall h
          exact ⟨call :: earlier, found, later, rfl, hbefore, hlookup, hafter⟩
      | some held =>
          have hkept := factory?_foldl_after hcall rest
          obtain rfl : held = factory := Option.some.inj (hkept.symm.trans h)
          exact ⟨[], call, rest, rfl, hfree, lookup_of_factory?_after hfree hcall, hcall⟩

/-! ## The registry of all scan kernels -/

theorem nodup_scanEntries (features : Features) :
    ((scanEntries features).map Prod.fst).Nodup := by
  obtain ⟨half⟩ := features
  cases half <;> decide +kernel

/-- The empty registry admits the catalogue. -/
theorem admits_scanEntries (features : Features) (runtime : String) :
    (empty runtime).Admits (scanEntries features) where
  free _ := rfl
  nodup := nodup_scanEntries features

/-- The registry of all scan kernels can always be made, by a single call. -/
theorem outcome_scanRegistry (features : Features) (runtime : String) :
    (scanRegistry features runtime).outcome =
      .ok (build runtime [.registerAll (scanEntries features)]) := by
  have hdone := (admits_scanEntries features runtime).registerAll.2
  simp only [scanRegistry, registerScans, Logged.outcome_bind, hdone]
  rfl

/-- The registry of all scan kernels holds the catalogue. -/
theorem build_scanEntries (features : Features) (runtime : String) :
    build runtime [.registerAll (scanEntries features)] = ⟨runtime, scanEntries features⟩ :=
  (admits_scanEntries features runtime).registerAll.1

theorem mem_scanEntries_of_factory? {features : Features} {runtime : String}
    {factory : Factory ScanKernel}
    (h : (build runtime [.registerAll (scanEntries features)]).factory? sig = some factory) :
    (sig, factory) ∈ scanEntries features := by
  rw [build_scanEntries] at h
  obtain ⟨before, after, hentries, _⟩ := List.lookup_eq_some_iff.1 h
  rw [show scanEntries features = _ from hentries]
  simp

theorem contains_scanEntries {features : Features} {runtime : String} :
    (build runtime [.registerAll (scanEntries features)]).contains sig = true ↔
      sig ∈ (scanEntries features).map Prod.fst := by
  rw [build_scanEntries]
  exact contains_iff

/-! ## What a run says about its registry -/

/-- **Registries, over whole runs.** To register all scan kernels is a call, and the registry of all
scan kernels, which contains the signatures of the catalogue, is what this call makes of the empty
one. After any sequence of calls, to register a factory under a signature that is taken fails and
changes nothing, and to register it under a free one adds this signature only. Any call, of one
factory or of a list, gains its entries up to the first whose signature is taken by then, and fails
if there is such an entry. The size is the number of the signatures that the registry contains.
Their list is strictly increasing, so it does not depend on the order of the calls. A kernel is made
by the factory that came with the first call which found its signature free and registered it. -/
theorem build_holds (runtime : String) :
    (∀ features, (scanRegistry features runtime).outcome =
        .ok (build runtime [.registerAll (scanEntries features)]) ∧
      (∀ sig, (build runtime [.registerAll (scanEntries features)]).contains sig = true ↔
        sig ∈ (scanEntries features).map Prod.fst) ∧
      ∀ r : Registry ScanKernel,
        r.perform (.registerAll (scanEntries features)) = r.registerScans features) ∧
    ∀ (K : Type) (calls : List (RegistryCall K)),
      let r := build runtime calls
      (∀ sig factory, r.contains sig = true →
        (r.register sig factory).outcome = .error (.duplicateKernel sig) ∧
          r.after (.register sig factory) = r) ∧
      (∀ sig factory, r.contains sig = false →
        let next := r.after (.register sig factory)
        (r.register sig factory).outcome = .ok next ∧
          next.contains sig = true ∧ next.factory? sig = some factory ∧
          ∀ other, other ≠ sig → next.contains other = r.contains other ∧
            next.factory? other = r.factory? other) ∧
      (∀ call, ∃ added rest, call.entries = added ++ rest ∧
        (∀ entry ∈ added, r.contains entry.1 = false) ∧ Gains r (r.after call) added ∧
        (rest = [] ∧ (r.perform call).2.outcome = .ok () ∨
          ∃ entry later, rest = entry :: later ∧ (r.after call).contains entry.1 = true ∧
            (r.perform call).2.outcome = .error (.duplicateKernel entry.1))) ∧
      Set.encard {sig | r.contains sig = true} = r.size ∧
      (r.isEmpty = true ↔ r.size = 0) ∧
      (∀ sig, sig ∈ r.signatures ↔ r.contains sig = true) ∧
      r.signatures.Pairwise (fun a b => a.op < b.op ∨ a.op = b.op ∧
        (a.dtype.code < b.dtype.code ∨
          a.dtype.code = b.dtype.code ∧ a.index.code < b.index.code)) ∧
      (∀ calls' : List (RegistryCall K),
        (∀ sig, (build runtime calls').contains sig = r.contains sig) →
          (build runtime calls').signatures = r.signatures) ∧
      ∀ invocation sig, invocation.signature = .ok sig → r.contains sig = true →
        ∃ earlier call later factory, calls = earlier ++ call :: later ∧
          (build runtime earlier).contains sig = false ∧
          call.entries.lookup sig = some factory ∧
          ((build runtime earlier).after call).factory? sig = some factory ∧
          (r.instantiate invocation).outcome = factory invocation := by
  refine ⟨fun features => ⟨outcome_scanRegistry features runtime, fun _ => contains_scanEntries,
    fun _ => rfl⟩, fun K calls => ?_⟩
  have hdistinct := distinct_build runtime calls
  refine ⟨?taken, ?free, ?call, hdistinct.encard_contains, isEmpty_iff_size,
    fun _ => mem_signatures, ?increasing, ?order, ?first⟩
  case taken =>
    intro sig factory h
    refine ⟨register_of_contains h factory, ?_⟩
    rw [after, perform, add_of_contains h]
  case free =>
    intro sig factory h
    have hnext : (build runtime calls).after (.register sig factory) =
        (build runtime calls).append [(sig, factory)] := by
      rw [after, perform, add_of_free h]
    have hadded := (admits_singleton h factory).gains.added List.mem_cons_self
    rw [hnext]
    refine ⟨register_of_free h factory, contains_of_factory? hadded, hadded, fun other hne => ?_⟩
    have hsame : ((build runtime calls).append [(sig, factory)]).factory? other =
        (build runtime calls).factory? other := by
      rw [factory?_append, List.lookup_cons, beq_false_of_ne hne]
      exact Option.or_none
    exact ⟨by rw [contains, hsame, contains], hsame⟩
  case call =>
    intro call
    obtain ⟨added, rest, hentries, hadmits, hafter, hend⟩ :=
      (build runtime calls).perform_cases call
    rw [hafter]
    exact ⟨added, rest, hentries, fun entry hentry => hadmits.free (List.mem_map_of_mem hentry),
      hadmits.gains, hend⟩
  case increasing =>
    simpa only [Signature.before_iff] using hdistinct.increasing_signatures
  case order =>
    intro calls' h
    refine Signature.eq_of_increasing (distinct_build runtime calls').increasing_signatures
      hdistinct.increasing_signatures fun sig => ?_
    rw [mem_signatures, mem_signatures, h]
  case first =>
    intro invocation sig hsig hcontains
    obtain ⟨factory, hfactory⟩ := Option.isSome_iff_exists.1 hcontains
    obtain ⟨earlier, call, later, hcalls, hbefore, hlookup, hafter⟩ :=
      exists_first_of_factory? (factory?_empty runtime sig) hfactory
    refine ⟨earlier, call, later, factory, hcalls, ?_, hlookup, hafter, ?_⟩
    · rw [contains, build, hbefore, Option.isSome_none]
    · rw [outcome_instantiate, hsig]
      simp only [bind, Except.bind, hfactory]

end Registry

end TensorScan
