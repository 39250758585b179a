import Mathlib
import TensorScan.Proofs.Operator.Registrations

set_option autoImplicit false

/-! # Registering all scan kernels

The scan kernels are registered by one call, which goes through the catalogue in order and stops at
the first signature that is taken. The registry may hold anything when the call is made: kernels of
other operators, some scan kernels under the factories of someone else, or all of them.

What the call leaves behind is told by where the catalogue is cut (`Registry.registerAll_cases`).
Its signatures are different from each other, so the cut is at the first one that the registry had
before (`Registry.registerAll_gains`). The entries before the cut are registered, the one behind it
is named in the error, and those after this one are not looked at. In any case the first signature
of the catalogue is taken from then on, so the call can succeed at most once in the life of a
registry (`Registry.registerScans_gains`).
-/

namespace TensorScan

/-- The signatures of the scan kernels in the order of the catalogue: running sums, then running
products; for each the element types, half precision among them if it is on; and for each of these
axes of 64 bits, then of 32. -/
def scanSignatures (features : Features) : List Signature :=
  ["Cumsum", "Cumprod"].flatMap fun op =>
    (if features.half then [.f32, .f16, .i64, .i32] else [.f32, .i64, .i32]).flatMap fun d =>
      [⟨op, d, .i64⟩, ⟨op, d, .i32⟩]

theorem map_fst_scanEntries (features : Features) :
    (scanEntries features).map Prod.fst = scanSignatures features := by
  obtain ⟨half⟩ := features
  cases half <;> rfl

namespace Registry

variable {K : Type} {r : Registry K} {entries : List (Signature × Factory K)}

/-! ## Lists without repetition -/

/-- **What a list of registrations comes to.** If its signatures are different from each other, it
succeeds exactly when they all are free, and everything in it is gained. If it fails, then at the
first taken signature, and what stands before this one is gained. -/
theorem registerAll_gains (r : Registry K) (hnodup : (entries.map Prod.fst).Nodup) :
    ((r.registerAll entries).2.outcome = .ok () ↔
        ∀ entry ∈ entries, r.contains entry.1 = false) ∧
      ((r.registerAll entries).2.outcome = .ok () →
        Gains r (r.registerAll entries).1 entries) ∧
      ∀ e, (r.registerAll entries).2.outcome = .error e →
        ∃ before entry after, entries = before ++ entry :: after ∧
          (∀ other ∈ before, r.contains other.1 = false) ∧ r.contains entry.1 = true ∧
          e = .duplicateKernel entry.1 ∧ Gains r (r.registerAll entries).1 before := by
  obtain ⟨added, rest, rfl, hadmits, hregistry, hend⟩ := r.registerAll_cases entries
  have hfree : ∀ entry ∈ added, r.contains entry.1 = false :=
    fun entry hentry => hadmits.free (List.mem_map_of_mem hentry)
  rcases hend with ⟨rfl, hok⟩ | ⟨entry, later, rfl, htaken, herror⟩
  · rw [List.append_nil] at hregistry hok ⊢
    rw [hregistry, hok]
    refine ⟨⟨fun _ => hfree, fun _ => rfl⟩, fun _ => hadmits.gains, ?_⟩
    intro e he
    contradiction
  · -- the signature at the cut is none of those before it, so the registry had it before
    have htaken : r.contains entry.1 = true := contains_of_append hnodup htaken
    rw [hregistry, herror]
    refine ⟨⟨fun hok => ?_, fun hall => ?_⟩, fun hok => ?_, fun e he => ?_⟩
    · contradiction
    · rw [hall entry (by simp)] at htaken
      contradiction
    · contradiction
    · exact ⟨added, entry, later, rfl, hfree, htaken, (Except.error.inj he).symm, hadmits.gains⟩

/-! ## A list that was registered before -/

/-- After a list was registered, successfully or not, its first signature is taken. -/
theorem contains_registerAll_cons (r : Registry K) (sig : Signature) (factory : Factory K)
    (rest : List (Signature × Factory K)) :
    (r.registerAll ((sig, factory) :: rest)).1.contains sig = true := by
  cases htaken : r.contains sig with
  | true =>
      rw [registerAll_cons_of_contains htaken]
      exact htaken
  | false =>
      -- it is added, and what follows is appended behind it
      obtain ⟨added, _, _, _, hregistry, _⟩ := (r.append [(sig, factory)]).registerAll_cases rest
      rw [(registerAll_cons_of_free htaken factory rest).1, hregistry, contains_append]
      exact Or.inl (contains_append.2 (Or.inr (by simp)))

/-- Registered once more, after any other calls, the list stops at its first signature and changes
nothing. -/
theorem registerAll_again (r : Registry K) (sig : Signature) (factory : Factory K)
    (rest : List (Signature × Factory K)) (calls : List (RegistryCall K)) :
    let later := calls.foldl after (r.registerAll ((sig, factory) :: rest)).1
    later.registerAll ((sig, factory) :: rest) = (later, Logged.fail (.duplicateKernel sig)) := by
  intro later
  obtain ⟨held, hheld⟩ := Option.isSome_iff_exists.1 (r.contains_registerAll_cons sig factory rest)
  have htaken : later.contains sig = true := contains_of_factory? (factory?_foldl_after hheld calls)
  exact registerAll_cons_of_contains htaken factory rest

/-! ## The catalogue -/

/-- **Registering all scan kernels**, whatever the registry holds. The call succeeds exactly when no
signature of the catalogue is taken, and then the registry gains the catalogue. Otherwise the error
names the first signature of the catalogue that is taken, and the registry gains what stands before
it. No other error is possible. After the call, and whatever is called in between, a further one
meets the first signature of the catalogue and changes nothing. -/
theorem registerScans_gains (r : Registry ScanKernel) (features : Features) :
    (scanEntries features).map Prod.fst = scanSignatures features ∧
      ((r.registerScans features).2.outcome = .ok () ↔
        ∀ sig ∈ scanSignatures features, r.contains sig = false) ∧
      ((r.registerScans features).2.outcome = .ok () →
        Gains r (r.registerScans features).1 (scanEntries features)) ∧
      (∀ e, (r.registerScans features).2.outcome = .error e →
        ∃ before entry after, scanEntries features = before ++ entry :: after ∧
          (∀ other ∈ before, r.contains other.1 = false) ∧ r.contains entry.1 = true ∧
          e = .duplicateKernel entry.1 ∧ Gains r (r.registerScans features).1 before) ∧
      ∀ calls : List (RegistryCall ScanKernel),
        let later := calls.foldl after (r.registerScans features).1
        (later.registerScans features).1 = later ∧
          (later.registerScans features).2.outcome =
            .error (.duplicateKernel ⟨"Cumsum", .f32, .i64⟩) := by
  obtain ⟨hok, hgains, herror⟩ := r.registerAll_gains (nodup_scanEntries features)
  refine ⟨map_fst_scanEntries features, ?_, hgains, herror, fun calls => ?_⟩
  · rw [← map_fst_scanEntries, List.forall_mem_map]
    exact hok
  · -- the catalogue starts with the sums of single precision along an axis of 64 bits
    obtain ⟨factory, rest, hcatalogue⟩ : ∃ factory rest,
        scanEntries features = (⟨"Cumsum", .f32, .i64⟩, factory) :: rest := ⟨_, _, rfl⟩
    intro later
    have hagain : later.registerScans features =
        (later, Logged.fail (.duplicateKernel ⟨"Cumsum", .f32, .i64⟩)) := by
      simp only [later, registerScans, hcatalogue]
      exact r.registerAll_again _ factory rest calls
    rw [hagain]
    exact ⟨rfl, rfl⟩

/-- A factory that makes nothing. -/
def refusingFactory : Factory ScanKernel :=
  fun call => .error (.invalidArgument "op" (.stated call.op))

/-- A registry in which someone else performs running sums of 64-bit integers. -/
def occupiedRegistry : Registry ScanKernel :=
  ⟨cpuRuntime, [(⟨"Cumsum", .i64, .i64⟩, refusingFactory)]⟩

/-- The floats, which come before, are registered; the 64-bit integers keep their factory along axes
of 64 bits and get none along axes of 32, and nothing changes when it is tried again. -/
theorem registerScans_occupiedRegistry :
    let next := (occupiedRegistry.registerScans ⟨true⟩).1
    (occupiedRegistry.registerScans ⟨true⟩).2.outcome =
        .error (.duplicateKernel ⟨"Cumsum", .i64, .i64⟩) ∧
      next.factory? ⟨"Cumsum", .i64, .i64⟩ = some refusingFactory ∧
      next.contains ⟨"Cumsum", .f16, .i32⟩ = true ∧
      next.contains ⟨"Cumsum", .i64, .i32⟩ = false ∧
      (next.registerScans ⟨true⟩).1 = next ∧
      (next.registerScans ⟨true⟩).2.outcome = .error (.duplicateKernel ⟨"Cumsum", .f32, .i64⟩) := by
  intro next
  have hfailed : (occupiedRegistry.registerScans ⟨true⟩).2.outcome =
      .error (.duplicateKernel ⟨"Cumsum", .i64, .i64⟩) := by
    decide +kernel
  obtain ⟨_, _, _, herror, hlater⟩ := occupiedRegistry.registerScans_gains ⟨true⟩
  obtain ⟨before, entry, after, _, _, _, _, hgains⟩ := herror _ hfailed
  obtain ⟨hsame, hagain⟩ := hlater []
  have hkept : next.factory? ⟨"Cumsum", .i64, .i64⟩ = some refusingFactory := hgains.kept rfl
  exact ⟨hfailed, hkept, by decide +kernel, by decide +kernel, hsame, hagain⟩

end Registry

end TensorScan
