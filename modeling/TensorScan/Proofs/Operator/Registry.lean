import Mathlib
import TensorScan.Operator.Registry

set_option autoImplicit false

/-! # Adding and looking up kernels

To add a list of factories comes down to where the list is cut (`Registry.registerAll_cases`). The
entries before the cut are appended to the registry as they are, which takes that their signatures
are free and different from each other (`Registry.Admits`), and the entry behind the cut, if there
is one, has a signature that is taken by then. `Registry.Gains` says what the entries before the cut
change for those who look factories up.

A kernel is made by the factory that is registered under the signature of the invocation
(`Registry.instantiate_eq_ok`).
-/

namespace TensorScan

variable {K : Type}

/-- An invocation has a signature exactly when both type attributes hold element types. -/
theorem Invocation.signature_eq_ok {call : Invocation} {sig : Signature} :
    call.signature = .ok sig ↔ sig.op = call.op ∧
      call.dtype operandTypeAttribute = .ok sig.dtype ∧
      call.dtype indexTypeAttribute = .ok sig.index := by
  obtain ⟨op, dtype, index⟩ := sig
  unfold signature
  cases call.dtype operandTypeAttribute with
  | error e => simp [bind, Except.bind]
  | ok d =>
      cases call.dtype indexTypeAttribute with
      | error e => simp [bind, Except.bind]
      | ok i => simp [bind, Except.bind, pure, Except.pure, eq_comm]

namespace Registry

variable {r : Registry K} {sig : Signature} {factory : Factory K}
  {entries : List (Signature × Factory K)}

/-! ## Longer registries -/

theorem factory?_empty (runtime : String) (sig : Signature) :
    (empty runtime : Registry K).factory? sig = none := rfl

/-- An entry of the registry comes before the appended ones. -/
theorem factory?_append (r : Registry K) (entries : List (Signature × Factory K))
    (sig : Signature) :
    (r.append entries).factory? sig = (r.factory? sig).or (entries.lookup sig) :=
  List.lookup_append

theorem contains_iff : r.contains sig = true ↔ sig ∈ r.entries.map Prod.fst := by
  rw [contains, factory?, List.lookup_isSome_iff, List.mem_map]
  constructor
  · rintro ⟨entry, hentry, hsig⟩
    exact ⟨entry, hentry, (eq_of_beq hsig).symm⟩
  · rintro ⟨entry, hentry, rfl⟩
    exact ⟨entry, hentry, beq_self_eq_true _⟩

theorem contains_append : (r.append entries).contains sig = true ↔
    r.contains sig = true ∨ sig ∈ entries.map Prod.fst := by
  rw [contains_iff, contains_iff, append, List.map_append, List.mem_append]

/-- A signature that is taken behind the appended entries, and that none of these has, was taken
before. -/
theorem contains_of_append {later : List (Signature × Factory K)}
    (hnodup : ((entries ++ (sig, factory) :: later).map Prod.fst).Nodup)
    (h : (r.append entries).contains sig = true) : r.contains sig = true := by
  rw [List.map_append, List.nodup_append] at hnodup
  rcases contains_append.1 h with htaken | hadded
  · exact htaken
  · exact absurd rfl (hnodup.2.2 sig hadded sig (by simp))

theorem contains_of_factory? (h : r.factory? sig = some factory) : r.contains sig = true := by
  rw [contains, h]
  rfl

/-- The entries can be appended as they are: their signatures are free and different from each
other. -/
structure Admits (r : Registry K) (entries : List (Signature × Factory K)) : Prop where
  free {sig : Signature} (h : sig ∈ entries.map Prod.fst) : r.contains sig = false
  nodup : (entries.map Prod.fst).Nodup

/-- Exactly the entries are new in the second registry: their signatures and no others were added,
each with its own factory, and every signature that was there has the factory that it had. -/
structure Gains (r next : Registry K) (entries : List (Signature × Factory K)) : Prop where
  contains_iff (sig : Signature) :
    next.contains sig = true ↔ r.contains sig = true ∨ sig ∈ entries.map Prod.fst
  kept {sig : Signature} {factory : Factory K} (h : r.factory? sig = some factory) :
    next.factory? sig = some factory
  added {sig : Signature} {factory : Factory K} (h : (sig, factory) ∈ entries) :
    next.factory? sig = some factory

theorem admits_nil (r : Registry K) : r.Admits [] where
  free h := by contradiction
  nodup := List.nodup_nil

/-- A free signature, and then entries that can be appended behind it. -/
theorem Admits.cons (hfree : r.contains sig = false)
    (h : (r.append [(sig, factory)]).Admits entries) : r.Admits ((sig, factory) :: entries) := by
  -- what is free behind the new entry was free before it, and is not its signature
  have hrest : ∀ other ∈ entries.map Prod.fst, r.contains other = false ∧ other ≠ sig := by
    intro other hother
    have hnot := h.free hother
    rw [← Bool.not_eq_true, contains_append, not_or, Bool.not_eq_true] at hnot
    exact ⟨hnot.1, fun heq => hnot.2 (by simp [heq])⟩
  refine ⟨fun hother => ?_, ?_⟩
  · rcases List.mem_cons.1 hother with rfl | hother
    · exact hfree
    · exact (hrest _ hother).1
  · exact List.nodup_cons.2 ⟨fun hsig => (hrest sig hsig).2 rfl, h.nodup⟩

theorem admits_singleton (h : r.contains sig = false) (factory : Factory K) :
    r.Admits [(sig, factory)] :=
  Admits.cons h (admits_nil _)

/-- A factory is found under its signature if this signature occurs only once. -/
theorem lookup_of_nodup (hnodup : (entries.map Prod.fst).Nodup) (h : (sig, factory) ∈ entries) :
    entries.lookup sig = some factory := by
  obtain ⟨before, after, rfl⟩ := List.append_of_mem h
  refine List.lookup_eq_some_iff.2 ⟨before, after, rfl, fun entry hentry => ?_⟩
  rw [List.map_append, List.nodup_append] at hnodup
  have hne := hnodup.2.2 _ (List.mem_map_of_mem hentry) sig (by simp)
  simpa using hne.symm

/-- Entries that the registry admits are gained when they are appended. -/
theorem Admits.gains (h : r.Admits entries) : Gains r (r.append entries) entries where
  contains_iff _ := contains_append
  kept hold := by rw [factory?_append, hold, Option.some_or]
  added {sig factory} hentry := by
    have hfree : r.factory? sig = none := by
      have hnot := h.free (List.mem_map_of_mem hentry)
      simpa [contains] using hnot
    rw [factory?_append, hfree, Option.none_or]
    exact lookup_of_nodup h.nodup hentry

/-! ## Adding factories -/

theorem register_of_contains (h : r.contains sig = true) (factory : Factory K) :
    (r.register sig factory).outcome = .error (.duplicateKernel sig) := by
  rw [register, add_of_contains h]
  rfl

theorem register_of_free (h : r.contains sig = false) (factory : Factory K) :
    (r.register sig factory).outcome = .ok (r.append [(sig, factory)]) := by
  rw [register, add_of_free h]
  rfl

/-- To add one factory is to add a list of one. -/
theorem registerAll_singleton (r : Registry K) (sig : Signature) (factory : Factory K) :
    r.registerAll [(sig, factory)] = r.add sig factory := by
  cases h : r.contains sig with
  | true =>
      rw [registerAll, add_of_contains h]
      rfl
  | false =>
      rw [registerAll, add_of_free h]
      rfl

theorem registerAll_cons_of_contains (h : r.contains sig = true) (factory : Factory K)
    (rest : List (Signature × Factory K)) :
    r.registerAll ((sig, factory) :: rest) = (r, Logged.fail (.duplicateKernel sig)) := by
  rw [registerAll, add_of_contains h]
  rfl

theorem registerAll_cons_of_free (h : r.contains sig = false) (factory : Factory K)
    (rest : List (Signature × Factory K)) :
    (r.registerAll ((sig, factory) :: rest)).1 =
        ((r.append [(sig, factory)]).registerAll rest).1 ∧
      (r.registerAll ((sig, factory) :: rest)).2.outcome =
        ((r.append [(sig, factory)]).registerAll rest).2.outcome := by
  rw [registerAll, add_of_free h]
  exact ⟨rfl, Logged.outcome_bind _ _⟩

/-- **What a list of registrations does.** It appends the entries before the first whose signature
is taken, by the registry or by an entry before it, and fails if there is such an entry. -/
theorem registerAll_cases (r : Registry K) (entries : List (Signature × Factory K)) :
    ∃ added rest, entries = added ++ rest ∧ r.Admits added ∧
      (r.registerAll entries).1 = r.append added ∧
      (rest = [] ∧ (r.registerAll entries).2.outcome = .ok () ∨
        ∃ entry later, rest = entry :: later ∧ (r.append added).contains entry.1 = true ∧
          (r.registerAll entries).2.outcome = .error (.duplicateKernel entry.1)) := by
  induction entries generalizing r with
  | nil => exact ⟨[], [], rfl, r.admits_nil, by simp [registerAll, append], Or.inl ⟨rfl, rfl⟩⟩
  | cons entry rest ih =>
      obtain ⟨sig, factory⟩ := entry
      cases htaken : r.contains sig with
      | true =>
          have hsame : r.append [] = r := by simp [append]
          rw [registerAll_cons_of_contains htaken]
          exact ⟨[], _, rfl, r.admits_nil, hsame.symm,
            Or.inr ⟨_, rest, rfl, hsame.symm ▸ htaken, rfl⟩⟩
      | false =>
          obtain ⟨hregistry, houtcome⟩ := registerAll_cons_of_free htaken factory rest
          obtain ⟨added, later, rfl, hadmits, hadded, hend⟩ := ih (r.append [(sig, factory)])
          have happend : (r.append [(sig, factory)]).append added =
              r.append ((sig, factory) :: added) := by simp [append]
          rw [happend] at hadded hend
          rw [hregistry, houtcome]
          exact ⟨(sig, factory) :: added, later, rfl, hadmits.cons htaken, hadded, hend⟩

/-- Entries that the registry admits are all added. -/
theorem Admits.registerAll (h : r.Admits entries) :
    (r.registerAll entries).1 = r.append entries ∧ (r.registerAll entries).2.outcome = .ok () := by
  obtain ⟨added, rest, rfl, _, hregistry, hend⟩ := r.registerAll_cases entries
  rcases hend with ⟨rfl, hok⟩ | ⟨entry, later, rfl, htaken, _⟩
  · rw [List.append_nil] at hregistry hok ⊢
    exact ⟨hregistry, hok⟩
  · -- the registry would have had the signature at the cut before
    have hfree : r.contains entry.1 = false := h.free (by simp)
    rw [contains_of_append h.nodup htaken] at hfree
    contradiction

/-! ## Making kernels -/

theorem outcome_instantiate (r : Registry K) (call : Invocation) :
    (r.instantiate call).outcome = call.signature >>= fun sig =>
      match r.factory? sig with
      | none => .error (.kernelNotFound sig)
      | some factory => factory call := by
  simp only [instantiate, Logged.outcome_bind, Logged.outcome_liftM]
  congr 1
  funext sig
  cases r.factory? sig <;> rfl

/-- A kernel is made by the factory registered under the signature that is asked for. -/
theorem instantiate_eq_ok {r : Registry K} {call : Invocation} {k : K} :
    (r.instantiate call).outcome = .ok k ↔ ∃ sig factory, call.signature = .ok sig ∧
      r.factory? sig = some factory ∧ factory call = .ok k := by
  rw [outcome_instantiate, bind_eq_ok]
  constructor
  · rintro ⟨sig, hsig, h⟩
    cases hfactory : r.factory? sig with
    | none => simp [hfactory] at h
    | some factory =>
        simp only [hfactory] at h
        exact ⟨sig, factory, hsig, hfactory, h⟩
  · rintro ⟨sig, factory, hsig, hfactory, h⟩
    refine ⟨sig, hsig, ?_⟩
    simpa only [hfactory] using h

end Registry

end TensorScan
