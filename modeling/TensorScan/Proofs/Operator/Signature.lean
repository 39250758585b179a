import Mathlib
import TensorScan.Operator.Signature

set_option autoImplicit false

/-! # The order of signatures

Signatures are compared by name, then by the numbers of their two types. Any two different ones are
comparable, because the numbers determine the types. So a set of signatures can be listed in
increasing order, and in one way only (`Signature.eq_of_increasing`).
-/

namespace TensorScan

namespace Signature

variable {a b : Signature}

/-- The strict order of signatures, spelled out. -/
theorem before_iff : a.before b = true ↔ a.op < b.op ∨ a.op = b.op ∧
    (a.dtype.code < b.dtype.code ∨
      a.dtype.code = b.dtype.code ∧ a.index.code < b.index.code) := by
  simp [before]

/-- What signatures are compared by. -/
def sortKey (s : Signature) : String ×ₗ Nat ×ₗ Nat :=
  toLex (s.op, toLex (s.dtype.code, s.index.code))

theorem before_iff_sortKey_lt : a.before b = true ↔ a.sortKey < b.sortKey := by
  simp only [before_iff, sortKey, Prod.Lex.toLex_lt_toLex]

theorem sortKey_injective (h : a.sortKey = b.sortKey) : a = b := by
  obtain ⟨op, d, i⟩ := a
  obtain ⟨op', d', i'⟩ := b
  simp only [sortKey, EmbeddingLike.apply_eq_iff_eq, Prod.mk.injEq] at h
  obtain ⟨rfl, hd, hi⟩ := h
  rw [DType.code_injective hd, DType.code_injective hi]

theorem not_before_iff : (!b.before a) = true ↔ a.sortKey ≤ b.sortKey := by
  rw [Bool.not_eq_true', Bool.eq_false_iff, Ne, before_iff_sortKey_lt, not_lt]

instance : Std.Irrefl fun a b : Signature => a.before b = true where
  irrefl a := by simp [not_before_self]

instance : Std.Antisymm fun a b : Signature => a.before b = true where
  antisymm a b hab hba := by
    rw [before_iff_sortKey_lt] at hab hba
    exact absurd hab hba.asymm

/-- Increasing lists with the same members are equal. -/
theorem eq_of_increasing {l l' : List Signature}
    (hl : l.Pairwise fun a b => a.before b = true) (hl' : l'.Pairwise fun a b => a.before b = true)
    (h : ∀ s, s ∈ l ↔ s ∈ l') : l = l' :=
  List.Pairwise.eq_of_mem_iff hl hl' h

/-- Signatures without a repetition are sorted into an increasing list. -/
theorem increasing_mergeSort {l : List Signature} (h : l.Nodup) :
    (l.mergeSort fun a b => !b.before a).Pairwise fun a b => a.before b = true := by
  have hsorted : (l.mergeSort fun a b => !b.before a).Pairwise fun a b => (!b.before a) = true := by
    apply List.pairwise_mergeSort
    · intro a b c hab hbc
      rw [not_before_iff] at hab hbc ⊢
      exact hab.trans hbc
    · intro a b
      rw [Bool.or_eq_true, not_before_iff, not_before_iff]
      exact le_total a.sortKey b.sortKey
  have hdistinct : (l.mergeSort fun a b => !b.before a).Nodup :=
    (List.mergeSort_perm l _).nodup_iff.2 h
  refine (hsorted.and hdistinct).imp ?_
  rintro a b ⟨hle, hne⟩
  rw [not_before_iff] at hle
  rw [before_iff_sortKey_lt]
  exact lt_of_le_of_ne hle fun heq => hne (sortKey_injective heq)

end Signature

end TensorScan
