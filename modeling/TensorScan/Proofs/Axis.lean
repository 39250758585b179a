import Mathlib
import TensorScan.Axis

set_option autoImplicit false

/-! # Which dimension an axis names

`axisPosition` resolves a signed axis among the dimensions of a tensor. Two things are said of it.

* Which axes name a dimension, and which dimension they name (`axisPosition_eq_ok`,
  `axisPosition_eq`). Every dimension is named by two axes, one that counts from the first dimension
  and one that counts from the last (`axisPosition_eq_ok_iff_eq_or_eq`).
* That 64 bits are enough. `axisPosition` computes with integers, but a rank is a word without a
  sign and an axis a word with one, and neither kind holds all numbers of the other. `wordPosition`
  goes through the same steps in words: the rank is converted before the axis is added to it, and
  the position is converted back. It agrees with `axisPosition` on all words, and its sum never
  overflows (`wordPosition_eq`), not even for the least axis or next to the largest rank.
-/

namespace TensorScan

/-! ## In integers -/

/-- The position of the dimension that `v` names among `rank` dimensions, if there is one: below
zero it counts from the last. -/
def resolvedAxis (rank : Nat) (v : Int) : Nat := (if v < 0 then rank + v else v).toNat

theorem axisPosition_eq_ok {rank position : Nat} {v : Int} :
    axisPosition rank v = .ok position ↔ rank ≤ maxAxis ∧ position < rank ∧
      (position : Int) = if v < 0 then rank + v else v := by
  simp only [axisPosition]
  generalize (if v < 0 then (rank : Int) + v else v) = named
  constructor
  · intro h
    split at h
    · rename_i hrange
      obtain ⟨hrank, hnonneg, hlt⟩ := hrange
      obtain rfl := Except.ok.inj h
      omega
    · contradiction
  · rintro ⟨hrank, hlt, rfl⟩
    rw [if_pos ⟨hrank, by omega, by omega⟩, Int.toNat_natCast]

/-- The axes from `-rank` up to `rank - 1` name a dimension, if they can be counted. -/
theorem axisPosition_eq_ite (rank : Nat) (v : Int) :
    axisPosition rank v =
      if rank ≤ maxAxis ∧ -(rank : Int) ≤ v ∧ v < rank then .ok (resolvedAxis rank v)
      else .error (.axisOutOfRange v rank) := by
  unfold axisPosition resolvedAxis
  refine if_congr (and_congr_right fun _ => ?_) rfl rfl
  split <;> omega

/-- Among as many dimensions as a shape can have, exactly the axes from `-rank` up to `rank - 1`
name one. -/
theorem axisPosition_eq {rank : Nat} (hrank : rank ≤ maxAxis) (v : Int) :
    axisPosition rank v = if -(rank : Int) ≤ v ∧ v < rank then .ok (resolvedAxis rank v)
      else .error (.axisOutOfRange v rank) := by
  rw [axisPosition_eq_ite]
  exact if_congr (and_iff_right hrank) rfl rfl

theorem axisPosition_eq_error {rank : Nat} {v : Int} {e : Error} :
    axisPosition rank v = .error e ↔
      ¬ (rank ≤ maxAxis ∧ -(rank : Int) ≤ v ∧ v < rank) ∧ e = .axisOutOfRange v rank := by
  rw [axisPosition_eq_ite]
  split_ifs with hrange
  · simp [hrange]
  · simp [hrange, eq_comm]

/-- A dimension is named by its position and by how far it is from the end. -/
theorem axisPosition_eq_ok_iff_eq_or_eq {rank k : Nat} (hrank : rank ≤ maxAxis) (hk : k < rank)
    (v : Int) : axisPosition rank v = .ok k ↔ v = k ∨ v = k - rank := by
  rw [axisPosition_eq_ok]
  constructor
  · rintro ⟨_, _, hv⟩
    split at hv <;> omega
  · intro hv
    refine ⟨hrank, hk, ?_⟩
    rcases hv with rfl | rfl
    · rw [if_neg (by omega)]
    · rw [if_pos (by omega)]
      omega

/-! ## In words -/

/-- A word without a sign as one with a sign, if the number is not too large. -/
def signedWord? (n : UInt64) : Option Int64 := if n.toNat ≤ maxAxis then some n.toInt64 else none

/-- A word with a sign as one without, if the number is not below zero. -/
def unsignedWord? (v : Int64) : Option UInt64 := if 0 ≤ v then some v.toUInt64 else none

/-- The sum of two words with a sign, unless it overflows. -/
def addSigned? (a b : Int64) : Option Int64 :=
  if -2 ^ 63 ≤ a.toInt + b.toInt ∧ a.toInt + b.toInt < 2 ^ 63 then some (a + b) else none

/-- What an axis comes to before it is held against the rank. -/
def countedWord? (rank axis : Int64) : Option Int64 :=
  if axis < 0 then addSigned? rank axis else some axis

/-- `axisPosition` in words. There is no result if the sum overflows; an axis out of range is a
result. -/
def wordPosition (rank : UInt64) (axis : Int64) : Option (Except Error UInt64) :=
  let outOfRange : Except Error UInt64 := .error (.axisOutOfRange axis.toInt rank.toNat)
  match signedWord? rank with
  | none => some outOfRange
  | some length => do
      let position ← countedWord? length axis
      if 0 ≤ position ∧ position < length then
        match unsignedWord? position with
        | none => some outOfRange
        | some k => some (.ok k)
      else some outOfRange

theorem exists_signedWord? {n : UInt64} (h : n.toNat ≤ maxAxis) :
    ∃ v, signedWord? n = some v ∧ v.toInt = n.toNat := by
  refine ⟨n.toInt64, if_pos h, ?_⟩
  have hsmall : 2 * n.toBitVec.toNat < 2 ^ 64 := by
    show 2 * n.toNat < 2 ^ 64
    unfold maxAxis at h
    omega
  rw [← Int64.toInt_toBitVec, UInt64.toBitVec_toInt64]
  exact BitVec.toInt_eq_toNat_of_lt hsmall

theorem exists_unsignedWord? {v : Int64} (h : 0 ≤ v) :
    ∃ n, unsignedWord? v = some n ∧ n.toNat = v.toInt.toNat :=
  ⟨v.toUInt64, if_pos h, Int64.toNat_toUInt64_of_le h⟩

/-- A number from zero up and one below zero have a sum. -/
theorem exists_addSigned? {a b : Int64} (ha : 0 ≤ a.toInt) (hb : b.toInt < 0) :
    ∃ c, addSigned? a b = some c ∧ c.toInt = a.toInt + b.toInt := by
  have hlo := b.le_toInt
  have hhi := a.toInt_lt
  refine ⟨a + b, if_pos ⟨by omega, by omega⟩, ?_⟩
  rw [Int64.toInt_add]
  apply Int.bmod_eq_of_le <;> omega

theorem exists_countedWord? {rank : Int64} (hrank : 0 ≤ rank.toInt) (axis : Int64) :
    ∃ position, countedWord? rank axis = some position ∧
      position.toInt = if axis.toInt < 0 then rank.toInt + axis.toInt else axis.toInt := by
  unfold countedWord?
  by_cases hneg : axis < 0
  · have hneg' : axis.toInt < 0 := Int64.lt_iff_toInt_lt.1 hneg
    rw [if_pos hneg, if_pos hneg']
    exact exists_addSigned? hrank hneg'
  · have hneg' : ¬ axis.toInt < 0 := fun h => hneg (Int64.lt_iff_toInt_lt.2 h)
    rw [if_neg hneg, if_neg hneg']
    exact ⟨axis, rfl, rfl⟩

/-- **No overflow.** For every rank and every axis the words come to what the integers come to. -/
theorem wordPosition_eq (rank : UInt64) (axis : Int64) :
    (wordPosition rank axis).map (Except.map UInt64.toNat) =
      some (axisPosition rank.toNat axis.toInt) := by
  by_cases hrank : rank.toNat ≤ maxAxis
  · obtain ⟨length, hsigned, hlength⟩ := exists_signedWord? hrank
    have hnonneg : 0 ≤ length.toInt := by omega
    obtain ⟨position, hcounted, hposition⟩ := exists_countedWord? hnonneg axis
    rw [hlength] at hposition
    have hrange : (0 ≤ position ∧ position < length) ↔
        rank.toNat ≤ maxAxis ∧ 0 ≤ position.toInt ∧ position.toInt < rank.toNat := by
      rw [Int64.le_iff_toInt_le, Int64.lt_iff_toInt_lt, hlength]
      exact (and_iff_right hrank).symm
    unfold wordPosition axisPosition
    simp only [hsigned, hcounted, ← hposition, Option.bind_eq_bind, Option.bind_some]
    by_cases hinside : 0 ≤ position ∧ position < length
    · obtain ⟨k, hunsigned, hk⟩ := exists_unsignedWord? hinside.1
      rw [if_pos hinside, if_pos (hrange.1 hinside), hunsigned, ← hk]
      rfl
    · rw [if_neg hinside, if_neg (mt hrange.2 hinside)]
      rfl
  · have hnone : signedWord? rank = none := if_neg hrank
    have hrefused := axisPosition_eq_error (v := axis.toInt).2 ⟨fun h => hrank h.1, rfl⟩
    rw [hrefused, wordPosition, hnone]
    rfl

/-- Both names of a dimension are words. -/
theorem exists_two_axes {rank : UInt64} (hrank : rank.toNat ≤ maxAxis) {k : Nat}
    (hk : k < rank.toNat) : ∃ first last : Int64, first ≠ last ∧ first.toInt = k ∧
      last.toInt = k - rank.toNat ∧
      ∀ axis : Int64, axisPosition rank.toNat axis.toInt = .ok k ↔ axis = first ∨ axis = last := by
  have hlimit : (rank.toNat : Int) < 2 ^ 63 := by
    unfold maxAxis at hrank
    omega
  have hfirst : (Int64.ofInt k).toInt = k := Int64.toInt_ofInt_of_le (by omega) (by omega)
  have hlast : (Int64.ofInt (k - rank.toNat)).toInt = k - rank.toNat :=
    Int64.toInt_ofInt_of_le (by omega) (by omega)
  refine ⟨_, _, ?_, hfirst, hlast, fun axis => ?_⟩
  · intro hsame
    rw [hsame] at hfirst
    omega
  · rw [axisPosition_eq_ok_iff_eq_or_eq hrank hk, ← Int64.toInt_inj, ← Int64.toInt_inj, hfirst,
      hlast]

/-- **Every rank and every axis.** Resolved in words, an axis never makes the sum overflow, and it
comes to what it comes to in integers. It names a dimension exactly when the rank is no larger than
an axis can be and the axis is at least minus the rank and below the rank; from zero up this is the
dimension with its own number, below zero the one so far from the end, and in either case a
dimension that there is. Each dimension has exactly two names. Any other axis is refused, with the
error that carries the axis and the rank as they are. -/
theorem axisPosition_words (rank : UInt64) :
    (∀ axis : Int64, (wordPosition rank axis).map (Except.map UInt64.toNat) =
        some (axisPosition rank.toNat axis.toInt)) ∧
      (∀ (axis : Int64) k, axisPosition rank.toNat axis.toInt = .ok k ↔
        rank.toNat ≤ maxAxis ∧ -(rank.toNat : Int) ≤ axis.toInt ∧ axis.toInt < rank.toNat ∧
          (k : Int) = if 0 ≤ axis.toInt then axis.toInt else rank.toNat + axis.toInt) ∧
      (∀ (axis : Int64) k, axisPosition rank.toNat axis.toInt = .ok k → k < rank.toNat) ∧
      (rank.toNat ≤ maxAxis → ∀ k < rank.toNat, ∃ first last : Int64, first ≠ last ∧
        first.toInt = k ∧ last.toInt = k - rank.toNat ∧
        ∀ axis : Int64, axisPosition rank.toNat axis.toInt = .ok k ↔ axis = first ∨ axis = last) ∧
      (∀ (axis : Int64) e, axisPosition rank.toNat axis.toInt = .error e ↔
        ¬ (rank.toNat ≤ maxAxis ∧ -(rank.toNat : Int) ≤ axis.toInt ∧ axis.toInt < rank.toNat) ∧
          e = .axisOutOfRange axis.toInt rank.toNat) := by
  refine ⟨wordPosition_eq rank, fun axis k => ?_, fun axis k h => (axisPosition_eq_ok.1 h).2.1,
    fun hrank k hk => exists_two_axes hrank hk, fun axis e => axisPosition_eq_error⟩
  rw [axisPosition_eq_ok]
  split_ifs <;> omega

/-- Of the largest rank whose dimensions an axis can count, the first one is named by the least axis
but one, and the least axis is refused. With one dimension more, the last one has no name. -/
theorem axisPosition_largestRank :
    let rank : UInt64 := 2 ^ 63 - 1
    let least := Int64.minValue
    rank.toNat = maxAxis ∧ axisPosition rank.toNat (least + 1).toInt = .ok 0 ∧
      axisPosition rank.toNat least.toInt = .error (.axisOutOfRange (-2 ^ 63) maxAxis) ∧
      axisPosition (rank + 1).toNat (Int64.toInt (-1)) =
        .error (.axisOutOfRange (-1) (2 ^ 63)) := by
  intro rank least
  obtain ⟨_, hnamed, _, _, hrefused⟩ := axisPosition_words rank
  obtain ⟨_, _, _, _, hrefused'⟩ := axisPosition_words (rank + 1)
  exact ⟨by decide +kernel, (hnamed (least + 1) 0).2 (by decide +kernel),
    (hrefused least _).2 (by decide +kernel), (hrefused' (-1) _).2 (by decide +kernel)⟩

end TensorScan
