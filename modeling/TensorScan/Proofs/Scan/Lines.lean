import Mathlib
import TensorScan.Scan.Walk

set_option autoImplicit false

/-! # What a scan leaves at each place

The places of a buffer seen from an axis are numbered by block, row and column without repetition
(`Extent.index_injective`), so a line visits no place twice (`Extent.nodup_line`) and two lines
have no place in common (`Extent.pairwise_disjoint_lines`). No place is left out either
(`Extent.exists_index`). A place is therefore written exactly once, at one step of the walk of one
line, and nothing that is scanned later touches it.

With this, `Extent.getElem?_scanInto` gives the contents of the buffer after a scan: at the place
visited at a given step of a line stands the left fold of what the line held at the steps before,
in the order of the walk, the element of the step itself included unless the scan is exclusive. So
it makes no difference what the buffer held there before (`Extent.getElem?_scanInto_congr`), and
behind the last element it is left as it was (`Extent.getElem?_scanInto_of_count_le`).
-/

namespace TensorScan

variable {α : Type}

/-- Every position is visited at some step. -/
theorem Direction.exists_position (direction : Direction) {size s : Nat} (h : s < size) :
    ∃ step < size, direction.position size step = s := by
  cases direction with
  | increasing => exact ⟨s, h, rfl⟩
  | decreasing => exact ⟨size - 1 - s, by omega, by simp only [position]; omega⟩

namespace Extent

/-! ## Places are numbered without repetition -/

/-- Quotient and remainder are determined by the number they make up. -/
private theorem mul_add_inj {n a b x y : Nat} (hx : x < n) (hy : y < n)
    (h : a * n + x = b * n + y) : a = b ∧ x = y := by
  have hxy : x = y := by
    have hmod := congrArg (· % n) h
    simpa [Nat.mod_eq_of_lt hx, Nat.mod_eq_of_lt hy] using hmod
  subst hxy
  exact ⟨Nat.eq_of_mul_eq_mul_right (Nat.zero_lt_of_lt hx) (Nat.add_right_cancel h), rfl⟩

theorem index_injective (e : Extent) {o s i o' s' i' : Nat} (hs : s < e.scan) (hi : i < e.inner)
    (hs' : s' < e.scan) (hi' : i' < e.inner) (h : e.index o s i = e.index o' s' i') :
    o = o' ∧ s = s' ∧ i = i' := by
  -- the column is the remainder of the place, the position that of the row
  rw [index, index, ← Nat.add_mul, ← Nat.add_mul] at h
  obtain ⟨hrow, hcol⟩ := mul_add_inj hi hi' h
  obtain ⟨hblock, hstep⟩ := mul_add_inj hs hs' hrow
  exact ⟨hblock, hstep, hcol⟩

/-- No place is left out: every one is visited at some step of the walk of some line. -/
theorem exists_index (e : Extent) (direction : Direction) {k : Nat} (hk : k < e.count) :
    ∃ o < e.outer, ∃ step < e.scan, ∃ i < e.inner,
      e.index o (direction.position e.scan step) i = k := by
  -- the number of the row among the rows of all blocks
  have hrow : k / e.inner < e.outer * e.scan := by
    apply Nat.div_lt_of_lt_mul
    rwa [Nat.mul_comm]
  have hinner : 0 < e.inner := Nat.pos_of_lt_mul_left hk
  have hscan : 0 < e.scan := Nat.pos_of_lt_mul_left hrow
  obtain ⟨step, hstep, hposition⟩ :=
    direction.exists_position (Nat.mod_lt (k / e.inner) hscan)
  refine ⟨k / e.inner / e.scan, ?_, step, hstep, k % e.inner, Nat.mod_lt k hinner, ?_⟩
  · apply Nat.div_lt_of_lt_mul
    rwa [Nat.mul_comm]
  · rw [hposition, index, ← Nat.add_mul, Nat.div_add_mod', Nat.div_add_mod']

theorem mem_line {e : Extent} {direction : Direction} {o i k : Nat} :
    k ∈ e.line direction o i ↔
      ∃ step < e.scan, e.index o (direction.position e.scan step) i = k := by
  simp [line]

theorem mem_lines {e : Extent} {direction : Direction} {places : List Nat} :
    places ∈ e.lines direction ↔
      ∃ o < e.outer, ∃ i < e.inner, e.line direction o i = places := by
  simp [lines]

/-- The walk of a line visits no place twice. -/
theorem nodup_line (e : Extent) (direction : Direction) {o i : Nat} (hi : i < e.inner) :
    (e.line direction o i).Nodup := by
  refine List.Nodup.map_on ?_ List.nodup_range
  intro a ha b hb hab
  have ha' := List.mem_range.1 ha
  have hb' := List.mem_range.1 hb
  have hposition := (e.index_injective (direction.position_lt ha') hi
    (direction.position_lt hb') hi hab).2.1
  exact direction.position_injective ha' hb' hposition

/-- Lines through different blocks or columns have no place in common. -/
theorem disjoint_line (e : Extent) (direction : Direction) {o i o' i' : Nat} (hi : i < e.inner)
    (hi' : i' < e.inner) (hne : ¬ (o = o' ∧ i = i')) :
    List.Disjoint (e.line direction o i) (e.line direction o' i') := by
  intro k hk hk'
  obtain ⟨a, ha, rfl⟩ := mem_line.1 hk
  obtain ⟨b, hb, hindex⟩ := mem_line.1 hk'
  obtain ⟨ho, _, hcol⟩ := e.index_injective (direction.position_lt hb) hi'
    (direction.position_lt ha) hi hindex
  exact hne ⟨ho.symm, hcol.symm⟩

theorem pairwise_disjoint_lines (e : Extent) (direction : Direction) :
    (e.lines direction).Pairwise List.Disjoint := by
  rw [lines, List.pairwise_flatMap]
  constructor
  · -- two lines of one block differ in the column
    intro o _
    rw [List.pairwise_map]
    refine List.Pairwise.imp_of_mem ?_ List.nodup_range
    intro i i' hi hi' hne
    exact e.disjoint_line direction (List.mem_range.1 hi) (List.mem_range.1 hi')
      fun h => hne h.2
  · -- lines of two blocks differ in the block
    refine List.Pairwise.imp ?_ List.nodup_range
    intro o o' hne places hplaces places' hplaces'
    obtain ⟨i, hi, rfl⟩ := List.mem_map.1 hplaces
    obtain ⟨i', hi', rfl⟩ := List.mem_map.1 hplaces'
    exact e.disjoint_line direction (List.mem_range.1 hi) (List.mem_range.1 hi')
      fun h => hne h.1

end Extent

/-! ## One line -/

section Line

variable (combine : α → α → α) (exclusive : Bool) (source : Array α)

/-- A scan of a line leaves every other place as it was. -/
theorem getElem?_scanLine_of_not_mem {places : List Nat} {k : Nat} (hk : k ∉ places) (acc : α)
    (out : Array α) : (scanLine combine exclusive source places acc out)[k]? = out[k]? := by
  induction places generalizing acc out with
  | nil => rfl
  | cons first rest ih =>
      rw [List.mem_cons, not_or] at hk
      rw [scanLine]
      split
      · rfl
      · rw [ih hk.2, Array.getElem?_setIfInBounds_ne (Ne.symm hk.1)]

/-- The place visited at step `t` receives the fold of the elements visited before it, and of its
own element too unless the scan is exclusive. -/
theorem getElem?_scanLine {f : Nat → α} {places : List Nat} (hnodup : places.Nodup)
    (hsource : ∀ k ∈ places, source[k]? = some (f k)) {out : Array α}
    (hout : ∀ k ∈ places, k < out.size) (acc : α) {t : Nat} (ht : t < places.length) :
    (scanLine combine exclusive source places acc out)[places[t]]? =
      some (((places.take (if exclusive then t else t + 1)).map f).foldl combine acc) := by
  induction places generalizing acc out t with
  | nil => exact absurd ht (Nat.not_lt_zero t)
  | cons first rest ih =>
      obtain ⟨hfirst, hrest⟩ := List.nodup_cons.1 hnodup
      rw [scanLine, hsource first List.mem_cons_self]
      cases t with
      | zero =>
          -- what the first step writes is not touched by the steps after it
          rw [List.getElem_cons_zero, getElem?_scanLine_of_not_mem _ _ _ hfirst,
            Array.getElem?_setIfInBounds_self_of_lt (hout first List.mem_cons_self)]
          cases exclusive <;> rfl
      | succ t =>
          rw [List.getElem_cons_succ,
            ih hrest (fun k hk => hsource k (List.mem_cons_of_mem _ hk))
              (fun k hk => by simpa using hout k (List.mem_cons_of_mem _ hk)) _
              (by simpa using ht)]
          cases exclusive <;> rfl

/-! ## All lines -/

/-- The scan of many lines leaves every place as it was that is on none of them. -/
private theorem getElem?_scanLines_of_not_mem {lines : List (List Nat)} {k : Nat}
    (hk : ∀ places ∈ lines, k ∉ places) (identity : α) (out : Array α) :
    (lines.foldl (fun out places => scanLine combine exclusive source places identity out)
      out)[k]? = out[k]? := by
  induction lines generalizing out with
  | nil => rfl
  | cons places rest ih =>
      rw [List.foldl_cons, ih fun p hp => hk p (List.mem_cons_of_mem _ hp)]
      exact getElem?_scanLine_of_not_mem _ _ _ (hk places List.mem_cons_self) _ _

/-- If the lines are disjoint, each of them is scanned as if there were no others. -/
private theorem getElem?_scanLines {f : Nat → α} {n : Nat}
    (hsource : ∀ k < n, source[k]? = some (f k)) {lines : List (List Nat)}
    (hdisjoint : lines.Pairwise List.Disjoint) (hnodup : ∀ places ∈ lines, places.Nodup)
    (hlt : ∀ places ∈ lines, ∀ k ∈ places, k < n) (identity : α) {out : Array α}
    (hout : n ≤ out.size) {places : List Nat} (hplaces : places ∈ lines) {t : Nat}
    (ht : t < places.length) :
    (lines.foldl (fun out places => scanLine combine exclusive source places identity out)
      out)[places[t]]? =
      some (((places.take (if exclusive then t else t + 1)).map f).foldl combine identity) := by
  induction lines generalizing out with
  | nil => contradiction
  | cons head rest ih =>
      obtain ⟨hhead, hrest⟩ := List.pairwise_cons.1 hdisjoint
      rw [List.foldl_cons]
      rcases List.mem_cons.1 hplaces with rfl | hmem
      · -- no later line passes through a place of this one
        have hafter : ∀ p ∈ rest, places[t] ∉ p :=
          fun p hp hk => hhead p hp (List.getElem_mem ht) hk
        have hinside := hlt places List.mem_cons_self
        rw [getElem?_scanLines_of_not_mem _ _ _ hafter]
        exact getElem?_scanLine _ _ _ (hnodup places List.mem_cons_self)
          (fun k hk => hsource k (hinside k hk))
          (fun k hk => Nat.lt_of_lt_of_le (hinside k hk) hout) identity ht
      · exact ih hrest (fun p hp => hnodup p (List.mem_cons_of_mem _ hp))
          (fun p hp => hlt p (List.mem_cons_of_mem _ hp)) (by simpa using hout) hmem

end Line

/-- **The contents of a scanned buffer.** At the place that a line visits at some step stands the
fold of the elements of the line up to that step, in the order of the walk. -/
theorem Extent.getElem?_scanInto (e : Extent) (direction : Direction) (exclusive : Bool)
    (combine : α → α → α) (identity : α) {source out : Array α} {f : Nat → α}
    (hsource : ∀ k < e.count, source[k]? = some (f k)) (hout : e.count ≤ out.size)
    {o i step : Nat} (ho : o < e.outer) (hi : i < e.inner) (hstep : step < e.scan) :
    (e.scanInto direction exclusive combine identity source out)[
        e.index o (direction.position e.scan step) i]? =
      some (((List.range (if exclusive then step else step + 1)).map fun j =>
        f (e.index o (direction.position e.scan j) i)).foldl combine identity) := by
  have hindex := e.index_lt ho (direction.position_lt hstep) hi
  have hsome : e.isEmpty = false := by
    by_contra h
    have hcount := e.isEmpty_iff.1 (by simpa using h)
    omega
  have hlines : ∀ places ∈ e.lines direction, places.Nodup ∧ ∀ k ∈ places, k < e.count := by
    intro places hplaces
    obtain ⟨o', ho', i', hi', rfl⟩ := mem_lines.1 hplaces
    exact ⟨e.nodup_line direction hi', fun k hk => lt_count_of_mem_line ho' hi' hk⟩
  have hline : e.line direction o i ∈ e.lines direction := mem_lines.2 ⟨o, ho, i, hi, rfl⟩
  have ht : step < (e.line direction o i).length := by simpa using hstep
  have hread := getElem?_scanLines combine exclusive source hsource
    (e.pairwise_disjoint_lines direction) (fun p hp => (hlines p hp).1)
    (fun p hp => (hlines p hp).2) identity hout hline ht
  have hplace : (e.line direction o i)[step] = e.index o (direction.position e.scan step) i := by
    simp [line]
  have htake : (e.line direction o i).take (if exclusive then step else step + 1) =
      (List.range (if exclusive then step else step + 1)).map fun j =>
        e.index o (direction.position e.scan j) i := by
    have hle : (if exclusive then step else step + 1) ≤ e.scan := by
      split <;> omega
    rw [line, ← List.map_take, List.take_range, Nat.min_eq_left hle]
  rw [scanInto, if_neg (by simp [hsome]), ← hplace, hread, htake, List.map_map]
  rfl

/-- What the buffer holds beyond the elements of the extent is left as it was. -/
theorem Extent.getElem?_scanInto_of_count_le (e : Extent) (direction : Direction)
    (exclusive : Bool) (combine : α → α → α) (identity : α) (source out : Array α) {k : Nat}
    (hk : e.count ≤ k) :
    (e.scanInto direction exclusive combine identity source out)[k]? = out[k]? := by
  unfold scanInto
  split
  · rfl
  · apply getElem?_scanLines_of_not_mem
    intro places hplaces hmem
    obtain ⟨o, ho, i, hi, rfl⟩ := mem_lines.1 hplaces
    have hlt := lt_count_of_mem_line ho hi hmem
    omega

/-- What a scan leaves at the elements of the extent does not depend on what was there before. -/
theorem Extent.getElem?_scanInto_congr (e : Extent) (direction : Direction) (exclusive : Bool)
    (combine : α → α → α) (identity : α) {source out out' : Array α}
    (hsource : e.count ≤ source.size) (hout : e.count ≤ out.size) (hout' : e.count ≤ out'.size)
    {k : Nat} (hk : k < e.count) :
    (e.scanInto direction exclusive combine identity source out)[k]? =
      (e.scanInto direction exclusive combine identity source out')[k]? := by
  obtain ⟨o, ho, step, hstep, i, hi, rfl⟩ := e.exists_index direction hk
  have hread : ∀ j < e.count, source[j]? = some (source.getD j identity) := by
    intro j hj
    have hj' : j < source.size := by omega
    simp [hj']
  rw [e.getElem?_scanInto direction exclusive combine identity hread hout ho hi hstep,
    e.getElem?_scanInto direction exclusive combine identity hread hout' ho hi hstep]

end TensorScan
