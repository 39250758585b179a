import Mathlib
import TensorScan.Proofs.Scan.Lines

set_option autoImplicit false

/-! # A scan with every operation guarded

`Extent.scanInto` counts in natural numbers, and a place outside the buffer it passes over. Sizes
are not like that: they have 64 bits, none is below zero, and a place outside a buffer is a fault.
`Extent.guardedScan` is the same scan with every operation guarded. It is written as three loops,
over the blocks, the columns of a block and the steps of a line. Each product, sum and difference
must be a size, each place must be in both buffers, and if anything is not so then there is no
result at all. Beside the buffer it keeps the places that it has been to.

No guard ever fails (`Extent.guardedScan_eq`). If the elements of the extent can be counted and both
buffers hold as many, then the guarded scan ends with what `Extent.scanInto` leaves, and it has been
to the places of the lines, one line after another. These are all places below the number of
elements, each of them once (`Extent.flatten_lines_perm`). So every element is written, and what was
in the buffer before is seen only behind the last element.
-/

namespace TensorScan

variable {α : Type}

/-! ## Guarded operations -/

/-- The sum of two sizes, if it is a size. -/
def checkedAdd (a b : Nat) : Option Nat := if a + b ≤ maxSize then some (a + b) else none

/-- The difference of two sizes, if it is not below zero. -/
def checkedSub (a b : Nat) : Option Nat := if b ≤ a then some (a - b) else none

/-- The buffer with `x` at place `k`, if it has this place. -/
def write? (out : Array α) (k : Nat) (x : α) : Option (Array α) :=
  if k < out.size then some (out.setIfInBounds k x) else none

/-- The position visited at a step of a walk over `length` positions. -/
def Direction.position? (direction : Direction) (length step : Nat) : Option Nat :=
  match direction with
  | .increasing => some step
  | .decreasing => do
      let last ← checkedSub length 1
      checkedSub last step

namespace Extent

/-- The place where block `o` starts. A block after the last one would start at the number of
elements. -/
def block? (e : Extent) (o : Nat) : Option Nat := do
  let rows ← checkedMul o e.scan
  checkedMul rows e.inner

/-- The place in row `s` and column `i` of the block that starts at `block`. -/
def place? (e : Extent) (block s i : Nat) : Option Nat := do
  let row ← checkedMul s e.inner
  let start ← checkedAdd block row
  checkedAdd start i

end Extent

/-! ## The guarded loops -/

/-- How far a scan has come. -/
structure Progress (α : Type) where
  /-- The buffer that is written into. -/
  out : Array α
  /-- The places that were read and written, in order. -/
  visits : List Nat
  deriving DecidableEq

section Loops

variable (combine : α → α → α) (exclusive : Bool) (source : Array α)

/-- Some steps of the line through column `i` of the block that starts at `block`. At each step the
element of the place is taken in, and the accumulated value is written there, the one from before in
an exclusive scan. -/
def Extent.walkSteps? (e : Extent) (direction : Direction) (block i : Nat) :
    List Nat → α → Progress α → Option (Progress α)
  | [], _, w => some w
  | step :: rest, acc, w => do
      let s ← direction.position? e.scan step
      let k ← e.place? block s i
      let x ← source[k]?
      let next := combine acc x
      let out ← write? w.out k (if exclusive then acc else next)
      walkSteps? e direction block i rest next ⟨out, w.visits ++ [k]⟩

/-- The lines of block `o`, column by column. -/
def Extent.walkBlock? (e : Extent) (direction : Direction) (identity : α) (w : Progress α)
    (o : Nat) : Option (Progress α) := do
  let block ← e.block? o
  (List.range e.inner).foldlM (fun w i =>
    e.walkSteps? combine exclusive source direction block i (List.range e.scan) identity w) w

end Loops

/-- `Extent.scanInto` with every operation guarded, and with the places it has been to. A buffer
without elements is left as it is before anything is computed; otherwise both buffers must hold all
elements. -/
def Extent.guardedScan (e : Extent) (direction : Direction) (exclusive : Bool)
    (combine : α → α → α) (identity : α) (source out : Array α) : Option (Progress α) :=
  if e.isEmpty then some ⟨out, []⟩
  else do
    let n ← e.block? e.outer
    guard (n ≤ source.size ∧ n ≤ out.size)
    (List.range e.outer).foldlM (e.walkBlock? combine exclusive source direction identity)
      ⟨out, []⟩

/-! ## The places of all lines -/

/-- **Every place once.** The lines of an extent, one after another, go through all places below the
number of elements, and through each of them once. -/
theorem Extent.flatten_lines_perm (e : Extent) (direction : Direction) :
    (e.lines direction).flatten.Perm (List.range e.count) := by
  -- no line goes through a place twice, and no two lines have a place in common
  have hnodup : (e.lines direction).flatten.Nodup := by
    rw [List.nodup_flatten]
    refine ⟨fun places hplaces => ?_, e.pairwise_disjoint_lines direction⟩
    obtain ⟨o, _, i, hi, rfl⟩ := mem_lines.1 hplaces
    exact e.nodup_line direction hi
  rw [List.perm_ext_iff_of_nodup hnodup List.nodup_range]
  intro k
  rw [List.mem_flatten, List.mem_range]
  constructor
  · rintro ⟨places, hplaces, hk⟩
    obtain ⟨o, ho, i, hi, rfl⟩ := mem_lines.1 hplaces
    exact lt_count_of_mem_line ho hi hk
  · intro hk
    obtain ⟨o, ho, step, hstep, i, hi, hindex⟩ := e.exists_index direction hk
    exact ⟨_, mem_lines.2 ⟨o, ho, i, hi, rfl⟩, mem_line.2 ⟨step, hstep, hindex⟩⟩

/-! ## No operation fails -/

theorem Direction.position?_eq (direction : Direction) {length step : Nat} (h : step < length) :
    direction.position? length step = some (direction.position length step) := by
  cases direction with
  | increasing => rfl
  | decreasing =>
      have hlast : checkedSub length 1 = some (length - 1) := if_pos (by omega)
      show (checkedSub length 1 >>= fun last => checkedSub last step) = _
      rw [hlast]
      exact if_pos (by omega)

namespace Extent

variable {e : Extent}

theorem block?_eq (hcount : e.count ≤ maxSize) (hinner : 0 < e.inner) {o : Nat}
    (ho : o ≤ e.outer) : e.block? o = some (o * e.scan * e.inner) := by
  have hblock : o * e.scan * e.inner ≤ maxSize := by
    calc o * e.scan * e.inner ≤ e.outer * e.scan * e.inner :=
          Nat.mul_le_mul_right _ (Nat.mul_le_mul_right _ ho)
      _ ≤ maxSize := hcount
  have hrows : o * e.scan ≤ maxSize := (Nat.le_mul_of_pos_right _ hinner).trans hblock
  show (checkedMul o e.scan >>= fun rows => checkedMul rows e.inner) = _
  rw [checkedMul_eq_some.2 ⟨rfl, hrows⟩]
  exact checkedMul_eq_some.2 ⟨rfl, hblock⟩

theorem place?_eq (hcount : e.count ≤ maxSize) {o s i : Nat} (ho : o < e.outer) (hs : s < e.scan)
    (hi : i < e.inner) : e.place? (o * e.scan * e.inner) s i = some (e.index o s i) := by
  -- every part of the place is smaller than the number of elements
  have hindex : o * e.scan * e.inner + s * e.inner + i < e.count := e.index_lt ho hs hi
  have hrow : checkedMul s e.inner = some (s * e.inner) := checkedMul_eq_some.2 ⟨rfl, by omega⟩
  have hstart : checkedAdd (o * e.scan * e.inner) (s * e.inner) =
      some (o * e.scan * e.inner + s * e.inner) := if_pos (by omega)
  have hplace : checkedAdd (o * e.scan * e.inner + s * e.inner) i = some (e.index o s i) :=
    if_pos (by omega)
  simp only [place?, hrow, hstart, hplace, Option.bind_eq_bind, Option.bind_some]

end Extent

/-! ## No loop fails -/

/-- A fold has a result if no step fails as long as an invariant holds. -/
theorem foldlM_eq_some_foldl {β γ : Type} (Inv : β → Prop) {f : β → γ → Option β}
    {g : β → γ → β} {l : List γ}
    (hstep : ∀ c ∈ l, ∀ b, Inv b → f b c = some (g b c) ∧ Inv (g b c)) {b : β} (hb : Inv b) :
    l.foldlM f b = some (l.foldl g b) ∧ Inv (l.foldl g b) := by
  induction l generalizing b with
  | nil => exact ⟨rfl, hb⟩
  | cons c rest ih =>
      obtain ⟨hc, hnext⟩ := hstep c List.mem_cons_self b hb
      rw [List.foldlM_cons, hc]
      exact ih (fun c hc => hstep c (List.mem_cons_of_mem _ hc)) hnext

section Walks

variable (combine : α → α → α) (exclusive : Bool) (source : Array α)

/-- The progress that the scan of a line makes. -/
def Progress.along (identity : α) (w : Progress α) (places : List Nat) : Progress α :=
  ⟨scanLine combine exclusive source places identity w.out, w.visits ++ places⟩

theorem Progress.foldl_along (identity : α) (lines : List (List Nat)) (w : Progress α) :
    lines.foldl (Progress.along combine exclusive source identity) w =
      ⟨lines.foldl (fun out places => scanLine combine exclusive source places identity out) w.out,
        w.visits ++ lines.flatten⟩ := by
  induction lines generalizing w with
  | nil => simp
  | cons places rest ih => simp [ih, Progress.along]

/-- The buffer that is written into has room for all elements. -/
def Progress.HasRoom (e : Extent) (w : Progress α) : Prop := e.count ≤ w.out.size

theorem Progress.HasRoom.along {e : Extent} {w : Progress α} (h : w.HasRoom e) (identity : α)
    (places : List Nat) : (w.along combine exclusive source identity places).HasRoom e := by
  show e.count ≤ (scanLine combine exclusive source places identity w.out).size
  rw [size_scanLine]
  exact h

variable {source} {e : Extent} (hcount : e.count ≤ maxSize) (hsource : e.count ≤ source.size)
  (direction : Direction)

include hcount hsource

/-- The guarded steps of a line are those of `scanLine`. -/
theorem Extent.walkSteps?_eq {o i : Nat} (ho : o < e.outer) (hi : i < e.inner) {steps : List Nat}
    (hsteps : ∀ step ∈ steps, step < e.scan) (acc : α) {w : Progress α} (hw : w.HasRoom e) :
    e.walkSteps? combine exclusive source direction (o * e.scan * e.inner) i steps acc w =
      some (w.along combine exclusive source acc
        (steps.map fun step => e.index o (direction.position e.scan step) i)) := by
  induction steps generalizing acc w with
  | nil => simp [walkSteps?, Progress.along, scanLine]
  | cons step rest ih =>
      have hstep := hsteps step List.mem_cons_self
      have hs := direction.position_lt hstep
      -- the place of this step is below the number of elements, so both buffers have it
      have hk := e.index_lt ho hs hi
      have hread := Array.getElem?_eq_getElem (hk.trans_le hsource)
      have hwrite : ∀ y, write? w.out (e.index o (direction.position e.scan step) i) y =
          some (w.out.setIfInBounds _ y) := fun y => if_pos (hk.trans_le hw)
      simp only [walkSteps?, direction.position?_eq hstep, place?_eq hcount ho hs hi, hread, hwrite,
        Option.bind_eq_bind, Option.bind_some]
      rw [ih fun s hmem => hsteps s (List.mem_cons_of_mem _ hmem)]
      · simp only [Progress.along, List.map_cons, scanLine, hread, List.append_assoc,
          List.singleton_append]
      · simpa [Progress.HasRoom] using hw

theorem Extent.walkBlock?_eq (hinner : 0 < e.inner) {o : Nat} (ho : o < e.outer) (identity : α)
    {w : Progress α} (hw : w.HasRoom e) :
    e.walkBlock? combine exclusive source direction identity w o =
        some (((List.range e.inner).map fun i => e.line direction o i).foldl
          (Progress.along combine exclusive source identity) w) ∧
      (((List.range e.inner).map fun i => e.line direction o i).foldl
        (Progress.along combine exclusive source identity) w).HasRoom e := by
  have hline : ∀ i ∈ List.range e.inner, ∀ w : Progress α, w.HasRoom e →
      e.walkSteps? combine exclusive source direction (o * e.scan * e.inner) i (List.range e.scan)
          identity w = some (w.along combine exclusive source identity (e.line direction o i)) ∧
        (w.along combine exclusive source identity (e.line direction o i)).HasRoom e := by
    intro i hi w hw
    exact ⟨walkSteps?_eq combine exclusive hcount hsource direction ho (List.mem_range.1 hi)
      (fun step hstep => List.mem_range.1 hstep) identity hw,
      hw.along combine exclusive source identity _⟩
  rw [List.foldl_map]
  show (e.block? o >>= _) = _ ∧ _
  rw [block?_eq hcount hinner ho.le]
  exact foldlM_eq_some_foldl (Progress.HasRoom e) hline hw

/-- **No guard fails.** The guarded scan ends with what the scan leaves, and it has been to the
places of all lines, one line after another. -/
theorem Extent.guardedScan_eq (identity : α) {out : Array α} (hout : e.count ≤ out.size) :
    e.guardedScan direction exclusive combine identity source out =
      some ⟨e.scanInto direction exclusive combine identity source out,
        (e.lines direction).flatten⟩ := by
  unfold guardedScan scanInto
  split
  · rename_i hempty
    -- without elements there are no places
    have hplaces := e.flatten_lines_perm direction
    rw [e.isEmpty_iff.1 hempty] at hplaces
    rw [hplaces.eq_nil]
  · rename_i hsome
    have hinner : 0 < e.inner := by
      rw [e.isEmpty_iff] at hsome
      exact Nat.pos_of_ne_zero fun h => hsome (by rw [count, h, Nat.mul_zero])
    have hblocks := foldlM_eq_some_foldl (Progress.HasRoom e)
      (fun o ho w hw => walkBlock?_eq combine exclusive hcount hsource direction hinner
        (List.mem_range.1 ho) identity hw) (show (Progress.mk out []).HasRoom e from hout)
    have hguard : (guard (e.outer * e.scan * e.inner ≤ source.size ∧
        e.outer * e.scan * e.inner ≤ out.size) : Option Unit) = some () := if_pos ⟨hsource, hout⟩
    rw [block?_eq hcount hinner le_rfl, Option.bind_eq_bind, Option.bind_some, hguard]
    -- the loops over blocks and columns are one loop over lines
    calc (List.range e.outer).foldlM (e.walkBlock? combine exclusive source direction identity)
          ⟨out, []⟩
        = some ((e.lines direction).foldl (Progress.along combine exclusive source identity)
            ⟨out, []⟩) := by rw [lines, List.foldl_flatMap]; exact hblocks.1
      _ = _ := by rw [Progress.foldl_along]; rfl

end Walks

/-- The elements that a scan gives are what the guarded scan leaves in a buffer of zeros. -/
theorem ScanMode.guardedScan_eq (mode : ScanMode) {d : DType} {e : Extent} {words : List (Word d)}
    (hlen : words.length = e.count) (hcount : e.count ≤ maxSize) :
    e.guardedScan mode.direction mode.exclusive (mode.op.combine d) (mode.op.identity d)
        words.toArray (Array.replicate words.length (Word.zero d)) =
      some ⟨(mode.scan d e words).toArray, (e.lines mode.direction).flatten⟩ := by
  have hsource : e.count ≤ words.toArray.size := hlen.ge
  have hout : e.count ≤ (Array.replicate words.length (Word.zero d)).size := by
    rw [Array.size_replicate]
    exact hlen.ge
  rw [Extent.guardedScan_eq _ _ hcount hsource _ _ hout, scan, Array.toArray_toList]

/-- **A scan is safe and complete.** With as many elements as can be counted, and with buffers that
hold them, no guard of a scan fails: the guarded scan ends with what the scan leaves. On the way it
has been to every place below the number of elements exactly once, and to no other. Behind the
elements the buffer is as it was, and if there are none then nothing is done at all, however large
two of the three extents are. At the elements the buffer does not depend on what it held before. -/
theorem Extent.guardedScan_everyPlace (e : Extent) (direction : Direction) (exclusive : Bool)
    (combine : α → α → α) (identity : α) {source out : Array α} (hcount : e.count ≤ maxSize)
    (hsource : e.count ≤ source.size) (hout : e.count ≤ out.size) :
    (∃ visits, visits.Perm (List.range e.count) ∧
        e.guardedScan direction exclusive combine identity source out =
          some ⟨e.scanInto direction exclusive combine identity source out, visits⟩) ∧
      (∀ k, e.count ≤ k →
        (e.scanInto direction exclusive combine identity source out)[k]? = out[k]?) ∧
      (e.outer = 0 ∨ e.scan = 0 ∨ e.inner = 0 →
        e.guardedScan direction exclusive combine identity source out = some ⟨out, []⟩) ∧
      (∀ out' : Array α, e.count ≤ out'.size → ∀ k < e.count,
        (e.scanInto direction exclusive combine identity source out)[k]? =
          (e.scanInto direction exclusive combine identity source out')[k]?) := by
  refine ⟨⟨(e.lines direction).flatten, e.flatten_lines_perm direction, ?_⟩, fun k hk => ?_,
    fun hzero => ?_, fun out' hout' k hk => ?_⟩
  · exact guardedScan_eq combine exclusive hcount hsource direction identity hout
  · exact e.getElem?_scanInto_of_count_le direction exclusive combine identity source out hk
  · have hempty : e.isEmpty = true := by
      rcases hzero with h | h | h <;> simp [isEmpty, h]
    exact if_pos hempty
  · exact e.getElem?_scanInto_congr direction exclusive combine identity hsource hout hout' hk

/-- Two blocks of two columns, scanned from the end, with one more element behind them; and a buffer
without elements, whose blocks and columns are more than can be counted. -/
theorem Extent.guardedScan_twoBlocks :
    let e : Extent := ⟨2, 3, 2⟩
    let source : Array (Word .i32) := #[1, 2, 3, 4, 5, 6, 7, 8, 9, 10, 11, 12]
    let out : Array (Word .i32) := #[9, 9, 9, 9, 9, 9, 9, 9, 9, 9, 9, 9, 9]
    e.count ≤ maxSize ∧ e.count ≤ source.size ∧ e.count ≤ out.size ∧
      (∃ visits, visits.Perm (List.range 12) ∧
        e.guardedScan .decreasing true (Accumulation.sum.combine .i32) 0 source out =
          some ⟨#[8, 10, 5, 6, 0, 0, 20, 22, 11, 12, 0, 0, 9], visits⟩) ∧
      guardedScan ⟨2 ^ 63, 0, 2 ^ 63⟩ .increasing false (Accumulation.product.combine .i32) 1
        #[] #[] = some ⟨#[], []⟩ := by
  intro e source out
  have hcount : e.count ≤ maxSize := by decide
  have hsource : e.count ≤ source.size := by decide
  have hout : e.count ≤ out.size := by decide
  have hresult : e.scanInto .decreasing true (Accumulation.sum.combine .i32) 0 source out =
      #[8, 10, 5, 6, 0, 0, 20, 22, 11, 12, 0, 0, 9] := by decide +kernel
  have hblocks := e.guardedScan_everyPlace .decreasing true (Accumulation.sum.combine .i32) 0
    hcount hsource hout
  rw [hresult] at hblocks
  -- nothing has to be counted where nothing is done
  have hnone : count ⟨2 ^ 63, 0, 2 ^ 63⟩ ≤ maxSize := by decide
  have hnothing : count ⟨2 ^ 63, 0, 2 ^ 63⟩ ≤ (#[] : Array (Word .i32)).size := by decide
  obtain ⟨_, _, hempty, _⟩ := guardedScan_everyPlace ⟨2 ^ 63, 0, 2 ^ 63⟩ .increasing false
    (Accumulation.product.combine .i32) 1 hnone hnothing hnothing
  exact ⟨hcount, hsource, hout, hblocks.1, hempty (Or.inr (Or.inl rfl))⟩

end TensorScan
