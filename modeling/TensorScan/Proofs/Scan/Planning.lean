import Mathlib
import TensorScan.Proofs.Sizes
import TensorScan.Scan.Plan

set_option autoImplicit false

/-! # Along which axes a shape can be scanned

To scan a shape along one of its dimensions, it must be seen from there: the product of the
dimensions before the axis, that of the dimensions after it and the number of all elements become
sizes of a graph. Two questions are settled here.

* Of a shape that a tensor can have, which axes are refused? Only those with an overflow among the
  dimensions after them, and such an overflow needs a zero before it
  (`Shape.extent_of_elementCount`).
* Of any shape, is an axis refused only when one of the three products is no size? If no dimension
  is zero, yes. But products are taken from the left and are looked at after every factor, so a zero
  comes too late for the factors before it: `[2 ^ 63, 4, 0, 5]` is refused its last axis although
  the three products are 0, 1 and 0 (`Shape.extent_tooLarge`).
-/

namespace TensorScan

/-! ## Zeros and overflow -/

/-- The sizes before the first zero. -/
def beforeZero (sizes : List Nat) : List Nat := sizes.takeWhile (· != 0)

theorem zero_notMem_beforeZero (sizes : List Nat) : 0 ∉ beforeZero sizes := by
  intro h
  simpa using List.mem_takeWhile_imp h

theorem beforeZero_eq_self {sizes : List Nat} (h : 0 ∉ sizes) : beforeZero sizes = sizes := by
  rw [beforeZero, List.takeWhile_eq_self_iff]
  intro s hs
  have hne : s ≠ 0 := fun hzero => h (hzero ▸ hs)
  simpa using hne

theorem beforeZero_take (sizes : List Nat) (m : Nat) :
    beforeZero (sizes.take m) = (beforeZero sizes).take m :=
  List.take_takeWhile.symm

/-- Without a zero, the first sizes have no larger product than all of them. -/
theorem prod_take_le_prod {sizes : List Nat} (h : 0 ∉ sizes) (m : Nat) :
    (sizes.take m).prod ≤ sizes.prod :=
  Nat.le_of_dvd (Nat.pos_of_ne_zero (List.prod_ne_zero h)) (List.take_sublist m sizes).prod_dvd_prod

theorem overflows_of_lt_prod {sizes : List Nat} (h : maxSize < sizes.prod) : Overflows sizes :=
  ⟨sizes.length, by rwa [List.take_length]⟩

theorem not_overflows_singleton {size : Nat} (h : size ≤ maxSize) : ¬ Overflows [size] := by
  rw [not_overflows]
  intro m
  cases m with
  | zero => simp [maxSize]
  | succ m => simpa using h

/-- Sizes overflow exactly when those before the first zero have a product that is no size. -/
theorem overflows_iff_beforeZero {sizes : List Nat} :
    Overflows sizes ↔ maxSize < (beforeZero sizes).prod := by
  constructor
  · rintro ⟨m, hm⟩
    -- a product above the bound has no factor zero, so its factors stand before the first zero
    have hzero : 0 ∉ sizes.take m := by
      intro hmem
      rw [List.prod_eq_zero_iff.2 hmem] at hm
      omega
    rw [← beforeZero_eq_self hzero, beforeZero_take] at hm
    exact hm.trans_le (prod_take_le_prod (zero_notMem_beforeZero sizes) m)
  · intro hlarge
    have hfront : beforeZero sizes = sizes.take (beforeZero sizes).length :=
      List.prefix_iff_eq_take.1 (List.takeWhile_prefix _)
    exact ⟨(beforeZero sizes).length, hfront ▸ hlarge⟩

namespace Shape

variable {shape : Shape} {axis : Nat}

/-- The product of the first dimensions is that of those before the axis, times the axis. -/
private theorem prod_take_mul_getElem (h : axis < shape.length) :
    (shape.take axis).prod * shape[axis] = (shape.take (axis + 1)).prod :=
  (List.prod_take_succ shape axis h).symm

theorem along_eq (h : axis < shape.length) : Extent.along shape axis =
    ⟨(shape.take axis).prod, shape[axis], (shape.drop (axis + 1)).prod⟩ := by
  simp [Extent.along, h]

/-! ## Shapes with an element count -/

/-- If a shape has an element count although the dimensions after the axis overflow, then there is a
zero before them. -/
theorem zero_mem_take_of_overflows (hfits : ¬ Overflows shape)
    (hafter : Overflows (shape.drop (axis + 1))) : 0 ∈ shape.take (axis + 1) := by
  by_contra hzero
  obtain ⟨m, hm⟩ := hafter
  have hfront : 0 < (shape.take (axis + 1)).prod := Nat.pos_of_ne_zero (List.prod_ne_zero hzero)
  -- the overflowing product is a factor of a product of first dimensions of the whole shape
  have hsplit : (shape.take (axis + 1 + m)).prod =
      (shape.take (axis + 1)).prod * ((shape.drop (axis + 1)).take m).prod := by
    rw [List.take_add, List.prod_append]
  have hle : (shape.take (axis + 1 + m)).prod ≤ maxSize := not_overflows.1 hfits _
  have hgrow := Nat.le_mul_of_pos_left ((shape.drop (axis + 1)).take m).prod hfront
  omega

/-- The extent of an axis that is not refused: all products that are taken of it exist. -/
theorem checked_along (hfits : ¬ Overflows shape) (h : axis < shape.length)
    (hafter : ¬ Overflows (shape.drop (axis + 1))) :
    ∃ rows, checkedMul (Extent.along shape axis).outer (Extent.along shape axis).scan = some rows ∧
      checkedMul rows (Extent.along shape axis).inner = some shape.prod ∧
      checkedProduct ((Extent.along shape axis).dims.take 2) =
        some (Extent.along shape axis).outer ∧
      checkedProduct ((Extent.along shape axis).dims.drop 3) =
        some (Extent.along shape axis).inner := by
  have hdims := not_overflows_dims_along hfits h
  have hinner : (shape.drop (axis + 1)).prod ≤ maxSize := prod_le_maxSize hafter
  refine ⟨(shape.take (axis + 1)).prod, ?_, ?_, ?_, ?_⟩
  · rw [along_eq h, checkedMul_eq_some, prod_take_mul_getElem h]
    exact ⟨rfl, prod_le_maxSize (not_overflows_take hfits (axis + 1))⟩
  · rw [along_eq h, checkedMul_eq_some]
    exact ⟨List.prod_take_mul_prod_drop shape (axis + 1), prod_le_maxSize hfits⟩
  · rw [checkedProduct_eq_some]
    exact ⟨by simp [Extent.dims], not_overflows_take hdims 2⟩
  · rw [checkedProduct_eq_some, along_eq h]
    exact ⟨by simp [Extent.dims], not_overflows_singleton hinner⟩

theorem outcome_plan_along {e : Extent} (h : shape.extent axis = .ok e) (flags : ScanFlags)
    (op : Accumulation) :
    (ScanPlan.along shape axis flags op).outcome = .ok ⟨e, 2, flags.mode op⟩ := by
  simp only [ScanPlan.along, Logged.outcome_bind, Logged.outcome_liftM, h, Logged.outcome_note,
    Logged.outcome_pure]
  rfl

/-- **The axes of a shape with an element count.** An axis is refused exactly when the checked
product of the dimensions after it does not exist, always with the error that carries the shape; and
this takes a zero among the dimensions up to the axis. Otherwise the extent consists of the true
products, its number of elements is computed without overflow and is that of the shape, and the four
dimensions of the extent are seen from dimension 2 as this extent, again without overflow. In
particular, every axis of a shape without a zero can be planned, as a scan of the true products
along dimension 2. -/
theorem extent_of_elementCount {n : Nat} (hcount : shape.elementCount = .ok n)
    (h : axis < shape.rank) :
    (∀ e, shape.extent axis = .error e ↔
        e = .shapeOverflow shape ∧ checkedProduct (shape.drop (axis + 1)) = none) ∧
      (checkedProduct (shape.drop (axis + 1)) = none → 0 ∈ shape.take (axis + 1)) ∧
      (checkedProduct (shape.drop (axis + 1)) ≠ none → ∃ e rows, shape.extent axis = .ok e ∧
        e.outer = (shape.take axis).prod ∧ shape[axis]? = some e.scan ∧
        e.inner = (shape.drop (axis + 1)).prod ∧
        checkedMul e.outer e.scan = some rows ∧ checkedMul rows e.inner = some n ∧ e.count = n ∧
        checkedProduct (e.dims.take 2) = some e.outer ∧
        checkedProduct (e.dims.drop 3) = some e.inner ∧ Extent.along e.dims 2 = e) ∧
      (0 ∉ shape → ∀ position < shape.rank, ∀ flags op,
        (ScanPlan.along shape position flags op).outcome =
          .ok ⟨Extent.along shape position, 2, flags.mode op⟩) := by
  obtain ⟨rfl, hfits⟩ := checkedProduct_eq_some.1 (elementCount_eq_ok.1 hcount)
  rw [Ne, checkedProduct_eq_none]
  refine ⟨fun e => ?_, zero_mem_take_of_overflows hfits, fun hafter => ?_, ?_⟩
  · rw [extent_eq hfits h]
    split_ifs with hafter
    · simp [hafter, eq_comm]
    · simp [hafter]
  · obtain ⟨rows, hrows, htotal, houter, hinner⟩ := checked_along hfits h hafter
    refine ⟨Extent.along shape axis, rows, ?_, rfl, ?_, rfl, hrows, htotal, ?_, houter, hinner, ?_⟩
    · rw [extent_eq hfits h, if_neg hafter]
    · rw [along_eq h, List.getElem?_eq_getElem h]
    · exact Extent.count_along h
    · exact Extent.along_dims _
  · intro hzero position hposition flags op
    have hafter : ¬ Overflows (shape.drop (position + 1)) := by
      intro hover
      exact hzero (List.mem_of_mem_take (zero_mem_take_of_overflows hfits hover))
    have hextent := extent_eq hfits hposition
    rw [if_neg hafter] at hextent
    exact outcome_plan_along hextent flags op

/-- A shape without elements: its first axis is refused, the zero lets the second one pass. -/
theorem extent_emptyShape :
    extent [0, 2 ^ 63, 4] 0 = .error (.shapeOverflow [0, 2 ^ 63, 4]) ∧
      0 ∈ List.take 1 [0, 2 ^ 63, 4] ∧
      ∃ e rows, extent [0, 2 ^ 63, 4] 1 = .ok e ∧ e.outer = 0 ∧ e.inner = 4 ∧
        checkedMul e.outer e.scan = some rows ∧ checkedMul rows e.inner = some 0 := by
  have hcount : elementCount [0, 2 ^ 63, 4] = .ok 0 := by decide +kernel
  have hafter : checkedProduct [2 ^ 63, 4] = none := by decide +kernel
  have hfirst : 0 < rank [0, 2 ^ 63, 4] := by decide
  have hsecond : 1 < rank [0, 2 ^ 63, 4] := by decide
  obtain ⟨hrefused, hzero, _⟩ := extent_of_elementCount hcount hfirst
  obtain ⟨_, _, hextent, _⟩ := extent_of_elementCount hcount hsecond
  obtain ⟨e, rows, he, houter, _, hinner, hrows, htotal, _⟩ := hextent (by decide)
  exact ⟨(hrefused _).2 ⟨rfl, hafter⟩, hzero hafter, e, rows, he, houter, hinner, hrows, htotal⟩

/-! ## Shapes of any size -/

/-- The dimensions before the axis, those after it, or all of them have a product that is no
size. -/
def TooLarge (shape : Shape) (axis : Nat) : Prop :=
  maxSize < (shape.take axis).prod ∨ maxSize < (shape.drop (axis + 1)).prod ∨ maxSize < shape.prod

instance (shape : Shape) (axis : Nat) : Decidable (shape.TooLarge axis) :=
  inferInstanceAs (Decidable (_ ∨ _ ∨ _))

/-- The dimensions that stand before a zero of their side, or those up to the axis, have a product
that is no size. -/
def LargeBeforeZero (shape : Shape) (axis : Nat) : Prop :=
  maxSize < (beforeZero (shape.take axis)).prod ∨
    maxSize < (beforeZero (shape.drop (axis + 1))).prod ∨ maxSize < (shape.take (axis + 1)).prod

instance (shape : Shape) (axis : Nat) : Decidable (shape.LargeBeforeZero axis) :=
  inferInstanceAs (Decidable (_ ∨ _ ∨ _))

/-- Without a zero, dimensions before one are all dimensions. -/
theorem tooLarge_of_largeBeforeZero (hzero : 0 ∉ shape) (h : shape.LargeBeforeZero axis) :
    shape.TooLarge axis := by
  have hbefore : 0 ∉ shape.take axis := fun hmem => hzero (List.mem_of_mem_take hmem)
  have hafter : 0 ∉ shape.drop (axis + 1) := fun hmem => hzero (List.mem_of_mem_drop hmem)
  rcases h with h | h | h
  · rw [beforeZero_eq_self hbefore] at h
    exact Or.inl h
  · rw [beforeZero_eq_self hafter] at h
    exact Or.inr (Or.inl h)
  · exact Or.inr (Or.inr (h.trans_le (prod_take_le_prod hzero (axis + 1))))

/-- An axis is refused when a product is no size, and when a partial product before a zero is
none. -/
theorem extent_eq_ite_tooLarge (h : axis < shape.length) :
    shape.extent axis =
      if shape.TooLarge axis ∨ shape.LargeBeforeZero axis then .error (.shapeOverflow shape)
      else .ok (Extent.along shape axis) := by
  rw [extent_eq_ite h]
  refine if_congr ?_ rfl rfl
  rw [prod_take_mul_getElem h]
  constructor
  · rintro (hover | hover | hover | hover)
    · exact Or.inr (Or.inl (overflows_iff_beforeZero.1 hover))
    · exact Or.inr (Or.inr (Or.inl (overflows_iff_beforeZero.1 hover)))
    · exact Or.inr (Or.inr (Or.inr hover))
    · exact Or.inl (Or.inr (Or.inr hover))
  · rintro ((hlarge | hlarge | hlarge) | (hlarge | hlarge | hlarge))
    · exact Or.inl (overflows_of_lt_prod hlarge)
    · exact Or.inr (Or.inl (overflows_of_lt_prod hlarge))
    · exact Or.inr (Or.inr (Or.inr hlarge))
    · exact Or.inl (overflows_iff_beforeZero.2 hlarge)
    · exact Or.inr (Or.inl (overflows_iff_beforeZero.2 hlarge))
    · exact Or.inr (Or.inr (Or.inl hlarge))

/-- **When an axis is refused.** An axis whose products are too large is always refused, and an axis
that is not refused has the true products. Beyond that, an axis is refused when dimensions before a
zero have a product that is no size; so the three products alone decide exactly where these
dimensions make no difference, and that is the case in every shape without a zero. -/
theorem extent_tooLarge (h : axis < shape.length) :
    shape.extent axis = (if shape.TooLarge axis ∨ shape.LargeBeforeZero axis then
          .error (.shapeOverflow shape)
        else .ok ⟨(shape.take axis).prod, shape[axis], (shape.drop (axis + 1)).prod⟩) ∧
      (shape.extent axis = (if shape.TooLarge axis then .error (.shapeOverflow shape)
          else .ok ⟨(shape.take axis).prod, shape[axis], (shape.drop (axis + 1)).prod⟩) ↔
        (shape.LargeBeforeZero axis → shape.TooLarge axis)) ∧
      (0 ∉ shape → shape.extent axis = if shape.TooLarge axis then .error (.shapeOverflow shape)
          else .ok ⟨(shape.take axis).prod, shape[axis], (shape.drop (axis + 1)).prod⟩) := by
  have hextent := extent_eq_ite_tooLarge h
  rw [along_eq h] at hextent
  have hdecided : shape.extent axis = (if shape.TooLarge axis then .error (.shapeOverflow shape)
        else .ok ⟨(shape.take axis).prod, shape[axis], (shape.drop (axis + 1)).prod⟩) ↔
      (shape.LargeBeforeZero axis → shape.TooLarge axis) := by
    rw [hextent]
    by_cases hlarge : shape.TooLarge axis
    · simp [hlarge]
    · by_cases hfront : shape.LargeBeforeZero axis <;> simp [hlarge, hfront]
  exact ⟨hextent, hdecided, fun hzero => hdecided.2 (tooLarge_of_largeBeforeZero hzero)⟩

/-- The first axis of a shape without a zero, where the dimensions after it are too large. -/
theorem extent_largeSides :
    0 ∉ [3, 2 ^ 63, 4] ∧ extent [3, 2 ^ 63, 4] 0 = .error (.shapeOverflow [3, 2 ^ 63, 4]) := by
  have hzero : 0 ∉ [3, 2 ^ 63, 4] := by decide
  have haxis : 0 < List.length [3, 2 ^ 63, 4] := by decide
  obtain ⟨_, _, hextent⟩ := extent_tooLarge haxis
  refine ⟨hzero, ?_⟩
  rw [hextent hzero]
  exact if_pos (by decide +kernel)

/-- A zero that comes too late: before the axis the product is 0, after it 1, in all it is 0, and
still the axis is refused. -/
theorem extent_lateZero :
    extent [2 ^ 63, 4, 0, 5] 3 = .error (.shapeOverflow [2 ^ 63, 4, 0, 5]) ∧
      List.prod [2 ^ 63, 4, 0] = 0 ∧ List.prod ([] : List Nat) = 1 ∧
      List.prod [2 ^ 63, 4, 0, 5] = 0 ∧ ¬ TooLarge [2 ^ 63, 4, 0, 5] 3 := by
  decide +kernel

end Shape

end TensorScan
