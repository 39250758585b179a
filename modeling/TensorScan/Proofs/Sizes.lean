import Mathlib
import TensorScan.Graph.Basic

set_option autoImplicit false

/-! # When products of sizes fit

`checkedProduct` looks at every partial product from the left, not only at the last one: a list
of sizes *overflows* when the product of some of its first members is no size. With a zero in the
list this says more than that the product of all members is a size, and the place of the zero
matters. Everything about element counts comes from `checkedProduct_eq_some` and
`checkedProduct_eq_none`, which read the two outcomes of a checked product in these terms.

`Shape.extent_eq_ite` says of every shape which of its axes are refused. A shape whose element count
exists does not overflow, and neither does any beginning of it. What can still overflow are the
sizes *after* an axis, when there is a zero before them. This is the only way in which an axis of
such a shape is refused (`Shape.extent_eq`).
-/

namespace TensorScan

/-- Some product of the first sizes of the list is no size. -/
def Overflows (sizes : List Nat) : Prop := ∃ m, maxSize < (sizes.take m).prod

theorem not_overflows {sizes : List Nat} :
    ¬ Overflows sizes ↔ ∀ m, (sizes.take m).prod ≤ maxSize := by
  simp [Overflows]

@[simp] theorem product_eq (sizes : List Nat) : product sizes = sizes.prod := rfl

/-! ## Checked products -/

private theorem foldlM_checkedMul {sizes : List Nat} {acc n : Nat} (hacc : acc ≤ maxSize) :
    sizes.foldlM checkedMul acc = some n ↔
      acc * sizes.prod = n ∧ ∀ m, acc * (sizes.take m).prod ≤ maxSize := by
  induction sizes generalizing acc with
  | nil => simp [hacc]
  | cons s rest ih =>
      rw [List.foldlM_cons]
      cases hmul : checkedMul acc s with
      | none =>
          -- the partial product that ends with this factor is no size
          rw [checkedMul_eq_none] at hmul
          simp only [Option.bind_eq_bind, Option.bind_none, reduceCtorEq, false_iff, not_and]
          intro _ hall
          have hone := hall 1
          simp only [List.take_succ_cons, List.take_zero, List.prod_cons, List.prod_nil,
            Nat.mul_one] at hone
          omega
      | some a =>
          obtain ⟨rfl, hle⟩ := checkedMul_eq_some.1 hmul
          simp only [Option.bind_eq_bind, Option.bind_some, List.prod_cons]
          rw [ih hle, Nat.mul_assoc]
          constructor
          · rintro ⟨hn, hall⟩
            refine ⟨hn, fun m => ?_⟩
            cases m with
            | zero => simpa using hacc
            | succ m => simpa [Nat.mul_assoc] using hall m
          · rintro ⟨hn, hall⟩
            refine ⟨hn, fun m => ?_⟩
            simpa [Nat.mul_assoc] using hall (m + 1)

/-- A checked product exists exactly when nothing overflows, and it is the product then. -/
theorem checkedProduct_eq_some {sizes : List Nat} {n : Nat} :
    checkedProduct sizes = some n ↔ sizes.prod = n ∧ ¬ Overflows sizes := by
  rw [checkedProduct, foldlM_checkedMul (by decide), not_overflows]
  simp only [Nat.one_mul]

theorem checkedProduct_eq_none {sizes : List Nat} :
    checkedProduct sizes = none ↔ Overflows sizes := by
  constructor
  · intro h
    by_contra hfits
    rw [checkedProduct_eq_some.2 ⟨rfl, hfits⟩] at h
    contradiction
  · intro h
    cases hn : checkedProduct sizes with
    | none => rfl
    | some n => exact absurd h (checkedProduct_eq_some.1 hn).2

instance (sizes : List Nat) : Decidable (Overflows sizes) :=
  decidable_of_iff (checkedProduct sizes = none) checkedProduct_eq_none

theorem prod_le_maxSize {sizes : List Nat} (h : ¬ Overflows sizes) : sizes.prod ≤ maxSize := by
  have hall := not_overflows.1 h sizes.length
  rwa [List.take_length] at hall

/-- The first sizes of a list that does not overflow do not overflow either. -/
theorem not_overflows_take {sizes : List Nat} (h : ¬ Overflows sizes) (k : Nat) :
    ¬ Overflows (sizes.take k) := by
  rw [not_overflows] at h ⊢
  intro m
  rw [List.take_take]
  exact h (min m k)

/-- Where nothing overflows, cutting off changes nothing. -/
theorem saturatingProduct_eq {sizes : List Nat} (h : ¬ Overflows sizes) :
    saturatingProduct sizes = sizes.prod := by
  have key : ∀ (l : List Nat) (acc : Nat), (∀ m, acc * (l.take m).prod ≤ maxSize) →
      l.foldl saturatingMul acc = acc * l.prod := by
    intro l
    induction l with
    | nil => intro acc _; simp
    | cons s rest ih =>
        intro acc hall
        have hone : acc * s ≤ maxSize := by simpa using hall 1
        -- the factor is not cut off, and what is accumulated next is again a partial product
        have hmul : saturatingMul acc s = acc * s := Nat.min_eq_left hone
        rw [List.foldl_cons, hmul, List.prod_cons, ← Nat.mul_assoc]
        exact ih (acc * s) fun m => by simpa [Nat.mul_assoc] using hall (m + 1)
  have hkey := key sizes 1 (by simpa using not_overflows.1 h)
  simpa [saturatingProduct] using hkey

/-! ## Shapes seen from an axis -/

namespace Extent

/-- A list of dimensions has as many elements as it has when it is seen from one of them. -/
theorem count_along {dims : List Nat} {axis : Nat} (h : axis < dims.length) :
    (along dims axis).count = dims.prod := by
  have hsize : dims.getD axis 0 = dims[axis] := by simp [h]
  rw [count, along, hsize, product_eq, product_eq, ← List.prod_take_succ dims axis h,
    List.prod_take_mul_prod_drop]

/-- An extent none of whose partial products passes the bound can be given to a graph. -/
theorem not_overflows_dims {e : Extent} (houter : e.outer ≤ maxSize)
    (hrows : e.outer * e.scan ≤ maxSize) (hcount : e.count ≤ maxSize) : ¬ Overflows e.dims := by
  rw [not_overflows]
  intro m
  rcases m with _ | _ | _ | _ | m
  · simp [maxSize]
  · simp [dims, maxSize]
  · simpa [dims] using houter
  · simpa [dims] using hrows
  · simpa [dims, count, Nat.mul_assoc] using hcount

/-- Three dimensions make an extent when both products of the outer ones exist and no product with
the middle one passes the bound. -/
theorem checked?_eq_some {before after : List Nat} {size : Nat} {e : Extent} :
    checked? before size after = some e ↔ ¬ Overflows before ∧ ¬ Overflows after ∧
      before.prod * size ≤ maxSize ∧ before.prod * size * after.prod ≤ maxSize ∧
      e = ⟨before.prod, size, after.prod⟩ := by
  simp only [checked?, Option.bind_eq_bind, Option.bind_eq_some_iff, Option.pure_def,
    Option.some.injEq, checkedProduct_eq_some, checkedMul_eq_some]
  constructor
  · rintro ⟨outer, ⟨rfl, hbefore⟩, inner, ⟨rfl, hafter⟩, rows, ⟨rfl, hrows⟩, n, ⟨rfl, hn⟩, rfl⟩
    exact ⟨hbefore, hafter, hrows, hn, rfl⟩
  · rintro ⟨hbefore, hafter, hrows, hn, rfl⟩
    exact ⟨_, ⟨rfl, hbefore⟩, _, ⟨rfl, hafter⟩, _, ⟨rfl, hrows⟩, _, ⟨rfl, hn⟩, rfl⟩

end Extent

/-- An axis of a shape is refused exactly when one of the products that are looked at is no size. -/
theorem Shape.extent_eq_ite {shape : Shape} {axis : Nat} (h : axis < shape.length) :
    shape.extent axis =
      if Overflows (shape.take axis) ∨ Overflows (shape.drop (axis + 1)) ∨
          maxSize < (shape.take axis).prod * shape[axis] ∨ maxSize < shape.prod then
        .error (.shapeOverflow shape)
      else .ok (Extent.along shape axis) := by
  have hall : (shape.take axis).prod * shape[axis] * (shape.drop (axis + 1)).prod = shape.prod := by
    rw [← List.prod_take_succ shape axis h, List.prod_take_mul_prod_drop]
  have halong : Extent.along shape axis =
      ⟨(shape.take axis).prod, shape[axis], (shape.drop (axis + 1)).prod⟩ := by
    simp [Extent.along, h]
  have hchecked : ∀ e, Extent.checked? (shape.take axis) shape[axis] (shape.drop (axis + 1)) =
      some e ↔ ¬ (Overflows (shape.take axis) ∨ Overflows (shape.drop (axis + 1)) ∨
        maxSize < (shape.take axis).prod * shape[axis] ∨ maxSize < shape.prod) ∧
        e = Extent.along shape axis := by
    intro e
    rw [Extent.checked?_eq_some, hall, halong]
    simp only [not_or, Nat.not_lt, and_assoc]
  rw [Shape.extent, List.getElem?_eq_getElem h]
  split_ifs with hover
  · have hnone : Extent.checked? (shape.take axis) shape[axis] (shape.drop (axis + 1)) = none := by
      rw [Option.eq_none_iff_forall_ne_some]
      intro e he
      exact ((hchecked e).1 he).1 hover
    simp only [hnone]
  · simp only [(hchecked _).2 ⟨hover, rfl⟩]

/-- An extent that a shape has is the shape seen from one of its dimensions. -/
theorem Shape.eq_along_of_extent {shape : Shape} {axis : Nat} {e : Extent}
    (h : shape.extent axis = .ok e) : axis < shape.length ∧ e = Extent.along shape axis := by
  have hlt : axis < shape.length := by
    by_contra hge
    rw [Shape.extent, List.getElem?_eq_none_iff.2 (by omega)] at h
    contradiction
  rw [extent_eq_ite hlt] at h
  split_ifs at h
  exact ⟨hlt, (Except.ok.inj h).symm⟩

/-- A shape with an element count is refused an axis exactly when the sizes after it overflow. -/
theorem Shape.extent_eq {shape : Shape} (hfits : ¬ Overflows shape) {axis : Nat}
    (h : axis < shape.length) :
    shape.extent axis = if Overflows (shape.drop (axis + 1)) then .error (.shapeOverflow shape)
      else .ok (Extent.along shape axis) := by
  have hbefore : ¬ Overflows (shape.take axis) := not_overflows_take hfits axis
  have hrows : (shape.take axis).prod * shape[axis] ≤ maxSize := by
    rw [← List.prod_take_succ shape axis h]
    exact prod_le_maxSize (not_overflows_take hfits (axis + 1))
  have hall : shape.prod ≤ maxSize := prod_le_maxSize hfits
  rw [extent_eq_ite h]
  refine if_congr ?_ rfl rfl
  simp only [hbefore, Nat.not_lt.2 hrows, Nat.not_lt.2 hall, false_or, or_false]

/-- The extent of a shape with an element count, as the sizes of a graph, does not overflow. -/
theorem not_overflows_dims_along {dims : List Nat} (hfits : ¬ Overflows dims) {axis : Nat}
    (h : axis < dims.length) : ¬ Overflows (Extent.along dims axis).dims := by
  have hsize : dims.getD axis 0 = dims[axis] := by simp [h]
  refine Extent.not_overflows_dims ?_ ?_ ?_
  · exact prod_le_maxSize (not_overflows_take hfits axis)
  · show (dims.take axis).prod * dims.getD axis 0 ≤ maxSize
    rw [hsize, ← List.prod_take_succ dims axis h]
    exact prod_le_maxSize (not_overflows_take hfits (axis + 1))
  · rw [Extent.count_along h]
    exact prod_le_maxSize hfits

end TensorScan
