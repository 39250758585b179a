import Mathlib
import TensorScan.Proofs.Sizes

set_option autoImplicit false

/-! # Multi-indices

A multi-index of a shape has one coordinate for each dimension, smaller than that dimension. In
row-major order the last coordinate varies fastest; `Shape.place` is the place of a multi-index
in this order, and no place is left out (`Shape.exists_place`).

The walk of a buffer knows blocks, rows and columns instead. `Shape.place_eq_index` ties the two:
seen from one of its dimensions, the coordinates of a multi-index before that dimension make up
the block, and those after it the column. So changing the coordinate of the axis and nothing else
moves along a line (`Shape.place_set`).
-/

namespace TensorScan

namespace Shape

/-! ## Coordinates -/

theorem getD_set_self {p : List Nat} {axis : Nat} (h : axis < p.length) (j : Nat) :
    (p.set axis j).getD axis 0 = j := by
  simp [List.getD_eq_getElem?_getD, h]

/-- Setting a coordinate leaves the others alone. -/
theorem getD_set_ne {axis other : Nat} (h : axis ≠ other) (p : List Nat) (j : Nat) :
    (p.set axis j).getD other 0 = p.getD other 0 := by
  rw [List.getD_eq_getElem?_getD, List.getElem?_set_ne h, ← List.getD_eq_getElem?_getD]

/-- Does `p` have one coordinate for each dimension, and is each smaller than its dimension? -/
def HasIndex (shape : Shape) (p : List Nat) : Prop := List.Forall₂ (· < ·) p shape

/-! ## Places -/

/-- The place of a multi-index in row-major order. -/
def place : Shape → List Nat → Nat
  | _ :: rest, i :: p => i * List.prod rest + place rest p
  | _, _ => 0

theorem place_lt {shape : Shape} {p : List Nat} (h : shape.HasIndex p) :
    shape.place p < List.prod shape := by
  induction h with
  | nil => simp [place]
  | @cons i n p rest hi _ ih =>
      calc place (n :: rest) (i :: p) = i * List.prod rest + place rest p := rfl
        _ < i * List.prod rest + List.prod rest := Nat.add_lt_add_left ih _
        _ = (i + 1) * List.prod rest := by rw [Nat.add_mul, Nat.one_mul]
        _ ≤ n * List.prod rest := Nat.mul_le_mul_right _ hi
        _ = List.prod (n :: rest) := List.prod_cons.symm

/-- Every place is that of a multi-index. -/
theorem exists_place {shape : Shape} {k : Nat} (h : k < List.prod shape) :
    ∃ p, shape.HasIndex p ∧ shape.place p = k := by
  induction shape generalizing k with
  | nil =>
      -- without dimensions there is only one place
      rw [List.prod_nil, Nat.lt_one_iff] at h
      exact ⟨[], List.Forall₂.nil, h.symm⟩
  | cons n rest ih =>
      rw [List.prod_cons] at h
      have hrest : 0 < List.prod rest := Nat.pos_of_lt_mul_left h
      obtain ⟨p, hp, hplace⟩ := ih (Nat.mod_lt k hrest)
      refine ⟨k / List.prod rest :: p, List.Forall₂.cons (Nat.div_lt_of_lt_mul ?_) hp, ?_⟩
      · rwa [Nat.mul_comm]
      · rw [place, hplace, Nat.div_add_mod']

/-- Seen from dimension `axis`, the coordinates before it number the block of a multi-index, its
coordinate there numbers the row, and those after it number the column. -/
theorem place_eq_index {shape : Shape} {p : List Nat} (hlen : p.length = shape.length)
    {axis : Nat} (haxis : axis < shape.length) :
    shape.place p = (Extent.along shape axis).index (place (shape.take axis) (p.take axis))
      (p.getD axis 0) (place (shape.drop (axis + 1)) (p.drop (axis + 1))) := by
  induction shape generalizing p axis with
  | nil => exact absurd haxis (Nat.not_lt_zero axis)
  | cons n rest ih =>
      cases p with
      | nil => contradiction
      | cons i p =>
          have hlen' : p.length = rest.length := by simpa using hlen
          cases axis with
          | zero => simp [place, Extent.index, Extent.along]
          | succ axis =>
              -- the first coordinate adds whole copies of the rest, so it only moves the block
              have haxis' : axis < rest.length := by simpa using haxis
              have hcount := Extent.count_along haxis'
              have hrest := ih hlen' haxis'
              simp only [Extent.index, Extent.count, Extent.along, product_eq] at hcount hrest
              simp only [place, Extent.index, Extent.along, product_eq, List.take_succ_cons,
                List.drop_succ_cons, List.getD_cons_succ, List.prod_cons, hrest, ← hcount]
              ring

theorem HasIndex.length_eq {shape : Shape} {p : List Nat} (h : shape.HasIndex p) :
    p.length = shape.length :=
  List.Forall₂.length_eq h

theorem HasIndex.take {shape : Shape} {p : List Nat} (h : shape.HasIndex p) (k : Nat) :
    HasIndex (shape.take k) (p.take k) :=
  List.forall₂_take k h

theorem HasIndex.drop {shape : Shape} {p : List Nat} (h : shape.HasIndex p) (k : Nat) :
    HasIndex (shape.drop k) (p.drop k) :=
  List.forall₂_drop k h

theorem HasIndex.getD_lt {shape : Shape} {p : List Nat} (h : shape.HasIndex p) {axis : Nat}
    (haxis : axis < shape.length) : p.getD axis 0 < shape.getD axis 0 := by
  induction h generalizing axis with
  | nil => exact absurd haxis (Nat.not_lt_zero axis)
  | cons hi _ ih =>
      cases axis with
      | zero => simpa using hi
      | succ axis => simpa using ih (by simpa using haxis)

/-- The coordinate of the axis may be any position along it. -/
theorem HasIndex.set {shape : Shape} {p : List Nat} (h : shape.HasIndex p) {axis j : Nat}
    (hj : j < shape.getD axis 0) : shape.HasIndex (p.set axis j) := by
  induction h generalizing axis with
  | nil => exact List.Forall₂.nil
  | cons hi hrest ih =>
      cases axis with
      | zero => exact List.Forall₂.cons (by simpa using hj) hrest
      | succ axis => exact List.Forall₂.cons hi (ih (by simpa using hj))

/-- A dimension and the coordinate there may be changed together. -/
theorem HasIndex.resize {shape : Shape} {p : List Nat} (h : shape.HasIndex p) {axis size j : Nat}
    (hj : j < size) : HasIndex (shape.set axis size) (p.set axis j) := by
  induction h generalizing axis with
  | nil => exact List.Forall₂.nil
  | cons hi hrest ih =>
      cases axis with
      | zero => exact List.Forall₂.cons hj hrest
      | succ axis => exact List.Forall₂.cons hi ih

/-- Multi-indices that differ in the coordinate of the axis only are on one line. -/
theorem place_set {shape : Shape} {p : List Nat} (hlen : p.length = shape.length) {axis : Nat}
    (haxis : axis < shape.length) (j : Nat) :
    shape.place (p.set axis j) =
      (Extent.along shape axis).index (place (shape.take axis) (p.take axis)) j
        (place (shape.drop (axis + 1)) (p.drop (axis + 1))) := by
  rw [place_eq_index (by simpa using hlen) haxis, getD_set_self (hlen ▸ haxis),
    List.take_set_of_le (Nat.le_refl _), List.drop_set_of_lt (Nat.lt_succ_self axis)]

end Shape

end TensorScan
