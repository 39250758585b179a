import Mathlib
import TensorScan.Scan.Mode

set_option autoImplicit false

/-! # What is accumulated in all

`Accumulation.total` is what is accumulated after all members of a list, taken in from the left.
For every element type, one more member is one more step (`Accumulation.total_concat`).

For integers the order of the members does not matter, nor how they are put into groups. The
numbers wrap around, but addition and multiplication of words are associative and commutative all
the same. So the total of two lists in a row is made up of their totals
(`Accumulation.total_append`), a table has the same total by rows as by columns
(`Accumulation.total_exchange`), and it does not matter whether numbers wrap around at every step or
only at the end (`Accumulation.total_eq_ofNat`). For floats none of this holds.
-/

namespace TensorScan

namespace Accumulation

variable (op : Accumulation) {d : DType}

/-- What is accumulated after all elements of a list. -/
def total (op : Accumulation) (d : DType) (xs : List (Word d)) : Word d :=
  xs.foldl (op.combine d) (op.identity d)

@[simp] theorem total_nil (d : DType) : op.total d [] = op.identity d := rfl

theorem total_concat (xs : List (Word d)) (x : Word d) :
    op.total d (xs ++ [x]) = op.combine d (op.total d xs) x := by
  rw [total, List.foldl_append]
  rfl

theorem total_range_succ (element : Nat → Word d) (step : Nat) :
    op.total d ((List.range (step + 1)).map element) =
      op.combine d (op.total d ((List.range step).map element)) (element step) := by
  rw [List.range_succ, List.map_append]
  exact op.total_concat _ _

/-- What is accumulated of natural numbers, which do not wrap around. -/
def unwrapped (op : Accumulation) (ns : List Nat) : Nat :=
  match op with
  | .sum => ns.sum
  | .product => ns.prod

/-! ## Integers -/

section Integers

variable (h : d.isInteger = true)

include h

/-- Integers are added and multiplied as words. -/
theorem combine_eq (x y : Word d) :
    op.combine d x y = match op with
      | .sum => x + y
      | .product => x * y := by
  cases d with
  | f32 => contradiction
  | f16 => contradiction
  | i64 => cases op <;> rfl
  | i32 => cases op <;> rfl

theorem identity_eq :
    op.identity d = match op with
      | .sum => 0
      | .product => 1 := by
  cases d with
  | f32 => contradiction
  | f16 => contradiction
  | i64 => cases op <;> rfl
  | i32 => cases op <;> rfl

theorem associative_combine : Std.Associative (op.combine d) := by
  constructor
  intro x y z
  simp only [op.combine_eq h]
  cases op with
  | sum => exact BitVec.add_assoc x y z
  | product => exact BitVec.mul_assoc x y z

theorem commutative_combine : Std.Commutative (op.combine d) := by
  constructor
  intro x y
  simp only [op.combine_eq h]
  cases op with
  | sum => exact BitVec.add_comm x y
  | product => exact BitVec.mul_comm x y

theorem combine_identity (x : Word d) : op.combine d x (op.identity d) = x := by
  rw [op.combine_eq h, op.identity_eq h]
  cases op with
  | sum => exact BitVec.add_zero x
  | product => exact BitVec.mul_one x

/-- What was accumulated before a list may be taken in before its total. -/
theorem foldl_combine (acc : Word d) (xs : List (Word d)) :
    xs.foldl (op.combine d) acc = op.combine d acc (op.total d xs) := by
  have := op.associative_combine h
  calc xs.foldl (op.combine d) acc
      = xs.foldl (op.combine d) (op.combine d acc (op.identity d)) := by
        rw [op.combine_identity h]
    _ = op.combine d acc (op.total d xs) := List.foldl_assoc

theorem total_append (xs ys : List (Word d)) :
    op.total d (xs ++ ys) = op.combine d (op.total d xs) (op.total d ys) := by
  rw [total, List.foldl_append]
  exact op.foldl_combine h _ ys

theorem total_cons (x : Word d) (xs : List (Word d)) :
    op.total d (x :: xs) = op.combine d x (op.total d xs) := by
  have hcomm := op.commutative_combine h
  calc op.total d (x :: xs) = op.combine d (op.combine d (op.identity d) x) (op.total d xs) :=
        op.foldl_combine h _ xs
    _ = op.combine d x (op.total d xs) := by
        rw [hcomm.comm (op.identity d), op.combine_identity h]

/-- However often it wraps around, the total of integers is that of natural numbers, modulo the
power of two of the width. -/
theorem total_eq_ofNat (xs : List (Word d)) :
    op.total d xs = BitVec.ofNat d.bitWidth (op.unwrapped (xs.map BitVec.toNat)) := by
  induction xs with
  | nil =>
      rw [total_nil, op.identity_eq h]
      cases op <;> rfl
  | cons x rest ih =>
      rw [op.total_cons h, op.combine_eq h, ih]
      cases op with
      | sum =>
          simp only [unwrapped, List.map_cons, List.sum_cons]
          rw [BitVec.ofNat_add, BitVec.ofNat_toNat, BitVec.setWidth_eq]
      | product =>
          simp only [unwrapped, List.map_cons, List.prod_cons]
          rw [BitVec.ofNat_mul, BitVec.ofNat_toNat, BitVec.setWidth_eq]

theorem total_perm {xs ys : List (Word d)} (hperm : xs.Perm ys) :
    op.total d xs = op.total d ys := by
  have := op.associative_combine h
  have := op.commutative_combine h
  exact hperm.foldl_op_eq

theorem total_map_combine {α : Type} (l : List α) (f g : α → Word d) :
    op.total d (l.map fun a => op.combine d (f a) (g a)) =
      op.combine d (op.total d (l.map f)) (op.total d (l.map g)) := by
  have hassoc := op.associative_combine h
  have hcomm := op.commutative_combine h
  induction l with
  | nil => exact (op.combine_identity h _).symm
  | cons a rest ih =>
      simp only [List.map_cons, op.total_cons h, ih]
      -- the two inner members change places
      rw [hassoc.assoc, hassoc.assoc, ← hassoc.assoc (g a), hcomm.comm (g a), hassoc.assoc]

/-- **By rows and by columns** a table has the same total. -/
theorem total_exchange {α β : Type} (rows : List α) (columns : List β) (f : α → β → Word d) :
    op.total d (rows.map fun a => op.total d (columns.map fun b => f a b)) =
      op.total d (columns.map fun b => op.total d (rows.map fun a => f a b)) := by
  induction rows with
  | nil =>
      -- the total of identities is the identity
      induction columns with
      | nil => rfl
      | cons b rest ih =>
          rw [List.map_cons, op.total_cons h, ← ih]
          exact (op.combine_identity h _).symm
  | cons a rest ih =>
      simp only [List.map_cons, op.total_cons h, ih, op.total_map_combine h]

end Integers

end Accumulation

end TensorScan
