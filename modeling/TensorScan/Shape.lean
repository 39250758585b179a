import TensorScan.Error

set_option autoImplicit false

/-! # Shapes

The shape of a tensor is the list of its dimensions, outermost first; a scalar has none. Its
element count is the product of the dimensions, taken from left to right, and exists only when
every partial product is a size.
-/

namespace TensorScan

/-- The dimensions of a tensor, outermost first. -/
abbrev Shape : Type := List Nat

namespace Shape

def scalar : Shape := []

def rank (s : Shape) : Nat := s.length

def isScalar (s : Shape) : Bool := s.isEmpty

def elementCount (s : Shape) : Except Error Nat :=
  match checkedProduct s with
  | some n => .ok n
  | none => .error (.shapeOverflow s)

theorem elementCount_eq_ok {s : Shape} {n : Nat} :
    s.elementCount = .ok n ↔ checkedProduct s = some n := by
  unfold elementCount
  cases checkedProduct s <;> simp

theorem elementCount_eq_error {s : Shape} {e : Error} :
    s.elementCount = .error e ↔ checkedProduct s = none ∧ e = .shapeOverflow s := by
  unfold elementCount
  cases checkedProduct s <;> simp [eq_comm]

@[simp] theorem elementCount_scalar : scalar.elementCount = .ok 1 := rfl

end Shape

end TensorScan
