import TensorScan.Word

set_option autoImplicit false

/-! # Scan modes

A scan replaces every element along an axis by an accumulated value. What is accumulated, and
how, is its mode: the operation, the direction in which the axis is walked, and whether an
element is left out of its own accumulated value.
-/

namespace TensorScan

/-- What is accumulated. -/
inductive Accumulation
  | sum
  | product
  deriving DecidableEq, Inhabited

/-- The order in which an axis is walked. -/
inductive Direction
  | increasing
  | decreasing
  deriving DecidableEq, Inhabited

/-- How a scan accumulates. -/
structure ScanMode where
  op : Accumulation
  direction : Direction
  /-- Is an element left out of its own value? -/
  exclusive : Bool
  deriving DecidableEq

namespace Accumulation

def name : Accumulation → String
  | .sum => "Cumsum"
  | .product => "Cumprod"

def tag : Accumulation → String
  | .sum => "Sum"
  | .product => "Product"

/-- What is accumulated before the first element. -/
def identity (op : Accumulation) (d : DType) : Word d :=
  match op with
  | .sum => Word.zero d
  | .product => Word.one d

/-- What is accumulated after one more element. -/
def combine (op : Accumulation) (d : DType) (acc x : Word d) : Word d :=
  match op with
  | .sum => Word.add d acc x
  | .product => Word.mul d acc x

/-- Different scans have different names. -/
theorem name_injective {a b : Accumulation} (h : a.name = b.name) : a = b := by
  revert h
  cases a <;> cases b <;> decide

end Accumulation

namespace Direction

def tag : Direction → String
  | .increasing => "Increasing"
  | .decreasing => "Decreasing"

/-- The position visited at a step of a walk over `length` positions. -/
def position (direction : Direction) (length step : Nat) : Nat :=
  match direction with
  | .increasing => step
  | .decreasing => length - 1 - step

theorem position_lt (direction : Direction) {length step : Nat} (h : step < length) :
    direction.position length step < length := by
  cases direction <;> simp only [position] <;> omega

/-- No position is visited at two steps. -/
theorem position_injective (direction : Direction) {length a b : Nat} (ha : a < length)
    (hb : b < length) (h : direction.position length a = direction.position length b) : a = b := by
  cases direction <;> simp only [position] at h <;> omega

end Direction

/-- The two flags of a scan in the description of an operator. -/
structure ScanFlags where
  /-- Accumulate from the end of the axis. -/
  reverse : Bool
  /-- Leave every element out of its own value. -/
  exclusive : Bool
  deriving DecidableEq

namespace ScanFlags

def direction (flags : ScanFlags) : Direction :=
  if flags.reverse then .decreasing else .increasing

def mode (flags : ScanFlags) (op : Accumulation) : ScanMode :=
  ⟨op, flags.direction, flags.exclusive⟩

end ScanFlags

end TensorScan
