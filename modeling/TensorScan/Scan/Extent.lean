import TensorScan.Scan.Mode
import TensorScan.Shape

set_option autoImplicit false

/-! # A shape seen from one of its dimensions

Seen from one of its dimensions, the *axis*, a row-major buffer consists of `outer` blocks; a
block has `scan` rows, one for each position along the axis, and a row has `inner` elements.
The element in block `o`, row `s`, column `i` stands at `Extent.index o s i`, so neighbours
along the axis are `inner` places apart. A scan of the buffer walks its lines along the axis;
`Extent.line` lists the places of one line in the order of the walk.

An extent is itself a shape of four dimensions, `[1, outer, scan, inner]`, seen from its
dimension number 2 (`along_dims`). So every scan can be brought into four dimensions.

There are two ways to an extent. `Extent.along` multiplies natural numbers. `Shape.extent`
insists that both products, and the number of all elements, are sizes: they become the sizes of
a graph, so they must fit even when a dimension of size zero leaves no elements.
-/

namespace TensorScan

/-- A row-major buffer seen from one of its dimensions. -/
structure Extent where
  /-- The number of blocks: the product of the dimensions before the axis. -/
  outer : Nat
  /-- The size of the axis. -/
  scan : Nat
  /-- The length of a row: the product of the dimensions after the axis. -/
  inner : Nat
  deriving DecidableEq

namespace Extent

/-- The dimensions `dims` seen from number `axis`. An axis that does not exist has no
positions. -/
def along (dims : List Nat) (axis : Nat) : Extent where
  outer := product (dims.take axis)
  scan := dims.getD axis 0
  inner := product (dims.drop (axis + 1))

def count (e : Extent) : Nat := e.outer * e.scan * e.inner

def isEmpty (e : Extent) : Bool := e.outer == 0 || e.scan == 0 || e.inner == 0

/-- The extent as a shape of four dimensions. -/
def dims (e : Extent) : List Nat := [1, e.outer, e.scan, e.inner]

def render (e : Extent) : String := compactSizes e.dims

theorem isEmpty_iff (e : Extent) : e.isEmpty = true ↔ e.count = 0 := by
  simp only [isEmpty, count, Bool.or_eq_true, beq_iff_eq, Nat.mul_eq_zero]

/-- Seen from dimension 2, the four dimensions of an extent are that extent. -/
@[simp] theorem along_dims (e : Extent) : along e.dims 2 = e := by
  cases e
  simp [along, dims, product]

/-! ## Places -/

/-- The place of the element in block `o`, row `s` and column `i`. -/
def index (e : Extent) (o s i : Nat) : Nat := o * e.scan * e.inner + s * e.inner + i

/-- The places of the line through block `o` and column `i`, in the order of the walk. -/
def line (e : Extent) (direction : Direction) (o i : Nat) : List Nat :=
  (List.range e.scan).map fun step => e.index o (direction.position e.scan step) i

/-- All lines, block by block and column by column. -/
def lines (e : Extent) (direction : Direction) : List (List Nat) :=
  (List.range e.outer).flatMap fun o => (List.range e.inner).map fun i => e.line direction o i

/-- Every place is inside the buffer. -/
theorem index_lt (e : Extent) {o s i : Nat} (ho : o < e.outer) (hs : s < e.scan)
    (hi : i < e.inner) : e.index o s i < e.count := by
  have hrow : s * e.inner + i < e.scan * e.inner := by
    calc s * e.inner + i < s * e.inner + e.inner := by omega
      _ = (s + 1) * e.inner := by rw [Nat.add_mul, Nat.one_mul]
      _ ≤ e.scan * e.inner := Nat.mul_le_mul_right _ hs
  calc e.index o s i = o * (e.scan * e.inner) + (s * e.inner + i) := by
        simp only [index, Nat.mul_assoc, Nat.add_assoc]
    _ < o * (e.scan * e.inner) + e.scan * e.inner := by omega
    _ = (o + 1) * (e.scan * e.inner) := by rw [Nat.add_mul, Nat.one_mul]
    _ ≤ e.outer * (e.scan * e.inner) := Nat.mul_le_mul_right _ ho
    _ = e.count := by rw [count, Nat.mul_assoc]

/-- A line has as many places as the axis has positions. -/
@[simp] theorem length_line (e : Extent) (direction : Direction) (o i : Nat) :
    (e.line direction o i).length = e.scan := by
  simp [line]

theorem lt_count_of_mem_line {e : Extent} {direction : Direction} {o i k : Nat}
    (ho : o < e.outer) (hi : i < e.inner) (hk : k ∈ e.line direction o i) : k < e.count := by
  simp only [line, List.mem_map, List.mem_range] at hk
  obtain ⟨step, hstep, rfl⟩ := hk
  exact e.index_lt ho (direction.position_lt hstep) hi

/-! ## Extents whose numbers are sizes -/

/-- The dimensions `before`, `size` and `after` seen from the one in the middle, if both
products and the number of all elements are sizes. -/
def checked? (before : List Nat) (size : Nat) (after : List Nat) : Option Extent := do
  let outer ← checkedProduct before
  let inner ← checkedProduct after
  let n ← checkedMul outer size
  let _ ← checkedMul n inner
  pure ⟨outer, size, inner⟩

end Extent

/-- The shape seen from its dimension number `axis`. -/
def Shape.extent (shape : Shape) (axis : Nat) : Except Error Extent :=
  match shape[axis]? with
  | none => .error (.axisOutOfRange (min axis maxAxis : Nat) shape.rank)
  | some size =>
      match Extent.checked? (shape.take axis) size (shape.drop (axis + 1)) with
      | none => .error (.shapeOverflow shape)
      | some e => .ok e

end TensorScan
