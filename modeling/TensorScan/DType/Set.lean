import TensorScan.DType

set_option autoImplicit false

/-! # Sets of element types

A set of element types is a bit mask: the type with number `n` is a member when bit `n` is
set. `DTypeSet.contains_union` and `DTypeSet.contains_single` say what the operations do to
membership; `DTypeSet.mem_members` says that listing the members loses nothing.
-/

namespace TensorScan

/-- A set of element types. -/
structure DTypeSet where
  /-- Bit `d.code` says whether `d` is a member. -/
  mask : Nat
  deriving DecidableEq

namespace DTypeSet

def empty : DTypeSet := ⟨0⟩

def single (d : DType) : DTypeSet := ⟨1 <<< d.code⟩

def union (s t : DTypeSet) : DTypeSet := ⟨s.mask ||| t.mask⟩

def contains (s : DTypeSet) (d : DType) : Bool := s.mask.testBit d.code

/-- The members, in the order of `DType.all`. -/
def members (s : DTypeSet) : List DType := DType.all.filter s.contains

/-- The types a scan can be taken over. -/
def scannable : DTypeSet :=
  (single .f32).union ((single .f16).union ((single .i64).union (single .i32)))

def index : DTypeSet := (single .i64).union (single .i32)

@[simp] theorem contains_empty (d : DType) : empty.contains d = false := by
  simp [empty, contains]

@[simp] theorem contains_single (d e : DType) : (single d).contains e = decide (d = e) := by
  cases d <;> cases e <;> rfl

@[simp] theorem contains_union (s t : DTypeSet) (d : DType) :
    (s.union t).contains d = (s.contains d || t.contains d) := by
  simp [union, contains, Nat.testBit_or]

theorem mem_members (s : DTypeSet) (d : DType) : d ∈ s.members ↔ s.contains d = true := by
  simp [members, DType.mem_all]

/-- Every type can be scanned. -/
@[simp] theorem contains_scannable (d : DType) : scannable.contains d = true := by
  cases d <;> rfl

/-- The types an axis can have are those of `IndexType`. -/
theorem contains_index (d : DType) : index.contains d = d.indexType?.isSome := by
  cases d <;> rfl

end DTypeSet

/-- May tensors of this type carry an axis? -/
def DType.isIndex (d : DType) : Bool := DTypeSet.index.contains d

end TensorScan
