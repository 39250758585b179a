import Mathlib
import TensorScan.Proofs.Scan.Steps

set_option autoImplicit false

/-! # Scans of an array in two parts

An array can be cut into two parts along an axis. A scan of the whole along this axis walks each
line through one of the parts before it comes to the other: through the first part if it walks
forwards, through the second if it walks backwards. On this *near* part nothing is known yet of the
other, so the scan of the whole is the scan of the part (`ScanMode.scanGrid_near`). On the *far*
part the walk goes on with what it has accumulated on the near part. For integers this can be told
apart from what it accumulates later: the scan of the whole is the scan of the far part with the
total of the near part taken in before (`ScanMode.scanGrid_far`).

Where the two parts start depends on the direction (`Direction.nearOffset`, `Direction.farOffset`).
Everything else is said for both directions at once.
-/

namespace TensorScan

/-! ## An axis in two parts -/

namespace Direction

/-- Where the part of an axis starts that is walked first, if `far` positions are walked after
it. -/
def nearOffset (direction : Direction) (far : Nat) : Nat :=
  match direction with
  | .increasing => 0
  | .decreasing => far

/-- Where the part of an axis starts that is walked last, if `near` positions are walked before
it. -/
def farOffset (direction : Direction) (near : Nat) : Nat :=
  match direction with
  | .increasing => near
  | .decreasing => 0

theorem position_near (direction : Direction) {near step : Nat} (h : step < near) (far : Nat) :
    direction.position (near + far) step =
      direction.nearOffset far + direction.position near step := by
  cases direction <;> simp only [position, nearOffset] <;> omega

theorem position_far (direction : Direction) (near : Nat) {far step : Nat} (h : step < far) :
    direction.position (near + far) (near + step) =
      direction.farOffset near + direction.position far step := by
  cases direction with
  | increasing => rfl
  | decreasing =>
      simp only [position, farOffset]
      omega

end Direction

namespace Shape

/-- The multi-index in the whole of an element of the part that starts at `offset` along `axis`. -/
def moved (axis offset : Nat) (p : List Nat) : List Nat := p.set axis (offset + p.getD axis 0)

section Moved

variable {shape : Shape} {axis near far : Nat} {p : List Nat}

theorem HasIndex.moved {size offset : Nat} (hp : HasIndex (shape.set axis size) p)
    (haxis : axis < shape.length) (hfits : offset + size ≤ shape.getD axis 0) :
    shape.HasIndex (Shape.moved axis offset p) := by
  have hcoordinate : p.getD axis 0 < size := by
    have hlt := hp.getD_lt (by simpa using haxis)
    rwa [getD_set_self haxis] at hlt
  have hlt : offset + p.getD axis 0 < shape.getD axis 0 := by omega
  have hresized : HasIndex ((shape.set axis size).set axis (shape.getD axis 0))
      (Shape.moved axis offset p) := HasIndex.resize hp hlt
  rwa [List.set_set, List.getD_eq_getElem _ _ haxis, List.set_getElem_self] at hresized

variable (haxis : axis < shape.length) (hp : axis < p.length)

include haxis hp

/-- A walk of a part is moved along the line that it is on. -/
theorem moved_atStep (offset size : Nat) (direction : Direction) (step : Nat) :
    moved axis offset (atStep (shape.set axis size) axis direction p step) =
      p.set axis (offset + direction.position size step) := by
  rw [moved, atStep, List.set_set, getD_set_self hp, getD_set_self haxis]

/-- The walk of the whole starts with the walk of the near part. -/
theorem moved_near (hsize : shape.getD axis 0 = near + far) (direction : Direction) {step : Nat}
    (h : step < near) :
    moved axis (direction.nearOffset far) (atStep (shape.set axis near) axis direction p step) =
      atStep shape axis direction p step := by
  rw [moved_atStep haxis hp, atStep, hsize, direction.position_near h]

/-- After that it goes on with the walk of the far part. -/
theorem moved_far (hsize : shape.getD axis 0 = near + far) (direction : Direction) {step : Nat}
    (h : step < far) :
    moved axis (direction.farOffset near) (atStep (shape.set axis far) axis direction p step) =
      atStep shape axis direction p (near + step) := by
  rw [moved_atStep haxis hp, atStep, hsize, direction.position_far near h]

end Moved

end Shape

/-- The part of an array that starts at `offset` along `axis`. -/
def Grid.partFrom {d : DType} (f : Grid d) (axis offset : Nat) : Grid d :=
  fun p => f (Shape.moved axis offset p)

namespace ScanMode

/-- What is taken in up to a step of the far part: all of the near part, and then what a walk of the
far part takes in. -/
theorem upTo_add (mode : ScanMode) (near step : Nat) :
    mode.upTo (near + step) = List.range near ++ (mode.upTo step).map (near + ·) := by
  have hcount : (if mode.exclusive then near + step else near + step + 1) =
      near + if mode.exclusive then step else step + 1 := by
    split <;> omega
  rw [upTo, hcount, List.range_add]
  rfl

theorem le_of_mem_upTo {mode : ScanMode} {step j : Nat} (h : j ∈ mode.upTo step) : j ≤ step := by
  have hlt := List.mem_range.1 h
  split at hlt <;> omega

section Parts

variable (mode : ScanMode) {d : DType} {shape : Shape} {axis : Nat} (f : Grid d)
  (haxis : axis < shape.length) {p : List Nat}

include haxis

/-- If the walk of the whole comes to a part after `start` steps, then on the part it takes in what
a walk of the part takes in. -/
theorem exists_scanGrid_partFrom {offset size start : Nat}
    (hmoved : ∀ j < size, Shape.moved axis offset
      (Shape.atStep (shape.set axis size) axis mode.direction p j) =
        shape.atStep axis mode.direction p (start + j))
    (hp : Shape.HasIndex (shape.set axis size) p) :
    ∃ step < size,
      Shape.moved axis offset p = shape.atStep axis mode.direction p (start + step) ∧
      mode.scanGrid d (shape.set axis size) axis (f.partFrom axis offset) p =
        mode.op.total d ((mode.upTo step).map fun j =>
          f (shape.atStep axis mode.direction p (start + j))) := by
  have haxis' : axis < (shape.set axis size).length := by simpa using haxis
  obtain ⟨step, hstep, hvisit, hpart⟩ :=
    mode.exists_scanGrid_eq (f.partFrom axis offset) haxis' hp
  rw [Shape.getD_set_self haxis] at hstep
  refine ⟨step, hstep, ?_, ?_⟩
  · rw [← hmoved step hstep, hvisit]
  · rw [hpart]
    congr 1
    refine List.map_congr_left fun j hj => ?_
    rw [Grid.partFrom, hmoved j (Nat.lt_of_le_of_lt (le_of_mem_upTo hj) hstep)]

variable {near far : Nat} (hsize : shape.getD axis 0 = near + far)

include hsize

/-- **On the near part** the scan of the whole is the scan of the part. -/
theorem scanGrid_near (hp : Shape.HasIndex (shape.set axis near) p) :
    mode.scanGrid d shape axis f (Shape.moved axis (mode.direction.nearOffset far) p) =
      mode.scanGrid d (shape.set axis near) axis
        (f.partFrom axis (mode.direction.nearOffset far)) p := by
  have hlen : axis < p.length := by simpa [hp.length_eq] using haxis
  have hmoved : ∀ j < near, Shape.moved axis (mode.direction.nearOffset far)
      (Shape.atStep (shape.set axis near) axis mode.direction p j) =
        shape.atStep axis mode.direction p (0 + j) := by
    intro j hj
    rw [Nat.zero_add]
    exact Shape.moved_near haxis hlen hsize mode.direction hj
  obtain ⟨step, hstep, hhere, hpart⟩ := mode.exists_scanGrid_partFrom f haxis hmoved hp
  simp only [Nat.zero_add] at hhere hpart
  rw [hhere, hpart]
  exact mode.scanGrid_atStep f hlen (by omega)

/-- **On the far part** the scan of the whole is the scan of the part with the total of the near
part taken in before. -/
theorem scanGrid_far (hd : d.isInteger = true) (hp : Shape.HasIndex (shape.set axis far) p) :
    mode.scanGrid d shape axis f (Shape.moved axis (mode.direction.farOffset near) p) =
      mode.op.combine d
        (mode.op.lineTotal (shape.set axis near) axis
          (f.partFrom axis (mode.direction.nearOffset far)) p)
        (mode.scanGrid d (shape.set axis far) axis
          (f.partFrom axis (mode.direction.farOffset near)) p) := by
  have hlen : axis < p.length := by simpa [hp.length_eq] using haxis
  have hmoved : ∀ j < far, Shape.moved axis (mode.direction.farOffset near)
      (Shape.atStep (shape.set axis far) axis mode.direction p j) =
        shape.atStep axis mode.direction p (near + j) :=
    fun j hj => Shape.moved_far haxis hlen hsize mode.direction hj
  obtain ⟨step, hstep, hhere, hpart⟩ := mode.exists_scanGrid_partFrom f haxis hmoved hp
  -- before the walk comes to the far part it has been through the near part
  have hnear : mode.op.total d ((List.range near).map fun j =>
      f (shape.atStep axis mode.direction p j)) =
      mode.op.lineTotal (shape.set axis near) axis
        (f.partFrom axis (mode.direction.nearOffset far)) p := by
    rw [← mode.op.total_atStep hd _ axis mode.direction, Shape.getD_set_self haxis]
    congr 1
    refine List.map_congr_left fun j hj => ?_
    rw [Grid.partFrom, Shape.moved_near haxis hlen hsize mode.direction (List.mem_range.1 hj)]
  calc mode.scanGrid d shape axis f (Shape.moved axis (mode.direction.farOffset near) p)
      = mode.op.total d ((mode.upTo (near + step)).map fun j =>
          f (shape.atStep axis mode.direction p j)) := by
        rw [hhere]
        exact mode.scanGrid_atStep f hlen (by omega)
    _ = mode.op.combine d
          (mode.op.total d ((List.range near).map fun j =>
            f (shape.atStep axis mode.direction p j)))
          (mode.op.total d ((mode.upTo step).map fun j =>
            f (shape.atStep axis mode.direction p (near + j)))) := by
        rw [mode.upTo_add, List.map_append, mode.op.total_append hd, List.map_map]
        rfl
    _ = _ := by rw [hnear, hpart]

end Parts

end ScanMode

end TensorScan
