import Mathlib
import TensorScan.Proofs.Scan.Meaning
import TensorScan.Proofs.Scan.Totals

set_option autoImplicit false

/-! # Scans step by step

A scan walks every line of an array on its own. `Shape.atStep` is the multi-index that the walk of a
line visits at a given step; every multi-index of a shape is visited at some step
(`Shape.HasIndex.exists_step`). At each step stands the total of the elements visited before, its
own included unless the scan is exclusive (`ScanMode.scanGrid_atStep`). Told in this way, the two
directions of a scan are one.

`Accumulation.lineTotal` is what a line comes to in all. For integers it does not matter in which
direction the line is walked (`Accumulation.total_atStep`).
-/

namespace TensorScan

namespace Shape

/-- The multi-index on the line through `p` that is visited at a step of its walk. -/
def atStep (shape : Shape) (axis : Nat) (direction : Direction) (p : List Nat) (step : Nat) :
    List Nat :=
  p.set axis (direction.position (shape.getD axis 0) step)

section AtStep

variable {shape : Shape} {axis : Nat} {p : List Nat}

theorem HasIndex.atStep (hp : shape.HasIndex p) (direction : Direction) {step : Nat}
    (hstep : step < shape.getD axis 0) : shape.HasIndex (shape.atStep axis direction p step) :=
  hp.set (direction.position_lt hstep)

/-- Every multi-index is visited at some step of the walk of its line. -/
theorem HasIndex.exists_step (hp : shape.HasIndex p) (haxis : axis < shape.length)
    (direction : Direction) :
    ∃ step < shape.getD axis 0, shape.atStep axis direction p step = p := by
  obtain ⟨step, hstep, hposition⟩ := direction.exists_position (hp.getD_lt haxis)
  have hlt : axis < p.length := by
    rw [hp.length_eq]
    exact haxis
  refine ⟨step, hstep, ?_⟩
  rw [Shape.atStep, hposition, List.getD_eq_getElem _ _ hlt, List.set_getElem_self]

end AtStep

end Shape

namespace ScanMode

/-- The elements that are taken in before an element is given its value, up to a step. -/
def upTo (mode : ScanMode) (step : Nat) : List Nat :=
  List.range (if mode.exclusive then step else step + 1)

/-- **A scan, step by step.** At each step of the walk of a line stands the total of the elements
visited so far. -/
theorem scanGrid_atStep (mode : ScanMode) {d : DType} {shape : Shape} {axis : Nat} (f : Grid d)
    {p : List Nat} (haxis : axis < p.length) {step : Nat} (hstep : step < shape.getD axis 0) :
    mode.scanGrid d shape axis f (shape.atStep axis mode.direction p step) =
      mode.op.total d ((mode.upTo step).map fun j =>
        f (shape.atStep axis mode.direction p j)) := by
  have hcoordinate : (shape.atStep axis mode.direction p step).getD axis 0 =
      mode.direction.position (shape.getD axis 0) step :=
    Shape.getD_set_self haxis _
  rw [scanGrid, hcoordinate, mode.visited_position hstep, List.map_map]
  simp only [Shape.atStep, List.set_set]
  rfl

/-- Every multi-index is visited at some step, and there stands the total up to this step. -/
theorem exists_scanGrid_eq (mode : ScanMode) {d : DType} {shape : Shape} {axis : Nat} (f : Grid d)
    (haxis : axis < shape.length) {p : List Nat} (hp : shape.HasIndex p) :
    ∃ step < shape.getD axis 0, shape.atStep axis mode.direction p step = p ∧
      mode.scanGrid d shape axis f p = mode.op.total d ((mode.upTo step).map fun j =>
        f (shape.atStep axis mode.direction p j)) := by
  obtain ⟨step, hstep, hvisit⟩ := hp.exists_step haxis mode.direction
  have hvalue := mode.scanGrid_atStep f (hp.length_eq ▸ haxis) hstep
  rw [hvisit] at hvalue
  exact ⟨step, hstep, hvisit, hvalue⟩

end ScanMode

/-! ## Whole lines -/

/-- Every position is visited once, in whatever order. -/
theorem Direction.map_position_perm (direction : Direction) (size : Nat) :
    ((List.range size).map (direction.position size)).Perm (List.range size) := by
  cases direction with
  | increasing =>
      have hsame : Direction.increasing.position size = id := rfl
      rw [hsame, List.map_id]
  | decreasing =>
      have hreverse : (List.range size).map (Direction.decreasing.position size) =
          (List.range size).reverse := by
        rw [List.range_eq_range', List.reverse_range', Nat.zero_add, ← List.range_eq_range']
        rfl
      rw [hreverse]
      exact List.reverse_perm _

namespace Accumulation

/-- What is accumulated of the whole line through `p`. -/
def lineTotal (op : Accumulation) {d : DType} (shape : Shape) (axis : Nat) (f : Grid d)
    (p : List Nat) : Word d :=
  op.total d ((List.range (shape.getD axis 0)).map fun j => f (p.set axis j))

/-- Integers of a line have the same total in both directions. -/
theorem total_atStep (op : Accumulation) {d : DType} (hd : d.isInteger = true) (shape : Shape)
    (axis : Nat) (direction : Direction) (f : Grid d) (p : List Nat) :
    op.total d ((List.range (shape.getD axis 0)).map fun step =>
      f (shape.atStep axis direction p step)) = op.lineTotal shape axis f p := by
  have hperm := (direction.map_position_perm (shape.getD axis 0)).map fun j => f (p.set axis j)
  rw [List.map_map] at hperm
  exact op.total_perm hd hperm

end Accumulation

end TensorScan
