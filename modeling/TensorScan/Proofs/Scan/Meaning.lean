import Mathlib
import TensorScan.Proofs.MultiIndex
import TensorScan.Proofs.Scan.Lines

set_option autoImplicit false

/-! # What a scan means

An array of any rank is a function of multi-indices (`Grid`). A scan of an array along an axis
gives every multi-index the left fold of the elements that differ from it in the coordinate of
the axis only, that coordinate running through `ScanMode.visited`. Nothing is said here about
strides, blocks or accumulators: this is the meaning that the walk of a buffer is held against.

`ScanMode.getElem?_scan` says that the walk has this meaning, for a buffer in row-major order of a
shape of any rank, seen from any of its dimensions.
-/

namespace TensorScan

/-- An array of elements of type `d`, as a function of multi-indices. -/
abbrev Grid (d : DType) : Type := List Nat → Word d

namespace ScanMode

/-- The positions that are accumulated at position `s` of an axis of the given size, in order: from
the start of the walk up to `s`, and `s` itself unless the scan is exclusive. -/
def visited (mode : ScanMode) (size s : Nat) : List Nat :=
  match mode.direction, mode.exclusive with
  | .increasing, false => List.range (s + 1)
  | .increasing, true => List.range s
  | .decreasing, false => (List.range' s (size - s)).reverse
  | .decreasing, true => (List.range' (s + 1) (size - (s + 1))).reverse

/-- The array scanned along an axis. -/
def scanGrid (mode : ScanMode) (d : DType) (shape : Shape) (axis : Nat) (f : Grid d) : Grid d :=
  fun p =>
    ((mode.visited (shape.getD axis 0) (p.getD axis 0)).map fun j => f (p.set axis j)).foldl
      (mode.op.combine d) (mode.op.identity d)

/-! ## The order of the walk -/

/-- The positions accumulated at a step of a walk are those of the steps before it. -/
theorem visited_position (mode : ScanMode) {size step : Nat} (h : step < size) :
    mode.visited size (mode.direction.position size step) =
      (List.range (if mode.exclusive then step else step + 1)).map
        (mode.direction.position size) := by
  obtain ⟨op, direction, exclusive⟩ := mode
  cases direction with
  | increasing =>
      have hsame : Direction.increasing.position size = id := rfl
      cases exclusive <;> simp [visited, hsame]
  | decreasing =>
      cases exclusive with
      | false =>
          have hcount : size - (size - 1 - step) = step + 1 := by omega
          have hlast : size - 1 - step + (step + 1) - 1 = size - 1 := by omega
          simp only [visited, Direction.position, List.reverse_range', hcount, hlast]
          rfl
      | true =>
          have hcount : size - (size - 1 - step + 1) = step := by omega
          have hlast : size - 1 - step + 1 + step - 1 = size - 1 := by omega
          simp only [visited, Direction.position, List.reverse_range', hcount, hlast]
          rfl

/-! ## The walk has the meaning of the scan -/

/-- **A scanned buffer is the scanned array.** If a buffer holds an array of some shape in
row-major order, then the buffer scanned with the strides of one dimension holds the array scanned
along that dimension. -/
theorem getElem?_scan (mode : ScanMode) {d : DType} {shape : Shape} {words : List (Word d)}
    {f : Grid d} (hlen : words.length = List.prod shape)
    (hwords : ∀ p, shape.HasIndex p → words[shape.place p]? = some (f p)) {axis : Nat}
    (haxis : axis < shape.length) {p : List Nat} (hp : shape.HasIndex p) :
    (mode.scan d (Extent.along shape axis) words)[shape.place p]? =
      some (mode.scanGrid d shape axis f p) := by
  set e := Extent.along shape axis
  set o := Shape.place (shape.take axis) (p.take axis)
  set i := Shape.place (shape.drop (axis + 1)) (p.drop (axis + 1))
  have hcount : e.count = words.length := (Extent.count_along haxis).trans hlen.symm
  have hs : p.getD axis 0 < e.scan := hp.getD_lt haxis
  obtain ⟨step, hstep, hposition⟩ := mode.direction.exists_position hs
  have hplace : shape.place p = e.index o (mode.direction.position e.scan step) i := by
    rw [hposition]
    exact Shape.place_eq_index hp.length_eq haxis
  -- the buffer, read by place
  have hsource : ∀ k < e.count, words.toArray[k]? = some (words.getD k (Word.zero d)) := by
    intro k hk
    have hk' : k < words.length := hcount ▸ hk
    simp [hk']
  have hout : e.count ≤ (Array.replicate words.length (Word.zero d)).size := by simp [hcount]
  have hread := e.getElem?_scanInto mode.direction mode.exclusive (mode.op.combine d)
    (mode.op.identity d) hsource hout (Shape.place_lt (hp.take axis))
    (Shape.place_lt (hp.drop (axis + 1))) hstep
  have hvisited : mode.visited (shape.getD axis 0) (p.getD axis 0) =
      (List.range (if mode.exclusive then step else step + 1)).map
        (mode.direction.position e.scan) := by
    rw [← hposition]
    exact mode.visited_position hstep
  -- at every step the walk reads the element that the meaning asks for
  have helement : ∀ j, j < step + 1 →
      words.getD (e.index o (mode.direction.position e.scan j) i) (Word.zero d) =
        f (p.set axis (mode.direction.position e.scan j)) := by
    intro j hj
    have hlt : mode.direction.position e.scan j < shape.getD axis 0 :=
      mode.direction.position_lt (by omega)
    have hword := hwords _ (hp.set hlt)
    rw [Shape.place_set hp.length_eq haxis] at hword
    rw [List.getD_eq_getElem?_getD, hword]
    rfl
  rw [hplace, scan, Array.getElem?_toList, hread, scanGrid, hvisited, List.map_map]
  congr 2
  refine List.map_congr_left fun j hj => ?_
  have hj' : j < step + 1 := by
    have hlt := List.mem_range.1 hj
    split at hlt <;> omega
  exact helement j hj'

end ScanMode

end TensorScan
