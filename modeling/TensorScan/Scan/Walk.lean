import TensorScan.Scan.Extent

set_option autoImplicit false

/-! # Scanning a buffer

A scan walks the lines of a buffer one after another. On each line the accumulated value starts
at the identity of the operation and takes in one element after another from the left,
`acc := combine acc x`. Every place of the line receives an accumulated value: in an inclusive
scan the one that has just taken in the element there, in an exclusive scan the one from before.

The functions are stated for any type of elements with any operation; `ScanMode.scan` applies
them to the words of an element type.
-/

namespace TensorScan

variable {α : Type}

/-- Scans one line of `source` into `out`, starting from the accumulated value `acc`. A line
that leaves `source` ends there. -/
def scanLine (combine : α → α → α) (exclusive : Bool) (source : Array α) :
    List Nat → α → Array α → Array α
  | [], _, out => out
  | k :: rest, acc, out =>
      match source[k]? with
      | none => out
      | some x =>
          let next := combine acc x
          scanLine combine exclusive source rest next
            (out.setIfInBounds k (if exclusive then acc else next))

/-- Scans every line of `source` into `out`. A buffer without elements is left as it is, however
large two of its three extents are. -/
def Extent.scanInto (e : Extent) (direction : Direction) (exclusive : Bool)
    (combine : α → α → α) (identity : α) (source out : Array α) : Array α :=
  if e.isEmpty then out
  else (e.lines direction).foldl
    (fun out places => scanLine combine exclusive source places identity out) out

@[simp] theorem size_scanLine (combine : α → α → α) (exclusive : Bool) (source : Array α)
    (places : List Nat) (acc : α) (out : Array α) :
    (scanLine combine exclusive source places acc out).size = out.size := by
  induction places generalizing acc out with
  | nil => rfl
  | cons k rest ih =>
      rw [scanLine]
      split
      · rfl
      · simp [ih]

/-- A scan writes into a buffer and never makes it longer or shorter. -/
@[simp] theorem Extent.size_scanInto (e : Extent) (direction : Direction) (exclusive : Bool)
    (combine : α → α → α) (identity : α) (source out : Array α) :
    (e.scanInto direction exclusive combine identity source out).size = out.size := by
  unfold scanInto
  split
  · rfl
  · have key : ∀ (lines : List (List Nat)) (out : Array α),
        (lines.foldl (fun out places => scanLine combine exclusive source places identity out)
          out).size = out.size := by
      intro lines
      induction lines with
      | nil => intro out; rfl
      | cons places rest ih => intro out; simp [ih]
    exact key _ _

namespace ScanMode

/-- The elements of a row-major buffer, scanned along the axis from which `e` sees it. -/
def scan (mode : ScanMode) (d : DType) (e : Extent) (words : List (Word d)) : List (Word d) :=
  (e.scanInto mode.direction mode.exclusive (mode.op.combine d) (mode.op.identity d)
    words.toArray (Array.replicate words.length (Word.zero d))).toList

@[simp] theorem length_scan (mode : ScanMode) (d : DType) (e : Extent) (words : List (Word d)) :
    (mode.scan d e words).length = words.length := by
  simp [scan]

end ScanMode

end TensorScan
