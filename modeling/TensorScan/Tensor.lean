import TensorScan.Bytes
import TensorScan.Shape

set_option autoImplicit false

/-! # Tensors

A tensor is a shape, an element type and the bytes of its elements in row-major order: the
last dimension varies fastest. The constructors below see to it that the number of bytes fits
the shape (`Tensor.WellFormed`); `Tensor.count`, the number of elements, is read off the bytes.

Reading elements takes a copy after the element type has been compared; nothing is ever read
past the end of the bytes.
-/

namespace TensorScan

/-- A dense tensor. -/
structure Tensor where
  shape : Shape
  dtype : DType
  /-- The elements, in row-major order. -/
  bytes : List UInt8
  deriving DecidableEq

namespace Tensor

def rank (t : Tensor) : Nat := t.shape.rank

def isScalar (t : Tensor) : Bool := t.shape.isScalar

def count (t : Tensor) : Nat := t.bytes.length / t.dtype.byteSize

/-- The bytes are those of as many elements as the shape asks for. -/
def WellFormed (t : Tensor) : Prop :=
  ∃ n, checkedProduct t.shape = some n ∧ t.bytes.length = n * t.dtype.byteSize ∧
    n * t.dtype.byteSize ≤ maxSize

/-! ## Making tensors -/

def byteLength (shape : Shape) (d : DType) : Except Error Nat := do
  let n ← shape.elementCount
  match checkedMul n d.byteSize with
  | some length => pure length
  | none => throw (.shapeOverflow shape)

def ofWords (d : DType) (words : List (Word d)) (shape : Shape) : Except Error Tensor := do
  let n ← shape.elementCount
  if words.length = n then pure ⟨shape, d, bytesOfWords d words⟩
  else throw (.shapeMismatch [n] [words.length])

/-- The tensor without dimensions that holds one element. -/
def ofWord (d : DType) (w : Word d) : Tensor := ⟨Shape.scalar, d, Word.toBytes d w⟩

def zeros (shape : Shape) (d : DType) : Except Error Tensor := do
  let length ← byteLength shape d
  pure ⟨shape, d, List.replicate length 0⟩

def ofBytes (shape : Shape) (d : DType) (bytes : List UInt8) : Except Error Tensor := do
  let length ← byteLength shape d
  if bytes.length = length then pure ⟨shape, d, bytes⟩
  else throw (.shapeMismatch [length] [bytes.length])

/-- The same elements in another shape. -/
def reshape (t : Tensor) (shape : Shape) : Except Error Tensor := do
  let n ← shape.elementCount
  if n = t.count then pure { t with shape := shape }
  else throw (.shapeMismatch t.shape shape)

/-! ## Reading tensors -/

/-- The one element of a tensor without dimensions. -/
def item (t : Tensor) (d : DType) : Except Error (Word d) :=
  if !t.isScalar then .error (.shapeMismatch Shape.scalar t.shape)
  else if t.dtype ≠ d then .error (.dtypeMismatch d t.dtype)
  else if t.bytes.length ≠ d.byteSize then
    .error (.shapeMismatch [d.byteSize] [t.bytes.length])
  else .ok (Word.ofBytes d t.bytes)

def words (t : Tensor) (d : DType) : Except Error (List (Word d)) :=
  if t.dtype ≠ d then .error (.dtypeMismatch d t.dtype)
  else .ok (wordsOfBytes d t.bytes)

/-! ## What the operations give -/

theorem ofWords_eq_ok {d : DType} {words : List (Word d)} {shape : Shape} {t : Tensor} :
    ofWords d words shape = .ok t ↔
      checkedProduct shape = some words.length ∧ t = ⟨shape, d, bytesOfWords d words⟩ := by
  unfold ofWords
  cases h : shape.elementCount with
  | error e =>
      rw [Shape.elementCount_eq_error] at h
      simp [bind, Except.bind, h.1]
  | ok n =>
      rw [Shape.elementCount_eq_ok] at h
      by_cases hn : words.length = n
      · subst hn
        simp [bind, Except.bind, pure, Except.pure, h, eq_comm]
      · have hne : n ≠ words.length := fun he => hn he.symm
        simp [bind, Except.bind, throw, throwThe, MonadExceptOf.throw, h, hn, hne]

theorem reshape_eq_ok {t r : Tensor} {shape : Shape} :
    t.reshape shape = .ok r ↔
      checkedProduct shape = some t.count ∧ r = { t with shape := shape } := by
  unfold reshape
  cases h : shape.elementCount with
  | error e =>
      rw [Shape.elementCount_eq_error] at h
      simp [bind, Except.bind, h.1]
  | ok n =>
      rw [Shape.elementCount_eq_ok] at h
      by_cases hn : n = t.count
      · subst hn
        simp [bind, Except.bind, pure, Except.pure, h, eq_comm]
      · simp [bind, Except.bind, throw, throwThe, MonadExceptOf.throw, h, hn]

/-- What was written into a tensor is read from it. -/
theorem words_ofWords {d : DType} {words : List (Word d)} {shape : Shape} {t : Tensor}
    (h : ofWords d words shape = .ok t) : t.words d = .ok words := by
  obtain ⟨_, rfl⟩ := ofWords_eq_ok.1 h
  simp [Tensor.words, wordsOfBytes_bytesOfWords]

/-- The one element of a tensor without dimensions is the element it was made of. -/
theorem item_ofWord (d : DType) (w : Word d) : (ofWord d w).item d = .ok w := by
  simp [item, ofWord, isScalar, Shape.isScalar, Shape.scalar]

/-! ## Writing about tensors -/

/-- The tensor in a sentence: `Tensor([2,3], dtype=f32)`. -/
def display (t : Tensor) : String :=
  s!"Tensor({compactSizes t.shape}, dtype={t.dtype.shortName})"

/-- The tensor field by field: its shape and the tag of its element type. -/
def describe (t : Tensor) : String :=
  "Tensor \x7b shape: " ++ spacedSizes t.shape ++ ", dtype: " ++ t.dtype.tag ++ " \x7d"

end Tensor

end TensorScan
