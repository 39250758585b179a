import Mathlib
import TensorScan.Proofs.Scan.Meaning
import TensorScan.Tensor

set_option autoImplicit false

/-! # Tensors that can be made

`Tensor.Built` lists the ways to a tensor: from elements, from one element, from zeros, and from
another tensor by reshaping. These are exactly the well-formed tensors
(`Tensor.built_iff_wellFormed`), so what is known of a tensor is that its shape does not overflow
and that its bytes are as many elements as the shape has places.

A well-formed tensor has an element at every multi-index of its shape, and `Tensor.grid` is the
array of its elements (`Tensor.WellFormed.holds_grid`). The array and the shape make up the tensor
(`Tensor.WellFormed.eq_of_holds`). `Tensor.scanned` is the tensor scanned along one of its
dimensions, whatever its rank; if a tensor holds an array, then the scanned tensor holds the scanned
array (`Tensor.Holds.scanned`).
-/

namespace TensorScan

namespace Tensor

/-- The tensors that can be made. A list of elements has no more bytes than the largest size. -/
inductive Built : Tensor → Prop
  | ofWords {d : DType} {words : List (Word d)} {shape : Shape} {t : Tensor}
      (hroom : words.length * d.byteSize ≤ maxSize) (h : Tensor.ofWords d words shape = .ok t) :
      Built t
  | ofWord (d : DType) (w : Word d) : Built (Tensor.ofWord d w)
  | zeros {shape : Shape} {d : DType} {t : Tensor} (h : Tensor.zeros shape d = .ok t) : Built t
  | reshape {t r : Tensor} {shape : Shape} (ht : Built t) (h : t.reshape shape = .ok r) : Built r

/-- A tensor can be made of as many elements as its shape asks for. -/
theorem Built.of_words {d : DType} {words : List (Word d)} {shape : Shape}
    (hroom : words.length * d.byteSize ≤ maxSize)
    (hcount : checkedProduct shape = some words.length) :
    Built ⟨shape, d, bytesOfWords d words⟩ :=
  Built.ofWords hroom (ofWords_eq_ok.2 ⟨hcount, rfl⟩)

/-! ## Well-formed tensors -/

theorem words_eq (t : Tensor) : t.words t.dtype = .ok (wordsOfBytes t.dtype t.bytes) := by
  simp [words]

section WellFormed

variable {t : Tensor}

theorem wellFormed_iff : t.WellFormed ↔ ¬ Overflows t.shape ∧
    t.bytes.length = List.prod t.shape * t.dtype.byteSize ∧
      List.prod t.shape * t.dtype.byteSize ≤ maxSize := by
  constructor
  · rintro ⟨n, hn, hlen, hroom⟩
    obtain ⟨rfl, hfits⟩ := checkedProduct_eq_some.1 hn
    exact ⟨hfits, hlen, hroom⟩
  · rintro ⟨hfits, hlen, hroom⟩
    exact ⟨_, checkedProduct_eq_some.2 ⟨rfl, hfits⟩, hlen, hroom⟩

theorem WellFormed.not_overflows (h : t.WellFormed) : ¬ Overflows t.shape := (wellFormed_iff.1 h).1

/-- The number of elements is what the shape says. -/
theorem WellFormed.count_eq (h : t.WellFormed) : t.count = List.prod t.shape := by
  rw [count, (wellFormed_iff.1 h).2.1, Nat.mul_div_cancel _ t.dtype.byteSize_pos]

/-- As many elements can be read. -/
theorem WellFormed.length_words (h : t.WellFormed) :
    (wordsOfBytes t.dtype t.bytes).length = List.prod t.shape := by
  rw [length_wordsOfBytes, ← h.count_eq, count]

/-- Another shape with as many elements is as good. -/
theorem WellFormed.withShape (h : t.WellFormed) {shape : Shape} (hfits : ¬ Overflows shape)
    (hcount : List.prod shape = List.prod t.shape) :
    ({ t with shape := shape } : Tensor).WellFormed := by
  obtain ⟨_, hlen, hroom⟩ := wellFormed_iff.1 h
  exact wellFormed_iff.2 ⟨hfits, by rw [hcount]; exact hlen, by rw [hcount]; exact hroom⟩

theorem byteLength_eq_ok {shape : Shape} {d : DType} {n : Nat} :
    byteLength shape d = .ok n ↔
      ¬ Overflows shape ∧ List.prod shape * d.byteSize = n ∧ n ≤ maxSize := by
  unfold byteLength Shape.elementCount
  cases hn : checkedProduct shape with
  | none => simp [bind, Except.bind, checkedProduct_eq_none.1 hn]
  | some count =>
      obtain ⟨rfl, hfits⟩ := checkedProduct_eq_some.1 hn
      simp only [bind, Except.bind, hfits, not_false_eq_true, true_and]
      cases hlen : checkedMul (List.prod shape) d.byteSize with
      | none =>
          rw [checkedMul_eq_none] at hlen
          simp only [throw, throwThe, MonadExceptOf.throw, reduceCtorEq, false_iff]
          omega
      | some length =>
          obtain ⟨rfl, hle⟩ := checkedMul_eq_some.1 hlen
          simp only [pure, Except.pure, Except.ok.injEq, iff_self_and]
          rintro rfl
          exact hle

/-- Bytes that fit a shape are the bytes of a tensor, which is well-formed. -/
theorem ofBytes_eq_of_wellFormed (h : t.WellFormed) :
    ofBytes t.shape t.dtype t.bytes = .ok t := by
  obtain ⟨hfits, hlen, hroom⟩ := wellFormed_iff.1 h
  have hlength : byteLength t.shape t.dtype = .ok t.bytes.length :=
    byteLength_eq_ok.2 ⟨hfits, hlen.symm, hlen ▸ hroom⟩
  simp [ofBytes, hlength, bind, Except.bind, pure, Except.pure]

/-- Bytes are put together to a tensor only if they fit. -/
theorem wellFormed_of_ofBytes {shape : Shape} {d : DType} {bytes : List UInt8}
    (h : ofBytes shape d bytes = .ok t) : t.WellFormed := by
  obtain ⟨n, hlength, h⟩ := bind_eq_ok.1 h
  obtain ⟨hfits, rfl, hroom⟩ := byteLength_eq_ok.1 hlength
  split at h
  · rename_i hlen
    obtain rfl := Except.ok.inj h
    exact wellFormed_iff.2 ⟨hfits, hlen, hroom⟩
  · contradiction

/-- Reshaping keeps a tensor well-formed. -/
theorem WellFormed.of_reshape (h : t.WellFormed) {r : Tensor} {shape : Shape}
    (hr : t.reshape shape = .ok r) : r.WellFormed := by
  obtain ⟨hcount, rfl⟩ := reshape_eq_ok.1 hr
  obtain ⟨hprod, hfits⟩ := checkedProduct_eq_some.1 hcount
  exact h.withShape hfits (hprod.trans h.count_eq)

/-- A tensor takes every shape that has as many elements, and is refused one that overflows
before the elements are counted. -/
theorem reshape_eq (t : Tensor) (shape : Shape) :
    t.reshape shape =
      if Overflows shape then .error (.shapeOverflow shape)
      else if List.prod shape = t.count then .ok { t with shape := shape }
      else .error (.shapeMismatch t.shape shape) := by
  rw [reshape, Shape.elementCount]
  by_cases hover : Overflows shape
  · rw [checkedProduct_eq_none.2 hover, if_pos hover]
    rfl
  · rw [checkedProduct_eq_some.2 ⟨rfl, hover⟩, if_neg hover]
    rfl

theorem WellFormed.reshape_eq (h : t.WellFormed) (shape : Shape) :
    t.reshape shape =
      if Overflows shape then .error (.shapeOverflow shape)
      else if List.prod shape = List.prod t.shape then .ok { t with shape := shape }
      else .error (.shapeMismatch t.shape shape) := by
  rw [Tensor.reshape_eq, h.count_eq]

end WellFormed

/-! ## Every tensor that can be made is well-formed -/

theorem Built.wellFormed {t : Tensor} (h : t.Built) : t.WellFormed := by
  induction h with
  | ofWords hroom h =>
      obtain ⟨hcount, rfl⟩ := ofWords_eq_ok.1 h
      exact ⟨_, hcount, length_bytesOfWords _ _, hroom⟩
  | ofWord d w =>
      refine ⟨1, rfl, by simp [Tensor.ofWord], ?_⟩
      show 1 * d.byteSize ≤ maxSize
      cases d <;> decide
  | @zeros shape d t h =>
      obtain ⟨n, hlength, h⟩ := bind_eq_ok.1 h
      obtain ⟨hfits, rfl, hroom⟩ := byteLength_eq_ok.1 hlength
      obtain rfl := Except.ok.inj h
      exact wellFormed_iff.2 ⟨hfits, List.length_replicate, hroom⟩
  | reshape _ h ih => exact ih.of_reshape h

/-- A tensor can be made of the elements that are read from it. -/
theorem WellFormed.ofWords_words {t : Tensor} (h : t.WellFormed) {d : DType}
    {words : List (Word d)} (hwords : t.words d = .ok words) :
    ofWords d words t.shape = .ok t := by
  obtain ⟨hfits, hlen, _⟩ := wellFormed_iff.1 h
  unfold Tensor.words at hwords
  split_ifs at hwords with hdtype
  obtain rfl : t.dtype = d := not_not.1 hdtype
  obtain rfl := Except.ok.inj hwords
  rw [ofWords_eq_ok, h.length_words, bytesOfWords_wordsOfBytes hlen]
  exact ⟨checkedProduct_eq_some.2 ⟨rfl, hfits⟩, rfl⟩

/-- A tensor is determined by its shape and its elements. -/
theorem WellFormed.eq_of_words {s t : Tensor} (hs : s.WellFormed) (ht : t.WellFormed)
    (hshape : s.shape = t.shape) {d : DType} {words : List (Word d)}
    (hwords : s.words d = .ok words) (hwords' : t.words d = .ok words) : s = t := by
  have hmade := hs.ofWords_words hwords
  rw [hshape, ht.ofWords_words hwords'] at hmade
  exact (Except.ok.inj hmade).symm

theorem built_iff_wellFormed {t : Tensor} : t.Built ↔ t.WellFormed := by
  constructor
  · exact Built.wellFormed
  · intro h
    obtain ⟨_, _, hroom⟩ := wellFormed_iff.1 h
    rw [← h.length_words] at hroom
    exact Built.ofWords hroom (h.ofWords_words t.words_eq)

/-! ## Elements -/

/-- The element at a multi-index, if the tensor has elements of type `d` and one of them there. -/
def element? (t : Tensor) (d : DType) (p : List Nat) : Option (Word d) :=
  match t.words d with
  | .ok words => words[t.shape.place p]?
  | .error _ => none

/-- The elements as an array, which is zero where the tensor has none. -/
def grid (t : Tensor) (d : DType) : Grid d := fun p => (t.element? d p).getD (Word.zero d)

/-- At every multi-index of its shape the tensor has the element that the array has there. -/
def Holds (t : Tensor) {d : DType} (f : Grid d) : Prop :=
  ∀ p, t.shape.HasIndex p → t.element? d p = some (f p)

section Elements

variable {t : Tensor}

theorem element?_eq (t : Tensor) (p : List Nat) :
    t.element? t.dtype p = (wordsOfBytes t.dtype t.bytes)[t.shape.place p]? := by
  rw [element?, words_eq]

/-- A tensor has an element at every multi-index of its shape. -/
theorem WellFormed.holds_grid (h : t.WellFormed) {d : DType} (hd : t.dtype = d) :
    t.Holds (t.grid d) := by
  subst hd
  intro p hp
  have hlt : t.shape.place p < (wordsOfBytes t.dtype t.bytes).length :=
    h.length_words ▸ Shape.place_lt hp
  rw [grid, element?_eq, List.getElem?_eq_getElem hlt]
  rfl

theorem words_of_ne {d : DType} (h : t.dtype ≠ d) :
    t.words d = .error (.dtypeMismatch d t.dtype) := by
  rw [words, if_pos h]

/-- The shape is looked at before the element type. -/
theorem item_of_shape {d : DType} (h : t.shape ≠ []) :
    t.item d = .error (.shapeMismatch [] t.shape) := by
  simp [item, isScalar, Shape.isScalar, Shape.scalar, h]

theorem item_of_ne {d : DType} (hshape : t.shape = []) (h : t.dtype ≠ d) :
    t.item d = .error (.dtypeMismatch d t.dtype) := by
  simp [item, isScalar, Shape.isScalar, hshape, h]

/-- A tensor without dimensions has the bytes of one element, which can be read. -/
theorem WellFormed.item_eq (h : t.WellFormed) (hshape : t.shape = []) {d : DType}
    (hd : t.dtype = d) : t.item d = .ok (Word.ofBytes d t.bytes) := by
  obtain ⟨_, hlen, _⟩ := wellFormed_iff.1 h
  have hbytes : t.bytes.length = d.byteSize := by
    rw [hlen, hshape, hd, List.prod_nil, Nat.one_mul]
  simp [item, isScalar, Shape.isScalar, hshape, hd, hbytes]

/-- The one element that a tensor holds makes up the tensor. -/
theorem item_eq_ok {d : DType} {w : Word d} : t.item d = .ok w ↔ t = ofWord d w := by
  constructor
  · intro h
    obtain ⟨shape, dtype, bytes⟩ := t
    unfold item at h
    split_ifs at h with hshape hdtype hlen
    have hscalar : shape = [] := by simpa [isScalar, Shape.isScalar] using hshape
    obtain rfl : dtype = d := not_not.1 hdtype
    have hbytes : Word.toBytes dtype (Word.ofBytes dtype bytes) = bytes :=
      Word.toBytes_ofBytes (not_not.1 hlen)
    rw [Except.ok.inj h] at hbytes
    rw [hscalar, ← hbytes]
    rfl
  · rintro rfl
    exact item_ofWord d w

/-- A tensor is determined by its shape and the array that it holds. -/
theorem WellFormed.eq_of_holds {s : Tensor} (ht : t.WellFormed) (hs : s.WellFormed)
    (hshape : t.shape = s.shape) {d : DType} (hdt : t.dtype = d) (hds : s.dtype = d) {f : Grid d}
    (hft : t.Holds f) (hfs : s.Holds f) : t = s := by
  obtain ⟨shape, dtype, bytes⟩ := t
  obtain ⟨shape', dtype', bytes'⟩ := s
  obtain rfl : shape = shape' := hshape
  obtain rfl : dtype = d := hdt
  obtain rfl : dtype' = dtype := hds
  have hwords : wordsOfBytes dtype' bytes = wordsOfBytes dtype' bytes' := by
    refine List.ext_getElem (ht.length_words.trans hs.length_words.symm) fun k hk hk' => ?_
    obtain ⟨p, hp, rfl⟩ := Shape.exists_place (ht.length_words ▸ hk)
    have hread := (hft p hp).trans (hfs p hp).symm
    rw [element?_eq, element?_eq, List.getElem?_eq_getElem hk, List.getElem?_eq_getElem hk']
      at hread
    exact Option.some.inj hread
  have hread : (⟨shape, dtype', bytes'⟩ : Tensor).words dtype' =
      .ok (wordsOfBytes dtype' bytes) := by
    rw [hwords]
    exact words_eq _
  exact ht.eq_of_words hs rfl (words_eq _) hread

end Elements

/-! ## Scanned tensors -/

/-- The tensor scanned along one of its dimensions. -/
def scanned (t : Tensor) (axis : Nat) (mode : ScanMode) : Tensor where
  shape := t.shape
  dtype := t.dtype
  bytes := bytesOfWords t.dtype
    (mode.scan t.dtype (Extent.along t.shape axis) (wordsOfBytes t.dtype t.bytes))

section Scanned

variable {t : Tensor}

/-- What a scan makes of the elements depends on the shape only through its extent. -/
theorem scanned_eq_of_along {shape : Shape} {axis position : Nat}
    (h : Extent.along shape axis = Extent.along t.shape position) (mode : ScanMode) :
    ({ t with shape := shape } : Tensor).scanned axis mode =
      { t.scanned position mode with shape := shape } := by
  simp only [Tensor.scanned, h]

/-- A scan keeps the number of elements. -/
theorem WellFormed.scanned (h : t.WellFormed) (axis : Nat) (mode : ScanMode) :
    (t.scanned axis mode).WellFormed := by
  obtain ⟨hfits, hlen, hroom⟩ := wellFormed_iff.1 h
  refine wellFormed_iff.2 ⟨hfits, ?_, hroom⟩
  simp only [Tensor.scanned, length_bytesOfWords, ScanMode.length_scan]
  rw [h.length_words]

/-- **The elements of a scanned tensor** are those of the scanned array. -/
theorem Holds.scanned {d : DType} (hd : t.dtype = d) {f : Grid d} (hf : t.Holds f)
    (h : t.WellFormed) {axis : Nat} (haxis : axis < t.rank) (mode : ScanMode) :
    (t.scanned axis mode).Holds (mode.scanGrid d t.shape axis f) := by
  subst hd
  have hwords : ∀ q, t.shape.HasIndex q →
      (wordsOfBytes t.dtype t.bytes)[t.shape.place q]? = some (f q) := by
    intro q hq
    rw [← element?_eq]
    exact hf q hq
  intro p hp
  calc (t.scanned axis mode).element? t.dtype p
      = (mode.scan t.dtype (Extent.along t.shape axis)
          (wordsOfBytes t.dtype t.bytes))[t.shape.place p]? := by
        rw [← wordsOfBytes_bytesOfWords t.dtype (mode.scan _ _ _)]
        exact element?_eq (t.scanned axis mode) p
    _ = some (mode.scanGrid t.dtype t.shape axis f p) :=
        mode.getElem?_scan h.length_words hwords haxis hp

end Scanned

end Tensor

end TensorScan
